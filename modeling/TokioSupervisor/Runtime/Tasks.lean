import TokioSupervisor.Runtime.Slots
import TokioSupervisor.Runtime.Counters

/-!
# One task per child

`Owned` ties the entries of the slab to the tasks that are not joined yet: an entry with an abort
handle has its task in the join set, no other unjoined task carries the keys of a present child, and
`live_tasks` does not fall short of the handles. It is kept as long as instance numbers are not used up
(`instancesLeft`): a number that is given out twice lets the join of a detached task be taken for that
of its successor. Where a restart also finds its child stopped (`restartsStopped`), a child has no
older tasks either, and `live_tasks` is exact.
-/

namespace TokioSupervisor
open Lib SupervisorRuntime

/-! ### Entries and tasks -/

namespace SupervisorRuntime

/-- The handle of an entry is the one of an unjoined task of its incarnation. -/
def Attached (rt : SupervisorRuntime) : Prop :=
  ∀ key e id, rt.children.get key = some e → e.runtime.abortHandle = some id →
    ∃ t ∈ rt.joinSet.tasks, t.id = id ∧ t.info = ⟨key, e.instanceId, e.runtime.generation⟩

namespace Attached
variable {rt rt' : SupervisorRuntime} {key : ChildKey} {e : ChildEntry}

theorem replace (h : rt.Attached) (hjs : rt'.joinSet = rt.joinSet)
    (hfrom : ∀ key e', rt'.children.get key = some e' → ∃ e, rt.children.get key = some e ∧
      e'.instanceId = e.instanceId ∧ e'.runtime.generation = e.runtime.generation ∧
      e'.runtime.abortHandle = e.runtime.abortHandle) : rt'.Attached := by
  intro key e' id he' hid
  obtain ⟨e, he, hi, hg, hh⟩ := hfrom key e' he'
  rw [hjs, hi, hg]
  exact h key e id he (hh ▸ hid)

theorem set {e' : ChildEntry} (h : rt.Attached) (hjs : rt'.joinSet = rt.joinSet)
    (he : rt.children.get key = some e) (hc : rt'.children = rt.children.set key e')
    (hi : e'.instanceId = e.instanceId) (hg : e'.runtime.generation = e.runtime.generation)
    (hh : e'.runtime.abortHandle = e.runtime.abortHandle) : rt'.Attached := by
  refine h.replace hjs fun k f hf => ?_
  rw [hc, Slab.get_set he] at hf
  split at hf
  · rename_i hk
    subst hk
    cases hf
    exact ⟨e, he, hi, hg, hh⟩
  · exact ⟨f, hf, rfl, rfl, rfl⟩

theorem remove (h : rt.Attached) (hjs : rt'.joinSet = rt.joinSet)
    (hc : rt'.children = rt.children.remove key) : rt'.Attached := by
  refine h.replace hjs fun k f hf => ?_
  rw [hc, Slab.get_remove] at hf
  split at hf
  · cases hf
  · exact ⟨f, hf, rfl, rfl, rfl⟩

theorem mapTasks {f : Task → Task} (h : rt.Attached) (hid : ∀ t, (f t).id = t.id)
    (hinfo : ∀ t, (f t).info = t.info) (hjs : rt'.joinSet.tasks = rt.joinSet.tasks.map f)
    (hc : rt'.children = rt.children) : rt'.Attached := by
  intro key e id he hh
  obtain ⟨t, ht, htid, htinfo⟩ := h key e id (hc ▸ he) hh
  rw [hjs]
  exact ⟨f t, List.mem_map_of_mem ht, (hid t).trans htid, (hinfo t).trans htinfo⟩

theorem task_of_handle (h : rt.Attached) (hwf : rt.Wf) {t : Task} (ht : t ∈ rt.joinSet.tasks)
    (he : rt.children.get key = some e) (hh : e.runtime.abortHandle = some t.id) :
    t.info = ⟨key, e.instanceId, e.runtime.generation⟩ := by
  obtain ⟨u, hu, hid, hinfo⟩ := h key e t.id he hh
  rw [← List.inj_on_of_nodup_map hwf.taskNodup hu ht hid]
  exact hinfo

theorem taken {t : Task} (h : rt.Attached) (hjs : rt'.joinSet.tasks = rt.joinSet.tasks.filter (·.id != t.id))
    (hfrom : ∀ key e, rt'.children.get key = some e → e.runtime.abortHandle.isSome = true →
      rt.children.get key = some e ∧ e.runtime.abortHandle ≠ some t.id) : rt'.Attached := by
  intro key e id he hid
  obtain ⟨he, hne⟩ := hfrom key e he (by rw [hid]; rfl)
  obtain ⟨u, hu, huid, hinfo⟩ := h key e id he hid
  refine ⟨u, ?_, huid, hinfo⟩
  rw [hjs, List.mem_filter, bne_iff_ne]
  exact ⟨hu, fun heq => hne (by rw [hid, ← huid, heq])⟩

theorem ignored {t : Task} (h : rt.Attached) (hwf : rt.Wf) (ht : t ∈ rt.joinSet.tasks)
    (hn : ¬ ∃ e, rt.Current t.info e) : (rt.ignored t).Attached := by
  refine h.taken (t := t) rfl fun key e he _ => ⟨he, fun hid => hn ⟨e, ?_⟩⟩
  rw [h.task_of_handle hwf ht he hid]
  exact ⟨he, rfl, rfl⟩

theorem exited {t : Task} (h : rt.Attached) (hwf : rt.Wf) (ht : t ∈ rt.joinSet.tasks)
    (hc : rt.Current t.info e) (outcome : TaskOutcome) : (rt.exited t e outcome).Attached := by
  refine h.taken (t := t) rfl fun key f hf hsome => ?_
  have hf : (rt.children.set t.info.key (e.stopped outcome.status)).get key = some f := hf
  rw [Slab.get_set hc.get] at hf
  split at hf
  · cases hf
    cases hsome
  · rename_i hne
    exact ⟨hf, fun hid => hne (by rw [h.task_of_handle hwf ht hf hid])⟩

theorem spawned (h : rt.Attached) (he : rt.children.get key = some e) : (rt.spawned key e).Attached := by
  intro k f id hf hid
  by_cases hk : k = key
  · subst hk
    rw [spawned_get he] at hf
    cases hf
    cases hid
    exact ⟨_, List.mem_append_right _ (List.mem_singleton_self _), rfl, rfl⟩
  · rw [spawned_get_ne he hk] at hf
    obtain ⟨t, ht, hinfo⟩ := h k f id hf hid
    exact ⟨t, List.mem_append_left _ ht, hinfo⟩

theorem inserted {child : ChildSpec} (h : rt.Attached) (hv : rt.children.vacant key = true) :
    (rt.inserted key child).Attached := by
  intro k f id hf hid
  have hf : (rt.children.insert key (rt.newEntry child)).get k = some f := hf
  rw [Slab.get_insert hv] at hf
  split at hf
  · cases hf
    cases hid
  · exact h k f id hf hid

theorem cancelRunningChildren (h : rt.Attached) (hwf : rt.Wf) : rt.cancelRunningChildren.Attached := by
  obtain ⟨C, n, heq, hget, -⟩ := hwf.cancelRunningChildren
  rw [heq]
  refine h.replace rfl fun key e' he' => ?_
  have he' : C.get key = some e' := he'
  rw [hget, Option.map_eq_some_iff] at he'
  obtain ⟨e, he, rfl⟩ := he'
  refine ⟨e, he, ?_⟩
  unfold ChildEntry.stopping
  split <;> exact ⟨rfl, rfl, rfl⟩

end Attached

/-- The tasks not yet joined belong to the entries as their handles say; each child has at most one
if `single` holds. -/
structure Owned (rt : SupervisorRuntime) (single : Prop) : Prop where
  handle : ∀ key e id, rt.children.get key = some e → e.runtime.abortHandle = some id →
    ∃ t ∈ rt.joinSet.tasks, t.id = id ∧ t.info = ⟨key, e.instanceId, e.runtime.generation⟩
  taskLt : ∀ t ∈ rt.joinSet.tasks, t.info.instanceId < rt.nextChildInstance
  entryLt : ∀ key e, rt.children.get key = some e →
    e.instanceId < rt.nextChildInstance ∧ e.runtime.generation ≤ U64_MAX
  current : ∀ t ∈ rt.joinSet.tasks, ∀ e, rt.children.get t.info.key = some e →
    e.instanceId = t.info.instanceId → t.info.generation ≤ e.runtime.generation ∧
      (single ∨ t.info.generation = e.runtime.generation → e.runtime.abortHandle = some t.id)
  live : rt.children.count ChildEntry.live ≤ rt.liveTasks ∧
    (single → rt.liveTasks = rt.children.count ChildEntry.live)

namespace Owned
variable {rt : SupervisorRuntime} {single : Prop}

theorem attached (h : rt.Owned single) : rt.Attached := h.handle

theorem handle_of_current (h : rt.Owned single) {t : Task} {e : ChildEntry}
    (ht : t ∈ rt.joinSet.tasks) (hc : rt.Current t.info e) : e.runtime.abortHandle = some t.id :=
  (h.current t ht e hc.get hc.instanceId).2 (.inr hc.generation.symm)

theorem replace (h : rt.Owned single) {children : Slab ChildEntry}
    (hfrom : ∀ key e', children.get key = some e' → ∃ e, rt.children.get key = some e ∧
      e'.instanceId = e.instanceId ∧ e'.runtime.generation = e.runtime.generation ∧
      e'.runtime.abortHandle = e.runtime.abortHandle)
    (hlive : children.count ChildEntry.live = rt.children.count ChildEntry.live) :
    ({ rt with children } : SupervisorRuntime).Owned single := by
  refine ⟨h.attached.replace rfl hfrom, h.taskLt, fun key e' he' => ?_, fun t ht e' he' hinst => ?_, ?_⟩
  · obtain ⟨e, he, hi, hg, -⟩ := hfrom key e' he'
    rw [hi, hg]
    exact h.entryLt key e he
  · obtain ⟨e, he, hi, hg, hh⟩ := hfrom _ e' he'
    rw [hg, hh]
    exact h.current t ht e he (hi ▸ hinst)
  · show children.count ChildEntry.live ≤ rt.liveTasks ∧ (single → rt.liveTasks = children.count ChildEntry.live)
    rw [hlive]
    exact h.live

theorem setEntry (h : rt.Owned single) {key : ChildKey} {e e' : ChildEntry}
    (he : rt.children.get key = some e) (hi : e'.instanceId = e.instanceId)
    (hg : e'.runtime.generation = e.runtime.generation)
    (hh : e'.runtime.abortHandle = e.runtime.abortHandle) : (rt.setEntry key e').Owned single := by
  refine h.replace (fun k f hf => ?_) ?_
  · rw [Slab.get_set he] at hf
    split at hf
    · rename_i hk; subst hk; cases hf; exact ⟨e, he, hi, hg, hh⟩
    · exact ⟨f, hf, rfl, rfl, rfl⟩
  · have hcount := Slab.count_set ChildEntry.live he e'
    have hlive : e'.live = e.live := by simp [ChildEntry.live, hh]
    rw [hlive] at hcount
    omega

theorem requested (h : rt.Owned single) (reply : Nat) {key : ChildKey} {e : ChildEntry}
    (he : rt.children.get key = some e) : (rt.requested reply key e).Owned single := by
  have : (rt.setEntry key e.requested).Owned single := h.setEntry he rfl rfl rfl
  exact ⟨this.handle, this.taskLt, this.entryLt, this.current, this.live⟩

theorem mapTasks (h : rt.Owned single) {f : Task → Task} (hid : ∀ t, (f t).id = t.id)
    (hinfo : ∀ t, (f t).info = t.info) :
    ({ rt with joinSet := { rt.joinSet with tasks := rt.joinSet.tasks.map f } } :
      SupervisorRuntime).Owned single := by
  refine ⟨h.attached.mapTasks hid hinfo rfl rfl, fun t ht => ?_, h.entryLt, fun t ht e he hinst => ?_,
    h.live⟩
  · obtain ⟨u, hu, rfl⟩ := List.mem_map.1 ht
    rw [hinfo]
    exact h.taskLt u hu
  · obtain ⟨u, hu, rfl⟩ := List.mem_map.1 ht
    rw [hinfo] at he hinst
    rw [hid, hinfo]
    exact h.current u hu e he hinst

theorem abortedChild (h : rt.Owned single) (e : ChildEntry) : (rt.abortedChild e).Owned single := by
  unfold SupervisorRuntime.abortedChild
  split
  · exact h
  · have := h.mapTasks (f := fun t => if t.id = ‹TaskId› then { t with abortRequested := true } else t)
      (fun t => by split <;> rfl) (fun t => by split <;> rfl)
    exact ⟨this.handle, this.taskLt, this.entryLt, this.current, this.live⟩

theorem ignored (h : rt.Owned single) (hwf : rt.Wf) {t : Task} (ht : t ∈ rt.joinSet.tasks)
    (hn : ¬ ∃ e, rt.Current t.info e) : (rt.ignored t).Owned single := by
  exact ⟨h.attached.ignored hwf ht hn, fun u hu => h.taskLt u (List.mem_of_mem_filter hu), h.entryLt,
    fun u hu e he hinst => h.current u (List.mem_of_mem_filter hu) e he hinst, h.live⟩

theorem exited (h : rt.Owned single) (hwf : rt.Wf) {t : Task} {e : ChildEntry} (ht : t ∈ rt.joinSet.tasks)
    (hc : rt.Current t.info e) (outcome : TaskOutcome) : (rt.exited t e outcome).Owned single := by
  have hh := h.handle_of_current ht hc
  have hget : ∀ k, (rt.exited t e outcome).children.get k =
      if t.info.key = k then some (e.stopped outcome.status) else rt.children.get k :=
    Slab.get_set hc.get _
  have hnext : (rt.exited t e outcome).nextChildInstance = rt.nextChildInstance := rfl
  refine ⟨h.attached.exited hwf ht hc outcome, fun u hu => ?_, fun key f hf => ?_,
    fun u hu f hf hinst => ?_, ?_⟩
  · rw [hnext]
    exact h.taskLt u (List.mem_of_mem_filter hu)
  · rw [hget] at hf
    rw [hnext]
    split at hf
    · cases hf; exact h.entryLt _ e hc.get
    · exact h.entryLt key f hf
  · obtain ⟨hu, hne⟩ := List.mem_filter.1 hu
    rw [hget] at hf
    split at hf
    · rename_i hk
      cases hf
      obtain ⟨hle, hcur⟩ := h.current u hu e (hk ▸ hc.get) hinst
      refine ⟨hle, fun hx => ?_⟩
      have hid := hcur hx
      rw [hh] at hid
      exact absurd (Option.some.inj hid).symm (by simpa using hne)
    · exact h.current u hu f hf hinst
  · have hcount := Slab.count_set ChildEntry.live hc.get (e.stopped outcome.status)
    have hlive : e.live = true := by simp [ChildEntry.live, hh]
    have hnot : (e.stopped outcome.status).live = false := rfl
    rw [hlive, hnot] at hcount
    simp only [if_true, Bool.false_eq_true, if_false] at hcount
    have hl := h.live
    show (rt.children.set t.info.key (e.stopped outcome.status)).count _ ≤ rt.liveTasks - 1 ∧
      (single → rt.liveTasks - 1 = (rt.children.set t.info.key (e.stopped outcome.status)).count _)
    refine ⟨by omega, fun hx => ?_⟩
    rw [hl.2 hx]
    omega

theorem finalized (h : rt.Owned single) {key : ChildKey} {e : ChildEntry}
    (he : rt.children.get key = some e) : (rt.finalized key e).Owned single := by
  have hget : ∀ k f, (rt.finalized key e).children.get k = some f → rt.children.get k = some f := by
    intro k f hf
    have hrem : (rt.children.remove key).get k = some f := hf
    rw [Slab.get_remove] at hrem
    split at hrem
    · cases hrem
    · exact hrem
  refine ⟨h.attached.remove rfl rfl, h.taskLt, fun k f hf => h.entryLt k f (hget k f hf),
    fun t ht f hf hinst => h.current t ht f (hget _ f hf) hinst, ?_⟩
  have hcount := Slab.count_remove ChildEntry.live he
  have hl := h.live
  show (rt.children.remove key).count _ ≤ rt.liveTasks - (if e.live then 1 else 0) ∧
    (single → rt.liveTasks - (if e.live then 1 else 0) = (rt.children.remove key).count _)
  refine ⟨by omega, fun hx => ?_⟩
  rw [hl.2 hx]
  omega

theorem spawned (h : rt.Owned single) {key : ChildKey} {e : ChildEntry}
    (he : rt.children.get key = some e) (hn : single → e.runtime.abortHandle = none)
    (hg : e.runtime.abortHandle = none ∨ e.runtime.generation < e.nextGeneration) :
    (rt.spawned key e).Owned single := by
  have hmem : ∀ u, u ∈ (rt.spawned key e).joinSet.tasks ↔ u ∈ rt.joinSet.tasks ∨
      u = ⟨rt.joinSet.nextId, ⟨key, e.instanceId, e.nextGeneration⟩, false, none⟩ := by
    intro u
    show u ∈ rt.joinSet.tasks ++ [_] ↔ _
    rw [List.mem_append, List.mem_singleton]
  obtain ⟨hinstLt, hgen⟩ := h.entryLt key e he
  have hnext : e.runtime.generation ≤ e.nextGeneration ∧ e.nextGeneration ≤ U64_MAX := by
    unfold ChildEntry.nextGeneration
    split
    · exact ⟨le_saturatingSucc hgen, saturatingSucc_le _⟩
    · exact ⟨Nat.le_refl _, hgen⟩
  refine ⟨h.attached.spawned he, fun u hu => ?_, fun k f hf => ?_, fun u hu f hf hinst => ?_, ?_⟩
  · rcases (hmem u).1 hu with hu | rfl
    · exact h.taskLt u hu
    · exact hinstLt
  · by_cases hk : k = key
    · subst hk; rw [spawned_get he] at hf; cases hf; exact ⟨hinstLt, hnext.2⟩
    · rw [spawned_get_ne he hk] at hf; exact h.entryLt k f hf
  · rcases (hmem u).1 hu with hu | rfl
    · by_cases hk : u.info.key = key
      · rw [hk, spawned_get he] at hf
        cases hf
        obtain ⟨hle, hcur⟩ := h.current u hu e (hk ▸ he) hinst
        refine ⟨Nat.le_trans hle hnext.1, fun hx => absurd hx ?_⟩
        -- an older task of this child has an older generation
        rintro (hx | hx)
        · rw [hn hx] at hcur
          exact absurd (hcur (.inl hx)) nofun
        · have hx : u.info.generation = e.nextGeneration := hx
          rcases hg with hnone | hlt
          · rw [hnone] at hcur
            exact absurd (hcur (.inr (by omega))) nofun
          · omega
      · rw [spawned_get_ne he hk] at hf
        exact h.current u hu f hf hinst
    · rw [spawned_get he] at hf
      cases hf
      exact ⟨Nat.le_refl _, fun _ => rfl⟩
  · have hcount := Slab.count_set ChildEntry.live he
      (e.started (rt.tokens.childToken rt.groupToken).1 rt.nestedStates.length rt.joinSet.nextId)
    have hlive : (e.started (rt.tokens.childToken rt.groupToken).1 rt.nestedStates.length
      rt.joinSet.nextId).live = true := rfl
    have hl := h.live
    rw [hlive] at hcount
    simp only [if_true] at hcount
    show (rt.children.set key _).count _ ≤ rt.liveTasks + 1 ∧
      (single → rt.liveTasks + 1 = (rt.children.set key _).count _)
    refine ⟨by split at hcount <;> omega, fun hx => ?_⟩
    have hnot : e.live = false := by simp [ChildEntry.live, hn hx]
    rw [hnot] at hcount
    simp only [Bool.false_eq_true, if_false] at hcount
    rw [hl.2 hx]
    omega

theorem inserted (h : rt.Owned single) {key : ChildKey} (hk : rt.children.vacant key = true)
    (hlt : rt.nextChildInstance < U64_MAX) (child : ChildSpec) : (rt.inserted key child).Owned single := by
  have hnext : (rt.inserted key child).nextChildInstance = rt.nextChildInstance + 1 :=
    saturatingSucc_of_lt hlt
  have hget : ∀ k, (rt.inserted key child).children.get k =
      if key = k then some (rt.newEntry child) else rt.children.get k := Slab.get_insert hk _
  refine ⟨h.attached.inserted hk, fun t ht => ?_, fun k f hf => ?_, fun t ht f hf hinst => ?_, ?_⟩
  · rw [hnext]
    exact Nat.lt_succ_of_lt (h.taskLt t ht)
  · rw [hnext]
    rw [hget] at hf
    split at hf
    · cases hf; exact ⟨Nat.lt_succ_self _, Nat.zero_le _⟩
    · obtain ⟨hlt, hgen⟩ := h.entryLt k f hf
      exact ⟨Nat.lt_succ_of_lt hlt, hgen⟩
  · rw [hget] at hf
    split at hf
    · cases hf
      exact absurd hinst (Nat.ne_of_gt (h.taskLt t ht))
    · exact h.current t ht f hf hinst
  · have hcount := Slab.count_insert ChildEntry.live hk (rt.newEntry child)
    have hnot : (rt.newEntry child).live = false := rfl
    rw [hnot] at hcount
    show (rt.children.insert key _).count _ ≤ rt.liveTasks ∧
      (single → rt.liveTasks = (rt.children.insert key _).count _)
    rw [show (rt.children.insert key (rt.newEntry child)).count ChildEntry.live =
      rt.children.count ChildEntry.live by simpa using hcount]
    exact h.live

theorem cancelRunningChildren (h : rt.Owned single) (hwf : rt.Wf) : rt.cancelRunningChildren.Owned single := by
  obtain ⟨C, n, heq, hget, -, hlive, -⟩ := hwf.cancelRunningChildren
  have := h.replace (fun key e' he' => ?_) hlive
  · rw [heq]
    exact ⟨this.handle, this.taskLt, this.entryLt, this.current, this.live⟩
  · rw [hget, Option.map_eq_some_iff] at he'
    obtain ⟨e, he, rfl⟩ := he'
    refine ⟨e, he, ?_⟩
    unfold ChildEntry.stopping
    split <;> exact ⟨rfl, rfl, rfl⟩

theorem restarted (h : rt.Owned single) {key : ChildKey} {e : ChildEntry}
    (he : rt.children.get key = some e) (hn : single → e.runtime.abortHandle = none)
    (hg : e.runtime.abortHandle = none ∨ e.runtime.generation < e.nextGeneration) :
    (rt.restarted key e).Owned single := by
  have := h.spawned he hn hg
  exact ⟨this.handle, this.taskLt, this.entryLt, this.current, this.live⟩

theorem added (h : rt.Owned single) {key : ChildKey} (hk : rt.children.vacant key = true)
    (hlt : rt.nextChildInstance < U64_MAX) (child : ChildSpec) : (rt.added key child).Owned single :=
  (h.inserted hk hlt child).spawned (inserted_get hk child) (fun _ => rfl) (.inl rfl)

end Owned

theorem Fresh.unborn_handle {rt : SupervisorRuntime} (h : rt.Fresh) {key : ChildKey} {e : ChildEntry}
    (he : rt.children.get key = some e) : e.runtime.abortHandle = none := by
  simpa [(h.unborn key e he).state] using (h.wf.ok he).handle

theorem Fresh.live {rt : SupervisorRuntime} (h : rt.Fresh) :
    rt.liveTasks = rt.children.count ChildEntry.live := by
  rw [h.liveTasks, eq_comm, Slab.count_eq_zero]
  intro key e he
  simp [ChildEntry.live, h.unborn_handle he]

theorem Fresh.owned {rt : SupervisorRuntime} (h : rt.Fresh) (hlt : rt.nextChildInstance < U64_MAX)
    (single : Prop) : rt.Owned single := by
  refine ⟨fun key e id he hid => ?_, by simp [h.joinSet, JoinSet.empty], fun key e he => ?_,
    by simp [h.joinSet, JoinSet.empty], Nat.le_of_eq h.live.symm, fun _ => h.live⟩
  · rw [h.unborn_handle he] at hid; cases hid
  · rw [(h.unborn key e he).generation]
    exact ⟨h.instLt hlt key e he, Nat.zero_le _⟩

/-! ### Drained groups -/

/-- Every child is stopped. -/
def Quiet (rt : SupervisorRuntime) : Prop :=
  ∀ key e, rt.children.get key = some e → e.runtime.state = .stopped ∧ e.runtime.abortHandle = none

theorem quiet_of_stopped {rt : SupervisorRuntime} (hwf : rt.Wf)
    (h : ∀ key e, rt.children.get key = some e → e.runtime.state = .stopped) : rt.Quiet :=
  fun key e he => ⟨h key e he, by simpa [h key e he] using (hwf.ok he).handle⟩

theorem quiet_of_activeTaskNames {rt : SupervisorRuntime} (hwf : rt.Wf)
    (h : rt.activeTaskNames.isEmpty = true) : rt.Quiet := by
  refine quiet_of_stopped hwf fun key e he => ?_
  rw [activeTaskNames, hwf.collectChildNames_isEmpty, List.filter_eq_nil_iff] at h
  have := h e (Slab.mem_iter.2 ⟨key, he⟩)
  simpa [RuntimeChildState.isActive, (hwf.ok he).membership] using this

theorem Owned.quiet_of_liveTasks {rt : SupervisorRuntime} {single : Prop} (h : rt.Owned single)
    (hwf : rt.Wf) (hl : rt.liveTasks = 0) : rt.Quiet := by
  refine quiet_of_stopped hwf fun key e he => ?_
  have hzero : rt.children.count ChildEntry.live = 0 := Nat.eq_zero_of_le_zero (hl ▸ h.live.1)
  have hlive : e.runtime.abortHandle.isSome = false := Slab.count_eq_zero.1 hzero key e he
  by_contra hs
  rw [(hwf.ok he).handle.2 hs] at hlive
  cases hlive

/-- Every child is stopped when every task has been joined. -/
theorem Owned.quiet_of_isEmpty {rt : SupervisorRuntime} {single : Prop} (h : rt.Owned single)
    (hwf : rt.Wf) (hj : rt.joinSet.isEmpty = true) : rt.Quiet := by
  refine quiet_of_stopped hwf fun key e he => ?_
  by_contra hs
  obtain ⟨id, hid⟩ := Option.isSome_iff_exists.1 ((hwf.ok he).handle.2 hs)
  obtain ⟨t, ht, -⟩ := h.handle key e id he hid
  rw [List.isEmpty_iff.1 hj] at ht
  cases ht

theorem Owned.liveTasks_of_quiet {rt : SupervisorRuntime} (h : rt.Owned True) (hq : rt.Quiet) :
    rt.liveTasks = 0 := by
  rw [h.live.2 trivial, Slab.count_eq_zero]
  intro key e he
  simp [ChildEntry.live, (hq key e he).2]

end SupervisorRuntime

/-- The drain of a group restart has succeeded. -/
inductive Ctrl.GroupDrained : Ctrl → Prop
  | drain {k : Stack (.drainChildren .groupRestart)} : GroupDrained (.ret k (.ok ()))
  | group {k : Stack .drainForGroupRestart} : GroupDrained (.ret k (.ok ()))

theorem DrainNext.drained {rt rt' : SupervisorRuntime} {reason : DrainReason}
    {k : Stack (.drainChildren reason)} {ctrl' : Ctrl} (h : DrainNext rt reason k rt' ctrl')
    (hg : ctrl'.GroupDrained) : rt'.liveTasks = 0 ∨ rt'.activeTaskNames.isEmpty = true := by
  cases h with
  | done hd => exact hd
  | _ => cases hg

theorem Rule.drained {rt rt' : SupervisorRuntime} {ctrl ctrl' : Ctrl} {a : Act}
    (h : Rule rt ctrl a rt' ctrl') (hg : ctrl'.GroupDrained) :
    ctrl.GroupDrained ∧ rt'.children = rt.children ∨
      rt'.liveTasks = 0 ∨ rt'.activeTaskNames.isEmpty = true := by
  cases h with
  | env h => exact .inl ⟨hg, (envStep_frame h).children⟩
  | move h =>
    cases h with
    | removalShutdownOk hr => cases hr <;> cases hg
    | removalJoinOk hr => cases hr <;> cases hg
    | groupDrain v => cases hg; exact .inl ⟨.drain, rfl⟩
    | _ => cases hg
  | loop hc hl => rcases hl.ctrl with ⟨_, rfl⟩ | rfl <;> cases hg
  | start hl => rcases hl.ctrl with ⟨_, rfl⟩ | rfl <;> cases hg
  | command hh hv hq ho => cases ho <;> cases hg
  | join hh hf ho => cases ho <;> cases hg
  | drainJoin hf hd hn => exact .inr (hn.drained hg)
  | drainNext hd hn => exact .inr (hn.drained hg)
  | removalSeen hr => cases hr <;> cases hg
  | _ => cases hg

/-! ### Runs -/

/-- When the delay of a restart is over, the child it goes on to spawn is stopped. -/
def restartsStopped (c : Config) : Bool :=
  match c.ctrl with
  | .ret (.push (.oneForOneDelay key _) _) (.ok true) =>
    (c.rt.children.get key).all fun e => e.membership != .active || e.runtime.state == .stopped
  | _ => true

/-- Where it is not, its next generation is a new one. -/
def restartsTold (c : Config) : Bool :=
  match c.ctrl with
  | .ret (.push (.oneForOneDelay key _) _) (.ok true) =>
    (c.rt.children.get key).all fun e => e.membership != .active || e.runtime.state == .stopped ||
      decide (e.runtime.generation < U64_MAX)
  | _ => true

/-- The instance counter has not saturated. -/
def instancesLeft (c : Config) : Bool := decide (c.rt.nextChildInstance < U64_MAX)

theorem restartsTold_of_stopped {c : Config} (h : restartsStopped c = true) : restartsTold c = true := by
  unfold restartsStopped at h
  unfold restartsTold
  split at h
  · rw [Option.all_eq_true] at h ⊢
    intro e he
    rw [h e he, Bool.true_or]
  · rfl

theorem Config.Sane.started_ret {c : Config} (h : c.Sane) {fn : Fn} {k : Stack fn} {v : fn.Value}
    (hc : c.ctrl = .ret k v) : c.rt.Started := by
  rcases h.started with hs | ⟨p, hp⟩ | hst
  · rw [hc] at hs; cases hs
  · rw [hc] at hp; cases hp
  · exact hst

theorem Update.owned {c c' : Config} {a : Act} {rt rt' : SupervisorRuntime} {single : Prop}
    (h : Update c a c' rt rt') (hs : c.Sane) (hsingle : single → restartsStopped c = true)
    (htold : restartsTold c = true) (hleft : instancesLeft c = true)
    (hstart : c.ctrl = .await .runStart .nil → c.Untouched)
    (hgroup : c.ctrl.GroupDrained → c.rt.Quiet) (hwf : rt.Wf) (hI : rt.Owned single) :
    rt'.Owned single := by
  cases h with
  | tasks f hid hinfo => exact hI.mapTasks hid hinfo
  | entry he hs => exact hI.setEntry he hs.instanceId hs.generation hs.abortHandle
  | terminated g he _ _ => exact hI.setEntry he (by simp) (by simp) (by simp)
  | requested reply he _ _ _ _ _ => exact hI.requested reply he
  | removed reply he _ _ _ _ => exact (hI.requested reply he).finalized (requested_get reply he)
  | @cancelled key e he _ =>
    unfold SupervisorRuntime.cancelledChild
    split
    · exact hI
    · exact ⟨hI.handle, hI.taskLt, hI.entryLt, hI.current, hI.live⟩
  | aborted he _ => exact hI.abortedChild _
  | ignored hf hn => exact hI.ignored hwf hf.mem hn
  | exited _ _ hf hc => exact hI.exited hwf hf.mem hc _
  | finalized he _ _ => exact hI.finalized he
  | detached he _ _ => exact hI.finalized he
  | @started key e k he he₀ hc =>
    cases k with
    | push f k => cases f
    | nil =>
      have hu := (hstart hc).unborn key e he₀
      have hnone : e.runtime.abortHandle = none := by simpa [hu.state] using (hwf.ok he).handle
      exact hI.spawned he (fun _ => hnone) (.inl hnone)
  | added hv _ hn _ =>
    exact hI.added hv (by rw [hn]; simpa [instancesLeft] using hleft) _
  | @respawned key e _ _ he hm hrt hc =>
    subst hrt
    have hnone (hst : e.runtime.state = .stopped) : e.runtime.abortHandle = none := by
      simpa [hst] using (hwf.ok he).handle
    refine hI.restarted he (fun hx => hnone ?_) ?_
    · simpa [restartsStopped, hc, he, hm] using hsingle hx
    · have htold : e.runtime.state = .stopped ∨ e.runtime.generation < U64_MAX := by
        simpa [restartsTold, hc, he, hm] using htold
      refine htold.imp hnone fun hlt => ?_
      rw [ChildEntry.nextGeneration, hs.started_ret hc key e he, if_pos rfl, saturatingSucc_of_lt hlt]
      exact Nat.lt_succ_self _
  | groupRespawned he he₀ _ hc =>
    have hnone := (hgroup (by rw [hc]; exact .group) _ _ he₀).2
    exact hI.restarted he (fun _ => hnone) (.inl hnone)
  | cancelledAll _ => exact hI.cancelRunningChildren hwf
  | _ => exact ⟨hI.handle, hI.taskLt, hI.entryLt, hI.current, hI.live⟩

section
variable {config : SupervisorConfig} {env : StartEnv} {as : List Act} {c : Config}
  {ok : Config → Act → Prop}

/-- `Owned` along a run, with what it says at the end of a group drain. -/
theorem run_owned {single : Prop} (h : config.Accepted)
    (hok : ∀ c a, ok c a → (single → restartsStopped c = true) ∧ restartsTold c = true ∧
      instancesLeft c = true)
    (hlt : (SupervisorRuntime.new config env).nextChildInstance < U64_MAX)
    (hrun : Run step ok (Config.start config env) as c) :
    c.rt.Owned single ∧ (c.ctrl.GroupDrained → c.rt.Quiet) := by
  refine hrun.invariant_of (I := fun c => c.rt.Owned single ∧ (c.ctrl.GroupDrained → c.rt.Quiet))
    (J := fun c => c.Sane ∧ (c.ctrl = .await .runStart .nil → c.Untouched))
    (fun _ _ h' => ⟨run_sane h h', run_untouched h h'⟩) ⟨(h.fresh env).owned hlt single, nofun⟩ ?_
  intro c a c' ⟨hs, hstart⟩ ⟨hI, hgroup⟩ ha hstep
  have hr := step_rule hs hstep
  obtain ⟨hsingle, htold, hleft⟩ := hok c a ha
  obtain ⟨hwf', hI'⟩ := (hr.updates hs.wf).invariant hs.wf hI
    fun rt rt' hwf hI hu => hu.owned hs hsingle htold hleft hstart hgroup hwf hI
  refine ⟨hI', fun hg => ?_⟩
  rcases hr.drained hg with ⟨hg, hch⟩ | hl | hn
  · unfold Quiet
    rw [hch]
    exact hgroup hg
  · exact hI'.quiet_of_liveTasks hwf' hl
  · exact quiet_of_activeTaskNames hwf' hn

/-- `Owned` along a run whose restarts find their child stopped. -/
theorem run_single (h : config.Accepted)
    (hok : ∀ c a, ok c a → restartsStopped c = true ∧ instancesLeft c = true)
    (hlt : (SupervisorRuntime.new config env).nextChildInstance < U64_MAX)
    (hrun : Run step ok (Config.start config env) as c) :
    c.rt.Owned True ∧ (c.ctrl.GroupDrained → c.rt.Quiet) :=
  run_owned h (fun c a ha => ⟨fun _ => (hok c a ha).1, restartsTold_of_stopped (hok c a ha).1,
    (hok c a ha).2⟩) hlt hrun

/-- At most one unjoined task for each child, and the handles and the counter agree with it. -/
structure SupervisorRuntime.SingleTask (rt : SupervisorRuntime) : Prop where
  task : ∀ key e, rt.children.get key = some e →
    (rt.joinSet.tasks.filter fun t => t.info.key == key && t.info.instanceId == e.instanceId).length ≤ 1
  handle : ∀ key e, rt.children.get key = some e →
    (e.runtime.state ≠ .stopped ↔ e.runtime.abortHandle.isSome = true)
  live : rt.liveTasks = rt.children.count ChildEntry.live

theorem filter_length_le_one {l : List Task} {p : Task → Bool} (hn : (l.map (·.id)).Nodup)
    (h : ∀ t ∈ l, ∀ u ∈ l, p t = true → p u = true → t.id = u.id) : (l.filter p).length ≤ 1 := by
  have hsub : ((l.filter p).map (·.id)).Nodup := hn.sublist (List.filter_sublist.map _)
  have hmem : ∀ t ∈ l.filter p, t ∈ l ∧ p t = true := fun t ht => List.mem_filter.1 ht
  match hl : l.filter p with
  | [] | [_] => simp
  | t :: u :: _ =>
    rw [hl] at hsub hmem
    have ht := hmem t List.mem_cons_self
    have hu := hmem u (List.mem_cons_of_mem _ List.mem_cons_self)
    simp [h t ht.1 u hu.1 ht.2 hu.2] at hsub

theorem SupervisorRuntime.Owned.singleTask {rt : SupervisorRuntime} (h : rt.Owned True) (hwf : rt.Wf) :
    rt.SingleTask := by
  refine ⟨fun key e he => ?_, fun key e he => (hwf.ok he).handle.symm, h.live.2 trivial⟩
  have hh : ∀ t ∈ rt.joinSet.tasks, (t.info.key == key && t.info.instanceId == e.instanceId) = true →
      e.runtime.abortHandle = some t.id := fun t ht hp => by
    simp only [Bool.and_eq_true, beq_iff_eq] at hp
    exact (h.current t ht e (hp.1 ▸ he) hp.2.symm).2 (.inl trivial)
  refine filter_length_le_one hwf.taskNodup fun t ht u hu hpt hpu => ?_
  exact Option.some.inj ((hh t ht hpt).symm.trans (hh u hu hpu))

theorem SupervisorRuntime.Fresh.singleTask {rt : SupervisorRuntime} (h : rt.Fresh) :
    rt.SingleTask := by
  exact ⟨by simp [h.joinSet, JoinSet.empty], fun key e he => (h.wf.ok he).handle.symm, h.live⟩

/-- Each child has at most one task in every configuration of a run whose restarts find their child
stopped, as long as the instance numbers last. -/
theorem run_singleTask {config : SupervisorConfig} {env : StartEnv} {as : List Act} {c : Config}
    (h : config.Accepted)
    (hrun : Run step (fun c _ => restartsStopped c = true ∧ instancesLeft c = true)
      (Config.start config env) as c) : c.rt.SingleTask := by
  rcases hrun.ok_start with rfl | ⟨a, -, hleft⟩
  · exact (h.fresh env).singleTask
  · have hI := run_single h (fun _ _ hok => hok) (of_decide_eq_true hleft) hrun
    exact hI.1.singleTask (run_sane h hrun).wf

end

/-! ### A key that is reused under a waiting restart -/

/-- `a` fails and is removed during its delay; `d` takes its key and is running when the delay
ends. -/
def respawnActs : List Act :=
  [.run .go, .finish 0 (.returned (.error "failed")), .run (.join 0), .send (.removeChild "a" 0),
   .run (.command 2), .resume, .resume, .send (.addChild (cooperativeChild "d") 1), .run (.command 0),
   .resume, .tick (2 * NANOS_PER_SEC) 0, .run .timer, .resume]

/-- Two entries, but three tasks: the restart of `a` has spawned a second one for `d`. -/
theorem second_task_reached :
    slotConfig.Accepted ∧ ∃ c, AnyRun step (Config.start slotConfig ⟨false, 0, 0⟩) respawnActs c ∧
      ¬ c.rt.SingleTask := by
  have hex : ∃ c, AnyRun step (Config.start slotConfig ⟨false, 0, 0⟩) respawnActs c ∧
      (c.rt.liveTasks, c.rt.children.count ChildEntry.live) = (3, 2) :=
    anyRun_of_exec (by decide +kernel)
  obtain ⟨c, hrun, hc⟩ := hex
  refine ⟨slotConfig_accepted, c, hrun, fun h => ?_⟩
  have hlive := h.live
  rw [(Prod.mk.inj hc).1, (Prod.mk.inj hc).2] at hlive
  exact absurd hlive (by decide)

/-- A restart that finds its child stopped leaves one task for each. -/
theorem run_singleTask_restart : ∃ c : Config, c.rt.liveTasks = 2 ∧ c.rt.SingleTask := by
  have hex : ∃ c, Run step (fun c _ => (restartsStopped c && instancesLeft c) = true)
      (Config.start slotConfig ⟨false, 0, 0⟩) [.run .go, .finish 0 (.returned (.error "failed")),
        .run (.join 0), .tick (2 * NANOS_PER_SEC) 0, .run .timer, .resume] c ∧
      c.rt.liveTasks = 2 := run_of_execIf_map (by decide +kernel)
  obtain ⟨c, hrun, hc⟩ := hex
  exact ⟨c, hc, run_singleTask slotConfig_accepted (hrun.mono fun _ _ => (Bool.and_eq_true _ _).mp)⟩

end TokioSupervisor
