import TokioSupervisor.Runtime.Tasks
import TokioSupervisor.Runtime.Errors

/-!
# Incarnations

A task is told from the others by the pair of its instance and generation, and a join is accepted by
this pair. `Numbered` says that the two counters do their work: instances of present children are
distinct and below the next one, and a child has the generation of its newest task. It holds while
fewer than `2^64` tasks have been spawned, one for each insertion and each restart, although slab keys
are reused and a restart may spawn over a task that still runs (`run_incarnations`).
-/

namespace TokioSupervisor
open Lib SupervisorRuntime

/-! ### What an update makes of the tasks -/

theorem Spawns.joinSet {c : Config} {rt rt' : SupervisorRuntime} {key : ChildKey} {e : ChildEntry}
    (h : Spawns c rt key e rt') :
    rt'.joinSet = rt.joinSet.spawn ⟨key, e.instanceId, e.nextGeneration⟩ := by
  cases h <;> rfl

/-- No task and no entry is new, and the ones that are left keep their numbers. -/
structure KeepsNumbers (rt rt' : SupervisorRuntime) : Prop where
  nextId : rt'.joinSet.nextId = rt.joinSet.nextId
  tasks : ∀ t ∈ rt'.joinSet.tasks, ∃ u ∈ rt.joinSet.tasks, u.id = t.id ∧ u.info = t.info
  nextChildInstance : rt'.nextChildInstance = rt.nextChildInstance
  entries : ∀ key e', rt'.children.get key = some e' → ∃ e, rt.children.get key = some e ∧
    e'.instanceId = e.instanceId ∧ e'.runtime.generation = e.runtime.generation ∧
    e'.runtime.hasStarted = e.runtime.hasStarted

namespace KeepsNumbers
variable {rt rt' rt'' : SupervisorRuntime}

theorem same (hjs : rt'.joinSet = rt.joinSet) (hn : rt'.nextChildInstance = rt.nextChildInstance)
    (hc : rt'.children = rt.children) : KeepsNumbers rt rt' :=
  ⟨by rw [hjs], fun t ht => ⟨t, hjs ▸ ht, rfl, rfl⟩, hn, fun _ e he => ⟨e, hc ▸ he, rfl, rfl, rfl⟩⟩

theorem trans (h₁ : KeepsNumbers rt rt') (h₂ : KeepsNumbers rt' rt'') : KeepsNumbers rt rt'' := by
  refine ⟨h₂.nextId.trans h₁.nextId, fun t ht => ?_, h₂.nextChildInstance.trans h₁.nextChildInstance,
    fun key e'' he'' => ?_⟩
  · obtain ⟨u, hu, hid, hinfo⟩ := h₂.tasks t ht
    obtain ⟨v, hv, hid', hinfo'⟩ := h₁.tasks u hu
    exact ⟨v, hv, hid'.trans hid, hinfo'.trans hinfo⟩
  · obtain ⟨e', he', hi, hg, hst⟩ := h₂.entries key e'' he''
    obtain ⟨e, he, hi', hg', hst'⟩ := h₁.entries key e' he'
    exact ⟨e, he, hi.trans hi', hg.trans hg', hst.trans hst'⟩

theorem setEntry {key : ChildKey} {e e' : ChildEntry} (he : rt.children.get key = some e)
    (hi : e'.instanceId = e.instanceId) (hg : e'.runtime.generation = e.runtime.generation)
    (hst : e'.runtime.hasStarted = e.runtime.hasStarted) : KeepsNumbers rt (rt.setEntry key e') := by
  refine ⟨rfl, fun t ht => ⟨t, ht, rfl, rfl⟩, rfl, fun k f hf => ?_⟩
  rw [SupervisorRuntime.setEntry, Slab.get_set he] at hf
  split at hf
  · rename_i hk
    subst hk
    cases hf
    exact ⟨e, he, hi, hg, hst⟩
  · exact ⟨f, hf, rfl, rfl, rfl⟩

theorem finalized (rt : SupervisorRuntime) (key : ChildKey) (e : ChildEntry) :
    KeepsNumbers rt (rt.finalized key e) := by
  refine ⟨rfl, fun t ht => ⟨t, ht, rfl, rfl⟩, rfl, fun k f hf => ?_⟩
  have hget : (rt.children.remove key).get k = some f := hf
  rw [Slab.get_remove] at hget
  split at hget
  · cases hget
  · exact ⟨f, hget, rfl, rfl, rfl⟩

theorem taken (rt : SupervisorRuntime) (t : Task) : KeepsNumbers rt (rt.taken t) :=
  ⟨rfl, fun u hu => ⟨u, List.mem_of_mem_filter hu, rfl, rfl⟩, rfl, fun _ e he => ⟨e, he, rfl, rfl, rfl⟩⟩

theorem mapTasks (rt : SupervisorRuntime) {f : Task → Task} (hid : ∀ t, (f t).id = t.id)
    (hinfo : ∀ t, (f t).info = t.info) : KeepsNumbers rt
      { rt with joinSet := { rt.joinSet with tasks := rt.joinSet.tasks.map f } } := by
  refine ⟨rfl, fun t ht => ?_, rfl, fun _ e he => ⟨e, he, rfl, rfl, rfl⟩⟩
  obtain ⟨u, hu, rfl⟩ := List.mem_map.1 ht
  exact ⟨u, hu, (hid u).symm, (hinfo u).symm⟩

end KeepsNumbers

theorem Update.numbers {c c' : Config} {a : Act} {rt rt' : SupervisorRuntime}
    (h : Update c a c' rt rt') (hwf : rt.Wf) :
    (∃ key e, Spawns c rt key e rt') ∨ KeepsNumbers rt rt' := by
  cases h with
  | started he he₀ hc => exact .inl ⟨_, _, .started he he₀ hc⟩
  | added hv _ _ hh => exact .inl ⟨_, _, .added hv hh⟩
  | respawned he hm _ hc =>
    have hne : c.ctrl ≠ .await .runStart .nil := by rw [hc]; exact nofun
    exact .inl ⟨_, _, .restarted he hm hne⟩
  | groupRespawned he _ hr hc =>
    have hne : c.ctrl ≠ .await .runStart .nil := by rw [hc]; exact nofun
    simp only [ChildEntry.respawns, Bool.and_eq_true, beq_iff_eq] at hr
    exact .inl ⟨_, _, .restarted he hr.1 hne⟩
  | tasks f hid hinfo => exact .inr (.mapTasks rt hid hinfo)
  | entry he hs => exact .inr (.setEntry he hs.instanceId hs.generation hs.hasStarted)
  | terminated g he _ _ => exact .inr (.setEntry he (by simp) (by simp) (by simp))
  | @requested key e reply he _ _ _ _ _ =>
    have hset : KeepsNumbers rt (rt.setEntry key e.requested) := .setEntry he rfl rfl rfl
    exact .inr (hset.trans (.same rfl rfl rfl))
  | @removed key e reply he _ _ _ _ =>
    have hset : KeepsNumbers rt (rt.setEntry key e.requested) := .setEntry he rfl rfl rfl
    have hreq : KeepsNumbers rt (rt.requested reply key e) := hset.trans (.same rfl rfl rfl)
    exact .inr (hreq.trans (.finalized _ _ _))
  | cancelled =>
    refine .inr (.same ?_ ?_ (cancelledChild_children _)) <;>
      unfold SupervisorRuntime.cancelledChild <;> split <;> rfl
  | @aborted key e _ _ =>
    unfold SupervisorRuntime.abortedChild
    split
    · exact .inr (.same rfl rfl rfl)
    · rename_i id hid
      have hmap := KeepsNumbers.mapTasks rt
        (f := fun t => if t.id = id then { t with abortRequested := true } else t)
        (fun t => by split <;> rfl) (fun t => by split <;> rfl)
      exact .inr (hmap.trans (.same rfl rfl rfl))
  | @ignored t _ _ => exact .inr ((KeepsNumbers.taken rt t).trans (.same rfl rfl rfl))
  | @exited t e outcome hrt _ _ hc =>
    have htaken : KeepsNumbers rt (rt.consumed t) := (KeepsNumbers.taken rt t).trans (.same rfl rfl rfl)
    have hset : KeepsNumbers (rt.consumed t) ((rt.consumed t).setEntry t.info.key (e.stopped outcome.status)) :=
      .setEntry hc.get rfl rfl rfl
    exact .inr ((htaken.trans hset).trans (.same rfl rfl rfl))
  | finalized | detached => exact .inr (.finalized rt _ _)
  | cancelledAll =>
    obtain ⟨C, n, heq, hget, -⟩ := hwf.cancelRunningChildren
    rw [heq]
    refine .inr ⟨rfl, fun t ht => ⟨t, ht, rfl, rfl⟩, rfl, fun key e' he' => ?_⟩
    have he' : C.get key = some e' := he'
    rw [hget, Option.map_eq_some_iff] at he'
    obtain ⟨e, he, rfl⟩ := he'
    refine ⟨e, he, ?_⟩
    unfold ChildEntry.stopping
    split <;> exact ⟨rfl, rfl, rfl⟩
  | _ => exact .inr (.same rfl rfl rfl)

/-! ### Each task is joined once -/

/-- The consumed joins are those of different tasks, which are no longer in the join set. -/
structure SupervisorRuntime.JoinsOnce (rt : SupervisorRuntime) : Prop where
  nodup : (joins rt.trace).Nodup
  gone : ∀ id ∈ joins rt.trace, id < rt.joinSet.nextId ∧ ∀ t ∈ rt.joinSet.tasks, t.id ≠ id

theorem Update.joinsOnce {c c' : Config} {a : Act} {rt rt' : SupervisorRuntime}
    (h : Update c a c' rt rt') (hwf : rt.Wf) (hI : rt.JoinsOnce) : rt'.JoinsOnce := by
  rcases h.joins_eq hwf with heq | ⟨t, ht, accepted, hj⟩
  · refine ⟨heq ▸ hI.nodup, fun id hid => ?_⟩
    rw [heq] at hid
    obtain ⟨hlt, hne⟩ := hI.gone id hid
    rcases h.numbers hwf with ⟨key, e, hs⟩ | hk
    · rw [hs.joinSet]
      refine ⟨Nat.lt_succ_of_lt hlt, fun u hu => ?_⟩
      rcases List.mem_append.1 hu with hu | hu
      · exact hne u hu
      · rw [List.mem_singleton.1 hu]
        exact Nat.ne_of_gt hlt
    · refine ⟨hk.nextId ▸ hlt, fun u hu => ?_⟩
      obtain ⟨v, hv, hid, -⟩ := hk.tasks u hu
      exact hid ▸ hne v hv
  · have hnot : t.id ∉ joins rt.trace := fun hm => (hI.gone _ hm).2 t ht rfl
    refine ⟨hj.joins_eq ▸ List.nodup_cons.2 ⟨hnot, hI.nodup⟩, fun id hid => ?_⟩
    rw [hj.joinSet]
    rw [hj.joins_eq] at hid
    rcases List.mem_cons.1 hid with rfl | hid
    · refine ⟨hwf.taskLt t ht, fun u hu => ?_⟩
      simpa using (List.mem_filter.1 hu).2
    · obtain ⟨hlt, hne⟩ := hI.gone id hid
      exact ⟨hlt, fun u hu => hne u (List.mem_of_mem_filter hu)⟩

/-! ### Numbered tasks -/

namespace SupervisorRuntime

/-- The newest task spawned for the entry at `key`. -/
def currentTask (rt : SupervisorRuntime) (key : ChildKey) : Option TaskId :=
  (rt.children.get key).bind fun e => ((spawns rt.trace).find? fun s =>
    s.1.key == key && s.1.instanceId == e.instanceId).map (·.2)

/-- Instances and generations tell the tasks apart. -/
structure Numbered (rt : SupervisorRuntime) : Prop where
  entryLt : ∀ key e, rt.children.get key = some e → e.instanceId < rt.nextChildInstance
  entryInj : ∀ k₁ e₁ k₂ e₂, rt.children.get k₁ = some e₁ → rt.children.get k₂ = some e₂ →
    e₁.instanceId = e₂.instanceId → k₁ = k₂
  spawnLt : ∀ s ∈ spawns rt.trace, s.1.instanceId < rt.nextChildInstance ∧ s.2 < rt.joinSet.nextId
  /-- The tasks of an entry were spawned at its key, in generations up to its own. -/
  entry : ∀ key e, rt.children.get key = some e → ∀ s ∈ spawns rt.trace,
    s.1.instanceId = e.instanceId →
      e.runtime.hasStarted = true ∧ s.1.key = key ∧ s.1.generation ≤ e.runtime.generation
  newest : ∀ key e, rt.children.get key = some e → e.runtime.hasStarted = true →
    e.runtime.generation < (spawns rt.trace).length ∧ ∃ id, (spawns rt.trace).find? (fun s =>
      s.1.key == key && s.1.instanceId == e.instanceId) =
        some (⟨key, e.instanceId, e.runtime.generation⟩, id)
  unborn : ∀ key e, rt.children.get key = some e → e.runtime.hasStarted = false →
    e.runtime.generation = 0
  distinct : ((spawns rt.trace).map fun s => (s.1.instanceId, s.1.generation)).Nodup
  ids : ((spawns rt.trace).map (·.2)).Nodup
  tasks : ∀ t ∈ rt.joinSet.tasks, (t.info, t.id) ∈ spawns rt.trace

namespace Numbered
variable {rt rt' : SupervisorRuntime}

theorem keep (h : rt.Numbered) (hs : spawns rt'.trace = spawns rt.trace) (hk : KeepsNumbers rt rt') :
    rt'.Numbered := by
  refine ⟨fun key e' he' => ?_, fun k₁ e₁' k₂ e₂' h₁ h₂ heq => ?_, fun s hmem => ?_,
    fun key e' he' s hmem hinst => ?_, fun key e' he' hst => ?_, fun key e' he' hst => ?_,
    hs ▸ h.distinct, hs ▸ h.ids, fun t ht => ?_⟩
  · obtain ⟨e, he, hi, -, -⟩ := hk.entries key e' he'
    rw [hi, hk.nextChildInstance]
    exact h.entryLt key e he
  · obtain ⟨e₁, he₁, hi₁, -, -⟩ := hk.entries k₁ e₁' h₁
    obtain ⟨e₂, he₂, hi₂, -, -⟩ := hk.entries k₂ e₂' h₂
    exact h.entryInj k₁ e₁ k₂ e₂ he₁ he₂ (hi₁.symm.trans (heq.trans hi₂))
  · rw [hk.nextChildInstance, hk.nextId]
    exact h.spawnLt s (hs ▸ hmem)
  · obtain ⟨e, he, hi, hg, hst⟩ := hk.entries key e' he'
    rw [hg, hst]
    exact h.entry key e he s (hs ▸ hmem) (hinst.trans hi)
  · obtain ⟨e, he, hi, hg, hst'⟩ := hk.entries key e' he'
    rw [hs, hi, hg]
    exact h.newest key e he (hst' ▸ hst)
  · obtain ⟨e, he, -, hg, hst'⟩ := hk.entries key e' he'
    rw [hg]
    exact h.unborn key e he (hst' ▸ hst)
  · obtain ⟨u, hu, hid, hinfo⟩ := hk.tasks t ht
    rw [hs, ← hid, ← hinfo]
    exact h.tasks u hu

theorem inserted (h : rt.Numbered) {key : ChildKey} (hk : rt.children.vacant key = true)
    (hlt : rt.nextChildInstance < U64_MAX) (child : ChildSpec) : (rt.inserted key child).Numbered := by
  have hnext : (rt.inserted key child).nextChildInstance = rt.nextChildInstance + 1 :=
    saturatingSucc_of_lt hlt
  have hget : ∀ k, (rt.inserted key child).children.get k =
      if key = k then some (rt.newEntry child) else rt.children.get k := Slab.get_insert hk _
  have hnew : (rt.newEntry child).instanceId = rt.nextChildInstance := rfl
  refine ⟨fun k f hf => ?_, fun k₁ f₁ k₂ f₂ h₁ h₂ heq => ?_, fun s hs => ?_, fun k f hf s hs hinst => ?_,
    fun k f hf hst => ?_, fun k f hf hst => ?_, h.distinct, h.ids, h.tasks⟩
  · rw [hnext]
    rw [hget] at hf
    split at hf
    · cases hf; exact Nat.lt_succ_self _
    · exact Nat.lt_succ_of_lt (h.entryLt k f hf)
  · rw [hget] at h₁ h₂
    split at h₁ <;> split at h₂
    · rename_i hk₁ hk₂; exact hk₁.symm.trans hk₂
    · cases h₁
      have := h.entryLt k₂ f₂ h₂
      omega
    · cases h₂
      have := h.entryLt k₁ f₁ h₁
      omega
    · exact h.entryInj k₁ f₁ k₂ f₂ h₁ h₂ heq
  · rw [hnext]
    exact ⟨Nat.lt_succ_of_lt (h.spawnLt s hs).1, (h.spawnLt s hs).2⟩
  · rw [hget] at hf
    split at hf
    · cases hf
      have := (h.spawnLt s hs).1
      omega
    · exact h.entry k f hf s hs hinst
  · rw [hget] at hf
    split at hf
    · cases hf; cases hst
    · exact h.newest k f hf hst
  · rw [hget] at hf
    split at hf
    · cases hf; rfl
    · exact h.unborn k f hf hst

/-- The next task of an entry has a new pair of numbers, as long as its generation is not used up. -/
theorem spawned (h : rt.Numbered) {key : ChildKey} {e : ChildEntry}
    (he : rt.children.get key = some e)
    (hg : e.runtime.hasStarted = true → e.runtime.generation < U64_MAX) : (rt.spawned key e).Numbered := by
  have hspawns : spawns (rt.spawned key e).trace =
    (⟨key, e.instanceId, e.nextGeneration⟩, rt.joinSet.nextId) :: spawns rt.trace := rfl
  have hnext : e.nextGeneration ≤ (spawns rt.trace).length ∧ (e.runtime.hasStarted = true →
      e.nextGeneration = e.runtime.generation + 1) := by
    unfold ChildEntry.nextGeneration
    cases hst : e.runtime.hasStarted with
    | false =>
      rw [if_neg nofun, h.unborn key e he hst]
      exact ⟨Nat.zero_le _, nofun⟩
    | true =>
      rw [if_pos rfl, saturatingSucc_of_lt (hg hst)]
      exact ⟨(h.newest key e he hst).1, fun _ => rfl⟩
  have hother {k : ChildKey} {f : ChildEntry} (hk : k ≠ key) (hf : rt.children.get k = some f) :
      f.instanceId ≠ e.instanceId := fun heq => hk (h.entryInj k f key e hf he heq)
  refine ⟨fun k f hf => ?_, fun k₁ f₁ k₂ f₂ h₁ h₂ heq => ?_, fun s hs => ?_, fun k f hf s hs hinst => ?_,
    fun k f hf hst => ?_, fun k f hf hst => ?_, ?_, ?_, fun t ht => ?_⟩
  · by_cases hk : k = key
    · subst hk; rw [spawned_get he] at hf; cases hf; exact h.entryLt k e he
    · rw [spawned_get_ne he hk] at hf; exact h.entryLt k f hf
  · by_cases hk₁ : k₁ = key <;> by_cases hk₂ : k₂ = key
    · rw [hk₁, hk₂]
    · subst hk₁
      rw [spawned_get he] at h₁
      rw [spawned_get_ne he hk₂] at h₂
      cases h₁
      exact absurd heq.symm (hother hk₂ h₂)
    · subst hk₂
      rw [spawned_get he] at h₂
      rw [spawned_get_ne he hk₁] at h₁
      cases h₂
      exact absurd heq (hother hk₁ h₁)
    · rw [spawned_get_ne he hk₁] at h₁
      rw [spawned_get_ne he hk₂] at h₂
      exact h.entryInj k₁ f₁ k₂ f₂ h₁ h₂ heq
  · show _ < rt.nextChildInstance ∧ _ < rt.joinSet.nextId + 1
    rw [hspawns] at hs
    rcases List.mem_cons.1 hs with rfl | hs
    · exact ⟨h.entryLt key e he, Nat.lt_succ_self _⟩
    · exact ⟨(h.spawnLt s hs).1, Nat.lt_succ_of_lt (h.spawnLt s hs).2⟩
  · rw [hspawns] at hs
    by_cases hk : k = key
    · subst hk
      rw [spawned_get he] at hf
      cases hf
      rcases List.mem_cons.1 hs with rfl | hs
      · exact ⟨rfl, rfl, Nat.le_refl _⟩
      · obtain ⟨hst, hkey, hle⟩ := h.entry k e he s hs hinst
        refine ⟨rfl, hkey, ?_⟩
        show _ ≤ e.nextGeneration
        rw [hnext.2 hst]
        exact Nat.le_succ_of_le hle
    · rw [spawned_get_ne he hk] at hf
      rcases List.mem_cons.1 hs with rfl | hs
      · exact absurd hinst.symm (hother hk hf)
      · exact h.entry k f hf s hs hinst
  · rw [hspawns, List.length_cons]
    by_cases hk : k = key
    · subst hk
      rw [spawned_get he] at hf
      cases hf
      refine ⟨Nat.lt_succ_of_le hnext.1, rt.joinSet.nextId, ?_⟩
      exact List.find?_cons_of_pos (by simp [ChildEntry.started])
    · rw [spawned_get_ne he hk] at hf
      obtain ⟨hlt, id, hfind⟩ := h.newest k f hf hst
      refine ⟨Nat.lt_succ_of_lt hlt, id, ?_⟩
      rw [List.find?_cons_of_neg (by simp [Ne.symm hk]), hfind]
  · by_cases hk : k = key
    · subst hk; rw [spawned_get he] at hf; cases hf; cases hst
    · rw [spawned_get_ne he hk] at hf; exact h.unborn k f hf hst
  · rw [hspawns, List.map_cons, List.nodup_cons]
    refine ⟨fun hm => ?_, h.distinct⟩
    obtain ⟨s, hs, heq⟩ := List.mem_map.1 hm
    obtain ⟨hinst, hgen⟩ : s.1.instanceId = e.instanceId ∧ s.1.generation = e.nextGeneration :=
      Prod.mk.inj heq
    obtain ⟨hst, -, hle⟩ := h.entry key e he s hs hinst
    have := hnext.2 hst
    omega
  · rw [hspawns, List.map_cons, List.nodup_cons]
    refine ⟨fun hm => ?_, h.ids⟩
    obtain ⟨s, hs, heq⟩ := List.mem_map.1 hm
    exact absurd heq (Nat.ne_of_lt (h.spawnLt s hs).2)
  · rw [hspawns]
    rcases List.mem_append.1 (show t ∈ rt.joinSet.tasks ++ [_] from ht) with ht | ht
    · exact List.mem_cons_of_mem _ (h.tasks t ht)
    · rw [List.mem_singleton.1 ht]
      exact List.mem_cons_self

end Numbered
end SupervisorRuntime

theorem Handles.ne_start {c : Config} {cmd : SupervisorCommand} (h : Handles c cmd) :
    c.ctrl ≠ .await .runStart .nil := by
  obtain ⟨k, hk⟩ := h.ctrl
  exact hk.ne_start

theorem Spawns.numbered {c : Config} {rt rt' : SupervisorRuntime} {key : ChildKey} {e : ChildEntry}
    (h : Spawns c rt key e rt') (hstart : c.ctrl = .await .runStart .nil → c.Untouched)
    (hlen : c.ctrl ≠ .await .runStart .nil → (spawns rt'.trace).length ≤ U64_MAX)
    (hnext : c.ctrl ≠ .await .runStart .nil → rt.nextChildInstance ≤ (spawns rt.trace).length)
    (hI : rt.Numbered) : rt'.Numbered := by
  have hlt (hne : c.ctrl ≠ .await .runStart .nil) : (spawns rt.trace).length < U64_MAX := by
    have := hlen hne
    rw [h.spawns_eq, List.length_cons] at this
    exact this
  cases h with
  | @started _ k he he₀ hc =>
    cases k with
    | push f k => cases f
    | nil =>
      refine hI.spawned he fun hst => ?_
      rw [((hstart hc).unborn _ _ he₀).hasStarted] at hst
      cases hst
  | restarted he hm hne =>
    have hsp := hI.spawned he fun hst => Nat.lt_trans (hI.newest _ _ he hst).1 (hlt hne)
    exact hsp.keep rfl (.same rfl rfl rfl)
  | @added child hv hh =>
    obtain ⟨reply, hh⟩ := hh
    have hins := hI.inserted hv (Nat.lt_of_le_of_lt (hnext hh.ne_start) (hlt hh.ne_start)) child
    exact hins.spawned (inserted_get hv child) nofun

theorem Update.numbered {c c' : Config} {a : Act} {rt rt' : SupervisorRuntime}
    (h : Update c a c' rt rt') (hwf : rt.Wf) (hstart : c.ctrl = .await .runStart .nil → c.Untouched)
    (hlen : c.ctrl ≠ .await .runStart .nil → (spawns rt'.trace).length ≤ U64_MAX)
    (hnext : c.ctrl ≠ .await .runStart .nil → rt.nextChildInstance ≤ (spawns rt.trace).length)
    (hI : rt.Numbered) : rt'.Numbered := by
  by_cases hspawn : ∃ key e, Spawns c rt key e rt'
  · obtain ⟨key, e, hs⟩ := hspawn
    exact hs.numbered hstart hlen hnext hI
  · exact hI.keep ((h.spawns_eq hwf).resolve_right hspawn) ((h.numbers hwf).resolve_left hspawn)

/-- Each insertion after the start comes with a spawn. -/
theorem Update.nextChildInstance {c c' : Config} {a : Act} {rt rt' : SupervisorRuntime}
    (h : Update c a c' rt rt') (hwf : rt.Wf)
    (hI : rt.nextChildInstance ≤ (spawns rt.trace).length) :
    rt'.nextChildInstance ≤ (spawns rt'.trace).length ∧
      (spawns rt.trace).length ≤ (spawns rt'.trace).length := by
  by_cases hspawn : ∃ key e, Spawns c rt key e rt'
  · obtain ⟨key, e, hs⟩ := hspawn
    rw [hs.spawns_eq, List.length_cons]
    refine ⟨?_, Nat.le_succ _⟩
    cases hs with
    | started | restarted => exact Nat.le_succ_of_le hI
    | added => exact Nat.le_trans (Nat.min_le_left ..) (Nat.succ_le_succ hI)
  · rw [(h.spawns_eq hwf).resolve_right hspawn, ((h.numbers hwf).resolve_left hspawn).nextChildInstance]
    exact ⟨hI, Nat.le_refl _⟩

/-! ### The first spawns -/

namespace SupervisorRuntime
variable {rt : SupervisorRuntime}

theorem spawns_spawnedAll {keys : List ChildKey} (h : ∀ key ∈ keys, ∃ e, rt.children.get key = some e) :
    (spawns (rt.spawnedAll keys).trace).length = (spawns rt.trace).length + keys.length ∧
      (rt.spawnedAll keys).nextChildInstance = rt.nextChildInstance := by
  induction keys generalizing rt with
  | nil => exact ⟨rfl, rfl⟩
  | cons key rest ih =>
    obtain ⟨e, he⟩ := h key List.mem_cons_self
    have hrest : ∀ k ∈ rest, ∃ f, (rt.spawned key e).children.get k = some f := by
      intro k hk
      by_cases hkk : k = key
      · subst hkk; exact ⟨_, spawned_get he⟩
      · rw [spawned_get_ne he hkk]; exact h k (List.mem_cons_of_mem _ hk)
    obtain ⟨hlen, hnext⟩ := ih hrest
    rw [spawnedAll, he]
    refine ⟨?_, hnext⟩
    rw [hlen]
    show (spawns rt.trace).length + 1 + rest.length = _
    rw [List.length_cons]
    omega

/-- Before the first poll the instances are the positions in the configuration. -/
structure Positioned (rt : SupervisorRuntime) : Prop where
  next : rt.nextChildInstance = rt.children.slots.length
  instances : ∀ key e, rt.children.get key = some e → e.instanceId = key

theorem Positioned.insertInitial (h : rt.Positioned) {specs : List ChildSpec}
    (hlen : rt.children.slots.length + specs.length ≤ U64_MAX) : (rt.insertInitial specs).Positioned := by
  induction specs generalizing rt with
  | nil => exact h
  | cons spec rest ih =>
    rw [List.length_cons] at hlen
    have hslots : (rt.inserted rt.children.slots.length spec).children.slots.length =
        rt.children.slots.length + 1 := by
      simp [SupervisorRuntime.inserted, Slab.insert]
    rw [insertInitial_cons]
    refine ih ⟨?_, fun key e he => ?_⟩ (by rw [hslots]; omega)
    · rw [hslots, ← h.next]
      exact saturatingSucc_of_lt (by rw [h.next]; omega)
    · have hget := Slab.get_insert (vacant_length rt.children) (rt.newEntry spec) key
      rw [show (rt.inserted rt.children.slots.length spec).children.get key = _ from hget] at he
      split at he
      · rename_i hk; cases he; exact h.next.trans hk
      · exact h.instances key e he

theorem insertInitial_length (rt : SupervisorRuntime) (specs : List ChildSpec) :
    (rt.insertInitial specs).childOrder.length = rt.childOrder.length + specs.length ∧
      (rt.insertInitial specs).children.slots.length = rt.children.slots.length + specs.length := by
  induction specs generalizing rt with
  | nil => exact ⟨rfl, rfl⟩
  | cons spec rest ih =>
    rw [insertInitial_cons]
    obtain ⟨hord, hslots⟩ := ih (rt.inserted rt.children.slots.length spec)
    rw [hord, hslots]
    simp only [SupervisorRuntime.inserted, Slab.insert, Nat.lt_irrefl, if_false, List.length_append,
      List.length_cons, List.length_nil]
    omega

theorem Fresh.numbered {config : SupervisorConfig} {env : StartEnv}
    (h : (SupervisorRuntime.new config env).Fresh) :
    (SupervisorRuntime.new config env).nextChildInstance ≤
        (SupervisorRuntime.new config env).childOrder.length ∧
      ((SupervisorRuntime.new config env).childOrder.length ≤ U64_MAX →
        (SupervisorRuntime.new config env).Numbered) := by
  have hpos : (SupervisorRuntime.new config env).childOrder.length ≤ U64_MAX →
      (SupervisorRuntime.new config env).Positioned := by
    intro hlen
    rw [SupervisorRuntime.new, (insertInitial_length _ _).1] at hlen
    refine Positioned.insertInitial ⟨rfl, fun key e he => ?_⟩ ?_
    · simp at he
    · simpa [Slab.empty] using hlen
  have hlength : (SupervisorRuntime.new config env).children.slots.length =
      (SupervisorRuntime.new config env).childOrder.length := by
    rw [SupervisorRuntime.new, (insertInitial_length _ _).1, (insertInitial_length _ _).2]
    rfl
  refine ⟨?_, fun hlen => ?_⟩
  · by_cases hlen : (SupervisorRuntime.new config env).childOrder.length ≤ U64_MAX
    · exact Nat.le_of_eq ((hpos hlen).next.trans hlength)
    · exact Nat.le_trans h.nextLe (Nat.le_of_not_le hlen)
  · have hp := hpos hlen
    have hnone : spawns (SupervisorRuntime.new config env).trace = [] := by rw [h.trace]; rfl
    refine ⟨fun key e he => ?_, fun k₁ e₁ k₂ e₂ h₁ h₂ heq => ?_, by simp [hnone], by simp [hnone],
      fun key e he hst => ?_, fun key e he _ => (h.unborn key e he).generation, by simp [hnone],
      by simp [hnone], by simp [h.joinSet, JoinSet.empty]⟩
    · rw [hp.instances key e he, hp.next]
      exact Slab.lt_length_of_get he
    · rw [← hp.instances k₁ e₁ h₁, ← hp.instances k₂ e₂ h₂, heq]
    · rw [(h.unborn key e he).hasStarted] at hst
      cases hst

end SupervisorRuntime

theorem LoopHead.spawns_eq {rt rt' : SupervisorRuntime} {ctrl : Ctrl} (h : LoopHead rt rt' ctrl) :
    spawns rt'.trace = spawns rt.trace ∧ rt'.nextChildInstance = rt.nextChildInstance := by
  have hdrop (rt : SupervisorRuntime) : spawns rt.dropReceiver.trace = spawns rt.trace :=
    (dropReceiver_grown (P := fun b => b.spawn = none) rt fun _ => rfl).filterMap_eq fun _ hb => hb
  cases h with
  | exit _ => exact ⟨hdrop { rt with pendingExit := none }, rfl⟩
  | natural => exact ⟨hdrop (rt.finishedWith rt.naturalExit), rfl⟩
  | wait => exact ⟨rfl, rfl⟩

/-! ### Runs -/

/-- The tasks are numbered while there are fewer than `2^64` of them. -/
structure Config.Counting (c : Config) : Prop where
  start : c.ctrl = .await .runStart .nil → spawns c.rt.trace = [] ∧
    c.rt.nextChildInstance ≤ c.rt.childOrder.length ∧
    (c.rt.childOrder.length ≤ U64_MAX → c.rt.Numbered)
  begun : c.ctrl ≠ .await .runStart .nil →
    c.ctrl.ended = true ∧ spawns c.rt.trace = [] ∧ c.rt.joinSet.tasks = [] ∨
      c.rt.nextChildInstance ≤ (spawns c.rt.trace).length ∧
        ((spawns c.rt.trace).length ≤ U64_MAX → c.rt.Numbered)

theorem EnvFrame.spawns_eq {rt rt' : SupervisorRuntime} (h : EnvFrame rt rt') :
    spawns rt'.trace = spawns rt.trace := by
  rcases h.trace with heq | ⟨reply, heq⟩
  · rw [heq]
  · rw [heq]; rfl

theorem Config.Counting.step {c c' : Config} {a : Act} (h : c.Counting) (hs : c.Sane)
    (hstart : c.ctrl = .await .runStart .nil → c.Untouched) (hstep : TokioSupervisor.step c a = some c') :
    c'.Counting := by
  have hr := step_rule hs hstep
  have hu := hr.updates hs.wf
  by_cases hc : c.ctrl = .await .runStart .nil
  · obtain ⟨hnone, hnext, hnum⟩ := h.start hc
    have hnum' : c.rt.childOrder.length ≤ U64_MAX → c'.rt.Numbered := fun hlen =>
      (hu.invariant hs.wf (hnum hlen) fun rt rt' hwf hI hup =>
        hup.numbered hwf hstart (fun hne => absurd hc hne) (fun hne => absurd hc hne) hI).2
    obtain ⟨rt, ctrl⟩ := c
    obtain ⟨rt', ctrl'⟩ := c'
    cases hc
    cases hr with
    | env henv =>
      have hframe := envStep_frame henv
      refine ⟨fun _ => ⟨hframe.spawns_eq.trans hnone, ?_, ?_⟩, fun hne => absurd rfl hne⟩
      · show rt'.nextChildInstance ≤ rt'.childOrder.length
        rw [hframe.nextChildInstance, hframe.childOrder]
        exact hnext
      · show rt'.childOrder.length ≤ _ → _
        rw [hframe.childOrder]
        exact hnum'
    | move hm => cases hm
    | overflow =>
      refine ⟨nofun, fun _ => .inl ⟨rfl, ?_, (hstart rfl).tasks⟩⟩
      exact ((dropReceiver_grown (P := fun b => b.spawn = none) rt fun _ => rfl).filterMap_eq
        fun _ hb => hb).trans hnone
    | start hl =>
      have hkeys : ∀ key ∈ rt.childOrder, ∃ e, (rt.emitted none .supervisorStarted).children.get key =
        some e := fun key hk => (hs.wf.order key).1 hk
      obtain ⟨hlen, hinst⟩ := spawns_spawnedAll hkeys
      obtain ⟨heq, hinst'⟩ := hl.spawns_eq
      have hlen : (spawns rt'.trace).length = rt.childOrder.length := by
        have hnone : spawns (rt.emitted none .supervisorStarted).trace = [] := hnone
        rw [heq, hlen, hnone]
        simp
      refine ⟨fun hne => ?_, fun _ => .inr ⟨?_, fun hle => hnum' (hlen ▸ hle)⟩⟩
      · have hne : ctrl' = .await .runStart .nil := hne
        rcases hl.ctrl with ⟨_, rfl⟩ | rfl
        · cases hne
        · cases hne
      · show rt'.nextChildInstance ≤ _
        rw [hlen, hinst', hinst]
        exact hnext
    | loop hl _ => cases hl
    | shutdown hb _ _ => cases hb
    | command hh _ _ _ => cases hh
    | join hh _ _ => cases hh
    | drainNext hd _ => cases hd
  · have hc' : c'.ctrl ≠ .await .runStart .nil := by
      intro heq
      obtain ⟨rt', ctrl'⟩ := c'
      cases heq
      exact hc hr.to_start
    refine ⟨fun hne => absurd hne hc', fun _ => ?_⟩
    rcases h.begun hc with ⟨hend, hnone, htasks⟩ | ⟨hnext, hnum⟩
    · obtain ⟨hctrl, henv⟩ := ended_step hend hstep
      have hframe := envStep_frame henv
      refine .inl ⟨hctrl ▸ hend, hframe.spawns_eq.trans hnone, List.map_eq_nil_iff.1 (hframe.infos.trans ?_)⟩
      rw [htasks]
      rfl
    · have hI := (hu.invariant (I := fun rt => rt.nextChildInstance ≤ (spawns rt.trace).length ∧
        ((spawns rt.trace).length ≤ U64_MAX → rt.Numbered)) hs.wf ⟨hnext, hnum⟩ ?_).2
      · exact .inr hI
      · intro rt rt' hwf ⟨hnext, hnum⟩ hup
        obtain ⟨hnext', hmono⟩ := hup.nextChildInstance hwf hnext
        refine ⟨hnext', fun hlen => ?_⟩
        exact hup.numbered hwf hstart (fun _ => hlen) (fun _ => hnext) (hnum (Nat.le_trans hmono hlen))

section
variable {config : SupervisorConfig} {env : StartEnv} {as : List Act} {c : Config}
  {ok : Config → Act → Prop}

theorem run_counting (h : config.Accepted) (hrun : Run step ok (Config.start config env) as c) :
    c.Counting := by
  refine hrun.invariant_of (I := Config.Counting)
    (J := fun c => c.Sane ∧ (c.ctrl = .await .runStart .nil → c.Untouched))
    (fun _ _ h' => ⟨run_sane h h', run_untouched h h'⟩) ⟨fun _ => ?_, fun hne => absurd rfl hne⟩ ?_
  · refine ⟨?_, (h.fresh env).numbered⟩
    show spawns (SupervisorRuntime.new config env).trace = []
    rw [(h.fresh env).trace]
    rfl
  · intro c a c' ⟨hs, hstart⟩ hI _ hstep
    exact hI.step hs hstart hstep

theorem run_joinsOnce (h : config.Accepted) (hrun : Run step ok (Config.start config env) as c) :
    c.rt.JoinsOnce := by
  refine run_invariant h hrun ?_ fun _ _ _ _ _ _ _ _ hwf hI hu => hu.joinsOnce hwf hI
  have htrace : (SupervisorRuntime.new config env).trace = [] := (h.fresh env).trace
  exact ⟨by rw [htrace]; exact List.nodup_nil, by rw [htrace]; exact nofun⟩

/-- What a task's numbers are for. -/
structure Config.TellsApart (c : Config) : Prop where
  distinct : ((spawns c.rt.trace).map fun s => (s.1.instanceId, s.1.generation)).Nodup
  /-- No join is consumed twice. -/
  once : (joins c.rt.trace).Nodup
  /-- A join is accepted if its task is the newest one of an entry, and ignored otherwise. -/
  consumed : ∀ id rt joined, c.rt.joinTask id = some (rt, joined) →
    (∃ rt' classified, rt.consumeJoinedChild joined = (rt', .ok (some classified)) ∧
        ∃ key, c.rt.currentTask key = some id) ∨
      ∃ rt', rt.consumeJoinedChild joined = (rt', .ok none) ∧ (∀ key, c.rt.currentTask key ≠ some id) ∧
        rt'.children = c.rt.children ∧ rt'.childrenById = c.rt.childrenById ∧
        rt'.childOrder = c.rt.childOrder ∧ rt'.runningChildren = c.rt.runningChildren ∧
        rt'.liveTasks = c.rt.liveTasks

/-- The newest task of an entry is the one with the entry's numbers. -/
theorem SupervisorRuntime.Numbered.currentTask_iff {rt : SupervisorRuntime} (h : rt.Numbered)
    {t : Task} (ht : t ∈ rt.joinSet.tasks) :
    (∃ e, rt.Current t.info e) ↔ ∃ key, rt.currentTask key = some t.id := by
  have hmem := h.tasks t ht
  constructor
  · rintro ⟨e, hc⟩
    obtain ⟨hst, -, -⟩ := h.entry t.info.key e hc.get _ hmem hc.instanceId.symm
    obtain ⟨-, id, hfind⟩ := h.newest t.info.key e hc.get hst
    refine ⟨t.info.key, ?_⟩
    -- two spawns with the same pair are the same one
    have hpair : (⟨⟨t.info.key, e.instanceId, e.runtime.generation⟩, id⟩ : TaskMeta × TaskId) =
        (t.info, t.id) :=
      List.inj_on_of_nodup_map h.distinct (List.mem_of_find?_eq_some hfind) hmem
        (by rw [hc.instanceId, hc.generation])
    rw [currentTask, hc.get, Option.bind_some, hfind, hpair]
    rfl
  · rintro ⟨key, hcur⟩
    obtain ⟨e, he, hcur⟩ := Option.bind_eq_some_iff.1 hcur
    obtain ⟨s, hfind, hid⟩ := Option.map_eq_some_iff.1 hcur
    have hs := List.mem_of_find?_eq_some hfind
    obtain rfl : s = (t.info, t.id) := List.inj_on_of_nodup_map h.ids hs hmem hid
    have hkey : t.info.key = key ∧ t.info.instanceId = e.instanceId := by
      simpa using List.find?_some hfind
    obtain ⟨hst, -, -⟩ := h.entry key e he _ hmem hkey.2
    obtain ⟨-, id, hnew⟩ := h.newest key e he hst
    rw [hnew] at hfind
    have hgen : t.info = ⟨key, e.instanceId, e.runtime.generation⟩ :=
      (congrArg Prod.fst (Option.some.inj hfind)).symm
    exact ⟨e, by rw [hgen]; exact he, by rw [hgen], by rw [hgen]⟩

/-- In every run with fewer than `2^64` spawned tasks, one for each insertion and each restart, the
tasks are told apart by instance and generation, and joins are attributed to the entry whose newest
task has ended. -/
theorem run_incarnations (h : config.Accepted) (hrun : Run step ok (Config.start config env) as c)
    (hfew : (spawns c.rt.trace).length < 2 ^ 64) : c.TellsApart := by
  have hs := run_sane h hrun
  have hI := run_counting h hrun
  have honce := (run_joinsOnce h hrun).nodup
  have hfew : (spawns c.rt.trace).length ≤ U64_MAX := Nat.le_of_lt_succ hfew
  have hquiet (hnone : spawns c.rt.trace = []) (htasks : c.rt.joinSet.tasks = []) : c.TellsApart := by
    refine ⟨by rw [hnone]; exact List.nodup_nil, honce, fun id rt joined hj => ?_⟩
    obtain ⟨t, _, _, hf, _⟩ := hs.wf.consumeJoinedChild hj
    have := hf.mem
    rw [htasks] at this
    cases this
  by_cases hc : c.ctrl = .await .runStart .nil
  · exact hquiet (hI.start hc).1 (run_untouched h hrun hc).tasks
  · rcases hI.begun hc with ⟨-, hnone, htasks⟩ | ⟨-, hnum⟩
    · exact hquiet hnone htasks
    · have hnum := hnum hfew
      refine ⟨hnum.distinct, honce, fun id rt joined hj => ?_⟩
      obtain ⟨t, outcome, rfl, hf, ⟨hno, heq⟩ | ⟨e, he, heq⟩⟩ := hs.wf.consumeJoinedChild hj
      · refine .inr ⟨_, heq, fun key hcur => ?_, rfl, rfl, rfl, rfl, rfl⟩
        exact hno ((hnum.currentTask_iff hf.mem).2 ⟨key, hcur⟩)
      · exact .inl ⟨_, _, heq, (hnum.currentTask_iff hf.mem).1 ⟨e, he⟩⟩

end

/-- The slab key of the removed `a` goes to `d`, whose task a late restart spawns over: three spawns at
one key, and the join of the second is stale. -/
theorem run_incarnations_reused : ∃ c : Config,
    (spawns c.rt.trace).map (·.1) = [⟨0, 2, 1⟩, ⟨0, 2, 0⟩, ⟨1, 1, 0⟩, ⟨0, 0, 0⟩] ∧ c.TellsApart := by
  have hex : ∃ c, AnyRun step (Config.start slotConfig ⟨false, 0, 0⟩) respawnActs c ∧
      (spawns c.rt.trace).map (·.1) = [⟨0, 2, 1⟩, ⟨0, 2, 0⟩, ⟨1, 1, 0⟩, ⟨0, 0, 0⟩] :=
    anyRun_of_exec (by decide +kernel)
  obtain ⟨c, hrun, hc⟩ := hex
  have hlen : (spawns c.rt.trace).length = 4 := by
    rw [← List.length_map (f := (·.1)), hc]
    rfl
  exact ⟨c, hc, run_incarnations slotConfig_accepted hrun (by rw [hlen]; decide)⟩

end TokioSupervisor
