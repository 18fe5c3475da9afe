import TokioSupervisor.Runtime.Removing
import TokioSupervisor.Runtime.Incarnations
import TokioSupervisor.Runtime.Endings
import TokioSupervisor.Runtime.Isolation

/-!
# A successful run has joined its tasks, or aborted them

A spawned task is unjoined or its join was consumed (`Accounted`). `run` returns `Ok` when no child is
left running, so what has to be shown is that an unjoined task still belongs to a present child
(`Claimed`) or was sent an abort (`ClaimedOrAborted`). Two exits leave aborted tasks behind:
`abort_and_detach_child` deletes a child whose aborted task has not ended, and the drain of a shutdown
gives aborted tasks one poll and then returns `Ok`. A result that is pending only unwinds the suspended
calls (`Ctrl.unwinds`), and spawns nothing.
-/

namespace TokioSupervisor
open Lib SupervisorRuntime

/-! ### Conditions -/

/-- The names that the drain of a shutdown has timed out, after its last poll of aborted tasks. -/
def Ctrl.drainsLast : Ctrl → Option String
  | .ret (.push (.drainSecond .shutdown timedOut) _) (.ok ()) => some timedOut
  | _ => none

/-- The task of a detached child is joined. -/
def detachesJoined (c : Config) : Bool :=
  (c.ctrl.detaches.bind c.rt.children.get).all (·.runtime.abortHandle.isNone)

/-- A shutdown that reports no timeout leaves no child running. -/
def drainsDry (c : Config) : Bool :=
  c.ctrl.drainsLast.all fun timedOut => !timedOut.isEmpty || c.rt.activeTaskNames.isEmpty

/-! ### Unjoined tasks -/

section
variable {c c' : Config} {a : Act} {rt rt' : SupervisorRuntime}

/-- The task `t` is `u` later on: it ends only where the environment says so, and an abort that was
requested stays so. -/
structure Task.Later (a : Act) (u t : Task) : Prop where
  id : t.id = u.id
  info : t.info = u.info
  outcome : t.outcome = u.outcome ∨ ∃ o, a = .finish u.id o
  aborted : u.abortRequested = true → t.abortRequested = true

theorem Task.Later.refl (a : Act) (u : Task) : Task.Later a u u :=
  ⟨rfl, rfl, .inl rfl, fun h => h⟩

theorem Update.tasks_to (h : Update c a c' rt rt') (hwf : rt.Wf) {u : Task}
    (hu : u ∈ rt.joinSet.tasks) : (∃ t ∈ rt'.joinSet.tasks, Task.Later a u t) ∨
      u.outcome.isSome = true ∧ ∃ accepted, Joins rt u accepted rt' := by
  have hsame (hjs : rt'.joinSet = rt.joinSet) : ∃ t ∈ rt'.joinSet.tasks, Task.Later a u t :=
    ⟨u, hjs ▸ hu, .refl a u⟩
  have hspawn {info : TaskMeta} (hjs : rt'.joinSet = rt.joinSet.spawn info) :
      ∃ t ∈ rt'.joinSet.tasks, Task.Later a u t :=
    ⟨u, by rw [hjs]; exact List.mem_append_left _ hu, .refl a u⟩
  have htaken {t : Task} {outcome : TaskOutcome} (hf : rt.Finished t outcome) {accepted : Bool}
      (hj : Joins rt t accepted rt') : (∃ t ∈ rt'.joinSet.tasks, Task.Later a u t) ∨
        u.outcome.isSome = true ∧ ∃ accepted, Joins rt u accepted rt' := by
    by_cases hid : u.id = t.id
    · obtain rfl := List.inj_on_of_nodup_map hwf.taskNodup hu hf.mem hid
      exact .inr ⟨by rw [hf.outcome]; rfl, accepted, hj⟩
    · refine .inl ⟨u, ?_, .refl a u⟩
      rw [hj.joinSet]
      exact List.mem_filter.2 ⟨hu, by simpa using hid⟩
  cases h with
  | tasks f hid hinfo hout habort =>
    exact .inl ⟨f u, List.mem_map_of_mem hu, hid u, hinfo u, hout u, fun h => (habort u).trans h⟩
  | cancelled he _ =>
    refine .inl (hsame ?_)
    unfold SupervisorRuntime.cancelledChild
    split <;> rfl
  | @aborted key e he _ =>
    unfold SupervisorRuntime.abortedChild
    split
    · exact .inl ⟨u, hu, .refl a u⟩
    · refine .inl ⟨_, List.mem_map_of_mem hu, ?_⟩
      split
      · exact ⟨rfl, rfl, .inl rfl, fun _ => rfl⟩
      · exact .refl a u
  | ignored hf _ => exact htaken hf .ignored
  | exited _ _ hf _ => exact htaken hf .exited
  | started he he₀ hc => exact .inl (hspawn (Spawns.started he he₀ hc).joinSet)
  | added hv _ _ hh => exact .inl (hspawn (Spawns.added hv hh).joinSet)
  | respawned | groupRespawned => exact .inl (hspawn rfl)
  | cancelledAll _ =>
    obtain ⟨C, n, heq, -⟩ := hwf.cancelRunningChildren
    exact .inl (hsame (by rw [heq]; rfl))
  | _ => exact .inl (hsame rfl)

theorem Update.tasks_from (h : Update c a c' rt rt') (hwf : rt.Wf) {t : Task}
    (ht : t ∈ rt'.joinSet.tasks) : (∃ u ∈ rt.joinSet.tasks, Task.Later a u t) ∨
      ∃ e, Spawns c rt t.info.key e rt' ∧ t.info.instanceId = e.instanceId := by
  rcases h.numbers hwf with ⟨key, e, hsp⟩ | hk
  · rw [hsp.joinSet] at ht
    rcases List.mem_append.1 ht with ht | ht
    · exact .inl ⟨t, ht, .refl a t⟩
    · rw [List.mem_singleton.1 ht]
      exact .inr ⟨e, hsp, rfl⟩
  · obtain ⟨u, hu, hid, -⟩ := hk.tasks t ht
    rcases h.tasks_to hwf hu with ⟨t', ht', hlater⟩ | ⟨-, accepted, hj⟩
    · obtain rfl := List.inj_on_of_nodup_map (h.wf hwf).taskNodup ht' ht (hlater.id.trans hid)
      exact .inl ⟨u, hu, hlater⟩
    · rw [hj.joinSet] at ht
      exact absurd hid.symm (by simpa using (List.mem_filter.1 ht).2)

/-- Every spawned task is unjoined, or its join was consumed. -/
def SupervisorRuntime.Accounted (rt : SupervisorRuntime) : Prop :=
  ∀ s ∈ spawns rt.trace, s.2 ∈ joins rt.trace ∨ ∃ t ∈ rt.joinSet.tasks, t.id = s.2

theorem Update.accounted (h : Update c a c' rt rt') (hwf : rt.Wf) (hI : rt.Accounted) :
    rt'.Accounted := by
  have hjoins (id : TaskId) (hid : id ∈ joins rt.trace) : id ∈ joins rt'.trace := by
    rcases h.joins_eq hwf with heq | ⟨t, -, accepted, hj⟩
    · exact heq ▸ hid
    · rw [hj.joins_eq]
      exact List.mem_cons_of_mem _ hid
  have hold (s : TaskMeta × TaskId) (hs : s ∈ spawns rt.trace) :
      s.2 ∈ joins rt'.trace ∨ ∃ t ∈ rt'.joinSet.tasks, t.id = s.2 := by
    rcases hI s hs with hj | ⟨t, ht, hid⟩
    · exact .inl (hjoins _ hj)
    · rcases h.tasks_to hwf ht with ⟨u, hu, hlater⟩ | ⟨-, accepted, hj⟩
      · exact .inr ⟨u, hu, hlater.id.trans hid⟩
      · rw [hj.joins_eq, hid]
        exact .inl List.mem_cons_self
  intro s hs
  rcases h.spawns_eq hwf with heq | ⟨key, e, hsp⟩
  · exact hold s (heq ▸ hs)
  · rw [hsp.spawns_eq] at hs
    rcases List.mem_cons.1 hs with rfl | hs
    · rw [hsp.joinSet]
      exact .inr ⟨_, List.mem_append_right _ (List.mem_singleton_self _), rfl⟩
    · exact hold s hs

/-- The task is one of a present child. -/
def SupervisorRuntime.Claims (rt : SupervisorRuntime) (t : Task) : Prop :=
  ∃ e, rt.children.get t.info.key = some e ∧ e.instanceId = t.info.instanceId

theorem SupervisorRuntime.Claims.handle {t : Task} (h : rt.Claims t) (hown : rt.Owned True)
    (ht : t ∈ rt.joinSet.tasks) :
    ∃ e, rt.children.get t.info.key = some e ∧ e.instanceId = t.info.instanceId ∧
      e.runtime.abortHandle = some t.id := by
  obtain ⟨e, he, hi⟩ := h
  exact ⟨e, he, hi, (hown.current t ht e he hi).2 (.inl trivial)⟩

theorem SupervisorRuntime.Claims.not_quiet {t : Task} (h : rt.Claims t) (hown : rt.Owned True)
    (ht : t ∈ rt.joinSet.tasks) : ¬ rt.Quiet := by
  intro hq
  obtain ⟨e, he, -, hh⟩ := h.handle hown ht
  rw [(hq _ e he).2] at hh
  cases hh

theorem Spawns.claims {t : Task} {e : ChildEntry} (h : Spawns c rt t.info.key e rt')
    (hi : t.info.instanceId = e.instanceId) : rt'.Claims t := by
  cases h with
  | started he _ _ => exact ⟨_, spawned_get he, hi.symm⟩
  | restarted he _ _ => exact ⟨_, spawned_get he, hi.symm⟩
  | added hv _ => exact ⟨_, spawned_get (inserted_get hv _), hi.symm⟩

/-- A task loses its child only where the child is detached. -/
theorem Update.claims_to (h : Update c a c' rt rt') (hwf : rt.Wf) (hown : rt.Owned True) {u t : Task}
    (hu : u ∈ rt.joinSet.tasks) (hlater : Task.Later a u t) (hI : rt.Claims u) :
    rt'.Claims t ∨ ∃ e, rt = c.rt ∧ c.ctrl.detaches = some u.info.key ∧
      rt.children.get u.info.key = some e ∧ e.runtime.abortHandle = some u.id := by
  obtain ⟨e, he, hi, hh⟩ := hI.handle hown hu
  rcases h.entry_to hwf he with ⟨e', he', hev⟩ | hdel
  · exact .inl ⟨e', hlater.info ▸ he', hev.instanceId.trans (hlater.info ▸ hi)⟩
  · have hstopped (hs : e.runtime.state = .stopped) : e.runtime.abortHandle = none := by
      simpa [hs] using (hwf.ok he).handle
    cases hdel.cause with
    | removing _ hs | removed _ hs _ _ =>
      rw [hstopped hs] at hh
      cases hh
    | detached hrt hc => exact .inr ⟨e, hrt, by rw [hc]; rfl, he, hh⟩

/-- Every unjoined task is one of a present child. -/
def SupervisorRuntime.Claimed (rt : SupervisorRuntime) : Prop :=
  ∀ t ∈ rt.joinSet.tasks, rt.Claims t

theorem SupervisorRuntime.Claimed.tasks_of_quiet (h : rt.Claimed) (hown : rt.Owned True)
    (hq : rt.Quiet) : rt.joinSet.tasks = [] :=
  List.eq_nil_iff_forall_not_mem.2 fun t ht => (h t ht).not_quiet hown ht hq

theorem Update.claimed (h : Update c a c' rt rt') (hwf : rt.Wf) (hown : rt.Owned True)
    (hok : detachesJoined c = true) (hI : rt.Claimed) : rt'.Claimed := by
  intro t ht
  rcases h.tasks_from hwf ht with ⟨u, hu, hlater⟩ | ⟨e, hsp, hi⟩
  · rcases h.claims_to hwf hown hu hlater (hI u hu) with hc | ⟨e, rfl, hc, he, hh⟩
    · exact hc
    · simp [detachesJoined, hc, he, hh] at hok
  · exact hsp.claims hi

/-- Every unjoined task is one of a present child, or it was sent an abort. -/
def SupervisorRuntime.ClaimedOrAborted (rt : SupervisorRuntime) : Prop :=
  ∀ t ∈ rt.joinSet.tasks, t.abortRequested = true ∨ rt.Claims t

/-- The task of the child at `key` was sent an abort. -/
def SupervisorRuntime.SentAbort (rt : SupervisorRuntime) (key : ChildKey) : Prop :=
  ∀ e, rt.children.get key = some e → ∀ t ∈ rt.joinSet.tasks,
    e.runtime.abortHandle = some t.id → t.abortRequested = true

/-- A child is detached after its task was sent an abort. -/
theorem Update.claimedOrAborted (h : Update c a c' rt rt') (hwf : rt.Wf) (hown : rt.Owned True)
    (hdetach : ∀ key, c.ctrl.detaches = some key → c.rt.SentAbort key) (hI : rt.ClaimedOrAborted) :
    rt'.ClaimedOrAborted := by
  intro t ht
  rcases h.tasks_from hwf ht with ⟨u, hu, hlater⟩ | ⟨e, hsp, hi⟩
  · rcases hI u hu with haborted | hclaims
    · exact .inl (hlater.aborted haborted)
    · rcases h.claims_to hwf hown hu hlater hclaims with hc | ⟨e, rfl, hc, he, hh⟩
      · exact .inr hc
      · exact .inl (hlater.aborted (hdetach _ hc e he u hu hh))
  · exact .inr (hsp.claims hi)

end

/-! ### Aborts -/

/-- Every unjoined task was sent an abort. -/
def SupervisorRuntime.AllAborted (rt : SupervisorRuntime) : Prop :=
  ∀ t ∈ rt.joinSet.tasks, t.abortRequested = true

/-- `drain_children` is past its last aborts. -/
def Ctrl.lastSweep : Ctrl → Bool
  | .await (.drainAbortYield ..) _ | .await (.readyJoins _) (.push (.drainSecond ..) _)
  | .ret (.push (.drainSecond ..) _) _ => true
  | _ => false

section
variable {rt rt' : SupervisorRuntime} {ctrl ctrl' : Ctrl} {a : Act} {key : ChildKey} {e : ChildEntry}

namespace SupervisorRuntime

theorem KeepsAborts.tasks_nil (h : KeepsAborts rt rt') (hnil : rt.joinSet.tasks = []) :
    rt'.joinSet.tasks = [] := by
  refine List.eq_nil_iff_forall_not_mem.2 fun t ht => ?_
  obtain ⟨u, hu, -⟩ := h t ht
  rw [hnil] at hu
  cases hu

theorem AllAborted.mono (hI : rt.AllAborted) (h : KeepsAborts rt rt') : rt'.AllAborted := by
  intro t ht
  obtain ⟨u, hu, -, hsent⟩ := h t ht
  exact hsent (hI u hu)

theorem ClaimedOrAborted.allAborted_of_quiet (h : rt.ClaimedOrAborted) (hown : rt.Owned True)
    (hq : rt.Quiet) : rt.AllAborted :=
  fun t ht => (h t ht).resolve_right fun hc => hc.not_quiet hown ht hq

theorem mem_abort {js : JoinSet} {id : TaskId} {t : Task} (ht : t ∈ (js.abort id).tasks) :
    ∃ u ∈ js.tasks, t.id = u.id ∧ (u.abortRequested = true → t.abortRequested = true) ∧
      (t.id = id → t.abortRequested = true) := by
  obtain ⟨u, hu, rfl⟩ := List.mem_map.1 ht
  refine ⟨u, hu, ?_⟩
  split
  · exact ⟨rfl, fun _ => rfl, fun _ => rfl⟩
  · rename_i hne
    exact ⟨rfl, fun h => h, fun hid => absurd hid hne⟩

theorem sentAbort_abortedChild (he : rt.children.get key = some e) :
    (rt.abortedChild e).SentAbort key := by
  intro e' he' t ht hh
  rw [abortedChild_children, he] at he'
  cases he'
  simp only [abortedChild, hh] at ht
  obtain ⟨-, -, -, -, hsent⟩ := mem_abort ht
  exact hsent rfl

theorem sentAbort_sweep (hwf : (rt.abortMatchingChildren fun _ => true).Wf) (key : ChildKey) :
    (rt.abortMatchingChildren fun _ => true).SentAbort key := by
  intro e he t ht hh
  have hactive : (e.membership != .removed && e.runtime.state.isActive && true) = true := by
    have hok := hwf.ok he
    have hs : e.runtime.state ≠ .stopped := hok.handle.1 (by rw [hh]; rfl)
    simp [hok.membership, RuntimeChildState.isActive, hs]
  rw [abortMatchingChildren_children] at he
  refine foldl_of_mem (P := fun rt' : SupervisorRuntime => ∀ t ∈ rt'.joinSet.tasks,
    e.runtime.abortHandle = some t.id → t.abortRequested = true) (Q := fun _ => True)
      (Slab.mem_iter.2 ⟨key, he⟩) trivial (fun _ _ _ => trivial) (fun rt' _ => ?_) (fun rt' f h => ?_)
        t ht hh
  · simp only [hh, if_pos hactive]
    intro u hu hid
    obtain ⟨-, -, -, -, hsent⟩ := mem_abort hu
    exact hsent (Option.some.inj hid).symm
  · cases f.runtime.abortHandle with
    | none => exact h
    | some task =>
      by_cases hp : (f.membership != .removed && f.runtime.state.isActive && true) = true
      · simp only [if_pos hp]
        intro u hu hid
        obtain ⟨v, hv, hvid, hkeep, -⟩ := mem_abort hu
        exact hkeep (h v hv (hvid ▸ hid))
      · simp only [if_neg hp]
        exact h

end SupervisorRuntime

theorem Ctrl.detachKey_of_detaches (h : ctrl.detaches = some key) : ctrl.detachKey = some key := by
  unfold Ctrl.detaches at h
  split at h
  · rename_i f k v
    cases f <;> exact h
  · cases h

theorem Rule.sentAbort (h : Rule rt ctrl a rt' ctrl') (hk : ctrl'.detachKey = some key)
    (hI : ctrl.detachKey = some key → rt.SentAbort key) : rt'.SentAbort key := by
  cases h.detachStep hk with
  | goesOn hc hsame hkeeps =>
    intro e' he' t ht hh
    obtain ⟨e, he, hstays⟩ := hsame e' he'
    obtain ⟨u, hu, hid, hsent⟩ := hkeeps t ht
    rcases hstays.handle with hnone | hsame
    · rw [hnone] at hh
      cases hh
    · exact hsent (hI hc e he u hu (by rw [← hsame, hh, hid]))
  | @removal rt₁ e he hrt _ =>
    have hrt : rt' = rt₁.abortedChild e := hrt
    exact hrt ▸ sentAbort_abortedChild he
  | @timer l k e _ _ hl he hrt =>
    have hrt : rt' = rt.abortedChild e := hrt
    exact hrt ▸ sentAbort_abortedChild (hl ▸ he)

theorem Ctrl.lastSweep_of_drainsLast {timedOut : String} (h : ctrl.drainsLast = some timedOut) :
    ctrl.lastSweep = true := by
  cases ctrl with
  | ret k v =>
    cases k with
    | nil => cases h
    | push f k => cases f with
      | drainSecond => rfl
      | drainFirst reason | detachDrain _ reason => cases reason <;> cases h
      | _ => cases h
  | _ => cases h

theorem Ctrl.lastSweep_ret {fn : Fn} {k : Stack fn} {v : fn.Value}
    (h : (Ctrl.ret k v).lastSweep = true) : ∃ reason, fn = .drainReadyJoins reason := by
  cases k with
  | nil => cases h
  | push f k => cases f <;> first | exact ⟨_, rfl⟩ | cases h

theorem LoopHead.lastSweep (h : LoopHead rt rt' ctrl) : ctrl.lastSweep = false := by
  cases h <;> rfl

theorem Move.lastSweep (h : Move rt ctrl a ctrl') (hc : ctrl'.lastSweep = true) :
    ctrl.lastSweep = true := by
  cases h with
  | drainAbortYield => rfl
  | @readyEmpty reason k | @readyTimer reason k =>
    cases k with
    | push f k => cases f <;> exact hc
  | removalShutdownOk hr | removalJoinOk hr =>
    cases hr with
    | gone => obtain ⟨_, h⟩ := Ctrl.lastSweep_ret hc; cases h
    | wait => cases hc
  | detachYield | delayCheck | delayYield | zeroLoop | delayLoop | drainYield => cases hc
  | _ => obtain ⟨_, h⟩ := Ctrl.lastSweep_ret hc; cases h

theorem DrainNext.lastSweep {rt₁ : SupervisorRuntime} {reason : DrainReason}
    {k : Stack (.drainChildren reason)} (h : DrainNext rt₁ reason k rt' ctrl')
    (hc : ctrl'.lastSweep = true) : rt' = rt₁.abortMatchingChildren fun _ => true := by
  cases h with
  | abort => rfl
  | select => cases hc
  | done => obtain ⟨_, h⟩ := Ctrl.lastSweep_ret hc; cases h

theorem Rule.lastSweep (h : Rule rt ctrl a rt' ctrl') (hc : ctrl'.lastSweep = true) :
    ctrl.lastSweep = true ∧ rt.KeepsAborts rt' ∨
      ∃ rt₁ : SupervisorRuntime, rt' = rt₁.abortMatchingChildren fun _ => true := by
  have hret {fn : Fn} {k : Stack fn} {v : fn.Value} (hc : (Ctrl.ret k v).lastSweep = true)
      (hfn : ∀ reason, fn ≠ .drainReadyJoins reason) : False := by
    obtain ⟨reason, h⟩ := Ctrl.lastSweep_ret hc
    exact hfn reason h
  have hnone (hf : ctrl'.lastSweep = false) : False := by
    rw [hf] at hc
    cases hc
  cases h with
  | env henv => exact .inl ⟨hc, (envStep_frame henv).keepsAborts⟩
  | move hm => exact .inl ⟨hm.lastSweep hc, .of_joinSet rfl⟩
  | start hl => exact (hnone hl.lastSweep).elim
  | loop _ hl => exact (hnone hl.lastSweep).elim
  | command _ _ _ ho =>
    cases ho with
    | removeAbort | removeWait => cases hc
    | _ => exact (hret hc nofun).elim
  | join _ _ ho =>
    cases ho with
    | scheduledOne _ _ _ _ _ hp | scheduledAll _ _ _ _ _ hp => cases hp <;> cases hc
    | _ => exact (hret hc nofun).elim
  | readyJoin hf hd => exact .inl ⟨hc, hd.keepsAborts⟩
  | drainJoin _ _ hn => exact .inr ⟨_, hn.lastSweep hc⟩
  | drainNext _ hn => exact .inr ⟨_, hn.lastSweep hc⟩
  | removalSeen hr => cases hr with
    | gone => exact (hret hc nofun).elim
    | wait => cases hc
  | queued | shutdownDrained | replied | respawn | groupRespawn | tryRecvClosed | delayClosedPending
  | detachGone | detach => exact (hret hc nofun).elim
  | _ => cases hc

end

/-! ### A pending result -/

/-- The values with which a call gives way to a pending result. -/
def Fn.unwinds : (fn : Fn) → fn.Value → Bool
  | .queueShutdownExit, _ | .handleCommand, _ | .waitForRestartDelay, .ok false => true
  | .handleShutdownDuringControl, .error _ | .handleJoinDuringControl, .error _
  | .awaitChildRemoval, .error _ | .removeChild, .error _ => true
  | .handleOneForOneRestart, .ok _ | .handleOneForAllRestart, .ok _ | .handleJoinedChild, .ok _ => true
  | _, _ => false

/-- Control is on its way to the main loop, or the run is over. -/
def Ctrl.unwinds : Ctrl → Bool
  | @Ctrl.ret fn _ v => fn.unwinds v
  | .await .. => false
  | .finished _ | .panicked _ => true

section
variable {rt rt' : SupervisorRuntime} {ctrl ctrl' : Ctrl} {a : Act}

theorem AtLoop.joinSet {rt₁ : SupervisorRuntime} (h : AtLoop rt ctrl a rt₁) :
    rt₁.joinSet = rt.joinSet := by
  cases h <;> rfl

theorem LoopHead.joinSet (h : LoopHead rt rt' ctrl') : rt'.joinSet = rt.joinSet := by
  cases h <;> rfl

/-- While a result is pending the calls return one by one, up to the main loop. -/
theorem Move.unwinds (h : Move rt ctrl a ctrl') (hp : rt.pendingExit.isSome = true)
    (hu : ctrl.unwinds = true) : ctrl'.unwinds = true := by
  cases h with
  | controlJoinOk hn | zeroLoop hn | zeroEnd hn | delayLoop hn =>
    rw [hn] at hp
    cases hp
  | _ => first | rfl | cases hu | (rename_i v; cases v <;> first | rfl | cases hu)

theorem Rule.unwinds (h : Rule rt ctrl a rt' ctrl') (hp : rt.pendingExit.isSome = true)
    (hu : ctrl.unwinds = true) :
    ctrl'.unwinds = true ∧ rt.KeepsAborts rt' := by
  cases h with
  | env henv => exact ⟨hu, (envStep_frame henv).keepsAborts⟩
  | move hm => exact ⟨hm.unwinds hp hu, .of_joinSet rfl⟩
  | overflow | vacantOne | vacantAll | joinError | shutdownEnd | runEnd => exact ⟨rfl, .of_joinSet rfl⟩
  | loop hc hl =>
    refine ⟨?_, .of_joinSet (hl.joinSet.trans hc.joinSet)⟩
    cases hl with
    | exit _ | natural => rfl
    | wait hn =>
      rw [← hc.pendingExit, hn] at hp
      cases hp
  | queued v => exact ⟨rfl, .of_joinSet rfl⟩
  | replied v => exact ⟨rfl, .of_joinSet rfl⟩
  | shutdown hb _ _ => cases hb <;> cases hu
  | command hh _ _ _ => cases hh <;> cases hu
  | join hh _ _ => cases hh <;> cases hu
  | drainNext hd _ => cases hd <;> cases hu
  | _ => cases hu

/-! ### Successful ends -/

/-- A shutdown or the whole run has succeeded. -/
inductive Ctrl.Succeeds : Ctrl → Prop
  | drained {k : Stack (.drainChildren .shutdown)} : Succeeds (.ret k (.ok ()))
  | shutdown {k : Stack .shutdownAll} (x : SupervisorExit) : Succeeds (.ret k (.ok x))
  | run {k : Stack .run} (x : SupervisorExit) : Succeeds (.ret k (.ok x))
  | finished (x : SupervisorExit) : Succeeds (.finished (.ok x))

/-- What a step that succeeds leaves of the tasks. -/
inductive SuccessCause (rt : SupervisorRuntime) (ctrl : Ctrl) (rt' : SupervisorRuntime) : Prop
  | before (hs : ctrl.Succeeds) (ht : rt.KeepsAborts rt')
  | pending {x : SupervisorExit} (hp : rt.pendingExit = some (.ok x)) (ht : rt.KeepsAborts rt')
  | idle (hl : rt'.liveTasks = 0)
  | stopped (hn : rt'.activeTaskNames.isEmpty = true)
  | empty (hj : rt'.joinSet.isEmpty = true)
  | givenUp {timedOut : String} (hrt : rt' = rt) (hd : ctrl.drainsLast = some timedOut)
      (ht : timedOut.isEmpty = true) (hn : rt.activeTaskNames.isEmpty = false)

theorem DrainNext.succeeds {rt₁ : SupervisorRuntime} {reason : DrainReason}
    {k : Stack (.drainChildren reason)} (h : DrainNext rt₁ reason k rt' ctrl') (hs : ctrl'.Succeeds) :
    SuccessCause rt ctrl rt' := by
  cases h with
  | done hd =>
    rcases hd with hl | hn
    · exact .idle hl
    · exact .stopped hn
  | _ => cases hs

theorem Rule.succeeds (h : Rule rt ctrl a rt' ctrl')
    (hu : rt.pendingExit.isSome = true → ctrl.unwinds = true) (hs : ctrl'.Succeeds) :
    SuccessCause rt ctrl rt' := by
  cases h with
  | env henv => exact .before hs (envStep_frame henv).keepsAborts
  | move hm =>
    cases hm with
    | removalShutdownOk hr | removalJoinOk hr => cases hr <;> cases hs
    | drainGivenUp ht hn => exact .givenUp rfl rfl ht hn
    | _ => cases hs
  | start hl =>
    cases hl with
    | exit hp =>
      rw [spawnedAll_pendingExit] at hp
      have hp : rt.pendingExit = some _ := hp
      have := hu (by rw [hp]; rfl)
      cases this
    | natural _ hl _ => exact .idle hl
    | wait => cases hs
  | loop hc hl =>
    cases hl with
    | exit hp =>
      cases hs
      exact .pending (hc.pendingExit.symm.trans hp) (.of_joinSet hc.joinSet)
    | natural _ hl _ => exact .idle hl
    | wait => cases hs
  | natural hj => exact .empty hj
  | shutdownEnd v | runEnd v =>
    cases hs
    first | exact .before (.shutdown _) (.of_joinSet rfl) | exact .before (.run _) (.of_joinSet rfl)
  | shutdownDrained => exact .before .drained (.of_joinSet rfl)
  | command hh _ _ ho => cases ho <;> cases hs
  | join hh _ ho => cases ho <;> cases hs
  | drainJoin _ _ hn => exact hn.succeeds hs
  | drainNext _ hn => exact hn.succeeds hs
  | removalSeen hr => cases hr <;> cases hs
  | _ => cases hs

end

/-- `P` is what a success, or one that is pending, leaves behind. -/
structure Config.Leaves (P : SupervisorRuntime → Prop) (c : Config) : Prop where
  succeeds : c.ctrl.Succeeds → P c.rt
  pending : ∀ x, c.rt.pendingExit = some (.ok x) → P c.rt
  unwinds : c.rt.pendingExit.isSome = true → c.ctrl.unwinds = true

/-- A result becomes pending only where a shutdown queues it. -/
theorem step_pendingExit {c c' : Config} {a : Act} (hs : c.Sane) (hstep : step c a = some c') :
    c'.rt.pendingExit = c.rt.pendingExit ∨ c'.rt.pendingExit = none ∧ c'.ctrl.ended = true ∨
      ∃ k v, c.ctrl = .ret (.push .queueShutdown k) v ∧
        c' = ⟨{ c.rt with pendingExit := some v }, .ret k ()⟩ := by
  have hr := step_rule hs hstep
  by_cases heq : c'.rt.pendingExit = c.rt.pendingExit
  · exact .inl heq
  obtain ⟨-, hpend⟩ := (hr.updates hs.wf).invariant (I := fun rt => rt.pendingExit = c.rt.pendingExit ∨
      (∃ k v, c.ctrl = .ret (.push .queueShutdown k) v ∧ rt.pendingExit = some v) ∨
      rt.pendingExit = none ∧ c'.ctrl.ended = true) hs.wf (.inl rfl) fun rt rt' hwf hI hup => by
    rcases hup.pendingExit hwf with heq | hnew
    · rwa [heq]
    · exact .inr hnew
  rcases hpend with heq' | ⟨k, v, hc, hv⟩ | hend
  · exact absurd heq' heq
  · obtain ⟨rt, ctrl⟩ := c
    obtain ⟨rt', ctrl'⟩ := c'
    cases hc
    refine .inr (.inr ⟨k, v, rfl, ?_⟩)
    cases hr with
    | env henv => exact absurd (envStep_frame henv).pendingExit heq
    | overflow => exact absurd rfl heq
    | queued _ => rfl
    | move hm => cases hm
    | loop hc _ => cases hc
    | shutdown hb => cases hb
    | command hh => cases hh
    | join hh => cases hh
    | drainNext hd => cases hd
  · exact .inr (.inl hend)

theorem step_unwinds {c c' : Config} {a : Act} (hs : c.Sane) (hstep : step c a = some c')
    (h : c.rt.pendingExit.isSome = true → c.ctrl.unwinds = true) (hp : c'.rt.pendingExit.isSome = true) :
    c'.ctrl.unwinds = true := by
  rcases step_pendingExit hs hstep with heq | ⟨hnone, -⟩ | ⟨k, v, hc, rfl⟩
  · rw [heq] at hp
    exact ((step_rule hs hstep).unwinds hp (h hp)).1
  · rw [hnone] at hp
    cases hp
  · rfl

/-- `P` is left behind if no step without a spawn undoes it, it holds where every child is stopped, and
a drain that gives up has it. -/
theorem Config.Leaves.step {P : SupervisorRuntime → Prop} {c c' : Config} {a : Act} (h : c.Leaves P)
    (hs : c.Sane) (hmono : ∀ rt rt', P rt → rt.KeepsAborts rt' → P rt')
    (hgiven : ∀ timedOut, c.ctrl.drainsLast = some timedOut → timedOut.isEmpty = true →
      c.rt.activeTaskNames.isEmpty = false → P c.rt)
    (hown : c'.rt.Owned True) (hquiet : c'.rt.Quiet → P c'.rt)
    (hstep : TokioSupervisor.step c a = some c') : c'.Leaves P := by
  have hr := step_rule hs hstep
  have hwf' : c'.rt.Wf := ((hr.updates hs.wf).invariant hs.wf trivial fun _ _ _ _ _ => trivial).1
  refine ⟨fun hsucc => ?_, fun x hx => ?_, fun hp => step_unwinds hs hstep h.unwinds hp⟩
  · cases hr.succeeds h.unwinds hsucc with
    | before hs ht => exact hmono _ _ (h.succeeds hs) ht
    | pending hp ht => exact hmono _ _ (h.pending _ hp) ht
    | idle hl => exact hquiet (hown.quiet_of_liveTasks hwf' hl)
    | stopped hn => exact hquiet (quiet_of_activeTaskNames hwf' hn)
    | empty hj => exact hquiet (hown.quiet_of_isEmpty hwf' hj)
    | givenUp hrt hd ht hn => exact hrt ▸ hgiven _ hd ht hn
  · rcases step_pendingExit hs hstep with heq | ⟨hnone, -⟩ | ⟨k, v, hc, rfl⟩
    · rw [heq] at hx
      have hsome : c.rt.pendingExit.isSome = true := by rw [hx]; rfl
      exact hmono _ _ (h.pending x hx) (hr.unwinds hsome (h.unwinds hsome)).2
    · rw [hnone] at hx
      cases hx
    · cases hx
      exact hmono _ _ (h.succeeds (by rw [hc]; exact .shutdown x)) (.of_joinSet rfl)

theorem Config.Leaves.start {P : SupervisorRuntime → Prop} {config : SupervisorConfig}
    (h : config.Accepted) (env : StartEnv) : (Config.start config env).Leaves P := by
  have hnone : (Config.start config env).rt.pendingExit = none := (h.fresh env).pendingExit
  refine ⟨nofun, fun x hx => ?_, fun hp => ?_⟩
  · rw [hnone] at hx
    cases hx
  · rw [hnone] at hp
    cases hp

/-! ### Runs -/

theorem run_unwinds {config : SupervisorConfig} {env : StartEnv} {ok : Config → Act → Prop}
    {as : List Act} {c : Config} (h : config.Accepted)
    (hrun : Run step ok (Config.start config env) as c) :
    c.rt.pendingExit.isSome = true → c.ctrl.unwinds = true := by
  refine hrun.invariant_of (I := fun c => c.rt.pendingExit.isSome = true → c.ctrl.unwinds = true)
    (J := Config.Sane) (fun _ _ => run_sane h) (Config.Leaves.start (P := fun _ => True) h env).unwinds ?_
  exact fun c a c' hs hI _ hstep => step_unwinds hs hstep hI

/-- What the run relies on so that a success has joined every task. -/
def joinsBeforeOk (c : Config) : Bool :=
  restartsStopped c && instancesLeft c && detachesJoined c && drainsDry c

theorem joinsBeforeOk_iff {c : Config} : joinsBeforeOk c = true ↔
    restartsStopped c = true ∧ instancesLeft c = true ∧ detachesJoined c = true ∧
      drainsDry c = true := by
  simp only [joinsBeforeOk, Bool.and_eq_true, and_assoc]

/-- If the run has succeeded, no task is left and every spawned task was joined. -/
def Config.JoinsAll (c : Config) : Prop :=
  ∀ x, c.ctrl = .finished (.ok x) →
    c.rt.joinSet.tasks = [] ∧ ∀ s ∈ spawns c.rt.trace, s.2 ∈ joins c.rt.trace

/-- If the run has succeeded, every spawned task was joined or sent an abort. -/
def Config.JoinsOrAborts (c : Config) : Prop :=
  ∀ x, c.ctrl = .finished (.ok x) → ∀ s ∈ spawns c.rt.trace, s.2 ∈ joins c.rt.trace ∨
    ∃ t ∈ c.rt.joinSet.tasks, t.id = s.2 ∧ t.abortRequested = true

section
variable {config : SupervisorConfig} {env : StartEnv} {as : List Act} {c : Config}

theorem run_accounted {ok : Config → Act → Prop} (h : config.Accepted)
    (hrun : Run step ok (Config.start config env) as c) : c.rt.Accounted := by
  refine run_invariant h hrun (fun s hs => ?_) fun _ _ _ _ _ _ _ _ hwf hI hu => hu.accounted hwf hI
  rw [(h.fresh env).trace] at hs
  cases hs

/-- What holds in a run with one task for each child. -/
structure Config.OwnsTasks (c : Config) : Prop where
  sane : c.Sane
  untouched : c.ctrl = .await .runStart .nil → c.Untouched
  owned : c.rt.Owned True
  quiet : c.ctrl.GroupDrained → c.rt.Quiet

theorem run_ownsTasks {ok : Config → Act → Prop} (h : config.Accepted)
    (hok : ∀ c a, ok c a → restartsStopped c = true ∧ instancesLeft c = true)
    (hlt : (SupervisorRuntime.new config env).nextChildInstance < U64_MAX)
    (hrun : Run step ok (Config.start config env) as c) : c.OwnsTasks :=
  have hsingle := run_single h hok hlt hrun
  ⟨run_sane h hrun, run_untouched h hrun, hsingle.1, hsingle.2⟩

theorem Config.OwnsTasks.invariant {c c' : Config} {a : Act} {I : SupervisorRuntime → Prop}
    (h : c.OwnsTasks) (hstopped : restartsStopped c = true) (hleft : instancesLeft c = true)
    (hstep : step c a = some c')
    (hI : ∀ rt rt', rt.Wf → rt.Owned True → I rt → Update c a c' rt rt' → I rt') (hc : I c.rt) :
    I c'.rt := by
  refine (((step_rule h.sane hstep).updates h.sane.wf).invariant (I := fun rt => rt.Owned True ∧ I rt)
    h.sane.wf ⟨h.owned, hc⟩ ?_).2.2
  intro rt rt' hwf ⟨hown, hc⟩ hu
  exact ⟨hu.owned h.sane (fun _ => hstopped) (restartsTold_of_stopped hstopped) hleft h.untouched h.quiet
    hwf hown, hI rt rt' hwf hown hc hu⟩

theorem start_tasks (h : config.Accepted) (env : StartEnv) :
    (Config.start config env).rt.joinSet.tasks = [] :=
  congrArg JoinSet.tasks (h.fresh env).joinSet

theorem run_claimed {ok : Config → Act → Prop} (h : config.Accepted)
    (hok : ∀ c a, ok c a →
      restartsStopped c = true ∧ instancesLeft c = true ∧ detachesJoined c = true)
    (hlt : (SupervisorRuntime.new config env).nextChildInstance < U64_MAX)
    (hrun : Run step ok (Config.start config env) as c) : c.rt.Owned True ∧ c.rt.Claimed := by
  have howns {as : List Act} {c : Config} (hrun : Run step ok (Config.start config env) as c) :
      c.OwnsTasks := run_ownsTasks h (fun c a ha => ⟨(hok c a ha).1, (hok c a ha).2.1⟩) hlt hrun
  refine ⟨(howns hrun).owned, hrun.invariant_of (I := fun c => c.rt.Claimed) (J := Config.OwnsTasks)
    (fun _ _ => howns) (fun t ht => by rw [start_tasks h env] at ht; cases ht) ?_⟩
  intro c a c' hJ hI hok' hstep
  obtain ⟨hstopped, hleft, hdetach⟩ := hok c a hok'
  exact hJ.invariant hstopped hleft hstep (fun _ _ hwf hown hI hu => hu.claimed hwf hown hdetach hI) hI

/-- In every run that detaches no child with a live task, and gives up no shutdown with aborted tasks
left, a run that has returned `Ok` has joined every task it spawned. -/
theorem run_joined (h : config.Accepted)
    (hrun : Run step (fun c _ => joinsBeforeOk c = true) (Config.start config env) as c) :
    c.JoinsAll := by
  rcases hrun.ok_start with rfl | ⟨-, hok⟩
  · exact fun x hx => by cases hx
  · have hlt : (SupervisorRuntime.new config env).nextChildInstance < U64_MAX :=
      of_decide_eq_true (joinsBeforeOk_iff.1 hok).2.1
    have hclaims (c : Config) (_ : Act) (hok : joinsBeforeOk c = true) :
        restartsStopped c = true ∧ instancesLeft c = true ∧ detachesJoined c = true :=
      have hok := joinsBeforeOk_iff.1 hok
      ⟨hok.1, hok.2.1, hok.2.2.1⟩
    have hleaves : c.Leaves (·.joinSet.tasks = []) := by
      refine hrun.invariant_on (I := Config.Leaves (·.joinSet.tasks = []))
        (J := fun c => c.Sane ∧ c.rt.Owned True ∧ c.rt.Claimed)
        (fun _ _ h' => ⟨run_sane h h', run_claimed h hclaims hlt h'⟩) (.start h env) ?_
      intro c a c' hJ hJ' hI hok hstep
      refine hI.step hJ.1 (fun _ _ hnil ht => ht.tasks_nil hnil) (fun timedOut hd ht hn => ?_) hJ'.2.1
        (hJ'.2.2.tasks_of_quiet hJ'.2.1) hstep
      have hdry := (joinsBeforeOk_iff.1 hok).2.2.2
      simp [drainsDry, hd, ht, hn] at hdry
    intro x hx
    have hnil := hleaves.succeeds (by rw [hx]; exact .finished x)
    refine ⟨hnil, fun s hs => ?_⟩
    rcases run_accounted h hrun s hs with hj | ⟨t, ht, -⟩
    · exact hj
    · rw [hnil] at ht
      cases ht

/-- Where a run stands with its aborts: what may be left unjoined was sent one. -/
structure Config.Aborting (c : Config) : Prop where
  tasks : c.rt.ClaimedOrAborted
  detaching : ∀ key, c.ctrl.detachKey = some key → c.rt.SentAbort key
  sweeping : c.ctrl.lastSweep = true → c.rt.AllAborted
  leaves : c.Leaves SupervisorRuntime.AllAborted

theorem Config.Aborting.start (h : config.Accepted) (env : StartEnv) :
    (Config.start config env).Aborting := by
  refine ⟨fun t ht => ?_, fun _ => nofun, nofun, .start h env⟩
  rw [start_tasks h env] at ht
  cases ht

theorem Config.Aborting.step {c c' : Config} {a : Act} (h : c.Aborting) (hown : c.OwnsTasks)
    (hown' : c'.OwnsTasks) (hstopped : restartsStopped c = true) (hleft : instancesLeft c = true)
    (hstep : TokioSupervisor.step c a = some c') : c'.Aborting := by
  have hr := step_rule hown.sane hstep
  have htasks : c'.rt.ClaimedOrAborted := by
    refine hown.invariant hstopped hleft hstep (fun rt rt' hwf hown hI hu => ?_) h.tasks
    exact hu.claimedOrAborted hwf hown (fun key hk => h.detaching key (Ctrl.detachKey_of_detaches hk)) hI
  refine ⟨htasks, fun key hk => hr.sentAbort hk (h.detaching key), fun hc => ?_, ?_⟩
  · rcases hr.lastSweep hc with ⟨hc, hkeeps⟩ | ⟨rt₁, hrt⟩
    · exact (h.sweeping hc).mono hkeeps
    · intro t ht
      rcases htasks t ht with haborted | hclaims
      · exact haborted
      -- The child's task is the one of its handle, which the sweep has reached.
      · obtain ⟨e, he, -, hh⟩ := hclaims.handle hown'.owned ht
        have hwf := hown'.sane.wf
        rw [hrt] at hwf he ht
        exact sentAbort_sweep hwf _ e he t ht hh
  · exact h.leaves.step hown.sane (fun _ _ => .mono)
      (fun _ hd _ _ => h.sweeping (Ctrl.lastSweep_of_drainsLast hd)) hown'.owned
      (htasks.allAborted_of_quiet hown'.owned) hstep

/-- A run that has returned `Ok` has joined every task it spawned, or has sent it an abort. It has joined
every task where it detaches no child with a live task and no shutdown gives up aborted tasks. -/
theorem run_joinsOrAborts (h : config.Accepted)
    (hrun : Run step (fun c _ => (restartsStopped c && instancesLeft c) = true)
      (Config.start config env) as c) :
    c.JoinsOrAborts ∧
      (Run step (fun c _ => joinsBeforeOk c = true) (Config.start config env) as c → c.JoinsAll) := by
  refine ⟨?_, run_joined h⟩
  rcases hrun.ok_start with rfl | ⟨-, hok⟩
  · exact fun x hx => by cases hx
  · rw [Bool.and_eq_true] at hok
    have hlt : (SupervisorRuntime.new config env).nextChildInstance < U64_MAX := of_decide_eq_true hok.2
    have haborting : c.Aborting := by
      refine hrun.invariant_on (J := Config.OwnsTasks) (fun _ _ h' => ?_) (.start h env) ?_
      · exact run_ownsTasks h (fun _ _ hok => by simpa using hok) hlt h'
      · intro c a c' hown hown' hI hok hstep
        rw [Bool.and_eq_true] at hok
        exact hI.step hown hown' hok.1 hok.2 hstep
    intro x hx s hs
    have hall := haborting.leaves.succeeds (by rw [hx]; exact .finished x)
    rcases run_accounted h hrun s hs with hj | ⟨t, ht, hid⟩
    · exact .inl hj
    · exact .inr ⟨t, ht, hid, hall t ht⟩

end

/-! ### Aborted tasks that are left -/

/-- One child, which is aborted on shutdown. -/
def abortConfig : SupervisorConfig :=
  { slotConfig with children := slotConfig.children.take 1 }

theorem abortConfig_accepted : abortConfig.Accepted :=
  ⟨⟨abortConfig.strategy, abortConfig.restartIntensity, abortConfig.children, 8, 8⟩, rfl⟩

def Ctrl.shutDown : Ctrl → Bool
  | .finished (.ok .shutdown) => true
  | _ => false

theorem Ctrl.shutDown_iff {ctrl : Ctrl} : ctrl.shutDown = true ↔ ctrl = .finished (.ok .shutdown) := by
  constructor
  · intro h
    unfold shutDown at h
    split at h
    · rfl
    · cases h
  · rintro rfl
    rfl

/-- The aborted task does not end at its next polls, and the shutdown returns without it. -/
theorem unjoined_task_reached : abortConfig.Accepted ∧ ∃ c,
    AnyRun step (Config.start abortConfig ⟨false, 0, 0⟩)
      [.run .go, .requestShutdown, .run .shutdown, .run .go, .run .timer, .resume, .run .go,
        .run .timer, .resume, .resume, .resume] c ∧ ¬ c.JoinsAll := by
  have hex : ∃ c, AnyRun step (Config.start abortConfig ⟨false, 0, 0⟩)
      [.run .go, .requestShutdown, .run .shutdown, .run .go, .run .timer, .resume, .run .go,
        .run .timer, .resume, .resume, .resume] c ∧
      (c.ctrl.shutDown, c.rt.joinSet.tasks.length, (joins c.rt.trace).length) = (true, 1, 0) :=
    anyRun_of_exec (by decide +kernel)
  obtain ⟨c, hrun, hc⟩ := hex
  simp only [Prod.mk.injEq] at hc
  refine ⟨abortConfig_accepted, c, hrun, fun h => ?_⟩
  have hnil := (h .shutdown (Ctrl.shutDown_iff.1 hc.1)).1
  rw [hnil] at hc
  exact absurd hc.2.1 nofun

/-- Both ends of a shutdown: the aborted task is left, or it ends before the drain looks at it. -/
theorem run_joinsOrAborts_shutdown : ∃ c c' : Config,
    (c.JoinsOrAborts ∧ c.ctrl = .finished (.ok .shutdown) ∧ joins c.rt.trace = []) ∧
      c'.JoinsAll ∧ c'.ctrl = .finished (.ok .shutdown) ∧ joins c'.rt.trace = [0] := by
  have hleft : ∃ c, Run step (fun c _ => (restartsStopped c && instancesLeft c) = true)
      (Config.start abortConfig ⟨false, 0, 0⟩)
      [.run .go, .requestShutdown, .run .shutdown, .run .go, .run .timer, .resume, .run .go,
        .run .timer, .resume, .resume, .resume] c ∧
      (c.ctrl.shutDown, joins c.rt.trace) = (true, []) := run_of_execIf_map (by decide +kernel)
  have hjoined : ∃ c, Run step (fun c _ => joinsBeforeOk c = true)
      (Config.start abortConfig ⟨false, 0, 0⟩)
      [.run .go, .requestShutdown, .run .shutdown, .finish 0 .cancelled, .run .go, .run (.join 0),
        .run .joinNone, .resume, .resume, .resume] c ∧
      (c.ctrl.shutDown, joins c.rt.trace) = (true, [0]) := run_of_execIf_map (by decide +kernel)
  obtain ⟨c, hrun, hc⟩ := hleft
  obtain ⟨c', hrun', hc'⟩ := hjoined
  have hrun₀ : Run step (fun c _ => (restartsStopped c && instancesLeft c) = true)
      (Config.start abortConfig ⟨false, 0, 0⟩) _ c' :=
    hrun'.mono fun _ _ hok => by
      obtain ⟨hstopped, hleft, -⟩ := joinsBeforeOk_iff.1 hok
      rw [hstopped, hleft]
      rfl
  exact ⟨c, c', ⟨(run_joinsOrAborts abortConfig_accepted hrun).1, Ctrl.shutDown_iff.1 (Prod.mk.inj hc).1,
    (Prod.mk.inj hc).2⟩, (run_joinsOrAborts abortConfig_accepted hrun₀).2 hrun',
    Ctrl.shutDown_iff.1 (Prod.mk.inj hc').1, (Prod.mk.inj hc').2⟩

end TokioSupervisor
