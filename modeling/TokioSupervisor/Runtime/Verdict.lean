import TokioSupervisor.Runtime.Endings
import TokioSupervisor.Runtime.Tasks

/-!
# The verdict of a natural exit

`finish_natural_exit` says `Failed` if a terminal status says so. A terminal status agrees with the last
exit where there is one (`Agrees`), and a stopped child whose last exit is a failure without one is
covered by a suspended call, as long as no drain consumes the failure of a child that nobody will see to
(`keepsFailures`). When the run ends naturally nothing is suspended, so the verdict is right. The drain
of `abort_and_detach_child` does consume such failures (`wrong_verdict_reached`).
-/

namespace TokioSupervisor
open Lib SupervisorRuntime

/-! ### Entries -/

namespace ChildEntry

/-- The most recently recorded exit is a failure. -/
def failed (e : ChildEntry) : Bool := e.lastExit.any (·.isFailure)

/-- The terminal status is a failure. -/
def condemned (e : ChildEntry) : Bool := e.terminalStatus.any (·.isFailure)

/-- A terminal status belongs to a stopped child and agrees with its last exit. -/
def Agrees (e : ChildEntry) : Prop :=
  ∀ s, e.terminalStatus = some s → e.runtime.state = .stopped ∧
    ∃ v, e.lastExit = some v ∧ v.isFailure = s.isFailure

/-- The exit of a removal is to come, or a failure has not become a terminal status. -/
def Unsettled (e : ChildEntry) : Prop :=
  e.membership = .removing ∧ e.live = true ∨
    e.runtime.state = .stopped ∧ e.failed = true ∧ e.condemned = false

theorem Agrees.failed {e : ChildEntry} (h : e.Agrees) (hc : e.condemned = true) : e.failed = true := by
  obtain ⟨s, hs, hf⟩ := (Option.any_eq_true _ _).1 hc
  obtain ⟨-, v, hv, heq⟩ := h s hs
  simp [ChildEntry.failed, hv, heq, hf]

theorem Agrees.none_of_active {e : ChildEntry} (h : e.Agrees) (hs : e.runtime.state ≠ .stopped) :
    e.terminalStatus = none := by
  cases ht : e.terminalStatus with
  | none => rfl
  | some s => exact absurd (h s ht).1 hs

theorem terminated_terminalStatus (e : ChildEntry) (generation : Nat) (isFailure : Bool) :
    (e.terminated generation isFailure).terminalStatus = some ⟨generation, isFailure⟩ ∨
      e.terminated generation isFailure = e := by
  unfold terminated
  split
  · split
    · exact .inr rfl
    · exact .inl rfl
  · exact .inl rfl

end ChildEntry

theorem ChildEntry.Evolves.agrees {c c' : Config} {a : Act} {trace : List Action} {key : ChildKey}
    {e e' : ChildEntry} (h : e.Evolves c a c' trace key e')
    (hlive : ∀ t e, t ∈ c.rt.joinSet.tasks → c.rt.Current t.info e → e.runtime.state ≠ .stopped)
    (he : e.Agrees) : e'.Agrees := by
  cases h with
  | same hs =>
    intro s ht
    rw [hs.terminalStatus] at ht
    rw [hs.state, hs.lastExit]
    exact he s ht
  | @terminated generation status hl hs =>
    rcases e.terminated_terminalStatus generation status.isFailure with ht | heq
    · intro s hs'
      rw [ht] at hs'
      cases hs'
      exact ⟨by simpa using hs, status.view, by simpa using hl, by simp⟩
    · rwa [heq]
  | requested _ _ _ =>
    intro s ht
    obtain ⟨hs, hv⟩ := he s ht
    exact ⟨by simp [ChildEntry.requested, RuntimeChildState.isActive, hs], hv⟩
  | stopped ha hf hc hk =>
    intro s ht
    cases (he.none_of_active (hlive _ e hf.mem hc)).symm.trans ht
  | started =>
    intro s ht
    cases ht
  | stopping =>
    unfold ChildEntry.stopping
    split
    · rename_i hcount
      intro s ht
      have hs := (he s ht).1
      simp [ChildEntry.counts, countsAsRunning, hs] at hcount
    · exact he

/-- Where an unsettled entry comes from: it was unsettled before, its removal has just begun, or its
task has just exited. -/
inductive UnsettledFrom (c : Config) (a : Act) (c' : Config) (rt : SupervisorRuntime) (key : ChildKey)
    (e' : ChildEntry) : Prop
  | before {e : ChildEntry} (he : rt.children.get key = some e) (hu : e.Unsettled)
      (hm : e'.membership = e.membership) (hr : e'.respawns = e.respawns)
  | removal (hc : c'.ctrl.StartsRemoval key)
  | exit {t : Task} {e : ChildEntry} {outcome : TaskOutcome} (ha : a = .run (.join t.id))
      (hf : c.rt.Finished t outcome) (hc : c.rt.Current t.info e) (hk : t.info.key = key)
      (hm : e'.membership = e.membership) (hr : e'.respawns = e.respawns)

theorem Update.unsettled {c c' : Config} {a : Act} {rt rt' : SupervisorRuntime}
    (h : Update c a c' rt rt') (hwf : rt.Wf) (hstart : c.ctrl = .await .runStart .nil → c.Untouched)
    {key : ChildKey} {e' : ChildEntry} (he' : rt'.children.get key = some e') (hu : e'.Unsettled) :
    UnsettledFrom c a c' rt key e' := by
  rcases h.entry_from hwf he' with ⟨e, he, hev⟩ | ⟨child, token, nested, task, rfl⟩
  · cases hev with
    | same hs =>
      refine .before he ?_ hs.membership (by simp [ChildEntry.respawns, hs.membership, hs.spec])
      simpa [ChildEntry.Unsettled, ChildEntry.live, ChildEntry.failed, ChildEntry.condemned,
        hs.membership, hs.abortHandle, hs.state, hs.lastExit, hs.terminalStatus] using hu
    | @terminated generation status hl hs =>
      refine .before he ?_ (by simp) (by simp [ChildEntry.respawns])
      rcases e.terminated_terminalStatus generation status.isFailure with ht | heq
      · refine hu.imp (by simp [ChildEntry.live]) ?_
        rintro ⟨-, hf, hc⟩
        simp [ChildEntry.failed, ChildEntry.condemned, ht, hl] at hf hc
        cases hf.symm.trans hc
      · rwa [heq] at hu
    | requested _ _ hc => exact .removal hc
    | stopped ha hf hc hk => exact .exit ha hf hc hk rfl rfl
    | started token nested task hm =>
      rcases hu with ⟨hrem, -⟩ | ⟨hs, -⟩
      · have hact : e.membership = .active := by
          rcases hm with hm | ⟨hc, he₀⟩
          · exact hm
          · exact ((hstart hc).unborn key e he₀).membership
        cases hact.symm.trans hrem
      · cases hs
    | stopping =>
      have hcases : e.stopping = e.cancelled ∨ e.stopping = e := by
        unfold ChildEntry.stopping
        split
        · exact .inl rfl
        · exact .inr rfl
      rcases hcases with heq | heq
      · rw [heq] at hu ⊢
        rcases hu with hu | ⟨hs, -⟩
        · exact .before he (.inl hu) rfl rfl
        · cases hs
      · rw [heq] at hu ⊢
        exact .before he hu rfl rfl
  · rcases hu with ⟨hrem, -⟩ | ⟨hs, -⟩
    · cases hrem
    · cases hs

theorem Updates.unsettled {c c' : Config} {a : Act} {rt : SupervisorRuntime}
    (h : Updates c a c' c.rt rt) (hwf : c.rt.Wf)
    (hstart : c.ctrl = .await .runStart .nil → c.Untouched) {key : ChildKey} {e' : ChildEntry}
    (he' : rt.children.get key = some e') (hu : e'.Unsettled) : UnsettledFrom c a c' c.rt key e' := by
  refine (h.invariant (I := fun rt => ∀ key e', rt.children.get key = some e' → e'.Unsettled →
    UnsettledFrom c a c' c.rt key e') hwf (fun key e' he' hu => .before he' hu rfl rfl) ?_).2 key e' he' hu
  intro rt rt' hwf hI hup key e' he' hu
  cases hup.unsettled hwf hstart he' hu with
  | before he hu hm hr =>
    cases hI key _ he hu with
    | before he hu hm' hr' => exact .before he hu (hm.trans hm') (hr.trans hr')
    | removal hc => exact .removal hc
    | exit ha hf hc hk hm' hr' => exact .exit ha hf hc hk (hm.trans hm') (hr.trans hr')
  | removal hc => exact .removal hc
  | exit ha hf hc hk hm hr => exact .exit ha hf hc hk hm hr

/-! ### Exits -/

theorem ChildEntry.stopped_unsettled {e : ChildEntry} {status : ExitStatus}
    (h : (e.stopped status).Unsettled) : status.isFailure = true := by
  rcases h with ⟨-, hl⟩ | ⟨-, hf, -⟩
  · exact absurd hl nofun
  · simpa [ChildEntry.failed, ChildEntry.stopped] using hf

theorem ChildEntry.stopped_settled {e : ChildEntry} (hn : e.terminalStatus = none) (generation : Nat)
    (status : ExitStatus) : ¬ ((e.stopped status).terminated generation status.isFailure).Unsettled := by
  have hs : (e.stopped status).terminalStatus = none := hn
  rintro (⟨-, hl⟩ | ⟨-, hf, hc⟩)
  · simp [ChildEntry.live, ChildEntry.stopped] at hl
  · simp [ChildEntry.failed, ChildEntry.condemned, ChildEntry.terminated, hs] at hf hc
    simp [ChildEntry.stopped, hc] at hf

/-- The exit of an active child is covered or settled, unless `drain_ready_joins` consumes it. -/
theorem ExitStep.unsettled {rt rt' : SupervisorRuntime} {ctrl ctrl' : Ctrl} {t : Task}
    {outcome : TaskOutcome} (h : ExitStep rt t outcome ctrl rt' ctrl') (hn : ¬ ctrl.Halts)
    {e e' : ChildEntry} (hc : rt.Current t.info e) (hm : e.membership = .active)
    (ht : e.terminalStatus = none) (he' : rt'.children.get t.info.key = some e')
    (hu : e'.Unsettled) : Covered t.info.key e ⟨rt', ctrl'⟩ ∨
      ∃ reason k, ctrl = .await (.readyJoins reason) k ∧ ctrl' = .await (.readyJoins reason) k ∧
        outcome.status.isFailure = true ∧
        ¬ (reason = .groupRestart ∧ e.runtime.spec.restart = .temporary) := by
  have hset {f : ChildEntry} (he : ((rt.exited t e outcome).setEntry t.info.key f).children.get
      t.info.key = some e') : f = e' := by
    rw [SupervisorRuntime.setEntry, Slab.get_set_self (exited_get hc outcome)] at he
    exact Option.some.inj he
  have hrespawns (hr : e.runtime.spec.restart ≠ .temporary) : e.respawns = true := by
    simp [ChildEntry.respawns, hm, hr]
  cases h with
  | join hh ho =>
    refine .inl ?_
    cases ho with
    | stale hno => exact absurd ⟨e, hc⟩ hno
    | stopping _ hs => exact .halted (by rw [exited_state, hs]; decide)
    | removed hc' _ hm' =>
      cases hc.get.symm.trans hc'.get
      cases hm.symm.trans hm'
    | settled hc' _ _ _ =>
      cases hc.get.symm.trans hc'.get
      rw [← hset he'] at hu
      exact absurd hu (ChildEntry.stopped_settled ht _ _)
    | overrunOne | overrunAll => exact .erring (Option.some_ne_none _)
    | scheduledOne => exact .covers (by simp [Frame.cover, Cover.meets, hm])
    | scheduledAll hc' _ _ hr =>
      cases hc.get.symm.trans hc'.get
      have hne : e.runtime.spec.restart ≠ .temporary := fun ht => by simp [ht, Restart.shouldRestart] at hr
      exact .covers (by simp [Frame.cover, Cover.meets, hrespawns hne])
  | ready hd =>
    refine .inr ⟨_, _, rfl, rfl, ?_⟩
    cases hd with
    | stale hno => exact absurd ⟨e, hc⟩ hno
    | exited hc' hr =>
      cases hc.get.symm.trans hc'.get
      cases (exited_get hc outcome).symm.trans he'
      exact ⟨ChildEntry.stopped_unsettled hu, hr⟩
    | temporary hc' _ _ =>
      cases hc.get.symm.trans hc'.get
      rw [← hset he'] at hu
      exact absurd hu (ChildEntry.stopped_settled ht _ _)
  | @drain reason deadline k rt₁ _ _ hd hnext =>
    rw [hnext.children] at he'
    have hreason : reason = .groupRestart := by
      cases k with
      | push f k => cases f with
        | shutdownDrain => exact absurd (.inl rfl) hn
        | groupDrain => rfl
    subst hreason
    cases hd with
    | stale hno => exact absurd ⟨e, hc⟩ hno
    | exited hc' hr =>
      cases hc.get.symm.trans hc'.get
      refine .inl (hnext.covered hn ?_)
      cases k with
      | push f k => cases f with
        | groupDrain => cases k with
          | push f k => cases f with
            | oneForAllDrain =>
              simp [Frame.cover, Cover.meets, hrespawns fun ht => hr ⟨rfl, ht⟩]
    | temporary hc' _ _ =>
      cases hc.get.symm.trans hc'.get
      rw [← hset he'] at hu
      exact absurd hu (ChildEntry.stopped_settled ht _ _)

theorem Ctrl.StartsRemoval.covers {key : ChildKey} {ctrl : Ctrl} (h : ctrl.StartsRemoval key)
    (e : ChildEntry) : ctrl.covers key e = true := by
  cases h with
  | abort => simp [Await.cover, Cover.meets]
  | wait hl => simp [Await.cover, Cover.meets, hl]

/-! ### Runs -/

/-- The failure of this task, if it is that of an active child, becomes a terminal status or is that of
a child that the calls on the stack will see to. -/
def SupervisorRuntime.failureMet (rt : SupervisorRuntime) (reason : DrainReason) (id : TaskId) {fn : Fn}
    (k : Stack fn) : Bool :=
  (rt.joinSet.find id).all fun t => (rt.children.get t.info.key).all fun e =>
    !(e.instanceId == t.info.instanceId && e.runtime.generation == t.info.generation &&
      e.membership == .active && t.outcome.any (·.status.isFailure)) ||
    (decide (reason = .groupRestart) && e.runtime.spec.restart == .temporary) || k.covers t.info.key e

/-- While the supervisor runs, `drain_ready_joins` only consumes the failure of a child where it
becomes a terminal status or a suspended call will see to that child, and no removal gives up on a
child whose failure has not become a terminal status. -/
def keepsFailures (c : Config) (a : Act) : Bool :=
  match c.ctrl, a with
  | .await (.readyJoins reason) k, .run (.join id) =>
    c.rt.state != .running || c.rt.failureMet reason id k
  | .await (.removalSelect l) k, .run .joinNone =>
    (c.rt.children.get l.key).all fun e =>
      !(e.runtime.state == .stopped && e.failed && !e.condemned) || k.covers l.key e
  | _, _ => true

/-- A run that has ended, and not by a shutdown, returned `Failed` if the last exit of some child that is
still there is a failure, and `Completed` if not. -/
def Config.Verdict (c : Config) : Prop :=
  ∀ x, c.ctrl = .finished (.ok x) → x ≠ .shutdown → (x = .failed ∨ x = .completed) ∧
    (x = .failed ↔ ∃ key e, c.rt.children.get key = some e ∧ e.failed = true)

/-- While the supervisor runs, a suspended call will see to every unsettled child. -/
structure Config.Judging (c : Config) : Prop where
  agrees : ∀ key e, c.rt.children.get key = some e → e.Agrees
  covered : ∀ key e, c.rt.children.get key = some e → e.Unsettled → c.rt.state = .running →
    c.ctrl.erring = none → c.ctrl.ended = false → c.ctrl.covers key e = true
  verdict : c.Verdict

theorem SupervisorRuntime.naturalExit_failed {rt : SupervisorRuntime} (hwf : rt.Wf) :
    (rt.naturalExit = .failed ∨ rt.naturalExit = .completed) ∧
      (rt.naturalExit = .failed ↔ ∃ key e, rt.children.get key = some e ∧ e.condemned = true) := by
  have hiff : ((rt.childOrder.filterMap rt.children.get).any fun entry =>
      entry.terminalStatus.any (·.isFailure)) = true ↔
        ∃ key e, rt.children.get key = some e ∧ e.condemned = true := by
    simp only [List.any_eq_true, List.mem_filterMap]
    constructor
    · rintro ⟨e, ⟨key, -, he⟩, hc⟩
      exact ⟨key, e, he, hc⟩
    · rintro ⟨key, e, he, hc⟩
      exact ⟨e, ⟨key, (hwf.order key).2 ⟨e, he⟩, he⟩, hc⟩
  unfold SupervisorRuntime.naturalExit
  split
  · rename_i h
    exact ⟨.inl rfl, fun _ => hiff.1 h, fun _ => rfl⟩
  · rename_i h
    exact ⟨.inr rfl, nofun, fun hc => absurd (hiff.2 hc) h⟩

theorem Covered.unsettled {c : Config} {key : ChildKey} {e e' : ChildEntry} (h : Covered key e c)
    (he' : c.rt.children.get key = some e') (hu : e'.Unsettled) (hm : e'.membership = e.membership)
    (hr : e'.respawns = e.respawns) (hs : c.rt.state = .running) (hx : c.ctrl.erring = none)
    (hn : c.ctrl.ended = false) : c.ctrl.covers key e' = true := by
  cases h with
  | covers h => rw [Ctrl.covers_congr hm hr]; exact h
  | dealt h =>
    obtain ⟨hrun, hact⟩ := h e' he'
    rcases hu with ⟨hrem, -⟩ | ⟨hstop, -⟩
    · exact absurd (hact.symm.trans hrem) nofun
    · exact absurd (hrun.symm.trans hstop) nofun
  | halted h => exact absurd hs h
  | erring h => exact absurd hx h
  | ended h => rw [hn] at h; cases h

theorem SupervisorRuntime.Wf.live_of_current {rt : SupervisorRuntime} (hwf : rt.Wf) (hown : rt.Owned False)
    {t : Task} {e : ChildEntry} (ht : t ∈ rt.joinSet.tasks) (hc : rt.Current t.info e) :
    e.runtime.state ≠ .stopped := by
  rw [← (hwf.ok hc.get).handle, hown.handle_of_current ht hc]
  rfl

theorem Updates.agrees {c c' : Config} {a : Act} {rt : SupervisorRuntime}
    (h : Updates c a c' c.rt rt) (hwf : c.rt.Wf) (hown : c.rt.Owned False)
    (hagrees : ∀ key e, c.rt.children.get key = some e → e.Agrees) :
    ∀ key e, rt.children.get key = some e → e.Agrees := by
  refine (h.invariant (I := fun rt => ∀ key e, rt.children.get key = some e → e.Agrees) hwf hagrees ?_).2
  intro rt rt' hwf' hI hup key e' he'
  rcases hup.entry_from hwf' he' with ⟨e, he, hev⟩ | ⟨child, token, nested, task, rfl⟩
  · exact hev.agrees (fun t e ht hc => hwf.live_of_current hown ht hc) (hI key e he)
  · intro s hs
    cases hs

namespace Config.Judging

variable {c c' : Config} {a : Act}

/-- Coverage outlasts a step where the entry was unsettled before it: a removal that gives up leaves a
failure to the calls it returns to. -/
theorem covers_of_kept (h : c.Judging) (hs : c.Sane) (hhalt : c.Halting) (hown : c.rt.Owned False)
    (herr : errorsSurface c = true) (hok : keepsFailures c a = true) (hstep : step c a = some c')
    {key : ChildKey} {e e' : ChildEntry} (he : c.rt.children.get key = some e) (hue : e.Unsettled)
    (he' : c'.rt.children.get key = some e') (hue' : e'.Unsettled) (hm : e'.membership = e.membership)
    (hr : e'.respawns = e.respawns) (hrun : c'.rt.state = .running) (hx : c'.ctrl.erring = none)
    (hn : c'.ctrl.ended = false) : c'.ctrl.covers key e' = true := by
  have hrule := step_rule hs hstep
  have hrun₀ : c.rt.state = .running := by
    by_contra hne
    exact hrule.state hs.wf hne hrun
  have hx₀ : c.ctrl.erring = none := erring_of_step herr hstep hx hn
  have hcov := h.covered key e he hue hrun₀ hx₀ (ended_of_step hstep hn)
  refine (hrule.covered hs.wf he hx₀ hrun₀ hhalt ?_ hcov).unsettled he' hue' hm hr hrun hx hn
  rintro l k hc rfl hempty rfl
  have hkeep : ((c.rt.children.get l.key).all fun e =>
      !(e.runtime.state == .stopped && e.failed && !e.condemned) || k.covers l.key e) = true := by
    obtain ⟨rt, ctrl⟩ := c
    cases hc
    exact hok
  rcases hue with ⟨-, hl⟩ | ⟨hstop, hf, hcond⟩
  · obtain ⟨id, hid⟩ := Option.isSome_iff_exists.1 hl
    obtain ⟨t, ht, -⟩ := hown.handle l.key e id he hid
    rw [List.isEmpty_iff.1 hempty] at ht
    cases ht
  · simpa [he, hstop, hf, hcond] using hkeep

/-- A failure that `drain_ready_joins` consumes is one that a suspended call will see to. -/
theorem covers_of_consumed {reason : DrainReason} {k : Stack (.drainReadyJoins reason)} {t : Task}
    {e : ChildEntry} {outcome : TaskOutcome} (hwf : c.rt.Wf) (hf : c.rt.Finished t outcome)
    (hc : c.rt.Current t.info e) (hact : e.membership = .active) (hfail : outcome.status.isFailure = true)
    (hrec : ¬ (reason = .groupRestart ∧ e.runtime.spec.restart = .temporary))
    (hk : c.ctrl = .await (.readyJoins reason) k) (hrun : c.rt.state = .running)
    (hok : keepsFailures c (.run (.join t.id)) = true) : k.covers t.info.key e = true := by
  have hfind : c.rt.joinSet.find t.id = some t := (find_iff hwf).2 ⟨hf.mem, rfl⟩
  have hmet : c.rt.failureMet reason t.id k = true := by
    obtain ⟨rt, ctrl⟩ := c
    cases hk
    have hkeep : (rt.state != .running || rt.failureMet reason t.id k) = true := hok
    have hrun : rt.state = .running := hrun
    simpa [hrun] using hkeep
  have hrec' : reason = .groupRestart → e.runtime.spec.restart ≠ .temporary := fun h₁ h₂ => hrec ⟨h₁, h₂⟩
  simp [failureMet, hfind, hc.get, hc.instanceId, hc.generation, hf.outcome, hact, hfail] at hmet
  rcases hmet with ⟨h₁, h₂⟩ | hmet
  · exact absurd h₂ (hrec' h₁)
  · exact hmet

/-- The verdict where the run ends naturally: nothing is suspended, so every failure has become a
terminal status. -/
theorem verdict_of_natural {x : SupervisorExit} (h : c.Judging) (hs : c.Sane)
    (hstart : c.ctrl = .await .runStart .nil → c.Untouched) (hstep : step c a = some c')
    (hwf' : c'.rt.Wf) (hown' : c'.rt.Owned False)
    (hagrees : ∀ key e, c'.rt.children.get key = some e → e.Agrees)
    (hx : c'.ctrl = .finished (.ok x)) (hnat : NaturalEnd c a ⟨c'.rt, .finished (.ok x)⟩ x) :
    (x = .failed ∨ x = .completed) ∧
      (x = .failed ↔ ∃ key e, c'.rt.children.get key = some e ∧ e.failed = true) := by
  have hquiet : c'.rt.Quiet := by
    rcases hnat.finished with hl | hempty
    · exact hown'.quiet_of_liveTasks hwf' hl
    · exact hown'.quiet_of_isEmpty hwf' hempty
  have hsettled : ∀ key e, c'.rt.children.get key = some e → ¬ e.Unsettled := by
    intro key e' he' hue'
    cases ((step_rule hs hstep).updates hs.wf).unsettled hs.wf hstart he' hue' with
    | before he hue _ _ =>
      have hcov := h.covered key _ he hue hnat.state hnat.erring hnat.ended
      rw [hnat.covers] at hcov
      cases hcov
    | removal hc => rw [hx] at hc; cases hc
    | exit ha _ _ _ _ _ => exact hnat.act _ ha
  have hfailed : ∀ key e, c'.rt.children.get key = some e → (e.condemned = true ↔ e.failed = true) := by
    intro key e he
    refine ⟨(hagrees key e he).failed, fun hf => ?_⟩
    by_contra hcond
    exact hsettled key e he (.inr ⟨(hquiet key e he).1, hf, by simpa using hcond⟩)
  obtain ⟨hcases, hiff⟩ := naturalExit_failed hwf'
  rw [hnat.exit]
  refine ⟨hcases, hiff.trans ⟨?_, ?_⟩⟩
  · rintro ⟨key, e, he, hc⟩
    exact ⟨key, e, he, (hfailed key e he).1 hc⟩
  · rintro ⟨key, e, he, hf⟩
    exact ⟨key, e, he, (hfailed key e he).2 hf⟩

theorem step (h : c.Judging) (hs : c.Sane) (hhalt : c.Halting)
    (hend : c.Ending) (hstart : c.ctrl = .await .runStart .nil → c.Untouched)
    (hown : c.rt.Owned False) (hwf' : c'.rt.Wf) (hown' : c'.rt.Owned False)
    (herr : errorsSurface c = true) (hok : keepsFailures c a = true)
    (hstep : TokioSupervisor.step c a = some c') : c'.Judging := by
  have hrule := step_rule hs hstep
  have hu := hrule.updates hs.wf
  have hagrees := hu.agrees hs.wf hown h.agrees
  refine ⟨hagrees, fun key e' he' hue' hrun hx hn => ?_, fun x hx hne => ?_⟩
  · have hrun₀ : c.rt.state = .running := by
      by_contra hne
      exact hrule.state hs.wf hne hrun
    cases hu.unsettled hs.wf hstart he' hue' with
    | before he hue hm hr =>
      exact h.covers_of_kept hs hhalt hown herr hok hstep he hue he' hue' hm hr hrun hx hn
    | removal hc => exact hc.covers e'
    | @exit t e outcome ha hf hc hk hm hr =>
      subst hk
      cases hact : e.membership with
      | active =>
        have hnh : ¬ c.ctrl.Halts := fun hh => hhalt.frames hh hrun₀
        have hnone := (h.agrees _ e hc.get).none_of_active (hs.wf.live_of_current hown hf.mem hc)
        rcases (hrule.exitStep hs.wf ha hf hn).unsettled hnh hc hact hnone he' hue' with
          hcov | ⟨reason, k, hk, hk', hfail, hrec⟩
        · exact hcov.unsettled he' hue' hm hr hrun hx hn
        · subst ha
          rw [hk', Ctrl.covers_congr hm hr]
          simp [covers_of_consumed hs.wf hf hc hact hfail hrec hk hrun₀ hok]
      | removing =>
        have hue : e.Unsettled := .inl ⟨hact, by
          simp [ChildEntry.live, hown.handle_of_current hf.mem hc]⟩
        exact h.covers_of_kept hs hhalt hown herr hok hstep hc.get hue he' hue' hm hr hrun hx hn
      | removed => exact absurd hact (hs.wf.ok hc.get).membership
  · have hrule' : Rule c.rt c.ctrl a c'.rt (.finished (.ok x)) := hx ▸ hrule
    rcases hrule'.finished hend hne with ⟨hc, hch⟩ | hnat
    · rw [hch]
      exact h.verdict x hc hne
    · exact h.verdict_of_natural hs hstart hstep hwf' hown' hagrees hx hnat

end Config.Judging

/-- The verdict of a natural exit is right in a run in which no error is swallowed and no drain consumes
the failure of a child that nobody will see to, as long as the tasks of a child can be told apart. -/
theorem run_verdict {config : SupervisorConfig} {env : StartEnv} {as : List Act} {c : Config}
    (h : config.Accepted)
    (hrun : Run step (fun c a => errorsSurface c = true ∧ keepsFailures c a = true ∧
      restartsTold c = true ∧ instancesLeft c = true) (Config.start config env) as c) : c.Verdict := by
  have hfresh := h.fresh env
  rcases hrun.ok_start with rfl | ⟨a, -, -, -, hleft⟩
  · exact nofun
  have hown : ∀ as c, Run step (fun c a => errorsSurface c = true ∧ keepsFailures c a = true ∧
      restartsTold c = true ∧ instancesLeft c = true) (Config.start config env) as c →
      c.rt.Owned False := fun as c h' =>
    (run_owned h (fun c a hok => ⟨False.elim, hok.2.2⟩) (of_decide_eq_true hleft) h').1
  refine (hrun.invariant_on (I := Config.Judging) (J := fun c => c.Sane ∧ c.Halting ∧ c.Ending ∧
      (c.ctrl = .await .runStart .nil → c.Untouched) ∧ c.rt.Owned False)
    (fun _ _ h' => ⟨run_sane h h', run_halting h h', run_ending h h', run_untouched h h', hown _ _ h'⟩)
    ⟨fun key e he => ?_, fun key e he hu => ?_, nofun⟩
    fun c a c' hJ hJ' hI hok hstep => ?_).verdict
  · intro s hs
    rw [(hfresh.unborn key e he).terminalStatus] at hs
    cases hs
  · have hb := hfresh.unborn key e he
    rcases hu with ⟨hrem, -⟩ | ⟨-, hf, -⟩
    · exact absurd (hb.membership.symm.trans hrem) nofun
    · simp [ChildEntry.failed, hb.lastExit] at hf
  · obtain ⟨hs, hhalt, hend, hstart, hown⟩ := hJ
    exact hI.step hs hhalt hend hstart hown hJ'.1.wf hJ'.2.2.2.2 hok.1 hok.2.1 hstep

/-! ### A failure consumed by a detachment -/

/-- Two temporary children. -/
def temporaryConfig : SupervisorConfig :=
  { slotConfig with children := slotConfig.children.map ({ · with restart := .temporary }) }

theorem temporaryConfig_accepted : temporaryConfig.Accepted :=
  ⟨⟨.oneForOne, temporaryConfig.restartIntensity, temporaryConfig.children, 8, 8⟩, rfl⟩

/-- The removal of `a` detaches it, and its drain consumes the failure of `b`. -/
def verdictActs : List Act :=
  [.run .go, .send (.removeChild "a" 0), .run (.command 2), .finish 1 (.returned (.error "failed")),
   .run .go, .run (.join 1), .run .timer, .resume, .resume, .resume, .resume]

def Ctrl.exit : Ctrl → Option SupervisorExit
  | .finished (.ok x) => some x
  | _ => none

theorem Ctrl.finished_of_exit {ctrl : Ctrl} {x : SupervisorExit} (h : ctrl.exit = some x) :
    ctrl = .finished (.ok x) := by
  unfold Ctrl.exit at h
  split at h
  · cases h; rfl
  · cases h

/-- `b` has failed and is still there, but the verdict is `Completed`. -/
theorem wrong_verdict_reached : temporaryConfig.Accepted ∧
    ∃ c, AnyRun step (Config.start temporaryConfig ⟨false, 0, 0⟩) verdictActs c ∧ ¬ c.Verdict := by
  have hex : ∃ c, AnyRun step (Config.start temporaryConfig ⟨false, 0, 0⟩) verdictActs c ∧
      (c.ctrl.exit, (c.rt.children.get 1).any (·.failed)) = (some .completed, true) :=
    anyRun_of_exec (by decide +kernel)
  obtain ⟨c, hrun, hc⟩ := hex
  refine ⟨temporaryConfig_accepted, c, hrun, fun h => ?_⟩
  obtain ⟨hexit, hfailed⟩ := Prod.mk.inj hc
  obtain ⟨e, he, hf⟩ := (Option.any_eq_true _ _).1 hfailed
  exact absurd ((h _ (Ctrl.finished_of_exit hexit) nofun).2.2 ⟨1, e, he, hf⟩) nofun

/-- The main loop records the failure of `b`, and the verdict is `Failed`. -/
theorem run_verdict_failed : ∃ c : Config, c.ctrl.exit = some .failed ∧ c.Verdict := by
  have hex : ∃ c, Run step (fun c a =>
      (errorsSurface c && (keepsFailures c a && (restartsTold c && instancesLeft c))) = true)
      (Config.start temporaryConfig ⟨false, 0, 0⟩) [.run .go, .finish 1 (.returned (.error "failed")),
        .run (.join 1), .resume, .finish 0 (.returned (.ok ())), .run (.join 0), .resume] c ∧
      c.ctrl.exit = some .failed := run_of_execIf_map (by decide +kernel)
  obtain ⟨c, hrun, hc⟩ := hex
  refine ⟨c, hc, run_verdict temporaryConfig_accepted (hrun.mono fun c a hok => ?_)⟩
  simpa only [Bool.and_eq_true] using hok

end TokioSupervisor
