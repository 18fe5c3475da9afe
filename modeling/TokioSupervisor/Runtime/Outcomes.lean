import TokioSupervisor.Runtime.Loops

/-!
# What the asynchronous methods can do

One inductive predicate for each method that branches (`LoopHead`, `CommandOutcome`, `JoinOutcome`,
…): the state it leaves, written by the updates, and where it suspends or returns. The equations of
the method are used here only; what follows goes by cases on the predicates.
-/

namespace TokioSupervisor
open Lib

/-- A method either panics because an instant is out of range, or leads to a configuration in `P`. -/
def Leads (P : SupervisorRuntime → Ctrl → Prop) : Except Panic Config → Prop
  | .ok c => P c.rt c.ctrl
  | .error p => p = .instantOverflow

theorem Leads.mono {P Q : SupervisorRuntime → Ctrl → Prop} {x : Except Panic Config} (h : Leads P x)
    (hPQ : ∀ rt ctrl, P rt ctrl → Q rt ctrl) : Leads Q x := by
  cases x with
  | error p => exact h
  | ok c => exact hPQ _ _ h

namespace SupervisorRuntime

/-! ### Updates of the asynchronous methods -/

/-- `drain_children` up to its first wait. -/
def swept (rt : SupervisorRuntime) : SupervisorRuntime :=
  { rt with commandRx := { rt.commandRx with closed := true } }.abortMatchingChildren fun child =>
    child.runtime.spec.shutdownPolicy.mode == ShutdownMode.abort

/-- `shutdown_all` up to the drain. -/
def halted (rt : SupervisorRuntime) : SupervisorRuntime :=
  ({ rt with state := .stopping }.cancelRunningChildren.emitted none .supervisorStopping).swept

/-- The precondition that a call of `remove_child` fails. -/
def removeRefusal (rt : SupervisorRuntime) (id : String) : Option ControlError :=
  if rt.state = .stopping then some .supervisorStopping
  else match rt.childrenById.lookup id with
    | none => some (.unknownChildId id)
    | some key => (rt.children.get key).bind fun e =>
      if e.membership = .removing then some (.childRemovalInProgress id)
      else if rt.activeChildCount ≤ 1 then some .lastChildRemovalUnsupported
      else none

/-- The fresh group token of a group restart. -/
def regrouped (rt : SupervisorRuntime) : SupervisorRuntime :=
  { rt with groupToken := rt.tokens.fresh.1, tokens := rt.tokens.fresh.2 }

end SupervisorRuntime

open SupervisorRuntime

/-! ### Outcomes of the methods -/

/-- The head of the main loop. -/
inductive LoopHead (rt : SupervisorRuntime) : SupervisorRuntime → Ctrl → Prop
  | exit {result : Except SupervisorError SupervisorExit} (hp : rt.pendingExit = some result) :
      LoopHead rt { rt with pendingExit := none }.dropReceiver (.finished result)
  | natural (hp : rt.pendingExit = none) (hl : rt.liveTasks = 0) (hr : rt.runningChildren = 0) :
      LoopHead rt (rt.finishedWith rt.naturalExit).dropReceiver (.finished (.ok rt.naturalExit))
  | wait (hp : rt.pendingExit = none) : LoopHead rt rt (.await .runSelect .nil)

/-- The head of the removal loop. -/
inductive RemovalHead (rt : SupervisorRuntime) (l : Removal) (k : Stack .awaitChildRemoval) :
    Ctrl → Prop
  | gone (he : rt.children.get l.key = none) : RemovalHead rt l k (.ret k (.ok ()))
  | wait {e : ChildEntry} (he : rt.children.get l.key = some e) :
      RemovalHead rt l k (.await (.removalSelect l) k)

/-- `handle_command` on a command that was just received, with slab key `key` for a new child. -/
inductive CommandOutcome (rt : SupervisorRuntime) (key : ChildKey) (k : Stack .handleCommand) :
    SupervisorCommand → SupervisorRuntime → Ctrl → Prop
  | addRefused {child : ChildSpec} {reply : Nat} (e : ControlError) :
      CommandOutcome rt key k (.addChild child reply)
        ((rt.log (.handled reply)).log (.replied reply (.error e))) (.ret k ())
  | added {child : ChildSpec} {reply : Nat} (ha : rt.Addable child) :
      CommandOutcome rt key k (.addChild child reply)
        (((rt.log (.handled reply)).added key child).log (.replied reply (.ok ()))) (.ret k ())
  | removeRefused {id : String} {reply : Nat} {e : ControlError} (hr : rt.removeRefusal id = some e) :
      CommandOutcome rt key k (.removeChild id reply) (rt.log (.handled reply))
        (.ret (.push (.commandReply reply) k) (.error e))
  | removed {reply : Nat} {target : ChildKey} {e : ChildEntry}
      (he : rt.children.get target = some e) (hm : e.membership = .active)
      (hs : e.runtime.state = .stopped) (hr : rt.removeRefusal e.id = none) :
      CommandOutcome rt key k (.removeChild e.id reply)
        (((rt.log (.handled reply)).requested reply target e).finalized target e.requested)
        (.ret (.push (.commandReply reply) k) (.ok ()))
  | removeAbort {reply : Nat} {target : ChildKey} {e : ChildEntry}
      (he : rt.children.get target = some e) (hm : e.membership = .active)
      (hs : e.runtime.state ≠ .stopped) (hr : rt.removeRefusal e.id = none) :
      CommandOutcome rt key k (.removeChild e.id reply)
        (((rt.log (.handled reply)).requested reply target e).abortedChild e.requested)
        (.await (.detachYield target .shutdown) (.push .removeDetach (.push (.commandReply reply) k)))
  | removeWait {reply : Nat} {target : ChildKey} {e : ChildEntry} {deadline : Instant}
      {timeoutIsError : Bool} (he : rt.children.get target = some e) (hm : e.membership = .active)
      (hs : e.runtime.state ≠ .stopped) (hr : rt.removeRefusal e.id = none) :
      CommandOutcome rt key k (.removeChild e.id reply)
        (((rt.log (.handled reply)).requested reply target e).cancelledChild e.requested)
        (.await (.removalSelect ⟨target, deadline, timeoutIsError, e.id, e.instanceId⟩)
          (.push .removeAwait (.push (.commandReply reply) k)))

/-- `wait_for_restart_delay` starts on its zero-delay path or under its deadline. -/
inductive DelayStart : Await .waitForRestartDelay → Prop
  | check : DelayStart .delayCheck
  | select {deadline : Instant} : DelayStart (.delaySelect deadline)

/-- `handle_joined_child` on the join of `t`. -/
inductive JoinOutcome (rt : SupervisorRuntime) (t : Task) (outcome : TaskOutcome)
    (k : Stack .handleJoinedChild) : SupervisorRuntime → Ctrl → Prop
  | stale (hc : ¬ ∃ e, rt.Current t.info e) :
      JoinOutcome rt t outcome k (rt.ignored t) (.ret k (.ok ()))
  | stopping {e : ChildEntry} (hc : rt.Current t.info e) (hs : rt.state = .stopping) :
      JoinOutcome rt t outcome k (rt.exited t e outcome) (.ret k (.ok ()))
  | removed {e : ChildEntry} (hc : rt.Current t.info e) (hs : rt.state ≠ .stopping)
      (hm : e.membership = .removing) :
      JoinOutcome rt t outcome k
        ((rt.exited t e outcome).finalized t.info.key (e.stopped outcome.status)) (.ret k (.ok ()))
  | settled {e : ChildEntry} (hc : rt.Current t.info e) (hs : rt.state ≠ .stopping)
      (hm : e.membership = .active)
      (hr : e.runtime.spec.restart.shouldRestart outcome.status.isFailure = false) :
      JoinOutcome rt t outcome k
        ((rt.exited t e outcome).setEntry t.info.key
          ((e.stopped outcome.status).terminated t.info.generation outcome.status.isFailure))
        (.ret k (.ok ()))
  | overrunOne {e : ChildEntry} (hc : rt.Current t.info e) (hs : rt.state ≠ .stopping)
      (hm : e.membership = .active)
      (hr : e.runtime.spec.restart.shouldRestart outcome.status.isFailure = true)
      (hst : rt.info.strategy = .oneForOne)
      (hx : (e.runtime.restartTracker.record rt.now).exceeded = true) :
      JoinOutcome rt t outcome k
        ((rt.exited t e outcome).overrun t.info.key (e.stopped outcome.status))
        (.ret (.push .joinedOneForOne k) (.error .restartIntensityExceeded))
  | overrunAll {e : ChildEntry} (hc : rt.Current t.info e) (hs : rt.state ≠ .stopping)
      (hm : e.membership = .active)
      (hr : e.runtime.spec.restart.shouldRestart outcome.status.isFailure = true)
      (hst : rt.info.strategy = .oneForAll)
      (hx : (e.runtime.restartTracker.record rt.now).exceeded = true) :
      JoinOutcome rt t outcome k
        ((rt.exited t e outcome).overrun t.info.key (e.stopped outcome.status))
        (.ret (.push .joinedOneForAll k) (.error .restartIntensityExceeded))
  | scheduledOne {e : ChildEntry} {deadline : Instant} {delay : Duration}
      {p : Await .waitForRestartDelay} (hc : rt.Current t.info e) (hs : rt.state ≠ .stopping)
      (hm : e.membership = .active)
      (hr : e.runtime.spec.restart.shouldRestart outcome.status.isFailure = true)
      (hst : rt.info.strategy = .oneForOne) (hp : DelayStart p) :
      JoinOutcome rt t outcome k
        (((rt.exited t e outcome).scheduled t.info.key (e.stopped outcome.status) deadline).emitted
          (some e.instanceId) (.childRestartScheduled e.id t.info.generation delay))
        (.await p (.push (.oneForOneDelay t.info.key t.info.generation) (.push .joinedOneForOne k)))
  | scheduledAll {e : ChildEntry} {deadline : Instant} {delay : Duration}
      {p : Await .waitForRestartDelay} (hc : rt.Current t.info e) (hs : rt.state ≠ .stopping)
      (hm : e.membership = .active)
      (hr : e.runtime.spec.restart.shouldRestart outcome.status.isFailure = true)
      (hst : rt.info.strategy = .oneForAll) (hp : DelayStart p) :
      JoinOutcome rt t outcome k
        (((rt.exited t e outcome).scheduled t.info.key (e.stopped outcome.status) deadline).emitted
          none (.groupRestartScheduled delay))
        (.await p (.push (.oneForAllDelay t.info.key) (.push .joinedOneForAll k)))

/-- `handle_drained_join` on the join of `t`. -/
inductive DrainedJoin (rt : SupervisorRuntime) (t : Task) (outcome : TaskOutcome)
    (reason : DrainReason) : SupervisorRuntime → Prop
  | stale (hc : ¬ ∃ e, rt.Current t.info e) : DrainedJoin rt t outcome reason (rt.ignored t)
  | exited {e : ChildEntry} (hc : rt.Current t.info e)
      (hr : ¬ (reason = .groupRestart ∧ e.runtime.spec.restart = .temporary)) :
      DrainedJoin rt t outcome reason (rt.exited t e outcome)
  | temporary {e : ChildEntry} (hc : rt.Current t.info e) (hr : reason = .groupRestart)
      (ht : e.runtime.spec.restart = .temporary) :
      DrainedJoin rt t outcome reason ((rt.exited t e outcome).setEntry t.info.key
        ((e.stopped outcome.status).terminated t.info.generation outcome.status.isFailure))

/-- Where `drain_children` goes between two waits. -/
inductive DrainNext (rt : SupervisorRuntime) (reason : DrainReason)
    (k : Stack (.drainChildren reason)) : SupervisorRuntime → Ctrl → Prop
  | select {deadline : Instant} : DrainNext rt reason k rt (.await (.drainSelect reason deadline) k)
  | abort {timedOut : String} :
      DrainNext rt reason k (rt.abortMatchingChildren fun _ => true)
        (.await (.drainAbortYield reason timedOut) k)
  | done (hd : rt.liveTasks = 0 ∨ rt.activeTaskNames.isEmpty = true) :
      DrainNext rt reason k rt (.ret k (.ok ()))

theorem DrainNext.children {rt rt' : SupervisorRuntime} {reason : DrainReason}
    {k : Stack (.drainChildren reason)} {ctrl : Ctrl} (h : DrainNext rt reason k rt' ctrl) :
    rt'.children = rt.children := by
  cases h with
  | abort => exact abortMatchingChildren_children _
  | _ => rfl

namespace SupervisorRuntime
variable {rt : SupervisorRuntime}

theorem Wf.runLoop (h : rt.Wf) : Leads (LoopHead rt) rt.runLoop := by
  unfold SupervisorRuntime.runLoop
  cases hp : rt.pendingExit with
  | some result => exact .exit hp
  | none =>
    simp only
    split
    · rename_i hz
      simp only [h.finishNaturalExit, ok_bind, pure_eq_ok]
      exact .natural hp hz.1 hz.2
    · exact .wait hp

theorem Wf.removalLoop (h : rt.Wf) (l : Removal) (k : Stack .awaitChildRemoval) :
    ∃ ctrl, rt.removalLoop l k = ⟨rt, ctrl⟩ ∧ RemovalHead rt l k ctrl := by
  unfold SupervisorRuntime.removalLoop
  cases he : rt.children.get l.key with
  | none => exact ⟨_, rfl, .gone he⟩
  | some e => exact ⟨_, if_neg (h.ok he).membership, .wait he⟩

/-- `drain_children` returns: with the names that have timed out, with every child stopped, or with some
left, which a shutdown gives up and a group restart reports. -/
theorem drainReturn_cases (reason : DrainReason) (timedOut : String) (k : Stack (.drainChildren reason)) :
    timedOut.isEmpty = false ∧
        rt.drainReturn reason timedOut k = ⟨rt, .ret k (.error (.shutdownTimedOut timedOut))⟩ ∨
      timedOut.isEmpty = true ∧ (
        rt.activeTaskNames.isEmpty = true ∧ rt.drainReturn reason timedOut k = ⟨rt, .ret k (.ok ())⟩ ∨
        rt.activeTaskNames.isEmpty = false ∧ reason = .shutdown ∧
          rt.drainReturn reason timedOut k = ⟨rt, .ret k (.ok ())⟩ ∨
        rt.activeTaskNames.isEmpty = false ∧ reason = .groupRestart ∧
          rt.drainReturn reason timedOut k =
            ⟨rt, .ret k (.error (.shutdownTimedOut rt.activeTaskNames))⟩) := by
  unfold drainReturn
  cases timedOut.isEmpty with
  | false => exact .inl ⟨rfl, rfl⟩
  | true =>
    refine .inr ⟨rfl, ?_⟩
    cases hn : rt.activeTaskNames.isEmpty with
    | true => exact .inl ⟨rfl, by simp [hn, SupervisorRuntime.ret]⟩
    | false =>
      cases reason with
      | shutdown => exact .inr (.inl ⟨rfl, rfl, by simp [hn, SupervisorRuntime.ret]⟩)
      | groupRestart => exact .inr (.inr ⟨rfl, rfl, by simp [hn, SupervisorRuntime.ret]⟩)

/-- Where nobody is active past the grace period, nobody was late. -/
theorem Wf.drainAfterGrace_cases (h : rt.Wf) (reason : DrainReason) (k : Stack (.drainChildren reason)) :
    rt.activeTaskNames.isEmpty = true ∧ rt.drainAfterGrace reason k = ⟨rt, .ret k (.ok ())⟩ ∨
      rt.activeTaskNames.isEmpty = false ∧
        rt.drainAfterGrace reason k = ⟨rt.abortMatchingChildren fun _ => true,
          .await (.drainAbortYield reason rt.cooperativeTimeoutNames) k⟩ := by
  unfold drainAfterGrace
  cases hn : rt.activeTaskNames.isEmpty with
  | false => exact .inr ⟨rfl, by simp only [hn, Bool.not_false, if_true]⟩
  | true =>
    refine .inl ⟨rfl, ?_⟩
    have hlate := h.cooperativeTimeoutNames_isEmpty hn
    simp only [hn, Bool.not_true, Bool.false_eq_true, if_false]
    rcases @drainReturn_cases rt reason rt.cooperativeTimeoutNames k with
      ⟨hf, -⟩ | ⟨-, ⟨-, heq⟩ | ⟨hf, -⟩ | ⟨hf, -⟩⟩
    · rw [hlate] at hf
      cases hf
    · exact heq
    · rw [hn] at hf
      cases hf
    · rw [hn] at hf
      cases hf

theorem Wf.drainAfterGrace_next (h : rt.Wf) (reason : DrainReason) (k : Stack (.drainChildren reason)) :
    DrainNext rt reason k (rt.drainAfterGrace reason k).rt (rt.drainAfterGrace reason k).ctrl := by
  rcases h.drainAfterGrace_cases reason k with ⟨hn, heq⟩ | ⟨-, heq⟩
  · rw [heq]
    exact .done (.inr hn)
  · rw [heq]
    exact .abort

theorem Wf.drainLoop_next (h : rt.Wf) (reason : DrainReason) (deadline : Instant)
    (k : Stack (.drainChildren reason)) :
    DrainNext rt reason k (rt.drainLoop reason deadline k).rt (rt.drainLoop reason deadline k).ctrl := by
  unfold drainLoop
  split
  · exact h.drainAfterGrace_next ..
  · exact .select

theorem exited_get {t : Task} {e : ChildEntry} (hc : rt.Current t.info e) (outcome : TaskOutcome) :
    (rt.exited t e outcome).children.get t.info.key = some (e.stopped outcome.status) :=
  Slab.get_set_self hc.get _

@[simp] theorem exited_state (t : Task) (e : ChildEntry) (outcome : TaskOutcome) :
    (rt.exited t e outcome).state = rt.state := rfl

@[simp] theorem exited_info (t : Task) (e : ChildEntry) (outcome : TaskOutcome) :
    (rt.exited t e outcome).info = rt.info := rfl

theorem Wf.drainedJoin (h : rt.Wf) {t : Task} {outcome : TaskOutcome} {reason : DrainReason}
    {rt' : SupervisorRuntime} (hd : DrainedJoin rt t outcome reason rt') : rt'.Wf := by
  cases hd with
  | stale hc => exact h.ignored t
  | exited hc hr => exact h.exited hc outcome
  | temporary hc hr ht =>
    have hwf := h.exited hc outcome
    have hget := exited_get hc outcome
    exact hwf.setEntry hget (by simp) ((hwf.ok hget).terminated _ _)

theorem Wf.handleDrainedJoin (h : rt.Wf) {id : TaskId} {rt₁ : SupervisorRuntime} {joined : Joined}
    (hj : rt.joinTask id = some (rt₁, joined)) (reason : DrainReason) :
    ∃ t outcome rt', t.id = id ∧ rt.Finished t outcome ∧ DrainedJoin rt t outcome reason rt' ∧
      rt₁.handleDrainedJoin joined reason = .ok (rt', .ok ()) := by
  obtain ⟨t, outcome, hid, hfin, ⟨hstale, heq⟩ | ⟨e, hc, heq⟩⟩ := h.consumeJoinedChild hj
  · exact ⟨t, outcome, _, hid, hfin, .stale hstale,
      by simp [SupervisorRuntime.handleDrainedJoin, heq]⟩
  · have hrec := (h.consumed t).recordExit hc.get t.info.generation outcome.status
    have hget := exited_get hc outcome
    simp only [SupervisorRuntime.handleDrainedJoin, heq, hrec, ok_bind, pure_eq_ok]
    rw [← SupervisorRuntime.exited, index_eq hget, ok_bind]
    by_cases ht : reason = .groupRestart ∧ e.runtime.spec.restart = .temporary
    · rw [if_pos (show _ ∧ (e.stopped outcome.status).runtime.spec.restart = _ from ht),
        recordTerminalStatus_eq hget]
      exact ⟨t, outcome, _, hid, hfin, .temporary hc ht.1 ht.2, rfl⟩
    · rw [if_neg (show ¬ (_ ∧ (e.stopped outcome.status).runtime.spec.restart = _) from ht)]
      exact ⟨t, outcome, _, hid, hfin, .exited hc ht, rfl⟩

theorem waitForRestartDelay_start (delay : Duration) (k : Stack .waitForRestartDelay) :
    Leads (fun rt' ctrl => rt' = rt ∧ ∃ p, DelayStart p ∧ ctrl = .await p k)
      (rt.waitForRestartDelay delay k) := by
  unfold SupervisorRuntime.waitForRestartDelay
  split
  · exact ⟨rfl, _, .check, rfl⟩
  · unfold instantAdd
    cases rt.now.checkedAdd delay with
    | none => rfl
    | some deadline => exact ⟨rfl, _, .select, rfl⟩

theorem Wf.handleOneForOneRestart (h : rt.Wf) {key : ChildKey} {e : ChildEntry}
    (he : rt.children.get key = some e) (generation : Nat) (k : Stack .handleOneForOneRestart) :
    Leads (fun rt' ctrl =>
        (e.runtime.restartTracker.record rt.now).exceeded = true ∧ rt' = rt.overrun key e ∧
            ctrl = .ret k (.error .restartIntensityExceeded) ∨
        ∃ deadline delay p, DelayStart p ∧
          rt' = (rt.scheduled key e deadline).emitted (some e.instanceId)
            (.childRestartScheduled e.id generation delay) ∧
          ctrl = .await p (.push (.oneForOneDelay key generation) k))
      (rt.handleOneForOneRestart key generation k) := by
  unfold SupervisorRuntime.handleOneForOneRestart
  rw [h.scheduleRestart he]
  split
  · rename_i hx
    exact .inl ⟨hx, rfl, rfl⟩
  · cases hd : rt.now.checkedAdd (e.runtime.restartTracker.record rt.now).backoff.1 with
    | none => rfl
    | some deadline =>
      simp only [ok_bind, index_eq (scheduled_get he deadline), (h.scheduled he deadline).sendEvent]
      refine (waitForRestartDelay_start _ _).mono ?_
      rintro rt' ctrl ⟨hrt, p, hp, hctrl⟩
      exact .inr ⟨deadline, _, p, hp, hrt, hctrl⟩

theorem Wf.handleOneForAllRestart (h : rt.Wf) {key : ChildKey} {e : ChildEntry}
    (he : rt.children.get key = some e) (k : Stack .handleOneForAllRestart) :
    Leads (fun rt' ctrl =>
        (e.runtime.restartTracker.record rt.now).exceeded = true ∧ rt' = rt.overrun key e ∧
            ctrl = .ret k (.error .restartIntensityExceeded) ∨
        ∃ deadline delay p, DelayStart p ∧
          rt' = (rt.scheduled key e deadline).emitted none (.groupRestartScheduled delay) ∧
          ctrl = .await p (.push (.oneForAllDelay key) k))
      (rt.handleOneForAllRestart key k) := by
  unfold SupervisorRuntime.handleOneForAllRestart
  rw [h.scheduleRestart he]
  split
  · rename_i hx
    exact .inl ⟨hx, rfl, rfl⟩
  · cases hd : rt.now.checkedAdd (e.runtime.restartTracker.record rt.now).backoff.1 with
    | none => rfl
    | some deadline =>
      simp only [ok_bind, (h.scheduled he deadline).sendEvent]
      refine (waitForRestartDelay_start _ _).mono ?_
      rintro rt' ctrl ⟨hrt, p, hp, hctrl⟩
      exact .inr ⟨deadline, _, p, hp, hrt, hctrl⟩

theorem Wf.handleJoinedChild (h : rt.Wf) {id : TaskId} {rt₁ : SupervisorRuntime} {joined : Joined}
    (hj : rt.joinTask id = some (rt₁, joined)) (k : Stack .handleJoinedChild) :
    ∃ t outcome, t.id = id ∧ rt.Finished t outcome ∧
      Leads (JoinOutcome rt t outcome k) (rt₁.handleJoinedChild joined k) := by
  obtain ⟨t, outcome, hid, hfin, hcases⟩ := h.consumeJoinedChild hj
  refine ⟨t, outcome, hid, hfin, ?_⟩
  rcases hcases with ⟨hstale, heq⟩ | ⟨e, hc, heq⟩
  · simp only [SupervisorRuntime.handleJoinedChild, heq]
    exact .stale hstale
  have hrec := (h.consumed t).recordExit hc.get t.info.generation outcome.status
  rw [← SupervisorRuntime.exited] at hrec
  have hget := exited_get hc outcome
  have hwf := h.exited hc outcome
  simp only [SupervisorRuntime.handleJoinedChild, heq, hrec, ok_bind]
  by_cases hs : rt.state = .stopping
  · rw [if_pos (show (rt.exited t e outcome).state = _ from hs)]; exact .stopping hc hs
  rw [if_neg (show ¬ (rt.exited t e outcome).state = _ from hs), index_eq hget, ok_bind]
  by_cases hm : e.membership = .removing
  · rw [if_pos (show (e.stopped outcome.status).membership = _ from hm),
      hwf.finalizeRemovedChild hget]
    exact .removed hc hs hm
  rw [if_neg (show ¬ (e.stopped outcome.status).membership = _ from hm)]
  have hactive : e.membership = .active := by
    cases hmm : e.membership
    · rfl
    · exact absurd hmm hm
    · exact absurd hmm (h.ok hc.get).membership
  by_cases hr : e.runtime.spec.restart.shouldRestart outcome.status.isFailure = true
  · rw [if_pos (show (e.stopped outcome.status).runtime.spec.restart.shouldRestart _ = true from hr)]
    cases hst : rt.info.strategy with
    | oneForOne =>
      rw [show (rt.exited t e outcome).info.strategy = _ from hst]
      refine (hwf.handleOneForOneRestart hget t.info.generation (.push .joinedOneForOne k)).mono ?_
      rintro rt' ctrl (⟨hx, rfl, rfl⟩ | ⟨deadline, delay, p, hp, rfl, rfl⟩)
      · exact .overrunOne hc hs hactive hr hst hx
      · exact .scheduledOne hc hs hactive hr hst hp
    | oneForAll =>
      rw [show (rt.exited t e outcome).info.strategy = _ from hst]
      refine (hwf.handleOneForAllRestart hget (.push .joinedOneForAll k)).mono ?_
      rintro rt' ctrl (⟨hx, rfl, rfl⟩ | ⟨deadline, delay, p, hp, rfl, rfl⟩)
      · exact .overrunAll hc hs hactive hr hst hx
      · exact .scheduledAll hc hs hactive hr hst hp
  · rw [if_neg (show ¬ (e.stopped outcome.status).runtime.spec.restart.shouldRestart _ = true
      from hr), recordTerminalStatus_eq hget]
    exact .settled hc hs hactive (by simpa using hr)

theorem removeChild_refused {id : String} {e : ControlError} (hr : rt.removeRefusal id = some e)
    (reply : Nat) (k : Stack .removeChild) :
    rt.removeChild reply id k = .ok (rt.ret k (.error e)) := by
  unfold SupervisorRuntime.removeChild
  unfold removeRefusal at hr
  by_cases hs : rt.state = .stopping
  · rw [if_pos hs] at hr ⊢; cases hr; rfl
  rw [if_neg hs] at hr ⊢
  cases hl : rt.childrenById.lookup id with
  | none => rw [hl] at hr; cases hr; rfl
  | some key =>
    simp only [hl] at hr ⊢
    obtain ⟨f, hf, hr⟩ := Option.bind_eq_some_iff.1 hr
    simp only [index_eq hf, ok_bind]
    by_cases hm : f.membership = .removing
    · rw [if_pos hm] at hr ⊢; cases hr; rfl
    rw [if_neg hm] at hr ⊢
    by_cases hn : rt.activeChildCount ≤ 1
    · rw [if_pos hn] at hr ⊢; cases hr; rfl
    · rw [if_neg hn] at hr; cases hr

/-- The marking step of `remove_child` on an active entry, and what each shutdown mode does next. -/
theorem Wf.removeChild_accepted (h : rt.Wf) (reply : Nat) {id : String} (k : Stack .removeChild)
    (hr : rt.removeRefusal id = none) :
    ∃ key e, rt.childrenById.lookup id = some key ∧ rt.children.get key = some e ∧ e.id = id ∧
      e.membership = .active ∧
      (e.runtime.state = .stopped ∧ rt.removeChild reply id k =
          .ok (((rt.requested reply key e).finalized key e.requested).ret k (.ok ())) ∨
        e.runtime.state ≠ .stopped ∧
          (e.runtime.spec.shutdownPolicy.mode = .abort ∧ rt.removeChild reply id k =
              .ok ⟨(rt.requested reply key e).abortedChild e.requested,
                .await (.detachYield key .shutdown) (.push .removeDetach k)⟩ ∨
            e.runtime.spec.shutdownPolicy.mode ≠ .abort ∧ rt.removeChild reply id k =
              instantAdd rt.now e.runtime.spec.shutdownPolicy.grace >>= fun deadline =>
                .ok ⟨(rt.requested reply key e).cancelledChild e.requested,
                  .await (.removalSelect ⟨key, deadline,
                    e.runtime.spec.shutdownPolicy.mode == .cooperative, e.id, e.instanceId⟩)
                    (.push .removeAwait k)⟩)) := by
  unfold removeRefusal at hr
  by_cases hs : rt.state = .stopping
  · rw [if_pos hs] at hr
    cases hr
  rw [if_neg hs] at hr
  unfold SupervisorRuntime.removeChild
  rw [if_neg hs]
  cases hl : rt.childrenById.lookup id with
  | none =>
    rw [hl] at hr
    cases hr
  | some key =>
    obtain ⟨e, he, hid⟩ := (h.byId id key).1 hl
    simp only [hl, he, Option.bind_some] at hr
    have hm : ¬ e.membership = .removing := by
      intro hm
      rw [if_pos hm] at hr
      cases hr
    rw [if_neg hm] at hr
    have hn : ¬ rt.activeChildCount ≤ 1 := by
      intro hn
      rw [if_pos hn] at hr
      cases hr
    have hactive : e.membership = .active := by
      cases hmm : e.membership
      · rfl
      · exact absurd hmm hm
      · exact absurd hmm (h.ok he).membership
    refine ⟨key, e, rfl, he, hid, hactive, ?_⟩
    simp only [index_eq he, ok_bind]
    rw [if_neg hm, if_neg hn]
    have hwf := h.requested reply he
    have hget := requested_get reply he
    have hsend : ((if countsAsRunning e.membership e.runtime.state then
        (rt.setEntry key e.requested).subRunning 1 else rt.setEntry key e.requested).log
        (.removalRequested reply e.instanceId)).sendEvent (some e.instanceId)
        (.childRemoveRequested id) = .ok (rt.requested reply key e) := by
      have hsub : (if countsAsRunning e.membership e.runtime.state then
          (rt.setEntry key e.requested).subRunning 1 else rt.setEntry key e.requested) =
          (rt.setEntry key e.requested).subRunning (if e.counts then 1 else 0) := by
        unfold ChildEntry.counts
        split <;> simp
      rw [hsub, ← hid]
      exact (show (((rt.setEntry key e.requested).subRunning _).log _).Wf from
        h.setEntry he (by rfl) (h.ok he).requested).sendEvent _ _
    simp only [ChildEntry.requested] at hsend
    rw [modifyEntry_eq he, hsend, ok_bind]
    by_cases ha : e.runtime.state = .stopped
    · have hna : (!e.runtime.state.isActive) = true := by simp [RuntimeChildState.isActive, ha]
      rw [if_pos hna, hwf.finalizeRemovedChild hget]
      exact .inl ⟨ha, rfl⟩
    have hna : ¬ (!e.runtime.state.isActive) = true := by simp [RuntimeChildState.isActive, ha]
    rw [if_neg hna]
    have hwait : ∀ timeoutIsError,
        (do
          let rt ← (rt.requested reply key e).cancelChild key
          let deadline ← instantAdd rt.now e.runtime.spec.shutdownPolicy.grace
          return rt.awaitChildRemoval key deadline timeoutIsError e.instanceId (k.push .removeAwait)) =
        (instantAdd rt.now e.runtime.spec.shutdownPolicy.grace >>= fun deadline =>
          .ok ⟨(rt.requested reply key e).cancelledChild e.requested,
            .await (.removalSelect ⟨key, deadline, timeoutIsError, e.id, e.instanceId⟩)
              (.push .removeAwait k)⟩) := by
      intro timeoutIsError
      have hget' : ((rt.requested reply key e).cancelledChild e.requested).children.get key =
          some e.requested := by rw [cancelledChild_children]; exact hget
      have hrm : ¬ e.requested.membership = .removed := by simp [ChildEntry.requested]
      rw [cancelChild_eq hget, ok_bind,
        show ((rt.requested reply key e).cancelledChild e.requested).now = rt.now by
          unfold SupervisorRuntime.cancelledChild; split <;> rfl]
      congr 1
      funext deadline
      simp only [awaitChildRemoval, childId, hget', Option.map_some, SupervisorRuntime.removalLoop,
        if_neg hrm, pure_eq_ok]
      rfl
    refine .inr ⟨ha, ?_⟩
    cases hmode : e.runtime.spec.shutdownPolicy.mode with
    | abort =>
      simp only [abortAndDetachChild, abortChild_eq hget, ok_bind]
      exact .inl ⟨trivial, rfl⟩
    | cooperative => exact .inr ⟨by simp, hwait true⟩
    | cooperativeThenAbort => exact .inr ⟨by simp, hwait false⟩

theorem Wf.removeChild (h : rt.Wf) (reply : Nat) (id : String) (k : Stack .removeChild) :
    Leads (fun rt' ctrl =>
        rt' = rt ∧ (∃ e, rt.removeRefusal id = some e ∧ ctrl = .ret k (.error e)) ∨
        ∃ key e, rt.children.get key = some e ∧ e.id = id ∧ e.membership = .active ∧
          rt.removeRefusal id = none ∧
          (e.runtime.state = .stopped ∧
              rt' = (rt.requested reply key e).finalized key e.requested ∧ ctrl = .ret k (.ok ()) ∨
            e.runtime.state ≠ .stopped ∧
              (rt' = (rt.requested reply key e).abortedChild e.requested ∧
                  ctrl = .await (.detachYield key .shutdown) (.push .removeDetach k) ∨
                ∃ deadline timeoutIsError,
                  rt' = (rt.requested reply key e).cancelledChild e.requested ∧
                  ctrl = .await (.removalSelect ⟨key, deadline, timeoutIsError, e.id, e.instanceId⟩)
                    (.push .removeAwait k))))
      (rt.removeChild reply id k) := by
  cases hr : rt.removeRefusal id with
  | some e =>
    rw [removeChild_refused hr]
    exact .inl ⟨rfl, e, rfl, rfl⟩
  | none =>
    obtain ⟨key, e, -, he, hid, hm, ⟨hs, heq⟩ | ⟨hs, ⟨-, heq⟩ | ⟨-, heq⟩⟩⟩ :=
      h.removeChild_accepted reply k hr
    · rw [heq]
      exact .inr ⟨key, e, he, hid, hm, rfl, .inl ⟨hs, rfl, rfl⟩⟩
    · rw [heq]
      exact .inr ⟨key, e, he, hid, hm, rfl, .inr ⟨hs, .inl ⟨rfl, rfl⟩⟩⟩
    · rw [heq]
      unfold instantAdd
      cases rt.now.checkedAdd e.runtime.spec.shutdownPolicy.grace with
      | none => rfl
      | some deadline => exact .inr ⟨key, e, he, hid, hm, rfl, .inr ⟨hs, .inr ⟨deadline, _, rfl, rfl⟩⟩⟩

theorem Wf.handleCommand (h : rt.Wf) {key : ChildKey} (hk : rt.children.vacant key = true)
    (command : SupervisorCommand) (k : Stack .handleCommand) :
    Leads (CommandOutcome rt key k command) (rt.handleCommand key command k) := by
  unfold SupervisorRuntime.handleCommand
  cases command with
  | addChild child reply =>
    simp only [SupervisorCommand.reply]
    rcases (show (rt.log (.handled reply)).Wf from h).addChild hk child with ⟨e, -, heq⟩ |
      ⟨-, ha, heq⟩
    · rw [heq]; exact .addRefused e
    · rw [heq]; exact .added ⟨ha.state, ha.id, ha.new⟩
  | removeChild id reply =>
    simp only [SupervisorCommand.reply]
    refine ((show (rt.log (.handled reply)).Wf from h).removeChild reply id
      (.push (.commandReply reply) k)).mono ?_
    rintro rt' ctrl (⟨rfl, e, hr, rfl⟩ | ⟨target, e, he, rfl, hm, hr, ⟨hs, rfl, rfl⟩ |
      ⟨hs, ⟨rfl, rfl⟩ | ⟨deadline, timeoutIsError, rfl, rfl⟩⟩⟩)
    · exact .removeRefused hr
    · exact .removed he hm hs hr
    · exact .removeAbort he hm hs hr
    · exact .removeWait he hm hs hr

end SupervisorRuntime
end TokioSupervisor
