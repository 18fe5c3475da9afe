import TokioSupervisor.Runtime.Slots

/-!
# Deadlines that the clock can represent

Four places add a duration to the clock, and `Instant + Duration` panics where the sum is out of range:
the backoff of a restart in `schedule_restart` and again in `wait_for_restart_delay`, the grace of the
child in `remove_child`, the longest grace in `drain_children`. The durations are the user's, of which
`build` only checks that a backoff is not zero, so any of the sums may overflow. `deadlinesFit` says of a
step that the sums it computes fit; a step overflows exactly when they do not.
-/

namespace TokioSupervisor
open Lib SupervisorRuntime

namespace SupervisorRuntime

/-- `now + delay` is an instant. -/
def fitsClock (rt : SupervisorRuntime) (delay : Duration) : Bool :=
  (Instant.checkedAdd rt.now delay).isSome

/-- The intensity of the entry refuses another restart now, or the delay fits. -/
def backoffFits (rt : SupervisorRuntime) (e : ChildEntry) : Bool :=
  (e.runtime.restartTracker.record rt.now).exceeded ||
    rt.fitsClock (e.runtime.restartTracker.record rt.now).backoff.1

/-- `handle_joined_child` of the task restarts nothing, or the delay fits. -/
def restartFits (rt : SupervisorRuntime) (id : TaskId) : Bool :=
  (rt.joinSet.find id).all fun t => (rt.children.get t.info.key).all fun e =>
    !rt.currentChildMatches t.info.key t.info.instanceId t.info.generation ||
      rt.state == .stopping || e.membership == .removing ||
      !t.outcome.any (e.runtime.spec.restart.shouldRestart ·.status.isFailure) || rt.backoffFits e

/-- `remove_child` of the entry does not wait for its child, or the grace fits. -/
def graceFits (rt : SupervisorRuntime) (e : ChildEntry) : Bool :=
  e.runtime.state == .stopped || e.runtime.spec.shutdownPolicy.mode == .abort ||
    rt.fitsClock e.runtime.spec.shutdownPolicy.grace

/-- The command is no accepted removal that waits, or the grace fits. -/
def commandFits (rt : SupervisorRuntime) : SupervisorCommand → Bool
  | .addChild .. => true
  | .removeChild id _ => (rt.removeRefusal id).isSome ||
      ((rt.childrenById.lookup id).bind rt.children.get).all rt.graceFits

end SupervisorRuntime

/-- The sums of an instant and a duration that the step computes are instants. A step takes no time:
`schedule_restart` and `wait_for_restart_delay` read the same clock. -/
def deadlinesFit (c : Config) : Act → Bool
  | .run (.join id) =>
    match c.ctrl with
    | .await .runSelect _ | .await (.removalSelect _) _ => c.rt.restartFits id
    | _ => true
  | .run (.command _) => c.rt.commandRx.queue.head?.all c.rt.commandFits
  | .resume =>
    match c.ctrl with
    | .ret (.push (.drainFirst _ (some grace)) _) (.ok ()) =>
      c.rt.liveTasks == 0 || c.rt.fitsClock grace
    | _ => true
  | _ => true

section
variable {rt : SupervisorRuntime}

/-- The method does not panic. -/
def Settles (x : Except Panic Config) : Prop := ∃ c, x = .ok c ∧ c.ctrl.panic = none

/-- The method panics exactly when a sum does not fit. -/
structure Guarded (fits : Bool) (x : Except Panic Config) : Prop where
  settles : fits = true → Settles x
  overflows : fits = false → x = .error .instantOverflow

theorem Settles.guarded {x : Except Panic Config} (h : Settles x) : Guarded true x where
  settles := fun _ => h
  overflows := fun hf => by cases hf

theorem guarded_overflow : Guarded false (.error .instantOverflow) where
  settles := fun hf => by cases hf
  overflows := fun _ => rfl

theorem settles_ret {fn : Fn} (rt : SupervisorRuntime) (k : Stack fn) (v : fn.Value) :
    Settles (.ok (rt.ret k v)) := ⟨_, rfl, rfl⟩

theorem settles_await {fn : Fn} (rt : SupervisorRuntime) (p : Await fn) (k : Stack fn) :
    Settles (.ok ⟨rt, .await p k⟩) := ⟨_, rfl, rfl⟩

theorem guarded_instantAdd {delay : Duration} {f : Instant → Except Panic Config} {now : Instant}
    (hnow : now = rt.now) (hf : ∀ deadline, Settles (f deadline)) :
    Guarded (rt.fitsClock delay) (instantAdd now delay >>= f) := by
  subst hnow
  unfold instantAdd fitsClock
  cases Instant.checkedAdd rt.now delay with
  | none => exact guarded_overflow
  | some deadline => exact (hf deadline).guarded

/-! ### The methods that add to the clock -/

namespace SupervisorRuntime

theorem waitForRestartDelay_settles {delay : Duration} (hfit : rt.fitsClock delay = true)
    (k : Stack .waitForRestartDelay) : Settles (rt.waitForRestartDelay delay k) := by
  unfold SupervisorRuntime.waitForRestartDelay
  split
  · exact settles_await ..
  · exact (guarded_instantAdd rfl fun deadline => settles_await rt (.delaySelect deadline) k).settles hfit

theorem guarded_scheduleRestart (h : rt.Wf) {key : ChildKey} {e : ChildEntry}
    (he : rt.children.get key = some e)
    {f : SupervisorRuntime × Except SupervisorError Duration → Except Panic Config}
    (hover : Settles (f (rt.overrun key e, .error .restartIntensityExceeded)))
    (hdelay : ∀ deadline delay, rt.fitsClock delay = true →
      Settles (f (rt.scheduled key e deadline, .ok delay))) :
    Guarded (rt.backoffFits e) (rt.scheduleRestart key >>= f) := by
  rw [h.scheduleRestart he]
  unfold backoffFits
  split
  · rename_i hx
    rw [hx]
    exact hover.guarded
  · rename_i hx
    rw [Bool.not_eq_true] at hx
    rw [hx, Bool.false_or]
    unfold fitsClock
    cases hd : Instant.checkedAdd rt.now (e.runtime.restartTracker.record rt.now).backoff.1 with
    | none => exact guarded_overflow
    | some deadline =>
      exact (hdelay deadline _ (by rw [fitsClock, hd]; rfl)).guarded

theorem Wf.handleOneForOneRestart_guarded (h : rt.Wf) {key : ChildKey} {e : ChildEntry}
    (he : rt.children.get key = some e) (generation : Nat) (k : Stack .handleOneForOneRestart) :
    Guarded (rt.backoffFits e) (rt.handleOneForOneRestart key generation k) := by
  refine guarded_scheduleRestart h he (settles_ret ..) fun deadline delay hfit => ?_
  simp only [ok_bind, index_eq (scheduled_get he deadline), (h.scheduled he deadline).sendEvent]
  exact waitForRestartDelay_settles (by exact hfit) _

theorem Wf.handleOneForAllRestart_guarded (h : rt.Wf) {key : ChildKey} {e : ChildEntry}
    (he : rt.children.get key = some e) (k : Stack .handleOneForAllRestart) :
    Guarded (rt.backoffFits e) (rt.handleOneForAllRestart key k) := by
  refine guarded_scheduleRestart h he (settles_ret ..) fun deadline delay hfit => ?_
  simp only [ok_bind, (h.scheduled he deadline).sendEvent]
  exact waitForRestartDelay_settles (by exact hfit) _

theorem Wf.handleJoinedChild_guarded (h : rt.Wf) {id : TaskId} {rt₁ : SupervisorRuntime}
    {joined : Joined} (hj : rt.joinTask id = some (rt₁, joined)) (k : Stack .handleJoinedChild) :
    Guarded (rt.restartFits id) (rt₁.handleJoinedChild joined k) := by
  obtain ⟨t, outcome, rfl, hfin, hcases⟩ := h.consumeJoinedChild hj
  have hfind : rt.joinSet.find t.id = some t := (find_iff h).2 ⟨hfin.mem, rfl⟩
  simp only [restartFits, hfind, Option.all_some, hfin.outcome, Option.any_some]
  rcases hcases with ⟨hstale, heq⟩ | ⟨e, hc, heq⟩
  · have hmatch : rt.currentChildMatches t.info.key t.info.instanceId t.info.generation = false := by
      rw [← Bool.not_eq_true]
      exact mt currentChildMatches_iff.1 hstale
    simp only [SupervisorRuntime.handleJoinedChild, heq, hmatch, Bool.not_false, Bool.true_or]
    rw [show ((rt.children.get t.info.key).all fun _ => true) = true by
      cases rt.children.get t.info.key <;> rfl]
    exact (settles_ret ..).guarded
  have hmatch : rt.currentChildMatches t.info.key t.info.instanceId t.info.generation = true :=
    currentChildMatches_iff.2 ⟨e, hc⟩
  have hrec := (h.consumed t).recordExit hc.get t.info.generation outcome.status
  rw [← SupervisorRuntime.exited] at hrec
  have hget := exited_get hc outcome
  have hwf := h.exited hc outcome
  simp only [SupervisorRuntime.handleJoinedChild, heq, hrec, ok_bind, hc.get, Option.all_some, hmatch,
    Bool.not_true, Bool.false_or]
  by_cases hs : rt.state = .stopping
  · rw [if_pos (show (rt.exited t e outcome).state = _ from hs), hs]
    exact (settles_ret ..).guarded
  rw [if_neg (show ¬ (rt.exited t e outcome).state = _ from hs), index_eq hget, ok_bind,
    beq_eq_false_iff_ne.2 hs, Bool.false_or]
  by_cases hm : e.membership = .removing
  · rw [if_pos (show (e.stopped outcome.status).membership = _ from hm), hwf.finalizeRemovedChild hget, hm]
    exact (settles_ret ..).guarded
  rw [if_neg (show ¬ (e.stopped outcome.status).membership = _ from hm), beq_eq_false_iff_ne.2 hm,
    Bool.false_or]
  by_cases hr : e.runtime.spec.restart.shouldRestart outcome.status.isFailure = true
  · rw [if_pos (show (e.stopped outcome.status).runtime.spec.restart.shouldRestart _ = true from hr), hr]
    cases hst : rt.info.strategy with
    | oneForOne =>
      rw [show (rt.exited t e outcome).info.strategy = _ from hst]
      exact hwf.handleOneForOneRestart_guarded hget t.info.generation (.push .joinedOneForOne k)
    | oneForAll =>
      rw [show (rt.exited t e outcome).info.strategy = _ from hst]
      exact hwf.handleOneForAllRestart_guarded hget (.push .joinedOneForAll k)
  · rw [if_neg (show ¬ (e.stopped outcome.status).runtime.spec.restart.shouldRestart _ = true
      from hr), recordTerminalStatus_eq hget]
    rw [Bool.not_eq_true] at hr
    rw [hr]
    exact (settles_ret ..).guarded

theorem Wf.removeChild_guarded (h : rt.Wf) (reply : Nat) (id : String) (k : Stack .removeChild) :
    Guarded (rt.commandFits (.removeChild id reply)) (rt.removeChild reply id k) := by
  cases hr : rt.removeRefusal id with
  | some error =>
    rw [removeChild_refused hr, commandFits, hr]
    exact (settles_ret ..).guarded
  | none =>
    obtain ⟨key, e, hl, he, -, -, hcases⟩ := h.removeChild_accepted reply k hr
    have hfits : rt.commandFits (.removeChild id reply) = rt.graceFits e := by
      simp [commandFits, hr, hl, he]
    rw [hfits, graceFits]
    rcases hcases with ⟨hs, heq⟩ | ⟨hs, ⟨hmode, heq⟩ | ⟨hmode, heq⟩⟩
    · rw [heq, hs]
      exact (settles_ret ..).guarded
    · rw [heq, hmode, beq_self_eq_true, Bool.or_true, Bool.true_or]
      exact (settles_await ..).guarded
    · rw [heq, beq_eq_false_iff_ne.2 hs, beq_eq_false_iff_ne.2 hmode, Bool.false_or, Bool.false_or]
      exact guarded_instantAdd rfl fun deadline => settles_await ..

theorem Wf.handleCommand_guarded (h : rt.Wf) {key : ChildKey} (hv : rt.children.vacant key = true)
    (command : SupervisorCommand) (k : Stack .handleCommand) :
    Guarded (rt.commandFits command) (rt.handleCommand key command k) := by
  unfold SupervisorRuntime.handleCommand
  cases command with
  | addChild child reply =>
    simp only [SupervisorCommand.reply]
    rcases (show (rt.log (.handled reply)).Wf from h).addChild hv child with ⟨e, -, heq⟩ |
      ⟨-, -, heq⟩
    · rw [heq]
      exact (settles_ret ..).guarded
    · rw [heq]
      exact (settles_ret ..).guarded
  | removeChild id reply =>
    exact (show (rt.log (.handled reply)).Wf from h).removeChild_guarded reply id _

/-! ### The other methods -/

theorem Wf.runLoop_settles (h : rt.Wf) : Settles rt.runLoop := by
  unfold SupervisorRuntime.runLoop
  cases rt.pendingExit with
  | some result => exact ⟨_, rfl, rfl⟩
  | none =>
    dsimp only
    split
    · rw [h.finishNaturalExit]
      exact ⟨_, rfl, rfl⟩
    · exact settles_await ..

theorem Wf.shutdownAll_settles (h : rt.Wf) (k : Stack .shutdownAll) : Settles (rt.shutdownAll k) := by
  have hwf : ({ rt with state := .stopping } : SupervisorRuntime).cancelRunningChildren.Wf :=
    (show Wf { rt with state := .stopping } from h).cancelRunningChildren.choose_spec.choose_spec.2.2.2.2
  simp only [SupervisorRuntime.shutdownAll, hwf.sendEvent, ok_bind]
  exact settles_await ..

theorem Wf.drainAfterGrace_settles (h : rt.Wf) (reason : DrainReason) (k : Stack (.drainChildren reason)) :
    Settles (.ok (rt.drainAfterGrace reason k)) := by
  rcases h.drainAfterGrace_cases reason k with ⟨-, heq⟩ | ⟨-, heq⟩
  · rw [heq]
    exact settles_ret ..
  · rw [heq]
    exact settles_await ..

theorem Wf.drainLoop_settles (h : rt.Wf) (reason : DrainReason) (deadline : Instant)
    (k : Stack (.drainChildren reason)) : Settles (.ok (rt.drainLoop reason deadline k)) := by
  unfold SupervisorRuntime.drainLoop
  split
  · exact h.drainAfterGrace_settles ..
  · exact settles_await ..

theorem removalLoop_settles (l : Removal) (k : Stack .awaitChildRemoval) :
    Settles (.ok (rt.removalLoop l k)) := by
  unfold SupervisorRuntime.removalLoop
  split
  · exact settles_ret ..
  · split
    · exact settles_ret ..
    · exact settles_await ..

end SupervisorRuntime

/-! ### The steps -/

theorem deadlinesFit_grace {reason : DrainReason} {grace : Duration} {k : Stack (.drainChildren reason)} :
    deadlinesFit ⟨rt, .ret (.push (.drainFirst reason (some grace)) k) (.ok ())⟩ .resume =
      (rt.liveTasks == 0 || rt.fitsClock grace) := rfl

theorem deadlinesFit_noCommand {ctrl : Ctrl} {key : ChildKey} (hq : rt.commandRx.queue = []) :
    deadlinesFit ⟨rt, ctrl⟩ (.run (.command key)) = true := by
  simp only [deadlinesFit, hq, List.head?_nil, Option.all_none]

theorem handleCommand_deadlines {ctrl : Ctrl} {key : ChildKey} {cmd : SupervisorCommand}
    {rest : List SupervisorCommand} (h : rt.Wf) (hv : rt.children.vacant key = true)
    (hq : rt.commandRx.queue = cmd :: rest) (k : Stack .handleCommand) :
    Guarded (deadlinesFit ⟨rt, ctrl⟩ (.run (.command key))) ((rt.received rest).handleCommand key cmd k) := by
  simp only [deadlinesFit, hq, List.head?_cons, Option.all_some]
  exact (show (rt.received rest).Wf from h).handleCommand_guarded hv cmd k

theorem Woken.guarded {fn : Fn} {p : Await fn} {w : Wake} {k : Stack fn} {x : Except Panic Config}
    (hx : Woken rt p w k x) (h : rt.Wf)
    (hrm : ∀ l k', Ctrl.await p k = .await (.removalSelect l) k' → ∃ e, rt.children.get l.key = some e) :
    Guarded (deadlinesFit ⟨rt, .await p k⟩ (.run w)) x := by
  cases hx with
  | move hw hm =>
    cases hm with
    | tryRecvEmpty => exact absurd rfl (hw _)
    | _ => exact Settles.guarded ⟨_, rfl, rfl⟩
  | @shutdown _ _ _ _ _ rt₁ hb hrt _ =>
    have hwf : rt₁.Wf := by rcases hrt with rfl | rfl <;> exact h
    cases hb <;> exact (hwf.shutdownAll_settles _).guarded
  | command _ hv hq => exact handleCommand_deadlines h hv hq _
  | join hh hj => cases hh <;> exact h.handleJoinedChild_guarded hj _
  | start =>
    obtain ⟨hwf, hrun⟩ := h.runStart
    rw [hrun]
    exact hwf.runLoop_settles.guarded
  | loop hc hwf =>
    have hsettles := hwf.runLoop_settles
    cases hc with
    | closed ho =>
      rw [deadlinesFit_noCommand ho.1]
      exact hsettles.guarded
    | _ => exact hsettles.guarded
  | removalSeen => exact (removalLoop_settles ..).guarded
  | @removalTimer l k =>
    obtain ⟨e, he⟩ := hrm l k rfl
    simp only [abortAndDetachChild, abortChild_eq he, ok_bind]
    exact (settles_await ..).guarded
  | drainJoin _ _ hwf => exact (hwf.drainLoop_settles ..).guarded
  | drainNext hd => cases hd <;> exact (h.drainAfterGrace_settles ..).guarded
  | tryRecvEmpty hq =>
    rw [deadlinesFit_noCommand hq]
    exact (settles_ret ..).guarded
  | tryRecvClosed ho | delayClosed ho | delayClosedPending ho _ =>
    rw [deadlinesFit_noCommand ho.1]
    exact Settles.guarded ⟨_, rfl, rfl⟩
  | natural | readyJoin | delaySeen => exact Settles.guarded ⟨_, rfl, rfl⟩

/-- A step after a call may find that a restart has lost its slot, and panic for that. -/
theorem Resumed.guarded {callee caller : Fn} {f : Frame callee caller} {v : callee.Value} {k : Stack caller}
    {x : Except Panic Config} (hx : Resumed rt f v k x) (h : rt.Wf) :
    Guarded (deadlinesFit ⟨rt, .ret (.push f k) v⟩ .resume) x ∨
      deadlinesFit ⟨rt, .ret (.push f k) v⟩ .resume = true ∧ ∃ key, x = .error (.vacantSlot key) := by
  cases hx with
  | move hm =>
    cases hm with
    | removalShutdownOk hr | removalJoinOk hr => cases hr <;> exact .inl (Settles.guarded ⟨_, rfl, rfl⟩)
    | @drainFirstErr _ maxGrace => cases maxGrace <;> exact .inl (settles_ret ..).guarded
    | _ => exact .inl (Settles.guarded ⟨_, rfl, rfl⟩)
  | loop hc => cases hc <;> exact .inl h.runLoop_settles.guarded
  | @drainEmpty _ maxGrace k hl =>
    cases maxGrace with
    | none => exact .inl (settles_ret ..).guarded
    | some grace =>
      rw [deadlinesFit_grace, beq_iff_eq.2 hl, Bool.true_or]
      exact .inl (settles_ret ..).guarded
  | graceless => exact .inl (h.drainAfterGrace_settles ..).guarded
  | @grace reason grace k hl =>
    rw [deadlinesFit_grace, beq_eq_false_iff_ne.2 hl, Bool.false_or]
    exact .inl (guarded_instantAdd rfl fun deadline => h.drainLoop_settles ..)
  | vacantOne => exact .inr ⟨rfl, _, rfl⟩
  | vacantAll => exact .inr ⟨rfl, _, rfl⟩
  | _ => exact .inl (Settles.guarded ⟨_, rfl, rfl⟩)

theorem Guarded.panic_iff {fits : Bool} {x : Except Panic Config} (h : Guarded fits x) :
    (settle rt x).ctrl.panic = some .instantOverflow ↔ fits = false := by
  cases fits with
  | true =>
    obtain ⟨c, rfl, hc⟩ := h.settles rfl
    simp [settle, hc]
  | false =>
    rw [h.overflows rfl]
    simp [settle, Ctrl.panic]

end

/-- A step from a reachable configuration overflows exactly when one of its sums does not fit. -/
theorem step_overflow_iff {c c' : Config} {a : Act} (h : c.Sane) (hlive : c.ctrl.panic = none)
    (hs : step c a = some c') :
    c'.ctrl.panic = some .instantOverflow ↔ deadlinesFit c a = false := by
  obtain ⟨rt, ctrl⟩ := c
  have henv {rt' : SupervisorRuntime} (hfit : deadlinesFit ⟨rt, ctrl⟩ a = true) :
      Ctrl.panic (Config.mk rt' ctrl).ctrl = some .instantOverflow ↔ deadlinesFit ⟨rt, ctrl⟩ a = false := by
    rw [hfit]
    simp only [show ctrl.panic = none from hlive, reduceCtorEq]
  cases a with
  | run w =>
    cases ctrl with
    | await p k =>
      obtain ⟨x, hx, rfl⟩ := Option.map_eq_some_iff.1 hs
      exact ((wake_cases h.wf hx).guarded h.wf h.removal).panic_iff
    | _ => cases hs
  | resume =>
    cases ctrl with
    | ret k v =>
      have hst : rt.Started := by
        rcases h.started with hc | ⟨p, hc⟩ | hst
        · cases hc
        · cases hc
        · exact hst
      cases k with
      | nil =>
        cases hs
        simp [deadlinesFit, finishRun, Ctrl.panic]
      | push f k =>
        cases hs
        rcases (resume_cases f v k h.wf hst).guarded h.wf with hg | ⟨hfit, key, heq⟩
        · exact hg.panic_iff
        · rw [hfit, heq]
          simp [settle, Ctrl.panic]
    | _ => cases hs
  | _ =>
    simp only [step, Option.map_eq_some_iff] at hs
    obtain ⟨rt', -, rfl⟩ := hs
    exact henv rfl

/-- Behind a panic only the environment acts. -/
theorem step_panicked {c c' : Config} {a : Act} {p : Panic} (hp : c.ctrl.panic = some p)
    (hs : step c a = some c') : c'.ctrl = c.ctrl := by
  obtain ⟨rt, ctrl⟩ := c
  cases ctrl with
  | panicked p =>
    cases a with
    | run w | resume => cases hs
    | _ =>
      simp only [step, Option.map_eq_some_iff] at hs
      obtain ⟨rt', -, rfl⟩ := hs
      rfl
  | _ => cases hp

/-- In a run whose sums all fit no instant overflows; and in any run a step overflows only if one of its
sums does not fit. -/
theorem run_deadlinesFit {config : SupervisorConfig} {env : StartEnv} (h : config.Accepted) :
    (∀ as c, Run step (fun c a => deadlinesFit c a = true) (Config.start config env) as c →
      c.ctrl.panic ≠ some .instantOverflow) ∧
    ∀ as c, AnyRun step (Config.start config env) as c → c.ctrl.panic = none →
      ∀ a c', step c a = some c' →
        (c'.ctrl.panic ≠ some .instantOverflow ↔ deadlinesFit c a = true) := by
  have hstep {as : List Act} {c c' : Config} {a : Act} (hrun : AnyRun step (Config.start config env) as c)
      (hlive : c.ctrl.panic = none) (hs : step c a = some c') :
      c'.ctrl.panic ≠ some .instantOverflow ↔ deadlinesFit c a = true := by
    rw [ne_eq, step_overflow_iff (run_sane h hrun) hlive hs, Bool.not_eq_false]
  refine ⟨fun as c hrun => ?_, fun as c hrun hlive a c' hs => hstep hrun hlive hs⟩
  induction hrun with
  | nil => simp [Config.start, Ctrl.panic]
  | @snoc as a c c' hrun hok hs ih =>
    cases hp : c.ctrl.panic with
    | none => exact (hstep hrun.any hp hs).2 hok
    | some p =>
      rw [step_panicked hp hs]
      exact ih

/-! ### A grace that no clock can hold -/

/-- Two children that are waited for as long as a duration can say. -/
def endlessConfig : SupervisorConfig where
  strategy := .oneForOne
  restartIntensity := ⟨3, .fromSecs 5, .fixed (.fromSecs 1)⟩
  children :=
    [⟨"a", .transient, none, ⟨.MAX, .cooperative⟩⟩, ⟨"b", .transient, none, ⟨.fromSecs 1, .cooperative⟩⟩]
  controlChannelCapacity := 8
  eventChannelCapacity := 8

theorem endlessConfig_accepted : endlessConfig.Accepted :=
  ⟨⟨endlessConfig.strategy, endlessConfig.restartIntensity, endlessConfig.children, 8, 8⟩, rfl⟩

/-- The removal of `a` panics. -/
theorem overflowing_grace_reached :
    endlessConfig.Accepted ∧ ∃ c, AnyRun step (Config.start endlessConfig ⟨false, 0, 0⟩)
      [.run .go, .send (.removeChild "a" 0), .run (.command 2)] c ∧
      c.ctrl.panic = some .instantOverflow :=
  ⟨endlessConfig_accepted, anyRun_of_exec (by decide +kernel)⟩

/-- The deadline that the innermost call waits for. -/
def Ctrl.deadline : Ctrl → Option Instant
  | .await (.removalSelect l) _ => some l.deadline
  | .await (.delaySelect deadline) _ | .await (.drainSelect _ deadline) _ => some deadline
  | _ => none

/-- The removal of `b` waits for its second. -/
theorem run_deadlinesFit_removal : ∃ c : Config, c.ctrl.deadline = some NANOS_PER_SEC ∧
    c.ctrl.panic ≠ some .instantOverflow := by
  have hex : ∃ c, Run step (fun c a => deadlinesFit c a = true) (Config.start endlessConfig ⟨false, 0, 0⟩)
      [.run .go, .send (.removeChild "b" 0), .run (.command 2)] c ∧
      c.ctrl.deadline = some NANOS_PER_SEC := run_of_execIf_map (by decide +kernel)
  obtain ⟨c, hrun, hc⟩ := hex
  exact ⟨c, hc, (run_deadlinesFit endlessConfig_accepted).1 _ c hrun⟩

end TokioSupervisor
