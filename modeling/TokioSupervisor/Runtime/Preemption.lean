import TokioSupervisor.Runtime.Joined

/-!
# Shutdown against a pending restart

`wait_for_restart_delay` looks for a shutdown each time it goes on, but the zero-delay loop only asks
behind a command whether `pending_exit` is set. A command that was suspended in `abort_and_detach_child`
has not watched for a shutdown, and the restart goes ahead (`unnoticed_shutdown_reached`).
`noticesShutdown` rules out that the loop ends that way.
-/

namespace TokioSupervisor
open Lib SupervisorRuntime

/-! ### Requests before a resumption -/

/-- The wait is a look at a channel, and no suspension. -/
def Await.looks : {fn : Fn} → Await fn → Bool
  | _, .delayCheck | _, .delayTryRecv => true
  | _, _ => false

/-- The task is suspended. -/
def Ctrl.parked : Ctrl → Bool
  | .await p _ => !p.looks
  | _ => false

/-- A configuration, and whether a shutdown had been requested when the task was last resumed from a
suspension. -/
structure Polled where
  config : Config
  told : Bool

namespace Polled

def start (config : SupervisorConfig) (env : StartEnv) : Polled := ⟨Config.start config env, false⟩

def step (s : Polled) (a : Act) : Option Polled :=
  (TokioSupervisor.step s.config a).map fun c =>
    { config := c
      told := match a with
        | .run _ => if s.config.ctrl.parked then s.config.rt.shutdownRx.value else s.told
        | _ => s.told }

end Polled

/-- What `wait_for_restart_delay` returns. -/
def Fn.waited : (fn : Fn) → fn.Value → Option (Except SupervisorError Bool)
  | .waitForRestartDelay, v => some v
  | _, _ => none

/-- A call of `wait_for_restart_delay` has returned this. -/
def Ctrl.waited : Ctrl → Option (Except SupervisorError Bool)
  | @Ctrl.ret fn _ v => fn.waited v
  | _ => none

/-- The step ends the zero-delay loop, and no result is pending. -/
def Config.endsZeroLoop (c : Config) : Act → Bool
  | .resume =>
    match c.ctrl with
    | .ret (.push .delayZeroCommand _) () => c.rt.pendingExit.isNone && !c.rt.commandsOpen
    | _ => false
  | .run (.command key) =>
    match c.ctrl with
    | .await .delayTryRecv _ => c.rt.children.vacant key && c.rt.commandRx.queue.isEmpty
    | _ => false
  | _ => false

namespace Polled

/-- The zero-delay loop does not end with a shutdown requested. -/
def noticesShutdown (s : Polled) (a : Act) : Bool := !(s.told && s.config.endsZeroLoop a)

/-- The restart is given up for a shutdown: its result is pending, and nothing is spawned any more. -/
structure GivenUp (c : Config) (v : Except SupervisorError Bool) : Prop where
  returned : v = .ok false
  pending : ∃ result, c.rt.pendingExit = some result ∧ ∀ x, result = .ok x → x = .shutdown
  last : ∀ as c', AnyRun TokioSupervisor.step c as c' → spawns c'.rt.trace = spawns c.rt.trace

/-- A shutdown that was requested before the last resumption preempts the restart. -/
def Preempts (s : Polled) : Prop :=
  ∀ v, s.config.ctrl.waited = some v → s.told = true → GivenUp s.config v

end Polled

/-! ### Requests that are seen -/

section
variable {rt rt' : SupervisorRuntime} {ctrl ctrl' : Ctrl} {a : Act}

/-- The method is not called by `shutdown_all`. -/
def Fn.settled : Fn → Bool
  | .shutdownAll | .drainChildren _ | .drainReadyJoins _ => false
  | _ => true

theorem Stack.shutsDown_of_settled {fn : Fn} (k : Stack fn) (h : fn.settled = true) :
    k.shutsDown = false := by
  induction k with
  | nil => rfl
  | push f k ih => cases f <;> simp_all [Frame.shutsDown, Fn.settled]

theorem AtLoop.watch {rt₁ : SupervisorRuntime} (h : AtLoop rt ctrl a rt₁) (ha : a ≠ .run .shutdown) :
    rt₁.shutdownRx = rt.shutdownRx := by
  cases h with
  | seen => exact absurd rfl ha
  | _ => rfl

theorem LoopHead.watch (h : LoopHead rt rt' ctrl') : rt'.shutdownRx = rt.shutdownRx := by
  cases h <;> rfl

theorem cancelledChild_watch (rt : SupervisorRuntime) (e : ChildEntry) :
    (rt.cancelledChild e).shutdownRx = rt.shutdownRx := by
  unfold SupervisorRuntime.cancelledChild
  split <;> rfl

theorem abortedChild_watch (rt : SupervisorRuntime) (e : ChildEntry) :
    (rt.abortedChild e).shutdownRx = rt.shutdownRx := by
  unfold SupervisorRuntime.abortedChild
  split <;> rfl

theorem spawnedAll_watch (rt : SupervisorRuntime) (keys : List ChildKey) :
    (rt.spawnedAll keys).shutdownRx = rt.shutdownRx := by
  induction keys generalizing rt with
  | nil => rfl
  | cons key rest ih =>
    rw [spawnedAll]
    cases rt.children.get key with
    | none => exact ih rt
    | some e => exact ih (rt.spawned key e)

theorem respawnedAll_watch (rt : SupervisorRuntime) (keys : List ChildKey) :
    (rt.respawnedAll keys).shutdownRx = rt.shutdownRx := by
  induction keys generalizing rt with
  | nil => rfl
  | cons key rest ih =>
    rw [respawnedAll]
    cases rt.children.get key with
    | none => exact ih rt
    | some e =>
      dsimp only
      split
      · exact ih (rt.restarted key e)
      · exact ih rt

theorem finalized_watch (rt : SupervisorRuntime) (key : ChildKey) (e : ChildEntry) :
    (rt.finalized key e).shutdownRx = rt.shutdownRx := rfl

theorem exited_watch (rt : SupervisorRuntime) (t : Task) (e : ChildEntry) (outcome : TaskOutcome) :
    (rt.exited t e outcome).shutdownRx = rt.shutdownRx := rfl

theorem requested_watch (rt : SupervisorRuntime) (reply : Nat) (key : ChildKey) (e : ChildEntry) :
    (rt.requested reply key e).shutdownRx = rt.shutdownRx := rfl

theorem CommandOutcome.watch {key : ChildKey} {k : Stack .handleCommand} {cmd : SupervisorCommand}
    (h : CommandOutcome rt key k cmd rt' ctrl') : rt'.shutdownRx = rt.shutdownRx := by
  cases h with
  | removed => exact (finalized_watch _ _ _).trans (requested_watch _ _ _ _)
  | removeAbort => exact abortedChild_watch _ _
  | removeWait => exact cancelledChild_watch _ _
  | _ => rfl

theorem JoinOutcome.watch {t : Task} {outcome : TaskOutcome} {k : Stack .handleJoinedChild}
    (h : JoinOutcome rt t outcome k rt' ctrl') : rt'.shutdownRx = rt.shutdownRx := by
  have hx (e : ChildEntry) := exited_watch rt t e outcome
  cases h with
  | stale => rfl
  | @removed e => exact (finalized_watch _ _ _).trans (hx e)
  | @stopping e | @settled e | @overrunOne e | @overrunAll e | @scheduledOne e | @scheduledAll e =>
    exact hx e

theorem DrainedJoin.watch {t : Task} {outcome : TaskOutcome} {reason : DrainReason}
    (h : DrainedJoin rt t outcome reason rt') : rt'.shutdownRx = rt.shutdownRx := by
  cases h with
  | stale => rfl
  | @exited e | @temporary e => exact exited_watch rt t e outcome

theorem DrainNext.watch {reason : DrainReason} {k : Stack (.drainChildren reason)}
    (h : DrainNext rt reason k rt' ctrl') : rt'.shutdownRx = rt.shutdownRx := by
  cases h with
  | abort => exact abortMatchingChildren_field (·.shutdownRx) abortedChild_watch _
  | _ => rfl

/-- Only a `select!` that looks for a shutdown changes what the supervisor has seen of the watch. -/
theorem Rule.watch (h : Rule rt ctrl a rt' ctrl') (hwf : rt.Wf) (ha : a ≠ .run .shutdown) :
    rt'.shutdownRx = rt.shutdownRx ∨ ctrl'.shutsDown = true ∨ envStep rt a = some rt' := by
  cases h with
  | env henv => exact .inr (.inr henv)
  | start hl => exact .inl (hl.watch.trans (spawnedAll_watch _ _))
  | loop hc hl => exact .inl (hl.watch.trans (hc.watch ha))
  | shutdown hb => exact .inr (.inl (by simp [hb.shutsDown]))
  | command _ _ _ ho => exact .inl ho.watch
  | join _ _ ho => exact .inl ho.watch
  | readyJoin _ hd => exact .inl hd.watch
  | drainJoin _ hd hn => exact .inl (hn.watch.trans hd.watch)
  | drainNext _ hn => exact .inl hn.watch
  | groupDrain =>
    refine .inl ((abortMatchingChildren_field (·.shutdownRx) abortedChild_watch _).trans ?_)
    obtain ⟨C, n, heq, -⟩ := hwf.cancelRunningChildren
    rw [heq]
    rfl
  | groupRespawn => exact .inl (respawnedAll_watch _ _)
  | delaySeen | removalSeen => exact absurd rfl ha
  | removalTimer => exact .inl (abortedChild_watch _ _)
  | _ => exact .inl rfl

theorem envStep_watch (h : envStep rt a = some rt') (hv : rt'.shutdownRx.value = true) :
    rt'.shutdownRx.unseen = true ∨
      rt.shutdownRx.value = true ∧ rt'.shutdownRx.unseen = rt.shutdownRx.unseen := by
  cases a with
  | requestShutdown =>
    simp only [envStep, Option.ite_none_left_eq_some, Option.some.injEq] at h
    obtain ⟨-, rfl⟩ := h
    exact .inl rfl
  | tick | notify =>
    simp only [envStep, Option.ite_none_right_eq_some, Option.some.injEq] at h
    obtain ⟨-, rfl⟩ := h
    exact .inr ⟨hv, rfl⟩
  | send command =>
    simp only [envStep, Option.ite_none_left_eq_some] at h
    obtain ⟨-, h⟩ := h
    split at h
    · cases h
      exact .inr ⟨hv, rfl⟩
    · simp only [Option.ite_none_right_eq_some, Option.some.injEq] at h
      obtain ⟨-, rfl⟩ := h
      exact .inr ⟨hv, rfl⟩
  | finish task outcome =>
    obtain ⟨js, -, rfl⟩ := Option.map_eq_some_iff.1 h
    exact .inr ⟨hv, rfl⟩
  | _ =>
    cases h <;> exact .inr ⟨hv, rfl⟩

theorem SupervisorRuntime.Wf.shutdownAll_shutsDown (h : rt.Wf) {k : Stack .shutdownAll}
    (hk : k.shutsDown = true) (rt₀ : SupervisorRuntime) :
    (settle rt₀ (rt.shutdownAll k)).ctrl.shutsDown = true := by
  have hwf : ({ rt with state := .stopping } : SupervisorRuntime).cancelRunningChildren.Wf :=
    (show Wf { rt with state := .stopping } from h).cancelRunningChildren.choose_spec.choose_spec.2.2.2.2
  simp only [SupervisorRuntime.shutdownAll, hwf.sendEvent, ok_bind]
  show (k.push .shutdownDrain).shutsDown = true
  rw [Stack.shutsDown_push, hk, Bool.or_true]

/-- A `select!` that looks for a shutdown sees a request, and goes for nothing else. -/
theorem step_shutdown {c c' : Config} (hwf : c.rt.Wf) (hv : c.rt.shutdownRx.value = true)
    (hu : c.rt.shutdownRx.unseen = true) (hstep : step c (.run .shutdown) = some c') :
    c'.ctrl.shutsDown = true := by
  obtain ⟨rt, ctrl⟩ := c
  have hready : rt.shutdownRx.ready = true := by
    simp only [ShutdownWatch.ready, show rt.shutdownRx.unseen = true from hu, Bool.true_or]
  rcases shutdownChanged_cases hready with ⟨rt₁, hchanged, hrt, -⟩ | ⟨-, -, hnone⟩
  · have hwf₁ : rt₁.Wf := by rcases hrt with rfl | rfl <;> exact hwf
    cases ctrl with
    | await p k =>
      obtain ⟨x, hx, rfl⟩ := Option.map_eq_some_iff.1 hstep
      cases p with
      | runSelect | removalSelect l | delaySelect deadline =>
        dsimp only [wake] at hx
        rw [if_pos hready, hchanged] at hx
        cases hx
        refine hwf₁.shutdownAll_shutsDown ?_ rt
        simp [Frame.shutsDown]
      | _ => cases hx
    | _ => cases hstep
  · rw [hnone] at hv
    cases hv

end

/-! ### What holds along a run -/

/-- A call of `queue_shutdown_exit` has returned. -/
def Ctrl.pends : Ctrl → Bool
  | @Ctrl.ret .queueShutdownExit _ _ => true
  | _ => false

/-- A request is seen by the next `select!` that looks for one, or it is being served. -/
structure Config.Heard (c : Config) : Prop where
  requested : c.rt.shutdownRx.value = true → c.rt.shutdownRx.unseen = true ∨ c.ctrl.shutsDown = true ∨
    c.ctrl.ended = true ∨ c.rt.pendingExit.isSome = true
  queued : c.ctrl.pends = true → c.rt.pendingExit.isSome = true
  unwinds : c.rt.pendingExit.isSome = true → c.ctrl.unwinds = true

theorem Rule.pends {rt rt' : SupervisorRuntime} {ctrl ctrl' : Ctrl} {a : Act}
    (h : Rule rt ctrl a rt' ctrl') (hq : ctrl'.pends = true) :
    ctrl.pends = true ∧ envStep rt a = some rt' ∨ rt'.pendingExit.isSome = true := by
  cases h with
  | env henv => exact .inl ⟨hq, henv⟩
  | move hm =>
    cases hm with
    | removalShutdownOk hr | removalJoinOk hr => cases hr <;> cases hq
    | _ => cases hq
  | queued v => exact .inr rfl
  | start hl | loop _ hl => rcases hl.ctrl with ⟨_, rfl⟩ | rfl <;> cases hq
  | command _ _ _ ho => cases ho <;> cases hq
  | join _ _ ho => cases ho <;> cases hq
  | drainJoin _ _ hn | drainNext _ hn => cases hn <;> cases hq
  | removalSeen hr => cases hr <;> cases hq
  | _ => cases hq

namespace Config.Heard
variable {c c' : Config} {a : Act}

theorem unseen (h : c.Heard) (hv : c.rt.shutdownRx.value = true) {fn : Fn} {p : Await fn} {k : Stack fn}
    (hc : c.ctrl = .await p k) (hf : fn.settled = true) : c.rt.shutdownRx.unseen = true := by
  rcases h.requested hv with hu | hs | hend | hp
  · exact hu
  · rw [hc, Ctrl.shutsDown_await, k.shutsDown_of_settled hf] at hs
    cases hs
  · rw [hc] at hend
    cases hend
  · have := h.unwinds hp
    rw [hc] at this
    cases this

theorem step_requested (h : c.Heard) (hs : c.Sane) (hstep : TokioSupervisor.step c a = some c')
    (hv : c'.rt.shutdownRx.value = true) : c'.rt.shutdownRx.unseen = true ∨ c'.ctrl.shutsDown = true ∨
      c'.ctrl.ended = true ∨ c'.rt.pendingExit.isSome = true := by
  have hr := step_rule hs hstep
  have hkept (hreq : c.rt.shutdownRx.value = true) (hsame : c'.rt.shutdownRx.unseen = c.rt.shutdownRx.unseen) :
      c'.rt.shutdownRx.unseen = true ∨ c'.ctrl.shutsDown = true ∨ c'.ctrl.ended = true ∨
        c'.rt.pendingExit.isSome = true := by
    rcases h.requested hreq with hu | hd | hend | hp
    · exact .inl (hsame.trans hu)
    · exact .inr (hr.shutsDown hd)
    · exact .inr (.inr (.inl (by rw [(ended_step hend hstep).1]; exact hend)))
    · rcases step_pendingExit hs hstep with heq | ⟨-, hend⟩ | ⟨k, v, -, rfl⟩
      · exact .inr (.inr (.inr (by rw [heq]; exact hp)))
      · exact .inr (.inr (.inl hend))
      · exact .inr (.inr (.inr rfl))
  by_cases ha : a = .run .shutdown
  · subst ha
    have hvalue : c.rt.shutdownRx.value = true := by
      obtain ⟨-, heq⟩ := (hr.updates hs.wf).invariant
        (I := fun rt => rt.shutdownRx.value = c.rt.shutdownRx.value) hs.wf rfl
        fun rt rt' hwf hI hu => (hu.shutdownRx hwf rfl).1.trans hI
      exact heq.symm.trans hv
    refine .inr (.inl (step_shutdown hs.wf hvalue ?_ hstep))
    obtain ⟨rt, ctrl⟩ := c
    cases ctrl with
    | await p k =>
      cases p with
      | runSelect | removalSelect l | delaySelect deadline => exact h.unseen hvalue rfl rfl
      | _ => cases hstep
    | _ => cases hstep
  · rcases hr.watch hs.wf ha with heq | hd | henv
    · exact hkept (by rw [← heq]; exact hv) (by rw [heq])
    · exact .inr (.inl hd)
    · rcases envStep_watch henv hv with hu | ⟨hreq, hsame⟩
      · exact .inl hu
      · exact hkept hreq hsame

theorem step (h : c.Heard) (hs : c.Sane) (hstep : TokioSupervisor.step c a = some c') : c'.Heard := by
  refine ⟨h.step_requested hs hstep, fun hq => ?_, step_unwinds hs hstep h.unwinds⟩
  rcases (step_rule hs hstep).pends hq with ⟨hq, henv⟩ | hp
  · rw [(envStep_frame henv).pendingExit]
    exact h.queued hq
  · exact hp

end Config.Heard

section
variable {config : SupervisorConfig} {env : StartEnv} {as : List Act} {c c' : Config} {a : Act}

theorem run_heard {ok : Config → Act → Prop} (h : config.Accepted)
    (hrun : Run step ok (Config.start config env) as c) : c.Heard := by
  have hfresh := h.fresh env
  refine hrun.invariant_of (I := Config.Heard) (fun _ _ h' => run_sane h h')
    ⟨fun hv => ?_, nofun, fun hpending => ?_⟩ fun _ _ _ hs hI _ hstep => hI.step hs hstep
  · have hwatch : (SupervisorRuntime.new config env).shutdownRx.value = false := by
      rw [hfresh.shutdownRx]
    exact absurd (hwatch.symm.trans hv) nofun
  · have hnone : (SupervisorRuntime.new config env).pendingExit = none := hfresh.pendingExit
    have hpending : (SupervisorRuntime.new config env).pendingExit.isSome = true := hpending
    rw [hnone] at hpending
    cases hpending

theorem Rule.spawns_unwinding {rt rt' : SupervisorRuntime} {ctrl ctrl' : Ctrl}
    (h : Rule rt ctrl a rt' ctrl') (hu : ctrl.unwinds = true) : spawns rt'.trace = spawns rt.trace := by
  have hdrop (rt : SupervisorRuntime) : spawns rt.dropReceiver.trace = spawns rt.trace :=
    (dropReceiver_grown (P := fun b => b.spawn = none) rt fun _ => rfl).filterMap_eq fun _ hb => hb
  cases h with
  | env henv => exact (envStep_frame henv).spawns_eq
  | move hm => rfl
  | overflow | vacantOne | vacantAll | joinError | shutdownEnd | runEnd => exact hdrop rt
  | loop hc hl =>
    refine hl.spawns_eq.1.trans ?_
    cases hc <;> rfl
  | queued v | replied v => rfl
  | shutdown hb _ _ => cases hb <;> cases hu
  | command hh _ _ _ => cases hh <;> cases hu
  | join hh _ _ => cases hh <;> cases hu
  | drainNext hd _ => cases hd <;> cases hu
  | _ => cases hu

/-- Behind a pending result nothing is spawned any more. -/
theorem run_spawns_pending {as' : List Act} (h : config.Accepted)
    (hrun : AnyRun step (Config.start config env) as c) (hp : c.rt.pendingExit.isSome = true)
    (hrun' : AnyRun step c as' c') : spawns c'.rt.trace = spawns c.rt.trace := by
  have hover : (c'.rt.pendingExit.isSome = true ∨ c'.ctrl.ended = true) ∧
      spawns c'.rt.trace = spawns c.rt.trace := by
    refine hrun'.invariant_of
      (I := fun c' => (c'.rt.pendingExit.isSome = true ∨ c'.ctrl.ended = true) ∧
        spawns c'.rt.trace = spawns c.rt.trace)
      (J := fun c' => c'.Sane ∧ c'.Heard)
      (fun _ _ h' => ⟨run_sane h (hrun.trans h'), run_heard h (hrun.trans h')⟩) ⟨.inl hp, rfl⟩ ?_
    rintro c₁ a c₂ ⟨hs, hheard⟩ ⟨hover, hspawns⟩ - hstep
    rcases hover with hp | hend
    · refine ⟨?_, ((step_rule hs hstep).spawns_unwinding (hheard.unwinds hp)).trans hspawns⟩
      rcases step_pendingExit hs hstep with heq | ⟨-, hend⟩ | ⟨k, v, -, rfl⟩
      · exact .inl (by rw [heq]; exact hp)
      · exact .inr hend
      · exact .inl rfl
    · obtain ⟨hctrl, henv⟩ := ended_step hend hstep
      exact ⟨.inr (by rw [hctrl]; exact hend), (envStep_frame henv).spawns_eq.trans hspawns⟩
  exact hover.2

/-! ### How the wait returns -/

/-- Where a call of `wait_for_restart_delay` has returned `v`. -/
inductive EndsWait (rt : SupervisorRuntime) :
    Ctrl → Act → SupervisorRuntime → Except SupervisorError Bool → Prop
  | env {ctrl : Ctrl} {a : Act} {rt' : SupervisorRuntime} {v : Except SupervisorError Bool}
      (hw : ctrl.waited = some v) (henv : envStep rt a = some rt') : EndsWait rt ctrl a rt' v
  | queued {k : Stack .waitForRestartDelay} :
      EndsWait rt (.ret (.push .delayShutdown k) ()) .resume rt (.ok false)
  | pending {ctrl : Ctrl} {a : Act} {rt' : SupervisorRuntime} (hp : rt'.pendingExit.isSome = true) :
      EndsWait rt ctrl a rt' (.ok false)
  | zeroEnd {k : Stack .waitForRestartDelay} (hp : rt.pendingExit = none) :
      EndsWait rt (.ret (.push .delayZeroCommand k) ()) .resume rt (.ok true)
  | yield {k : Stack .waitForRestartDelay} : EndsWait rt (.await .delayYield k) (.run .go) rt (.ok true)
  | tryRecv {key : ChildKey} {rt' : SupervisorRuntime} {k : Stack .waitForRestartDelay} :
      EndsWait rt (.await .delayTryRecv k) (.run (.command key)) rt' (.ok true)
  | timer {deadline : Instant} {k : Stack .waitForRestartDelay} :
      EndsWait rt (.await (.delaySelect deadline) k) (.run .timer) rt (.ok true)

theorem Rule.waited {rt rt' : SupervisorRuntime} {ctrl ctrl' : Ctrl} {v : Except SupervisorError Bool}
    (h : Rule rt ctrl a rt' ctrl') (hw : ctrl'.waited = some v) : EndsWait rt ctrl a rt' v := by
  cases h with
  | env henv => exact .env hw henv
  | move hm =>
    cases hm with
    | removalShutdownOk hr | removalJoinOk hr => cases hr <;> cases hw
    | delayShutdown => cases hw; exact .queued
    | zeroPending hp | delayPending hp => cases hw; exact .pending hp
    | zeroEnd hp => cases hw; exact .zeroEnd hp
    | delayYieldEnd => cases hw; exact .yield
    | tryRecvEmpty => cases hw; exact .tryRecv
    | delayTimer => cases hw; exact .timer
    | _ => cases hw
  | tryRecvClosed => cases hw; exact .tryRecv
  | delayClosedPending _ hp => cases hw; exact .pending hp
  | start hl | loop _ hl => rcases hl.ctrl with ⟨_, rfl⟩ | rfl <;> cases hw
  | command _ _ _ ho => cases ho <;> cases hw
  | join _ _ ho => cases ho <;> cases hw
  | drainJoin _ _ hn | drainNext _ hn => cases hn <;> cases hw
  | removalSeen hr => cases hr <;> cases hw
  | _ => cases hw

theorem Ctrl.shutsDown_of_waited {ctrl : Ctrl} {v : Except SupervisorError Bool}
    (h : ctrl.waited = some v) : ctrl.shutsDown = false := by
  unfold Ctrl.waited at h
  split at h
  · rename_i fn k u
    refine k.shutsDown_of_settled ?_
    cases fn <;> first | rfl | cases h
  · cases h

theorem SupervisorRuntime.Wf.handleCommand_waited {rt : SupervisorRuntime} (h : rt.Wf) {key : ChildKey}
    (hv : rt.children.vacant key = true) (rt₀ : SupervisorRuntime) (cmd : SupervisorCommand)
    (k : Stack .handleCommand) : (settle rt₀ (rt.handleCommand key cmd k)).ctrl.waited = none := by
  have hl := h.handleCommand hv cmd k
  cases hx : rt.handleCommand key cmd k with
  | error p => rfl
  | ok c =>
    rw [hx] at hl
    obtain ⟨rt', ctrl'⟩ := c
    have hout : CommandOutcome rt key k cmd rt' ctrl' := hl
    cases hout <;> rfl

theorem step_endsZeroLoop (hstep : step c a = some c') (he : c.endsZeroLoop a = true) :
    c'.ctrl.waited = some (.ok true) ∧ c.ctrl.parked = false := by
  obtain ⟨rt, ctrl⟩ := c
  unfold Config.endsZeroLoop at he
  split at he
  · split at he
    · rename_i k hctrl
      cases hctrl
      simp only [Bool.and_eq_true, Option.isNone_iff_eq_none, Bool.not_eq_true'] at he
      obtain ⟨hp, ho⟩ := he
      cases hstep
      simp [resume, hp, delayZeroLoop, ho, SupervisorRuntime.ret, settle, Ctrl.waited, Fn.waited, Ctrl.parked]
    · cases he
  · split at he
    · rename_i k hctrl
      cases hctrl
      simp only [Bool.and_eq_true, List.isEmpty_iff] at he
      obtain ⟨x, hx, rfl⟩ := Option.map_eq_some_iff.1 hstep
      dsimp only [wake] at hx
      rw [if_pos he.1] at hx
      simp only [SupervisorRuntime.recvCommand, he.2] at hx
      split at hx <;> cases hx <;> exact ⟨rfl, rfl⟩
    · cases he
  · cases he

/-- A call of `wait_for_restart_delay` returns `Ok(false)` for a pending result, or it has found that no
shutdown is requested, or its zero-delay loop has ended. -/
theorem step_waited {v : Except SupervisorError Bool} (hs : c.Sane) (hheard : c.Heard)
    (hstep : step c a = some c') (hw : c'.ctrl.waited = some v) :
    (c.ctrl.waited = some v ∧ envStep c.rt a = some c'.rt) ∨
      (v = .ok false ∧ c'.rt.pendingExit.isSome = true) ∨ c.endsZeroLoop a = true ∨
      (∃ w, a = .run w) ∧ c.ctrl.parked = true ∧ c.rt.shutdownRx.value = false := by
  obtain ⟨rt, ctrl⟩ := c
  obtain ⟨rt', ctrl'⟩ := c'
  cases (step_rule hs hstep).waited hw with
  | env hw henv => exact .inl ⟨hw, henv⟩
  | queued => exact .inr (.inl ⟨rfl, hheard.queued rfl⟩)
  | pending hp => exact .inr (.inl ⟨rfl, hp⟩)
  | zeroEnd hp =>
    refine .inr (.inr (.inl ?_))
    have hp : rt.pendingExit = none := hp
    simp only [step, resume, hp, Option.isSome_none, Bool.false_eq_true, if_false, delayZeroLoop] at hstep
    cases ho : rt.commandsOpen with
    | true =>
      rw [ho] at hstep
      cases hstep
      cases hw
    | false => simp [Config.endsZeroLoop, hp, ho]
  | @yield k =>
    refine .inr (.inr (.inr ⟨⟨_, rfl⟩, rfl, ?_⟩))
    cases hv : rt.shutdownRx.value with
    | true =>
      obtain ⟨x, hx, hsettle⟩ := Option.map_eq_some_iff.1 hstep
      dsimp only [wake] at hx
      rw [if_pos hv] at hx
      cases hx
      have hctrl : (settle rt (rt.queueShutdownExit (.push .delayShutdown k))).ctrl = ctrl' :=
        congrArg Config.ctrl hsettle
      have hbegun : ctrl'.shutsDown = true := by
        rw [← hctrl]
        refine hs.wf.shutdownAll_shutsDown ?_ rt
        simp [Frame.shutsDown]
      have hw : ctrl'.waited = some (.ok true) := hw
      rw [Ctrl.shutsDown_of_waited hw] at hbegun
      cases hbegun
    | false => rfl
  | @tryRecv key _ k =>
    refine .inr (.inr (.inl ?_))
    obtain ⟨x, hx, hsettle⟩ := Option.map_eq_some_iff.1 hstep
    dsimp only [wake] at hx
    split at hx
    · rename_i hv
      rcases @recvCommand_cases rt with ⟨cmd, rest, -, heq⟩ | ⟨-, hq⟩
      · rw [heq] at hx
        cases hx
        have hwf : (rt.received rest).Wf := hs.wf
        have hnone := hwf.handleCommand_waited hv rt cmd (k.push .delayZeroCommand)
        have hctrl : (settle rt ((rt.received rest).handleCommand key cmd (k.push .delayZeroCommand))).ctrl =
            ctrl' := congrArg Config.ctrl hsettle
        rw [hctrl] at hnone
        cases hnone.symm.trans hw
      · have hq : rt.commandRx.queue = [] := hq
        simp [Config.endsZeroLoop, hv, hq]
    · cases hx
  | timer =>
    refine .inr (.inr (.inr ⟨⟨_, rfl⟩, rfl, ?_⟩))
    obtain ⟨x, hx, -⟩ := Option.map_eq_some_iff.1 hstep
    dsimp only [wake] at hx
    split at hx
    · rename_i hready
      simp only [ShutdownWatch.ready, Bool.and_eq_true, Bool.not_eq_true', Bool.or_eq_false_iff] at hready
      by_contra hv
      rw [Bool.not_eq_false] at hv
      have hunseen : rt.shutdownRx.unseen = true := hheard.unseen hv rfl rfl
      rw [hready.1.1.1] at hunseen
      cases hunseen
    · cases hx

/-! ### Runs -/

namespace Polled
variable {s s' : Polled}

theorem run_config {ok : Polled → Act → Prop} (hrun : Run step ok (start config env) as s) :
    AnyRun TokioSupervisor.step (Config.start config env) as s.config := by
  induction hrun with
  | nil => exact .nil
  | snoc _ _ hstep ih =>
    obtain ⟨c, hc, rfl⟩ := Option.map_eq_some_iff.1 hstep
    exact .snoc ih trivial hc

theorem givenUp_of_pending (h : config.Accepted)
    (hrun : AnyRun TokioSupervisor.step (Config.start config env) as c)
    (hp : c.rt.pendingExit.isSome = true) : GivenUp c (.ok false) := by
  obtain ⟨result, hresult⟩ := Option.isSome_iff_exists.1 hp
  refine ⟨rfl, ⟨result, hresult, fun x hx => ?_⟩, fun as' c' hrun' => run_spawns_pending h hrun hp hrun'⟩
  subst hx
  exact (run_ending h hrun).pending x hresult

/-- A step keeps the promise exactly when it meets the condition. -/
theorem step_preempts (h : config.Accepted) (hrun : AnyRun step (start config env) as s)
    (hprev : s.Preempts) (hstep : s.step a = some s') : s'.Preempts ↔ s.noticesShutdown a = true := by
  have hrun₀ := run_config hrun
  have hrun' := run_config (hrun.snoc trivial hstep)
  have hs := run_sane h hrun₀
  obtain ⟨c', hc', rfl⟩ := Option.map_eq_some_iff.1 hstep
  constructor
  · intro hkeeps
    by_contra hnotice
    simp only [noticesShutdown, Bool.not_eq_true', Bool.not_eq_false, Bool.and_eq_true] at hnotice
    obtain ⟨htold, hends⟩ := hnotice
    obtain ⟨hw, hparked⟩ := step_endsZeroLoop hc' hends
    have := (hkeeps _ hw (by cases a <;> simp [hparked, htold])).returned
    cases this
  · intro hnotice v hw htold
    rcases step_waited hs (run_heard h hrun₀) hc' hw with ⟨hw₀, henv⟩ | ⟨rfl, hp⟩ | hends | ⟨⟨w, rfl⟩, hparked, hv⟩
    · have htold₀ : s.told = true := by
        cases a with
        | run w | resume => cases henv
        | _ => exact htold
      have hgiven := hprev v hw₀ htold₀
      obtain ⟨result, hresult, -⟩ := hgiven.pending
      rw [hgiven.returned]
      refine givenUp_of_pending h hrun' ?_
      show c'.rt.pendingExit.isSome = true
      rw [(envStep_frame henv).pendingExit, hresult]
      rfl
    · exact givenUp_of_pending h hrun' hp
    · have hparked := (step_endsZeroLoop hc' hends).2
      have htold₀ : s.told = true := by cases a <;> simpa [hparked] using htold
      simp [noticesShutdown, htold₀, hends] at hnotice
    · simp [hparked, hv] at htold

/-- In every run whose steps all meet the condition a shutdown preempts the pending restarts; and in any
run, as long as it has done so, the next step does exactly when it meets the condition. -/
theorem run_preempts (h : config.Accepted) :
    (∀ as s, Run step (fun s a => s.noticesShutdown a = true) (start config env) as s → s.Preempts) ∧
    ∀ as s, AnyRun step (start config env) as s → s.Preempts → ∀ a s', s.step a = some s' →
      (s'.Preempts ↔ s.noticesShutdown a = true) := by
  refine ⟨fun as s hrun => ?_, fun as s hrun hprev a s' hstep => step_preempts h hrun hprev hstep⟩
  induction hrun with
  | nil => exact fun v hw => by cases hw
  | snoc hrun hok hstep ih => exact (step_preempts h hrun.any ih hstep).2 hok

end Polled

end

/-! ### A command that does not look -/

/-- Two children that are aborted, and restarted at once. -/
def promptConfig : SupervisorConfig := { slotConfig with restartIntensity := ⟨3, .fromSecs 5, .none⟩ }

theorem promptConfig_accepted : promptConfig.Accepted :=
  ⟨⟨promptConfig.strategy, promptConfig.restartIntensity, promptConfig.children, 8, 8⟩, rfl⟩

/-- The wait of a failed child's restart has returned this. -/
def Polled.look (s : Polled) : Option Bool × Bool :=
  (s.config.ctrl.waited.bind Except.toOption, s.told)

/-- `a` fails, and `b` is removed before its restart; the shutdown is requested while the removal waits
for the aborted task. -/
def unnoticedActs : List Act :=
  [.run .go, .finish 0 (.returned (.error "failed")), .run (.join 0), .run .go,
    .send (.removeChild "b" 0), .run .go, .run (.command 2), .requestShutdown, .run .go, .run .timer,
    .resume, .resume, .resume, .resume, .run (.command 2)]

/-- The restart goes ahead. -/
theorem unnoticed_shutdown_reached : promptConfig.Accepted ∧ ∃ s,
    AnyRun Polled.step (Polled.start promptConfig ⟨false, 0, 0⟩) unnoticedActs s ∧ ¬ s.Preempts := by
  have hex : ∃ s, AnyRun Polled.step (Polled.start promptConfig ⟨false, 0, 0⟩) unnoticedActs s ∧
      s.look = (some true, true) := anyRun_of_exec (by decide +kernel)
  obtain ⟨s, hrun, hlook⟩ := hex
  refine ⟨promptConfig_accepted, s, hrun, fun h => ?_⟩
  simp only [Polled.look, Prod.mk.injEq, Option.bind_eq_some_iff] at hlook
  obtain ⟨⟨v, hw, hv⟩, htold⟩ := hlook
  rw [(h v hw htold).returned] at hv
  cases hv

/-- The shutdown is requested while the wait yields. -/
theorem run_preempts_yield : ∃ s : Polled, s.look = (some false, true) ∧ s.Preempts := by
  have hex : ∃ s, Run Polled.step (fun s a => s.noticesShutdown a = true)
      (Polled.start promptConfig ⟨false, 0, 0⟩)
      [.run .go, .finish 0 (.returned (.error "failed")), .run (.join 0), .run .go, .requestShutdown,
        .run .go, .run .go, .finish 1 .cancelled, .run (.join 1), .run .joinNone, .resume, .resume,
        .resume, .resume] s ∧ s.look = (some false, true) := run_of_execIf_map (by decide +kernel)
  obtain ⟨s, hrun, hlook⟩ := hex
  exact ⟨s, hlook, (Polled.run_preempts promptConfig_accepted).1 _ s hrun⟩

end TokioSupervisor
