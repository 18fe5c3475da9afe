import TokioSupervisor.Runtime.Joined
import TokioSupervisor.Runtime.Observed

/-!
# The published end of a run

`finish_with_exit` publishes that the supervisor has stopped, and every `Ok` of `run` comes after it
(`Rule.exits`): while the result of a shutdown is pending nothing more is sent (`Rule.unwinds_over`).
An error of `run` passes it by. There are two sources of such errors: a restart that the intensity
refuses, and a drain that has timed out (`Rule.breaks`).
-/

namespace TokioSupervisor
open Lib SupervisorRuntime

/-! ### Conditions -/

/-- The exit of the task `id` asks for a restart that the intensity does not allow. -/
def SupervisorRuntime.overruns (rt : SupervisorRuntime) (id : TaskId) : Bool :=
  rt.joinSet.tasks.any fun t => t.id == id && t.outcome.any fun outcome =>
    (rt.children.get t.info.key).any fun e =>
      e.instanceId == t.info.instanceId && e.runtime.generation == t.info.generation &&
        rt.state != .stopping && e.membership == .active &&
          e.runtime.spec.restart.shouldRestart outcome.status.isFailure &&
            (e.runtime.restartTracker.record rt.now).exceeded

/-- The main loop joins no such task. -/
def joinsAllowed (c : Config) : Act → Bool
  | .run (.join id) => !c.ctrl.atSelect || !c.rt.overruns id
  | _ => true

/-- Whatever `run` waits for, a drain ends without a timeout. -/
def drainsInTime (c : Config) : Bool :=
  match c.ctrl with
  | .ret (.push (.drainSecond .shutdown timedOut) _) (.ok ()) => timedOut.isEmpty
  | .ret (.push (.drainSecond .groupRestart timedOut) k) (.ok ()) =>
    k.inControl || timedOut.isEmpty && c.rt.activeTaskNames.isEmpty
  | _ => true

/-! ### Errors of `run` -/

/-- The errors that every caller hands on to `run`. -/
def Fn.breaks : (fn : Fn) → fn.Value → Bool
  | .run, .error _ | .shutdownAll, .error _ | .drainChildren .shutdown, .error _
  | .drainReadyJoins _, .error _ | .waitForRestartDelay, .error _ => true
  | _, _ => false

/-- An error that `run` returns is on its way, or `run` has returned it. -/
def Ctrl.breaks : Ctrl → Bool
  | @Ctrl.ret fn k v => fn.breaks v || (fn.error v).isSome && !k.inControl
  | .finished (.error _) => true
  | _ => false

section
variable {rt rt' : SupervisorRuntime} {ctrl ctrl' : Ctrl} {a : Act}

theorem overruns_of {t : Task} {outcome : TaskOutcome} {e : ChildEntry} (hf : rt.Finished t outcome)
    (hc : rt.Current t.info e) (hs : rt.state ≠ .stopping) (hm : e.membership = .active)
    (hr : e.runtime.spec.restart.shouldRestart outcome.status.isFailure = true)
    (hx : (e.runtime.restartTracker.record rt.now).exceeded = true) : rt.overruns t.id = true := by
  refine List.any_eq_true.2 ⟨t, hf.mem, ?_⟩
  simp [hf.outcome, hc.get, hc.instanceId, hc.generation, hs, hm, hr, hx]

theorem Stack.inControl_run (k : Stack .run) : k.inControl = false := by
  cases k with
  | nil => rfl
  | push f k => cases f

/-- A move of control does not bring such an error up, except for a drain that has timed out. -/
theorem Move.breaks (h : Move rt ctrl a ctrl') (hok : drainsInTime ⟨rt, ctrl⟩ = true)
    (hb : ctrl.breaks = false) : ctrl'.breaks = false := by
  cases h with
  | @drainFailed reason timedOut k hf e =>
    cases reason with
    | shutdown =>
      have hok : timedOut.isEmpty = true := hok
      rcases hf with hf | ⟨hr, -⟩
      · rw [hok] at hf
        cases hf
      · cases hr
    | groupRestart =>
      have hok : (k.inControl || timedOut.isEmpty && rt.activeTaskNames.isEmpty) = true := hok
      have hin : k.inControl = true := by
        rcases hf with hf | ⟨-, hf⟩ <;> simpa [hf] using hok
      show (!k.inControl) = false
      rw [hin]
      rfl
  | removalShutdownOk hr | removalJoinOk hr => cases hr <;> rfl
  | groupDrain v | joinedOneForOne v | joinedOneForAll v =>
    cases v with
    | ok u => rfl
    | error e => exact hb
  | _ => first | rfl | exact hb | cases hb

theorem LoopHead.breaks {rt₁ : SupervisorRuntime} (h : LoopHead rt₁ rt' ctrl')
    (hp : ∀ v, rt₁.pendingExit = some v → ∃ x, v = .ok x) : ctrl'.breaks = false := by
  cases h with
  | exit hv =>
    obtain ⟨x, rfl⟩ := hp _ hv
    rfl
  | natural | wait => rfl

theorem DrainNext.breaks {rt₁ : SupervisorRuntime} {reason : DrainReason}
    {k : Stack (.drainChildren reason)} (h : DrainNext rt₁ reason k rt' ctrl') : ctrl'.breaks = false := by
  cases h with
  | select | abort => rfl
  | done => cases reason <;> rfl

theorem CommandOutcome.breaks {key : ChildKey} {k : Stack .handleCommand} {cmd : SupervisorCommand}
    (h : CommandOutcome rt key k cmd rt' ctrl') : ctrl'.breaks = false := by
  cases h <;> rfl

/-- A join brings one up in the main loop, where the intensity refuses the restart. -/
theorem JoinOutcome.breaks {t : Task} {outcome : TaskOutcome} {k : Stack .handleJoinedChild}
    (hh : HandlesJoin ctrl k) (hf : rt.Finished t outcome) (h : JoinOutcome rt t outcome k rt' ctrl')
    (hok : joinsAllowed ⟨rt, ctrl⟩ (.run (.join t.id)) = true) : ctrl'.breaks = false := by
  have hrefused (hx : rt.overruns t.id = true) : k.inControl = true := by
    cases hh with
    | run =>
      have hok : (!rt.overruns t.id) = true := hok
      rw [hx] at hok
      cases hok
    | removal => rfl
  cases h with
  | overrunOne hc hs hm hr hst hx | overrunAll hc hs hm hr hst hx =>
    show (!k.inControl) = false
    rw [hrefused (overruns_of hf hc hs hm hr hx)]
    rfl
  | _ => rfl

theorem Rule.breaks (h : Rule rt ctrl a rt' ctrl') (hjoin : joinsAllowed ⟨rt, ctrl⟩ a = true)
    (hdrain : drainsInTime ⟨rt, ctrl⟩ = true) (hp : ∀ v, rt.pendingExit = some v → ∃ x, v = .ok x)
    (hb : ctrl.breaks = false) : ctrl'.breaks = false := by
  cases h with
  | env henv => exact hb
  | move hm => exact hm.breaks hdrain hb
  | start hl => exact hl.breaks fun v hv => hp v (by rwa [spawnedAll_pendingExit] at hv)
  | loop hc hl => exact hl.breaks fun v hv => hp v (hc.pendingExit ▸ hv)
  | joinError e =>
    rename_i k
    have hb : (!k.inControl) = false := hb
    rw [Stack.inControl_run] at hb
    cases hb
  | shutdownEnd v | runEnd v =>
    cases v with
    | ok x => rfl
    | error e => cases hb
  | command hh hv hq ho => exact ho.breaks
  | join hh hf ho => exact ho.breaks hh hf hjoin
  | drainJoin hf hd hn | drainNext hd hn => exact hn.breaks
  | removalSeen hr => cases hr <;> rfl
  | _ => rfl

/-! ### The end -/

/-- A shutdown or the whole run has returned `Ok`. -/
inductive Ctrl.Exits : Ctrl → Prop
  | shutdown {k : Stack .shutdownAll} (x : SupervisorExit) : Exits (.ret k (.ok x))
  | run {k : Stack .run} (x : SupervisorExit) : Exits (.ret k (.ok x))
  | finished (x : SupervisorExit) : Exits (.finished (.ok x))

theorem SupervisorRuntime.Over.env (h : rt.Over) (henv : envStep rt a = some rt') : rt'.Over := by
  have hframe := envStep_frame henv
  refine ⟨by rw [hframe.snapshots, h.snapshot], ?_⟩
  rcases hframe.trace with ht | ⟨reply, ht⟩
  · rw [ht, h.event]
  · rw [ht]
    exact h.event

theorem SupervisorRuntime.Over.exit (h : rt.Over) : { rt with pendingExit := none }.dropReceiver.Over :=
  have hover : Over { rt with pendingExit := none } := ⟨h.snapshot, h.event⟩
  hover.dropReceiver

theorem AtLoop.eq_of_unwinds {rt₁ : SupervisorRuntime} (h : AtLoop rt ctrl a rt₁)
    (hu : ctrl.unwinds = true) : rt₁ = rt := by
  cases h with
  | command | join => rfl
  | seen | closed | ignored | nested => cases hu

theorem Rule.unwinds_over (h : Rule rt ctrl a rt' ctrl') (hp : rt.pendingExit.isSome = true)
    (hu : ctrl.unwinds = true) (ho : rt.Over) : rt'.Over := by
  cases h with
  | env henv => exact ho.env henv
  | move hm => exact ho
  | overflow | vacantOne | vacantAll | joinError | shutdownEnd | runEnd => exact ho.dropReceiver
  | loop hc hl =>
    obtain rfl := hc.eq_of_unwinds hu
    cases hl with
    | exit _ => exact ho.exit
    | natural hn | wait hn =>
      rw [hn] at hp
      cases hp
  | queued v => exact ⟨ho.snapshot, ho.event⟩
  | replied v => exact ⟨ho.snapshot, ho.event⟩
  | shutdown hb _ _ => cases hb <;> cases hu
  | command hh _ _ _ => cases hh <;> cases hu
  | join hh _ _ => cases hh <;> cases hu
  | drainNext hd _ => cases hd <;> cases hu
  | _ => cases hu

/-- Every `Ok` comes after the end was published. -/
theorem Rule.exits (h : Rule rt ctrl a rt' ctrl') (hu : rt.pendingExit.isSome = true → ctrl.unwinds = true)
    (hp : rt.pendingExit.isSome = true → rt.Over) (ho : ctrl.Exits → rt.Over) (hx : ctrl'.Exits) :
    rt'.Over := by
  cases h with
  | env henv => exact (ho hx).env henv
  | move hm =>
    cases hm with
    | removalShutdownOk hr | removalJoinOk hr => cases hr <;> cases hx
    | _ => cases hx
  | start hl =>
    cases hl with
    | exit hv =>
      rw [spawnedAll_pendingExit] at hv
      have hv : rt.pendingExit = some _ := hv
      have hend := hu (by rw [hv]; rfl)
      cases hend
    | natural => exact (finishedWith_over _ _).dropReceiver
    | wait => cases hx
  | loop hc hl =>
    cases hl with
    | exit hv =>
      have hsome : rt.pendingExit.isSome = true := by rw [← hc.pendingExit, hv]; rfl
      obtain rfl := hc.eq_of_unwinds (hu hsome)
      exact (hp hsome).exit
    | natural => exact (finishedWith_over _ _).dropReceiver
    | wait => cases hx
  | natural => exact (finishedWith_over _ _).dropReceiver
  | shutdownEnd v =>
    cases hx
    exact (ho (.shutdown _)).dropReceiver
  | runEnd v =>
    cases hx
    exact (ho (.run _)).dropReceiver
  | shutdownDrained => exact finishedWith_over rt .shutdown
  | command hh _ _ hc => cases hc <;> cases hx
  | join hh _ hj => cases hj <;> cases hx
  | drainJoin _ _ hn | drainNext _ hn => cases hn <;> cases hx
  | removalSeen hr => cases hr <;> cases hx
  | _ => cases hx

end

/-! ### Runs -/

/-- No error gets to `run`, and what it is about to return was published. -/
structure Config.Closing (c : Config) : Prop where
  breaks : c.ctrl.breaks = false
  exits : c.ctrl.Exits → c.rt.Over
  pending : ∀ v, c.rt.pendingExit = some v → (∃ x, v = .ok x) ∧ c.rt.Over ∧ c.ctrl.unwinds = true

theorem Config.Closing.step {c c' : Config} {a : Act} (h : c.Closing) (hs : c.Sane)
    (hjoin : joinsAllowed c a = true) (hdrain : drainsInTime c = true)
    (hstep : TokioSupervisor.step c a = some c') : c'.Closing := by
  have hr := step_rule hs hstep
  have hpending (hp : c.rt.pendingExit.isSome = true) : c.rt.Over ∧ c.ctrl.unwinds = true := by
    obtain ⟨v, hv⟩ := Option.isSome_iff_exists.1 hp
    exact (h.pending v hv).2
  refine ⟨hr.breaks hjoin hdrain (fun v hv => (h.pending v hv).1) h.breaks,
    hr.exits (fun hp => (hpending hp).2) (fun hp => (hpending hp).1) h.exits, fun v hv => ?_⟩
  rcases step_pendingExit hs hstep with heq | ⟨hnone, -⟩ | ⟨k, result, hc, rfl⟩
  · rw [heq] at hv
    have hsome : c.rt.pendingExit.isSome = true := by rw [hv]; rfl
    obtain ⟨hover, hu⟩ := hpending hsome
    exact ⟨(h.pending v hv).1, hr.unwinds_over hsome hu hover, (hr.unwinds hsome hu).1⟩
  · rw [hnone] at hv
    cases hv
  · cases hv
    cases v with
    | error e =>
      have hb := h.breaks
      rw [hc] at hb
      cases hb
    | ok x =>
      have hover : c.rt.Over := h.exits (by rw [hc]; exact .shutdown x)
      exact ⟨⟨x, rfl⟩, ⟨hover.snapshot, hover.event⟩, rfl⟩

/-- What a run relies on so that it does not return an error. -/
def endsPublished (c : Config) (a : Act) : Bool := joinsAllowed c a && drainsInTime c

/-- If `run` has returned, the last snapshot is stopped and the last event says so. -/
def Config.Terminated (c : Config) : Prop := ∀ v, c.ctrl = .finished v → c.rt.Over

/-- In every run in which the intensity refuses no restart of a child that the main loop has joined, and
no drain times out on the way to the caller, a supervisor that has returned has published its end. -/
theorem run_terminated {config : SupervisorConfig} {env : StartEnv} {as : List Act} {c : Config}
    (h : config.Accepted)
    (hrun : Run step (fun c a => endsPublished c a = true) (Config.start config env) as c) :
    c.Terminated := by
  have hnone : (SupervisorRuntime.new config env).pendingExit = none := (h.fresh env).pendingExit
  have hclosing : c.Closing := by
    refine hrun.invariant_of (I := Config.Closing) (fun _ _ h' => run_sane h h') ⟨rfl, nofun, ?_⟩ ?_
    · intro v hv
      have hv : (SupervisorRuntime.new config env).pendingExit = some v := hv
      rw [hnone] at hv
      cases hv
    · intro c a c' hs hI hok hstep
      have hok := (Bool.and_eq_true _ _).mp hok
      exact hI.step hs hok.1 hok.2 hstep
  intro v hv
  cases v with
  | ok x => exact hclosing.exits (by rw [hv]; exact .finished x)
  | error e =>
    have hb := hclosing.breaks
    rw [hv] at hb
    cases hb

/-! ### An error of the main loop -/

/-- `b` fails and may not be restarted: the run ends with the error, and is shown as running. -/
theorem unpublished_end_reached : strictConfig.Accepted ∧ ∃ c,
    AnyRun step (Config.start strictConfig ⟨false, 0, 0⟩)
      [.run .go, .finish 1 (.returned (.error "failed")), .run (.join 1), .resume, .resume] c ∧
      ¬ c.Terminated := by
  have hex : ∃ c, AnyRun step (Config.start strictConfig ⟨false, 0, 0⟩)
      [.run .go, .finish 1 (.returned (.error "failed")), .run (.join 1), .resume, .resume] c ∧
      (c.ctrl.ended, c.ctrl.breaks, c.rt.snapshots.head?.map (·.state)) = (true, true, some .running) :=
    anyRun_of_exec (by decide +kernel)
  obtain ⟨c, hrun, hc⟩ := hex
  refine ⟨strictConfig_accepted, c, hrun, fun h => ?_⟩
  simp only [Prod.mk.injEq] at hc
  obtain ⟨hended, hbreaks, hstate⟩ := hc
  obtain ⟨rt, ctrl⟩ := c
  cases ctrl with
  | finished v =>
    have hover := (h v rfl).snapshot
    rw [hstate] at hover
    cases hover
  | panicked p => cases hbreaks
  | await p k | ret k v => cases hended

/-- A shutdown during the delay of a restart ends the run in time. -/
theorem run_terminated_delay : ∃ c : Config, c.ctrl = .finished (.ok .shutdown) ∧ c.Terminated := by
  have hex : ∃ c, Run step (fun c a => endsPublished c a = true) (Config.start reuseConfig ⟨false, 0, 0⟩)
      [.run .go, .finish 1 (.returned (.error "failed")), .run (.join 1), .requestShutdown, .run .shutdown,
       .finish 0 (.returned (.ok ())), .finish 2 (.returned (.ok ())), .run .go, .run (.join 0),
       .run (.join 2), .run .joinNone, .resume, .resume, .resume, .resume, .resume, .resume, .resume] c ∧
      c.ctrl.shutDown = true := run_of_execIf_map (by decide +kernel)
  obtain ⟨c, hrun, hc⟩ := hex
  exact ⟨c, Ctrl.shutDown_iff.1 hc, run_terminated reuseConfig_accepted hrun⟩

end TokioSupervisor
