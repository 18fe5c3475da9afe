import TokioSupervisor.Runtime.Coverage

/-!
# How a run ends

A run ends with the result of a shutdown, with an error, or through `finish_natural_exit`. A shutdown
never returns another exit than `Shutdown`, so a run that returns `Completed` or `Failed` has ended
naturally: with nothing suspended, no shutdown begun, and no task left (`Rule.finished`).
-/

namespace TokioSupervisor
open Lib SupervisorRuntime

/-! ### What a shutdown leaves behind -/

/-- The result of a run or of a shutdown. -/
def Fn.result : (fn : Fn) → fn.Value → Option (Except SupervisorError SupervisorExit)
  | .run, v | .shutdownAll, v => some v
  | _, _ => none

/-- A run or a shutdown returns this result. -/
def Ctrl.returns : Ctrl → Option (Except SupervisorError SupervisorExit)
  | @Ctrl.ret fn _ v => fn.result v
  | _ => none

/-- The frames that wait for `shutdown_all`. -/
def Frame.shutsDown {callee caller : Fn} : Frame callee caller → Bool
  | .runShutdown | .queueShutdown => true
  | _ => false

def Stack.shutsDown : {fn : Fn} → Stack fn → Bool
  | _, .nil => false
  | _, .push f k => f.shutsDown || k.shutsDown

/-- `shutdown_all` has not returned to its caller. -/
def Ctrl.shutsDown : Ctrl → Bool
  | .await _ k | .ret k _ => k.shutsDown
  | _ => false

section

@[simp] theorem Stack.shutsDown_nil : Stack.nil.shutsDown = false := rfl

@[simp] theorem Stack.shutsDown_push {callee caller : Fn} {f : Frame callee caller}
    {k : Stack caller} : (Stack.push f k).shutsDown = (f.shutsDown || k.shutsDown) := rfl

@[simp] theorem Ctrl.shutsDown_await {fn : Fn} {p : Await fn} {k : Stack fn} :
    (Ctrl.await p k).shutsDown = k.shutsDown := rfl

@[simp] theorem Ctrl.shutsDown_ret {fn : Fn} {k : Stack fn} {v : fn.Value} :
    (Ctrl.ret k v).shutsDown = k.shutsDown := rfl

@[simp] theorem Ctrl.shutsDown_finished {r : Except SupervisorError SupervisorExit} :
    (Ctrl.finished r).shutsDown = false := rfl

@[simp] theorem Ctrl.shutsDown_panicked {p : Panic} : (Ctrl.panicked p).shutsDown = false := rfl

theorem Stack.shutsDown_run (k : Stack .run) : k.shutsDown = false := by
  cases k with
  | nil => rfl
  | push f k => cases f

theorem BeginsShutdown.shutsDown {ctrl : Ctrl} {a : Act} {k : Stack .shutdownAll}
    (h : BeginsShutdown ctrl a k) : k.shutsDown = true := by
  cases h <;> simp [Frame.shutsDown]

theorem RemovalHead.shutsDown {rt : SupervisorRuntime} {l : Removal} {k : Stack .awaitChildRemoval}
    {ctrl : Ctrl} (h : RemovalHead rt l k ctrl) : ctrl.shutsDown = k.shutsDown := by
  cases h <;> rfl

theorem DrainNext.shutsDown {rt rt' : SupervisorRuntime} {reason : DrainReason}
    {k : Stack (.drainChildren reason)} {ctrl : Ctrl} (h : DrainNext rt reason k rt' ctrl) :
    ctrl.shutsDown = k.shutsDown := by
  cases h <;> rfl

theorem Move.shutsDown {rt : SupervisorRuntime} {ctrl ctrl' : Ctrl} {a : Act} (h : Move rt ctrl a ctrl')
    (hs : ctrl.shutsDown = true) : ctrl'.shutsDown = true := by
  cases h with
  | removalShutdownOk hr => rw [hr.shutsDown]; simpa [Frame.shutsDown] using hs
  | removalJoinOk hr => rw [hr.shutsDown]; simpa [Frame.shutsDown] using hs
  | _ => simp_all [Frame.shutsDown]

/-- `shutdown_all` goes on until the run is over or its result is pending. -/
theorem Rule.shutsDown {rt rt' : SupervisorRuntime} {ctrl ctrl' : Ctrl} {a : Act}
    (h : Rule rt ctrl a rt' ctrl') (hs : ctrl.shutsDown = true) :
    ctrl'.shutsDown = true ∨ ctrl'.ended = true ∨ rt'.pendingExit.isSome = true := by
  cases h with
  | env _ => exact .inl hs
  | move h => exact .inl (h.shutsDown hs)
  | start hl => rw [Ctrl.shutsDown_await, Stack.shutsDown_run] at hs; cases hs
  | loop hc hl => cases hc <;> simp [Stack.shutsDown_run, Frame.shutsDown] at hs
  | overflow | vacantOne | vacantAll | natural | joinError | shutdownEnd | runEnd => exact .inr (.inl rfl)
  | queued v => exact .inr (.inr rfl)
  | shutdown hb _ _ => exact .inl (by simp [hb.shutsDown])
  | command hh _ _ ho => cases hh <;> cases ho <;> simp_all [Frame.shutsDown]
  | join hh _ ho => cases hh <;> cases ho <;> simp_all [Frame.shutsDown]
  | drainJoin _ _ hn => exact .inl (by simpa [hn.shutsDown] using hs)
  | drainNext hd hn =>
    refine .inl ?_
    rw [hn.shutsDown]
    cases hd <;> simpa [Frame.shutsDown] using hs
  | removalSeen hr => exact .inl (by simpa [hr.shutsDown] using hs)
  | _ => simp_all [Frame.shutsDown]

/-- Only a shutdown returns a result to its caller, and it is not another exit. -/
theorem Move.returns {rt : SupervisorRuntime} {ctrl ctrl' : Ctrl} {a : Act} {x : SupervisorExit}
    (h : Move rt ctrl a ctrl') (hx : ctrl'.returns = some (.ok x)) : False := by
  cases h with
  | removalShutdownOk hr | removalJoinOk hr => cases hr <;> cases hx
  | _ => cases hx

theorem Rule.returns {rt rt' : SupervisorRuntime} {ctrl ctrl' : Ctrl} {a : Act} {x : SupervisorExit}
    (h : Rule rt ctrl a rt' ctrl') (hx : ctrl'.returns = some (.ok x)) :
    ctrl.returns = some (.ok x) ∨ x = .shutdown := by
  cases h with
  | env _ => exact .inl hx
  | move h => exact (h.returns hx).elim
  | start hl | loop _ hl => rcases hl.ctrl with ⟨_, rfl⟩ | rfl <;> cases hx
  | shutdownDrained => cases hx; exact .inr rfl
  | command _ _ _ ho => cases ho <;> cases hx
  | join _ _ ho => cases ho <;> cases hx
  | drainJoin _ _ hn | drainNext _ hn => cases hn <;> cases hx
  | removalSeen hr => cases hr <;> cases hx
  | _ => cases hx

end

theorem Rule.atSelect {rt rt' : SupervisorRuntime} {ctrl ctrl' : Ctrl} {a : Act}
    (h : Rule rt ctrl a rt' ctrl') (hc : ctrl'.atSelect = true) :
    ctrl.atSelect = true ∧ rt'.pendingExit = rt.pendingExit ∨ rt'.pendingExit = none := by
  cases h with
  | env h => exact .inl ⟨hc, (envStep_frame h).pendingExit⟩
  | move h =>
    cases h with
    | removalShutdownOk hr | removalJoinOk hr => cases hr <;> cases hc
    | _ => cases hc
  | start hl | loop _ hl =>
    cases hl with
    | wait hp => exact .inr hp
    | _ => cases hc
  | command _ _ _ ho => cases ho <;> cases hc
  | join _ _ ho => cases ho <;> cases hc
  | drainJoin _ _ hn | drainNext _ hn => cases hn <;> cases hc
  | removalSeen hr => cases hr <;> cases hc
  | _ => cases hc

/-- What a shutdown leaves behind, wherever it has got to. -/
structure Config.Ending (c : Config) : Prop where
  returns : ∀ x, c.ctrl.returns = some (.ok x) → x = .shutdown
  pending : ∀ x, c.rt.pendingExit = some (.ok x) → x = .shutdown
  begun : c.rt.state ≠ .running →
    c.ctrl.ended = true ∨ c.rt.pendingExit.isSome = true ∨ c.ctrl.shutsDown = true
  select : c.ctrl.atSelect = true → c.rt.pendingExit = none

theorem Config.Ending.step {c c' : Config} {a : Act} (h : c.Ending) (hs : c.Sane) (hh : c.Halting)
    (hstep : TokioSupervisor.step c a = some c') : c'.Ending := by
  have hr := step_rule hs hstep
  have hu := hr.updates hs.wf
  have hpend := hu.invariant (I := fun rt => rt.pendingExit = c.rt.pendingExit ∨
      (∃ k v, c.ctrl = .ret (.push .queueShutdown k) v ∧ rt.pendingExit = some v) ∨
      rt.pendingExit = none ∧ c'.ctrl.ended = true) hs.wf (.inl rfl) fun rt rt' hwf hI hup => by
    rcases hup.pendingExit hwf with heq | hnew
    · rwa [heq]
    · exact .inr hnew
  have hstate := hu.invariant (I := fun rt => rt.state = c.rt.state ∨ HaltCause c a c') hs.wf (.inl rfl)
    fun rt rt' hwf hI hup => by
      rcases hup.halts hwf with heq | hc
      · exact hI.imp_left heq.trans
      · exact .inr hc
  refine ⟨fun x hx => ?_, fun x hx => ?_, fun hrun => ?_, fun hc => ?_⟩
  · rcases hr.returns hx with hx | hx
    · exact h.returns x hx
    · exact hx
  · rcases hpend.2 with heq | ⟨k, v, hc, heq⟩ | ⟨hnone, -⟩
    · exact h.pending x (heq ▸ hx)
    · rw [heq] at hx
      cases hx
      exact h.returns x (by rw [hc]; rfl)
    · rw [hnone] at hx; cases hx
  · by_cases hrun₀ : c.rt.state = .running
    · rcases hstate.2 with heq | hc
      · exact absurd (heq.trans hrun₀) hrun
      · cases hc with
        | ended hc => exact .inl hc
        | begins hb _ hc => exact .inr (.inr (by rw [hc]; simp [hb.shutsDown]))
        | drained hc => exact absurd hrun₀ (hh.frames (by rw [hc]; exact .inl (.inl rfl)))
    · rcases h.begun hrun₀ with hend | hp | hs'
      · exact .inl (by rw [(ended_step hend hstep).1]; exact hend)
      · rcases hpend.2 with heq | ⟨_, _, -, heq⟩ | ⟨-, hend⟩
        · exact .inr (.inl (by rw [heq]; exact hp))
        · exact .inr (.inl (by rw [heq]; rfl))
        · exact .inl hend
      · rcases hr.shutsDown hs' with h | h | h
        · exact .inr (.inr h)
        · exact .inl h
        · exact .inr (.inl h)
  · rcases hr.atSelect hc with ⟨hc, heq⟩ | hnone
    · exact heq.trans (h.select hc)
    · exact hnone

theorem run_ending {config : SupervisorConfig} {env : StartEnv} {ok : Config → Act → Prop}
    {as : List Act} {c : Config} (h : config.Accepted)
    (hrun : Run step ok (Config.start config env) as c) : c.Ending := by
  have hfresh := h.fresh env
  refine hrun.invariant_of (I := Config.Ending) (J := fun c => c.Sane ∧ c.Halting)
    (fun _ _ h' => ⟨run_sane h h', run_halting h h'⟩)
    ⟨nofun, ?_, fun hs => absurd hfresh.state hs, nofun⟩
    fun c a c' hJ hI _ hstep => hI.step hJ.1 hJ.2 hstep
  simp [Config.start, hfresh.pendingExit]

/-! ### Natural exits -/

/-- The step ends the run through `finish_natural_exit`. -/
structure NaturalEnd (c : Config) (a : Act) (c' : Config) (x : SupervisorExit) : Prop where
  exit : x = c'.rt.naturalExit
  finished : c'.rt.liveTasks = 0 ∨ c'.rt.joinSet.isEmpty = true
  act : ∀ id, a ≠ .run (.join id)
  state : c.rt.state = .running
  erring : c.ctrl.erring = none
  ended : c.ctrl.ended = false
  covers : ∀ key e, c.ctrl.covers key e = false

theorem AtLoop.pendingExit {rt rt₁ : SupervisorRuntime} {ctrl : Ctrl} {a : Act}
    (h : AtLoop rt ctrl a rt₁) : rt₁.pendingExit = rt.pendingExit := by
  cases h <;> rfl

theorem spawnedAll_pendingExit (rt : SupervisorRuntime) (keys : List ChildKey) :
    (rt.spawnedAll keys).pendingExit = rt.pendingExit := by
  induction keys generalizing rt with
  | nil => rfl
  | cons key rest ih =>
    rw [spawnedAll]
    cases rt.children.get key with
    | none => exact ih rt
    | some e => exact ih (rt.spawned key e)

theorem AtLoop.idle {rt rt₁ : SupervisorRuntime} {ctrl : Ctrl} {a : Act} (h : AtLoop rt ctrl a rt₁) :
    (∀ id, a ≠ .run (.join id)) ∧ ctrl.erring = none ∧ ctrl.ended = false ∧ ctrl.shutsDown = false ∧
      ∀ key e, ctrl.covers key e = false := by
  cases h <;>
    refine ⟨nofun, rfl, rfl, by simp [Frame.shutsDown, Stack.shutsDown_run], fun key e => ?_⟩ <;>
    simp [Frame.cover, Await.cover, Fn.goesOn, Stack.covers_run]

/-- A run that ends with another exit than that of a shutdown ends naturally. -/
theorem Rule.finished {c : Config} {a : Act} {rt' : SupervisorRuntime} {x : SupervisorExit}
    (h : Rule c.rt c.ctrl a rt' (.finished (.ok x))) (hs : c.Ending) (hx : x ≠ .shutdown) :
    c.ctrl = .finished (.ok x) ∧ rt'.children = c.rt.children ∨
      NaturalEnd c a ⟨rt', .finished (.ok x)⟩ x := by
  obtain ⟨rt, ctrl⟩ := c
  have hrunning (hp : rt.pendingExit = none) (hend : ctrl.ended = false) (hk : ctrl.shutsDown = false) :
      rt.state = .running := by
    by_contra hrun
    rcases hs.begun hrun with h | h | h
    · cases hend.symm.trans h
    · have hp' : rt.pendingExit = none := hp
      simp [hp'] at h
    · cases hk.symm.trans h
  generalize hctrl : Ctrl.finished (.ok x) = ctrl' at h
  cases h with
  | env h => subst hctrl; exact .inl ⟨rfl, (envStep_frame h).children⟩
  | move h =>
    cases h with
    | removalShutdownOk hr | removalJoinOk hr => cases hr <;> cases hctrl
    | _ => cases hctrl
  | start hl =>
    have hpend := spawnedAll_pendingExit (rt.emitted none .supervisorStarted) rt.childOrder
    cases hl with
    | exit hp => cases hctrl; exact absurd (hs.pending x (hpend.symm.trans hp)) hx
    | natural hp hl _ =>
      cases hctrl
      have hstate := hrunning (hpend.symm.trans hp) rfl (by simp [Stack.shutsDown_run])
      refine .inr ⟨rfl, .inl hl, (fun t ha => by cases ha), hstate, rfl, rfl, fun key e => ?_⟩
      simp [Await.cover, Stack.covers_run]
    | wait => cases hctrl
  | loop hc hl =>
    obtain ⟨hact, herr, hend, hk, hcov⟩ := hc.idle
    cases hl with
    | exit hp => cases hctrl; exact absurd (hs.pending x (hc.pendingExit.symm.trans hp)) hx
    | natural hp hl _ =>
      cases hctrl
      exact .inr ⟨rfl, .inl hl, hact, hrunning (hc.pendingExit.symm.trans hp) hend hk, herr, hend, hcov⟩
    | wait => cases hctrl
  | natural hj =>
    cases hctrl
    have hstate := hrunning (hs.select rfl) rfl (by simp [Stack.shutsDown_run])
    refine .inr ⟨rfl, .inr hj, (fun t ha => by cases ha), hstate, rfl, rfl, fun key e => ?_⟩
    simp [Await.cover, Stack.covers_run]
  | shutdownEnd v => cases hctrl; exact absurd (hs.returns x rfl) hx
  | runEnd v => cases hctrl; exact absurd (hs.returns x rfl) hx
  | command _ _ _ ho => cases ho <;> cases hctrl
  | join _ _ ho => cases ho <;> cases hctrl
  | drainJoin _ _ hn | drainNext _ hn => cases hn <;> cases hctrl
  | removalSeen hr => cases hr <;> cases hctrl
  | _ => cases hctrl

end TokioSupervisor
