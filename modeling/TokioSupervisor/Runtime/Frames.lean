import TokioSupervisor.Runtime.Start

/-!
# What the stack of suspended calls can look like

Invariants of control: a strategy only suspends its own restart handler (`Suits`), and a shutdown in
progress shows in the state (`Halting`). They hold of every reachable configuration, with no side
condition.
-/

namespace TokioSupervisor
open Lib SupervisorRuntime

/-! ### Strategies -/

/-- The strategy whose restart handler suspends with this frame. -/
def Frame.strategy {callee caller : Fn} : Frame callee caller → Option Strategy
  | .joinedOneForOne | .oneForOneDelay .. => some .oneForOne
  | .joinedOneForAll | .oneForAllDelay _ | .oneForAllDrain | .groupDrain => some .oneForAll
  | _ => none

/-- Only the handler of the strategy `s` is suspended on the stack. -/
def Stack.Suits (s : Strategy) : {fn : Fn} → Stack fn → Prop
  | _, .nil => True
  | _, .push f k => (∀ s', f.strategy = some s' → s' = s) ∧ k.Suits s

def Ctrl.Suits (s : Strategy) : Ctrl → Prop
  | .await _ k | .ret k _ => k.Suits s
  | _ => True

section
variable {s : Strategy}

@[simp] theorem Stack.suits_nil : Stack.nil.Suits s := trivial

@[simp] theorem Stack.suits_push {callee caller : Fn} {f : Frame callee caller} {k : Stack caller} :
    (Stack.push f k).Suits s ↔ (∀ s', f.strategy = some s' → s' = s) ∧ k.Suits s :=
  Iff.rfl

@[simp] theorem Ctrl.suits_await {fn : Fn} {p : Await fn} {k : Stack fn} :
    (Ctrl.await p k).Suits s ↔ k.Suits s := Iff.rfl

@[simp] theorem Ctrl.suits_ret {fn : Fn} {k : Stack fn} {v : fn.Value} :
    (Ctrl.ret k v).Suits s ↔ k.Suits s := Iff.rfl

@[simp] theorem Ctrl.suits_finished {r : Except SupervisorError SupervisorExit} :
    (Ctrl.finished r).Suits s := trivial

@[simp] theorem Ctrl.suits_panicked {p : Panic} : (Ctrl.panicked p).Suits s := trivial

theorem RemovalHead.suits {rt : SupervisorRuntime} {l : Removal} {k : Stack .awaitChildRemoval}
    {ctrl : Ctrl} (h : RemovalHead rt l k ctrl) (hs : k.Suits s) : ctrl.Suits s := by
  cases h <;> exact hs

theorem LoopHead.suits {rt rt' : SupervisorRuntime} {ctrl : Ctrl} (h : LoopHead rt rt' ctrl) :
    ctrl.Suits s := by
  cases h <;> trivial

theorem DrainNext.suits {rt rt' : SupervisorRuntime} {reason : DrainReason}
    {k : Stack (.drainChildren reason)} {ctrl : Ctrl} (h : DrainNext rt reason k rt' ctrl)
    (hs : k.Suits s) : ctrl.Suits s := by
  cases h <;> exact hs

theorem Move.suits {rt : SupervisorRuntime} {ctrl ctrl' : Ctrl} {a : Act} (h : Move rt ctrl a ctrl')
    (hs : ctrl.Suits s) : ctrl'.Suits s := by
  cases h with
  | removalShutdownOk hr => exact hr.suits hs.2
  | removalJoinOk hr => exact hr.suits hs.2
  | _ => simp_all [Frame.strategy]

end

theorem Rule.suits {rt rt' : SupervisorRuntime} {ctrl ctrl' : Ctrl} {a : Act}
    (h : Rule rt ctrl a rt' ctrl') (hs : ctrl.Suits rt.info.strategy) :
    ctrl'.Suits rt.info.strategy := by
  cases h with
  | env _ => exact hs
  | move h => exact h.suits hs
  | start hl => exact hl.suits
  | loop _ hl => exact hl.suits
  | shutdown hb _ _ => cases hb <;> simp_all [Frame.strategy]
  | command hh _ _ ho => cases hh <;> cases ho <;> simp_all [Frame.strategy]
  | join hh _ ho => cases hh <;> cases ho <;> simp_all [Frame.strategy]
  | drainJoin _ _ hn => exact hn.suits hs
  | drainNext hd hn => cases hd <;> simp_all [hn.suits]
  | removalSeen hr => exact hr.suits hs
  | _ => simp_all [Frame.strategy]

theorem run_suits {config : SupervisorConfig} {env : StartEnv} {ok : Config → Act → Prop}
    {as : List Act} {c : Config} (h : config.Accepted)
    (hrun : Run step ok (Config.start config env) as c) : c.ctrl.Suits config.strategy := by
  refine hrun.invariant_of (I := fun c => c.ctrl.Suits config.strategy)
    (J := fun c => c.Sane ∧ c.rt.info.strategy = config.strategy)
    (fun _ _ h' => ⟨run_sane h h', by rw [run_info h h']⟩) (by simp [Config.start]) ?_
  rintro c a c' ⟨hs, hinfo⟩ hI - hstep
  rw [← hinfo] at hI ⊢
  exact (step_rule hs hstep).suits hI

/-! ### Shutdowns -/

/-- The frames of a shutdown that has begun. -/
def Frame.halts {callee caller : Fn} : Frame callee caller → Bool
  | .runShutdown | .removalShutdown _ | .controlShutdown | .queueShutdown | .shutdownDrain
  | .delayShutdown => true
  | _ => false

def Stack.Halts : {fn : Fn} → Stack fn → Prop
  | _, .nil => False
  | _, .push f k => f.halts = true ∨ k.Halts

/-- `wait_for_restart_delay` says not to restart. -/
def Fn.givesUp : (fn : Fn) → fn.Value → Bool
  | .waitForRestartDelay, .ok false => true
  | _, _ => false

/-- Control shows that a shutdown has begun. -/
def Ctrl.Halts : Ctrl → Prop
  | .await _ k => k.Halts
  | @Ctrl.ret fn k v => k.Halts ∨ fn.givesUp v = true
  | _ => False

/-- A shutdown that has begun shows in the state. -/
structure Config.Halting (c : Config) : Prop where
  frames : c.ctrl.Halts → c.rt.state ≠ .running
  pending : c.rt.pendingExit.isSome = true → c.rt.state ≠ .running

@[simp] theorem Stack.halts_nil : ¬ Stack.nil.Halts := id

@[simp] theorem Stack.halts_push {callee caller : Fn} {f : Frame callee caller} {k : Stack caller} :
    (Stack.push f k).Halts ↔ f.halts = true ∨ k.Halts :=
  Iff.rfl

@[simp] theorem Ctrl.halts_await {fn : Fn} {p : Await fn} {k : Stack fn} :
    (Ctrl.await p k).Halts ↔ k.Halts := Iff.rfl

@[simp] theorem Ctrl.halts_ret {fn : Fn} {k : Stack fn} {v : fn.Value} :
    (Ctrl.ret k v).Halts ↔ k.Halts ∨ fn.givesUp v = true := Iff.rfl

@[simp] theorem Ctrl.halts_finished {r : Except SupervisorError SupervisorExit} :
    ¬ (Ctrl.finished r).Halts := id

@[simp] theorem Ctrl.halts_panicked {p : Panic} : ¬ (Ctrl.panicked p).Halts := id

theorem RemovalHead.halts {rt : SupervisorRuntime} {l : Removal} {k : Stack .awaitChildRemoval}
    {ctrl : Ctrl} (h : RemovalHead rt l k ctrl) (hh : ctrl.Halts) : k.Halts := by
  cases h <;> simpa [Fn.givesUp] using hh

theorem LoopHead.halts {rt rt' : SupervisorRuntime} {ctrl : Ctrl} (h : LoopHead rt rt' ctrl) :
    ¬ ctrl.Halts := by
  cases h <;> simp

theorem DrainNext.halts {rt rt' : SupervisorRuntime} {reason : DrainReason}
    {k : Stack (.drainChildren reason)} {ctrl : Ctrl} (h : DrainNext rt reason k rt' ctrl)
    (hh : ctrl.Halts) : k.Halts := by
  cases h <;> simpa [Fn.givesUp] using hh

theorem Move.halts {rt : SupervisorRuntime} {ctrl ctrl' : Ctrl} {a : Act} (h : Move rt ctrl a ctrl')
    (hh : ctrl'.Halts) : ctrl.Halts ∨ rt.pendingExit.isSome = true := by
  cases h with
  | removalShutdownOk hr => exact .inl (.inl (.inl rfl))
  | removalJoinOk hr => exact .inl (.inl (.inr (hr.halts hh)))
  | _ => simp_all [Frame.halts, Fn.givesUp]

theorem Rule.halts {rt rt' : SupervisorRuntime} {ctrl ctrl' : Ctrl} {a : Act}
    (h : Rule rt ctrl a rt' ctrl') (hwf : rt.Wf) (hh : ctrl'.Halts) :
    ctrl.Halts ∨ rt.pendingExit.isSome = true ∨ rt'.state ≠ .running := by
  cases h with
  | env _ => exact .inl hh
  | move h => exact (h.halts hh).imp_right .inl
  | start hl => exact absurd hh hl.halts
  | loop _ hl => exact absurd hh hl.halts
  | shutdown hb hrt hq =>
    refine .inr (.inr ?_)
    rcases hrt with rfl | rfl
    · rw [hwf.halted_state]; exact nofun
    · rw [(show rt.seen.Wf from hwf).halted_state]; exact nofun
  | command hk _ _ ho => cases hk <;> cases ho <;> simp_all [Frame.halts, Fn.givesUp]
  | join hk _ ho => cases hk <;> cases ho <;> simp_all [Frame.halts, Fn.givesUp]
  | drainJoin _ _ hn => exact .inl (hn.halts hh)
  | drainNext hd hn => cases hd <;> simp_all [hn.halts]
  | removalSeen hr => exact .inl (hr.halts hh)
  | _ => simp_all [Frame.halts, Fn.givesUp]

theorem requested_pendingExit (rt : SupervisorRuntime) (reply : Nat) (key : ChildKey) (e : ChildEntry) :
    (rt.requested reply key e).pendingExit = rt.pendingExit := rfl

theorem finalized_pendingExit (rt : SupervisorRuntime) (key : ChildKey) (e : ChildEntry) :
    (rt.finalized key e).pendingExit = rt.pendingExit := rfl

theorem exited_pendingExit (rt : SupervisorRuntime) (t : Task) (e : ChildEntry) (outcome : TaskOutcome) :
    (rt.exited t e outcome).pendingExit = rt.pendingExit := rfl

theorem Update.pendingExit {c c' : Config} {a : Act} {rt rt' : SupervisorRuntime}
    (h : Update c a c' rt rt') (hwf : rt.Wf) : rt'.pendingExit = rt.pendingExit ∨
      (∃ k v, c.ctrl = .ret (.push .queueShutdown k) v ∧ rt'.pendingExit = some v) ∨
      rt'.pendingExit = none ∧ c'.ctrl.ended = true := by
  cases h with
  | pending p hp => exact .inr hp
  | @removed key e reply =>
    have hfinalized := finalized_pendingExit (rt.requested reply key e) key e.requested
    exact .inl (hfinalized.trans (requested_pendingExit rt reply key e))
  | @exited t e outcome => exact .inl (exited_pendingExit rt t e outcome)
  | cancelled _ _ => unfold SupervisorRuntime.cancelledChild; split <;> exact .inl rfl
  | aborted _ _ => unfold SupervisorRuntime.abortedChild; split <;> exact .inl rfl
  | cancelledAll _ =>
    obtain ⟨C, n, heq, -⟩ := hwf.cancelRunningChildren
    rw [heq]
    exact .inl rfl
  | _ => exact .inl rfl

theorem Update.halts {c c' : Config} {a : Act} {rt rt' : SupervisorRuntime}
    (h : Update c a c' rt rt') (hwf : rt.Wf) : rt'.state = rt.state ∨ HaltCause c a c' := by
  cases h with
  | halt _ _ _ hc => exact .inr hc
  | cancelled _ _ => unfold SupervisorRuntime.cancelledChild; split <;> exact .inl rfl
  | aborted _ _ => unfold SupervisorRuntime.abortedChild; split <;> exact .inl rfl
  | cancelledAll _ =>
    obtain ⟨C, n, heq, -⟩ := hwf.cancelRunningChildren
    rw [heq]
    exact .inl rfl
  | _ => exact .inl rfl

theorem run_halting {config : SupervisorConfig} {env : StartEnv} {ok : Config → Act → Prop}
    {as : List Act} {c : Config} (h : config.Accepted)
    (hrun : Run step ok (Config.start config env) as c) : c.Halting := by
  refine hrun.invariant_of (I := Config.Halting) (fun _ _ h' => run_sane h h')
    ⟨by simp [Config.start], by simp [Config.start, (h.fresh env).pendingExit]⟩ ?_
  intro c a c' hs hI _ hstep
  have hr := step_rule hs hstep
  refine ⟨fun hh => ?_, ?_⟩
  · rcases hr.halts hs.wf hh with hc | hp | hs'
    · exact hr.state hs.wf (hI.frames hc)
    · exact hr.state hs.wf (hI.pending hp)
    · exact hs'
  · refine ((hr.updates hs.wf).invariant (I := fun rt => (c.rt.state ≠ .running → rt.state ≠ .running) ∧
      (rt.pendingExit.isSome = true → rt.state ≠ .running)) hs.wf ⟨id, hI.pending⟩ ?_).2.2
    rintro rt rt' hwf ⟨h₁, h₂⟩ hu
    refine ⟨fun hc => hu.state hwf (h₁ hc), fun hp => ?_⟩
    rcases hu.pendingExit hwf with heq | ⟨k, v, hc, -⟩ | ⟨hnone, -⟩
    · exact hu.state hwf (h₂ (heq ▸ hp))
    · exact hu.state hwf (h₁ (hI.frames (by rw [hc]; exact .inl (.inl rfl))))
    · rw [hnone] at hp; cases hp

end TokioSupervisor
