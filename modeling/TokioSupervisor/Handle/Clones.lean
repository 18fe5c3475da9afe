import TokioSupervisor.Runtime.Observed
import TokioSupervisor.Runtime.Slots

/-!
# The clones of a handle

The clones of a spawned supervisor's handle are the only senders of the shutdown watch. When the last
one is dropped the watch closes, and a `select!` of the runtime takes that for a request; the waits
without a delay only read the value. `staysWatched` rules out that a `select!` finds the watch closed.
-/

namespace TokioSupervisor
open Lib SupervisorRuntime

/-- A supervisor started by `spawn`, with the clones of its handle. -/
structure SpawnedSupervisor where
  task : Config
  clones : Nat
  /-- `shutdown` or `shutdown_and_wait` was called on a clone. -/
  shutdownCalled : Bool

/-- The steps that are the handle's to make. -/
def Act.ofHandle : Act → Bool
  | .requestShutdown | .dropShutdownSenders | .dropCommandSenders | .send _ => true
  | _ => false

inductive HandleAct
  | clone
  | drop
  | shutdown
  /-- The command of a control call. -/
  | control (command : SupervisorCommand)
  /-- The last clone drops `command_tx` after `shutdown_tx`. -/
  | dropCommandTx
  /-- The supervisor task, its children and the clock. -/
  | supervisor (a : Act)

namespace SpawnedSupervisor

def spawn (config : SupervisorConfig) (env : StartEnv) : SpawnedSupervisor :=
  ⟨.start config env, 1, false⟩

def after (s : SpawnedSupervisor) (a : Act) : Option SpawnedSupervisor :=
  (TokioSupervisor.step s.task a).map fun task => { s with task }

def step (s : SpawnedSupervisor) : HandleAct → Option SpawnedSupervisor
  | .clone => if s.clones = 0 then none else some { s with clones := s.clones + 1 }
  | .drop =>
    match s.clones with
    | 0 => none
    | 1 => (s.after .dropShutdownSenders).map ({ · with clones := 0 })
    | n + 2 => some { s with clones := n + 1 }
  | .shutdown =>
    if s.clones = 0 then none else (s.after .requestShutdown).map ({ · with shutdownCalled := true })
  | .control command => if s.clones = 0 then none else s.after (.send command)
  | .dropCommandTx => if s.clones = 0 then s.after .dropCommandSenders else none
  | .supervisor a => if a.ofHandle then none else s.after a

end SpawnedSupervisor

/-- A shutdown has begun: the supervisor is in the state `Stopping`, or has sent `SupervisorStopping`. -/
def SupervisorRuntime.Stopping (rt : SupervisorRuntime) : Prop :=
  rt.state = .stopping ∨ ∃ b ∈ rt.trace, b.stopping = true

/-- The supervisor only shuts down when it is told to. -/
def SpawnedSupervisor.Asked (s : SpawnedSupervisor) : Prop :=
  s.task.rt.Stopping → s.shutdownCalled = true

/-- No `select!` finds the watch closed that nobody has used. -/
def staysWatched (s : SpawnedSupervisor) : HandleAct → Bool
  | .supervisor (.run .shutdown) => s.shutdownCalled || s.clones != 0
  | _ => true

/-! ### How a shutdown begins -/

section
variable {rt rt' : SupervisorRuntime} {c c' : Config} {a : Act}

theorem SupervisorRuntime.Stopping.of_grown (hs : rt'.state = .stopping → rt.state = .stopping)
    (ht : Grown (fun b => b.stopping = false) rt.trace rt'.trace) (h : rt'.Stopping) : rt.Stopping := by
  rcases h with h | ⟨b, hb, hst⟩
  · exact .inl (hs h)
  · rcases ht.mem hb with hb | hb
    · exact .inr ⟨b, hb, hst⟩
    · rw [hst] at hb
      cases hb

theorem SupervisorRuntime.Steady.stopping (h : Steady rt rt') (hst : rt'.Stopping) : rt.Stopping :=
  hst.of_grown (fun hs => h.state ▸ hs) h.trace

theorem BeginsShutdown.value {k : Stack .shutdownAll} (hb : BeginsShutdown c.ctrl a k) (ha : a ≠ .run .shutdown)
    (hstep : step c a = some c') : c.rt.shutdownRx.value = true ∨ c'.rt = c.rt := by
  obtain ⟨rt, ctrl⟩ := c
  cases hb with
  | run | removal | delay => exact absurd rfl ha
  | check =>
    obtain ⟨x, hx, rfl⟩ := Option.map_eq_some_iff.1 hstep
    dsimp only [wake] at hx
    split at hx
    · rename_i hv
      exact .inl hv
    · cases hx
      exact .inr rfl
  | yield =>
    obtain ⟨x, hx, rfl⟩ := Option.map_eq_some_iff.1 hstep
    dsimp only [wake] at hx
    split at hx
    · rename_i hv
      exact .inl hv
    · cases hx
      unfold delayZeroLoop
      split <;> exact .inr rfl

/-- A shutdown begins where the watch says so, or where a `select!` finds it closed. -/
theorem step_stopping (hs : c.Sane) (hstep : step c a = some c') (hst : c'.rt.Stopping) :
    c.rt.Stopping ∨ c.rt.shutdownRx.value = true ∨
      a = .run .shutdown ∧ c.rt.shutdownRx.closed = true := by
  cases step_effect hs hstep with
  | steady h => exact .inl (h.stopping hst)
  | drains hc ha hrt =>
    rw [hrt] at hst
    have hcancelled := (swept_steady _).stopping hst
    have hgrown : Grown (fun b => b.stopping = false) c.rt.trace c.rt.cancelRunningChildren.trace :=
      hs.wf.cancelRunningChildren_grown rfl rfl
    refine .inl (hcancelled.of_grown (fun h => ?_) hgrown)
    obtain ⟨C, n, heq, -⟩ := hs.wf.cancelRunningChildren
    rwa [heq] at h
  | begins hb hq hshown =>
    by_cases ha : a = .run .shutdown
    · exact .inr (hq.imp_right fun hclosed => ⟨ha, hclosed⟩)
    · rcases hb.value ha hstep with hv | hrt
      · exact .inr (.inl hv)
      · exact .inl (hrt ▸ hst)
  | @ends rt₁ exit h hrt =>
    have hgrown : Grown (fun b => b.stopping = false) rt₁.trace (rt₁.finishedWith exit).trace :=
      .cons (.refl _ _) rfl
    have hfinished (hst : (rt₁.finishedWith exit).Stopping) : rt₁.Stopping :=
      hst.of_grown (fun h => by cases h) hgrown
    rcases hrt with hrt | hrt <;> rw [hrt] at hst
    · exact .inl (h.stopping (hfinished hst))
    · exact .inl (h.stopping (hfinished ((dropReceiver_steady _).stopping hst)))

end

/-! ### Runs -/

namespace SpawnedSupervisor
variable {s s' : SpawnedSupervisor} {a : HandleAct}

/-- What keeps a shutdown from beginning unasked. -/
structure Watched (s : SpawnedSupervisor) : Prop where
  sane : s.task.Sane
  asked : s.Asked
  value : s.task.rt.shutdownRx.value = true → s.shutdownCalled = true
  closed : s.task.rt.shutdownRx.closed = true → s.clones = 0

theorem after_eq {b : Act} (h : s.after b = some s') :
    ∃ task, TokioSupervisor.step s.task b = some task ∧ s' = { s with task } := by
  obtain ⟨task, hstep, rfl⟩ := Option.map_eq_some_iff.1 h
  exact ⟨task, hstep, rfl⟩

theorem Watched.after {b : Act} (h : s.Watched) (hb : b.asksShutdown = false)
    (hok : b = .run .shutdown → s.shutdownCalled = true ∨ s.clones ≠ 0) (hafter : s.after b = some s') :
    s'.Watched := by
  obtain ⟨task, hstep, rfl⟩ := after_eq hafter
  obtain ⟨hvalue, hclosed⟩ : task.rt.shutdownRx.value = s.task.rt.shutdownRx.value ∧
      task.rt.shutdownRx.closed = s.task.rt.shutdownRx.closed := by
    refine (((step_rule h.sane hstep).updates h.sane.wf).invariant (I := fun rt =>
      rt.shutdownRx.value = s.task.rt.shutdownRx.value ∧
        rt.shutdownRx.closed = s.task.rt.shutdownRx.closed) h.sane.wf ⟨rfl, rfl⟩ ?_).2
    intro rt rt' hwf hI hu
    have hu := hu.shutdownRx hwf hb
    exact ⟨hu.1.trans hI.1, hu.2.trans hI.2⟩
  refine ⟨h.sane.step hstep, fun hst => ?_, fun hv => h.value (hvalue ▸ hv), fun hc => h.closed (hclosed ▸ hc)⟩
  rcases step_stopping h.sane hstep hst with hst | hv | ⟨rfl, hc⟩
  · exact h.asked hst
  · exact h.value hv
  · exact (hok rfl).resolve_right fun hne => hne (h.closed hc)

theorem Watched.step (h : s.Watched) (hok : staysWatched s a = true) (hstep : s.step a = some s') :
    s'.Watched := by
  cases a with
  | clone =>
    simp only [SpawnedSupervisor.step, Option.ite_none_left_eq_some, Option.some.injEq] at hstep
    obtain ⟨hne, rfl⟩ := hstep
    exact ⟨h.sane, h.asked, h.value, fun hc => absurd (h.closed hc) hne⟩
  | drop =>
    simp only [SpawnedSupervisor.step] at hstep
    split at hstep
    · cases hstep
    · obtain ⟨s₁, hafter, rfl⟩ := Option.map_eq_some_iff.1 hstep
      obtain ⟨task, htask, rfl⟩ := after_eq hafter
      have hs := h.sane.step htask
      cases htask
      exact ⟨hs, h.asked, h.value, fun _ => rfl⟩
    · rename_i n hn
      cases hstep
      refine ⟨h.sane, h.asked, h.value, fun hc => ?_⟩
      have := h.closed hc
      omega
  | shutdown =>
    simp only [SpawnedSupervisor.step, Option.ite_none_left_eq_some] at hstep
    obtain ⟨hne, hstep⟩ := hstep
    obtain ⟨s₁, hafter, rfl⟩ := Option.map_eq_some_iff.1 hstep
    obtain ⟨task, htask, rfl⟩ := after_eq hafter
    refine ⟨h.sane.step htask, fun _ => rfl, fun _ => rfl, fun hc => ?_⟩
    obtain ⟨rt, henv, rfl⟩ := Option.map_eq_some_iff.1 htask
    simp only [envStep, Option.ite_none_left_eq_some, Option.some.injEq] at henv
    obtain ⟨hopen, rfl⟩ := henv
    exact absurd hc hopen
  | control command =>
    simp only [SpawnedSupervisor.step, Option.ite_none_left_eq_some] at hstep
    exact h.after rfl (fun hb => by cases hb) hstep.2
  | dropCommandTx =>
    simp only [SpawnedSupervisor.step, Option.ite_none_right_eq_some] at hstep
    exact h.after rfl (fun hb => by cases hb) hstep.2
  | supervisor b =>
    simp only [SpawnedSupervisor.step, Option.ite_none_left_eq_some] at hstep
    refine h.after ?_ (fun hb => ?_) hstep.2
    · cases b with
      | requestShutdown | dropShutdownSenders => exact absurd rfl hstep.1
      | _ => rfl
    · subst hb
      simpa [staysWatched] using hok

end SpawnedSupervisor

theorem spawn_watched {config : SupervisorConfig} (h : config.Accepted) (env : StartEnv) :
    (SpawnedSupervisor.spawn config env).Watched := by
  have hfresh := h.fresh env
  have hvalue : (SpawnedSupervisor.spawn config env).task.rt.shutdownRx = ⟨false, false, false⟩ :=
    hfresh.shutdownRx
  refine ⟨h.sane env, fun hst => ?_, fun hv => ?_, fun hc => ?_⟩
  · rcases hst with hst | ⟨b, hb, -⟩
    · cases hfresh.state.symm.trans hst
    · rw [show (SpawnedSupervisor.spawn config env).task.rt.trace = [] from hfresh.trace] at hb
      cases hb
  · rw [hvalue] at hv
    cases hv
  · rw [hvalue] at hc
    cases hc

/-- In a run that meets the condition the supervisor begins to shut down only after a call of `shutdown`
on some clone of its handle. -/
theorem run_asked {config : SupervisorConfig} {env : StartEnv} {as : List HandleAct} {s : SpawnedSupervisor}
    (h : config.Accepted)
    (hrun : Run SpawnedSupervisor.step (fun s a => staysWatched s a = true) (.spawn config env) as s) :
    s.Asked :=
  (hrun.invariant (spawn_watched h env) fun _ _ _ hI hok hstep => hI.step hok hstep).asked

/-- The last clone is dropped after a call of `shutdown`. -/
theorem run_asked_dropped : ∃ s : SpawnedSupervisor,
    s.clones = 0 ∧ s.task.rt.state = .stopping ∧ s.Asked := by
  have hex : ∃ s, Run SpawnedSupervisor.step (fun s a => staysWatched s a = true)
      (.spawn slotConfig ⟨false, 0, 0⟩) [.supervisor (.run .go), .clone, .drop, .shutdown, .drop,
        .supervisor (.run .shutdown)] s ∧
      (s.clones, s.task.rt.state) = (0, .stopping) := run_of_execIf_map (by decide +kernel)
  obtain ⟨s, hrun, hs⟩ := hex
  exact ⟨s, (Prod.mk.inj hs).1, (Prod.mk.inj hs).2, run_asked slotConfig_accepted hrun⟩

/-- The only handle is dropped, and the main loop shuts the supervisor down. -/
theorem unasked_shutdown_reached : slotConfig.Accepted ∧ ∃ s,
    AnyRun SpawnedSupervisor.step (.spawn slotConfig ⟨false, 0, 0⟩)
      [.supervisor (.run .go), .drop, .supervisor (.run .shutdown)] s ∧ ¬ s.Asked := by
  have hex : ∃ s, AnyRun SpawnedSupervisor.step (.spawn slotConfig ⟨false, 0, 0⟩)
      [.supervisor (.run .go), .drop, .supervisor (.run .shutdown)] s ∧
      (s.task.rt.state, s.shutdownCalled) = (.stopping, false) := anyRun_of_exec (by decide +kernel)
  obtain ⟨s, hrun, hs⟩ := hex
  refine ⟨slotConfig_accepted, s, hrun, fun hasked => ?_⟩
  have hcalled := hasked (.inl (Prod.mk.inj hs).1)
  rw [(Prod.mk.inj hs).2] at hcalled
  cases hcalled

end TokioSupervisor
