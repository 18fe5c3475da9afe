import TokioSupervisor.Runtime.Frames
import TokioSupervisor.Runtime.Traces
import TokioSupervisor.Runtime.Counters

/-!
# Errors of the join handler

An error of `handle_joined_child` ends the run when the main loop called it: nothing on the way up
handles the error, and nothing is spawned. `handle_join_during_control` turns the error into the reply
of a removal instead, and the run goes on (`swallowed_error_reached`); `errorsSurface` says that this
does not happen.
-/

namespace TokioSupervisor
open Lib SupervisorRuntime

def Frame.inControl {callee caller : Fn} : Frame callee caller → Bool
  | .controlJoin => true
  | _ => false

/-- The stack holds a call of `handle_join_during_control`. -/
def Stack.inControl : {fn : Fn} → Stack fn → Bool
  | _, .nil => false
  | _, .push f k => f.inControl || k.inControl

def Ctrl.inControl : Ctrl → Bool
  | .await _ k | .ret k _ => k.inControl
  | _ => false

/-- No error is on its way up to `handle_join_during_control`. -/
def errorsSurface (c : Config) : Bool := c.ctrl.erring.isNone || !c.ctrl.inControl

def Stack.depth : {fn : Fn} → Stack fn → Nat
  | _, .nil => 0
  | _, .push _ k => k.depth + 1

def Ctrl.depth : Ctrl → Nat
  | .await _ k | .ret k _ => k.depth
  | _ => 0

theorem erring_resume {c : Config} {e : SupervisorError} (he : c.ctrl.erring = some e)
    (hin : c.ctrl.inControl = false) : ∃ c', step c .resume = some c' ∧
      (c' = ⟨c.rt.dropReceiver, .finished (.error e)⟩ ∨
        c'.rt = c.rt ∧ c'.ctrl.erring = some e ∧ c'.ctrl.inControl = false ∧
          c'.ctrl.depth < c.ctrl.depth) := by
  obtain ⟨rt, ctrl⟩ := c
  cases ctrl with
  | ret k v =>
    cases k with
    | nil => simp [Ctrl.erring, Fn.error] at he
    | push f k =>
      cases f with
      | runJoin =>
        cases v with
        | ok u => cases he
        | error e' => cases he; exact ⟨_, rfl, .inl rfl⟩
      | controlJoin => simp [Ctrl.inControl, Stack.inControl, Frame.inControl] at hin
      | joinedOneForOne =>
        cases v with
        | ok u => cases he
        | error e' => cases he; exact ⟨_, rfl, .inr ⟨rfl, rfl, hin, Nat.lt_succ_self _⟩⟩
      | joinedOneForAll =>
        cases v with
        | ok u => cases he
        | error e' => cases he; exact ⟨_, rfl, .inr ⟨rfl, rfl, hin, Nat.lt_succ_self _⟩⟩
      | oneForAllDrain =>
        cases v with
        | ok u => cases he
        | error e' => cases he; exact ⟨_, rfl, .inr ⟨rfl, rfl, hin, Nat.lt_succ_self _⟩⟩
      | groupDrain =>
        cases v with
        | ok u => cases he
        | error e' => cases he; exact ⟨_, rfl, .inr ⟨rfl, rfl, hin, Nat.lt_succ_self _⟩⟩
      | _ => simp [Ctrl.erring, Fn.error] at he
  | _ => simp [Ctrl.erring] at he

theorem step_cases {c c' : Config} {a : Act} (hs : step c a = some c') :
    (∃ w, a = .run w) ∨ a = .resume ∨ c'.ctrl = c.ctrl ∧ envStep c.rt a = some c'.rt := by
  cases a with
  | run w => exact .inl ⟨w, rfl⟩
  | resume => exact .inr (.inl rfl)
  | _ =>
    simp only [step, Option.map_eq_some_iff] at hs
    obtain ⟨rt', hrt, rfl⟩ := hs
    exact .inr (.inr ⟨rfl, hrt⟩)

/-- Only the environment and `resume` step while an error is on its way up. -/
theorem erring_step {c c' : Config} {a : Act} {e : SupervisorError} (he : c.ctrl.erring = some e)
    (hs : step c a = some c') :
    a = .resume ∨ c'.ctrl = c.ctrl ∧ envStep c.rt a = some c'.rt := by
  rcases step_cases hs with ⟨w, rfl⟩ | ha
  · obtain ⟨rt, ctrl⟩ := c
    cases ctrl with
    | ret k v => cases hs
    | _ => cases he
  · exact ha

theorem ended_step {c c' : Config} {a : Act} (hc : c.ctrl.ended = true) (hs : step c a = some c') :
    c'.ctrl = c.ctrl ∧ envStep c.rt a = some c'.rt := by
  obtain ⟨rt, ctrl⟩ := c
  rcases step_cases hs with ⟨w, rfl⟩ | rfl | ha
  · cases ctrl with
    | finished r | panicked p => cases hs
    | _ => cases hc
  · cases ctrl with
    | finished r | panicked p => cases hs
    | _ => cases hc
  · exact ha

theorem ended_of_step {c c' : Config} {a : Act} (hs : step c a = some c') (hc : c'.ctrl.ended = false) :
    c.ctrl.ended = false := by
  rw [← Bool.not_eq_true]
  intro hend
  rw [(ended_step hend hs).1, hend] at hc
  cases hc

theorem EnvFrame.spawnedKeys {rt rt' : SupervisorRuntime} (h : EnvFrame rt rt') :
    spawnedKeys rt'.trace = spawnedKeys rt.trace := by
  rcases h.trace with ht | ⟨reply, ht⟩
  · rw [ht]
  · rw [ht]; simp [TokioSupervisor.spawnedKeys, List.filterMap_cons, Action.spawnedKey]

theorem spawnedKeys_dropReceiver (rt : SupervisorRuntime) :
    spawnedKeys rt.dropReceiver.trace = spawnedKeys rt.trace := by
  have hnone : ∀ l : List SupervisorCommand,
      (l.map fun cmd => Action.unavailable cmd.reply).filterMap Action.spawnedKey = [] := by
    intro l
    rw [List.filterMap_eq_nil_iff]
    intro b hb
    obtain ⟨cmd, -, rfl⟩ := List.mem_map.1 hb
    rfl
  simp only [spawnedKeys, dropReceiver, List.filterMap_append, hnone, List.nil_append]

/-- The error `e` is on its way to the caller of `run`, or has got there. -/
def Ctrl.fails (e : SupervisorError) (ctrl : Ctrl) : Prop :=
  ctrl.erring = some e ∧ ctrl.inControl = false ∨ ctrl = .finished (.error e)

theorem Ctrl.fails.step {c c' : Config} {a : Act} {e : SupervisorError} (h : c.ctrl.fails e)
    (hs : TokioSupervisor.step c a = some c') :
    c'.ctrl.fails e ∧ spawnedKeys c'.rt.trace = spawnedKeys c.rt.trace := by
  rcases h with ⟨he, hin⟩ | hc
  · rcases erring_step he hs with rfl | ⟨hctrl, henv⟩
    · obtain ⟨c₁, hc₁, hnext⟩ := erring_resume he hin
      obtain rfl : c₁ = c' := Option.some.inj (hc₁.symm.trans hs)
      rcases hnext with rfl | ⟨hrt, he, hin, -⟩
      · exact ⟨.inr rfl, spawnedKeys_dropReceiver _⟩
      · exact ⟨.inl ⟨he, hin⟩, by rw [hrt]⟩
    · exact ⟨.inl (by rw [hctrl]; exact ⟨he, hin⟩), (envStep_frame henv).spawnedKeys⟩
  · obtain ⟨hctrl, henv⟩ := ended_step (by rw [hc]; rfl) hs
    exact ⟨.inr (hctrl.trans hc), (envStep_frame henv).spawnedKeys⟩

/-- An error that does not surface in the step was not there. -/
theorem erring_of_step {c c' : Config} {a : Act} (h : errorsSurface c = true)
    (hs : TokioSupervisor.step c a = some c') (hx : c'.ctrl.erring = none) (hc : c'.ctrl.ended = false) :
    c.ctrl.erring = none := by
  cases he : c.ctrl.erring with
  | none => rfl
  | some e =>
    have hfails : c.ctrl.fails e := .inl ⟨he, by simpa [errorsSurface, he] using h⟩
    rcases (hfails.step hs).1 with ⟨he', -⟩ | hfin
    · rw [hx] at he'; cases he'
    · rw [hfin] at hc; cases hc

theorem Ctrl.fails.run {c c' : Config} {bs : List Act} {e : SupervisorError} (h : c.ctrl.fails e)
    (hrun : AnyRun TokioSupervisor.step c bs c') :
    c'.ctrl.fails e ∧ spawnedKeys c'.rt.trace = spawnedKeys c.rt.trace := by
  refine hrun.invariant (I := fun c' => c'.ctrl.fails e ∧
    spawnedKeys c'.rt.trace = spawnedKeys c.rt.trace) ⟨h, rfl⟩ ?_
  rintro c₁ a c₂ ⟨hI, hk⟩ - hs
  obtain ⟨hI', hk'⟩ := hI.step hs
  exact ⟨hI', hk'.trans hk⟩

/-- As many resumes as there are calls left end the run with the error. -/
theorem erring_finishes {c : Config} {e : SupervisorError} (he : c.ctrl.erring = some e)
    (hin : c.ctrl.inControl = false) :
    ∃ n c', AnyRun step c (List.replicate n .resume) c' ∧ c'.ctrl = .finished (.error e) := by
  induction hd : c.ctrl.depth using Nat.strong_induction_on generalizing c with
  | _ d ih =>
    obtain ⟨c₁, hs, hnext⟩ := erring_resume he hin
    rcases hnext with rfl | ⟨-, he₁, hin₁, hlt⟩
    · exact ⟨1, _, .single trivial hs, rfl⟩
    · obtain ⟨n, c', hrun, hc'⟩ := ih _ (hd ▸ hlt) he₁ hin₁ rfl
      refine ⟨n + 1, c', ?_, hc'⟩
      rw [List.replicate_succ]
      exact (Run.single trivial hs).trans hrun

/-! ### The intensity event -/

theorem exceeded_fails {config : SupervisorConfig} {env : StartEnv} {as : List Act} {c : Config}
    (h : config.Accepted) (hrun : Run step (fun c _ => errorsSurface c) (Config.start config env) as c)
    {owner : Option Nat} (hb : .event owner .restartIntensityExceeded ∈ c.rt.trace) :
    c.ctrl.erring = some .restartIntensityExceeded ∨
      c.ctrl = .finished (.error .restartIntensityExceeded) := by
  refine hrun.invariant_of (I := fun c => ∀ owner, .event owner .restartIntensityExceeded ∈ c.rt.trace →
      c.ctrl.erring = some .restartIntensityExceeded ∨
        c.ctrl = .finished (.error .restartIntensityExceeded)) (fun _ _ h' => run_sane h h')
    (by simp [Config.start, (h.fresh env).trace]) ?_ owner hb
  intro c a c' hs hI hok hstep owner hb
  have hnew := ((step_rule hs hstep).updates hs.wf).invariant (I := fun rt =>
      .event owner .restartIntensityExceeded ∈ rt.trace →
        .event owner .restartIntensityExceeded ∈ c.rt.trace ∨
          c'.ctrl.erring = some .restartIntensityExceeded) hs.wf .inl ?_
  · rcases hnew.2 hb with hb | he
    · have hfails : c.ctrl.fails .restartIntensityExceeded := by
        refine (hI owner hb).imp_left fun he => ⟨he, ?_⟩
        simpa [errorsSurface, he] using hok
      exact (hfails.step hstep).1.imp_left And.left
    · exact .inl he
  · intro rt rt' hwf hI hu hb
    rcases (hu.logs hwf).mem hb with hb | hl
    · exact hI hb
    · cases hl with
      | plain hb => cases hb
      | life hb => cases hb
      | exceeded hc => exact .inr hc

/-- What the runtime does with the errors of its join handler. -/
structure Config.SurfacesErrors (c : Config) : Prop where
  /-- The run ends with the error. -/
  returned : ∀ e, c.ctrl.erring = some e →
    ∃ n c', AnyRun step c (List.replicate n .resume) c' ∧ c'.ctrl = .finished (.error e)
  /-- Whatever happens before and after, it is this error, and nothing is spawned. -/
  only : ∀ e, c.ctrl.erring = some e → ∀ bs c', AnyRun step c bs c' →
    (c'.ctrl.erring = some e ∨ c'.ctrl = .finished (.error e)) ∧
      spawnedKeys c'.rt.trace = spawnedKeys c.rt.trace
  event : ∀ owner, .event owner .restartIntensityExceeded ∈ c.rt.trace →
    c.ctrl.erring = some .restartIntensityExceeded ∨
      c.ctrl = .finished (.error .restartIntensityExceeded)

/-- In a run in which no error reaches `handle_join_during_control`, every error of the join handler
is returned. -/
theorem run_surfacesErrors {config : SupervisorConfig} {env : StartEnv} {as : List Act} {c : Config}
    (h : config.Accepted) (hrun : Run step (fun c _ => errorsSurface c) (Config.start config env) as c)
    (hok : errorsSurface c = true) : c.SurfacesErrors := by
  have hin : ∀ e, c.ctrl.erring = some e → c.ctrl.inControl = false := fun e he => by
    simpa [errorsSurface, he] using hok
  refine ⟨fun e he => erring_finishes he (hin e he), fun e he bs c' hcont => ?_,
    fun owner hb => exceeded_fails h hrun hb⟩
  have hfails : c.ctrl.fails e := .inl ⟨he, hin e he⟩
  obtain ⟨hc', hk⟩ := hfails.run hcont
  exact ⟨hc'.imp_left And.left, hk⟩

/-! ### An error during a removal -/

/-- No restart is allowed. -/
def strictConfig : SupervisorConfig :=
  { reuseConfig with restartIntensity := ⟨0, .fromSecs 30, .none⟩ }

theorem strictConfig_accepted : strictConfig.Accepted :=
  ⟨⟨.oneForOne, strictConfig.restartIntensity, strictConfig.children, 8, 8⟩, rfl⟩

/-- `b` fails while the removal of `a` waits; its error becomes the reply of the removal. -/
def swallowActs : List Act :=
  [.run .go, .send (.removeChild "a" 0), .run (.command 3), .finish 1 (.returned (.error "failed")),
   .run (.join 1), .resume, .resume, .resume, .resume, .resume, .resume]

/-- The main loop waits again, although the intensity was exceeded. -/
theorem swallowed_error_reached :
    strictConfig.Accepted ∧ ∃ c, AnyRun step (Config.start strictConfig ⟨false, 0, 0⟩) swallowActs c ∧
      ¬ c.SurfacesErrors := by
  have hex : ∃ c, AnyRun step (Config.start strictConfig ⟨false, 0, 0⟩) swallowActs c ∧
      (c.ctrl.erring, c.ctrl.ended, c.rt.trace.contains (.event none .restartIntensityExceeded)) =
        (none, false, true) := anyRun_of_exec (by decide +kernel)
  obtain ⟨c, hrun, hc⟩ := hex
  refine ⟨strictConfig_accepted, c, hrun, fun h => ?_⟩
  simp only [Prod.mk.injEq, List.contains_iff_mem] at hc
  obtain ⟨herring, hended, hb⟩ := hc
  rcases h.event none hb with he | hf
  · rw [herring] at he; cases he
  · rw [hf] at hended; cases hended

/-- In the main loop the same error ends the run. -/
theorem run_surfacesErrors_exceeded : ∃ c : Config,
    c.ctrl.erring = some .restartIntensityExceeded ∧ c.SurfacesErrors := by
  have hex : ∃ c, Run step (fun c _ => errorsSurface c) (Config.start strictConfig ⟨false, 0, 0⟩)
      [.run .go, .finish 1 (.returned (.error "failed")), .run (.join 1)] c ∧
      (c.ctrl.erring, errorsSurface c) = (some .restartIntensityExceeded, true) :=
    run_of_execIf_map (by decide +kernel)
  obtain ⟨c, hrun, hc⟩ := hex
  exact ⟨c, (Prod.mk.inj hc).1, run_surfacesErrors strictConfig_accepted hrun (Prod.mk.inj hc).2⟩

end TokioSupervisor
