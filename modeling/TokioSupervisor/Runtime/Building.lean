import TokioSupervisor.Runtime.Start
import TokioSupervisor.Lib.Reports

/-!
# What `SupervisorBuilder::build` refuses

As for `GraphBuilder`: `faults` lists all that is wrong with a builder in the order of the checks, `build`
fails with the first fault, and without faults its configuration is what the calls said.
-/

namespace TokioSupervisor
open Lib

/-! ### Defaults -/

def ShutdownPolicy.cooperativeThenAbort (grace : Duration) : ShutdownPolicy := ⟨grace, .cooperativeThenAbort⟩

def ShutdownPolicy.default : ShutdownPolicy := cooperativeThenAbort (.fromSecs 5)

def RestartIntensity.new (maxRestarts : Nat) (within : Duration) : RestartIntensity :=
  ⟨maxRestarts, within, .none⟩

def RestartIntensity.default : RestartIntensity := new 5 (.fromSecs 30)

def DEFAULT_CONTROL_CHANNEL_CAPACITY : Nat := 64
def DEFAULT_EVENT_CHANNEL_CAPACITY : Nat := 256

/-! ### Faults -/

def BackoffPolicy.faults : BackoffPolicy → List BuildError
  | .none => []
  | .fixed delay =>
    if delay.isZero then [.invalidConfig "fixed backoff delay must be non-zero"] else []
  | .exponential base factor max | .jitteredExponential base factor max =>
    (if base.isZero then [.invalidConfig "exponential backoff base must be non-zero"] else []) ++
    ((if factor = 0 then [.invalidConfig "exponential backoff factor must be non-zero"] else []) ++
    (if max.isZero then [.invalidConfig "exponential backoff max must be non-zero"] else []))

def RestartIntensity.faults (i : RestartIntensity) : List BuildError :=
  (if i.within.isZero then [.invalidConfig "restart intensity window must be non-zero"] else []) ++
  i.backoff.faults

theorem requireNonZeroDuration_reports (duration : Duration) (message : String) :
    Reports (requireNonZeroDuration duration message)
      (if duration.isZero then [.invalidConfig message] else []) fun _ => True :=
  .last fun _ => .pure trivial

theorem BackoffPolicy.validate_reports (p : BackoffPolicy) : Reports p.validate p.faults fun _ => True := by
  cases p with
  | none => exact .pure trivial
  | fixed delay => exact requireNonZeroDuration_reports _ _
  | exponential base factor max | jitteredExponential base factor max =>
    refine (requireNonZeroDuration_reports _ _).bind fun _ _ => ?_
    refine .ite fun _ => requireNonZeroDuration_reports _ _

theorem RestartIntensity.validate_reports (i : RestartIntensity) :
    Reports i.validate i.faults fun _ => True :=
  (requireNonZeroDuration_reports _ _).bind fun _ _ => i.backoff.validate_reports

namespace SupervisorBuilder

def new : SupervisorBuilder where
  strategy := .oneForOne
  restartIntensity := .default
  children := []
  controlChannelCapacity := DEFAULT_CONTROL_CHANNEL_CAPACITY
  eventChannelCapacity := DEFAULT_EVENT_CHANNEL_CAPACITY

/-- What is wrong with a child after the children `pre`. -/
def childFault (pre : List ChildSpec) (child : ChildSpec) : List BuildError :=
  (if child.id.isEmpty then [.invalidConfig "child id must not be empty"] else []) ++
  ((child.restartIntensity.map RestartIntensity.faults).getD [] ++
  (if child.id ∈ pre.map (·.id) then [.duplicateChildId child.id] else []))

/-- All that is wrong with a builder. -/
def faults (b : SupervisorBuilder) : List BuildError :=
  (if b.children.isEmpty then [.emptyChildren] else []) ++
  (b.restartIntensity.faults ++
  ((if b.controlChannelCapacity = 0 then [.invalidConfig "control channel capacity must be non-zero"] else []) ++
  ((if b.eventChannelCapacity = 0 then [.invalidConfig "event channel capacity must be non-zero"] else []) ++
  Lib.faults childFault [] b.children)))

theorem checkChildren_reports (children : List ChildSpec) :
    ∀ {pre : List ChildSpec} {ids : List String}, (∀ id, id ∈ ids ↔ id ∈ pre.map (·.id)) →
      Reports (checkChildren ids children) (Lib.faults childFault pre children) fun _ => True := by
  induction children with
  | nil => exact fun _ => .pure trivial
  | cons child rest ih =>
    intro pre ids hids
    rw [checkChildren, Lib.faults, childFault]
    simp only [List.append_assoc, hids]
    have hnext (h : child.id ∉ pre.map (·.id)) : ∀ id, id ∈ child.id :: ids ↔ id ∈ (pre ++ [child]).map (·.id) := by
      intro id
      simp [hids, or_comm]
    refine .ite fun _ => ?_
    cases child.restartIntensity with
    | none => exact .ite fun h => ih (hnext h)
    | some intensity =>
      refine intensity.validate_reports.bind fun _ _ => ?_
      exact .ite fun h => ih (hnext h)

/-- A builder with nothing wrong. -/
structure Valid (b : SupervisorBuilder) : Prop where
  nonempty : b.children ≠ []
  restartIntensity : b.restartIntensity.faults = []
  capacities : b.controlChannelCapacity ≠ 0 ∧ b.eventChannelCapacity ≠ 0
  childIds : ∀ child ∈ b.children, child.id ≠ ""
  intensities : ∀ child ∈ b.children, ∀ intensity, child.restartIntensity = some intensity → intensity.faults = []
  nodup : (b.children.map (·.id)).Nodup

theorem childFault_eq_nil (pre : List ChildSpec) (child : ChildSpec) : childFault pre child = [] ↔
    (child.id ≠ "" ∧ ∀ intensity, child.restartIntensity = some intensity → intensity.faults = []) ∧
      child.id ∉ pre.map (·.id) := by
  simp only [childFault, List.append_eq_nil_iff, Reports.check_eq_nil, String.isEmpty_iff, ← and_assoc]
  cases child.restartIntensity <;> simp

theorem faults_eq_nil_iff {b : SupervisorBuilder} : b.faults = [] ↔ b.Valid := by
  have hchildren := Lib.faults_eq_nil _ _ childFault_eq_nil b.children []
  simp only [faults, List.append_eq_nil_iff, Reports.check_eq_nil, hchildren]
  constructor
  · rintro ⟨hempty, hintensity, hcontrol, hevent, hgood, hnodup, -⟩
    exact ⟨by simpa using hempty, hintensity, ⟨hcontrol, hevent⟩, fun c hc => (hgood c hc).1,
      fun c hc => (hgood c hc).2, hnodup⟩
  · rintro ⟨hempty, hintensity, ⟨hcontrol, hevent⟩, hids, hintensities, hnodup⟩
    exact ⟨by simpa using hempty, hintensity, hcontrol, hevent, fun c hc => ⟨hids c hc, hintensities c hc⟩,
      hnodup, by simp⟩

theorem build_reports (b : SupervisorBuilder) :
    Reports b.build b.faults fun config =>
      config = ⟨b.strategy, b.restartIntensity, b.children, b.controlChannelCapacity, b.eventChannelCapacity⟩ := by
  unfold build
  refine .ite fun _ => ?_
  refine b.restartIntensity.validate_reports.bind fun _ _ => ?_
  refine .ite fun _ => .ite fun _ => ?_
  exact (checkChildren_reports b.children (by simp)).bind_last fun _ _ => .pure rfl

/-- The defaults lack a child and nothing else. -/
example : new.faults = [.emptyChildren] := rfl

end SupervisorBuilder
end TokioSupervisor
