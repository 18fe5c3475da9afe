import TokioSupervisor.Time

/-!
# Configuration: restart and shutdown policies, child specifications, the builder

`SupervisorBuilder.build` is the only way to a `SupervisorConfig`; `ChildSpec`s added at run time go
through `addChild` (`Runtime/Ops.lean`), which repeats the per-child checks.
-/

namespace TokioSupervisor

inductive BuildError
  | duplicateChildId (id : String)
  | emptyChildren
  | invalidConfig (message : String)
deriving DecidableEq, Repr

inductive SupervisorError
  | restartIntensityExceeded
  | shutdownTimedOut (ids : String)
  | internal (message : String)
deriving DecidableEq, Repr

inductive ControlError
  | busy
  | duplicateChildId (id : String)
  | unknownChildId (id : String)
  | childRemovalInProgress (id : String)
  | invalidConfig (message : String)
  | lastChildRemovalUnsupported
  | supervisorStopping
  | shutdownTimedOut (ids : String)
  | unavailable
  | internal (message : String)
deriving DecidableEq, Repr

/-- Why a supervisor exited successfully. -/
inductive SupervisorExit
  | shutdown
  | completed
  | failed
deriving DecidableEq, Repr

inductive Strategy
  | oneForOne
  | oneForAll
deriving DecidableEq, Repr

inductive Restart
  | permanent
  | transient
  | temporary
deriving DecidableEq, Repr

def Restart.shouldRestart : Restart → (isFailure : Bool) → Bool
  | .permanent, _ => true
  | .transient, isFailure => isFailure
  | .temporary, _ => false

def requireNonZeroDuration (duration : Duration) (message : String) : Except BuildError Unit :=
  if duration.isZero then .error (.invalidConfig message) else .ok ()

inductive BackoffPolicy
  | none
  | fixed (delay : Duration)
  | exponential (base : Duration) (factor : UInt32) (max : Duration)
  | jitteredExponential (base : Duration) (factor : UInt32) (max : Duration)
deriving DecidableEq, Repr

def BackoffPolicy.validate : BackoffPolicy → Except BuildError Unit
  | .none => .ok ()
  | .fixed delay => requireNonZeroDuration delay "fixed backoff delay must be non-zero"
  | .exponential base factor max | .jitteredExponential base factor max => do
    requireNonZeroDuration base "exponential backoff base must be non-zero"
    if factor = 0 then
      throw (.invalidConfig "exponential backoff factor must be non-zero")
    requireNonZeroDuration max "exponential backoff max must be non-zero"

structure RestartIntensity where
  maxRestarts : Nat
  within : Duration
  backoff : BackoffPolicy
deriving DecidableEq, Repr

def RestartIntensity.validate (i : RestartIntensity) : Except BuildError Unit := do
  requireNonZeroDuration i.within "restart intensity window must be non-zero"
  i.backoff.validate

inductive ShutdownMode
  | cooperative
  | cooperativeThenAbort
  | abort
deriving DecidableEq, Repr

structure ShutdownPolicy where
  grace : Duration
  mode : ShutdownMode
deriving DecidableEq, Repr

/-- A child's specification. The factory that makes the task is left out: what a task does is up to
the environment (`Act.finish`). -/
structure ChildSpec where
  id : String
  restart : Restart
  restartIntensity : Option RestartIntensity
  shutdownPolicy : ShutdownPolicy
deriving DecidableEq, Repr

structure SupervisorConfig where
  strategy : Strategy
  restartIntensity : RestartIntensity
  children : List ChildSpec
  controlChannelCapacity : Nat
  eventChannelCapacity : Nat
deriving Repr

structure SupervisorBuilder where
  strategy : Strategy
  restartIntensity : RestartIntensity
  children : List ChildSpec
  controlChannelCapacity : Nat
  eventChannelCapacity : Nat
deriving Repr

namespace SupervisorBuilder

/-- The loop of `build` over the children; `ids` are the ids seen so far. -/
def checkChildren (ids : List String) : List ChildSpec → Except BuildError Unit
  | [] => .ok ()
  | child :: rest => do
    if child.id.isEmpty then
      throw (.invalidConfig "child id must not be empty")
    if let some intensity := child.restartIntensity then
      intensity.validate
    if child.id ∈ ids then
      throw (.duplicateChildId child.id)
    checkChildren (child.id :: ids) rest

def build (b : SupervisorBuilder) : Except BuildError SupervisorConfig := do
  if b.children.isEmpty then
    throw .emptyChildren
  b.restartIntensity.validate
  if b.controlChannelCapacity = 0 then
    throw (.invalidConfig "control channel capacity must be non-zero")
  if b.eventChannelCapacity = 0 then
    throw (.invalidConfig "event channel capacity must be non-zero")
  checkChildren [] b.children
  return { strategy := b.strategy, restartIntensity := b.restartIntensity, children := b.children,
           controlChannelCapacity := b.controlChannelCapacity,
           eventChannelCapacity := b.eventChannelCapacity }

end SupervisorBuilder

end TokioSupervisor
