import TokioSupervisor.Policy

/-!
# Exit statuses, events and snapshots

What a supervisor shows to the outside: the events it broadcasts and the snapshots it publishes on
its watch channel. The snapshot of a child that is itself a supervisor nests that supervisor's own.
-/

namespace TokioSupervisor

/-- How a child exited. The error of a failed child is kept as its displayed text. -/
inductive ExitStatus
  | completed
  | failed (err : String)
  | panicked
  | aborted
deriving DecidableEq, Repr

inductive ExitStatusView
  | completed
  | failed (err : String)
  | panicked
  | aborted
deriving DecidableEq, Repr

namespace ExitStatus

def isFailure : ExitStatus → Bool
  | .completed => false
  | _ => true

def view : ExitStatus → ExitStatusView
  | .completed => .completed
  | .failed err => .failed err
  | .panicked => .panicked
  | .aborted => .aborted

end ExitStatus

/-- The view of an exit that counts as a failure. -/
def ExitStatusView.isFailure : ExitStatusView → Bool
  | .completed => false
  | _ => true

@[simp] theorem ExitStatus.view_isFailure (s : ExitStatus) : s.view.isFailure = s.isFailure := by
  cases s <;> rfl

inductive SupervisorEvent
  | supervisorStarted
  | supervisorStopping
  | supervisorStopped
  | nested (id : String) (generation : Nat) (event : SupervisorEvent)
  | childStarted (id : String) (generation : Nat)
  | childRemoveRequested (id : String)
  | childRemoved (id : String)
  | childExited (id : String) (generation : Nat) (status : ExitStatusView)
  | childRestartScheduled (id : String) (generation : Nat) (delay : Duration)
  | childRestarted (id : String) (oldGeneration newGeneration : Nat)
  | groupRestartScheduled (delay : Duration)
  | restartIntensityExceeded
deriving DecidableEq, Repr

/-- `event_updates_snapshot`. -/
def SupervisorEvent.updatesSnapshot : SupervisorEvent → Bool
  | .supervisorStarted | .childRestarted .. => false
  | _ => true

/-- `event_child_id`. -/
def SupervisorEvent.childId : SupervisorEvent → Option String
  | .childStarted id _ | .childExited id .. | .childRestartScheduled id .. | .childRestarted id ..
  | .childRemoveRequested id | .childRemoved id | .nested id .. => some id
  | .supervisorStarted | .supervisorStopping | .supervisorStopped | .groupRestartScheduled _
  | .restartIntensityExceeded => none

inductive SupervisorStateView
  | running
  | stopping
  | stopped
deriving DecidableEq, Repr

inductive ChildStateView
  | starting
  | running
  | stopping
  | stopped
deriving DecidableEq, Repr

inductive ChildMembershipView
  | active
  | removing
deriving DecidableEq, Repr

/-- A child's snapshot, over the type of the nested supervisor's snapshot. -/
structure ChildSnapshotOf (Nested : Type) where
  id : String
  generation : Nat
  state : ChildStateView
  membership : ChildMembershipView
  lastExit : Option ExitStatusView
  restartCount : Nat
  /-- Nanoseconds until the pending restart. -/
  nextRestartIn : Option Nat
  supervisor : Option Nested

structure SupervisorSnapshot where
  state : SupervisorStateView
  lastExit : Option SupervisorExit
  strategy : Strategy
  children : List (ChildSnapshotOf SupervisorSnapshot)

abbrev ChildSnapshot := ChildSnapshotOf SupervisorSnapshot

/-- `initial_snapshot`: what the watch channel holds before the runtime starts. -/
def initialSnapshot (config : SupervisorConfig) : SupervisorSnapshot where
  state := .running
  lastExit := none
  strategy := config.strategy
  children := config.children.map fun spec =>
    { id := spec.id, generation := 0, state := .starting, membership := .active, lastExit := none,
      restartCount := 0, nextRestartIn := none, supervisor := none }

/-- The slot a nested supervisor's forwarder shares with the parent's entry: the latest snapshot
and whether a notification is on its way. -/
structure NestedSnapshotState where
  latest : Option SupervisorSnapshot
  queued : Bool

def NestedSnapshotState.empty : NestedSnapshotState := ⟨none, false⟩

structure NestedSnapshotNotification where
  parentKey : Nat
  parentInstance : Nat
  generation : Nat
deriving DecidableEq, Repr

end TokioSupervisor
