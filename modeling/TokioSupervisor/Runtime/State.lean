import TokioSupervisor.Intensity
import TokioSupervisor.Snapshot
import TokioSupervisor.Lib.Slab
import Mathlib.Data.List.AList

/-!
# The state of `SupervisorRuntime`

The runtime's own fields under the source's names, together with what it shares with the rest of
the program: the tasks of its `JoinSet`, the receiving ends of its channels, the clock and the
cancellation tokens. Two fields only record what happened: `snapshots` (every snapshot published on
the watch channel) and `trace` (every event broadcast, and the actions the properties speak of).
Both are newest first, and no transition reads them.

Observability (spans, metrics, formatted paths) and the control registry are left out.
-/

namespace TokioSupervisor
open Lib

/-- Slab key of a child entry. -/
abbrev ChildKey := Nat

/-- Tokio task id. -/
abbrev TaskId := Nat

/-! ### Tasks -/

/-- How a task ended. The text is the `Display` of the panic's `JoinError`. -/
inductive TaskOutcome
  | returned (result : Except String Unit)
  | panicked (display : String)
  | cancelled

structure TaskMeta where
  key : ChildKey
  instanceId : Nat
  generation : Nat
deriving DecidableEq, Repr

/-- A spawned task that has not been joined yet, with the keys its `ChildEnvelope` will carry. -/
structure Task where
  id : TaskId
  info : TaskMeta
  abortRequested : Bool
  outcome : Option TaskOutcome

/-- The tasks not yet joined, in spawn order. -/
structure JoinSet where
  tasks : List Task
  nextId : TaskId

/-- What `join_next_with_id` yields: the task's envelope, or a `JoinError`. -/
inductive Joined
  | ok (id : TaskId) (info : TaskMeta) (result : Except String Unit)
  | err (id : TaskId) (isCancelled : Bool) (display : String)

namespace JoinSet

def empty : JoinSet := ⟨[], 0⟩

/-- `JoinSet::spawn`; the new task's id is `nextId`. -/
def spawn (js : JoinSet) (info : TaskMeta) : JoinSet :=
  ⟨js.tasks ++ [⟨js.nextId, info, false, none⟩], js.nextId + 1⟩

def find (js : JoinSet) (id : TaskId) : Option Task := js.tasks.find? (·.id == id)

/-- `AbortHandle::abort`. -/
def abort (js : JoinSet) (id : TaskId) : JoinSet :=
  { js with tasks := js.tasks.map fun t => if t.id = id then { t with abortRequested := true } else t }

/-- The environment ends a running task; only an aborted task ends as cancelled. -/
def finish (js : JoinSet) (id : TaskId) (outcome : TaskOutcome) : Option JoinSet :=
  match js.find id with
  | some ⟨_, _, abortRequested, none⟩ =>
    match outcome, abortRequested with
    | .cancelled, false => none
    | _, _ => some { js with tasks := js.tasks.map fun t =>
        if t.id = id then { t with outcome := some outcome } else t }
  | _ => none

def anyFinished (js : JoinSet) : Bool := js.tasks.any (·.outcome.isSome)

def isEmpty (js : JoinSet) : Bool := js.tasks.isEmpty

/-- `join_next_with_id` returning the finished task `id`, which leaves the set. -/
def joinNext (js : JoinSet) (id : TaskId) : Option (Joined × JoinSet) :=
  match js.find id with
  | some ⟨_, info, _, some outcome⟩ =>
    let js := { js with tasks := js.tasks.filter (·.id != id) }
    match outcome with
    | .returned result => some (.ok id info result, js)
    | .panicked display => some (.err id false display, js)
    | .cancelled => some (.err id true s!"task {id} was cancelled", js)
  | _ => none

end JoinSet

/-! ### Cancellation tokens -/

/-- A `CancellationToken`; a child token is cancelled with its parent. -/
structure CancellationToken where
  id : Nat
  parent : Option Nat
deriving DecidableEq, Repr

/-- Every token made so far, and the ids that were cancelled. -/
structure Tokens where
  next : Nat
  cancelled : List Nat
deriving Repr

namespace Tokens

def fresh (ts : Tokens) : CancellationToken × Tokens :=
  (⟨ts.next, none⟩, { ts with next := ts.next + 1 })

def childToken (ts : Tokens) (parent : CancellationToken) : CancellationToken × Tokens :=
  (⟨ts.next, some parent.id⟩, { ts with next := ts.next + 1 })

def cancel (ts : Tokens) (t : CancellationToken) : Tokens :=
  { ts with cancelled := t.id :: ts.cancelled }

def isCancelled (ts : Tokens) (t : CancellationToken) : Bool :=
  ts.cancelled.contains t.id || t.parent.any ts.cancelled.contains

end Tokens

/-! ### Children -/

inductive SupervisorState
  | running
  | stopping
  | stopped
deriving DecidableEq, Repr

inductive MembershipState
  | active
  | removing
  | removed
deriving DecidableEq, Repr

inductive RuntimeChildState
  | starting
  | running
  | stopping
  | stopped
deriving DecidableEq, Repr

def RuntimeChildState.isActive (s : RuntimeChildState) : Bool := s != .stopped

/-- Per-child state: lifecycle, restart history, handles to cancel or abort the running task. -/
structure ChildRuntime where
  spec : ChildSpec
  restartTracker : RestartTracker
  generation : Nat
  state : RuntimeChildState
  activeToken : Option CancellationToken
  abortHandle : Option TaskId
  hasStarted : Bool
  nextRestartDeadline : Option Instant

/-- `nanos` is the wall clock that seeds the tracker's generator. -/
def ChildRuntime.new (spec : ChildSpec) (defaultRestartIntensity : RestartIntensity) (nanos : Nat) :
    ChildRuntime where
  spec := spec
  restartTracker := .new (spec.restartIntensity.getD defaultRestartIntensity) nanos
  generation := 0
  state := .stopped
  activeToken := none
  abortHandle := none
  hasStarted := false
  nextRestartDeadline := none

/-- The newest terminal outcome observed for a child generation. -/
structure TerminalStatus where
  generation : Nat
  isFailure : Bool
deriving DecidableEq, Repr

/-- A slab entry. `nestedSnapshotState` is an index into `SupervisorRuntime.nestedStates`. -/
structure ChildEntry where
  id : String
  instanceId : Nat
  runtime : ChildRuntime
  terminalStatus : Option TerminalStatus
  lastExit : Option ExitStatusView
  nestedSnapshot : Option SupervisorSnapshot
  nestedSnapshotState : Option Nat
  membership : MembershipState

def ChildEntry.new (id : String) (spec : ChildSpec) (defaultRestartIntensity : RestartIntensity)
    (instanceId nanos : Nat) : ChildEntry where
  id := id
  instanceId := instanceId
  runtime := .new spec defaultRestartIntensity nanos
  terminalStatus := none
  lastExit := none
  nestedSnapshot := none
  nestedSnapshotState := none
  membership := .active

def countsAsRunning (membership : MembershipState) (state : RuntimeChildState) : Bool :=
  membership != .removed && (state == .starting || state == .running)

/-! ### Channels -/

/-- A control command; `reply` names the caller's oneshot. -/
inductive SupervisorCommand
  | addChild (child : ChildSpec) (reply : Nat)
  | removeChild (id : String) (reply : Nat)
deriving DecidableEq, Repr

def SupervisorCommand.reply : SupervisorCommand → Nat
  | .addChild _ reply | .removeChild _ reply => reply

/-- The watch channel of the shutdown request: its value, whether the receiver has an unseen change,
and whether every sender is gone. -/
structure ShutdownWatch where
  value : Bool
  unseen : Bool
  closed : Bool
deriving DecidableEq, Repr

/-- `changed()` is ready. -/
def ShutdownWatch.ready (w : ShutdownWatch) : Bool := w.unseen || w.closed

/-- The bounded command channel: `closed` is the receiver's `close()`, `senders` says whether some
sender is left. -/
structure CommandChannel where
  queue : List SupervisorCommand
  capacity : Nat
  closed : Bool
  senders : Bool

/-- `recv()` is ready. -/
def CommandChannel.ready (c : CommandChannel) : Bool := !c.queue.isEmpty || c.closed || !c.senders

structure NestedChannel where
  queue : List NestedSnapshotNotification
  capacity : Nat

/-! ### The runtime -/

/-- What the properties observe. `event` carries the instance the event is about. -/
inductive Action
  | event (owner : Option Nat) (event : SupervisorEvent)
  | spawned (key : ChildKey) (instanceId generation : Nat) (task : TaskId)
  /-- `consume_joined_child` accepted or ignored a join. -/
  | joined (task : TaskId) (info : TaskMeta) (accepted : Bool)
  /-- `record_exit`; `demanded` says that the exit of an active child of a running supervisor asks
  for a restart. -/
  | exited (key : ChildKey) (instanceId generation : Nat) (status : ExitStatus) (demanded : Bool)
  /-- `remove_child` resolved the id of call `reply` to this instance. -/
  | removalRequested (reply instanceId : Nat)
  | tokenCancelled (instanceId : Nat)
  | groupCancelled
  | aborted (instanceId : Nat)
  | deleted (key : ChildKey) (instanceId : Nat)
  | handled (reply : Nat)
  | replied (reply : Nat) (result : Except ControlError Unit)
  /-- The caller got `ControlError::Unavailable`. -/
  | unavailable (reply : Nat)
  /-- A `saturating_sub` on `running_children` truncated. -/
  | truncated
deriving DecidableEq

/-- Fixed at construction. `debugEnabled` says whether the subscriber records `debug!`. -/
structure RuntimeMeta where
  strategy : Strategy
  defaultRestartIntensity : RestartIntensity
  debugEnabled : Bool

structure SupervisorRuntime where
  info : RuntimeMeta
  state : SupervisorState
  groupToken : CancellationToken
  joinSet : JoinSet
  children : Slab ChildEntry
  childrenById : AList (fun _ : String => ChildKey)
  childOrder : List ChildKey
  runningChildren : Nat
  liveTasks : Nat
  nextChildInstance : Nat
  shutdownRx : ShutdownWatch
  commandRx : CommandChannel
  nestedSnapshotRx : NestedChannel
  commandsOpen : Bool
  taskMap : AList (fun _ : TaskId => TaskMeta)
  pendingExit : Option (Except SupervisorError SupervisorExit)
  lastExit : Option SupervisorExit
  now : Instant
  wallClock : Nat
  tokens : Tokens
  nestedStates : List NestedSnapshotState
  snapshots : List SupervisorSnapshot
  trace : List Action

end TokioSupervisor
