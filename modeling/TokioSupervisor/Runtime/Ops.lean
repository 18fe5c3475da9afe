import TokioSupervisor.Runtime.State

/-!
# The synchronous methods of `SupervisorRuntime`

Each method that runs without an `.await` is one function on the state. `Except Panic` is the Rust
panic: an index into a vacant slot, an instant past the clock's range, or the `unreachable!` of
`snapshot_view`. A Rust `Result` is an `Except` among the values.
-/

namespace TokioSupervisor
open Lib

inductive Panic
  | vacantSlot (key : ChildKey)
  | instantOverflow
  | removedChildInSnapshot
deriving DecidableEq, Repr

inductive DrainReason
  | shutdown
  | groupRestart
deriving DecidableEq, Repr

structure ClassifiedExit where
  key : ChildKey
  instanceId : Nat
  generation : Nat
  status : ExitStatus

def mapBuildErrorToControl (id : String) : BuildError → ControlError
  | .duplicateChildId _ => .duplicateChildId id
  | .emptyChildren => .invalidConfig "supervisor requires at least one child"
  | .invalidConfig message => .invalidConfig message

def mapSupervisorErrorToControl : SupervisorError → ControlError
  | .shutdownTimedOut ids => .shutdownTimedOut ids
  | .internal message => .internal message
  | .restartIntensityExceeded => .supervisorStopping

/-- `ExitStatus::from_child_result`. -/
def ExitStatus.fromChildResult : Except String Unit → ExitStatus
  | .ok () => .completed
  | .error err => .failed err

/-- `Instant + Duration`. -/
def instantAdd (t : Instant) (d : Duration) : Except Panic Instant :=
  match t.checkedAdd d with
  | some t => .ok t
  | none => .error .instantOverflow

def RuntimeChildState.view : RuntimeChildState → ChildStateView
  | .starting => .starting
  | .running => .running
  | .stopping => .stopping
  | .stopped => .stopped

def SupervisorState.view : SupervisorState → SupervisorStateView
  | .running => .running
  | .stopping => .stopping
  | .stopped => .stopped

/-- The snapshot of one entry at instant `now`. -/
def ChildEntry.snapshot (now : Instant) (entry : ChildEntry) : Except Panic ChildSnapshot := do
  let membership : ChildMembershipView ← match entry.membership with
    | .active => pure .active
    | .removing => pure .removing
    | .removed => throw .removedChildInSnapshot
  return {
    id := entry.id
    generation := entry.runtime.generation
    state := entry.runtime.state.view
    membership
    lastExit := entry.lastExit
    restartCount := entry.runtime.restartTracker.totalRestarts
    nextRestartIn := entry.runtime.nextRestartDeadline.map fun deadline => deadline.nanosSince now
    supervisor := entry.nestedSnapshot }

namespace SupervisorRuntime

def log (rt : SupervisorRuntime) (a : Action) : SupervisorRuntime := { rt with trace := a :: rt.trace }

/-- `self.children[key]`. -/
def index (rt : SupervisorRuntime) (key : ChildKey) : Except Panic ChildEntry :=
  match rt.children.get key with
  | some entry => .ok entry
  | none => .error (.vacantSlot key)

/-- Update the entry at an occupied key in place. -/
def modifyEntry (rt : SupervisorRuntime) (key : ChildKey) (f : ChildEntry → ChildEntry) :
    SupervisorRuntime :=
  { rt with children := rt.children.modify key f }

/-- `running_children.saturating_sub(n)`. -/
def subRunning (rt : SupervisorRuntime) (n : Nat) : SupervisorRuntime :=
  { rt with
    runningChildren := rt.runningChildren - n
    trace := if rt.runningChildren < n then .truncated :: rt.trace else rt.trace }

/-! ### Events and snapshots -/

def snapshotView (rt : SupervisorRuntime) : Except Panic SupervisorSnapshot := do
  let children ← (rt.childOrder.filterMap rt.children.get).mapM (ChildEntry.snapshot rt.now)
  return { state := rt.state.view, lastExit := rt.lastExit, strategy := rt.info.strategy, children }

def publishSnapshot (rt : SupervisorRuntime) : Except Panic SupervisorRuntime := do
  let view ← rt.snapshotView
  return { rt with snapshots := view :: rt.snapshots }

/-- `send_event`. The entry found under the event's child id is indexed for its path. `owner` is the
instance the event is about, for the trace only. -/
def sendEvent (rt : SupervisorRuntime) (owner : Option Nat) (event : SupervisorEvent) :
    Except Panic SupervisorRuntime := do
  let rt ← if event.updatesSnapshot then rt.publishSnapshot else pure rt
  if let some key := event.childId.bind (rt.childrenById.lookup ·) then
    let _ ← rt.index key
  return rt.log (.event owner event)

def sendRestartEvent (rt : SupervisorRuntime) (key : ChildKey) (oldGeneration newGeneration : Nat) :
    Except Panic SupervisorRuntime := do
  let entry ← rt.index key
  rt.sendEvent (some entry.instanceId) (.childRestarted entry.id oldGeneration newGeneration)

/-! ### Terminal statuses -/

def recordTerminalStatus (rt : SupervisorRuntime) (key : ChildKey) (generation : Nat)
    (status : ExitStatus) : Except Panic SupervisorRuntime := do
  let entry ← rt.index key
  match entry.terminalStatus with
  | some current =>
    if generation < current.generation then return rt
    else return rt.modifyEntry key ({ · with terminalStatus := some ⟨generation, status.isFailure⟩ })
  | none =>
    return rt.modifyEntry key ({ · with terminalStatus := some ⟨generation, status.isFailure⟩ })

def clearTerminalStatus (rt : SupervisorRuntime) (key : ChildKey) :
    Except Panic SupervisorRuntime := do
  let _ ← rt.index key
  return rt.modifyEntry key ({ · with terminalStatus := none })

/-! ### Spawning -/

/-- `spawn_child`: the old generation, if the child had one, and the new one. -/
def spawnChild (rt : SupervisorRuntime) (key : ChildKey) :
    Except Panic (SupervisorRuntime × Except SupervisorError (Option Nat × Nat)) := do
  let rt ← rt.clearTerminalStatus key
  match rt.children.get key with
  | none => return (rt, .error (.internal s!"missing child slot for key {key}"))
  | some entry =>
    let child := entry.runtime
    let countedBefore := child.state == .starting || child.state == .running
    let oldGeneration := if child.hasStarted then some child.generation else none
    let generation := if child.hasStarted then saturatingSucc child.generation else child.generation
    let (childToken, tokens) := rt.tokens.childToken rt.groupToken
    let snapshotState := rt.nestedStates.length
    let rt := { rt with tokens, nestedStates := rt.nestedStates ++ [NestedSnapshotState.empty] }
    let rt := rt.modifyEntry key fun entry =>
      { entry with
        runtime := { entry.runtime with
          generation, activeToken := some childToken, state := .starting, nextRestartDeadline := none }
        nestedSnapshot := none
        nestedSnapshotState := some snapshotState }
    -- `child_path(key)`
    let _ ← rt.index key
    let info : TaskMeta := ⟨key, entry.instanceId, generation⟩
    let taskId := rt.joinSet.nextId
    let rt := { rt with joinSet := rt.joinSet.spawn info }
    match rt.children.get key with
    | none => return (rt, .error (.internal s!"missing child slot for key {key}"))
    | some _ =>
      let rt := rt.modifyEntry key fun entry =>
        { entry with runtime := { entry.runtime with
            hasStarted := true, state := .running, abortHandle := some taskId } }
      let rt := if countedBefore then rt else { rt with runningChildren := rt.runningChildren + 1 }
      let rt := { rt with liveTasks := rt.liveTasks + 1, taskMap := rt.taskMap.insert taskId info }
      let rt := rt.log (.spawned key entry.instanceId generation taskId)
      let rt ← rt.sendEvent (some entry.instanceId) (.childStarted entry.id generation)
      return (rt, .ok (oldGeneration, generation))

/-! ### Consuming exits -/

/-- `classify_join`: the envelope of a finished task, or the metadata of a failed one. -/
def classifyJoin (rt : SupervisorRuntime) :
    Joined → SupervisorRuntime × Except SupervisorError ClassifiedExit
  | .ok id info result =>
    ({ rt with taskMap := rt.taskMap.erase id },
      .ok ⟨info.key, info.instanceId, info.generation, .fromChildResult result⟩)
  | .err id isCancelled display =>
    match rt.taskMap.lookup id with
    | none => (rt, .error (.internal s!"missing task metadata for failed join: {display}"))
    | some info =>
      ({ rt with taskMap := rt.taskMap.erase id },
        .ok ⟨info.key, info.instanceId, info.generation, if isCancelled then .aborted else .panicked⟩)

def currentChildMatches (rt : SupervisorRuntime) (key : ChildKey) (instanceId generation : Nat) :
    Bool :=
  (rt.children.get key).any fun entry =>
    entry.instanceId == instanceId && entry.runtime.generation == generation

def Joined.taskId : Joined → TaskId
  | .ok id .. | .err id .. => id

def consumeJoinedChild (rt : SupervisorRuntime) (joined : Joined) :
    SupervisorRuntime × Except SupervisorError (Option ClassifiedExit) :=
  match rt.classifyJoin joined with
  | (rt, .error e) => (rt, .error e)
  | (rt, .ok c) =>
    let info : TaskMeta := ⟨c.key, c.instanceId, c.generation⟩
    if rt.currentChildMatches c.key c.instanceId c.generation then
      ({ rt with liveTasks := rt.liveTasks - 1 }.log (.joined (Joined.taskId joined) info true),
        .ok (some c))
    else (rt.log (.joined (Joined.taskId joined) info false), .ok none)

/-- The exit of this entry asks for a restart that the runtime owes. -/
def demandsRestart (rt : SupervisorRuntime) (entry : ChildEntry) (status : ExitStatus) : Bool :=
  rt.state == .running && entry.membership == .active &&
    entry.runtime.spec.restart.shouldRestart status.isFailure

def recordExit (rt : SupervisorRuntime) (key : ChildKey) (generation : Nat) (status : ExitStatus) :
    Except Panic SupervisorRuntime := do
  let entry ← rt.index key
  let rt := rt.log (.exited key entry.instanceId generation status (rt.demandsRestart entry status))
  let rt := if countsAsRunning entry.membership entry.runtime.state then rt.subRunning 1 else rt
  let rt := rt.modifyEntry key fun entry =>
    { entry with
      runtime := { entry.runtime with
        state := .stopped, activeToken := none, abortHandle := none, nextRestartDeadline := none }
      lastExit := some status.view
      nestedSnapshot := none
      nestedSnapshotState := none }
  rt.sendEvent (some entry.instanceId) (.childExited entry.id generation status.view)

/-- `handle_drained_join`. -/
def handleDrainedJoin (rt : SupervisorRuntime) (joined : Joined) (reason : DrainReason) :
    Except Panic (SupervisorRuntime × Except SupervisorError Unit) := do
  match rt.consumeJoinedChild joined with
  | (rt, .error e) => return (rt, .error e)
  | (rt, .ok none) => return (rt, .ok ())
  | (rt, .ok (some classified)) =>
    let rt ← rt.recordExit classified.key classified.generation classified.status
    let entry ← rt.index classified.key
    if reason = .groupRestart ∧ entry.runtime.spec.restart = .temporary then
      let rt ← rt.recordTerminalStatus classified.key classified.generation classified.status
      return (rt, .ok ())
    return (rt, .ok ())

/-! ### Nested snapshots -/

def modifyNestedState (rt : SupervisorRuntime) (i : Nat)
    (f : NestedSnapshotState → NestedSnapshotState) : SupervisorRuntime :=
  { rt with nestedStates := rt.nestedStates.modify i f }

def handleNestedSnapshot (rt : SupervisorRuntime) (n : NestedSnapshotNotification) :
    Except Panic SupervisorRuntime := do
  match rt.children.get n.parentKey with
  | none => return rt
  | some entry =>
    if entry.instanceId ≠ n.parentInstance ∨ entry.runtime.generation ≠ n.generation then
      return rt
    match entry.nestedSnapshotState with
    | none => return rt
    | some i =>
      let rt := rt.modifyNestedState i ({ · with queued := false })
      let latest := (rt.nestedStates[i]?).bind (·.latest)
      (rt.modifyEntry n.parentKey ({ · with nestedSnapshot := latest })).publishSnapshot

/-! ### Removal -/

def childId (rt : SupervisorRuntime) (key : ChildKey) : Option String :=
  (rt.children.get key).map (·.id)

def activeChildCount (rt : SupervisorRuntime) : Nat := rt.childrenById.keys.length

def cancelChild (rt : SupervisorRuntime) (key : ChildKey) : Except Panic SupervisorRuntime := do
  let entry ← rt.index key
  match entry.runtime.activeToken with
  | none => return rt
  | some token =>
    return { rt with tokens := rt.tokens.cancel token }.log (.tokenCancelled entry.instanceId)

def abortChild (rt : SupervisorRuntime) (key : ChildKey) : Except Panic SupervisorRuntime := do
  let entry ← rt.index key
  match entry.runtime.abortHandle with
  | none => return rt
  | some task =>
    return { rt with joinSet := rt.joinSet.abort task }.log (.aborted entry.instanceId)

def finalizeRemovedChild (rt : SupervisorRuntime) (key : ChildKey) :
    Except Panic SupervisorRuntime := do
  if rt.children.contains key then
    let entry ← rt.index key
    let hadLiveTask := entry.runtime.abortHandle.isSome
    let rt := { rt with children := rt.children.remove key }
    let rt := match entry.nestedSnapshotState with
      | some i => rt.modifyNestedState i fun _ => NestedSnapshotState.empty
      | none => rt
    let rt := if hadLiveTask then { rt with liveTasks := rt.liveTasks - 1 } else rt
    let rt := { rt with
      childrenById := rt.childrenById.erase entry.id
      childOrder := rt.childOrder.filter (· != key) }
    let rt := rt.log (.deleted key entry.instanceId)
    rt.sendEvent (some entry.instanceId) (.childRemoved entry.id)
  else return rt

def finalizeRemovedChildIfPresent (rt : SupervisorRuntime) (key : ChildKey) :
    Except Panic SupervisorRuntime :=
  if rt.children.contains key then rt.finalizeRemovedChild key else .ok rt

/-! ### Restart scheduling -/

def scheduleRestart (rt : SupervisorRuntime) (key : ChildKey) :
    Except Panic (SupervisorRuntime × Except SupervisorError Duration) := do
  let entry ← rt.index key
  let tracker := entry.runtime.restartTracker.record rt.now
  if tracker.exceeded then
    let rt := rt.modifyEntry key fun entry =>
      { entry with runtime := { entry.runtime with restartTracker := tracker } }
    let rt ← rt.sendEvent none .restartIntensityExceeded
    return (rt, .error .restartIntensityExceeded)
  else
    let (delay, tracker) := tracker.backoff
    let deadline ← instantAdd rt.now delay
    let rt := rt.modifyEntry key fun entry =>
      { entry with runtime := { entry.runtime with
          restartTracker := tracker, nextRestartDeadline := some deadline } }
    let _ ← rt.index key
    return (rt, .ok delay)

/-! ### Exit of the supervisor -/

def finishWithExit (rt : SupervisorRuntime) (exit : SupervisorExit) :
    Except Panic SupervisorRuntime :=
  { rt with state := .stopped, lastExit := some exit }.sendEvent none .supervisorStopped

def naturalExit (rt : SupervisorRuntime) : SupervisorExit :=
  if (rt.childOrder.filterMap rt.children.get).any fun entry =>
      entry.terminalStatus.any (·.isFailure)
  then .failed else .completed

def finishNaturalExit (rt : SupervisorRuntime) :
    Except Panic (SupervisorRuntime × SupervisorExit) := do
  let exit := rt.naturalExit
  let rt ← rt.finishWithExit exit
  return (rt, exit)

/-! ### Draining -/

/-- The loop of `cancel_running_children` over the keys in reverse order, with its counter. -/
def cancelRunningLoop (rt : SupervisorRuntime) : List ChildKey → SupervisorRuntime × Nat
  | [] => (rt, 0)
  | key :: rest =>
    match rt.children.get key with
    | none => rt.cancelRunningLoop rest
    | some entry =>
      if entry.runtime.state = .running ∨ entry.runtime.state = .starting then
        let rt := rt.modifyEntry key fun entry =>
          { entry with runtime := { entry.runtime with state := .stopping } }
        let (rt, cancelled) := rt.cancelRunningLoop rest
        (rt, cancelled + 1)
      else rt.cancelRunningLoop rest

def cancelRunningChildren (rt : SupervisorRuntime) : SupervisorRuntime :=
  let (rt, cancelled) := rt.cancelRunningLoop rt.childOrder.reverse
  let rt := rt.subRunning cancelled
  { rt with tokens := rt.tokens.cancel rt.groupToken }.log .groupCancelled

/-- `collect_child_names`: the ids in slab order, joined. -/
def collectChildNames (rt : SupervisorRuntime) (predicate : ChildEntry → Bool) : String :=
  ", ".intercalate ((rt.children.iter.filter predicate).map (·.id))

def cooperativeTimeoutNames (rt : SupervisorRuntime) : String :=
  rt.collectChildNames fun child =>
    child.membership != .removed && child.runtime.state.isActive &&
      child.runtime.spec.shutdownPolicy.mode == .cooperative

def activeTaskNames (rt : SupervisorRuntime) : String :=
  rt.collectChildNames fun child => child.membership != .removed && child.runtime.state.isActive

/-- `abort_matching_children`, over the entries in slab order. -/
def abortMatchingChildren (rt : SupervisorRuntime) (predicate : ChildEntry → Bool) :
    SupervisorRuntime :=
  rt.children.iter.foldl (fun rt child =>
    match child.runtime.abortHandle with
    | some task =>
      if child.membership != .removed && child.runtime.state.isActive && predicate child then
        { rt with joinSet := rt.joinSet.abort task }.log (.aborted child.instanceId)
      else rt
    | none => rt) rt

/-- The shared grace of `drain_children`: the longest among the active cooperative children. -/
def maxGrace (rt : SupervisorRuntime) : Option Duration :=
  rt.children.iter.foldl (fun maxGrace child =>
    if child.membership = .removed ∨ !child.runtime.state.isActive then maxGrace
    else match child.runtime.spec.shutdownPolicy.mode with
      | .abort => maxGrace
      | .cooperative | .cooperativeThenAbort =>
        let grace := child.runtime.spec.shutdownPolicy.grace
        some (maxGrace.elim grace fun current => current.max grace)) none

/-! ### Adding children -/

/-- `add_child`. The slab stores the entry at `key`, any vacant key. -/
def addChild (rt : SupervisorRuntime) (key : ChildKey) (child : ChildSpec) :
    Except Panic (SupervisorRuntime × Except ControlError Unit) := do
  if rt.state = .stopping then return (rt, .error .supervisorStopping)
  if child.id.isEmpty then return (rt, .error (.invalidConfig "child id must not be empty"))
  match child.restartIntensity.elim (.ok ()) RestartIntensity.validate with
  | .error err => return (rt, .error (mapBuildErrorToControl child.id err))
  | .ok () =>
    if (rt.childrenById.lookup child.id).isSome then
      return (rt, .error (.duplicateChildId child.id))
    let entry := ChildEntry.new child.id child rt.info.defaultRestartIntensity rt.nextChildInstance
      rt.wallClock
    let rt := { rt with
      children := rt.children.insert key entry
      nextChildInstance := saturatingSucc rt.nextChildInstance
      childrenById := rt.childrenById.insert child.id key
      childOrder := rt.childOrder ++ [key] }
    match ← rt.spawnChild key with
    | (rt, .ok _) => return (rt, .ok ())
    | (rt, .error err) =>
      let rt := { rt with
        childrenById := rt.childrenById.erase child.id
        childOrder := rt.childOrder.filter (· != key)
        children := rt.children.remove key }
      return (rt, .error (mapSupervisorErrorToControl err))

end SupervisorRuntime
end TokioSupervisor
