import TokioSupervisor.Runtime.Ops
import TokioSupervisor.Lib.Run

/-!
# The asynchronous methods as a machine

An `async fn` suspends at its `.await`s. A runtime configuration is the state, what the innermost
call is doing, and a stack of the suspended calls below it, one `Frame` per pending `.await` of a
method: it holds the locals that the rest of that method still needs. `Await` lists the points where
the innermost call waits for the outside (a `select!`, a `yield_now`, a timeout) or looks at it.

For each method there is one function that runs it to its first `.await`, and one equation of
`resume` (after a call) or `wake` (after a wait) for each later piece. Between any two pieces the
environment may act (`Act`): request a shutdown, send a command, end a task, let time pass.
-/

namespace TokioSupervisor
open Lib

/-- The `async` methods of the runtime. -/
inductive Fn
  | run
  | shutdownAll
  | queueShutdownExit
  | handleCommand
  | removeChild
  | awaitChildRemoval
  | handleShutdownDuringControl
  | handleJoinDuringControl
  | abortAndDetachChild
  | drainReadyJoins (reason : DrainReason)
  | drainChildren (reason : DrainReason)
  | drainForGroupRestart
  | handleJoinedChild
  | handleOneForOneRestart
  | handleOneForAllRestart
  | waitForRestartDelay

/-- What a method returns. -/
@[reducible] def Fn.Value : Fn → Type
  | run | shutdownAll => Except SupervisorError SupervisorExit
  | queueShutdownExit | handleCommand => Unit
  | removeChild | awaitChildRemoval | handleShutdownDuringControl | handleJoinDuringControl =>
    Except ControlError Unit
  | abortAndDetachChild | drainReadyJoins _ | drainChildren _ | drainForGroupRestart
  | handleJoinedChild | handleOneForOneRestart | handleOneForAllRestart => Except SupervisorError Unit
  | waitForRestartDelay => Except SupervisorError Bool

/-- The locals of `await_child_removal`. `target` is the instance that `remove_child` resolved its id
to; it is recorded for the proofs and never read. -/
structure Removal where
  key : ChildKey
  deadline : Instant
  timeoutIsError : Bool
  childId : String
  target : Nat

/-- Where the innermost call stands; the index is its method. -/
inductive Await : Fn → Type
  /-- Before the first poll. -/
  | runStart : Await .run
  /-- The `select!` of the main loop. -/
  | runSelect : Await .run
  /-- The `select!` of the removal loop. -/
  | removalSelect (l : Removal) : Await .awaitChildRemoval
  /-- `yield_now`. -/
  | detachYield (key : ChildKey) (reason : DrainReason) : Await .abortAndDetachChild
  /-- The zero `timeout` around `join_next_with_id`. -/
  | readyJoins (reason : DrainReason) : Await (.drainReadyJoins reason)
  /-- The first `borrow` of the zero-delay path; not a suspension. -/
  | delayCheck : Await .waitForRestartDelay
  /-- The `yield_now` of the zero-delay path. -/
  | delayYield : Await .waitForRestartDelay
  /-- The `try_recv` of the zero-delay path; not a suspension. -/
  | delayTryRecv : Await .waitForRestartDelay
  /-- The `select!` under the delay. -/
  | delaySelect (deadline : Instant) : Await .waitForRestartDelay
  /-- The `yield_now` after the first aborts. -/
  | drainYield (reason : DrainReason) (maxGrace : Option Duration) : Await (.drainChildren reason)
  /-- The `select!` under the grace deadline. -/
  | drainSelect (reason : DrainReason) (deadline : Instant) : Await (.drainChildren reason)
  /-- The `yield_now` after the last aborts. -/
  | drainAbortYield (reason : DrainReason) (timedOut : String) : Await (.drainChildren reason)

/-- A suspended call: `Frame callee caller` is the rest of `caller` after `callee(..).await`. -/
inductive Frame : Fn → Fn → Type
  | runCommand : Frame .handleCommand .run
  | runJoin : Frame .handleJoinedChild .run
  | runShutdown : Frame .shutdownAll .run
  | commandReply (reply : Nat) : Frame .removeChild .handleCommand
  | removeDetach : Frame .abortAndDetachChild .removeChild
  | removeAwait : Frame .awaitChildRemoval .removeChild
  | removalShutdown (l : Removal) : Frame .handleShutdownDuringControl .awaitChildRemoval
  | removalJoin (l : Removal) : Frame .handleJoinDuringControl .awaitChildRemoval
  | removalDetach (removalError : Option ControlError) : Frame .abortAndDetachChild .awaitChildRemoval
  | controlShutdown : Frame .queueShutdownExit .handleShutdownDuringControl
  | controlJoin : Frame .handleJoinedChild .handleJoinDuringControl
  | queueShutdown : Frame .shutdownAll .queueShutdownExit
  | shutdownDrain : Frame (.drainChildren .shutdown) .shutdownAll
  | groupDrain : Frame (.drainChildren .groupRestart) .drainForGroupRestart
  /-- The first `drain_ready_joins` of `drain_children`. -/
  | drainFirst (reason : DrainReason) (maxGrace : Option Duration) :
      Frame (.drainReadyJoins reason) (.drainChildren reason)
  /-- The second `drain_ready_joins` of `drain_children`. -/
  | drainSecond (reason : DrainReason) (timedOut : String) :
      Frame (.drainReadyJoins reason) (.drainChildren reason)
  | detachDrain (key : ChildKey) (reason : DrainReason) :
      Frame (.drainReadyJoins reason) .abortAndDetachChild
  | joinedOneForOne : Frame .handleOneForOneRestart .handleJoinedChild
  | joinedOneForAll : Frame .handleOneForAllRestart .handleJoinedChild
  | oneForOneDelay (key : ChildKey) (previousGeneration : Nat) :
      Frame .waitForRestartDelay .handleOneForOneRestart
  | oneForAllDelay (failingKey : ChildKey) : Frame .waitForRestartDelay .handleOneForAllRestart
  | oneForAllDrain : Frame .drainForGroupRestart .handleOneForAllRestart
  | delayShutdown : Frame .queueShutdownExit .waitForRestartDelay
  /-- A command of the zero-delay loop. -/
  | delayZeroCommand : Frame .handleCommand .waitForRestartDelay
  /-- A command of the `select!` loop. -/
  | delayCommand (deadline : Instant) : Frame .handleCommand .waitForRestartDelay

/-- The calls suspended below a call of the method in the index, innermost first. The types only
allow a stack in which each frame waits for the method of the frame above it. -/
inductive Stack : Fn → Type
  | nil : Stack .run
  | push {callee caller : Fn} (f : Frame callee caller) (k : Stack caller) : Stack callee

inductive Ctrl
  | await {fn : Fn} (p : Await fn) (k : Stack fn)
  /-- A call of `fn` has returned `v`. -/
  | ret {fn : Fn} (k : Stack fn) (v : fn.Value)
  | finished (result : Except SupervisorError SupervisorExit)
  | panicked (p : Panic)

structure Config where
  rt : SupervisorRuntime
  ctrl : Ctrl

namespace SupervisorRuntime

/-- The innermost call returns `v` to its caller. -/
def ret {fn : Fn} (rt : SupervisorRuntime) (k : Stack fn) (v : fn.Value) : Config := ⟨rt, .ret k v⟩


/-- The runtime is dropped: the command channel closes and the queued callers lose their reply. -/
def dropReceiver (rt : SupervisorRuntime) : SupervisorRuntime :=
  { rt with
    commandRx := { rt.commandRx with queue := [], closed := true }
    trace := rt.commandRx.queue.reverse.map (fun c => Action.unavailable c.reply) ++ rt.trace }

/-- `run` returns. -/
def finishRun (rt : SupervisorRuntime) (result : Except SupervisorError SupervisorExit) : Config :=
  ⟨rt.dropReceiver, .finished result⟩

/-! ### Draining -/

def drainReadyJoins (rt : SupervisorRuntime) (reason : DrainReason)
    (k : Stack (.drainReadyJoins reason)) : Config :=
  ⟨rt, .await (.readyJoins reason) k⟩

/-- `drain_children`, from the second reading of `remaining`. -/
def drainReturn (rt : SupervisorRuntime) (reason : DrainReason) (timedOut : String)
    (k : Stack (.drainChildren reason)) : Config :=
  let remaining := rt.activeTaskNames
  if !timedOut.isEmpty then rt.ret k (.error (.shutdownTimedOut timedOut))
  else if !remaining.isEmpty then
    match reason with
    | .shutdown => rt.ret k (.ok ())
    | .groupRestart => rt.ret k (.error (.shutdownTimedOut remaining))
  else rt.ret k (.ok ())

/-- `drain_children`, past the grace period. -/
def drainAfterGrace (rt : SupervisorRuntime) (reason : DrainReason)
    (k : Stack (.drainChildren reason)) : Config :=
  let timedOut := rt.cooperativeTimeoutNames
  let remaining := rt.activeTaskNames
  if !remaining.isEmpty then
    ⟨rt.abortMatchingChildren fun _ => true, .await (.drainAbortYield reason timedOut) k⟩
  else rt.drainReturn reason timedOut k

/-- `drain_children`, the head of the loop under the grace deadline. -/
def drainLoop (rt : SupervisorRuntime) (reason : DrainReason) (deadline : Instant)
    (k : Stack (.drainChildren reason)) : Config :=
  if rt.liveTasks = 0 then rt.drainAfterGrace reason k
  else ⟨rt, .await (.drainSelect reason deadline) k⟩

def drainChildren (rt : SupervisorRuntime) (reason : DrainReason)
    (k : Stack (.drainChildren reason)) : Config :=
  let rt := { rt with commandRx := { rt.commandRx with closed := true } }
  let maxGrace := rt.maxGrace
  let rt := rt.abortMatchingChildren fun child =>
    child.runtime.spec.shutdownPolicy.mode == .abort
  ⟨rt, .await (.drainYield reason maxGrace) k⟩

def drainForGroupRestart (rt : SupervisorRuntime) (k : Stack .drainForGroupRestart) : Config :=
  rt.cancelRunningChildren.drainChildren .groupRestart (k.push .groupDrain)

def shutdownAll (rt : SupervisorRuntime) (k : Stack .shutdownAll) : Except Panic Config := do
  let rt := { rt with state := .stopping }
  let rt := rt.cancelRunningChildren
  let rt ← rt.sendEvent none .supervisorStopping
  return rt.drainChildren .shutdown (k.push .shutdownDrain)

def queueShutdownExit (rt : SupervisorRuntime) (k : Stack .queueShutdownExit) : Except Panic Config :=
  rt.shutdownAll (k.push .queueShutdown)

/-! ### Restarts -/

def waitForRestartDelay (rt : SupervisorRuntime) (delay : Duration)
    (k : Stack .waitForRestartDelay) : Except Panic Config :=
  if delay.isZero then return ⟨rt, .await .delayCheck k⟩
  else do
    let deadline ← instantAdd rt.now delay
    return ⟨rt, .await (.delaySelect deadline) k⟩

/-- `wait_for_restart_delay`, the head of the zero-delay loop. -/
def delayZeroLoop (rt : SupervisorRuntime) (k : Stack .waitForRestartDelay) : Config :=
  if rt.commandsOpen then ⟨rt, .await .delayTryRecv k⟩ else rt.ret k (.ok true)

def handleOneForOneRestart (rt : SupervisorRuntime) (key : ChildKey) (previousGeneration : Nat)
    (k : Stack .handleOneForOneRestart) : Except Panic Config := do
  match ← rt.scheduleRestart key with
  | (rt, .error e) => return rt.ret k (.error e)
  | (rt, .ok delay) =>
    let entry ← rt.index key
    let rt ← rt.sendEvent (some entry.instanceId)
      (.childRestartScheduled entry.id previousGeneration delay)
    rt.waitForRestartDelay delay (k.push (.oneForOneDelay key previousGeneration))

def handleOneForAllRestart (rt : SupervisorRuntime) (failingKey : ChildKey)
    (k : Stack .handleOneForAllRestart) : Except Panic Config := do
  match ← rt.scheduleRestart failingKey with
  | (rt, .error e) => return rt.ret k (.error e)
  | (rt, .ok delay) =>
    let rt ← rt.sendEvent none (.groupRestartScheduled delay)
    rt.waitForRestartDelay delay (k.push (.oneForAllDelay failingKey))

/-- The respawn loop of `handle_one_for_all_restart`. -/
def respawnLoop (rt : SupervisorRuntime) : List ChildKey →
    Except Panic (SupervisorRuntime × Except SupervisorError Unit)
  | [] => .ok (rt, .ok ())
  | key :: rest => do
    let entry ← rt.index key
    if entry.membership ≠ .active ∨ entry.runtime.spec.restart = .temporary then
      rt.respawnLoop rest
    else
      match ← rt.spawnChild key with
      | (rt, .error e) => return (rt, .error e)
      | (rt, .ok (some oldGeneration, newGeneration)) =>
        let rt ← rt.sendRestartEvent key oldGeneration newGeneration
        rt.respawnLoop rest
      | (rt, .ok (none, _)) => rt.respawnLoop rest

def handleJoinedChild (rt : SupervisorRuntime) (joined : Joined) (k : Stack .handleJoinedChild) :
    Except Panic Config := do
  match rt.consumeJoinedChild joined with
  | (rt, .error e) => return rt.ret k (.error e)
  | (rt, .ok none) => return rt.ret k (.ok ())
  | (rt, .ok (some classified)) =>
    let rt ← rt.recordExit classified.key classified.generation classified.status
    if rt.state = .stopping then return rt.ret k (.ok ())
    let entry ← rt.index classified.key
    if entry.membership = .removing then
      let rt ← rt.finalizeRemovedChild classified.key
      return rt.ret k (.ok ())
    if entry.runtime.spec.restart.shouldRestart classified.status.isFailure then
      match rt.info.strategy with
      | .oneForOne =>
        rt.handleOneForOneRestart classified.key classified.generation (k.push .joinedOneForOne)
      | .oneForAll => rt.handleOneForAllRestart classified.key (k.push .joinedOneForAll)
    else
      let rt ← rt.recordTerminalStatus classified.key classified.generation classified.status
      return rt.ret k (.ok ())

/-! ### Removal -/

def abortAndDetachChild (rt : SupervisorRuntime) (key : ChildKey) (reason : DrainReason)
    (k : Stack .abortAndDetachChild) : Except Panic Config := do
  let rt ← rt.abortChild key
  return ⟨rt, .await (.detachYield key reason) k⟩

/-- `await_child_removal`, the head of its loop. -/
def removalLoop (rt : SupervisorRuntime) (l : Removal) (k : Stack .awaitChildRemoval) : Config :=
  match rt.children.get l.key with
  | none => rt.ret k (.ok ())
  | some entry =>
    if entry.membership = .removed then rt.ret k (.ok ())
    else ⟨rt, .await (.removalSelect l) k⟩

def awaitChildRemoval (rt : SupervisorRuntime) (key : ChildKey) (deadline : Instant)
    (timeoutIsError : Bool) (target : Nat) (k : Stack .awaitChildRemoval) : Config :=
  match rt.childId key with
  | none => rt.ret k (.error (.internal "missing child id while removing child"))
  | some childId => rt.removalLoop ⟨key, deadline, timeoutIsError, childId, target⟩ k

/-- `remove_child`; `reply` is the call being served, for the trace only. -/
def removeChild (rt : SupervisorRuntime) (reply : Nat) (id : String) (k : Stack .removeChild) :
    Except Panic Config := do
  if rt.state = .stopping then return rt.ret k (.error .supervisorStopping)
  match rt.childrenById.lookup id with
  | none => return rt.ret k (.error (.unknownChildId id))
  | some key =>
    let entry ← rt.index key
    if entry.membership = .removing then
      return rt.ret k (.error (.childRemovalInProgress id))
    if rt.activeChildCount ≤ 1 then
      return rt.ret k (.error .lastChildRemovalUnsupported)
    let wasRunning := countsAsRunning entry.membership entry.runtime.state
    let active := entry.runtime.state.isActive
    let rt := rt.modifyEntry key fun entry =>
      { entry with
        membership := .removing
        runtime := { entry.runtime with state := if active then .stopping else entry.runtime.state } }
    let rt := if wasRunning then rt.subRunning 1 else rt
    let rt := rt.log (.removalRequested reply entry.instanceId)
    let rt ← rt.sendEvent (some entry.instanceId) (.childRemoveRequested id)
    if !active then
      let rt ← rt.finalizeRemovedChild key
      return rt.ret k (.ok ())
    let grace := entry.runtime.spec.shutdownPolicy.grace
    match entry.runtime.spec.shutdownPolicy.mode with
    | .abort => rt.abortAndDetachChild key .shutdown (k.push .removeDetach)
    | .cooperative =>
      let rt ← rt.cancelChild key
      let deadline ← instantAdd rt.now grace
      return rt.awaitChildRemoval key deadline true entry.instanceId (k.push .removeAwait)
    | .cooperativeThenAbort =>
      let rt ← rt.cancelChild key
      let deadline ← instantAdd rt.now grace
      return rt.awaitChildRemoval key deadline false entry.instanceId (k.push .removeAwait)

/-- `handle_command`; an added child is stored at the slab key `key`. -/
def handleCommand (rt : SupervisorRuntime) (key : ChildKey) (command : SupervisorCommand)
    (k : Stack .handleCommand) : Except Panic Config := do
  let rt := rt.log (.handled command.reply)
  match command with
  | .addChild child reply =>
    let (rt, result) ← rt.addChild key child
    return (rt.log (.replied reply result)).ret k ()
  | .removeChild id reply => rt.removeChild reply id (k.push (.commandReply reply))

/-! ### The main loop -/

/-- The head of the loop of `run`. -/
def runLoop (rt : SupervisorRuntime) : Except Panic Config :=
  match rt.pendingExit with
  | some result => return { rt with pendingExit := none }.finishRun result
  | none =>
    if rt.liveTasks = 0 ∧ rt.runningChildren = 0 then do
      let (rt, exit) ← rt.finishNaturalExit
      return rt.finishRun (.ok exit)
    else return ⟨rt, .await .runSelect .nil⟩

/-- The first loop of `run`, over the initial children. -/
def spawnInitial (rt : SupervisorRuntime) : List ChildKey →
    Except Panic (SupervisorRuntime × Except SupervisorError Unit)
  | [] => .ok (rt, .ok ())
  | key :: rest => do
    match ← rt.spawnChild key with
    | (rt, .error e) => return (rt, .error e)
    | (rt, .ok _) => rt.spawnInitial rest

def runStart (rt : SupervisorRuntime) : Except Panic Config := do
  let rt ← rt.sendEvent none .supervisorStarted
  match ← rt.spawnInitial rt.childOrder with
  | (rt, .error e) => return rt.finishRun (.error e)
  | (rt, .ok ()) => rt.runLoop

/-! ### What a wait observes -/

/-- `shutdown_rx.changed()` when ready, then `shutdown_requested` on its result. -/
def shutdownChanged (rt : SupervisorRuntime) : SupervisorRuntime × Bool :=
  if rt.shutdownRx.unseen then
    ({ rt with shutdownRx := { rt.shutdownRx with unseen := false } }, rt.shutdownRx.value)
  else (rt, true)

/-- `command_rx.recv()` when ready. -/
def recvCommand (rt : SupervisorRuntime) : SupervisorRuntime × Option SupervisorCommand :=
  match rt.commandRx.queue with
  | [] => (rt, none)
  | command :: rest => ({ rt with commandRx := { rt.commandRx with queue := rest } }, some command)

def commandReady (rt : SupervisorRuntime) : Bool := rt.commandsOpen && rt.commandRx.ready

/-- Neither a finished task to join nor an empty join set. -/
def joinPending (rt : SupervisorRuntime) : Bool := !rt.joinSet.anyFinished && !rt.joinSet.isEmpty

/-- `join_next_with_id` returning task `id`. -/
def joinTask (rt : SupervisorRuntime) (id : TaskId) : Option (SupervisorRuntime × Joined) :=
  (rt.joinSet.joinNext id).map fun (joined, joinSet) => ({ rt with joinSet }, joined)

end SupervisorRuntime

/-! ### After a call -/

/-- The rest of the suspended method `f`, once its callee has returned. -/
def resume {callee caller : Fn} (f : Frame callee caller) (v : callee.Value)
    (rt : SupervisorRuntime) (k : Stack caller) : Except Panic Config :=
  match f, v with
  | .runCommand, () => rt.runLoop
  | .runJoin, .error e => return rt.finishRun (.error e)
  | .runJoin, .ok () => rt.runLoop
  | .runShutdown, v => return rt.finishRun v
  | .commandReply reply, v => return (rt.log (.replied reply v)).ret k ()
  | .removeDetach, .error e => return rt.ret k (.error (mapSupervisorErrorToControl e))
  | .removeDetach, .ok () => return rt.ret k (.ok ())
  | .removeAwait, v => return rt.ret k v
  | .removalShutdown _, .error e => return rt.ret k (.error e)
  | .removalShutdown l, .ok () => return rt.removalLoop l k
  | .removalJoin _, .error e => return rt.ret k (.error e)
  | .removalJoin l, .ok () => return rt.removalLoop l k
  | .removalDetach _, .error e => return rt.ret k (.error (mapSupervisorErrorToControl e))
  | .removalDetach (some e), .ok () => return rt.ret k (.error e)
  | .removalDetach none, .ok () => return rt.ret k (.ok ())
  | .controlShutdown, () => return rt.ret k (.error .supervisorStopping)
  | .controlJoin, .error e => return rt.ret k (.error (mapSupervisorErrorToControl e))
  | .controlJoin, .ok () =>
    if rt.pendingExit.isSome then return rt.ret k (.error .supervisorStopping)
    else return rt.ret k (.ok ())
  | .queueShutdown, v => return { rt with pendingExit := some v }.ret k ()
  | .shutdownDrain, .error e => return rt.ret k (.error e)
  | .shutdownDrain, .ok () => do
    let rt ← rt.finishWithExit .shutdown
    return rt.ret k (.ok .shutdown)
  | .groupDrain, v => return rt.ret k v
  | .drainFirst _ _, .error e => return rt.ret k (.error e)
  | .drainFirst reason maxGrace, .ok () =>
    if rt.liveTasks = 0 then return rt.ret k (.ok ())
    else match maxGrace with
      | some grace => do
        let deadline ← instantAdd rt.now grace
        return rt.drainLoop reason deadline k
      | none => return rt.drainAfterGrace reason k
  | .drainSecond _ _, .error e => return rt.ret k (.error e)
  | .drainSecond reason timedOut, .ok () => return rt.drainReturn reason timedOut k
  | .detachDrain _ _, .error e => return rt.ret k (.error e)
  | .detachDrain key _, .ok () => do
    let rt ← rt.finalizeRemovedChildIfPresent key
    return rt.ret k (.ok ())
  | .joinedOneForOne, v => return rt.ret k v
  | .joinedOneForAll, v => return rt.ret k v
  | .oneForOneDelay _ _, .error e => return rt.ret k (.error e)
  | .oneForOneDelay _ _, .ok false => return rt.ret k (.ok ())
  | .oneForOneDelay key previousGeneration, .ok true => do
    let entry ← rt.index key
    if entry.membership ≠ .active then return rt.ret k (.ok ())
    match ← rt.spawnChild key with
    | (rt, .error e) => return rt.ret k (.error e)
    | (rt, .ok (oldGeneration, newGeneration)) =>
      let rt ← rt.sendRestartEvent key (oldGeneration.getD previousGeneration) newGeneration
      return rt.ret k (.ok ())
  | .oneForAllDelay _, .error e => return rt.ret k (.error e)
  | .oneForAllDelay _, .ok false => return rt.ret k (.ok ())
  | .oneForAllDelay failingKey, .ok true => do
    -- the argument of `debug!` is evaluated only when the event is enabled
    if rt.info.debugEnabled then let _ ← rt.index failingKey
    return rt.drainForGroupRestart (k.push .oneForAllDrain)
  | .oneForAllDrain, .error e => return rt.ret k (.error e)
  | .oneForAllDrain, .ok () => do
    let (groupToken, tokens) := rt.tokens.fresh
    let rt := { rt with groupToken, tokens }
    let (rt, result) ← rt.respawnLoop rt.childOrder
    return rt.ret k result
  | .delayShutdown, () => return rt.ret k (.ok false)
  | .delayZeroCommand, () =>
    if rt.pendingExit.isSome then return rt.ret k (.ok false) else return rt.delayZeroLoop k
  | .delayCommand deadline, () =>
    if rt.pendingExit.isSome then return rt.ret k (.ok false)
    else return ⟨rt, .await (.delaySelect deadline) k⟩

/-! ### After a wait -/

/-- The branch of a wait that fires. A `command` also carries the slab key that an added child would
be stored at: the slab takes the one that was freed last, the model allows any vacant one. `go` is the only
branch of a `yield_now` and of a look at a channel. -/
inductive Wake
  | shutdown
  | command (key : ChildKey)
  | nested
  | join (task : TaskId)
  | joinNone
  | timer
  | go

open SupervisorRuntime in
/-- The rest of the innermost method, once branch `w` of its wait fires; `none` where it cannot: a
branch of a `biased` select fires only when it is ready and no earlier one is. -/
def wake {fn : Fn} (p : Await fn) (w : Wake) (rt : SupervisorRuntime) (k : Stack fn) :
    Option (Except Panic Config) :=
  match p, w with
  | .runStart, .go => some rt.runStart
  | .runSelect, .shutdown =>
    if rt.shutdownRx.ready then
      match rt.shutdownChanged with
      | (rt, true) => some (rt.shutdownAll (k.push .runShutdown))
      | (rt, false) => some rt.runLoop
    else none
  | .runSelect, .command key =>
    if !rt.shutdownRx.ready && rt.commandReady && rt.children.vacant key then
      match rt.recvCommand with
      | (rt, some command) => some (rt.handleCommand key command (k.push .runCommand))
      | (rt, none) => some { rt with commandsOpen := false }.runLoop
    else none
  | .runSelect, .nested =>
    if !rt.shutdownRx.ready && !rt.commandReady then
      match rt.nestedSnapshotRx.queue with
      | [] => none
      | n :: rest => some do
        let rt := { rt with nestedSnapshotRx := { rt.nestedSnapshotRx with queue := rest } }
        let rt ← rt.handleNestedSnapshot n
        rt.runLoop
    else none
  | .runSelect, .join id =>
    if !rt.shutdownRx.ready && !rt.commandReady && rt.nestedSnapshotRx.queue.isEmpty then
      (rt.joinTask id).map fun (rt, joined) => rt.handleJoinedChild joined (k.push .runJoin)
    else none
  | .runSelect, .joinNone =>
    if !rt.shutdownRx.ready && !rt.commandReady && rt.nestedSnapshotRx.queue.isEmpty &&
        rt.joinSet.isEmpty then
      some do
        let (rt, exit) ← rt.finishNaturalExit
        return rt.finishRun (.ok exit)
    else none
  | .removalSelect l, .shutdown =>
    if rt.shutdownRx.ready then
      match rt.shutdownChanged with
      | (rt, true) =>
        some (rt.queueShutdownExit ((k.push (.removalShutdown l)).push .controlShutdown))
      | (rt, false) => some (.ok (rt.removalLoop l k))
    else none
  | .removalSelect l, .join id =>
    if !rt.shutdownRx.ready then
      (rt.joinTask id).map fun (rt, joined) =>
        rt.handleJoinedChild joined ((k.push (.removalJoin l)).push .controlJoin)
    else none
  | .removalSelect l, .joinNone =>
    if !rt.shutdownRx.ready && rt.joinSet.isEmpty then
      some (.ok (rt.ret (k.push (.removalJoin l)) (.error (.internal
        "supervisor join set drained before child removal completed"))))
    else none
  | .removalSelect l, .timer =>
    if !rt.shutdownRx.ready && rt.joinPending && decide (l.deadline ≤ rt.now) then
      let removalError := if l.timeoutIsError then some (.shutdownTimedOut l.childId) else none
      some (rt.abortAndDetachChild l.key .shutdown (k.push (.removalDetach removalError)))
    else none
  | .detachYield key reason, .go => some (.ok (rt.drainReadyJoins reason (k.push (.detachDrain key reason))))
  | .readyJoins reason, .join id =>
    (rt.joinTask id).map fun (rt, joined) => do
      match ← rt.handleDrainedJoin joined reason with
      | (rt, .error e) => return rt.ret k (.error e)
      | (rt, .ok ()) => return rt.drainReadyJoins reason k
  | .readyJoins _, .joinNone => if rt.joinSet.isEmpty then some (.ok (rt.ret k (.ok ()))) else none
  | .readyJoins _, .timer => if rt.joinPending then some (.ok (rt.ret k (.ok ()))) else none
  | .delayCheck, .go =>
    if rt.shutdownRx.value then some (rt.queueShutdownExit (k.push .delayShutdown))
    else some (.ok ⟨rt, .await .delayYield k⟩)
  | .delayYield, .go =>
    if rt.shutdownRx.value then some (rt.queueShutdownExit (k.push .delayShutdown))
    else some (.ok (rt.delayZeroLoop k))
  | .delayTryRecv, .command key =>
    if rt.children.vacant key then
      match rt.recvCommand with
      | (rt, some command) => some (rt.handleCommand key command (k.push .delayZeroCommand))
      | (rt, none) =>
        if rt.commandRx.closed || !rt.commandRx.senders then
          some (.ok ({ rt with commandsOpen := false }.ret k (.ok true)))
        else some (.ok (rt.ret k (.ok true)))
    else none
  | .delaySelect deadline, .shutdown =>
    if rt.shutdownRx.ready then
      match rt.shutdownChanged with
      | (rt, true) => some (rt.queueShutdownExit (k.push .delayShutdown))
      | (rt, false) => some (.ok ⟨rt, .await (.delaySelect deadline) k⟩)
    else none
  | .delaySelect deadline, .command key =>
    if !rt.shutdownRx.ready && rt.commandReady && rt.children.vacant key then
      match rt.recvCommand with
      | (rt, some command) => some (rt.handleCommand key command (k.push (.delayCommand deadline)))
      | (rt, none) =>
        let rt := { rt with commandsOpen := false }
        if rt.pendingExit.isSome then some (.ok (rt.ret k (.ok false)))
        else some (.ok ⟨rt, .await (.delaySelect deadline) k⟩)
    else none
  | .delaySelect deadline, .timer =>
    if !rt.shutdownRx.ready && !rt.commandReady && decide (deadline ≤ rt.now) then
      some (.ok (rt.ret k (.ok true)))
    else none
  | .drainYield reason maxGrace, .go =>
    some (.ok (rt.drainReadyJoins reason (k.push (.drainFirst reason maxGrace))))
  | .drainSelect reason deadline, .join id =>
    (rt.joinTask id).map fun (rt, joined) => do
      match ← rt.handleDrainedJoin joined reason with
      | (rt, .error e) => return rt.ret k (.error e)
      | (rt, .ok ()) => return rt.drainLoop reason deadline k
  | .drainSelect reason _, .joinNone =>
    if rt.joinSet.isEmpty then some (.ok (rt.drainAfterGrace reason k)) else none
  | .drainSelect reason deadline, .timer =>
    if deadline ≤ rt.now then some (.ok (rt.drainAfterGrace reason k)) else none
  | .drainAbortYield reason timedOut, .go =>
    some (.ok (rt.drainReadyJoins reason (k.push (.drainSecond reason timedOut))))
  | _, _ => none

/-! ### Steps -/

/-- One step: of the environment, or of the runtime (`run`; `resume` when a call has returned). -/
inductive Act
  | tick (nanos : Nat) (wallClock : Nat)
  | requestShutdown
  | dropShutdownSenders
  | dropCommandSenders
  | send (command : SupervisorCommand)
  | finish (task : TaskId) (outcome : TaskOutcome)
  | storeSnapshot (i : Nat) (snapshot : SupervisorSnapshot)
  | queueSnapshot (i : Nat) (queued : Bool)
  | notify (n : NestedSnapshotNotification)
  | run (w : Wake)
  | resume

/-- The environment's steps. A command sent to a closed channel is answered `Unavailable`; one sent
to a full channel waits, which is no step. -/
def envStep (rt : SupervisorRuntime) : Act → Option SupervisorRuntime
  | .tick nanos wallClock =>
    if rt.now + nanos ≤ Instant.MAX then some { rt with now := rt.now + nanos, wallClock } else none
  | .requestShutdown =>
    if rt.shutdownRx.closed then none
    else some { rt with shutdownRx := { rt.shutdownRx with value := true, unseen := true } }
  | .dropShutdownSenders => some { rt with shutdownRx := { rt.shutdownRx with closed := true } }
  | .dropCommandSenders => some { rt with commandRx := { rt.commandRx with senders := false } }
  | .send command =>
    if !rt.commandRx.senders then none
    else if rt.commandRx.closed then some (rt.log (.unavailable command.reply))
    else if rt.commandRx.queue.length < rt.commandRx.capacity then
      some { rt with commandRx := { rt.commandRx with queue := rt.commandRx.queue ++ [command] } }
    else none
  | .finish task outcome =>
    (rt.joinSet.finish task outcome).map fun joinSet => { rt with joinSet }
  | .storeSnapshot i snapshot => some (rt.modifyNestedState i ({ · with latest := some snapshot }))
  | .queueSnapshot i queued => some (rt.modifyNestedState i ({ · with queued }))
  | .notify n =>
    if rt.nestedSnapshotRx.queue.length < rt.nestedSnapshotRx.capacity then
      some { rt with nestedSnapshotRx :=
        { rt.nestedSnapshotRx with queue := rt.nestedSnapshotRx.queue ++ [n] } }
    else none
  | .run _ | .resume => none

/-- A panic ends the supervisor task. What the same step had published before it is not kept. -/
def settle (rt : SupervisorRuntime) : Except Panic Config → Config
  | .ok c => c
  | .error p => ⟨rt.dropReceiver, .panicked p⟩

def step (c : Config) : Act → Option Config
  | .run w =>
    match c.ctrl with
    | .await p k => (wake p w c.rt k).map (settle c.rt)
    | _ => none
  | .resume =>
    match c.ctrl with
    | .ret (.push f k) v => some (settle c.rt (resume f v c.rt k))
    | .ret .nil v => some (c.rt.finishRun v)
    | _ => none
  | act => (envStep c.rt act).map fun rt => ⟨rt, c.ctrl⟩

/-! ### The start of a run -/

/-- The loop of `SupervisorRuntime::new` over the configured children. -/
def SupervisorRuntime.insertInitial (rt : SupervisorRuntime) : List ChildSpec → SupervisorRuntime
  | [] => rt
  | spec :: rest =>
    let key := rt.children.slots.length
    insertInitial { rt with
      children := rt.children.insert key
        (.new spec.id spec rt.info.defaultRestartIntensity rt.nextChildInstance rt.wallClock)
      nextChildInstance := saturatingSucc rt.nextChildInstance
      childrenById := rt.childrenById.insert spec.id key
      childOrder := rt.childOrder ++ [key] } rest

/-- What is outside the configuration when the supervisor is spawned. -/
structure StartEnv where
  debugEnabled : Bool
  now : Instant
  wallClock : Nat

/-- `SupervisorRuntime::new` over fresh channels. -/
def SupervisorRuntime.new (config : SupervisorConfig) (env : StartEnv) : SupervisorRuntime :=
  insertInitial
    { info := ⟨config.strategy, config.restartIntensity, env.debugEnabled⟩
      state := .running
      groupToken := ⟨0, none⟩
      joinSet := .empty
      children := .empty
      childrenById := ∅
      childOrder := []
      runningChildren := 0
      liveTasks := 0
      nextChildInstance := 0
      shutdownRx := ⟨false, false, false⟩
      commandRx := ⟨[], config.controlChannelCapacity, false, true⟩
      nestedSnapshotRx :=
        ⟨[], Nat.max config.controlChannelCapacity config.eventChannelCapacity⟩
      commandsOpen := true
      taskMap := ∅
      pendingExit := none
      lastExit := none
      now := env.now
      wallClock := env.wallClock
      tokens := ⟨1, []⟩
      nestedStates := []
      snapshots := [initialSnapshot config]
      trace := [] } config.children

/-- A spawned supervisor before the first poll of its task. -/
def Config.start (config : SupervisorConfig) (env : StartEnv) : Config :=
  ⟨.new config env, .await .runStart .nil⟩

end TokioSupervisor
