import TokioSupervisor.Runtime.Outcomes

/-!
# What one step can do

`Rule rt ctrl a rt' ctrl'` lists the steps from a sane configuration, and `step_rule` says that there
are no others. A step that moves control only is a `Move`; the rest work on the state. Properties of
runs are proved by cases on `Rule`.
-/

namespace TokioSupervisor
open Lib SupervisorRuntime

/-- What holds of every reachable configuration and makes the methods total: the state is well
formed, every child has run once the initial spawns are over, and a removal that waits still has its
slot. -/
structure Config.Sane (c : Config) : Prop where
  wf : c.rt.Wf
  started : c.ctrl = .await .runStart .nil ∨ (∃ p, c.ctrl = .panicked p) ∨ c.rt.Started
  removal : ∀ l k, c.ctrl = .await (.removalSelect l) k → ∃ e, c.rt.children.get l.key = some e

/-! ### Where a method is called from -/

/-- The main loop starts over: after `ctrl`, with state `rt'`. -/
inductive AtLoop (rt : SupervisorRuntime) : Ctrl → Act → SupervisorRuntime → Prop
  | command {k : Stack .run} : AtLoop rt (.ret (.push .runCommand k) ()) .resume rt
  | join {k : Stack .run} : AtLoop rt (.ret (.push .runJoin k) (.ok ())) .resume rt
  | seen {k : Stack .run} (hs : rt.shutdownRx.unseen = true) (hv : rt.shutdownRx.value = false) :
      AtLoop rt (.await .runSelect k) (.run .shutdown) rt.seen
  | closed {k : Stack .run} {key : ChildKey} (ho : rt.CommandsOver) :
      AtLoop rt (.await .runSelect k) (.run (.command key)) rt.commandsClosed
  | ignored {k : Stack .run} (x : Aux) (hs : x.snapshots = rt.snapshots) :
      AtLoop rt (.await .runSelect k) (.run .nested) (rt.withAux x)
  | nested {k : Stack .run} {key : ChildKey} {e : ChildEntry} (x : Aux)
      (he : rt.children.get key = some e) (nestedSnapshot : Option SupervisorSnapshot)
      (hs : x.snapshots = ((rt.withAux x).setEntry key { e with nestedSnapshot }).view :: rt.snapshots) :
      AtLoop rt (.await .runSelect k) (.run .nested)
        ((rt.withAux x).setEntry key { e with nestedSnapshot })

/-- A shutdown begins: `k` is the stack of the call of `shutdown_all`. -/
inductive BeginsShutdown : Ctrl → Act → Stack .shutdownAll → Prop
  | run {k : Stack .run} :
      BeginsShutdown (.await .runSelect k) (.run .shutdown) (.push .runShutdown k)
  | removal {l : Removal} {k : Stack .awaitChildRemoval} :
      BeginsShutdown (.await (.removalSelect l) k) (.run .shutdown)
        (.push .queueShutdown (.push .controlShutdown (.push (.removalShutdown l) k)))
  | check {k : Stack .waitForRestartDelay} :
      BeginsShutdown (.await .delayCheck k) (.run .go) (.push .queueShutdown (.push .delayShutdown k))
  | yield {k : Stack .waitForRestartDelay} :
      BeginsShutdown (.await .delayYield k) (.run .go) (.push .queueShutdown (.push .delayShutdown k))
  | delay {deadline : Instant} {k : Stack .waitForRestartDelay} :
      BeginsShutdown (.await (.delaySelect deadline) k) (.run .shutdown)
        (.push .queueShutdown (.push .delayShutdown k))

/-- A command is handled, with the stack `k`. -/
inductive HandlesCommand : Ctrl → Stack .handleCommand → Prop
  | run {k : Stack .run} : HandlesCommand (.await .runSelect k) (.push .runCommand k)
  | zero {k : Stack .waitForRestartDelay} :
      HandlesCommand (.await .delayTryRecv k) (.push .delayZeroCommand k)
  | delay {deadline : Instant} {k : Stack .waitForRestartDelay} :
      HandlesCommand (.await (.delaySelect deadline) k) (.push (.delayCommand deadline) k)

/-- A joined child is handled, with the stack `k`. -/
inductive HandlesJoin : Ctrl → Stack .handleJoinedChild → Prop
  | run {k : Stack .run} : HandlesJoin (.await .runSelect k) (.push .runJoin k)
  | removal {l : Removal} {k : Stack .awaitChildRemoval} :
      HandlesJoin (.await (.removalSelect l) k) (.push .controlJoin (.push (.removalJoin l) k))

/-- `drain_children` goes on without joining a task. -/
inductive DrainGoesOn : Ctrl → Act → (reason : DrainReason) → Stack (.drainChildren reason) → Prop
  | empty {reason : DrainReason} {deadline : Instant} {k : Stack (.drainChildren reason)} :
      DrainGoesOn (.await (.drainSelect reason deadline) k) (.run .joinNone) reason k
  | timer {reason : DrainReason} {deadline : Instant} {k : Stack (.drainChildren reason)} :
      DrainGoesOn (.await (.drainSelect reason deadline) k) (.run .timer) reason k
  | first {reason : DrainReason} {maxGrace : Option Duration} {k : Stack (.drainChildren reason)} :
      DrainGoesOn (.ret (.push (.drainFirst reason maxGrace) k) (.ok ())) .resume reason k
  | second {reason : DrainReason} {timedOut : String} {k : Stack (.drainChildren reason)} :
      DrainGoesOn (.ret (.push (.drainSecond reason timedOut) k) (.ok ())) .resume reason k

/-! ### Moves of control -/

/-- A step that leaves the state as it is. -/
inductive Move (rt : SupervisorRuntime) : Ctrl → Act → Ctrl → Prop
  -- removals
  | removeDetachErr {k : Stack .removeChild} (e : SupervisorError) :
      Move rt (.ret (.push .removeDetach k) (.error e)) .resume
        (.ret k (.error (mapSupervisorErrorToControl e)))
  | removeDetachOk {k : Stack .removeChild} :
      Move rt (.ret (.push .removeDetach k) (.ok ())) .resume (.ret k (.ok ()))
  | removeAwait {k : Stack .removeChild} (v : Except ControlError Unit) :
      Move rt (.ret (.push .removeAwait k) v) .resume (.ret k v)
  | removalShutdownErr {l : Removal} {k : Stack .awaitChildRemoval} (e : ControlError) :
      Move rt (.ret (.push (.removalShutdown l) k) (.error e)) .resume (.ret k (.error e))
  | removalShutdownOk {l : Removal} {k : Stack .awaitChildRemoval} {ctrl : Ctrl}
      (hr : RemovalHead rt l k ctrl) :
      Move rt (.ret (.push (.removalShutdown l) k) (.ok ())) .resume ctrl
  | removalJoinErr {l : Removal} {k : Stack .awaitChildRemoval} (e : ControlError) :
      Move rt (.ret (.push (.removalJoin l) k) (.error e)) .resume (.ret k (.error e))
  | removalJoinOk {l : Removal} {k : Stack .awaitChildRemoval} {ctrl : Ctrl}
      (hr : RemovalHead rt l k ctrl) :
      Move rt (.ret (.push (.removalJoin l) k) (.ok ())) .resume ctrl
  | removalJoinNone {l : Removal} {k : Stack .awaitChildRemoval} (hj : rt.joinSet.isEmpty = true)
      (e : ControlError) :
      Move rt (.await (.removalSelect l) k) (.run .joinNone) (.ret (.push (.removalJoin l) k) (.error e))
  | removalDetachErr {error : Option ControlError} {k : Stack .awaitChildRemoval}
      (e : SupervisorError) :
      Move rt (.ret (.push (.removalDetach error) k) (.error e)) .resume
        (.ret k (.error (mapSupervisorErrorToControl e)))
  | removalDetachOk {error : Option ControlError} {k : Stack .awaitChildRemoval}
      (v : Except ControlError Unit) :
      Move rt (.ret (.push (.removalDetach error) k) (.ok ())) .resume (.ret k v)
  | controlShutdown {k : Stack .handleShutdownDuringControl} :
      Move rt (.ret (.push .controlShutdown k) ()) .resume (.ret k (.error .supervisorStopping))
  | controlJoinErr {k : Stack .handleJoinDuringControl} (e : SupervisorError) :
      Move rt (.ret (.push .controlJoin k) (.error e)) .resume
        (.ret k (.error (mapSupervisorErrorToControl e)))
  | controlJoinPending {k : Stack .handleJoinDuringControl} (hp : rt.pendingExit.isSome = true) :
      Move rt (.ret (.push .controlJoin k) (.ok ())) .resume (.ret k (.error .supervisorStopping))
  | controlJoinOk {k : Stack .handleJoinDuringControl} (hp : rt.pendingExit = none) :
      Move rt (.ret (.push .controlJoin k) (.ok ())) .resume (.ret k (.ok ()))
  | detachYield {key : ChildKey} {reason : DrainReason} {k : Stack .abortAndDetachChild} :
      Move rt (.await (.detachYield key reason) k) (.run .go)
        (.await (.readyJoins reason) (.push (.detachDrain key reason) k))
  | detachErr {key : ChildKey} {reason : DrainReason} {k : Stack .abortAndDetachChild}
      (e : SupervisorError) :
      Move rt (.ret (.push (.detachDrain key reason) k) (.error e)) .resume (.ret k (.error e))
  -- drains
  | readyEmpty {reason : DrainReason} {k : Stack (.drainReadyJoins reason)} :
      Move rt (.await (.readyJoins reason) k) (.run .joinNone) (.ret k (.ok ()))
  | readyTimer {reason : DrainReason} {k : Stack (.drainReadyJoins reason)} :
      Move rt (.await (.readyJoins reason) k) (.run .timer) (.ret k (.ok ()))
  | drainYield {reason : DrainReason} {maxGrace : Option Duration} {k : Stack (.drainChildren reason)} :
      Move rt (.await (.drainYield reason maxGrace) k) (.run .go)
        (.await (.readyJoins reason) (.push (.drainFirst reason maxGrace) k))
  | drainAbortYield {reason : DrainReason} {timedOut : String} {k : Stack (.drainChildren reason)} :
      Move rt (.await (.drainAbortYield reason timedOut) k) (.run .go)
        (.await (.readyJoins reason) (.push (.drainSecond reason timedOut) k))
  | drainFirstErr {reason : DrainReason} {maxGrace : Option Duration}
      {k : Stack (.drainChildren reason)} (e : SupervisorError) :
      Move rt (.ret (.push (.drainFirst reason maxGrace) k) (.error e)) .resume (.ret k (.error e))
  | drainSecondErr {reason : DrainReason} {timedOut : String} {k : Stack (.drainChildren reason)}
      (e : SupervisorError) :
      Move rt (.ret (.push (.drainSecond reason timedOut) k) (.error e)) .resume (.ret k (.error e))
  | shutdownDrainErr {k : Stack .shutdownAll} (e : SupervisorError) :
      Move rt (.ret (.push .shutdownDrain k) (.error e)) .resume (.ret k (.error e))
  | groupDrain {k : Stack .drainForGroupRestart} (v : Except SupervisorError Unit) :
      Move rt (.ret (.push .groupDrain k) v) .resume (.ret k v)
  | drainFailed {reason : DrainReason} {timedOut : String} {k : Stack (.drainChildren reason)}
      (hf : timedOut.isEmpty = false ∨ reason = .groupRestart ∧ rt.activeTaskNames.isEmpty = false)
      (e : SupervisorError) :
      Move rt (.ret (.push (.drainSecond reason timedOut) k) (.ok ())) .resume (.ret k (.error e))
  /-- A shutdown ends although aborted tasks are left. -/
  | drainGivenUp {timedOut : String} {k : Stack (.drainChildren .shutdown)}
      (ht : timedOut.isEmpty = true) (hn : rt.activeTaskNames.isEmpty = false) :
      Move rt (.ret (.push (.drainSecond .shutdown timedOut) k) (.ok ())) .resume (.ret k (.ok ()))
  -- restarts
  | joinedOneForOne {k : Stack .handleJoinedChild} (v : Except SupervisorError Unit) :
      Move rt (.ret (.push .joinedOneForOne k) v) .resume (.ret k v)
  | joinedOneForAll {k : Stack .handleJoinedChild} (v : Except SupervisorError Unit) :
      Move rt (.ret (.push .joinedOneForAll k) v) .resume (.ret k v)
  | oneDelayErr {key : ChildKey} {generation : Nat} {k : Stack .handleOneForOneRestart}
      (e : SupervisorError) :
      Move rt (.ret (.push (.oneForOneDelay key generation) k) (.error e)) .resume (.ret k (.error e))
  | oneDelayFalse {key : ChildKey} {generation : Nat} {k : Stack .handleOneForOneRestart} :
      Move rt (.ret (.push (.oneForOneDelay key generation) k) (.ok false)) .resume (.ret k (.ok ()))
  | oneDelayInactive {key : ChildKey} {generation : Nat} {k : Stack .handleOneForOneRestart}
      {e : ChildEntry} (he : rt.children.get key = some e) (hm : e.membership ≠ .active) :
      Move rt (.ret (.push (.oneForOneDelay key generation) k) (.ok true)) .resume (.ret k (.ok ()))
  | allDelayErr {key : ChildKey} {k : Stack .handleOneForAllRestart} (e : SupervisorError) :
      Move rt (.ret (.push (.oneForAllDelay key) k) (.error e)) .resume (.ret k (.error e))
  | allDelayFalse {key : ChildKey} {k : Stack .handleOneForAllRestart} :
      Move rt (.ret (.push (.oneForAllDelay key) k) (.ok false)) .resume (.ret k (.ok ()))
  | allDrainErr {k : Stack .handleOneForAllRestart} (e : SupervisorError) :
      Move rt (.ret (.push .oneForAllDrain k) (.error e)) .resume (.ret k (.error e))
  | delayShutdown {k : Stack .waitForRestartDelay} :
      Move rt (.ret (.push .delayShutdown k) ()) .resume (.ret k (.ok false))
  | zeroPending {k : Stack .waitForRestartDelay} (hp : rt.pendingExit.isSome = true) :
      Move rt (.ret (.push .delayZeroCommand k) ()) .resume (.ret k (.ok false))
  | zeroLoop {k : Stack .waitForRestartDelay} (hp : rt.pendingExit = none) :
      Move rt (.ret (.push .delayZeroCommand k) ()) .resume (.await .delayTryRecv k)
  | zeroEnd {k : Stack .waitForRestartDelay} (hp : rt.pendingExit = none) :
      Move rt (.ret (.push .delayZeroCommand k) ()) .resume (.ret k (.ok true))
  | delayPending {deadline : Instant} {k : Stack .waitForRestartDelay}
      (hp : rt.pendingExit.isSome = true) :
      Move rt (.ret (.push (.delayCommand deadline) k) ()) .resume (.ret k (.ok false))
  | delayLoop {deadline : Instant} {k : Stack .waitForRestartDelay} (hp : rt.pendingExit = none) :
      Move rt (.ret (.push (.delayCommand deadline) k) ()) .resume (.await (.delaySelect deadline) k)
  | delayCheck {k : Stack .waitForRestartDelay} :
      Move rt (.await .delayCheck k) (.run .go) (.await .delayYield k)
  | delayYield {k : Stack .waitForRestartDelay} :
      Move rt (.await .delayYield k) (.run .go) (.await .delayTryRecv k)
  | delayYieldEnd {k : Stack .waitForRestartDelay} :
      Move rt (.await .delayYield k) (.run .go) (.ret k (.ok true))
  | tryRecvEmpty {key : ChildKey} {k : Stack .waitForRestartDelay} :
      Move rt (.await .delayTryRecv k) (.run (.command key)) (.ret k (.ok true))
  | delayTimer {deadline : Instant} {k : Stack .waitForRestartDelay} :
      Move rt (.await (.delaySelect deadline) k) (.run .timer) (.ret k (.ok true))

/-! ### Steps -/

/-- The steps of the machine. -/
inductive Rule (rt : SupervisorRuntime) : Ctrl → Act → SupervisorRuntime → Ctrl → Prop
  | env {ctrl : Ctrl} {a : Act} {rt' : SupervisorRuntime} (h : envStep rt a = some rt') :
      Rule rt ctrl a rt' ctrl
  | move {ctrl ctrl' : Ctrl} {a : Act} (h : Move rt ctrl a ctrl') : Rule rt ctrl a rt ctrl'
  -- panics
  | overflow {ctrl : Ctrl} {a : Act} : Rule rt ctrl a rt.dropReceiver (.panicked .instantOverflow)
  | vacantOne {key : ChildKey} {generation : Nat} {k : Stack .handleOneForOneRestart}
      (he : rt.children.get key = none) :
      Rule rt (.ret (.push (.oneForOneDelay key generation) k) (.ok true)) .resume rt.dropReceiver
        (.panicked (.vacantSlot key))
  | vacantAll {key : ChildKey} {k : Stack .handleOneForAllRestart}
      (hd : rt.info.debugEnabled = true) (he : rt.children.get key = none) :
      Rule rt (.ret (.push (.oneForAllDelay key) k) (.ok true)) .resume rt.dropReceiver
        (.panicked (.vacantSlot key))
  -- the main loop
  | start {k : Stack .run} {rt' : SupervisorRuntime} {ctrl' : Ctrl}
      (hl : LoopHead ((rt.emitted none .supervisorStarted).spawnedAll rt.childOrder) rt' ctrl') :
      Rule rt (.await .runStart k) (.run .go) rt' ctrl'
  | loop {ctrl ctrl' : Ctrl} {a : Act} {rt₁ rt' : SupervisorRuntime} (hc : AtLoop rt ctrl a rt₁)
      (hl : LoopHead rt₁ rt' ctrl') : Rule rt ctrl a rt' ctrl'
  | natural {k : Stack .run} (hj : rt.joinSet.isEmpty = true) :
      Rule rt (.await .runSelect k) (.run .joinNone) (rt.finishedWith rt.naturalExit).dropReceiver
        (.finished (.ok rt.naturalExit))
  | joinError {k : Stack .run} (e : SupervisorError) :
      Rule rt (.ret (.push .runJoin k) (.error e)) .resume rt.dropReceiver (.finished (.error e))
  | shutdownEnd {k : Stack .run} (v : Except SupervisorError SupervisorExit) :
      Rule rt (.ret (.push .runShutdown k) v) .resume rt.dropReceiver (.finished v)
  | runEnd (v : Except SupervisorError SupervisorExit) :
      Rule rt (.ret .nil v) .resume rt.dropReceiver (.finished v)
  -- shutdown
  | shutdown {ctrl : Ctrl} {a : Act} {k : Stack .shutdownAll} {maxGrace : Option Duration}
      {rt₁ : SupervisorRuntime} (hb : BeginsShutdown ctrl a k) (hrt : rt₁ = rt ∨ rt₁ = rt.seen)
      (hq : rt.shutdownRx.value = true ∨ rt.shutdownRx.closed = true) :
      Rule rt ctrl a rt₁.halted (.await (.drainYield .shutdown maxGrace) (.push .shutdownDrain k))
  | queued {k : Stack .queueShutdownExit} (v : Except SupervisorError SupervisorExit) :
      Rule rt (.ret (.push .queueShutdown k) v) .resume { rt with pendingExit := some v } (.ret k ())
  | shutdownDrained {k : Stack .shutdownAll} :
      Rule rt (.ret (.push .shutdownDrain k) (.ok ())) .resume (rt.finishedWith .shutdown)
        (.ret k (.ok .shutdown))
  -- commands
  | command {ctrl ctrl' : Ctrl} {k : Stack .handleCommand} {key : ChildKey} {cmd : SupervisorCommand}
      {rest : List SupervisorCommand} {rt' : SupervisorRuntime} (hh : HandlesCommand ctrl k)
      (hv : rt.children.vacant key = true) (hq : rt.commandRx.queue = cmd :: rest)
      (ho : CommandOutcome (rt.received rest) key k cmd rt' ctrl') :
      Rule rt ctrl (.run (.command key)) rt' ctrl'
  | replied {k : Stack .handleCommand} {reply : Nat} (v : Except ControlError Unit) :
      Rule rt (.ret (.push (.commandReply reply) k) v) .resume (rt.log (.replied reply v)) (.ret k ())
  -- joins
  | join {ctrl ctrl' : Ctrl} {k : Stack .handleJoinedChild} {t : Task} {outcome : TaskOutcome}
      {rt' : SupervisorRuntime} (hh : HandlesJoin ctrl k) (hf : rt.Finished t outcome)
      (ho : JoinOutcome rt t outcome k rt' ctrl') : Rule rt ctrl (.run (.join t.id)) rt' ctrl'
  | readyJoin {reason : DrainReason} {k : Stack (.drainReadyJoins reason)} {t : Task}
      {outcome : TaskOutcome} {rt' : SupervisorRuntime} (hf : rt.Finished t outcome)
      (hd : DrainedJoin rt t outcome reason rt') :
      Rule rt (.await (.readyJoins reason) k) (.run (.join t.id)) rt' (.await (.readyJoins reason) k)
  | drainJoin {reason : DrainReason} {deadline : Instant} {k : Stack (.drainChildren reason)}
      {t : Task} {outcome : TaskOutcome} {rt₁ rt' : SupervisorRuntime} {ctrl' : Ctrl}
      (hf : rt.Finished t outcome) (hd : DrainedJoin rt t outcome reason rt₁)
      (hn : DrainNext rt₁ reason k rt' ctrl') :
      Rule rt (.await (.drainSelect reason deadline) k) (.run (.join t.id)) rt' ctrl'
  | drainNext {ctrl ctrl' : Ctrl} {a : Act} {reason : DrainReason} {k : Stack (.drainChildren reason)}
      {rt' : SupervisorRuntime} (hd : DrainGoesOn ctrl a reason k)
      (hn : DrainNext rt reason k rt' ctrl') : Rule rt ctrl a rt' ctrl'
  -- restarts
  | respawn {key : ChildKey} {generation : Nat} {k : Stack .handleOneForOneRestart} {e : ChildEntry}
      (he : rt.children.get key = some e) (hm : e.membership = .active) :
      Rule rt (.ret (.push (.oneForOneDelay key generation) k) (.ok true)) .resume
        (rt.restarted key e) (.ret k (.ok ()))
  | groupDrain {key : ChildKey} {k : Stack .handleOneForAllRestart} {maxGrace : Option Duration} :
      Rule rt (.ret (.push (.oneForAllDelay key) k) (.ok true)) .resume
        rt.cancelRunningChildren.swept
        (.await (.drainYield .groupRestart maxGrace) (.push .groupDrain (.push .oneForAllDrain k)))
  | groupRespawn {k : Stack .handleOneForAllRestart} :
      Rule rt (.ret (.push .oneForAllDrain k) (.ok ())) .resume
        (rt.regrouped.respawnedAll rt.childOrder) (.ret k (.ok ()))
  | tryRecvClosed {key : ChildKey} {k : Stack .waitForRestartDelay} (ho : rt.CommandsOver) :
      Rule rt (.await .delayTryRecv k) (.run (.command key)) rt.commandsClosed (.ret k (.ok true))
  | delaySeen {deadline : Instant} {k : Stack .waitForRestartDelay} :
      Rule rt (.await (.delaySelect deadline) k) (.run .shutdown) rt.seen
        (.await (.delaySelect deadline) k)
  | delayClosed {deadline : Instant} {key : ChildKey} {k : Stack .waitForRestartDelay}
      (ho : rt.CommandsOver) :
      Rule rt (.await (.delaySelect deadline) k) (.run (.command key)) rt.commandsClosed
        (.await (.delaySelect deadline) k)
  | delayClosedPending {deadline : Instant} {key : ChildKey} {k : Stack .waitForRestartDelay}
      (ho : rt.CommandsOver) (hp : rt.pendingExit.isSome = true) :
      Rule rt (.await (.delaySelect deadline) k) (.run (.command key)) rt.commandsClosed
        (.ret k (.ok false))
  -- removals
  | removalSeen {l : Removal} {k : Stack .awaitChildRemoval} {ctrl' : Ctrl}
      (hr : RemovalHead rt l k ctrl') :
      Rule rt (.await (.removalSelect l) k) (.run .shutdown) rt.seen ctrl'
  | removalTimer {l : Removal} {k : Stack .awaitChildRemoval} {e : ChildEntry}
      {error : Option ControlError} (he : rt.children.get l.key = some e) :
      Rule rt (.await (.removalSelect l) k) (.run .timer) (rt.abortedChild e)
        (.await (.detachYield l.key .shutdown) (.push (.removalDetach error) k))
  | detachGone {key : ChildKey} {reason : DrainReason} {k : Stack .abortAndDetachChild}
      (he : rt.children.get key = none) :
      Rule rt (.ret (.push (.detachDrain key reason) k) (.ok ())) .resume rt (.ret k (.ok ()))
  | detach {key : ChildKey} {reason : DrainReason} {k : Stack .abortAndDetachChild} {e : ChildEntry}
      (he : rt.children.get key = some e) :
      Rule rt (.ret (.push (.detachDrain key reason) k) (.ok ())) .resume (rt.finalized key e)
        (.ret k (.ok ()))

end TokioSupervisor
