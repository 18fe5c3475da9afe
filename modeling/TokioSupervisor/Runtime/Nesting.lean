import TokioSupervisor.Runtime.Traces

/-!
# The exchange of nested snapshots

In the machine of a run the main loop handles a notification of a nested supervisor in one step, and
the other side of the exchange is left to the environment. Here both sides take their own steps, which
interleave. `forward` runs in the task of the nested supervisor: it replaces the stored snapshot, tries
to set the `queued` flag, and sends the notification, through a task of its own when the channel is
full. `handle_nested_snapshot` receives a notification, clears the flag and reads the stored snapshot.

The forwarder of a task carries the task's metadata, and its `NestedSnapshotState` has the number of
the task: both are made in `spawn_child` (`Numbered.lengths` in the proofs). `forwarded` records what
each task has forwarded, newest first; no step reads it.
-/

namespace TokioSupervisor
open Lib SupervisorRuntime

/-- Where the call of `forward` of a task stands; it has no `.await`. -/
inductive ForwardPhase
  | idle
  /-- The snapshot is stored, and `try_queue` is next. -/
  | replaced
  /-- The flag was set by this call, and `try_send` is next. -/
  | claimed
  /-- `try_send` found the channel closed, and `mark_dequeued` is next. -/
  | refused
deriving DecidableEq, Repr

/-- Where `handle_nested_snapshot` stands. -/
inductive Handling
  | received (n : NestedSnapshotNotification)
  /-- The flag of state `i` is cleared, and the entry at `key` waits for its snapshot. -/
  | dequeued (key : ChildKey) (i : Nat)
deriving DecidableEq, Repr

/-- A run with the steps of the exchange; `deferred` are the spawned sends, with their state. -/
structure Nesting where
  c : Config
  phase : TaskId → ForwardPhase
  forwarded : TaskId → List SupervisorSnapshot
  deferred : List (Nat × NestedSnapshotNotification)
  handling : Option Handling

/-- The notification that the forwarder of a task sends. -/
def TaskMeta.notification (info : TaskMeta) : NestedSnapshotNotification :=
  ⟨info.key, info.instanceId, info.generation⟩

/-- The metadata of a task of the entry `e` at `key` in its present generation. -/
def ChildEntry.incarnation (e : ChildEntry) (key : ChildKey) : TaskMeta :=
  ⟨key, e.instanceId, e.runtime.generation⟩

namespace Nesting

def start (config : SupervisorConfig) (env : StartEnv) : Nesting :=
  ⟨.start config env, fun _ => .idle, fun _ => [], [], none⟩

def setPhase (s : Nesting) (i : TaskId) (phase : ForwardPhase) : Nesting :=
  { s with phase := Function.update s.phase i phase }

def setRt (s : Nesting) (rt : SupervisorRuntime) : Nesting := { s with c := ⟨rt, s.c.ctrl⟩ }

/-- The runtime is gone, and with it the receiver of the notifications. -/
def closed (s : Nesting) : Bool := s.c.ctrl.ended

/-- `try_send`, or the end of a deferred `send`, where the channel has room. -/
def push (s : Nesting) (n : NestedSnapshotNotification) : Nesting :=
  s.setRt { s.c.rt with nestedSnapshotRx :=
    { s.c.rt.nestedSnapshotRx with queue := s.c.rt.nestedSnapshotRx.queue ++ [n] } }

def full (s : Nesting) : Bool :=
  decide (s.c.rt.nestedSnapshotRx.capacity ≤ s.c.rt.nestedSnapshotRx.queue.length)

/-! ### `forward` -/

/-- The unfinished task `i`. -/
def running (s : Nesting) (i : TaskId) : Option Task :=
  (s.c.rt.joinSet.find i).filter (·.outcome.isNone)

/-- `replace`. -/
def replace (s : Nesting) (i : TaskId) (snapshot : SupervisorSnapshot) : Option Nesting :=
  if s.phase i = .idle ∧ (s.running i).isSome then
    some { s.setRt (s.c.rt.modifyNestedState i ({ · with latest := some snapshot })) with
      phase := Function.update s.phase i .replaced
      forwarded := Function.update s.forwarded i (snapshot :: s.forwarded i) }
  else none

/-- `try_queue`. -/
def tryQueue (s : Nesting) (i : TaskId) : Option Nesting :=
  if s.phase i = .replaced then
    if (s.c.rt.nestedStates[i]?).any (·.queued) then some (s.setPhase i .idle)
    else some ((s.setRt (s.c.rt.modifyNestedState i ({ · with queued := true }))).setPhase i .claimed)
  else none

/-- `try_send`; `reserved` says that the places left are promised to deferred sends. -/
def trySend (s : Nesting) (i : TaskId) (reserved : Bool) : Option Nesting :=
  match s.phase i, s.running i with
  | .claimed, some task =>
    if s.closed then some (s.setPhase i .refused)
    else if s.full || reserved && !s.deferred.isEmpty then
      some { s.setPhase i .idle with deferred := s.deferred ++ [(i, task.info.notification)] }
    else some ((s.push task.info.notification).setPhase i .idle)
  | _, _ => none

/-- `mark_dequeued` after the channel was found closed. -/
def markDequeued (s : Nesting) (i : TaskId) : Option Nesting :=
  if s.phase i = .refused then
    some ((s.setRt (s.c.rt.modifyNestedState i ({ · with queued := false }))).setPhase i .idle)
  else none

/-- The `k`-th deferred send ends. -/
def deliver (s : Nesting) (k : Nat) : Option Nesting :=
  match s.deferred[k]? with
  | none => none
  | some (i, n) =>
    let s' := { s with deferred := s.deferred.eraseIdx k }
    if s.closed then some (s'.setRt (s.c.rt.modifyNestedState i ({ · with queued := false })))
    else if s.full then none
    else some (s'.push n)

/-! ### `handle_nested_snapshot` -/

/-- The branch of the main loop's `select!` fires. -/
def receive (s : Nesting) : Option Nesting :=
  match s.c.ctrl, s.handling, s.c.rt.nestedSnapshotRx.queue with
  | .await .runSelect _, none, n :: rest =>
    if !s.c.rt.shutdownRx.ready && !s.c.rt.commandReady then
      some { s.setRt { s.c.rt with nestedSnapshotRx :=
        { s.c.rt.nestedSnapshotRx with queue := rest } } with handling := some (.received n) }
    else none
  | _, _, _ => none

/-- The handler is over, and the main loop starts again. -/
def loop (s : Nesting) (x : Except Panic Config) : Nesting :=
  { s with c := settle s.c.rt x, handling := none }

/-- The entry is looked up, and its flag cleared; a notification of another incarnation is dropped. -/
def dequeue (s : Nesting) : Option Nesting :=
  match s.handling with
  | some (.received n) =>
    match s.c.rt.children.get n.parentKey with
    | none => some (s.loop s.c.rt.runLoop)
    | some entry =>
      if entry.instanceId ≠ n.parentInstance ∨ entry.runtime.generation ≠ n.generation then
        some (s.loop s.c.rt.runLoop)
      else match entry.nestedSnapshotState with
        | none => some (s.loop s.c.rt.runLoop)
        | some i =>
          some { s.setRt (s.c.rt.modifyNestedState i ({ · with queued := false })) with
            handling := some (.dequeued n.parentKey i) }
  | _ => none

/-- The stored snapshot is read into the entry, and published. -/
def read (s : Nesting) : Option Nesting :=
  match s.handling with
  | some (.dequeued key i) =>
    let latest := (s.c.rt.nestedStates[i]?).bind (·.latest)
    some (s.loop do
      let rt ← (s.c.rt.modifyEntry key ({ · with nestedSnapshot := latest })).publishSnapshot
      rt.runLoop)
  | _ => none

/-! ### Steps -/

inductive Act
  /-- A step of the run, or of its environment, that has no part in the exchange. -/
  | base (a : TokioSupervisor.Act)
  | replace (i : TaskId) (snapshot : SupervisorSnapshot)
  | tryQueue (i : TaskId)
  | trySend (i : TaskId) (reserved : Bool)
  | markDequeued (i : TaskId)
  | deliver (k : Nat)
  | receive
  | dequeue
  | read

/-- The runtime does nothing else while it handles a notification, and a task does not end inside
`forward`. -/
def baseEnabled (s : Nesting) : TokioSupervisor.Act → Bool
  | .run _ | .resume => s.handling.isNone
  | .finish i _ => s.phase i == .idle
  | _ => true

/-- The steps of the exchange are split up here. -/
def baseStep (s : Nesting) (a : TokioSupervisor.Act) : Option Nesting :=
  if a.nests || !s.baseEnabled a then none
  else (TokioSupervisor.step s.c a).map fun c => { s with c }

def step (s : Nesting) : Act → Option Nesting
  | .base a => s.baseStep a
  | .replace i snapshot => s.replace i snapshot
  | .tryQueue i => s.tryQueue i
  | .trySend i reserved => s.trySend i reserved
  | .markDequeued i => s.markDequeued i
  | .deliver k => s.deliver k
  | .receive => s.receive
  | .dequeue => s.dequeue
  | .read => s.read

/-- The flag of the state of task `i`. -/
def queued (s : Nesting) (i : TaskId) : Bool := (s.c.rt.nestedStates[i]?).any (·.queued)

/-- The slot of the state of task `i`. -/
def latest (s : Nesting) (i : TaskId) : Option SupervisorSnapshot :=
  (s.c.rt.nestedStates[i]?).bind (·.latest)

/-! ### What a step of the exchange can do -/

/-- The steps of `forward` and of `handle_nested_snapshot`. -/
inductive Exchange (s : Nesting) : Nesting → Prop
  | replaced {i : TaskId} {task : Task} (snapshot : SupervisorSnapshot) (hp : s.phase i = .idle)
      (ht : s.running i = some task) :
      Exchange s { s.setRt (s.c.rt.modifyNestedState i ({ · with latest := some snapshot })) with
        phase := Function.update s.phase i .replaced
        forwarded := Function.update s.forwarded i (snapshot :: s.forwarded i) }
  | queuedBefore {i : TaskId} (hp : s.phase i = .replaced) (hq : s.queued i = true) :
      Exchange s (s.setPhase i .idle)
  | claimed {i : TaskId} (hp : s.phase i = .replaced) :
      Exchange s ((s.setRt (s.c.rt.modifyNestedState i ({ · with queued := true }))).setPhase i .claimed)
  | refused {i : TaskId} (hp : s.phase i = .claimed) (hc : s.c.ctrl.ended = true) :
      Exchange s (s.setPhase i .refused)
  | deferred {i : TaskId} {task : Task} (hp : s.phase i = .claimed) (ht : s.running i = some task) :
      Exchange s { s.setPhase i .idle with deferred := s.deferred ++ [(i, task.info.notification)] }
  | sent {i : TaskId} {task : Task} (hp : s.phase i = .claimed) (ht : s.running i = some task) :
      Exchange s ((s.push task.info.notification).setPhase i .idle)
  | unqueued {i : TaskId} (hp : s.phase i = .refused) :
      Exchange s ((s.setRt (s.c.rt.modifyNestedState i ({ · with queued := false }))).setPhase i .idle)
  | lost {i : TaskId} (k : Nat) (hc : s.c.ctrl.ended = true) :
      Exchange s ({ s with deferred := s.deferred.eraseIdx k }.setRt
        (s.c.rt.modifyNestedState i ({ · with queued := false })))
  | delivered {k : Nat} {i : TaskId} {n : NestedSnapshotNotification} (hk : s.deferred[k]? = some (i, n)) :
      Exchange s ({ s with deferred := s.deferred.eraseIdx k }.push n)
  | received {n : NestedSnapshotNotification} {rest : List NestedSnapshotNotification}
      (hctrl : s.c.ctrl = .await .runSelect .nil) (hnone : s.handling = none)
      (hq : s.c.rt.nestedSnapshotRx.queue = n :: rest) :
      Exchange s { s.setRt { s.c.rt with nestedSnapshotRx :=
        { s.c.rt.nestedSnapshotRx with queue := rest } } with handling := some (.received n) }
  | dropped {n : NestedSnapshotNotification} (hn : s.handling = some (.received n))
      (hno : ∀ e, s.c.rt.children.get n.parentKey = some e →
        (e.incarnation n.parentKey).notification = n → e.nestedSnapshotState = none) :
      Exchange s (s.loop s.c.rt.runLoop)
  | dequeued {n : NestedSnapshotNotification} {e : ChildEntry} {i : TaskId}
      (hn : s.handling = some (.received n)) (he : s.c.rt.children.get n.parentKey = some e)
      (hstate : e.nestedSnapshotState = some i) :
      Exchange s { s.setRt (s.c.rt.modifyNestedState i ({ · with queued := false })) with
        handling := some (.dequeued n.parentKey i) }
  | stored {key : ChildKey} {i : TaskId} (hx : s.handling = some (.dequeued key i)) :
      Exchange s (s.loop do
        let rt ← (s.c.rt.modifyEntry key ({ · with nestedSnapshot := s.latest i })).publishSnapshot
        rt.runLoop)

section
variable {s s' : Nesting} {i : TaskId}

theorem replace_exchange {snapshot : SupervisorSnapshot} (hs : s.replace i snapshot = some s') :
    Exchange s s' := by
  unfold Nesting.replace at hs
  split at hs
  · rename_i hp
    obtain ⟨task, ht⟩ := Option.isSome_iff_exists.1 hp.2
    cases hs
    exact .replaced snapshot hp.1 ht
  · cases hs

theorem tryQueue_exchange (hs : s.tryQueue i = some s') : Exchange s s' := by
  unfold Nesting.tryQueue at hs
  split at hs
  · rename_i hp
    split at hs
    · rename_i hq
      cases hs
      exact .queuedBefore hp hq
    · cases hs
      exact .claimed hp
  · cases hs

theorem trySend_exchange {reserved : Bool} (hs : s.trySend i reserved = some s') : Exchange s s' := by
  unfold Nesting.trySend at hs
  split at hs
  · rename_i task hp ht
    split at hs
    · rename_i hc
      cases hs
      exact .refused hp hc
    · split at hs <;> cases hs
      · exact .deferred hp ht
      · exact .sent hp ht
  · cases hs

theorem markDequeued_exchange (hs : s.markDequeued i = some s') : Exchange s s' := by
  unfold Nesting.markDequeued at hs
  split at hs
  · rename_i hp
    cases hs
    exact .unqueued hp
  · cases hs

theorem deliver_exchange {k : Nat} (hs : s.deliver k = some s') : Exchange s s' := by
  unfold Nesting.deliver at hs
  split at hs
  · cases hs
  · rename_i i n hk
    split at hs
    · rename_i hc
      cases hs
      exact .lost k hc
    · split at hs
      · cases hs
      · cases hs
        exact .delivered hk

theorem receive_exchange (hs : s.receive = some s') : Exchange s s' := by
  unfold Nesting.receive at hs
  split at hs
  · rename_i k n rest hctrl hnone hq
    split at hs
    · cases hs
      cases k with
      | nil => exact .received hctrl hnone hq
      | push f _ => cases f
    · cases hs
  · cases hs

theorem dequeue_exchange (hs : s.dequeue = some s') : Exchange s s' := by
  unfold Nesting.dequeue at hs
  split at hs
  · rename_i n hn
    split at hs
    · rename_i hnone
      cases hs
      exact .dropped hn fun e he => absurd (hnone.symm.trans he) nofun
    · rename_i entry hentry
      split at hs
      · rename_i hother
        cases hs
        refine .dropped hn fun e he heq => ?_
        cases hentry.symm.trans he
        rcases hother with hother | hother
        · exact absurd (congrArg NestedSnapshotNotification.parentInstance heq) hother
        · exact absurd (congrArg NestedSnapshotNotification.generation heq) hother
      · split at hs
        · rename_i hstate
          cases hs
          refine .dropped hn fun e he _ => ?_
          cases hentry.symm.trans he
          exact hstate
        · rename_i i hstate
          cases hs
          exact .dequeued hn hentry hstate
  · cases hs

theorem read_exchange (hs : s.read = some s') : Exchange s s' := by
  unfold Nesting.read at hs
  split at hs
  · rename_i key i hx
    cases hs
    exact .stored hx
  · cases hs

/-- A step of the run, or of the exchange. -/
inductive Stepped (s : Nesting) : Nesting → Prop
  | base {a : TokioSupervisor.Act} {c : Config} (ha : a.nests = false) (hen : s.baseEnabled a = true)
      (hstep : TokioSupervisor.step s.c a = some c) : Stepped s { s with c }
  | exchange {s' : Nesting} (h : Exchange s s') : Stepped s s'

theorem step_stepped {a : Act} (hs : s.step a = some s') : Stepped s s' := by
  cases a with
  | base a =>
    simp only [Nesting.step, Nesting.baseStep, Option.ite_none_left_eq_some, Bool.or_eq_true,
      Bool.not_eq_true', not_or, Bool.not_eq_true, Bool.not_eq_false, Option.map_eq_some_iff] at hs
    obtain ⟨⟨ha, hen⟩, c, hstep, rfl⟩ := hs
    exact .base ha hen hstep
  | replace i snapshot => exact .exchange (replace_exchange hs)
  | tryQueue i => exact .exchange (tryQueue_exchange hs)
  | trySend i reserved => exact .exchange (trySend_exchange hs)
  | markDequeued i => exact .exchange (markDequeued_exchange hs)
  | deliver k => exact .exchange (deliver_exchange hs)
  | receive => exact .exchange (receive_exchange hs)
  | dequeue => exact .exchange (dequeue_exchange hs)
  | read => exact .exchange (read_exchange hs)

end

/-! ### Delivery -/

/-- No notification for the incarnation `info` is on its way or being handled, and no call of `forward`
of its task `i` is in progress. -/
structure Settled (s : Nesting) (i : TaskId) (info : TaskMeta) : Prop where
  phase : s.phase i = .idle
  queue : info.notification ∉ s.c.rt.nestedSnapshotRx.queue
  deferred : (i, info.notification) ∉ s.deferred
  handling : s.handling = none

/-- What the parent knows of its nested supervisors. -/
structure Delivered (s : Nesting) : Prop where
  /-- The last snapshot that the current task of a child has forwarded arrives. -/
  current : ∀ key e i, s.c.ctrl.ended = false → s.c.rt.children.get key = some e →
    e.runtime.abortHandle = some i → s.Settled i (e.incarnation key) →
      e.nestedSnapshot = (s.forwarded i).head?
  /-- A stored snapshot was forwarded by the current task, which was spawned as this instance and
  generation. -/
  own : ∀ key e snapshot, s.c.rt.children.get key = some e → e.nestedSnapshot = some snapshot →
    ∃ i, e.runtime.abortHandle = some i ∧ (e.incarnation key, i) ∈ spawns s.c.rt.trace ∧
      snapshot ∈ s.forwarded i

end Nesting
end TokioSupervisor
