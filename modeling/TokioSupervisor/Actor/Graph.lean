import TokioSupervisor.Runtime.State
import TokioSupervisor.Lib.Run

/-!
# `Graph::run_until`

The clones of a graph share one `GraphInner`: its state, and for each actor the binding that holds
the mailbox of the run that bound it last. The calls of `run_until` are futures over it, numbered
here. A run binds a fresh mailbox for each actor and spawns one task for each; the task owns the
`MailboxBindingGuard`, and whenever its future goes (the body has ended, or the task was aborted and
is dropped at last) the guard clears the binding.

`writes` records what each guard has overwritten and `number` in which order the runs started; no
transition reads them. The lookups by actor id that a validated graph cannot fail are left out, and so
are spans and counters.
-/

namespace TokioSupervisor
open Lib

/-- `GRAPH_STATE_IDLE`, `GRAPH_STATE_RUNNING`, `GRAPH_STATE_DECOMPOSED`. -/
inductive GraphState
  | idle
  | running
  | decomposed
deriving DecidableEq, Repr

/-- Errors returned while running a graph. -/
inductive GraphError
  | alreadyRunning
  | invalidState (detail : String)
  | actorStopped (actorId : String)
  | actorFailed (actorId source : String)
  | actorPanicked (actorId : String)
  | actorCancelled (actorId : String)
deriving DecidableEq, Repr

/-- The actors of a built graph. -/
structure GraphActors where
  ids : List String
  nodup : ids.Nodup

/-- An actor task; its guard is alive until the body has ended. -/
structure GraphTask where
  abortRequested : Bool
  outcome : Option TaskOutcome

inductive GraphEnd
  | returned (result : Except GraphError Unit)
  | dropped

/-- Where a call of `run_until` stands. -/
inductive GraphPhase
  /-- Not polled yet. -/
  | created
  /-- `bind_mailboxes`, before the actors in the argument. -/
  | binding (rest : List String)
  /-- `spawn_actors`, before the actors in the argument. -/
  | spawning (rest : List String)
  /-- At the `select!`. -/
  | selecting
  /-- Inside the `select!`, after its first branch was pending. -/
  | joinPending
  /-- `runtime` is dropped, `_active_run` is next. -/
  | releasing (how : GraphEnd)
  | gone (how : GraphEnd)

/-- The call holds the `ActiveRun` guard. -/
def GraphPhase.holdsRun : GraphPhase → Bool
  | .created | .gone _ => false
  | _ => true

/-- `shutdownToken` says whether `GraphRuntime::shutdown` is cancelled, `joinSet` whose tasks are not
joined yet. -/
structure GraphRun where
  phase : GraphPhase
  shutdownRequested : Bool
  shutdownToken : Bool
  failure : Option GraphError
  joinSet : List String
  number : Nat

/-- `bindings` holds for each actor the run whose mailbox is bound, `guards` the runs whose
`MailboxBindingGuard` for it is alive. -/
structure Graph where
  actors : GraphActors
  state : GraphState
  bindings : String → Option Nat
  guards : String → List Nat
  runs : Nat → GraphRun
  tasks : Nat → String → Option GraphTask
  started : Nat
  writes : List (Nat × String × Option Nat)

/-- `classify_join` and `classify_actor_exit`: the error of a joined task. -/
def TaskOutcome.graphError (actorId : String) (shutdownRequested : Bool) :
    TaskOutcome → Option GraphError
  | .returned (.ok ()) => if shutdownRequested then none else some (.actorStopped actorId)
  | .returned (.error source) => some (.actorFailed actorId source)
  | .panicked _ => some (.actorPanicked actorId)
  | .cancelled => some (.actorCancelled actorId)

/-- The first branch of the `select!`: a joined task cancels the token, unless it ended well after the
external shutdown. -/
def GraphRun.processJoin (r : GraphRun) (actorId : String) (outcome : TaskOutcome) : GraphRun :=
  let quiet := match outcome with
    | .returned (.ok ()) => r.shutdownRequested
    | _ => false
  { r with
    joinSet := r.joinSet.erase actorId
    shutdownToken := r.shutdownToken || !quiet
    failure := r.failure <|> outcome.graphError actorId r.shutdownRequested }

/-- The head of the loop of `GraphRuntime::run`. -/
def GraphRun.loop (r : GraphRun) : GraphRun :=
  { r with phase :=
      if r.joinSet.isEmpty then
        .releasing (.returned (match r.failure with | some error => .error error | none => .ok ()))
      else .selecting }

namespace Graph

def new (actors : GraphActors) : Graph where
  actors := actors
  state := .idle
  bindings := fun _ => none
  guards := fun _ => []
  runs := fun _ => ⟨.created, false, false, none, [], 0⟩
  tasks := fun _ _ => none
  started := 0
  writes := []

def setRun (s : Graph) (i : Nat) (r : GraphRun) : Graph := { s with runs := Function.update s.runs i r }

def setPhase (s : Graph) (i : Nat) (phase : GraphPhase) : Graph :=
  s.setRun i { s.runs i with phase }

def setTask (s : Graph) (i : Nat) (a : String) (task : GraphTask) : Graph :=
  { s with tasks := Function.update s.tasks i (Function.update (s.tasks i) a (some task)) }

/-- The task of actor `a` of run `i` has not ended. -/
def live (s : Graph) (i : Nat) (a : String) : Bool := (s.tasks i a).any (·.outcome.isNone)

def outcome (s : Graph) (i : Nat) (a : String) : Option TaskOutcome :=
  (s.tasks i a).bind (·.outcome)

/-- `GraphInner::mark_decomposed`. -/
def markDecomposed (s : Graph) : Graph × Except GraphError Unit :=
  match s.state with
  | .idle => ({ s with state := .decomposed }, .ok ())
  | .running => (s, .error .alreadyRunning)
  | .decomposed =>
    (s, .error (.invalidState "graph has already been decomposed into an actor set"))

/-- `ActiveRun::start`. -/
def start (s : Graph) (i : Nat) : Graph :=
  match s.state with
  | .idle =>
    { s with state := .running, started := s.started + 1 }.setRun i
      { s.runs i with phase := .binding s.actors.ids, number := s.started }
  | .running => s.setPhase i (.gone (.returned (.error .alreadyRunning)))
  | .decomposed =>
    s.setPhase i (.gone (.returned (.error
      (.invalidState "graph has already been decomposed into an actor set"))))

/-- `MailboxBindingGuard::bind`. -/
def bind (s : Graph) (i : Nat) (a : String) : Graph :=
  { s with
    bindings := Function.update s.bindings a (some i)
    guards := Function.update s.guards a (i :: s.guards a)
    writes := (i, a, s.bindings a) :: s.writes }

/-- `MailboxBindingGuard::drop`. -/
def clear (s : Graph) (i : Nat) (a : String) : Graph :=
  { s with
    bindings := Function.update s.bindings a none
    guards := Function.update s.guards a ((s.guards a).erase i)
    writes := (i, a, s.bindings a) :: s.writes }

/-- One turn of the loop of `spawn_actors`. -/
def spawn (s : Graph) (i : Nat) (a : String) (rest : List String) : Graph :=
  (s.setTask i a ⟨false, none⟩).setRun i
    { s.runs i with phase := .spawning rest, joinSet := (s.runs i).joinSet ++ [a] }

/-- The next piece of call `i`; a join is a step of its own, which says whose task it is. -/
def runCall (s : Graph) (i : Nat) : Option Graph :=
  match (s.runs i).phase with
  | .created => some (s.start i)
  | .binding [] => some (s.setPhase i (.spawning s.actors.ids))
  | .binding (a :: rest) => some ((s.bind i a).setPhase i (.binding rest))
  | .spawning [] => some (s.setRun i (s.runs i).loop)
  | .spawning (a :: rest) => some (s.spawn i a rest)
  | .selecting =>
    if (s.runs i).joinSet.any fun a => (s.outcome i a).isSome then none
    else some (s.setPhase i .joinPending)
  | .joinPending => some (s.setPhase i .selecting)
  | .releasing how => some ({ s with state := .idle }.setPhase i (.gone how))
  | .gone _ => none

/-- `join_next_with_id` of call `i` returns the task of actor `a`. -/
def joinTask (s : Graph) (i : Nat) (a : String) : Option Graph :=
  match (s.runs i).phase, s.outcome i a with
  | .selecting, some outcome =>
    if a ∈ (s.runs i).joinSet then some (s.setRun i ((s.runs i).processJoin a outcome).loop) else none
  | _, _ => none

/-- The second branch of the `select!`. -/
def shutdownCall (s : Graph) (i : Nat) : Option Graph :=
  match (s.runs i).phase with
  | .joinPending =>
    if (s.runs i).shutdownRequested then none
    else some (s.setRun i
      { s.runs i with phase := .selecting, shutdownRequested := true, shutdownToken := true })
  | _ => none

/-- `JoinSet::drop`. -/
def abortAll (s : Graph) (i : Nat) : Graph :=
  { s with tasks := Function.update s.tasks i fun a =>
      if a ∈ (s.runs i).joinSet then (s.tasks i a).map ({ · with abortRequested := true })
      else s.tasks i a }

/-- The future of call `i` is dropped where it awaits. -/
def dropCall (s : Graph) (i : Nat) : Option Graph :=
  match (s.runs i).phase with
  | .created => some (s.setPhase i (.gone .dropped))
  | .selecting => some ((s.abortAll i).setRun i
      { s.runs i with phase := .releasing .dropped, joinSet := [] })
  | _ => none

/-- The body of a task ends, or the task was aborted and its future is dropped. -/
def finishTask (s : Graph) (i : Nat) (a : String) (outcome : TaskOutcome) : Option Graph :=
  match s.tasks i a, outcome with
  | some ⟨false, none⟩, .cancelled => none
  | some ⟨abortRequested, none⟩, _ => some ((s.clear i a).setTask i a ⟨abortRequested, some outcome⟩)
  | _, _ => none

inductive Act
  | run (i : Nat)
  | join (i : Nat) (a : String)
  | drop (i : Nat)
  /-- The shutdown future of call `i` resolves. -/
  | shutdown (i : Nat)
  | finish (i : Nat) (a : String) (outcome : TaskOutcome)
  /-- `into_actor_set` on some clone. -/
  | decompose

def step (s : Graph) : Act → Option Graph
  | .run i => s.runCall i
  | .join i a => s.joinTask i a
  | .drop i => s.dropCall i
  | .shutdown i => s.shutdownCall i
  | .finish i a outcome => s.finishTask i a outcome
  | .decompose => some s.markDecomposed.1

/-! ### What a step does -/

/-- A step, with the state after it. -/
inductive Moves (s : Graph) : Act → Graph → Prop
  | started {i : Nat} (hp : (s.runs i).phase = .created) (hidle : s.state = .idle) :
      Moves s (.run i) ({ s with state := .running, started := s.started + 1 }.setRun i
        { s.runs i with phase := .binding s.actors.ids, number := s.started })
  | refused {i : Nat} {result : Except GraphError Unit} (hp : (s.runs i).phase = .created)
      (hstate : s.state ≠ .idle) (hr : result = .error .alreadyRunning ∨
        result = .error (.invalidState "graph has already been decomposed into an actor set")) :
      Moves s (.run i) (s.setPhase i (.gone (.returned result)))
  | bindEnd {i : Nat} (hp : (s.runs i).phase = .binding []) :
      Moves s (.run i) (s.setPhase i (.spawning s.actors.ids))
  | bind {i : Nat} {a : String} {rest : List String} (hp : (s.runs i).phase = .binding (a :: rest)) :
      Moves s (.run i) ((s.bind i a).setPhase i (.binding rest))
  | spawnEnd {i : Nat} (hp : (s.runs i).phase = .spawning []) :
      Moves s (.run i) (s.setRun i (s.runs i).loop)
  | spawn {i : Nat} {a : String} {rest : List String} (hp : (s.runs i).phase = .spawning (a :: rest)) :
      Moves s (.run i) (s.spawn i a rest)
  | joinPending {i : Nat} (hp : (s.runs i).phase = .selecting)
      (hnone : ∀ a ∈ (s.runs i).joinSet, s.outcome i a = none) :
      Moves s (.run i) (s.setPhase i .joinPending)
  | select {i : Nat} (hp : (s.runs i).phase = .joinPending) : Moves s (.run i) (s.setPhase i .selecting)
  | released {i : Nat} {how : GraphEnd} (hp : (s.runs i).phase = .releasing how) :
      Moves s (.run i) ({ s with state := .idle }.setPhase i (.gone how))
  | join {i : Nat} {a : String} {outcome : TaskOutcome} (hp : (s.runs i).phase = .selecting)
      (ha : a ∈ (s.runs i).joinSet) (ho : s.outcome i a = some outcome) :
      Moves s (.join i a) (s.setRun i ((s.runs i).processJoin a outcome).loop)
  | shutdown {i : Nat} (hp : (s.runs i).phase = .joinPending) :
      Moves s (.shutdown i) (s.setRun i
        { s.runs i with phase := .selecting, shutdownRequested := true, shutdownToken := true })
  | dropped {i : Nat} (hp : (s.runs i).phase = .created) :
      Moves s (.drop i) (s.setPhase i (.gone .dropped))
  | aborted {i : Nat} (hp : (s.runs i).phase = .selecting) :
      Moves s (.drop i) ((s.abortAll i).setRun i
        { s.runs i with phase := .releasing .dropped, joinSet := [] })
  | finish {i : Nat} {a : String} {outcome : TaskOutcome} {abortRequested : Bool}
      (ht : s.tasks i a = some ⟨abortRequested, none⟩) :
      Moves s (.finish i a outcome) ((s.clear i a).setTask i a ⟨abortRequested, some outcome⟩)
  | decomposed (hidle : s.state = .idle) : Moves s .decompose { s with state := .decomposed }
  | kept : Moves s .decompose s

section
variable {s s' : Graph} {i : Nat} {a : String}

theorem runCall_moves (hs : s.runCall i = some s') : s.Moves (.run i) s' := by
  unfold runCall at hs
  cases hp : (s.runs i).phase with
  | created =>
    rw [hp] at hs
    cases hs
    unfold start
    split
    · exact .started hp ‹_›
    · exact .refused hp (by simp [*]) (.inl rfl)
    · exact .refused hp (by simp [*]) (.inr rfl)
  | binding rest =>
    rw [hp] at hs
    cases rest <;> cases hs
    · exact .bindEnd hp
    · exact .bind hp
  | spawning rest =>
    rw [hp] at hs
    cases rest <;> cases hs
    · exact .spawnEnd hp
    · exact .spawn hp
  | selecting =>
    rw [hp] at hs
    dsimp only at hs
    split at hs <;> cases hs
    rename_i hany
    exact .joinPending hp (by simpa using hany)
  | joinPending =>
    rw [hp] at hs
    cases hs
    exact .select hp
  | releasing how =>
    rw [hp] at hs
    cases hs
    exact .released hp
  | gone how =>
    rw [hp] at hs
    cases hs

theorem step_cases {a : Act} (hs : s.step a = some s') : s.Moves a s' := by
  cases a with
  | run i => exact runCall_moves hs
  | join i a =>
    simp only [step, joinTask] at hs
    split at hs
    · rename_i hp ho
      rw [Option.ite_none_right_eq_some] at hs
      obtain ⟨ha, hs⟩ := hs
      cases hs
      exact .join hp ha ho
    · cases hs
  | drop i =>
    simp only [step, dropCall] at hs
    split at hs <;> cases hs
    · exact .dropped ‹_›
    · exact .aborted ‹_›
  | shutdown i =>
    simp only [step, shutdownCall] at hs
    split at hs
    · split at hs <;> cases hs
      exact .shutdown ‹_›
    · cases hs
  | finish i a outcome =>
    simp only [step, finishTask] at hs
    split at hs <;> cases hs
    exact .finish ‹_›
  | decompose =>
    cases hs
    unfold markDecomposed
    split
    · exact .decomposed ‹_›
    · exact .kept
    · exact .kept

end

end Graph
end TokioSupervisor
