import TokioSupervisor.Lib.Run
import Mathlib.Algebra.Group.Nat.Defs
import Mathlib.Logic.Function.Basic
import Mathlib.Data.List.Count

/-!
# Blocking tasks of an actor

`spawn_blocking` has two sections under the lock, and the closure it submits runs between them and
after them on a thread of its own; the handle it returns belongs to whoever holds it. The loop of the
actor polls the actor's future, reaps a task for each `Completed` event and ends with `finish`. Each step
below is one piece of code of one of these parties between two accesses to what they share.

The accepted tasks are numbered, and `records` has for each of them what its closure, its entry and its
handle share; an event stands for the id of its task. `handedOut` records what left the map and why; no
transition reads it. Permits, tokens and the `closing` flag are modelled, spans and counters are not.
The sender of the events is owned by the runtime itself, so the channel never closes while the loop
runs. `next_id += 1` wraps, as in a release build. The actor's task is not aborted and does not panic: either
would skip `finish`.
-/

namespace TokioSupervisor
open Lib

/-- What `catch_unwind` of a blocking closure gives. -/
inductive BlockingOutcome
  | ok
  | cancelled
  | failed (source : String)
  | panicked
deriving DecidableEq, Repr

/-- Errors returned by blocking task handles. -/
inductive BlockingTaskError
  | cancelled
  | failed (source : String)
  | panicked
  | unavailable
deriving DecidableEq, Repr

inductive SpawnBlockingError
  | shuttingDown (actorId : String)
  | atCapacity (actorId : String) (maxBlockingTasks : Nat)
deriving DecidableEq, Repr

structure BlockingTaskFailure where
  taskId : Nat
  taskName : Option String
  error : BlockingTaskError
deriving DecidableEq, Repr

/-- The error of an actor: its own, or a boxed `BlockingTaskFailure`. -/
inductive ActorError
  | own (source : String)
  | blocking (failure : BlockingTaskFailure)
deriving DecidableEq, Repr

abbrev ActorResult := Except ActorError Unit

/-- What the closure sends to the handle. -/
def BlockingOutcome.result : BlockingOutcome → Except BlockingTaskError Unit
  | .ok => .ok ()
  | .cancelled => .error .cancelled
  | .failed source => .error (.failed source)
  | .panicked => .error .panicked

/-- The error that the closure returns to its entry. -/
def BlockingOutcome.failure : BlockingOutcome → Option BlockingTaskError
  | .ok | .cancelled => none
  | .failed source => some (.failed source)
  | .panicked => some .panicked

/-- Where the submitted closure stands. -/
inductive ClosurePhase
  | pending
  /-- The result is sent to the handle. -/
  | sent (outcome : BlockingOutcome)
  /-- `Completed` is sent too. -/
  | notified (outcome : BlockingOutcome)
  /-- The join handle is ready. -/
  | exited (outcome : BlockingOutcome)
  /-- Aborted before it started. -/
  | aborted
deriving DecidableEq, Repr

/-- Where the `BlockingHandle` of a task is. -/
inductive HandlePhase
  /-- `spawn_blocking` has not inserted the entry. -/
  | spawning
  | held
  /-- `wait` was polled. -/
  | waiting
  | delivered (result : Except BlockingTaskError Unit)
  | dropped

def HandlePhase.isSpawning : HandlePhase → Bool
  | .spawning => true
  | _ => false

/-- An accepted task. -/
structure BlockingTask where
  id : Nat
  name : Option String
  cancel : Bool
  claimed : Bool
  closure : ClosurePhase
  abortRequested : Bool
  handle : HandlePhase

/-- Why an entry left the map. -/
inductive HandOut
  /-- For the event of the task in the argument. -/
  | reaped (event : Nat)
  | closed
deriving DecidableEq, Repr

structure BlockingAdmission where
  limit : Nat
  permits : Nat

/-- Where the actor task stands. -/
inductive ActorPhase
  /-- At the `select!`. -/
  | polling
  /-- `reap_task` awaits the entry of the task. -/
  | reaping (n : Nat)
  /-- The loop is over, `finish` is next. -/
  | ended (result : ActorResult)
  /-- `finish` awaits the remaining entries. -/
  | finishing (result : ActorResult) (remaining : List Nat) (firstFailure : Option BlockingTaskFailure)
  | done (result : ActorResult)

structure BlockingRuntime where
  actorId : String
  actorShutdown : Bool
  admission : Option BlockingAdmission
  closing : Bool
  nextId : Nat
  tasks : List Nat
  events : List Nat
  records : Nat → Option BlockingTask
  accepted : Nat
  phase : ActorPhase
  handedOut : List (Nat × HandOut)

/-- What the handle finds in its channel. -/
def ClosurePhase.completion : ClosurePhase → Option (Except BlockingTaskError Unit)
  | .pending => none
  | .sent outcome | .notified outcome | .exited outcome => some outcome.result
  | .aborted => some (.error .unavailable)

/-- `complete_entry` of a task whose join handle is ready. -/
def BlockingTask.completeEntry (t : BlockingTask) : Option (Option BlockingTaskFailure) :=
  match t.closure with
  | .exited outcome =>
    some (if t.claimed then none else outcome.failure.map fun error => ⟨t.id, t.name, error⟩)
  | .aborted => some (if t.claimed then none else some ⟨t.id, t.name, .unavailable⟩)
  | _ => none

namespace BlockingRuntime

def new (actorId : String) (maxBlockingTasks : Option Nat) : BlockingRuntime where
  actorId
  actorShutdown := false
  admission := maxBlockingTasks.map fun limit => ⟨limit, limit⟩
  closing := false
  nextId := 0
  tasks := []
  events := []
  records := fun _ => none
  accepted := 0
  phase := .polling
  handedOut := []

def modify (s : BlockingRuntime) (n : Nat) (f : BlockingTask → BlockingTask) : BlockingRuntime :=
  { s with records := Function.update s.records n ((s.records n).map f) }

/-- Apply `f` to the record of the task where it is enabled. -/
def move (s : BlockingRuntime) (n : Nat) (f : BlockingTask → Option BlockingTask) :
    Option BlockingRuntime :=
  (s.records n).bind f |>.map fun t => { s with records := Function.update s.records n (some t) }

def idOf (s : BlockingRuntime) (n : Nat) : Option Nat := (s.records n).map (·.id)

/-! ### `spawn_blocking` -/

/-- The task is accepted and its closure submitted. -/
def accept (s : BlockingRuntime) (name : Option String) : BlockingRuntime :=
  { s with
    nextId := (s.nextId + 1) % 2 ^ 64
    accepted := s.accepted + 1
    records := Function.update s.records s.accepted
      (some ⟨s.nextId, name, false, false, .pending, false, .spawning⟩) }

/-- The first section. -/
def admitTask (s : BlockingRuntime) (name : Option String) : Except SpawnBlockingError BlockingRuntime :=
  if s.closing || s.actorShutdown then .error (.shuttingDown s.actorId)
  else
    match s.admission with
    | none => .ok (s.accept name)
    | some ⟨limit, 0⟩ => .error (.atCapacity s.actorId limit)
    | some ⟨limit, permits + 1⟩ => .ok ({ s with admission := some ⟨limit, permits⟩ }.accept name)

/-- The second section. -/
def insert (s : BlockingRuntime) (n : Nat) : Option BlockingRuntime :=
  match s.records n with
  | some t =>
    if t.handle.isSpawning then
      some ({ s with tasks := s.tasks.filter (fun m => s.idOf m != some t.id) ++ [n] }.modify n
        ({ · with handle := .held }))
    else none
  | none => none

/-! ### The closure -/

def release (s : BlockingRuntime) : BlockingRuntime :=
  { s with admission := s.admission.map fun a => { a with permits := a.permits + 1 } }

def complete (s : BlockingRuntime) (n : Nat) (outcome : BlockingOutcome) : Option BlockingRuntime :=
  s.move n fun t => match t.closure with
    | .pending => some { t with closure := .sent outcome }
    | _ => none

def notify (s : BlockingRuntime) (n : Nat) : Option BlockingRuntime :=
  { s with events := s.events ++ [n] }.move n fun t => match t.closure with
    | .sent outcome => some { t with closure := .notified outcome }
    | _ => none

def exit (s : BlockingRuntime) (n : Nat) : Option BlockingRuntime :=
  s.release.move n fun t => match t.closure with
    | .notified outcome => some { t with closure := .exited outcome }
    | _ => none

/-- The pool drops an aborted closure that has not started. -/
def abort (s : BlockingRuntime) (n : Nat) : Option BlockingRuntime :=
  s.release.move n fun t => match t.closure, t.abortRequested with
    | .pending, true => some { t with closure := .aborted }
    | _, _ => none

/-! ### The handle -/

/-- `BlockingHandle::cancel`. -/
def cancelTask (s : BlockingRuntime) (n : Nat) : Option BlockingRuntime :=
  s.move n fun t => match t.handle with
    | .held => some { t with cancel := true }
    | _ => none

/-- The first poll of `wait` claims the result. -/
def poll (s : BlockingRuntime) (n : Nat) : Option BlockingRuntime :=
  s.move n fun t => match t.handle with
    | .held => some { t with handle := .waiting, claimed := true }
    | _ => none

/-- `wait` returns. -/
def deliver (s : BlockingRuntime) (n : Nat) : Option BlockingRuntime :=
  s.move n fun t => match t.handle, t.closure.completion with
    | .waiting, some result => some { t with handle := .delivered result }
    | _, _ => none

/-- The handle, or the future of its `wait`, is dropped. -/
def dropHandle (s : BlockingRuntime) (n : Nat) : Option BlockingRuntime :=
  s.move n fun t => match t.handle with
    | .held | .waiting => some { t with handle := .dropped }
    | _ => none

/-! ### The actor task -/

def takeTask (s : BlockingRuntime) (event : Nat) : BlockingRuntime × Option Nat :=
  match s.tasks.find? fun n => s.idOf n == s.idOf event with
  | some n =>
    ({ s with tasks := s.tasks.erase n, handedOut := (n, .reaped event) :: s.handedOut }, some n)
  | none => (s, none)

/-- `next_event`, up to where `reap_task` awaits the entry. -/
def nextEvent (s : BlockingRuntime) : Option BlockingRuntime :=
  match s.phase, s.events with
  | .polling, event :: events =>
    match { s with events }.takeTask event with
    | (s, some n) => some { s with phase := .reaping n }
    | (s, none) => some s
  | _, _ => none

/-- The rest of `reap_task`. -/
def reapTask (s : BlockingRuntime) : Option BlockingRuntime :=
  match s.phase with
  | .reaping n =>
    match (s.records n).bind (·.completeEntry) with
    | some (some failure) =>
      some { s with actorShutdown := true, phase := .ended (.error (.blocking failure)) }
    | some none => some { s with phase := .polling }
    | none => none
  | _ => none

/-- The actor's future returns. -/
def actorEnds (s : BlockingRuntime) (result : Except String Unit) : Option BlockingRuntime :=
  match s.phase with
  | .polling => some { s with phase := .ended (result.mapError .own) }
  | _ => none

/-- `close_and_take_all`; the map hands its entries out in any order. -/
def closeAndTakeAll (s : BlockingRuntime) : Option BlockingRuntime :=
  match s.phase with
  | .ended result => some
    { s with
      closing := true
      records := fun n => (s.records n).map fun t => { t with cancel := t.cancel || decide (n ∈ s.tasks) }
      tasks := []
      handedOut := s.tasks.map (·, .closed) ++ s.handedOut
      phase := .finishing result s.tasks none }
  | _ => none

/-- `record_failure`. -/
def recordFailure (firstFailure failure : Option BlockingTaskFailure) : Option BlockingTaskFailure :=
  if firstFailure.isNone then failure else firstFailure

/-- `await_entry_until` of the next entry returns in time. -/
def awaitEntry (s : BlockingRuntime) (n : Nat) : Option BlockingRuntime :=
  match s.phase with
  | .finishing result remaining firstFailure =>
    if n ∈ remaining then
      ((s.records n).bind (·.completeEntry)).map fun failure =>
        { s with phase := .finishing result (remaining.erase n) (recordFailure firstFailure failure) }
    else none
  | _ => none

/-- `await_entry_until` of the next entry gives up at the deadline. -/
def timeoutEntry (s : BlockingRuntime) (n : Nat) : Option BlockingRuntime :=
  match s.phase with
  | .finishing result remaining firstFailure =>
    if n ∈ remaining then
      some ({ s with phase := .finishing result (remaining.erase n) firstFailure }.modify n
        ({ · with abortRequested := true }))
    else none
  | _ => none

/-- What `finish` returns. -/
def finishResult (result : ActorResult) (firstFailure : Option BlockingTaskFailure) : ActorResult :=
  match result with
  | .error err => .error err
  | .ok () =>
    match firstFailure with
    | some failure => .error (.blocking failure)
    | none => .ok ()

def finish (s : BlockingRuntime) : Option BlockingRuntime :=
  match s.phase with
  | .finishing result [] firstFailure => some { s with phase := .done (finishResult result firstFailure) }
  | _ => none

inductive Act
  | admitTask (name : Option String)
  | insert (n : Nat)
  | complete (n : Nat) (outcome : BlockingOutcome)
  | notify (n : Nat)
  | exit (n : Nat)
  | abort (n : Nat)
  | cancel (n : Nat)
  | poll (n : Nat)
  | deliver (n : Nat)
  | drop (n : Nat)
  /-- The actor's token is cancelled from outside. -/
  | shutdown
  | actorEnds (result : Except String Unit)
  | nextEvent
  | reapTask
  | close
  | await (n : Nat)
  | timeout (n : Nat)
  | finish

/-- A refused `spawn_blocking` changes nothing. -/
def step (s : BlockingRuntime) : Act → Option BlockingRuntime
  | .admitTask name =>
    match s.admitTask name with
    | .ok s' => some s'
    | .error _ => some s
  | .insert n => s.insert n
  | .complete n outcome => s.complete n outcome
  | .notify n => s.notify n
  | .exit n => s.exit n
  | .abort n => s.abort n
  | .cancel n => s.cancelTask n
  | .poll n => s.poll n
  | .deliver n => s.deliver n
  | .drop n => s.dropHandle n
  | .shutdown => some { s with actorShutdown := true }
  | .actorEnds result => s.actorEnds result
  | .nextEvent => s.nextEvent
  | .reapTask => s.reapTask
  | .close => s.closeAndTakeAll
  | .await n => s.awaitEntry n
  | .timeout n => s.timeoutEntry n
  | .finish => s.finish

/-! ### What a step does -/

/-- What a closure or a handle does to the record `t` of its task. -/
inductive RecordStep (n : Nat) (t : BlockingTask) : Act → BlockingTask → Prop
  | complete {outcome : BlockingOutcome} (hc : t.closure = .pending) :
      RecordStep n t (.complete n outcome) { t with closure := .sent outcome }
  | notify {outcome : BlockingOutcome} (hc : t.closure = .sent outcome) :
      RecordStep n t (.notify n) { t with closure := .notified outcome }
  | exit {outcome : BlockingOutcome} (hc : t.closure = .notified outcome) :
      RecordStep n t (.exit n) { t with closure := .exited outcome }
  | abort (hc : t.closure = .pending) (ha : t.abortRequested = true) :
      RecordStep n t (.abort n) { t with closure := .aborted }
  | cancel (hh : t.handle = .held) : RecordStep n t (.cancel n) { t with cancel := true }
  | poll (hh : t.handle = .held) :
      RecordStep n t (.poll n) { t with handle := .waiting, claimed := true }
  | deliver {result : Except BlockingTaskError Unit} (hh : t.handle = .waiting)
      (hc : t.closure.completion = some result) :
      RecordStep n t (.deliver n) { t with handle := .delivered result }
  | drop (hh : t.handle = .held ∨ t.handle = .waiting) :
      RecordStep n t (.drop n) { t with handle := .dropped }

/-- What such a step does besides: an event is sent, or a permit comes back. -/
def beside (s : BlockingRuntime) : Act → BlockingRuntime
  | .notify n => { s with events := s.events ++ [n] }
  | .exit _ | .abort _ => s.release
  | _ => s

/-- A new task takes one of the permits, where there is a limit. -/
inductive Spends : Option BlockingAdmission → Option BlockingAdmission → Prop
  | unlimited : Spends none none
  | permit {limit permits : Nat} : Spends (some ⟨limit, permits + 1⟩) (some ⟨limit, permits⟩)

/-- A step, with the state after it. -/
inductive Moves (s : BlockingRuntime) : Act → BlockingRuntime → Prop
  | refused {name : Option String} : Moves s (.admitTask name) s
  | admitted {name : Option String} {admission : Option BlockingAdmission}
      (hopen : (s.closing || s.actorShutdown) = false) (hadm : Spends s.admission admission) :
      Moves s (.admitTask name) ({ s with admission }.accept name)
  | insert {n : Nat} {t : BlockingTask} (ht : s.records n = some t)
      (hspawning : t.handle.isSpawning = true) :
      Moves s (.insert n) { s with
        tasks := s.tasks.filter (fun m => s.idOf m != some t.id) ++ [n]
        records := Function.update s.records n (some { t with handle := .held }) }
  | record {a : Act} {n : Nat} {t t' : BlockingTask} (ht : s.records n = some t)
      (hr : RecordStep n t a t') :
      Moves s a { s.beside a with records := Function.update s.records n (some t') }
  | shutdown : Moves s .shutdown { s with actorShutdown := true }
  | actorEnds {result : Except String Unit} (hp : s.phase = .polling) :
      Moves s (.actorEnds result) { s with phase := .ended (result.mapError .own) }
  | skipped {event : Nat} {events : List Nat} (hp : s.phase = .polling)
      (he : s.events = event :: events) : Moves s .nextEvent { s with events }
  | taken {event n : Nat} {events : List Nat} (hp : s.phase = .polling)
      (he : s.events = event :: events) (hn : n ∈ s.tasks) (hid : s.idOf n = s.idOf event) :
      Moves s .nextEvent { s with
        events
        tasks := s.tasks.erase n
        handedOut := (n, .reaped event) :: s.handedOut
        phase := .reaping n }
  | failed {n : Nat} {t : BlockingTask} {failure : BlockingTaskFailure} (hp : s.phase = .reaping n)
      (ht : s.records n = some t) (hc : t.completeEntry = some (some failure)) :
      Moves s .reapTask { s with actorShutdown := true, phase := .ended (.error (.blocking failure)) }
  | reaped {n : Nat} {t : BlockingTask} (hp : s.phase = .reaping n) (ht : s.records n = some t)
      (hc : t.completeEntry = some none) : Moves s .reapTask { s with phase := .polling }
  | close {result : ActorResult} (hp : s.phase = .ended result) :
      Moves s .close { s with
        closing := true
        records := fun n => (s.records n).map fun t => { t with cancel := t.cancel || decide (n ∈ s.tasks) }
        tasks := []
        handedOut := s.tasks.map (·, .closed) ++ s.handedOut
        phase := .finishing result s.tasks none }
  | await {n : Nat} {t : BlockingTask} {result : ActorResult} {remaining : List Nat}
      {firstFailure failure : Option BlockingTaskFailure}
      (hp : s.phase = .finishing result remaining firstFailure) (hn : n ∈ remaining)
      (ht : s.records n = some t) (hc : t.completeEntry = some failure) :
      Moves s (.await n) { s with
        phase := .finishing result (remaining.erase n) (recordFailure firstFailure failure) }
  | timeout {n : Nat} {result : ActorResult} {remaining : List Nat}
      {firstFailure : Option BlockingTaskFailure}
      (hp : s.phase = .finishing result remaining firstFailure) (hn : n ∈ remaining) :
      Moves s (.timeout n) ({ s with phase := .finishing result (remaining.erase n) firstFailure }.modify n
        ({ · with abortRequested := true }))
  | finish {result : ActorResult} {firstFailure : Option BlockingTaskFailure}
      (hp : s.phase = .finishing result [] firstFailure) :
      Moves s .finish { s with phase := .done (finishResult result firstFailure) }

section
variable {s s' : BlockingRuntime} {n : Nat}

theorem admitTask_moves {name : Option String} (hs : s.admitTask name = .ok s') :
    s.Moves (.admitTask name) s' := by
  unfold BlockingRuntime.admitTask at hs
  split at hs
  · cases hs
  · rename_i hopen
    have hopen := Bool.eq_false_iff.2 hopen
    split at hs <;> cases hs
    · rename_i hadm
      have hself : ({ s with admission := none } : BlockingRuntime) = s := by rw [← hadm]
      exact hself ▸ .admitted hopen (hadm ▸ .unlimited)
    · rename_i hadm
      exact .admitted hopen (hadm ▸ .permit)

theorem move_moves {a : Act} {f : BlockingTask → Option BlockingTask}
    (hf : ∀ t t', f t = some t' → RecordStep n t a t') (hs : (s.beside a).move n f = some s') :
    s.Moves a s' := by
  simp only [move, Option.map_eq_some_iff, Option.bind_eq_some_iff] at hs
  obtain ⟨t', ⟨t, ht, hft⟩, rfl⟩ := hs
  have hrecords : (s.beside a).records = s.records := by
    unfold beside
    split <;> rfl
  rw [hrecords] at ht ⊢
  exact .record ht (hf t t' hft)

theorem nextEvent_moves (hs : s.nextEvent = some s') : s.Moves .nextEvent s' := by
  unfold BlockingRuntime.nextEvent at hs
  split at hs
  · rename_i event events hp he
    unfold takeTask at hs
    cases hfind : s.tasks.find? (fun n => s.idOf n == s.idOf event) with
    | none =>
      have hfind' : ({ s with events } : BlockingRuntime).tasks.find? (fun n =>
          ({ s with events } : BlockingRuntime).idOf n ==
            ({ s with events } : BlockingRuntime).idOf event) = none := hfind
      rw [hfind'] at hs
      cases hs
      exact .skipped hp he
    | some n =>
      have hfind' : ({ s with events } : BlockingRuntime).tasks.find? (fun n =>
          ({ s with events } : BlockingRuntime).idOf n ==
            ({ s with events } : BlockingRuntime).idOf event) = some n := hfind
      rw [hfind'] at hs
      cases hs
      exact .taken hp he (List.mem_of_find?_eq_some hfind) (by simpa using List.find?_some hfind)
  · cases hs

theorem reapTask_moves (hs : s.reapTask = some s') : s.Moves .reapTask s' := by
  unfold BlockingRuntime.reapTask at hs
  split at hs
  · rename_i n hp
    cases ht : s.records n with
    | none =>
      rw [ht] at hs
      cases hs
    | some t =>
      rw [ht, Option.bind_some] at hs
      split at hs <;> cases hs
      · rename_i hc
        exact .failed hp ht hc
      · rename_i hc
        exact .reaped hp ht hc
  · cases hs

theorem awaitEntry_moves (hs : s.awaitEntry n = some s') : s.Moves (.await n) s' := by
  unfold BlockingRuntime.awaitEntry at hs
  split at hs
  · rename_i hp
    rw [Option.ite_none_right_eq_some] at hs
    obtain ⟨hn, hs⟩ := hs
    obtain ⟨failure, hc, rfl⟩ := Option.map_eq_some_iff.1 hs
    obtain ⟨t, ht, hc⟩ := Option.bind_eq_some_iff.1 hc
    exact .await hp hn ht hc
  · cases hs

theorem step_cases {a : Act} (hs : s.step a = some s') : s.Moves a s' := by
  cases a with
  | admitTask name =>
    simp only [step] at hs
    split at hs <;> cases hs
    · rename_i hadmit
      exact admitTask_moves hadmit
    · exact .refused
  | insert n =>
    simp only [step, BlockingRuntime.insert] at hs
    split at hs
    · rename_i t ht
      rw [Option.ite_none_right_eq_some] at hs
      obtain ⟨hspawning, hs⟩ := hs
      cases hs
      rw [modify, ht]
      exact .insert ht hspawning
    · cases hs
  | complete n outcome =>
    refine move_moves (fun t t' hf => ?_) hs
    split at hf <;> cases hf
    exact .complete ‹_›
  | notify n =>
    refine move_moves (fun t t' hf => ?_) hs
    split at hf <;> cases hf
    exact .notify ‹_›
  | exit n =>
    refine move_moves (fun t t' hf => ?_) hs
    split at hf <;> cases hf
    exact .exit ‹_›
  | abort n =>
    refine move_moves (fun t t' hf => ?_) hs
    split at hf <;> cases hf
    exact .abort ‹_› ‹_›
  | cancel n =>
    refine move_moves (fun t t' hf => ?_) hs
    split at hf <;> cases hf
    exact .cancel ‹_›
  | poll n =>
    refine move_moves (fun t t' hf => ?_) hs
    split at hf <;> cases hf
    exact .poll ‹_›
  | deliver n =>
    refine move_moves (fun t t' hf => ?_) hs
    split at hf <;> cases hf
    exact .deliver ‹_› ‹_›
  | drop n =>
    refine move_moves (fun t t' hf => ?_) hs
    split at hf <;> cases hf
    · exact .drop (.inl ‹_›)
    · exact .drop (.inr ‹_›)
  | shutdown =>
    cases hs
    exact .shutdown
  | actorEnds result =>
    simp only [step, BlockingRuntime.actorEnds] at hs
    split at hs <;> cases hs
    exact .actorEnds ‹_›
  | nextEvent => exact nextEvent_moves hs
  | reapTask => exact reapTask_moves hs
  | close =>
    simp only [step, closeAndTakeAll] at hs
    split at hs <;> cases hs
    exact .close ‹_›
  | await n => exact awaitEntry_moves hs
  | timeout n =>
    simp only [step, timeoutEntry] at hs
    split at hs
    · rename_i hp
      rw [Option.ite_none_right_eq_some] at hs
      obtain ⟨hn, hs⟩ := hs
      cases hs
      exact .timeout hp hn
    · cases hs
  | finish =>
    simp only [step, BlockingRuntime.finish] at hs
    split at hs <;> cases hs
    exact .finish ‹_›

end

end BlockingRuntime
end TokioSupervisor
