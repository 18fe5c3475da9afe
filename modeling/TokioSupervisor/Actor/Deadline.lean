import TokioSupervisor.Actor.Surfacing
import TokioSupervisor.Time

/-!
# `finish` and its deadline

`finish` awaits the entries it has taken one after another against one deadline. At the start of a turn
`await_entry_until` looks at the clock alone and gives the entry up once the deadline has come; within the
turn it selects between the join handle and the timer, in any order where both are ready. The blocking
runtime is that of the untimed model; here its clock is added, and where `finish` stands.

`completed_at` and the `turns` are records that no transition reads: when a closure ended, and what each
turn found of its task. A failure that was there before the deadline is lost when its entry is given up, a
later one is reported when its turn takes the join handle (`masksNothing`).
-/

namespace TokioSupervisor
open Lib

/-- One turn of the loop in `finish`. -/
structure FinishTurn where
  task : Nat
  /-- The select took the join handle; else the entry was given up. -/
  joined : Bool
  /-- The failure of a task that had completed, unless it was claimed. -/
  failure : Option BlockingTaskFailure
  completedAt : Option Instant
deriving DecidableEq, Repr

namespace FinishTurn

/-- An unclaimed task completed with a failure before the deadline. -/
def failedInTime (turn : FinishTurn) (deadline : Instant) : Bool :=
  turn.failure.isSome && turn.completedAt.any (· < deadline)

/-- What `await_entry_until` returned. -/
def returned (turn : FinishTurn) : Option BlockingTaskFailure :=
  if turn.joined then turn.failure else none

end FinishTurn

/-- A call of `finish` that has taken the entries. -/
structure FinishCall where
  actorResult : ActorResult
  taken : List Nat
  deadline : Instant
  /-- The entry that the turn awaits. -/
  current : Option Nat
  turns : List FinishTurn

namespace FinishCall

def firstFailure (call : FinishCall) : Option BlockingTaskFailure :=
  call.turns.findSome? (·.returned)

def failedInTime (call : FinishCall) : Bool := call.turns.any (·.failedInTime call.deadline)

/-- A failure of a task would be the result, and none is latched. -/
def latches (call : FinishCall) : Bool := call.actorResult.isOk && call.firstFailure.isNone

end FinishCall

structure TimedBlocking where
  runtime : BlockingRuntime
  shutdownTimeout : Duration
  now : Instant
  completedAt : Nat → Option Instant
  call : Option FinishCall
  /-- `finish` panicked. -/
  panicked : Bool

namespace TimedBlocking

def new (actorId : String) (limit : Option Nat) (shutdownTimeout : Duration) (now : Instant) :
    TimedBlocking where
  runtime := .new actorId limit
  shutdownTimeout
  now
  completedAt := fun _ => none
  call := none
  panicked := false

/-- The steps outside of `finish`. -/
def outside : BlockingRuntime.Act → Bool
  | .close | .await _ | .timeout _ | .finish => false
  | _ => true

/-- The completion that an action is. -/
def recordCompletion (s : TimedBlocking) : BlockingRuntime.Act → Nat → Option Instant
  | .exit n | .abort n => Function.update s.completedAt n (some s.now)
  | _ => s.completedAt

/-- `close_and_take_all`, and the deadline. -/
def close (s : TimedBlocking) : Option TimedBlocking :=
  match s.runtime.phase with
  | .ended actorResult =>
    s.runtime.closeAndTakeAll.map fun runtime =>
      match Instant.checkedAdd s.now s.shutdownTimeout with
      | some deadline =>
        { s with runtime, call := some ⟨actorResult, s.runtime.tasks, deadline, none, []⟩ }
      | none => { s with runtime, panicked := true }
  | _ => none

/-- What the turn finds of its task. -/
def turn (s : TimedBlocking) (n : Nat) (joined : Bool) : FinishTurn :=
  ⟨n, joined, ((s.runtime.records n).bind (·.completeEntry)).join, s.completedAt n⟩

/-- The turn of entry `n` is over. -/
def endTurn (s : TimedBlocking) (call : FinishCall) (n : Nat) (joined : Bool)
    (runtime : BlockingRuntime) : TimedBlocking :=
  { s with runtime, call := some { call with current := none, turns := call.turns ++ [s.turn n joined] } }

/-- The turn of entry `n` begins. -/
def start (s : TimedBlocking) (n : Nat) : Option TimedBlocking :=
  match s.call with
  | some call =>
    if call.current.isNone && s.runtime.phase.awaits.contains n then
      if call.deadline ≤ s.now then (s.runtime.timeoutEntry n).map (s.endTurn call n false)
      else some { s with call := some { call with current := some n } }
    else none
  | none => none

/-- The select takes the join handle. -/
def join (s : TimedBlocking) : Option TimedBlocking :=
  match s.call with
  | some call => call.current.bind fun n => (s.runtime.awaitEntry n).map (s.endTurn call n true)
  | none => none

/-- The select takes the timer. -/
def timer (s : TimedBlocking) : Option TimedBlocking :=
  match s.call with
  | some call =>
    if call.deadline ≤ s.now then
      call.current.bind fun n => (s.runtime.timeoutEntry n).map (s.endTurn call n false)
    else none
  | none => none

/-- The loop is over. -/
def finish (s : TimedBlocking) : Option TimedBlocking :=
  match s.call with
  | some call =>
    if call.current.isNone then s.runtime.finish.map fun runtime => { s with runtime } else none
  | none => none

inductive Act
  | runtime (a : BlockingRuntime.Act)
  | tick (nanos : Nat)
  | close
  | start (n : Nat)
  | join
  | timer
  | finish

def step (s : TimedBlocking) : Act → Option TimedBlocking
  | .runtime a =>
    if outside a then
      (s.runtime.step a).map fun runtime => { s with runtime, completedAt := s.recordCompletion a }
    else none
  | .tick nanos => if s.now + nanos ≤ Instant.MAX then some { s with now := s.now + nanos } else none
  | .close => s.close
  | .start n => s.start n
  | .join => s.join
  | .timer => s.timer
  | .finish => s.finish

/-- The steps that need no task. -/
def Act.unaided : Act → Bool
  | .tick _ | .start _ | .timer | .finish => true
  | _ => false

/-- Where a failure of a task would be the result and none is latched: no entry is given up whose task
has failed before the deadline, and none awaited that has failed later. And the deadline is an instant. -/
def masksNothing (s : TimedBlocking) : Act → Bool
  | .close => (Instant.checkedAdd s.now s.shutdownTimeout).isSome
  | .start n =>
    s.call.all fun call => !(call.latches && decide (call.deadline ≤ s.now) &&
      (s.turn n false).failedInTime call.deadline)
  | .timer =>
    s.call.all fun call => !(call.latches && call.current.any fun n =>
      (s.turn n false).failedInTime call.deadline)
  | .join =>
    s.call.all fun call => !(call.latches && call.current.any fun n =>
      (s.turn n true).failure.isSome && !(s.turn n true).failedInTime call.deadline)
  | _ => true

/-- What `finish` has returned. -/
def result (s : TimedBlocking) : Option ActorResult := s.runtime.resultOf

/-- What a call of `finish` promises. -/
structure Unmasked (s : TimedBlocking) : Prop where
  noPanic : s.panicked = false
  /-- It returns without the help of any task. -/
  returns : s.call.isSome = true →
    ∃ as s', Run step (fun _ a => a.unaided = true) s as s' ∧ s'.result.isSome = true
  /-- Each entry taken has had its turn. -/
  covered : ∀ call result, s.call = some call → s.result = some result →
    (call.turns.map (·.task)).Perm call.taken
  error : ∀ call error, s.call = some call → call.actorResult = .error error →
    ∀ result, s.result = some result → result = .error error
  failed : ∀ call, s.call = some call → call.actorResult = .ok () → call.failedInTime = true →
    ∀ result, s.result = some result → ∃ failure, result = .error (.blocking failure) ∧
      ∃ turn ∈ call.turns, turn.failure = some failure ∧ turn.failedInTime call.deadline = true
  passed : ∀ call, s.call = some call → call.actorResult = .ok () → call.failedInTime = false →
    ∀ result, s.result = some result → result = .ok ()

/-- A step, with the state after it. -/
inductive Moves (s : TimedBlocking) : Act → TimedBlocking → Prop
  | runtime {a : BlockingRuntime.Act} {r : BlockingRuntime} (ha : outside a = true)
      (hr : s.runtime.step a = some r) :
      Moves s (.runtime a) { s with runtime := r, completedAt := s.recordCompletion a }
  | tick {nanos : Nat} (hle : s.now + nanos ≤ Instant.MAX) :
      Moves s (.tick nanos) { s with now := s.now + nanos }
  | close {actorResult : ActorResult} {r : BlockingRuntime} {deadline : Instant}
      (hp : s.runtime.phase = .ended actorResult) (hr : s.runtime.closeAndTakeAll = some r)
      (hd : Instant.checkedAdd s.now s.shutdownTimeout = some deadline) :
      Moves s .close
        { s with runtime := r, call := some ⟨actorResult, s.runtime.tasks, deadline, none, []⟩ }
  | overflow {actorResult : ActorResult} {r : BlockingRuntime}
      (hp : s.runtime.phase = .ended actorResult) (hr : s.runtime.closeAndTakeAll = some r)
      (hd : Instant.checkedAdd s.now s.shutdownTimeout = none) :
      Moves s .close { s with runtime := r, panicked := true }
  | start {call : FinishCall} {n : Nat} (hcall : s.call = some call) (hn : n ∈ s.runtime.phase.awaits) :
      Moves s (.start n) { s with call := some { call with current := some n } }
  | overdue {call : FinishCall} {n : Nat} {r : BlockingRuntime} (hcall : s.call = some call)
      (hnow : call.deadline ≤ s.now) (hr : s.runtime.timeoutEntry n = some r) :
      Moves s (.start n) (s.endTurn call n false r)
  | join {call : FinishCall} {n : Nat} {r : BlockingRuntime} (hcall : s.call = some call)
      (hcur : call.current = some n) (hr : s.runtime.awaitEntry n = some r) :
      Moves s .join (s.endTurn call n true r)
  | timer {call : FinishCall} {n : Nat} {r : BlockingRuntime} (hcall : s.call = some call)
      (hcur : call.current = some n) (hr : s.runtime.timeoutEntry n = some r) :
      Moves s .timer (s.endTurn call n false r)
  | finish {call : FinishCall} {r : BlockingRuntime} (hcall : s.call = some call)
      (hr : s.runtime.finish = some r) : Moves s .finish { s with runtime := r }

section
variable {s s' : TimedBlocking} {r r' : BlockingRuntime} {call : FinishCall} {n : Nat}

theorem close_moves (hs : s.close = some s') : s.Moves .close s' := by
  unfold TimedBlocking.close at hs
  split at hs
  · rename_i hp
    obtain ⟨r, hr, hs⟩ := Option.map_eq_some_iff.1 hs
    split at hs <;> subst hs
    · exact .close hp hr ‹_›
    · exact .overflow hp hr ‹_›
  · cases hs

theorem start_moves (hs : s.start n = some s') : s.Moves (.start n) s' := by
  unfold TimedBlocking.start at hs
  split at hs
  · rename_i call hcall
    rw [Option.ite_none_right_eq_some] at hs
    obtain ⟨hn, hs⟩ := hs
    simp only [Bool.and_eq_true, List.contains_eq_mem, decide_eq_true_eq] at hn
    split at hs
    · obtain ⟨r, hr, rfl⟩ := Option.map_eq_some_iff.1 hs
      exact .overdue hcall ‹_› hr
    · cases hs
      exact .start hcall hn.2
  · cases hs

theorem step_cases {a : Act} (hs : s.step a = some s') : s.Moves a s' := by
  cases a with
  | runtime a =>
    simp only [step, Option.ite_none_right_eq_some] at hs
    obtain ⟨ha, hs⟩ := hs
    obtain ⟨r, hr, rfl⟩ := Option.map_eq_some_iff.1 hs
    exact .runtime ha hr
  | tick nanos =>
    simp only [step, Option.ite_none_right_eq_some, Option.some.injEq] at hs
    obtain ⟨hle, rfl⟩ := hs
    exact .tick hle
  | close => exact close_moves hs
  | start n => exact start_moves hs
  | join =>
    simp only [step, TimedBlocking.join] at hs
    split at hs
    · rename_i call hcall
      obtain ⟨n, hcur, hs⟩ := Option.bind_eq_some_iff.1 hs
      obtain ⟨r, hr, rfl⟩ := Option.map_eq_some_iff.1 hs
      exact .join hcall hcur hr
    · cases hs
  | timer =>
    simp only [step, TimedBlocking.timer] at hs
    split at hs
    · rename_i call hcall
      rw [Option.ite_none_right_eq_some] at hs
      obtain ⟨-, hs⟩ := hs
      obtain ⟨n, hcur, hs⟩ := Option.bind_eq_some_iff.1 hs
      obtain ⟨r, hr, rfl⟩ := Option.map_eq_some_iff.1 hs
      exact .timer hcall hcur hr
    · cases hs
  | finish =>
    simp only [step, TimedBlocking.finish] at hs
    split at hs
    · rename_i call hcall
      rw [Option.ite_none_right_eq_some] at hs
      obtain ⟨r, hr, rfl⟩ := Option.map_eq_some_iff.1 hs.2
      exact .finish hcall hr
    · cases hs

/-! ### Where `finish` stands -/

/-- Once the entries are taken only `finish` moves on. -/
theorem outside_phase {a : BlockingRuntime.Act} (ha : outside a = true) (hs : r.step a = some r') :
    r'.phase = r.phase ∨ r.phase.isClosed = false ∧ r'.phase.isClosed = false := by
  cases BlockingRuntime.step_cases hs with
  | close | await | timeout | finish => cases ha
  | refused | admitted | insert | shutdown | skipped => exact .inl rfl
  | record => exact .inl (by unfold BlockingRuntime.beside; split <;> rfl)
  | actorEnds hp | taken hp | failed hp | reaped hp => exact .inr ⟨by rw [hp]; rfl, rfl⟩

theorem awaitEntry_cases (hs : r.awaitEntry n = some r') : ∃ result remaining first failure,
    r.phase = .finishing result remaining first ∧ n ∈ remaining ∧
    (r.records n).bind (·.completeEntry) = some failure ∧
    r'.phase = .finishing result (remaining.erase n) (BlockingRuntime.recordFailure first failure) := by
  cases BlockingRuntime.awaitEntry_moves hs with
  | await hp hn ht hc => exact ⟨_, _, _, _, hp, hn, by rw [ht]; exact hc, rfl⟩
  | record _ hr => cases hr

theorem timeoutEntry_cases (hs : r.timeoutEntry n = some r') : ∃ result remaining first,
    r.phase = .finishing result remaining first ∧ n ∈ remaining ∧
    r'.phase = .finishing result (remaining.erase n) first := by
  have hmoves : r.Moves (.timeout n) r' := BlockingRuntime.step_cases hs
  cases hmoves with
  | timeout hp hn => exact ⟨_, _, _, hp, hn, rfl⟩
  | record _ hr => cases hr

/-- The entries still to come, in the course of the loop or behind it. -/
inductive Stage (s : TimedBlocking) (call : FinishCall) : Prop
  | looping (remaining : List Nat)
      (phase : s.runtime.phase = .finishing call.actorResult remaining call.firstFailure)
      (turns : (call.turns.map (·.task) ++ remaining).Perm call.taken)
      (current : ∀ n, call.current = some n → n ∈ remaining)
  | returned
      (phase : s.runtime.phase =
        .done (BlockingRuntime.finishResult call.actorResult call.firstFailure))
      (turns : (call.turns.map (·.task)).Perm call.taken)

structure Inv (s : TimedBlocking) : Prop where
  idle : s.call = none → s.panicked = false → s.runtime.phase.isClosed = false
  panicked : s.panicked = true → s.call = none ∧ s.runtime.phase.isClosed = true
  now : ∀ call, s.call = some call → s.now ≤ Instant.MAX ∧ call.deadline ≤ Instant.MAX
  stage : ∀ call, s.call = some call → s.Stage call

theorem new_inv (actorId : String) (limit : Option Nat) (shutdownTimeout : Duration) (now : Instant) :
    (new actorId limit shutdownTimeout now).Inv where
  idle := fun _ _ => rfl
  panicked := fun h => by cases h
  now := fun _ h => by cases h
  stage := fun _ h => by cases h

/-- The call after one more turn. -/
def FinishCall.withTurn (call : FinishCall) (turn : FinishTurn) : FinishCall :=
  { call with current := none, turns := call.turns ++ [turn] }

theorem firstFailure_withTurn (call : FinishCall) (turn : FinishTurn) :
    (FinishCall.withTurn call turn).firstFailure = call.firstFailure.or turn.returned := by
  simp only [FinishCall.withTurn, FinishCall.firstFailure, List.findSome?_append]
  cases hturn : turn.returned <;> simp [hturn]

theorem failedInTime_withTurn (call : FinishCall) (turn : FinishTurn) :
    (FinishCall.withTurn call turn).failedInTime =
      (call.failedInTime || turn.failedInTime call.deadline) := by
  simp [FinishCall.withTurn, FinishCall.failedInTime, List.any_append]

theorem Stage.endTurn (h : s.Stage call) {result : ActorResult} {remaining : List Nat}
    {first first' : Option BlockingTaskFailure} {joined : Bool}
    (hphase : s.runtime.phase = .finishing result remaining first) (hn : n ∈ remaining)
    (hr : r.phase = .finishing result (remaining.erase n) first')
    (hfirst : first' = first.or (s.turn n joined).returned) :
    (s.endTurn call n joined r).Stage (FinishCall.withTurn call (s.turn n joined)) := by
  cases h with
  | returned hdone _ =>
    rw [hdone] at hphase
    cases hphase
  | looping remaining' hloop hturns _ =>
    rw [hloop] at hphase
    cases hphase
    refine .looping (remaining.erase n) ?_ ?_ fun m hm => ?_
    · rw [firstFailure_withTurn, ← hfirst]
      exact hr
    · simp only [FinishCall.withTurn, List.map_append, List.map_cons, List.map_nil, List.append_assoc,
        List.cons_append, List.nil_append, TimedBlocking.turn]
      exact ((List.perm_cons_erase hn).symm.append_left _).trans hturns
    · cases hm

theorem Inv.endTurn (h : s.Inv) (hcall : s.call = some call) {joined : Bool}
    (hstage : (s.endTurn call n joined r).Stage (FinishCall.withTurn call (s.turn n joined))) :
    (s.endTurn call n joined r).Inv := by
  refine ⟨fun hnone => ?_, fun hpanic => ?_, fun c hc => ?_, fun c hc => ?_⟩
  · cases hnone
  · rw [(h.panicked hpanic).1] at hcall
    cases hcall
  · cases hc
    exact h.now call hcall
  · cases hc
    exact hstage

theorem Inv.giveUp (h : s.Inv) (hcall : s.call = some call) (hr : s.runtime.timeoutEntry n = some r) :
    (s.endTurn call n false r).Inv := by
  obtain ⟨result, remaining, first, hphase, hn, hr⟩ := timeoutEntry_cases hr
  refine h.endTurn hcall ((h.stage call hcall).endTurn hphase hn hr ?_)
  simp [FinishTurn.returned, TimedBlocking.turn]

theorem recordFailure_eq (first failure : Option BlockingTaskFailure) :
    BlockingRuntime.recordFailure first failure = first.or failure := by
  cases first <;> rfl

theorem Inv.awaitEntry (h : s.Inv) (hcall : s.call = some call)
    (hr : s.runtime.awaitEntry n = some r) : (s.endTurn call n true r).Inv := by
  obtain ⟨result, remaining, first, failure, hphase, hn, hfailure, hr⟩ := awaitEntry_cases hr
  refine h.endTurn hcall ((h.stage call hcall).endTurn hphase hn hr ?_)
  rw [recordFailure_eq]
  simp only [FinishTurn.returned, TimedBlocking.turn, if_true, hfailure, Option.join_some]

theorem Stage.isClosed (h : s.Stage call) : s.runtime.phase.isClosed = true := by
  cases h with
  | looping remaining hphase _ _ | returned hphase _ => rw [hphase]; rfl

theorem closeAndTakeAll_phase {result : ActorResult} (hp : r.phase = .ended result)
    (hr : r.closeAndTakeAll = some r') : r'.phase = .finishing result r.tasks none := by
  simp only [BlockingRuntime.closeAndTakeAll, hp, Option.some.injEq] at hr
  rw [← hr]

theorem Inv.close (h : s.Inv) (hs : s.Moves .close s') : s'.Inv := by
  cases hs with
  | @close actorResult r deadline hp hr hd =>
    simp only [Instant.checkedAdd, Option.ite_none_right_eq_some, Option.some.injEq] at hd
    obtain ⟨hle, rfl⟩ := hd
    refine ⟨fun hnone => ?_, fun hpanic => ?_, fun c hc => ?_, fun c hc => ?_⟩
    · cases hnone
    · have hclosed := (h.panicked hpanic).2
      rw [hp] at hclosed
      cases hclosed
    · cases hc
      exact ⟨Nat.le_trans (Nat.le_add_right ..) hle, hle⟩
    · cases hc
      refine .looping s.runtime.tasks (closeAndTakeAll_phase hp hr) ?_ fun n hn => ?_
      · simp
      · cases hn
  | @overflow actorResult r hp hr hd =>
    have hcall : s.call = none := by
      cases hcall : s.call with
      | none => rfl
      | some call =>
        have hclosed := (h.stage call hcall).isClosed
        rw [hp] at hclosed
        cases hclosed
    refine ⟨fun _ hpanic => ?_, fun _ => ⟨hcall, ?_⟩, fun c hc => ?_, fun c hc => ?_⟩
    · cases hpanic
    · rw [closeAndTakeAll_phase hp hr]
      rfl
    · exact h.now c hc
    · rw [hcall] at hc
      cases hc

theorem Inv.runtime (h : s.Inv) {a : BlockingRuntime.Act} (ha : outside a = true)
    (hr : s.runtime.step a = some r) :
    Inv { s with runtime := r, completedAt := s.recordCompletion a } := by
  have hphase := outside_phase ha hr
  refine ⟨fun hnone hpanic => ?_, fun hpanic => ⟨(h.panicked hpanic).1, ?_⟩, h.now, fun c hc => ?_⟩
  · rcases hphase with hsame | ⟨-, hopen⟩
    · rw [hsame]
      exact h.idle hnone hpanic
    · exact hopen
  · rcases hphase with hsame | ⟨hopen, -⟩
    · rw [hsame]
      exact (h.panicked hpanic).2
    · rw [(h.panicked hpanic).2] at hopen
      cases hopen
  · have hstage := h.stage c hc
    have hsame : r.phase = s.runtime.phase := by
      rcases hphase with hsame | ⟨hopen, -⟩
      · exact hsame
      · rw [hstage.isClosed] at hopen
        cases hopen
    cases hstage with
    | looping remaining hloop hturns hcurrent =>
      exact .looping remaining (hsame.trans hloop) hturns hcurrent
    | returned hdone hturns => exact .returned (hsame.trans hdone) hturns

theorem Inv.start (h : s.Inv) (hcall : s.call = some call) (hn : n ∈ s.runtime.phase.awaits) :
    Inv { s with call := some { call with current := some n } } := by
  refine ⟨fun hnone => ?_, fun hpanic => ?_, fun c hc => ?_, fun c hc => ?_⟩
  · cases hnone
  · rw [(h.panicked hpanic).1] at hcall
    cases hcall
  · cases hc
    exact h.now call hcall
  · cases hc
    cases h.stage call hcall with
    | looping remaining hloop hturns hcurrent =>
      refine .looping remaining hloop hturns fun m hm => ?_
      cases hm
      rw [hloop] at hn
      exact hn
    | returned hdone hturns =>
      rw [hdone] at hn
      cases hn

theorem Inv.finish (h : s.Inv) (hcall : s.call = some call) (hr : s.runtime.finish = some r) :
    Inv { s with runtime := r } := by
  refine ⟨fun hnone => ?_, fun hpanic => ?_, h.now, fun c hc => ?_⟩
  · exact absurd (hcall.symm.trans hnone) (Option.some_ne_none _)
  · rw [(h.panicked hpanic).1] at hcall
    cases hcall
  · cases hcall.symm.trans hc
    unfold BlockingRuntime.finish at hr
    cases h.stage call hcall with
    | looping remaining hloop hturns hcurrent =>
      rw [hloop] at hr
      cases remaining with
      | nil =>
        cases hr
        exact .returned rfl (by simpa using hturns)
      | cons m remaining => cases hr
    | returned hdone hturns =>
      rw [hdone] at hr
      cases hr

theorem Inv.step (h : s.Inv) {a : Act} (hs : s.step a = some s') : s'.Inv := by
  have hm := step_cases hs
  cases hm with
  | runtime ha hr => exact h.runtime ha hr
  | tick hle =>
    refine ⟨h.idle, h.panicked, fun c hc => ⟨hle, (h.now c hc).2⟩, fun c hc => ?_⟩
    cases h.stage c hc with
    | looping remaining hloop hturns hcurrent => exact .looping remaining hloop hturns hcurrent
    | returned hdone hturns => exact .returned hdone hturns
  | close hp hr hd => exact h.close (.close hp hr hd)
  | overflow hp hr hd => exact h.close (.overflow hp hr hd)
  | start hcall hn => exact h.start hcall hn
  | overdue hcall _ hr | timer hcall _ hr => exact h.giveUp hcall hr
  | join hcall _ hr => exact h.awaitEntry hcall hr
  | finish hcall hr => exact h.finish hcall hr

/-! ### It returns -/

/-- By steps of its own, and as time passes, `finish` returns. -/
def CanReturn (s : TimedBlocking) : Prop :=
  ∃ as s', Run step (fun _ a => a.unaided = true) s as s' ∧ s'.result.isSome = true

theorem CanReturn.step {a : Act} (ha : a.unaided = true) (hs : s.step a = some s')
    (h : s'.CanReturn) : s.CanReturn := by
  obtain ⟨as, s'', hrun, hresult⟩ := h
  have hone : Run TimedBlocking.step (fun _ a => a.unaided = true) s [a] s' := Run.single ha hs
  exact ⟨[a] ++ as, s'', hone.trans hrun, hresult⟩

theorem timeoutEntry_of_mem {result : ActorResult} {remaining : List Nat}
    {first : Option BlockingTaskFailure} (hphase : r.phase = .finishing result remaining first)
    (hn : n ∈ remaining) : ∃ r', r.timeoutEntry n = some r' := by
  simp [BlockingRuntime.timeoutEntry, hphase, hn]

/-- Behind the deadline every entry left is given up. -/
theorem Inv.canReturn_overdue (h : s.Inv) (hcall : s.call = some call) (hnow : call.deadline ≤ s.now)
    {result : ActorResult} {remaining : List Nat} {first : Option BlockingTaskFailure}
    (hphase : s.runtime.phase = .finishing result remaining first) : s.CanReturn := by
  induction hlen : remaining.length generalizing s call remaining first with
  | zero =>
    obtain rfl := List.length_eq_zero_iff.1 hlen
    have hnone : call.current = none := by
      cases h.stage call hcall with
      | looping remaining hloop _ hcurrent =>
        rw [hloop] at hphase
        cases hphase
        cases hcur : call.current with
        | none => rfl
        | some n => cases hcurrent n hcur
      | returned hdone _ =>
        rw [hdone] at hphase
        cases hphase
    have hfinish : s.step .finish = some { s with runtime := { s.runtime with
        phase := .done (BlockingRuntime.finishResult result first) } } := by
      simp [TimedBlocking.step, TimedBlocking.finish, hcall, hnone, BlockingRuntime.finish, hphase]
    exact CanReturn.step rfl hfinish ⟨[], _, .nil, rfl⟩
  | succ k ih =>
    have hturn (n : Nat) (hn : n ∈ remaining) (hcur : call.current = none ∨ call.current = some n) :
        s.CanReturn := by
      obtain ⟨r, hr⟩ := timeoutEntry_of_mem hphase hn
      obtain ⟨result', remaining', first', hphase', -, hrphase⟩ := timeoutEntry_cases hr
      rw [hphase] at hphase'
      cases hphase'
      have hrest : (s.endTurn call n false r).CanReturn := by
        refine ih (h.giveUp hcall hr) rfl hnow hrphase ?_
        rw [List.length_erase_of_mem hn]
        omega
      rcases hcur with hcur | hcur
      · refine CanReturn.step (a := .start n) rfl ?_ hrest
        simp [TimedBlocking.step, TimedBlocking.start, hcall, hcur, hphase, ActorPhase.awaits, hn, hnow, hr]
      · refine CanReturn.step (a := .timer) rfl ?_ hrest
        simp [TimedBlocking.step, TimedBlocking.timer, hcall, hcur, hnow, hr]
    cases hcur : call.current with
    | none =>
      have hpos : 0 < remaining.length := by omega
      exact hturn remaining[0] (List.getElem_mem hpos) (.inl hcur)
    | some n =>
      cases h.stage call hcall with
      | looping remaining' hloop _ hcurrent =>
        rw [hloop] at hphase
        cases hphase
        exact hturn n (hcurrent n hcur) (.inr hcur)
      | returned hdone _ =>
        rw [hdone] at hphase
        cases hphase

theorem Inv.canReturn (h : s.Inv) (hcall : s.call = some call) : s.CanReturn := by
  cases h.stage call hcall with
  | returned hdone _ => exact ⟨[], s, .nil, by simp [TimedBlocking.result, BlockingRuntime.resultOf, hdone]⟩
  | looping remaining hloop _ _ =>
    rcases Nat.le_total call.deadline s.now with hnow | hnow
    · exact h.canReturn_overdue hcall hnow hloop
    · have heq : s.now + (call.deadline - s.now) = call.deadline := Nat.add_sub_cancel' hnow
      have hs : s.step (.tick (call.deadline - s.now)) = some { s with now := call.deadline } := by
        simp only [TimedBlocking.step, heq, (h.now call hcall).2, if_true]
      exact CanReturn.step rfl hs ((h.step hs).canReturn_overdue hcall (Nat.le_refl _) hloop)

/-! ### What is latched -/

/-- Where a failure of a task would be the result: one is latched if some task has failed in time, and
what is latched is the failure of such a task. -/
structure Latched (call : FinishCall) : Prop where
  found : call.actorResult = .ok () → call.failedInTime = true → call.firstFailure.isSome = true
  genuine : call.actorResult = .ok () → ∀ failure, call.firstFailure = some failure →
    ∃ turn ∈ call.turns, turn.failure = some failure ∧ turn.failedInTime call.deadline = true

theorem Latched.withTurn (h : Latched call) {turn : FinishTurn}
    (hok : call.latches = true → turn.returned.isSome = turn.failedInTime call.deadline) :
    Latched (FinishCall.withTurn call turn) := by
  constructor
  · intro hresult hfailed
    rw [failedInTime_withTurn] at hfailed
    rw [firstFailure_withTurn]
    cases hfirst : call.firstFailure with
    | some failure => rfl
    | none =>
      have hlatches : call.latches = true := by
        have hresult : call.actorResult = .ok () := hresult
        simp [FinishCall.latches, hfirst, hresult, Except.isOk, Except.toBool]
      have hbefore : call.failedInTime = false := by
        cases hb : call.failedInTime with
        | false => rfl
        | true => simpa [hfirst] using h.found hresult hb
      rw [hbefore, Bool.false_or] at hfailed
      rw [Option.none_or, hok hlatches, hfailed]
  · intro hresult failure hfirst
    rw [firstFailure_withTurn] at hfirst
    cases hlast : call.firstFailure with
    | some failure' =>
      rw [hlast, Option.some_or] at hfirst
      obtain ⟨turn', hmem, hfailure, htime⟩ := h.genuine hresult failure (hlast.trans hfirst)
      exact ⟨turn', List.mem_append_left _ hmem, hfailure, htime⟩
    | none =>
      rw [hlast, Option.none_or] at hfirst
      have hlatches : call.latches = true := by
        have hresult : call.actorResult = .ok () := hresult
        simp [FinishCall.latches, hlast, hresult, Except.isOk, Except.toBool]
      have htime := hok hlatches
      rw [hfirst] at htime
      refine ⟨turn, List.mem_append_right _ (List.mem_singleton_self _), ?_, htime.symm⟩
      unfold FinishTurn.returned at hfirst
      split at hfirst
      · exact hfirst
      · cases hfirst

/-- No failure has been masked so far. -/
structure Sound (s : TimedBlocking) : Prop where
  noPanic : s.panicked = false
  latched : ∀ call, s.call = some call → Latched call

theorem new_sound (actorId : String) (limit : Option Nat) (shutdownTimeout : Duration) (now : Instant) :
    (new actorId limit shutdownTimeout now).Sound where
  noPanic := rfl
  latched := fun _ h => by cases h

theorem Sound.endTurn (h : s.Sound) (hcall : s.call = some call) {joined : Bool}
    (hok : call.latches = true →
      (s.turn n joined).returned.isSome = (s.turn n joined).failedInTime call.deadline) :
    (s.endTurn call n joined r).Sound := by
  refine ⟨h.noPanic, fun c hc => ?_⟩
  cases hc
  exact (h.latched call hcall).withTurn hok

theorem returned_turn_false : (s.turn n false).returned.isSome = false := rfl

theorem returned_turn_true : (s.turn n true).returned = (s.turn n true).failure := rfl

theorem isSome_of_failedInTime {turn : FinishTurn} {deadline : Instant}
    (h : turn.failedInTime deadline = true) : turn.failure.isSome = true := by
  simp only [FinishTurn.failedInTime, Bool.and_eq_true] at h
  exact h.1

theorem Sound.step (h : s.Sound) {a : Act} (hok : s.masksNothing a = true) (hs : s.step a = some s') :
    s'.Sound := by
  cases step_cases hs with
  | runtime | tick | finish => exact ⟨h.noPanic, h.latched⟩
  | close =>
    refine ⟨h.noPanic, fun c hc => ?_⟩
    cases hc
    constructor
    · intro _ hfailed
      cases hfailed
    · intro _ failure hfirst
      cases hfirst
  | overflow _ _ hd =>
    simp only [masksNothing, hd] at hok
    cases hok
  | @start call n hcall =>
    refine ⟨h.noPanic, fun c hc => ?_⟩
    cases hc
    exact ⟨(h.latched call hcall).found, (h.latched call hcall).genuine⟩
  | overdue hcall hnow =>
    refine h.endTurn hcall fun hlatches => ?_
    simp only [masksNothing, hcall, Option.all_some, hlatches, hnow, decide_true, Bool.true_and,
      Bool.not_eq_true'] at hok
    rw [returned_turn_false, hok]
  | @join call n _ hcall hcur =>
    refine h.endTurn hcall fun hlatches => ?_
    simp only [masksNothing, hcall, Option.all_some, hlatches, hcur, Option.any_some, Bool.true_and,
      Bool.not_eq_true'] at hok
    rw [returned_turn_true]
    cases htime : (s.turn n true).failedInTime call.deadline with
    | true => exact isSome_of_failedInTime htime
    | false =>
      rw [htime, Bool.not_false, Bool.and_true] at hok
      exact hok
  | timer hcall hcur =>
    refine h.endTurn hcall fun hlatches => ?_
    simp only [masksNothing, hcall, Option.all_some, hlatches, hcur, Option.any_some, Bool.true_and,
      Bool.not_eq_true'] at hok
    rw [returned_turn_false, hok]

/-! ### What it returns -/

theorem Inv.result (h : s.Inv) (hcall : s.call = some call) {result : ActorResult}
    (hresult : s.result = some result) :
    result = BlockingRuntime.finishResult call.actorResult call.firstFailure ∧
      (call.turns.map (·.task)).Perm call.taken := by
  have hphase := BlockingRuntime.phase_of_resultOf hresult
  cases h.stage call hcall with
  | looping remaining hloop _ _ =>
    rw [hloop] at hphase
    cases hphase
  | returned hdone hturns =>
    rw [hdone] at hphase
    cases hphase
    exact ⟨rfl, hturns⟩

theorem Sound.unmasked (h : s.Sound) (hinv : s.Inv) : s.Unmasked where
  noPanic := h.noPanic
  returns := by
    intro hsome
    obtain ⟨call, hcall⟩ := Option.isSome_iff_exists.1 hsome
    exact hinv.canReturn hcall
  covered := fun call result hcall hresult => (hinv.result hcall hresult).2
  error := by
    intro call error hcall herror result hresult
    rw [(hinv.result hcall hresult).1, herror]
    rfl
  failed := by
    intro call hcall hok hfailed result hresult
    obtain ⟨failure, hfirst⟩ := Option.isSome_iff_exists.1 ((h.latched call hcall).found hok hfailed)
    refine ⟨failure, ?_, (h.latched call hcall).genuine hok failure hfirst⟩
    rw [(hinv.result hcall hresult).1, hok, hfirst]
    rfl
  passed := by
    intro call hcall hok hfailed result hresult
    rw [(hinv.result hcall hresult).1, hok]
    cases hfirst : call.firstFailure with
    | none => rfl
    | some failure =>
      obtain ⟨turn, hmem, -, htime⟩ := (h.latched call hcall).genuine hok failure hfirst
      have : call.failedInTime = true := List.any_eq_true.2 ⟨turn, hmem, htime⟩
      rw [hfailed] at this
      cases this

end

/-- In every run whose steps all meet the condition, `finish` masks no failure. -/
theorem run_unmasked {actorId : String} {limit : Option Nat} {shutdownTimeout : Duration}
    {now : Instant} {as : List Act} {s : TimedBlocking}
    (h : Run step (fun s a => s.masksNothing a = true) (new actorId limit shutdownTimeout now) as s) :
    s.Unmasked := by
  have hinv := h.invariant (I := fun s => s.Sound ∧ s.Inv)
    ⟨new_sound actorId limit shutdownTimeout now, new_inv actorId limit shutdownTimeout now⟩
    fun _ _ _ hinv hok hs => ⟨hinv.1.step hok hs, hinv.2.step hs⟩
  exact hinv.1.unmasked hinv.2

/-- A failure that is awaited first is reported, though another task is stuck. -/
theorem run_unmasked_stuck : ∃ s : TimedBlocking, s.Unmasked ∧
    s.result = some (.error (.blocking ⟨1, none, .failed "x"⟩)) := by
  have hex : ∃ s, Run step (fun s a => s.masksNothing a = true) (new "a" none (.fromSecs 1) 0)
      [.runtime (.admitTask none), .runtime (.insert 0), .runtime (.admitTask none), .runtime (.insert 1),
        .runtime (.complete 1 (.failed "x")), .runtime (.notify 1), .runtime (.exit 1),
        .runtime (.actorEnds (.ok ())), .close, .start 1, .join, .start 0, .tick NANOS_PER_SEC, .timer,
        .finish] s ∧
      s.result = some (.error (.blocking ⟨1, none, .failed "x"⟩)) := run_of_execIf_map (by decide +kernel)
  obtain ⟨s, hs, hresult⟩ := hex
  exact ⟨s, run_unmasked hs, hresult⟩

/-- The stuck task comes first: the failure that was there all the time is given up, and `finish` returns
`Ok`. -/
theorem masked_failure_reached : ∃ s, AnyRun step (new "a" none (.fromSecs 1) 0)
    [.runtime (.admitTask none), .runtime (.insert 0), .runtime (.admitTask none), .runtime (.insert 1),
      .runtime (.complete 1 (.failed "x")), .runtime (.notify 1), .runtime (.exit 1),
      .runtime (.actorEnds (.ok ())), .close, .start 0, .tick NANOS_PER_SEC, .timer, .start 1, .finish] s ∧
    ¬ s.Unmasked := by
  have hex : ∃ s, AnyRun step (new "a" none (.fromSecs 1) 0)
      [.runtime (.admitTask none), .runtime (.insert 0), .runtime (.admitTask none), .runtime (.insert 1),
        .runtime (.complete 1 (.failed "x")), .runtime (.notify 1), .runtime (.exit 1),
        .runtime (.actorEnds (.ok ())), .close, .start 0, .tick NANOS_PER_SEC, .timer, .start 1, .finish] s ∧
      (s.result, s.call.map fun call => (call.actorResult, call.failedInTime)) =
        (some (.ok ()), some (.ok (), true)) := anyRun_of_exec (by decide +kernel)
  obtain ⟨s, hs, hlook⟩ := hex
  simp only [Prod.mk.injEq] at hlook
  obtain ⟨hresult, hlook⟩ := hlook
  obtain ⟨call, hcall, hlook⟩ := Option.map_eq_some_iff.1 hlook
  simp only [Prod.mk.injEq] at hlook
  refine ⟨s, hs, fun h => ?_⟩
  obtain ⟨failure, herror, -⟩ := h.failed call hcall hlook.1 hlook.2 (.ok ()) hresult
  cases herror

end TimedBlocking
end TokioSupervisor
