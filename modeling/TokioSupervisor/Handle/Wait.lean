import TokioSupervisor.Policy
import TokioSupervisor.Lib.Run
import Mathlib.Logic.Function.Basic

/-!
# `SupervisorHandle::wait`

The clones of a handle share the `done` channel and `join_state`; the supervisor task has a sender of
its own (`task_done_tx`), which goes with its future. The calls of `wait` are futures over that, numbered
here: a step of a call is one piece of code between two accesses to the shared state, and the environment
may drop a future wherever `wait` awaits. A call borrows its handle, so while there is one the channel
has a receiver and a `send` stores its value.

A caller gets the result from the channel, from the join handle or from the closed channel. `Settled`
says that these agree: what is published is what the task ended with, and the channel closes empty only
when nobody is left to publish.
-/

namespace TokioSupervisor
open Lib

/-- What `run` returns. -/
abbrev SupervisorResult := Except SupervisorError SupervisorExit

/-- The spawned supervisor task. -/
inductive SupervisorTask
  | running
  /-- `task_done_tx` has sent the result, which the task returns next. -/
  | sent (result : SupervisorResult)
  | returned (result : SupervisorResult)
  /-- A panic, with the `Display` of its `JoinError`. -/
  | failed (display : String)

/-- Where `(join_handle, done_tx)` is: in `join_state`, in the call that took it, or dropped. -/
inductive JoinState
  | shared
  | taken (i : Nat)
  | dropped

/-- Where a call of `wait` stands. -/
inductive WaitPhase
  /-- Not polled yet. -/
  | created
  /-- There was no result; `join_state` is next. -/
  | unresolved
  /-- Awaits the join handle. -/
  | joining
  /-- The task is joined; the result is sent next. -/
  | joined (result : SupervisorResult)
  /-- In `wait_for`. -/
  | waiting
  /-- `wait_for` has seen a result. -/
  | notified
  | returned (result : SupervisorResult)
  | dropped

/-- The call has taken `join_state` and not dropped it. -/
def WaitPhase.owns : WaitPhase → Bool
  | .joining | .joined _ => true
  | _ => false

/-- What the handles of a spawned supervisor share, with the calls of `wait` on them. -/
structure Completion where
  done : Option SupervisorResult
  task : SupervisorTask
  joinState : JoinState
  waits : Nat → WaitPhase

/-- What the task ends with, as `wait` has it. -/
def SupervisorTask.verdict : SupervisorTask → Option SupervisorResult
  | .running => none
  | .sent result | .returned result => some result
  | .failed display => some (.error (.internal s!"supervisor task failed to join: {display}"))

/-- The task is over, and with it `task_done_tx`. -/
def SupervisorTask.over : SupervisorTask → Bool
  | .running | .sent _ => false
  | .returned _ | .failed _ => true

def channelClosed : SupervisorResult := .error (.internal "supervisor completion channel closed")

namespace Completion

def new : Completion := ⟨none, .running, .shared, fun _ => .created⟩

def setWait (s : Completion) (i : Nat) (phase : WaitPhase) : Completion :=
  { s with waits := Function.update s.waits i phase }

/-- All senders of the channel are gone. -/
def closed (s : Completion) : Bool :=
  s.task.over && match s.joinState with
    | .dropped => true
    | _ => false

/-- The next piece of call `i`. -/
def waitCall (s : Completion) (i : Nat) : Option Completion :=
  match s.waits i with
  | .created => some (s.setWait i (match s.done with | some result => .returned result | none => .unresolved))
  | .unresolved =>
    match s.joinState with
    | .shared => some ({ s with joinState := .taken i }.setWait i .joining)
    | _ => some (s.setWait i .waiting)
  | .joining => if s.task.over then s.task.verdict.map fun result => s.setWait i (.joined result) else none
  | .joined result => some ({ s with done := some result, joinState := .dropped }.setWait i (.returned result))
  | .waiting =>
    if s.done.isSome then some (s.setWait i .notified)
    else if s.closed then some (s.setWait i (.returned channelClosed))
    else none
  | .notified => some (s.setWait i (.returned
      (s.done.getD (.error (.internal "missing supervisor completion result")))))
  | .returned _ | .dropped => none

/-- The future of call `i` is dropped where it awaits. -/
def dropCall (s : Completion) (i : Nat) : Option Completion :=
  match s.waits i with
  | .created | .waiting => some (s.setWait i .dropped)
  | .joining => some ({ s with joinState := .dropped }.setWait i .dropped)
  | _ => none

/-- `run_with_channels` returns in the task, which sends the result. -/
def sendResult (s : Completion) (result : SupervisorResult) : Option Completion :=
  match s.task with
  | .running => some { s with task := .sent result, done := some result }
  | _ => none

def returnResult (s : Completion) : Option Completion :=
  match s.task with
  | .sent result => some { s with task := .returned result }
  | _ => none

def failTask (s : Completion) (display : String) : Option Completion :=
  match s.task with
  | .running => some { s with task := .failed display }
  | _ => none

inductive Act
  | wait (i : Nat)
  | drop (i : Nat)
  | send (result : SupervisorResult)
  | exit
  | fail (display : String)

def step (s : Completion) : Act → Option Completion
  | .wait i => s.waitCall i
  | .drop i => s.dropCall i
  | .send result => s.sendResult result
  | .exit => s.returnResult
  | .fail display => s.failTask display

/-- All calls of `wait` that complete return the same result, which is that of the task if it returned. -/
structure WaitsAgree (s : Completion) : Prop where
  same : ∀ i j x y, s.waits i = .returned x → s.waits j = .returned y → x = y
  task : ∀ i x r, s.task = .sent r ∨ s.task = .returned r → s.waits i = .returned x → x = r

/-- The channel is closed with nothing in it, because the call that took the join handle was dropped and
the task has not returned. -/
def Abandoned (s : Completion) : Prop :=
  s.done = none ∧ s.joinState = .dropped ∧ ∃ display, s.task = .failed display

structure Settled (s : Completion) : Prop where
  sent : ∀ r, s.task = .sent r ∨ s.task = .returned r → s.done = some r
  done : ∀ x, s.done = some x → s.task.verdict = some x
  owner : ∀ i, (s.waits i).owns = true → s.joinState = .taken i
  joined : ∀ i x, s.waits i = .joined x → s.task.verdict = some x
  notified : ∀ i, s.waits i = .notified → s.done.isSome
  returned : ∀ i x, s.waits i = .returned x → s.done = some x ∨ x = channelClosed ∧ s.Abandoned

section
variable {s s' : Completion} {i : Nat}

theorem new_settled : new.Settled where
  sent := fun _ h => by rcases h with h | h <;> cases h
  done := fun _ h => by cases h
  owner := fun _ h => by cases h
  joined := fun _ _ h => by cases h
  notified := fun _ h => by cases h
  returned := fun _ _ h => by cases h

theorem Settled.setWait {phase : WaitPhase} (h : s.Settled)
    (howner : phase.owns = true → s.joinState = .taken i)
    (hjoined : ∀ x, phase = .joined x → s.task.verdict = some x)
    (hnotified : phase = .notified → s.done.isSome)
    (hreturned : ∀ x, phase = .returned x → s.done = some x ∨ x = channelClosed ∧ s.Abandoned) :
    (s.setWait i phase).Settled := by
  have hwaits (j : Nat) : (s.setWait i phase).waits j = if j = i then phase else s.waits j := by
    simp only [Completion.setWait, Function.update_apply]
  refine ⟨h.sent, h.done, fun j hj => ?_, fun j x hj => ?_, fun j hj => ?_, fun j x hj => ?_⟩ <;>
    rw [hwaits] at hj <;> split at hj
  · rename_i hji
    exact hji ▸ howner hj
  · exact h.owner j hj
  · exact hjoined x hj
  · exact h.joined j x hj
  · exact hnotified hj
  · exact h.notified j hj
  · exact hreturned x hj
  · exact h.returned j x hj

/-- A result is published that is the one published before, if any. -/
theorem Settled.publish {task : SupervisorTask} {joinState : JoinState} {x : SupervisorResult}
    (h : s.Settled) (hfresh : ¬ s.Abandoned) (hverdict : task.verdict = some x)
    (htask : ∀ y, s.task.verdict = some y → y = x)
    (howner : ∀ i, (s.waits i).owns = true → joinState = .taken i) :
    ({ s with done := some x, task, joinState } : Completion).Settled := by
  refine ⟨fun r hr => ?_, fun y hy => ?_, howner, fun i y hy => ?_, fun _ _ => rfl, fun i y hy => ?_⟩
  · rcases hr with rfl | rfl <;> exact hverdict.symm
  · cases hy
    exact hverdict
  · rw [htask y (h.joined i y hy)]
    exact hverdict
  · rcases h.returned i y hy with hdone | ⟨-, habandoned⟩
    · exact .inl (congrArg some (htask y (h.done y hdone)).symm)
    · exact absurd habandoned hfresh

theorem Settled.resolve {x : SupervisorResult} (h : s.Settled) (hi : s.waits i = .joined x) :
    ({ s with done := some x, joinState := .dropped }.setWait i (.returned x)).Settled := by
  have hverdict := h.joined i x hi
  have howner := h.owner i (by rw [hi]; rfl)
  have hdropped : (s.setWait i .dropped).Settled := h.setWait nofun nofun nofun nofun
  have hpublished : ({ s.setWait i .dropped with done := some x, joinState := .dropped } :
      Completion).Settled := by
    refine hdropped.publish (fun ha => ?_) hverdict (fun y hy => ?_) fun j hj => ?_
    · rw [Abandoned, Completion.setWait, howner] at ha
      cases ha.2.1
    · exact Option.some.inj (hy.symm.trans hverdict)
    · have hne : j ≠ i := by
        rintro rfl
        simp [Completion.setWait, WaitPhase.owns] at hj
      simp only [Completion.setWait, Function.update_of_ne hne] at hj
      rw [h.owner j hj] at howner
      cases howner
      exact absurd rfl hne
  have hsettled : (({ s.setWait i .dropped with done := some x, joinState := .dropped } :
      Completion).setWait i (.returned x)).Settled := hpublished.setWait nofun nofun nofun fun y hy => by
    cases hy
    exact .inl rfl
  simpa [Completion.setWait] using hsettled

theorem Settled.abandoned (h : s.Settled) (hdone : s.done = none) (hclosed : s.closed = true) :
    s.Abandoned := by
  simp only [closed, Bool.and_eq_true] at hclosed
  obtain ⟨hover, hstate⟩ := hclosed
  refine ⟨hdone, ?_, ?_⟩
  · split at hstate
    · assumption
    · cases hstate
  · cases ht : s.task with
    | running | sent r =>
      rw [ht] at hover
      cases hover
    | returned r =>
      rw [h.sent r (.inr ht)] at hdone
      cases hdone
    | failed d => exact ⟨d, rfl⟩

theorem Settled.waitCall (h : s.Settled) (hs : s.waitCall i = some s') : s'.Settled := by
  unfold Completion.waitCall at hs
  cases hw : s.waits i with
  | created =>
    rw [hw] at hs
    cases hs
    cases hd : s.done with
    | none => exact h.setWait nofun nofun nofun nofun
    | some x =>
      refine h.setWait nofun nofun nofun fun y hy => ?_
      cases hy
      exact .inl hd
  | unresolved =>
    rw [hw] at hs
    dsimp only at hs
    split at hs
    · rename_i hshared
      cases hs
      have hfree (j : Nat) : (s.waits j).owns = false := by
        refine Bool.eq_false_iff.2 fun hj => ?_
        have := h.owner j hj
        rw [hshared] at this
        cases this
      have htaken : ({ s with joinState := .taken i } : Completion).Settled := by
        refine ⟨h.sent, h.done, fun j hj => ?_, h.joined, h.notified, fun j x hj => ?_⟩
        · rw [hfree j] at hj
          cases hj
        · refine (h.returned j x hj).imp_right fun ⟨_, habandoned⟩ => ?_
          rw [Abandoned, hshared] at habandoned
          cases habandoned.2.1
      exact htaken.setWait (fun _ => rfl) nofun nofun nofun
    · cases hs
      exact h.setWait nofun nofun nofun nofun
  | joining =>
    rw [hw] at hs
    simp only [Option.ite_none_right_eq_some, Option.map_eq_some_iff] at hs
    obtain ⟨-, x, hx, rfl⟩ := hs
    refine h.setWait (fun _ => h.owner i (by rw [hw]; rfl)) (fun y hy => ?_) nofun nofun
    cases hy
    exact hx
  | joined x =>
    rw [hw] at hs
    cases hs
    exact h.resolve hw
  | waiting =>
    rw [hw] at hs
    dsimp only at hs
    split at hs
    · rename_i hd
      cases hs
      exact h.setWait nofun nofun (fun _ => hd) nofun
    · rename_i hd
      split at hs
      · rename_i hclosed
        cases hs
        refine h.setWait nofun nofun nofun fun x hx => ?_
        cases hx
        exact .inr ⟨rfl, h.abandoned (by simpa using hd) hclosed⟩
      · cases hs
  | notified =>
    rw [hw] at hs
    cases hs
    obtain ⟨x, hx⟩ := Option.isSome_iff_exists.1 (h.notified i hw)
    refine h.setWait nofun nofun nofun fun y hy => ?_
    rw [hx] at hy
    cases hy
    exact .inl hx
  | returned x | dropped =>
    rw [hw] at hs
    cases hs

theorem Settled.dropCall (h : s.Settled) (hs : s.dropCall i = some s') : s'.Settled := by
  unfold Completion.dropCall at hs
  split at hs
  · cases hs
    exact h.setWait nofun nofun nofun nofun
  · cases hs
    exact h.setWait nofun nofun nofun nofun
  · rename_i hw
    cases hs
    have howner := h.owner i (by rw [hw]; rfl)
    have hdropped : (s.setWait i .dropped).Settled := h.setWait nofun nofun nofun nofun
    refine ⟨h.sent, h.done, fun j hj => ?_, hdropped.joined, hdropped.notified, fun j x hj => ?_⟩
    · have hj' : (s.setWait i .dropped).joinState = .taken j := hdropped.owner j hj
      rw [Completion.setWait, howner] at hj'
      cases hj'
      simp [Completion.setWait, WaitPhase.owns] at hj
    · refine (hdropped.returned j x hj).imp_right fun ⟨_, _, hstate, _⟩ => ?_
      rw [Completion.setWait, howner] at hstate
      cases hstate
  · cases hs

theorem Settled.step (h : s.Settled) {a : Act} (hs : s.step a = some s') : s'.Settled := by
  cases a with
  | wait i => exact h.waitCall hs
  | drop i => exact h.dropCall hs
  | send r =>
    simp only [Completion.step, sendResult] at hs
    split at hs
    · rename_i hrunning
      cases hs
      refine h.publish (fun ha => ?_) rfl (fun y hy => ?_) h.owner
      · obtain ⟨-, -, d, hd⟩ := ha
        rw [hrunning] at hd
        cases hd
      · rw [hrunning] at hy
        cases hy
    · cases hs
  | exit =>
    simp only [Completion.step, returnResult] at hs
    split at hs
    · rename_i r hsent
      cases hs
      have hverdict : s.task.verdict = (SupervisorTask.returned r).verdict := by rw [hsent]; rfl
      refine ⟨fun x hx => ?_, fun x hx => ?_, h.owner, fun i x hi => ?_, h.notified, fun i x hi => ?_⟩
      · rcases hx with hx | hx <;> cases hx
        exact h.sent r (.inl hsent)
      · rw [← hverdict]
        exact h.done x hx
      · rw [← hverdict]
        exact h.joined i x hi
      · refine (h.returned i x hi).imp_right fun ⟨_, _, _, d, hd⟩ => ?_
        rw [hsent] at hd
        cases hd
    · cases hs
  | fail d =>
    simp only [Completion.step, failTask] at hs
    split at hs
    · rename_i hrunning
      cases hs
      have hnone (x : SupervisorResult) : s.task.verdict ≠ some x := by rw [hrunning]; nofun
      refine ⟨fun x hx => ?_, fun x hx => ?_, h.owner, fun i x hi => ?_, h.notified, fun i x hi => ?_⟩
      · rcases hx with hx | hx <;> cases hx
      · exact absurd (h.done x hx) (hnone x)
      · exact absurd (h.joined i x hi) (hnone x)
      · refine (h.returned i x hi).imp_right fun ⟨_, _, _, d, hd⟩ => ?_
        rw [hrunning] at hd
        cases hd
    · cases hs

theorem Settled.agree (h : s.Settled) : s.WaitsAgree := by
  refine ⟨fun i j x y hi hj => ?_, fun i x r hr hi => ?_⟩
  · rcases h.returned i x hi with hx | ⟨rfl, hx, -⟩ <;> rcases h.returned j y hj with hy | ⟨rfl, hy, -⟩
    · exact Option.some.inj (hx.symm.trans hy)
    · rw [hx] at hy
      cases hy
    · rw [hx] at hy
      cases hy
    · rfl
  · have hdone := h.sent r hr
    rcases h.returned i x hi with hx | ⟨-, hx, -⟩
    · exact Option.some.inj (hx.symm.trans hdone)
    · rw [hdone] at hx
      cases hx

end

/-! ### Runs -/

theorem run_waitsAgree {as : List Act} {s : Completion} (hrun : AnyRun step new as s) :
    s.WaitsAgree :=
  (hrun.invariant new_settled fun _ _ _ h _ hs => h.step hs).agree

/-- The result that call `i` has returned. -/
def resultOf (s : Completion) (i : Nat) : Option SupervisorResult :=
  match s.waits i with
  | .returned result => some result
  | _ => none

/-- The owner of the join handle is dropped while a second call waits; then the task panics. Both this
call and a later one get the closed channel. -/
theorem run_waitsAgree_abandoned : ∃ s : Completion, s.WaitsAgree ∧
    s.resultOf 1 = some channelClosed ∧ s.resultOf 2 = some channelClosed := by
  have hex : ∃ s, AnyRun step new
      [.wait 0, .wait 0, .wait 1, .wait 1, .drop 0, .fail "task 1 panicked", .wait 1,
        .wait 2, .wait 2, .wait 2] s ∧
      (s.resultOf 1, s.resultOf 2) = (some channelClosed, some channelClosed) :=
    anyRun_of_exec (by decide +kernel)
  obtain ⟨s, hs, hresults⟩ := hex
  simp only [Prod.mk.injEq] at hresults
  exact ⟨s, run_waitsAgree hs, hresults⟩

end Completion
end TokioSupervisor
