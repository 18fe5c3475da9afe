import TokioSupervisor.Lib.Broadcast
import TokioSupervisor.Lib.Run

/-!
# Forwarding the events of a nested supervisor

`run_as_child` spawns the nested supervisor, subscribes to its events and forwards them until `wait` is
ready; then it drains what is left. The nested supervisor is here whatever emits events and then returns:
the wrapper does not look at them. An event that is emitted before the wrapper has subscribed is not
stored by the channel, and `drain_nested_events` skips a lag without reporting it (`handle_nested_event`
reports it): both lose events silently.
-/

namespace TokioSupervisor
open Lib

/-- Where `run_as_child` stands. -/
inductive WrapperPhase
  /-- The nested supervisor is spawned. -/
  | spawned
  /-- At the `select!`. -/
  | selecting
  /-- Inside the `select!`, after `wait` was pending. -/
  | waitPending
  /-- In `drain_nested_events`. -/
  | draining
  | done
deriving DecidableEq, Repr

/-- `emitted` are the events of the nested supervisor, `forwarded` those passed to the parent, `dropped`
the sum of what was reported as dropped. -/
structure EventForwarding (ε : Type) where
  emitted : List ε
  returned : Bool
  events : Broadcast ε
  phase : WrapperPhase
  forwarded : List ε
  dropped : Nat

namespace EventForwarding
variable {ε : Type}

/-- `broadcast::channel` rounds the capacity up. -/
def new (eventChannelCapacity : Nat) : EventForwarding ε :=
  ⟨[], false, .new eventChannelCapacity.nextPowerOfTwo, .spawned, [], 0⟩

/-- The nested supervisor emits an event. -/
def emit (s : EventForwarding ε) (event : ε) : Option (EventForwarding ε) :=
  if s.returned then none
  else some { s with emitted := s.emitted ++ [event], events := s.events.send event }

/-- `handle_nested_event`. -/
def handleNestedEvent (s : EventForwarding ε) : Received ε → EventForwarding ε
  | .message event => { s with forwarded := s.forwarded ++ [event] }
  | .lagged dropped => { s with dropped := s.dropped + dropped }
  | .empty => s

/-- One turn of `drain_nested_events`. -/
def drainNestedEvents (s : EventForwarding ε) : EventForwarding ε :=
  match s.events.recv with
  | (events, .message event) => { s with events, forwarded := s.forwarded ++ [event] }
  | (events, .lagged _) => { s with events }
  | (events, .empty) => { s with events, phase := .done }

inductive Act (ε : Type)
  | emit (event : ε)
  /-- The nested supervisor returns. -/
  | exit
  | subscribe
  /-- The first branch of the `select!`. -/
  | poll
  /-- Its second branch. -/
  | recv
  /-- One of its other branches, or all are pending. -/
  | other
  | drain

def step (s : EventForwarding ε) : Act ε → Option (EventForwarding ε)
  | .emit event => s.emit event
  | .exit => some { s with returned := true }
  | .subscribe =>
    match s.phase with
    | .spawned => some { s with events := s.events.subscribe, phase := .selecting }
    | _ => none
  | .poll =>
    match s.phase with
    | .selecting => some { s with phase := if s.returned then .draining else .waitPending }
    | _ => none
  | .recv =>
    match s.phase, s.events.recv with
    | .waitPending, (events, received) =>
      some ({ s with events, phase := .selecting }.handleNestedEvent received)
    | _, _ => none
  | .other =>
    match s.phase with
    | .waitPending => some { s with phase := .selecting }
    | _ => none
  | .drain =>
    match s.phase with
    | .draining => some s.drainNestedEvents
    | _ => none

/-- By the time the wrapper returns, every event was forwarded, in order, or reported as dropped. -/
def Conserves (s : EventForwarding ε) : Prop :=
  s.phase = .done → s.forwarded.Sublist s.emitted ∧ s.forwarded.length + s.dropped = s.emitted.length

/-- No event is emitted before the wrapper has subscribed, and the final drain does not lag. -/
def losesNone (s : EventForwarding ε) : Act ε → Bool
  | .emit _ => s.events.next.isSome
  | .drain => s.events.next.all fun k => !s.events.lagsAt k
  | _ => true

/-- The channel has everything, and what it has delivered is accounted for. -/
structure Accounts (s : EventForwarding ε) : Prop where
  log : s.events.log = s.emitted
  seen : s.events.Seen s.forwarded s.dropped
  fresh : s.phase = .spawned →
    s.emitted = [] ∧ s.forwarded = [] ∧ s.dropped = 0 ∧ s.events.next = none
  subscribed : s.phase ≠ .spawned → s.events.next.isSome = true
  returned : s.phase = .draining ∨ s.phase = .done → s.returned = true
  drained : s.phase = .done → ∀ k, s.events.next = some k → s.events.log.length ≤ k

variable {s s' : EventForwarding ε}

/-- A step, with the state after it. -/
inductive Moves (s : EventForwarding ε) : Act ε → EventForwarding ε → Prop
  | emit {event : ε} (hrunning : s.returned ≠ true) :
      Moves s (.emit event) { s with emitted := s.emitted ++ [event], events := s.events.send event }
  | exit : Moves s .exit { s with returned := true }
  | subscribe (hp : s.phase = .spawned) :
      Moves s .subscribe { s with events := s.events.subscribe, phase := .selecting }
  | poll (hp : s.phase = .selecting) :
      Moves s .poll { s with phase := if s.returned then .draining else .waitPending }
  | recv (hp : s.phase = .waitPending) :
      Moves s .recv ({ s with events := s.events.recv.1, phase := .selecting }.handleNestedEvent
        s.events.recv.2)
  | other (hp : s.phase = .waitPending) : Moves s .other { s with phase := .selecting }
  | drain (hp : s.phase = .draining) : Moves s .drain s.drainNestedEvents

theorem step_cases {a : Act ε} (hs : s.step a = some s') : s.Moves a s' := by
  cases a with
  | emit event =>
    simp only [step, EventForwarding.emit, Option.ite_none_left_eq_some] at hs
    obtain ⟨hrunning, hs⟩ := hs
    cases hs
    exact .emit hrunning
  | exit =>
    cases hs
    exact .exit
  | subscribe =>
    simp only [step] at hs
    split at hs <;> cases hs
    exact .subscribe ‹_›
  | poll =>
    simp only [step] at hs
    split at hs <;> cases hs
    exact .poll ‹_›
  | recv =>
    simp only [step] at hs
    split at hs <;> cases hs
    rename_i hp heq
    have hmove := Moves.recv hp
    rwa [heq] at hmove
  | other =>
    simp only [step] at hs
    split at hs <;> cases hs
    exact .other ‹_›
  | drain =>
    simp only [step] at hs
    split at hs <;> cases hs
    exact .drain ‹_›

theorem new_accounts (capacity : Nat) : (new capacity : EventForwarding ε).Accounts where
  log := rfl
  seen := .new _
  fresh := fun _ => ⟨rfl, rfl, rfl, rfl⟩
  subscribed := fun h => absurd rfl h
  returned := fun h => by rcases h with h | h <;> cases h
  drained := fun h => by cases h

theorem Accounts.emit (h : s.Accounts) (event : ε) (hok : s.events.next.isSome = true)
    (hrunning : s.returned ≠ true) :
    Accounts { s with emitted := s.emitted ++ [event], events := s.events.send event } := by
  have hsend : s.events.send event = { s.events with log := s.events.log ++ [event] } := by
    simp [Broadcast.send, hok]
  refine ⟨?_, h.seen.send event, fun hp => ?_, fun hp => ?_, h.returned, fun hp => ?_⟩
  · rw [hsend, ← h.log]
  · rw [(h.fresh hp).2.2.2] at hok
    cases hok
  · rw [hsend]
    exact h.subscribed hp
  · exact absurd (h.returned (.inr hp)) hrunning

theorem Accounts.forward (h : s.Accounts) {k : Nat} {event : ε} (hphase : s.phase ≠ .spawned)
    (hdone : s.phase ≠ .done) (hn : s.events.next = some k) (hk : s.events.log[k]? = some event) :
    Accounts { s with
      events := { s.events with next := some (k + 1) }, forwarded := s.forwarded ++ [event] } :=
  ⟨h.log, h.seen.message hn hk, fun hp => absurd hp hphase, fun _ => rfl, h.returned,
    fun hp => absurd hp hdone⟩

theorem Accounts.goOn (h : s.Accounts) {phase : WrapperPhase} (hfrom : s.phase ≠ .spawned)
    (hto : phase ≠ .spawned) (hreturned : phase = .draining ∨ phase = .done → s.returned = true)
    (hdrained : phase = .done → ∀ k, s.events.next = some k → s.events.log.length ≤ k) :
    Accounts { s with phase } :=
  ⟨h.log, h.seen, fun hp => absurd hp hto, fun _ => h.subscribed hfrom, hreturned, hdrained⟩

theorem Accounts.recv (h : s.Accounts) (hp : s.phase = .waitPending) :
    Accounts ({ s with events := s.events.recv.1, phase := .selecting }.handleNestedEvent
      s.events.recv.2) := by
  have hgo : Accounts { s with phase := .selecting } :=
    h.goOn (by rw [hp]; nofun) nofun nofun nofun
  rcases s.events.recv_cases with ⟨k, event, hn, hk, heq⟩ | ⟨k, hn, hlag, heq⟩ | ⟨heq, -⟩
  · rw [heq]
    exact hgo.forward nofun nofun hn hk
  · rw [heq]
    exact ⟨hgo.log, hgo.seen.lagged hn hlag, nofun, fun _ => rfl, nofun, nofun⟩
  · rw [heq]
    exact hgo

theorem Accounts.drain (h : s.Accounts) (hp : s.phase = .draining)
    (hok : (s.events.next.all fun k => !s.events.lagsAt k) = true) : s.drainNestedEvents.Accounts := by
  have hreturned := h.returned (.inl hp)
  unfold drainNestedEvents
  rcases s.events.recv_cases with ⟨k, event, hn, hk, heq⟩ | ⟨k, hn, hlag, -⟩ | ⟨heq, hall⟩
  · rw [heq]
    exact h.forward (by rw [hp]; nofun) (by rw [hp]; nofun) hn hk
  · simp [hn, hlag] at hok
  · rw [heq]
    exact h.goOn (by rw [hp]; nofun) nofun (fun _ => hreturned) fun _ => hall

theorem Accounts.step (h : s.Accounts) {a : Act ε} (hok : s.losesNone a = true)
    (hs : s.step a = some s') : s'.Accounts := by
  cases step_cases hs with
  | @emit event hrunning => exact h.emit event hok hrunning
  | exit => exact ⟨h.log, h.seen, h.fresh, h.subscribed, fun _ => rfl, h.drained⟩
  | subscribe hp =>
    obtain ⟨hemitted, hforwarded, hdropped, -⟩ := h.fresh hp
    have hseen : s.events.subscribe.Seen s.forwarded s.dropped := by
      rw [hforwarded, hdropped]
      exact .subscribe (h.log.trans hemitted)
    exact ⟨h.log, hseen, nofun, fun _ => rfl, nofun, nofun⟩
  | poll hp =>
    refine h.goOn (by rw [hp]; nofun) ?_ (fun hto => ?_) fun hto => ?_
    · split <;> nofun
    · split at hto
      · assumption
      · rcases hto with hto | hto <;> cases hto
    · split at hto <;> cases hto
  | recv hp => exact h.recv hp
  | other hp => exact h.goOn (by rw [hp]; nofun) nofun nofun nofun
  | drain hp => exact h.drain hp hok

theorem Accounts.conserves (h : s.Accounts) : s.Conserves := by
  intro hp
  obtain ⟨k, hk⟩ := Option.isSome_iff_exists.1 (h.subscribed (by rw [hp]; nofun))
  rw [← h.log]
  exact h.seen.all hk (h.drained hp k hk)

/-! ### Runs -/

/-- In every run in which no event is emitted before the wrapper has subscribed and the final drain does
not lag, no event is lost silently and none is duplicated. -/
theorem run_conserves {capacity : Nat} {as : List (Act ε)} {s : EventForwarding ε}
    (hrun : Run step (fun s a => s.losesNone a = true) (new capacity) as s) : s.Conserves :=
  (hrun.invariant (new_accounts capacity) fun _ _ _ h hok hs => h.step hok hs).conserves

/-- The account of a finished wrapper. -/
def account (s : EventForwarding Nat) : WrapperPhase × List Nat × Nat × List Nat :=
  (s.phase, s.forwarded, s.dropped, s.emitted)

/-- The receiver lags while the nested supervisor runs; the rest is drained. -/
theorem run_conserves_lag : ∃ s : EventForwarding Nat, s.Conserves ∧
    s.account = (.done, [2, 3], 1, [1, 2, 3]) := by
  have hex : ∃ s : EventForwarding Nat, Run step (fun s a => s.losesNone a = true) (new 2)
      [.subscribe, .emit 1, .emit 2, .emit 3, .poll, .recv, .poll, .recv, .exit, .poll, .drain, .drain] s ∧
      s.account = (.done, [2, 3], 1, [1, 2, 3]) := run_of_execIf_map (by decide +kernel)
  obtain ⟨s, hs, haccount⟩ := hex
  exact ⟨s, run_conserves hs, haccount⟩

/-- The receiver lags in the final drain, which does not report it. -/
theorem lost_event_reached : ∃ s : EventForwarding Nat, AnyRun step (new 1)
    [.subscribe, .emit 1, .emit 2, .exit, .poll, .drain, .drain, .drain] s ∧ ¬ s.Conserves := by
  have hex : ∃ s : EventForwarding Nat, AnyRun step (new 1)
      [.subscribe, .emit 1, .emit 2, .exit, .poll, .drain, .drain, .drain] s ∧
      s.account = (.done, [2], 0, [1, 2]) := anyRun_of_exec (by decide +kernel)
  obtain ⟨s, hs, haccount⟩ := hex
  simp only [account, Prod.mk.injEq] at haccount
  obtain ⟨hphase, hforwarded, hdropped, hemitted⟩ := haccount
  refine ⟨s, hs, fun h => ?_⟩
  have := (h hphase).2
  rw [hforwarded, hdropped, hemitted] at this
  cases this

end EventForwarding
end TokioSupervisor
