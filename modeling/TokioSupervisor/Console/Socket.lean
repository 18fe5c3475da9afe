import TokioSupervisor.Lib.Broadcast
import TokioSupervisor.Lib.Potential
import TokioSupervisor.Lib.Watch

/-!
# What a console's client is sent

`handle_socket` sends a client the snapshots of a watch channel and the events of a broadcast channel. The
snapshots that a client gets are in the order in which they were published, some left out, the events are in
the order in which they were broadcast, some skipped and counted; between the two there is no order. Whenever
the handler waits, the client has the last snapshot and every event that was not skipped.

Snapshots and events are of any type, and the socket is whoever takes messages or fails. The handler holds a
sender of the events itself, so that `recv` never finds the channel closed. Other sockets have receivers of
their own, and this one sees nothing of them.
-/

namespace TokioSupervisor
open Lib

/-- A text message of the socket. -/
inductive SocketMessage (σ ε : Type)
  | snapshot (data : σ)
  | event (data : ε)
deriving DecidableEq, Repr

namespace SocketMessage
variable {σ ε : Type}

def snapshot? : SocketMessage σ ε → Option σ
  | .snapshot data => some data
  | .event _ => none

def event? : SocketMessage σ ε → Option ε
  | .event data => some data
  | .snapshot _ => none

@[simp] theorem filterMap_snapshot? (message : SocketMessage σ ε) :
    [message].filterMap snapshot? = message.snapshot?.toList := by
  cases message <;> rfl

@[simp] theorem filterMap_event? (message : SocketMessage σ ε) : [message].filterMap event? = message.event?.toList := by
  cases message <;> rfl

end SocketMessage

/-- Why the handler has returned. -/
inductive SocketEnd
  | sendFailed
  /-- The client closes, or its messages have ended or failed. -/
  | clientGone
  /-- The sender of the snapshots is dropped. -/
  | sourceGone
deriving DecidableEq, Repr

/-- Where `handle_socket` stands. -/
inductive SocketPhase (σ ε : Type)
  /-- Not polled yet. -/
  | connected
  /-- At `borrow_and_update`. -/
  | borrowing
  /-- `socket.send` awaits. -/
  | sending (message : SocketMessage σ ε)
  | selecting
  | ended (why : SocketEnd)
deriving DecidableEq, Repr

/-- `seen` is the version that the receiver of the snapshots has seen, `dropped` the sum of what was logged
as skipped. `published` is recorded and never read. -/
structure ConsoleSocket (σ ε : Type) where
  snapshots : Watch σ
  events : Broadcast ε
  seen : Nat
  phase : SocketPhase σ ε
  sent : List (SocketMessage σ ε)
  dropped : Nat
  published : List σ

namespace ConsoleSocket
variable {σ ε : Type}

/-- `seen` is what the receiver in `AppState` has seen. -/
def new (snapshots : Watch σ) (capacity seen : Nat) : ConsoleSocket σ ε where
  snapshots
  events := .new capacity
  seen
  phase := .connected
  sent := []
  dropped := 0
  published := [snapshots.value]

inductive Act (σ ε : Type)
  | publish (snapshot : σ)
  | closeSource
  | emit (event : ε)
  /-- From the start to the first `borrow_and_update`, or this one. -/
  | poll
  /-- The socket has taken the message. -/
  | sent
  | fail
  /-- `changed` in the `select!`. -/
  | changed
  /-- `recv` of the events. -/
  | recv
  /-- `recv` of the socket. -/
  | client (gone : Bool)

def step (s : ConsoleSocket σ ε) : Act σ ε → Option (ConsoleSocket σ ε)
  | .publish snapshot =>
    (s.snapshots.send snapshot).map fun snapshots =>
      { s with snapshots, published := s.published ++ [snapshot] }
  | .closeSource => some { s with snapshots := s.snapshots.close }
  | .emit event => some { s with events := s.events.send event }
  | .poll =>
    match s.phase with
    | .connected => some { s with events := s.events.subscribe, phase := .borrowing }
    | .borrowing =>
      some { s with seen := s.snapshots.version, phase := .sending (.snapshot s.snapshots.value) }
    | _ => none
  | .sent =>
    match s.phase with
    | .sending message => some { s with sent := s.sent ++ [message], phase := .selecting }
    | _ => none
  | .fail =>
    match s.phase with
    | .sending _ => some { s with phase := .ended .sendFailed }
    | _ => none
  | .changed =>
    match s.phase with
    | .selecting =>
      if s.seen ≠ s.snapshots.version then
        some { s with seen := s.snapshots.version, phase := .borrowing }
      else if s.snapshots.closed then some { s with phase := .ended .sourceGone }
      else none
    | _ => none
  | .recv =>
    match s.phase, s.events.recv with
    | .selecting, (events, .message event) => some { s with events, phase := .sending (.event event) }
    | .selecting, (events, .lagged skipped) => some { s with events, dropped := s.dropped + skipped }
    | _, _ => none
  | .client gone =>
    match s.phase with
    | .selecting => some (if gone then { s with phase := .ended .clientGone } else s)
    | _ => none

/-- What the handler does while the client takes its messages. -/
def Act.own : Act σ ε → Bool
  | .poll | .sent | .changed | .recv => true
  | _ => false

/-- The messages that are sent or on their way. -/
def messages (s : ConsoleSocket σ ε) : List (SocketMessage σ ε) :=
  match s.phase with
  | .sending message => s.sent ++ [message]
  | _ => s.sent

def shown (s : ConsoleSocket σ ε) : List σ := s.messages.filterMap SocketMessage.snapshot?

def told (s : ConsoleSocket σ ε) : List ε := s.messages.filterMap SocketMessage.event?

/-- The handler awaits the `select!`, and none of the channels has anything for it. -/
def upToDate (s : ConsoleSocket σ ε) : Prop :=
  s.phase = .selecting ∧ s.step .changed = none ∧ s.step .recv = none

variable {s s' : ConsoleSocket σ ε} {a : Act σ ε} {old fresh : List σ}

/-! ### Steps -/

/-- What a step does. -/
inductive Moves (s : ConsoleSocket σ ε) : Act σ ε → ConsoleSocket σ ε → Prop
  | publish {snapshot : σ} {snapshots : Watch σ} (hs : s.snapshots.send snapshot = some snapshots) :
      Moves s (.publish snapshot) { s with snapshots, published := s.published ++ [snapshot] }
  | closeSource : Moves s .closeSource { s with snapshots := s.snapshots.close }
  | emit (event : ε) : Moves s (.emit event) { s with events := s.events.send event }
  | subscribe (hp : s.phase = .connected) :
      Moves s .poll { s with events := s.events.subscribe, phase := .borrowing }
  | borrow (hp : s.phase = .borrowing) :
      Moves s .poll { s with seen := s.snapshots.version, phase := .sending (.snapshot s.snapshots.value) }
  | sent {message : SocketMessage σ ε} (hp : s.phase = .sending message) :
      Moves s .sent { s with sent := s.sent ++ [message], phase := .selecting }
  | fail {message : SocketMessage σ ε} (hp : s.phase = .sending message) :
      Moves s .fail { s with phase := .ended .sendFailed }
  | changed (hp : s.phase = .selecting) (hseen : s.seen ≠ s.snapshots.version) :
      Moves s .changed { s with seen := s.snapshots.version, phase := .borrowing }
  | sourceGone (hp : s.phase = .selecting) (hseen : s.seen = s.snapshots.version)
      (hclosed : s.snapshots.closed = true) : Moves s .changed { s with phase := .ended .sourceGone }
  | message {events : Broadcast ε} {event : ε} (hp : s.phase = .selecting)
      (heq : s.events.recv = (events, .message event)) :
      Moves s .recv { s with events, phase := .sending (.event event) }
  | lagged {events : Broadcast ε} {skipped : Nat} (hp : s.phase = .selecting)
      (heq : s.events.recv = (events, .lagged skipped)) :
      Moves s .recv { s with events, dropped := s.dropped + skipped }
  | clientGone (hp : s.phase = .selecting) : Moves s (.client true) { s with phase := .ended .clientGone }
  | ignored (hp : s.phase = .selecting) : Moves s (.client false) s

theorem step_cases (hs : s.step a = some s') : s.Moves a s' := by
  cases a with
  | publish snapshot =>
    obtain ⟨snapshots, hsend, rfl⟩ := Option.map_eq_some_iff.1 hs
    exact .publish hsend
  | closeSource => cases hs; exact .closeSource
  | emit event => cases hs; exact .emit event
  | poll =>
    simp only [step] at hs
    split at hs
    · cases hs; exact .subscribe ‹_›
    · cases hs; exact .borrow ‹_›
    · cases hs
  | sent =>
    simp only [step] at hs
    split at hs
    · cases hs; exact .sent ‹_›
    · cases hs
  | fail =>
    simp only [step] at hs
    split at hs
    · cases hs; exact .fail ‹_›
    · cases hs
  | changed =>
    simp only [step] at hs
    split at hs
    · rename_i hp
      split at hs
      · cases hs; exact .changed hp ‹_›
      · rename_i hseen
        split at hs
        · cases hs; exact .sourceGone hp (not_not.1 hseen) ‹_›
        · cases hs
    · cases hs
  | recv =>
    simp only [step] at hs
    split at hs
    · cases hs; exact .message ‹_› ‹_›
    · cases hs; exact .lagged ‹_› ‹_›
    · cases hs
  | client gone =>
    simp only [step] at hs
    split at hs
    · cases hs
      cases gone with
      | false => exact .ignored ‹_›
      | true => exact .clientGone ‹_›
    · cases hs

/-! ### Snapshots -/

/-- The snapshots `old` were published up to the one that was borrowed last, `fresh` after it. -/
structure Watched (s : ConsoleSocket σ ε) (old fresh : List σ) : Prop where
  split : s.published = old ++ fresh
  value : s.published.getLast? = some s.snapshots.value
  sublist : s.shown.Sublist old
  last : s.phase ≠ .ended .sendFailed → s.shown.getLast? = old.getLast?
  pending : s.phase = .connected ∨ s.phase = .borrowing → fresh ≠ []
  version : (∃ message, s.phase = .sending message) ∨ s.phase = .selecting →
    s.seen + fresh.length = s.snapshots.version
  gone : s.phase = .ended .sourceGone → fresh = [] ∧ s.snapshots.closed = true

theorem new_watched (snapshots : Watch σ) (capacity seen : Nat) :
    (new snapshots capacity seen : ConsoleSocket σ ε).Watched [] [snapshots.value] where
  split := rfl
  value := rfl
  sublist := List.nil_sublist _
  last := fun _ => rfl
  pending := fun _ => List.cons_ne_nil _ _
  version := by simp [new]
  gone := by simp [new]

theorem Watched.publish (h : s.Watched old fresh) {snapshot : σ} {snapshots : Watch σ}
    (hs : s.snapshots.send snapshot = some snapshots) :
    Watched { s with snapshots, published := s.published ++ [snapshot] } old (fresh ++ [snapshot]) := by
  unfold Watch.send at hs
  split at hs
  · cases hs
  · rename_i hopen
    cases hs
    refine ⟨?_, List.getLast?_concat, h.sublist, h.last, fun _ => by simp, fun hp => ?_, fun hp => ?_⟩
    · rw [← List.append_assoc, ← h.split]
    · have hv := h.version hp
      show s.seen + (fresh ++ [snapshot]).length = s.snapshots.version + 1
      rw [List.length_append, List.length_singleton]
      omega
    · exact absurd (h.gone hp).2 hopen

theorem Watched.borrow (h : s.Watched old fresh) (hp : s.phase = .borrowing) :
    Watched { s with seen := s.snapshots.version, phase := .sending (.snapshot s.snapshots.value) }
      s.published [] := by
  have hshown : shown { s with seen := s.snapshots.version, phase := .sending (.snapshot s.snapshots.value) } =
      s.shown ++ [s.snapshots.value] := by
    simp [shown, messages, hp, SocketMessage.snapshot?]
  have hfresh : fresh.getLast? = some s.snapshots.value := by
    have hv := h.value
    rwa [h.split, List.getLast?_append_of_ne_nil _ (h.pending (.inr hp))] at hv
  obtain ⟨front, hfront⟩ := List.getLast?_eq_some_iff.1 hfresh
  refine ⟨(List.append_nil _).symm, h.value, ?_, fun _ => ?_, by simp, fun _ => rfl, by simp⟩
  · rw [hshown, h.split, hfront, ← List.append_assoc]
    exact (h.sublist.trans (List.sublist_append_left old front)).append (.refl _)
  · rw [hshown, List.getLast?_concat]
    exact h.value.symm

theorem Watched.goOn (h : s.Watched old fresh) {phase : SocketPhase σ ε}
    (hmessages : messages { s with phase } = s.messages)
    (hfailed : phase ≠ .ended .sendFailed → s.phase ≠ .ended .sendFailed)
    (hpending : phase = .connected ∨ phase = .borrowing → fresh ≠ [])
    (hversion : (∃ message, phase = .sending message) ∨ phase = .selecting →
      s.seen + fresh.length = s.snapshots.version)
    (hgone : phase = .ended .sourceGone → fresh = [] ∧ s.snapshots.closed = true) :
    Watched { s with phase } old fresh := by
  have hshown : shown { s with phase } = s.shown := by rw [shown, hmessages, shown]
  exact ⟨h.split, h.value, hshown ▸ h.sublist, fun hp => by rw [hshown]; exact h.last (hfailed hp), hpending,
    hversion, hgone⟩

theorem Watched.sent (h : s.Watched old fresh) {message : SocketMessage σ ε} (hp : s.phase = .sending message) :
    Watched { s with sent := s.sent ++ [message], phase := .selecting } old fresh := by
  have hshown : shown { s with sent := s.sent ++ [message], phase := .selecting } = s.shown := by
    simp [shown, messages, hp]
  refine ⟨h.split, h.value, hshown ▸ h.sublist, fun _ => ?_, by simp, fun _ => h.version (.inl ⟨_, hp⟩), by simp⟩
  rw [hshown]
  exact h.last (by simp [hp])

theorem Watched.step (h : s.Watched old fresh) (hs : s.step a = some s') :
    ∃ old' fresh', s'.Watched old' fresh' := by
  cases step_cases hs with
  | publish hsend => exact ⟨_, _, h.publish hsend⟩
  | closeSource =>
    exact ⟨old, fresh, h.split, h.value, h.sublist, h.last, h.pending, h.version, fun hp => ⟨(h.gone hp).1, rfl⟩⟩
  | emit event =>
    exact ⟨old, fresh, h.split, h.value, h.sublist, h.last, h.pending, h.version, h.gone⟩
  | subscribe hp =>
    refine ⟨old, fresh, h.split, h.value, ?_, fun _ => ?_, fun _ => h.pending (.inl hp), by simp, by simp⟩
    · simpa [shown, messages, hp] using h.sublist
    · simpa [shown, messages, hp] using h.last (by simp [hp])
  | borrow hp => exact ⟨_, _, h.borrow hp⟩
  | sent hp => exact ⟨_, _, h.sent hp⟩
  | @fail message hp =>
    refine ⟨old, fresh, h.split, h.value, ?_, by simp, by simp, by simp, by simp⟩
    have hle := h.sublist
    simp only [shown, messages, hp] at hle ⊢
    exact ((List.sublist_append_left s.sent [message]).filterMap _).trans hle
  | changed hp hseen =>
    have hv := h.version (.inr hp)
    refine ⟨old, fresh, h.split, h.value, ?_, fun _ => ?_, fun _ hnil => ?_, by simp, by simp⟩
    · simpa [shown, messages, hp] using h.sublist
    · simpa [shown, messages, hp] using h.last (by simp [hp])
    · rw [hnil] at hv
      exact hseen hv
  | sourceGone hp hseen hclosed =>
    have hv := h.version (.inr hp)
    have hnil : fresh = [] := List.length_eq_zero_iff.1 (by omega)
    exact ⟨old, fresh, h.goOn (by simp [messages, hp]) (fun _ => by simp [hp]) (by simp) (by simp)
      fun _ => ⟨hnil, hclosed⟩⟩
  | message hp heq =>
    refine ⟨old, fresh, h.split, h.value, ?_, fun _ => ?_, by simp, fun _ => h.version (.inr hp), by simp⟩
    · simpa [shown, messages, hp, SocketMessage.snapshot?] using h.sublist
    · simpa [shown, messages, hp, SocketMessage.snapshot?] using h.last (by simp [hp])
  | lagged hp heq =>
    exact ⟨old, fresh, h.split, h.value, h.sublist, h.last, h.pending, h.version, h.gone⟩
  | clientGone hp =>
    exact ⟨old, fresh, h.goOn (by simp [messages, hp]) (fun _ => by simp [hp]) (by simp) (by simp) (by simp)⟩
  | ignored => exact ⟨old, fresh, h⟩

/-! ### Events -/

/-- The receiver of the events, and what the client was told. -/
structure Heard (s : ConsoleSocket σ ε) : Prop where
  sublist : s.told.Sublist s.events.log
  seen : s.phase ≠ .ended .sendFailed → s.events.Seen s.told s.dropped
  fresh : s.phase = .connected → s.events.next = none ∧ s.events.log = [] ∧ s.told = [] ∧ s.dropped = 0
  subscribed : s.phase ≠ .connected → s.events.next.isSome = true

theorem new_heard (snapshots : Watch σ) (capacity seen : Nat) :
    (new snapshots capacity seen : ConsoleSocket σ ε).Heard where
  sublist := List.nil_sublist _
  seen := fun _ => .new _
  fresh := fun _ => ⟨rfl, rfl, rfl, rfl⟩
  subscribed := fun hp => absurd rfl hp

theorem Heard.emit (h : s.Heard) (event : ε) : Heard { s with events := s.events.send event } := by
  have hseen (hp : s.phase ≠ .ended .sendFailed) := (h.seen hp).send event
  unfold Broadcast.send at hseen ⊢
  split
  · rename_i hsome
    rw [if_pos hsome] at hseen
    refine ⟨h.sublist.trans (List.sublist_append_left _ _), hseen, fun hp => ?_, fun _ => hsome⟩
    rw [(h.fresh hp).1] at hsome
    cases hsome
  · exact ⟨h.sublist, h.seen, h.fresh, h.subscribed⟩

theorem Heard.congr (h : s.Heard) (hevents : s'.events = s.events) (hdropped : s'.dropped = s.dropped)
    (htold : s'.told = s.told) (hfailed : s'.phase ≠ .ended .sendFailed → s.phase ≠ .ended .sendFailed)
    (hphase : s.phase ≠ .connected) (hphase' : s'.phase ≠ .connected) : s'.Heard := by
  refine ⟨?_, fun hp => ?_, fun hp => absurd hp hphase', fun _ => ?_⟩
  · rw [htold, hevents]
    exact h.sublist
  · rw [htold, hevents, hdropped]
    exact h.seen (hfailed hp)
  · rw [hevents]
    exact h.subscribed hphase

theorem Heard.message (h : s.Heard) (hp : s.phase = .selecting) {events : Broadcast ε} {event : ε}
    (heq : s.events.recv = (events, .message event)) :
    Heard { s with events, phase := .sending (.event event) } := by
  have hseen := h.seen (by simp [hp])
  have htold : told { s with events, phase := .sending (.event event) } = s.told ++ [event] := by
    simp [told, messages, hp, SocketMessage.event?]
  rcases s.events.recv_cases with ⟨k, event', hn, hk, heq'⟩ | ⟨k, -, -, heq'⟩ | ⟨heq', -⟩
  · rw [heq] at heq'
    simp only [Prod.mk.injEq, Received.message.injEq] at heq'
    obtain ⟨rfl, rfl⟩ := heq'
    have hnext := hseen.message hn hk
    refine ⟨?_, fun _ => by rw [htold]; exact hnext, by simp, fun _ => rfl⟩
    rw [htold]
    exact hnext.sublist.trans (List.take_sublist _ _)
  · rw [heq] at heq'
    cases heq'
  · rw [heq] at heq'
    cases heq'

theorem Heard.lagged (h : s.Heard) (hp : s.phase = .selecting) {events : Broadcast ε} {skipped : Nat}
    (heq : s.events.recv = (events, .lagged skipped)) :
    Heard { s with events, dropped := s.dropped + skipped } := by
  have hseen := h.seen (by simp [hp])
  rcases s.events.recv_cases with ⟨k, event', -, -, heq'⟩ | ⟨k, hn, hlag, heq'⟩ | ⟨heq', -⟩
  · rw [heq] at heq'
    cases heq'
  · rw [heq] at heq'
    simp only [Prod.mk.injEq, Received.lagged.injEq] at heq'
    obtain ⟨rfl, rfl⟩ := heq'
    exact ⟨h.sublist, fun _ => hseen.lagged hn hlag, fun hp' => by simp [hp] at hp', fun _ => rfl⟩
  · rw [heq] at heq'
    cases heq'

theorem Heard.subscribe (h : s.Heard) (hp : s.phase = .connected) :
    Heard { s with events := s.events.subscribe, phase := .borrowing } := by
  obtain ⟨-, hlog, htold, hdropped⟩ := h.fresh hp
  have htold' : told { s with events := s.events.subscribe, phase := .borrowing } = [] := by
    simpa [told, messages, hp] using htold
  refine ⟨htold' ▸ List.nil_sublist _, fun _ => ?_, by simp, fun _ => rfl⟩
  rw [htold']
  show s.events.subscribe.Seen [] s.dropped
  rw [hdropped]
  exact .subscribe hlog

theorem Heard.step (h : s.Heard) (hs : s.step a = some s') : s'.Heard := by
  cases step_cases hs with
  | publish | closeSource => exact ⟨h.sublist, h.seen, h.fresh, h.subscribed⟩
  | emit event => exact h.emit event
  | subscribe hp => exact h.subscribe hp
  | borrow hp =>
    exact h.congr rfl rfl (by simp [told, messages, hp, SocketMessage.event?]) (fun _ => by simp [hp])
      (by simp [hp]) (by simp)
  | sent hp | changed hp | sourceGone hp | clientGone hp =>
    exact h.congr rfl rfl (by simp [told, messages, hp]) (fun _ => by simp [hp]) (by simp [hp]) (by simp)
  | @fail message hp =>
    refine ⟨?_, by simp, by simp, fun _ => h.subscribed (by simp [hp])⟩
    have hle := h.sublist
    simp only [told, messages, hp] at hle ⊢
    exact ((List.sublist_append_left s.sent [message]).filterMap _).trans hle
  | message hp heq => exact h.message hp heq
  | lagged hp heq => exact h.lagged hp heq
  | ignored => exact h

/-! ### The stream -/

/-- A client hears of no event before it has a snapshot. -/
structure Opened (s : ConsoleSocket σ ε) : Prop where
  first : ∀ message, s.messages.head? = some message → ∃ data, message = .snapshot data
  started : s.phase = .selecting → s.sent ≠ []

theorem new_opened (snapshots : Watch σ) (capacity seen : Nat) :
    (new snapshots capacity seen : ConsoleSocket σ ε).Opened where
  first := by simp [new, messages]
  started := by simp [new]

theorem Opened.congr (h : s.Opened) (hmessages : s'.messages = s.messages)
    (hstarted : s'.phase = .selecting → s'.sent ≠ []) : s'.Opened :=
  ⟨by rw [hmessages]; exact h.first, hstarted⟩

theorem Opened.step (h : s.Opened) (hs : s.step a = some s') : s'.Opened := by
  cases step_cases hs with
  | publish | closeSource | emit | lagged => exact ⟨h.first, h.started⟩
  | subscribe hp | sent hp | changed hp | sourceGone hp | clientGone hp =>
    exact h.congr (by simp [messages, hp]) (by simp)
  | borrow hp =>
    refine ⟨fun message hmessage => ?_, by simp⟩
    have hfirst := h.first
    simp only [messages, hp] at hfirst hmessage
    cases hsent : s.sent with
    | nil =>
      rw [hsent] at hmessage
      exact ⟨_, (Option.some.inj hmessage).symm⟩
    | cons head rest =>
      rw [hsent] at hmessage hfirst
      exact hfirst message hmessage
  | fail hp =>
    refine ⟨fun message' hmessage => h.first message' ?_, by simp⟩
    simp only [messages, hp] at hmessage ⊢
    rw [List.head?_append, hmessage]
    rfl
  | message hp heq =>
    refine ⟨fun message hmessage => h.first message ?_, by simp⟩
    have hne := h.started hp
    simp only [messages, hp] at hmessage ⊢
    rwa [List.head?_append_of_ne_nil _ hne] at hmessage
  | ignored => exact h

/-- What the messages that the socket has taken are. -/
structure Streams (s : ConsoleSocket σ ε) : Prop where
  /-- Snapshots in the order in which they were published, none of them twice. -/
  snapshots : (s.sent.filterMap SocketMessage.snapshot?).Sublist s.published
  /-- Events in the order in which they were broadcast since the handler has subscribed. -/
  events : (s.sent.filterMap SocketMessage.event?).Sublist s.events.log
  first : ∀ message, s.sent.head? = some message → ∃ data, message = .snapshot data
  /-- While there is no change to wake up for, the client has the last snapshot. -/
  current : s.phase = .selecting → s.step .changed = none →
    (s.sent.filterMap SocketMessage.snapshot?).getLast? = some s.snapshots.value
  /-- While there is no event to take, it has all that were not skipped. -/
  complete : s.phase = .selecting → s.step .recv = none →
    (s.sent.filterMap SocketMessage.event?).length + s.dropped = s.events.log.length
  /-- When the source goes, the client has its last snapshot. -/
  final : s.phase = .ended .sourceGone →
    (s.sent.filterMap SocketMessage.snapshot?).getLast? = some s.snapshots.value

theorem sent_prefix_messages (s : ConsoleSocket σ ε) : s.sent <+: s.messages := by
  unfold messages
  split
  · exact List.prefix_append _ _
  · exact List.prefix_rfl

theorem Watched.current (h : s.Watched old []) (hmessages : s.messages = s.sent)
    (hp : s.phase ≠ .ended .sendFailed) :
    (s.sent.filterMap SocketMessage.snapshot?).getLast? = some s.snapshots.value := by
  have hlast := h.last hp
  rw [shown, hmessages] at hlast
  rw [hlast, ← h.value, h.split, List.append_nil]

theorem streams_of (hw : s.Watched old fresh) (hh : s.Heard) (ho : s.Opened) : s.Streams := by
  have hsent := (sent_prefix_messages s).sublist
  refine ⟨?_, (hsent.filterMap _).trans hh.sublist, fun message hmessage => ?_, fun hp hrest => ?_,
    fun hp hrest => ?_, fun hp => ?_⟩
  · rw [hw.split]
    exact ((hsent.filterMap _).trans hw.sublist).trans (List.sublist_append_left _ _)
  · refine ho.first message ?_
    obtain ⟨rest, hrest⟩ := sent_prefix_messages s
    rw [← hrest, List.head?_append, hmessage]
    rfl
  · have hv := hw.version (.inr hp)
    have hseen : s.seen = s.snapshots.version := by
      by_contra hne
      simp [step, hp, hne] at hrest
    obtain rfl : fresh = [] := List.length_eq_zero_iff.1 (by omega)
    exact hw.current (by simp [messages, hp]) (by simp [hp])
  · have hseen := hh.seen (by simp [hp])
    obtain ⟨k, hk⟩ := Option.isSome_iff_exists.1 (hh.subscribed (by simp [hp]))
    rw [told, show s.messages = s.sent by simp [messages, hp]] at hseen
    rcases s.events.recv_cases with ⟨_, _, -, -, heq⟩ | ⟨_, -, -, heq⟩ | ⟨-, hall⟩
    · simp [step, hp, heq] at hrest
    · simp [step, hp, heq] at hrest
    · exact (hseen.all hk (hall k hk)).2
  · obtain ⟨rfl, -⟩ := hw.gone hp
    exact hw.current (by simp [messages, hp]) (by simp [hp])

variable {snapshots : Watch σ} {capacity seen : Nat} {as : List (Act σ ε)}

theorem run_heard (hrun : AnyRun step (new snapshots capacity seen) as s) : s.Heard :=
  hrun.invariant (new_heard snapshots capacity seen) fun _ _ _ h _ hs => h.step hs

theorem run_watched (hrun : AnyRun step (new snapshots capacity seen) as s) :
    ∃ old fresh, s.Watched old fresh :=
  hrun.invariant (I := fun s => ∃ old fresh, s.Watched old fresh) ⟨_, _, new_watched snapshots capacity seen⟩
    fun _ _ _ ⟨_, _, h⟩ _ hs => h.step hs

theorem run_opened (hrun : AnyRun step (new snapshots capacity seen) as s) : s.Opened :=
  hrun.invariant (new_opened snapshots capacity seen) fun _ _ _ h _ hs => h.step hs

/-- Whatever is published and broadcast, and however slowly the client reads. -/
theorem run_streams (hrun : AnyRun step (new snapshots capacity seen) as s) : s.Streams := by
  obtain ⟨old, fresh, hw⟩ := run_watched hrun
  exact streams_of hw (run_heard hrun) (run_opened hrun)

/-- Two events are skipped, and a snapshot is. -/
theorem run_streams_lag : ∃ s : ConsoleSocket Nat Nat, s.Streams ∧
    (s.sent, s.dropped) = ([.snapshot 0, .event 3, .snapshot 2], 2) := by
  have hex : ∃ s : ConsoleSocket Nat Nat, AnyRun step (new ⟨0, 0, false⟩ 1 0)
      [.poll, .poll, .emit 1, .emit 2, .emit 3, .publish 1, .publish 2, .sent, .recv, .recv, .sent, .changed,
        .poll, .sent] s ∧ (s.sent, s.dropped) = ([.snapshot 0, .event 3, .snapshot 2], 2) :=
    anyRun_of_exec (by decide +kernel)
  obtain ⟨s, hrun, hs⟩ := hex
  exact ⟨s, run_streams hrun, hs⟩

/-! ### Catching up -/

/-- The events that the receiver has not come to. -/
def unread (s : ConsoleSocket σ ε) : Nat := (s.events.next.map (s.events.log.length - ·)).getD 0

/-- The steps to a message, or to the end. -/
def phaseWork : SocketPhase σ ε → Nat
  | .connected => 4
  | .borrowing => 3
  | .sending _ => 2
  | .selecting => 1
  | .ended _ => 0

/-- A bound on what the handler has left to do. -/
def work (s : ConsoleSocket σ ε) : Nat :=
  phaseWork s.phase + (if s.seen = s.snapshots.version then 0 else 3) + 2 * s.unread

/-- What the source adds to it. -/
def Act.price : Act σ ε → Nat
  | .publish _ => 3
  | .emit _ => 2
  | _ => 0

/-- Whatever the receiver gets lets it come nearer to the end. -/
theorem unread_recv {events : Broadcast ε} {received : Received ε} (heq : s.events.recv = (events, received)) :
    received = .empty ∨ unread { s with events } < s.unread := by
  rcases s.events.recv_cases with ⟨k, event, hn, hk, heq'⟩ | ⟨k, hn, hlag, heq'⟩ | ⟨heq', -⟩
  · rw [heq] at heq'
    cases heq'
    obtain ⟨hlt, -⟩ := List.getElem?_eq_some_iff.1 hk
    refine .inr ?_
    simp only [unread, hn, Option.map_some, Option.getD_some]
    omega
  · rw [heq] at heq'
    cases heq'
    have hlt := of_decide_eq_true hlag
    refine .inr ?_
    simp only [unread, hn, Option.map_some, Option.getD_some]
    omega
  · rw [heq] at heq'
    cases heq'
    exact .inl rfl

theorem unread_send (s : ConsoleSocket σ ε) (event : ε) :
    unread { s with events := s.events.send event } ≤ s.unread + 1 := by
  unfold Broadcast.send
  split
  · obtain ⟨k, hk⟩ := Option.isSome_iff_exists.1 ‹_›
    simp only [unread, hk, Option.map_some, Option.getD_some, List.length_append, List.length_singleton]
    omega
  · exact Nat.le_succ _

theorem work_lowers (ha : a.own = true) (hs : s.step a = some s') : s'.work < s.work := by
  cases step_cases hs with
  | subscribe hp =>
    simp only [work, phaseWork, unread, hp, Broadcast.subscribe, Option.map_some, Option.getD_some, Nat.sub_self]
    omega
  | borrow hp =>
    simp only [work, phaseWork, unread, hp, if_true]
    omega
  | sent hp | sourceGone hp =>
    simp only [work, phaseWork, unread, hp]
    omega
  | changed hp hseen =>
    simp only [work, phaseWork, unread, hp, if_neg hseen, if_true]
    omega
  | message hp heq =>
    have hlt := (unread_recv heq).resolve_left (by simp)
    simp only [unread] at hlt
    simp only [work, phaseWork, unread, hp]
    omega
  | lagged hp heq =>
    have hlt := (unread_recv heq).resolve_left (by simp)
    simp only [unread] at hlt
    simp only [work, unread]
    omega
  | _ => cases ha

theorem work_raises (ha : a.own = false) (hs : s.step a = some s') : s'.work ≤ s.work + a.price := by
  cases step_cases hs with
  | publish hsend =>
    simp only [work, unread, Act.price]
    split <;> omega
  | emit event =>
    have hle := unread_send s event
    simp only [unread] at hle
    simp only [work, unread, Act.price]
    omega
  | closeSource => exact Nat.le_refl _
  | fail hp | clientGone hp =>
    simp only [work, phaseWork, unread, hp]
    omega
  | ignored => exact Nat.le_add_right _ _
  | _ => cases ha

theorem paid : Paid (step (σ := σ) (ε := ε)) (fun _ => True) work Act.own Act.price where
  keeps := fun _ _ _ _ _ => trivial
  lowers := fun _ _ _ _ ha hs => work_lowers ha hs
  raises := fun _ _ _ _ ha hs => work_raises ha hs

/-- Where the handler has nothing to do it has returned, or the client is up to date. -/
theorem rest_cases (h : AtRest step Act.own s) : s.upToDate ∨ ∃ why, s.phase = .ended why := by
  cases hp : s.phase with
  | connected | borrowing =>
    have hpoll := h .poll rfl
    simp [step, hp] at hpoll
  | sending message =>
    have hsent := h .sent rfl
    simp [step, hp] at hsent
  | selecting => exact .inl ⟨hp, h .changed rfl, h .recv rfl⟩
  | ended why => exact .inr ⟨why, rfl⟩

theorem recv_log {c : Broadcast ε} {events : Broadcast ε} {received : Received ε}
    (heq : c.recv = (events, received)) : events.log = c.log := by
  rcases c.recv_cases with ⟨k, event, -, -, heq'⟩ | ⟨k, -, -, heq'⟩ | ⟨heq', -⟩
  all_goals
    rw [heq] at heq'
    cases heq'
    rfl

/-- What the handler does leaves the channels as they are, and ends only when the source is gone. -/
theorem own_step (ha : a.own = true) (hs : s.step a = some s') : s'.snapshots = s.snapshots ∧
    s'.events.log = s.events.log ∧ ∀ why, s'.phase = .ended why → s.phase = .ended why ∨ why = .sourceGone := by
  cases step_cases hs with
  | subscribe | borrow | sent | changed | sourceGone => exact ⟨rfl, rfl, by simp⟩
  | message hp heq => exact ⟨rfl, recv_log heq, by simp⟩
  | lagged hp heq => exact ⟨rfl, recv_log heq, by simp [hp]⟩
  | _ => cases ha

theorem own_run {s₀ : ConsoleSocket σ ε} {as : List (Act σ ε)} (hrun : Run step (fun _ a => a.own = true) s₀ as s)
    (hopen : ∀ why, s₀.phase ≠ .ended why) : s.snapshots = s₀.snapshots ∧ s.events.log = s₀.events.log ∧
      ∀ why, s.phase = .ended why → why = .sourceGone := by
  refine hrun.invariant (I := fun s => s.snapshots = s₀.snapshots ∧ s.events.log = s₀.events.log ∧
    ∀ why, s.phase = .ended why → why = .sourceGone) ⟨rfl, rfl, fun why hp => absurd hp (hopen why)⟩ ?_
  rintro s₁ a s₂ ⟨hw, he, hend⟩ ha hs
  obtain ⟨hw', he', hend'⟩ := own_step ha hs
  exact ⟨hw'.trans hw, he'.trans he, fun why hp => (hend' why hp).elim (hend why) id⟩

/-- The client has what was published and broadcast by the time of `s`, or the handler has found the source
gone and has sent its last snapshot. -/
structure CatchesUp (s s' : ConsoleSocket σ ε) : Prop where
  snapshot : (s'.sent.filterMap SocketMessage.snapshot?).getLast? = some s.snapshots.value
  events : s'.phase = .ended .sourceGone ∨
    s'.upToDate ∧ (s'.sent.filterMap SocketMessage.event?).length + s'.dropped = s.events.log.length

/-- From wherever a run has got to, the handler takes no more steps than the work that is left while the client
takes its messages, and it comes to rest. If nothing more is published, and the handler has not returned, the
client is up to date then. -/
theorem run_catches_up (hrun : AnyRun step (new snapshots capacity seen) as s) :
    as.countP Act.own + s.work ≤ work (new snapshots capacity seen : ConsoleSocket σ ε) + (as.map Act.price).sum ∧
    (∀ as' s', Run step (fun _ a => a.own = true) s as' s' → as'.length + s'.work ≤ s.work) ∧
    (∃ as' s', Run step (fun _ a => a.own = true) s as' s' ∧ AtRest step Act.own s') ∧
    ((∀ why, s.phase ≠ .ended why) → ∀ as' s', Run step (fun _ a => a.own = true) s as' s' →
      AtRest step Act.own s' → s.CatchesUp s') := by
  refine ⟨paid.count_add_le trivial hrun, fun as' s' => paid.length_add_le trivial, paid.settles trivial,
    fun hopen as' s' hrun' hrest => ?_⟩
  obtain ⟨hw, he, hend⟩ := own_run hrun' hopen
  have hstreams := run_streams (hrun.trans hrun'.any)
  rcases rest_cases hrest with hup | ⟨why, hp⟩
  · obtain ⟨hp, hchanged, hrecv⟩ := hup
    refine ⟨?_, .inr ⟨⟨hp, hchanged, hrecv⟩, ?_⟩⟩
    · rw [hstreams.current hp hchanged, hw]
    · rw [hstreams.complete hp hrecv, he]
  · obtain rfl := hend why hp
    exact ⟨by rw [hstreams.final hp, hw], .inl hp⟩

/-- The source has gone while the handler was sending. -/
theorem run_catches_up_gone : ∃ (s : ConsoleSocket Nat Nat) (as' : List (Act Nat Nat)) (s' : ConsoleSocket Nat Nat),
    Run step (fun _ a => a.own = true) s as' s' ∧ as'.length ≤ s.work ∧
      (s'.sent.filterMap SocketMessage.snapshot?).getLast? = some 2 := by
  have hex : ∃ s : ConsoleSocket Nat Nat, AnyRun step (new ⟨0, 0, false⟩ 1 0)
      [.poll, .poll, .emit 1, .publish 1, .publish 2, .closeSource] s ∧
      (s.phase, s.snapshots.value) = (.sending (.snapshot 0), 2) := anyRun_of_exec (by decide +kernel)
  obtain ⟨s, hrun, hs⟩ := hex
  simp only [Prod.mk.injEq] at hs
  obtain ⟨-, hbound, ⟨as', s', hrun', hrest⟩, hup⟩ := run_catches_up hrun
  have hcaught := hup (by simp [hs.1]) as' s' hrun' hrest
  exact ⟨s, as', s', hrun', Nat.le_trans (Nat.le_add_right _ _) (hbound as' s' hrun'), hs.2 ▸ hcaught.snapshot⟩

end ConsoleSocket
end TokioSupervisor
