import TokioSupervisor.Lib.Broadcast
import TokioSupervisor.Lib.Run
import TokioSupervisor.Snapshot
import Mathlib.Logic.Function.Basic

/-!
# Events from any depth

Each supervisor broadcasts its own events, and the wrapper of a nested one passes what its receiver gets on
to the channel of the parent, wrapped in `Nested`. Whatever the depth and the interleaving, the events that
arrive somewhere from one supervisor are in the order in which that one emitted them, none twice, and their
`path` names the way; and where no receiver lags and none came too late, all of them arrive (`Within`).

Supervisors are numbered; `forwarders` gives for each nested one, over all that will ever run, the channel
of its parent and its segment. The receiver of a supervisor without a forwarder is a subscriber. When a
wrapper receives is left open. `via` says through which supervisors an event came; no transition reads it.
-/

namespace TokioSupervisor
open Lib

structure EventPathSegment where
  id : String
  generation : Nat
deriving DecidableEq, Repr

namespace SupervisorEvent

def collectPath : SupervisorEvent → List EventPathSegment → List EventPathSegment
  | .nested id generation event, path => event.collectPath (path ++ [⟨id, generation⟩])
  | _, path => path

def path (event : SupervisorEvent) : List EventPathSegment := event.collectPath []

def leaf : SupervisorEvent → SupervisorEvent
  | .nested _ _ event => event.leaf
  | event => event

/-- A supervisor emits this itself. -/
def isOwn : SupervisorEvent → Bool
  | .nested .. => false
  | _ => true

theorem collectPath_eq (event : SupervisorEvent) :
    ∀ path, event.collectPath path = path ++ event.path := by
  induction event with
  | nested id generation event ih =>
    intro path
    rw [SupervisorEvent.path, collectPath, collectPath, ih, ih ([] ++ _), List.nil_append, List.append_assoc]
  | _ => exact fun path => (List.append_nil path).symm

@[simp] theorem path_nested (id : String) (generation : Nat) (event : SupervisorEvent) :
    (nested id generation event).path = ⟨id, generation⟩ :: event.path :=
  collectPath_eq event _

@[simp] theorem leaf_nested (id : String) (generation : Nat) (event : SupervisorEvent) :
    (nested id generation event).leaf = event.leaf := rfl

theorem path_own {event : SupervisorEvent} (h : event.isOwn = true) : event.path = [] := by
  cases event <;> first | rfl | cases h

theorem leaf_own {event : SupervisorEvent} (h : event.isOwn = true) : event.leaf = event := by
  cases event <;> first | rfl | cases h

end SupervisorEvent

/-- The wrapper's `NestedEventForwarder`: the supervisor whose channel it sends to, and its segment there. -/
structure NestedEventForwarder where
  parent : Nat
  segment : EventPathSegment
deriving DecidableEq, Repr

/-- An event with the supervisors that it came through, the nearest first. -/
structure Relayed where
  via : List Nat
  event : SupervisorEvent
deriving DecidableEq

/-- `emitted` are the supervisor's own events, `received` is what the receiver of its channel got. -/
structure EventLevel where
  events : Broadcast Relayed
  emitted : List SupervisorEvent
  received : List Relayed

/-- All supervisors. -/
structure EventTree where
  level : Nat → EventLevel

namespace EventTree

def new (capacity : Nat → Nat) : EventTree := ⟨fun n => ⟨.new (capacity n), [], []⟩⟩

def setLevel (t : EventTree) (n : Nat) (level : EventLevel) : EventTree := ⟨Function.update t.level n level⟩

/-- The channel of `n` gets an event. -/
def broadcast (t : EventTree) (n : Nat) (event : Relayed) : EventTree :=
  t.setLevel n { t.level n with events := (t.level n).events.send event }

def record (t : EventTree) (n : Nat) (event : SupervisorEvent) : EventTree :=
  t.setLevel n { t.level n with emitted := (t.level n).emitted ++ [event] }

/-- The receiver of `n` stands at `k`. -/
def seek (t : EventTree) (n k : Nat) : EventTree :=
  t.setLevel n { t.level n with events := { (t.level n).events with next := some k } }

def take (t : EventTree) (n : Nat) (event : Relayed) : EventTree :=
  t.setLevel n { t.level n with received := (t.level n).received ++ [event] }

/-- What the wrapper of `n` makes of an event. -/
def wrap (n : Nat) (event : Relayed) (forwarder : NestedEventForwarder) : Relayed :=
  ⟨n :: event.via, .nested forwarder.segment.id forwarder.segment.generation event.event⟩

/-- `forward_nested_event`, in the wrapper of `n`. -/
def forwardNestedEvent (t : EventTree) (n : Nat) (event : Relayed) :
    Option NestedEventForwarder → EventTree
  | some forwarder => t.broadcast forwarder.parent (wrap n event forwarder)
  | none => t

inductive Act
  | emit (n : Nat) (event : SupervisorEvent)
  | subscribe (n : Nat)
  /-- `recv` or `try_recv` of the channel of `n`, and `handle_nested_event` or its like. -/
  | recv (n : Nat)
deriving DecidableEq

variable (forwarders : Nat → Option NestedEventForwarder)

def step (t : EventTree) : Act → Option EventTree
  | .emit n event =>
    if event.isOwn then some ((t.record n event).broadcast n ⟨[], event⟩) else none
  | .subscribe n =>
    if (t.level n).events.next.isSome then none
    else some (t.setLevel n { t.level n with events := (t.level n).events.subscribe })
  | .recv n =>
    match (t.level n).events.recv with
    | (events, .message event) =>
      some (((t.setLevel n { t.level n with events }).take n event).forwardNestedEvent n event (forwarders n))
    | (events, _) => some (t.setLevel n { t.level n with events })

/-- No receiver lags, and an event finds its channel with a receiver. -/
def losesNone (t : EventTree) : Act → Bool
  | .emit n _ => (t.level n).events.next.isSome
  | .subscribe _ => true
  | .recv n => (t.level n).events.next.all (fun k => !(t.level n).events.lagsAt k) &&
      (forwarders n).all fun forwarder => (t.level forwarder.parent).events.next.isSome

/-- No receiver has anything to take. -/
def AllRead (t : EventTree) : Prop :=
  ∀ n, (t.level n).events.next.getD 0 = (t.level n).events.log.length

/-- The supervisor at the end of the way. -/
def origin (n : Nat) (via : List Nat) : Nat := via.getLast?.getD n

/-- The segments along a way down from `n`, if it is one. -/
def segments (n : Nat) : List Nat → Option (List EventPathSegment)
  | [] => some []
  | c :: via =>
    match forwarders c with
    | some forwarder =>
      if forwarder.parent = n then (segments c via).map (forwarder.segment :: ·) else none
    | none => none

/-- What has come along the way, as it was emitted. -/
def heard (via : List Nat) (received : List Relayed) : List SupervisorEvent :=
  (received.filter (·.via = via)).map (·.event.leaf)

/-! ### What has come through a channel -/

/-- An event of the supervisor itself. -/
def own (event : Relayed) : Option SupervisorEvent := if event.via.isEmpty then some event.event else none

/-- An event that the wrapper of `n` has forwarded, as it got it. -/
def strip (n : Nat) (event : Relayed) : Option Relayed :=
  match event.via, event.event with
  | c :: via, .nested _ _ inner => if c = n then some ⟨via, inner⟩ else none
  | _, _ => none

/-- An event on the channel of `n` is one of its own, or comes from the wrapper of one of its children. -/
inductive Sourced (n : Nat) : Relayed → Prop
  | own {event : SupervisorEvent} (h : event.isOwn = true) : Sourced n ⟨[], event⟩
  | nested {c : Nat} {via : List Nat} {event : SupervisorEvent} {forwarder : NestedEventForwarder}
      (hc : forwarders c = some forwarder) (hn : forwarder.parent = n) :
      Sourced n ⟨c :: via, .nested forwarder.segment.id forwarder.segment.generation event⟩

/-- What the channels and the receivers have, against what went into them; `due n` is yet to be broadcast on
the channel of `n`. -/
structure Traced (exact : Prop) (t : EventTree) (due : Nat → List Relayed) : Prop where
  own : ∀ n, Within exact (((t.level n).events.log ++ due n).filterMap own) (t.level n).emitted
  relayed : ∀ n forwarder, forwarders n = some forwarder →
    Within exact (((t.level forwarder.parent).events.log ++ due forwarder.parent).filterMap (strip n))
      (t.level n).received
  got : ∀ n, Within exact (t.level n).received
    ((t.level n).events.log.take ((t.level n).events.next.getD 0))
  le : ∀ n, (t.level n).events.next.getD 0 ≤ (t.level n).events.log.length
  unread : ∀ n, (t.level n).events.next = none → (t.level n).events.log = [] ∧ (t.level n).received = []
  sourced : ∀ n, ∀ event ∈ (t.level n).events.log ++ due n, Sourced forwarders n event

/-- One event that is due. -/
def due (n : Nat) (event : Relayed) : Nat → List Relayed := fun m => if m = n then [event] else []

/-- The wrapper of `n` is yet to forward an event. -/
def relay (n : Nat) (event : Relayed) : Option NestedEventForwarder → Nat → List Relayed
  | some forwarder => due forwarder.parent (wrap n event forwarder)
  | none => fun _ => []

variable {forwarders} {exact : Prop} {t t' : EventTree} {n m k : Nat}

theorem new_traced (capacity : Nat → Nat) : Traced forwarders exact (new capacity) fun _ => [] where
  own := fun _ => .refl _
  relayed := fun _ _ _ => .refl _
  got := fun _ => .refl _
  le := fun _ => Nat.le_refl 0
  unread := fun _ _ => ⟨rfl, rfl⟩
  sourced := fun _ _ hm => absurd hm List.not_mem_nil

theorem setLevel_level {level : EventLevel} :
    (t.setLevel n level).level m = if m = n then level else t.level m :=
  Function.update_apply ..

theorem level_setLevel {level : EventLevel} : (t.setLevel n level).level n = level :=
  setLevel_level.trans (if_pos rfl)

theorem setLevel_setLevel {level level' : EventLevel} :
    (t.setLevel n level).setLevel n level' = t.setLevel n level' :=
  congrArg EventTree.mk (Function.update_idem ..)

/-- A level that is set to what agrees with it in a field does not change in this field. -/
theorem setLevel_field {α : Type} (f : EventLevel → α) {level : EventLevel} (hf : f level = f (t.level n)) :
    f ((t.setLevel n level).level m) = f (t.level m) := by
  rw [setLevel_level]
  split
  · rename_i hm
    rw [hm, hf]
  · rfl

theorem Traced.own_log (h : Traced forwarders exact t fun _ => []) (n : Nat) :
    Within exact ((t.level n).events.log.filterMap EventTree.own) (t.level n).emitted := by
  have hown := h.own n
  rwa [List.append_nil] at hown

theorem Traced.relayed_log (h : Traced forwarders exact t fun _ => []) {forwarder : NestedEventForwarder}
    (hn : forwarders n = some forwarder) :
    Within exact ((t.level forwarder.parent).events.log.filterMap (strip n)) (t.level n).received := by
  have hrelayed := h.relayed n forwarder hn
  rwa [List.append_nil] at hrelayed

/-! ### Each part of a step -/

theorem Traced.broadcast {event : Relayed} (h : Traced forwarders exact t (due n event))
    (hok : exact → (t.level n).events.next.isSome = true) :
    Traced forwarders exact (t.broadcast n event) fun _ => [] := by
  have hlog (m : Nat) : Within exact (((t.broadcast n event).level m).events.log ++ [])
      ((t.level m).events.log ++ due n event m) := by
    rw [List.append_nil, EventTree.broadcast, setLevel_level, due]
    split
    · rename_i hm
      subst hm
      exact (t.level m).events.within_send event hok
    · rw [List.append_nil]
      exact .refl _
  have hkept (m : Nat) : (t.level m).events.log <+: ((t.broadcast n event).level m).events.log := by
    rw [EventTree.broadcast, setLevel_level]
    split
    · rename_i hm
      subst hm
      exact (t.level m).events.prefix_send_log event
    · exact List.prefix_rfl
  have hnext (m : Nat) : ((t.broadcast n event).level m).events.next = (t.level m).events.next :=
    setLevel_field (·.events.next) ((t.level n).events.send_next event)
  have hemitted (m : Nat) : ((t.broadcast n event).level m).emitted = (t.level m).emitted :=
    setLevel_field (·.emitted) rfl
  have hreceived (m : Nat) : ((t.broadcast n event).level m).received = (t.level m).received :=
    setLevel_field (·.received) rfl
  refine ⟨fun m => ?_, fun m forwarder hm => ?_, fun m => ?_, fun m => ?_, fun m hm => ?_, fun m x hx => ?_⟩
  · rw [hemitted]
    exact ((hlog m).filterMap _).trans (h.own m)
  · rw [hreceived]
    exact ((hlog forwarder.parent).filterMap _).trans (h.relayed m forwarder hm)
  · obtain ⟨rest, hr⟩ := hkept m
    rw [hreceived, hnext, ← hr, List.take_append_of_le_length (h.le m)]
    exact h.got m
  · rw [hnext]
    exact Nat.le_trans (h.le m) (hkept m).length_le
  · rw [hnext] at hm
    obtain ⟨hnil, hnone⟩ := h.unread m hm
    refine ⟨?_, (hreceived m).trans hnone⟩
    rw [EventTree.broadcast, setLevel_level]
    split
    · rename_i he
      subst he
      simp [Broadcast.send, hm, hnil]
    · exact hnil
  · exact h.sourced m x ((hlog m).1.subset hx)

theorem Traced.record {event : SupervisorEvent} (h : Traced forwarders exact t fun _ => [])
    (ho : event.isOwn = true) : Traced forwarders exact (t.record n event) (due n ⟨[], event⟩) := by
  have hevents (m : Nat) : ((t.record n event).level m).events = (t.level m).events :=
    setLevel_field (·.events) rfl
  have hreceived (m : Nat) : ((t.record n event).level m).received = (t.level m).received :=
    setLevel_field (·.received) rfl
  refine ⟨fun m => ?_, fun m forwarder hm => ?_, fun m => ?_, fun m => ?_, fun m => ?_, fun m x hx => ?_⟩
  · rw [hevents, EventTree.record, setLevel_level, List.filterMap_append, due]
    split
    · rename_i hm
      subst hm
      exact (h.own_log m).concat event
    · rw [List.filterMap_nil, List.append_nil]
      exact h.own_log m
  · have hnone : (due n ⟨[], event⟩ forwarder.parent).filterMap (strip m) = [] := by
      unfold due
      split <;> rfl
    rw [hevents, hreceived, List.filterMap_append, hnone, List.append_nil]
    exact h.relayed_log hm
  · rw [hevents, hreceived]
    exact h.got m
  · rw [hevents]
    exact h.le m
  · rw [hevents, hreceived]
    exact h.unread m
  · rw [hevents] at hx
    rcases List.mem_append.1 hx with hx | hx
    · exact h.sourced m x (List.mem_append_left _ hx)
    · unfold due at hx
      split at hx
      · rw [List.mem_singleton.1 hx]
        exact .own ho
      · cases hx

theorem Traced.seek (h : Traced forwarders exact t fun _ => [])
    (hgot : Within exact (t.level n).received ((t.level n).events.log.take k))
    (hle : k ≤ (t.level n).events.log.length) : Traced forwarders exact (t.seek n k) fun _ => [] := by
  have hlog (m : Nat) : ((t.seek n k).level m).events.log = (t.level m).events.log :=
    setLevel_field (·.events.log) rfl
  have hemitted (m : Nat) : ((t.seek n k).level m).emitted = (t.level m).emitted :=
    setLevel_field (·.emitted) rfl
  have hreceived (m : Nat) : ((t.seek n k).level m).received = (t.level m).received :=
    setLevel_field (·.received) rfl
  refine ⟨fun m => ?_, fun m forwarder hm => ?_, fun m => ?_, fun m => ?_, fun m hm => ?_, fun m => ?_⟩
  · rw [hlog, hemitted]
    exact h.own m
  · rw [hlog, hreceived]
    exact h.relayed m forwarder hm
  · rw [hlog, hreceived, EventTree.seek, setLevel_level]
    split
    · rename_i hm
      subst hm
      exact hgot
    · exact h.got m
  · rw [hlog, EventTree.seek, setLevel_level]
    split
    · rename_i hm
      subst hm
      exact hle
    · exact h.le m
  · rw [hlog, hreceived]
    refine h.unread m ?_
    rw [EventTree.seek, setLevel_level] at hm
    split at hm
    · cases hm
    · exact hm
  · rw [hlog]
    exact h.sourced m

theorem strip_wrap (event : Relayed) (forwarder : NestedEventForwarder) :
    strip m (wrap n event forwarder) = if n = m then some event else none := rfl

theorem own_relay (event : Relayed) : (relay n event (forwarders n) m).filterMap own = [] := by
  cases forwarders n with
  | none => rfl
  | some forwarder =>
    rw [relay, due]
    split <;> rfl

theorem strip_relay {event : Relayed} {forwarder : NestedEventForwarder} (hm : forwarders m = some forwarder) :
    (relay n event (forwarders n) forwarder.parent).filterMap (strip m) = if m = n then [event] else [] := by
  by_cases he : m = n
  · subst he
    rw [if_pos rfl, hm, relay, due, if_pos rfl, List.filterMap_cons, strip_wrap, if_pos rfl, List.filterMap_nil]
  · rw [if_neg he]
    refine List.filterMap_eq_nil_iff.2 fun x hx => ?_
    cases hn : forwarders n with
    | none =>
      rw [hn] at hx
      cases hx
    | some other =>
      rw [hn, relay, due] at hx
      split at hx
      · rw [List.mem_singleton.1 hx, strip_wrap]
        exact if_neg (Ne.symm he)
      · cases hx

theorem take_seek_next (event : Relayed) : (((t.seek n k).take n event).level m).events.next =
    if m = n then some k else (t.level m).events.next := by
  rw [show (((t.seek n k).take n event).level m).events = ((t.seek n k).level m).events from
    setLevel_field (·.events) rfl, EventTree.seek, setLevel_level]
  split <;> rfl

theorem Traced.take {event : Relayed} (h : Traced forwarders exact t fun _ => [])
    (hn : (t.level n).events.next = some k) (hk : (t.level n).events.log[k]? = some event) :
    Traced forwarders exact ((t.seek n (k + 1)).take n event) (relay n event (forwarders n)) := by
  have hlog (m : Nat) : (((t.seek n (k + 1)).take n event).level m).events.log = (t.level m).events.log :=
    calc (((t.seek n (k + 1)).take n event).level m).events.log
      _ = ((t.seek n (k + 1)).level m).events.log := setLevel_field (·.events.log) rfl
      _ = (t.level m).events.log := setLevel_field (·.events.log) rfl
  have hemitted (m : Nat) : (((t.seek n (k + 1)).take n event).level m).emitted = (t.level m).emitted :=
    calc (((t.seek n (k + 1)).take n event).level m).emitted
      _ = ((t.seek n (k + 1)).level m).emitted := setLevel_field (·.emitted) rfl
      _ = (t.level m).emitted := setLevel_field (·.emitted) rfl
  have hnext (m : Nat) : (((t.seek n (k + 1)).take n event).level m).events.next =
      if m = n then some (k + 1) else (t.level m).events.next := take_seek_next event
  have hreceived (m : Nat) : (((t.seek n (k + 1)).take n event).level m).received =
      (t.level m).received ++ if m = n then [event] else [] := by
    rw [EventTree.take, setLevel_level, EventTree.seek, setLevel_level, setLevel_level]
    split
    · rename_i hm
      subst hm
      rw [if_pos rfl]
    · exact (List.append_nil _).symm
  obtain ⟨hlt, -⟩ := List.getElem?_eq_some_iff.1 hk
  refine ⟨fun m => ?_, fun m forwarder hm => ?_, fun m => ?_, fun m => ?_, fun m hm => ?_, fun m x hx => ?_⟩
  · rw [hlog, hemitted, List.filterMap_append, own_relay, List.append_nil]
    exact h.own_log m
  · rw [hlog, hreceived, List.filterMap_append, strip_relay hm]
    split
    · exact (h.relayed_log hm).concat event
    · rw [List.append_nil, List.append_nil]
      exact h.relayed_log hm
  · rw [hlog, hreceived, hnext]
    split
    · rename_i hm
      subst hm
      have hgot := h.got m
      rw [hn] at hgot
      rw [Option.getD_some, List.take_add_one, hk]
      exact hgot.concat event
    · rw [List.append_nil]
      exact h.got m
  · rw [hlog, hnext]
    split
    · rename_i hm
      subst hm
      exact hlt
    · exact h.le m
  · rw [hnext] at hm
    split at hm
    · cases hm
    · rename_i hne
      obtain ⟨hnil, hnone⟩ := h.unread m hm
      rw [hlog, hreceived, if_neg hne, List.append_nil]
      exact ⟨hnil, hnone⟩
  · rw [hlog] at hx
    rcases List.mem_append.1 hx with hx | hx
    · exact h.sourced m x (List.mem_append_left _ hx)
    · cases hf : forwarders n with
      | none =>
        rw [hf] at hx
        cases hx
      | some forwarder =>
        rw [hf, relay, due] at hx
        split at hx
        · rename_i hm
          rw [List.mem_singleton.1 hx]
          exact .nested hf hm.symm
        · cases hx

theorem Traced.forwardNestedEvent {event : Relayed} (h : Traced forwarders exact t (relay n event (forwarders n)))
    (hok : exact → (forwarders n).all fun forwarder => (t.level forwarder.parent).events.next.isSome) :
    Traced forwarders exact (t.forwardNestedEvent n event (forwarders n)) fun _ => [] := by
  cases hf : forwarders n with
  | none =>
    rw [hf] at h
    exact h
  | some forwarder =>
    rw [hf] at h hok
    exact h.broadcast hok

theorem Traced.step {a : Act} (h : Traced forwarders exact t fun _ => [])
    (hok : exact → t.losesNone forwarders a = true) (hs : t.step forwarders a = some t') :
    Traced forwarders exact t' fun _ => [] := by
  cases a with
  | emit n event =>
    simp only [EventTree.step] at hs
    split at hs
    · rename_i ho
      cases hs
      refine (h.record ho).broadcast fun he => ?_
      rw [show ((t.record n event).level n).events.next = (t.level n).events.next from
        setLevel_field (·.events.next) rfl]
      exact hok he
    · cases hs
  | subscribe n =>
    simp only [EventTree.step] at hs
    split at hs
    · cases hs
    · rename_i hnone
      cases hs
      obtain ⟨hnil, hreceived⟩ := h.unread n (Option.not_isSome_iff_eq_none.1 hnone)
      refine h.seek ?_ (Nat.le_refl _)
      rw [hnil, hreceived]
      exact .refl []
  | recv n =>
    obtain ⟨k, event, hn, hk, hr⟩ | ⟨k, hn, hlag, hr⟩ | ⟨hr, -⟩ := (t.level n).events.recv_cases
    · simp only [EventTree.step, hr] at hs
      cases hs
      refine (h.take hn hk).forwardNestedEvent fun he => ?_
      have hall := (Bool.and_eq_true_iff.1 (hok he)).2
      cases hf : forwarders n with
      | none => rfl
      | some forwarder =>
        rw [hf] at hall
        show (((t.seek n (k + 1)).take n event).level forwarder.parent).events.next.isSome = true
        rw [take_seek_next]
        split
        · rfl
        · exact hall
    · simp only [EventTree.step, hr] at hs
      cases hs
      have hne : ¬ exact := fun he => by simpa [losesNone, hn, hlag] using hok he
      have hlt : k + (t.level n).events.capacity < (t.level n).events.log.length := of_decide_eq_true hlag
      have hgot := h.got n
      rw [hn, Option.getD_some] at hgot
      exact h.seek (hgot.lost hne (List.take_sublist_take_left (by omega))) (Nat.sub_le _ _)
    · simp only [EventTree.step, hr] at hs
      cases hs
      rw [setLevel, Function.update_eq_self]
      exact h

/-! ### Along the whole way -/

theorem run_traced {as : List Act} {capacity : Nat → Nat}
    (h : Run (step forwarders) (fun t a => exact → t.losesNone forwarders a = true) (new capacity) as t) :
    Traced forwarders exact t fun _ => [] :=
  h.invariant (I := fun t => Traced forwarders exact t fun _ => []) (new_traced _) fun _ _ _ ht hok hs =>
    ht.step hok hs

theorem segments_cons {c : Nat} {via : List Nat} {path : List EventPathSegment} :
    segments forwarders n (c :: via) = some path ↔ ∃ forwarder rest, forwarders c = some forwarder ∧
      forwarder.parent = n ∧ segments forwarders c via = some rest ∧ path = forwarder.segment :: rest := by
  rw [segments]
  cases hc : forwarders c with
  | none => simp
  | some forwarder =>
    by_cases hn : forwarder.parent = n
    · dsimp only
      rw [if_pos hn, Option.map_eq_some_iff]
      constructor
      · rintro ⟨rest, hrest, rfl⟩
        exact ⟨forwarder, rest, rfl, hn, hrest, rfl⟩
      · rintro ⟨_, rest, hf, -, hrest, rfl⟩
        cases hf
        exact ⟨rest, hrest, rfl⟩
    · simp [hn]

/-- What a channel has is what its receiver gets, as far as nothing is lost. -/
theorem Traced.received (h : Traced forwarders exact t fun _ => []) (hread : exact → t.AllRead) (n : Nat) :
    Within exact (t.level n).received (t.level n).events.log :=
  (h.got n).trans ⟨List.take_sublist _ _, fun he => by rw [hread he n, List.take_length]⟩

theorem Traced.path (h : Traced forwarders exact t fun _ => []) {event : Relayed}
    (hm : event ∈ (t.level n).events.log) : segments forwarders n event.via = some event.event.path := by
  obtain ⟨via, event⟩ := event
  induction via generalizing n event with
  | nil =>
    cases h.sourced n _ (List.mem_append_left _ hm) with
    | own ho => exact congrArg some (SupervisorEvent.path_own ho).symm
  | cons c via ih =>
    cases h.sourced n _ (List.mem_append_left _ hm) with
    | nested hc hn =>
      rename_i inner forwarder
      subst hn
      have hstrip : (⟨via, inner⟩ : Relayed) ∈ (t.level forwarder.parent).events.log.filterMap (strip c) :=
        List.mem_filterMap.2 ⟨_, hm, if_pos rfl⟩
      have hreceived := (h.relayed_log hc).1.subset hstrip
      have hlog := List.mem_of_mem_take ((h.got c).1.subset hreceived)
      exact segments_cons.2 ⟨forwarder, _, hc, rfl, ih inner hlog, SupervisorEvent.path_nested ..⟩

def through (via : List Nat) (event : Relayed) : Option SupervisorEvent :=
  if event.via = via then some event.event.leaf else none

theorem heard_eq (via : List Nat) (received : List Relayed) :
    heard via received = received.filterMap (through via) := by
  rw [heard, ← List.filterMap_eq_map, List.filterMap_filter]
  refine List.filterMap_congr fun event _ => ?_
  simp [through]

theorem Traced.heard_nil (h : Traced forwarders exact t fun _ => []) :
    heard [] (t.level n).events.log = (t.level n).events.log.filterMap EventTree.own := by
  rw [heard_eq]
  refine List.filterMap_congr fun event hm => ?_
  cases h.sourced n event (List.mem_append_left _ hm) with
  | own ho => exact congrArg some (SupervisorEvent.leaf_own ho)
  | nested => rfl

theorem Traced.heard_cons (h : Traced forwarders exact t fun _ => []) {c : Nat} {via : List Nat} :
    heard (c :: via) (t.level n).events.log = heard via ((t.level n).events.log.filterMap (strip c)) := by
  rw [heard_eq, heard_eq, List.filterMap_filterMap]
  refine List.filterMap_congr fun event hm => ?_
  cases h.sourced n event (List.mem_append_left _ hm) with
  | own ho => rfl
  | @nested c' via' inner forwarder hc hn =>
    by_cases he : c' = c
    · subst he
      simp [through, strip]
    · simp [through, strip, he]

theorem heard_within {received log : List Relayed} (h : Within exact received log) (via : List Nat) :
    Within exact (heard via received) (heard via log) := by
  rw [heard_eq, heard_eq]
  exact h.filterMap _

/-- The induction is on the way: what the wrapper of its first supervisor forwards is what that receiver got. -/
theorem Traced.heard (h : Traced forwarders exact t fun _ => []) (hread : exact → t.AllRead) {via : List Nat}
    {path : List EventPathSegment} (hway : segments forwarders n via = some path) :
    Within exact (heard via (t.level n).events.log) (t.level (origin n via)).emitted := by
  induction via generalizing n path with
  | nil =>
    rw [h.heard_nil]
    exact h.own_log n
  | cons c via ih =>
    obtain ⟨forwarder, rest, hc, rfl, hrest, -⟩ := segments_cons.1 hway
    have horigin : origin forwarder.parent (c :: via) = origin c via := by
      rw [origin, origin, List.getLast?_cons, Option.getD_some]
    rw [h.heard_cons, horigin]
    exact (heard_within ((h.relayed_log hc).trans (h.received hread c)) via).trans (ih hrest)

/-- Over any run, what comes along a way from below is from the supervisor at its end, in the order in which
that one emitted it, and names the way; and all of it comes if nothing is lost and every receiver has read on. -/
theorem run_traces {as : List Act} {capacity : Nat → Nat}
    (hrun : AnyRun (step forwarders) (new capacity) as t) :
    (∀ n, ∀ event ∈ (t.level n).received, segments forwarders n event.via = some event.event.path) ∧
    ∀ n via path, segments forwarders n via = some path →
      (heard via (t.level n).received).Sublist (t.level (origin n via)).emitted ∧
      (¬ Stepped (step forwarders) (new capacity) as (fun t a => t.losesNone forwarders a = false) →
        t.AllRead → heard via (t.level n).received = (t.level (origin n via)).emitted) := by
  have htraced : Traced forwarders (¬ Stepped (step forwarders) (new capacity) as
      (fun t a => t.losesNone forwarders a = false) ∧ t.AllRead) t fun _ => [] := by
    by_cases hlost : Stepped (step forwarders) (new capacity) as fun t a => t.losesNone forwarders a = false
    · exact run_traced (hrun.mono fun _ _ _ he => absurd hlost he.1)
    · exact run_traced ((hrun.not_stepped List.prefix_rfl hlost).mono fun _ _ hkeeps _ => eq_true_of_ne_false hkeeps)
  refine ⟨fun n event hm => htraced.path (List.mem_of_mem_take ((htraced.got n).1.subset hm)),
    fun n via path hway => ?_⟩
  have hheard := (heard_within (htraced.received (fun he => he.2) n) via).trans (htraced.heard (fun he => he.2) hway)
  exact ⟨hheard.1, fun hlost hread => hheard.2 ⟨hlost, hread⟩⟩

/-- A supervisor in one that is in another. -/
def twoDeep : Nat → Option NestedEventForwarder
  | 1 => some ⟨0, ⟨"outer", 0⟩⟩
  | 2 => some ⟨1, ⟨"inner", 3⟩⟩
  | _ => none

/-- The first of two events is lost to a lag. -/
def laggedActs : List Act :=
  [.subscribe 0, .subscribe 1, .subscribe 2, .emit 2 (.childRemoved "a"), .emit 2 (.childRemoved "b"), .recv 2,
    .recv 2, .recv 1, .recv 0]

theorem run_traces_two : ∃ t, AnyRun (step twoDeep) (new fun _ => 1) laggedActs t ∧
    (t.level 0).received.map (·.event.path) = [[⟨"outer", 0⟩, ⟨"inner", 3⟩]] ∧
    (heard [1, 2] (t.level 0).received).Sublist (t.level 2).emitted := by
  obtain ⟨t, hrun, ht⟩ : ∃ t, AnyRun (step twoDeep) (new fun _ => 1) laggedActs t ∧
      (t.level 0).received.map (·.event.path) = [[⟨"outer", 0⟩, ⟨"inner", 3⟩]] := anyRun_of_exec (by decide +kernel)
  exact ⟨t, hrun, ht, ((run_traces hrun).2 0 [1, 2] _ rfl).1⟩

end EventTree
end TokioSupervisor
