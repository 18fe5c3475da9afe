import TokioSupervisor.Nested.Events
import TokioSupervisor.Nested.Paths

/-!
# The wrappers forward as the tree says

`EventTree` leaves open when the receiver of a channel gets something. Here each nested supervisor has its
wrapper as in `EventForwarding`: it looks at the result of the supervisor before it looks at the events, and
drains them at the end. Any number of wrappers, one above the other, only do what the tree can do (`view`),
and lose nothing more.

A channel also gets what the wrappers of the children forward, and does so after its own supervisor has
returned if one of them is left. A supervisor that has no forwarder has a subscriber, who receives at any
time; `forwarded` is what it got.
-/

namespace TokioSupervisor
open Lib

/-- What each supervisor emits, and its wrapper. -/
structure EventForest where
  wrapper : Nat → EventForwarding Relayed

namespace EventForest

def new (eventChannelCapacity : Nat → Nat) : EventForest := ⟨fun n => .new (eventChannelCapacity n)⟩

def setWrapper (s : EventForest) (n : Nat) (w : EventForwarding Relayed) : EventForest :=
  ⟨Function.update s.wrapper n w⟩

/-- `forward_nested_event`, in the wrapper of `n`. -/
def forwardNestedEvent (n : Nat) (forwarder : Option NestedEventForwarder) (s : EventForest) (event : Relayed) :
    EventForest :=
  match forwarder with
  | some forwarder =>
    let w := s.wrapper forwarder.parent
    let event := EventTree.wrap n event forwarder
    s.setWrapper forwarder.parent { w with emitted := w.emitted ++ [event], events := w.events.send event }
  | none => s

inductive Act
  | emit (n : Nat) (event : SupervisorEvent)
  /-- What else the supervisor `n` and its wrapper do. -/
  | wrapper (n : Nat) (a : EventForwarding.Act Relayed)
  /-- The subscriber of `n` receives. -/
  | observe (n : Nat)

variable (forwarders : Nat → Option NestedEventForwarder)

/-- The wrapper of `n` has gone on, and what it has forwarded goes to the channel of the parent. -/
def goOn (s : EventForest) (n : Nat) (w : EventForwarding Relayed) : EventForest :=
  (w.forwarded.drop (s.wrapper n).forwarded.length).foldl (forwardNestedEvent n (forwarders n)) (s.setWrapper n w)

def step (s : EventForest) : Act → Option EventForest
  | .emit n event => if event.isOwn then ((s.wrapper n).emit ⟨[], event⟩).map (s.setWrapper n) else none
  | .wrapper _ (.emit _) => none
  | .wrapper n a => ((s.wrapper n).step a).map (s.goOn forwarders n)
  | .observe n =>
    if (forwarders n).isNone then
      let (events, received) := (s.wrapper n).events.recv
      some (s.setWrapper n ({ s.wrapper n with events }.handleNestedEvent received))
    else none

/-- An event finds its channel with a receiver, and a receiver that gets something does not lag. -/
def losesNone (s : EventForest) : Act → Bool
  | .emit n _ => (s.wrapper n).events.next.isSome
  | .wrapper n .recv | .wrapper n .drain | .observe n =>
    (s.wrapper n).events.next.all (fun k => !(s.wrapper n).events.lagsAt k) &&
      (forwarders n).all fun forwarder => (s.wrapper forwarder.parent).events.next.isSome
  | .wrapper _ _ => true

def level (w : EventForwarding Relayed) : EventLevel where
  events := w.events
  emitted := w.emitted.filterMap EventTree.own
  received := w.forwarded

/-- The tree that the wrappers are part of. -/
def view (s : EventForest) : EventTree := ⟨fun n => level (s.wrapper n)⟩

/-- The wrapper subscribes once. -/
def Fresh (w : EventForwarding Relayed) : Prop := w.phase = .spawned → w.events.next = none

variable {forwarders} {exact : Prop} {s s' : EventForest} {n : Nat} {w w' : EventForwarding Relayed}

/-! ### The wrappers -/

theorem fresh_step {a : EventForwarding.Act Relayed} (h : Fresh w) (hs : w.step a = some w') : Fresh w' := by
  cases EventForwarding.step_cases hs with
  | emit =>
    intro hp
    rw [Broadcast.send_next]
    exact h hp
  | exit => exact h
  | subscribe | other =>
    intro hp
    cases hp
  | poll =>
    intro hp
    dsimp only at hp
    split at hp <;> cases hp
  | recv =>
    intro hp
    cases hr : w.events.recv.2 <;> rw [hr] at hp <;> cases hp
  | drain hphase =>
    intro hp
    unfold EventForwarding.drainNestedEvents at hp
    split at hp
    · cases hphase.symm.trans hp
    · cases hphase.symm.trans hp
    · cases hp

theorem fresh_setWrapper (h : ∀ m, Fresh (s.wrapper m)) (hw : Fresh w) (m : Nat) :
    Fresh ((s.setWrapper n w).wrapper m) := by
  show Fresh (Function.update s.wrapper n w m)
  rw [Function.update_apply]
  split
  · exact hw
  · exact h m

theorem fresh_forward {forwarder : Option NestedEventForwarder} {event : Relayed} (h : ∀ m, Fresh (s.wrapper m)) :
    ∀ m, Fresh ((s.forwardNestedEvent n forwarder event).wrapper m) := by
  cases forwarder with
  | none => exact h
  | some forwarder =>
    refine fresh_setWrapper h fun hp => ?_
    rw [Broadcast.send_next]
    exact h _ hp

theorem fresh_goOn (h : ∀ m, Fresh (s.wrapper m)) (hw : Fresh w) :
    ∀ m, Fresh ((s.goOn forwarders n w).wrapper m) := by
  unfold goOn
  generalize w.forwarded.drop (s.wrapper n).forwarded.length = events
  have hset := fresh_setWrapper (n := n) h hw
  generalize s.setWrapper n w = s at hset
  induction events generalizing s with
  | nil => exact hset
  | cons event events ih => exact ih _ (fresh_forward hset)

theorem step_wrapper {a : EventForwarding.Act Relayed} (h : ∀ event, a ≠ .emit event) :
    s.step forwarders (.wrapper n a) = ((s.wrapper n).step a).map (s.goOn forwarders n) := by
  cases a with
  | emit event => exact absurd rfl (h event)
  | _ => rfl

theorem step_fresh {a : Act} (h : ∀ m, Fresh (s.wrapper m)) (hs : s.step forwarders a = some s') :
    ∀ m, Fresh (s'.wrapper m) := by
  cases a with
  | emit n event =>
    simp only [step] at hs
    split at hs
    · obtain ⟨w, hw, rfl⟩ := Option.map_eq_some_iff.1 hs
      exact fresh_setWrapper h (fresh_step (a := .emit _) (h n) hw)
    · cases hs
  | wrapper n a =>
    by_cases hemit : ∃ event, a = .emit event
    · obtain ⟨event, rfl⟩ := hemit
      cases hs
    · rw [step_wrapper fun event ha => hemit ⟨event, ha⟩] at hs
      obtain ⟨w, hw, rfl⟩ := Option.map_eq_some_iff.1 hs
      exact fresh_goOn h (fresh_step (h n) hw)
  | observe n =>
    simp only [step] at hs
    split at hs
    · cases hs
      refine fresh_setWrapper h ?_
      rcases (s.wrapper n).events.recv_cases with ⟨k, event, hn, -, heq⟩ | ⟨k, hn, -, heq⟩ | ⟨heq, -⟩ <;> rw [heq]
      · exact fun hp => by cases hn.symm.trans (h n hp)
      · exact fun hp => by cases hn.symm.trans (h n hp)
      · exact h n
    · cases hs

theorem run_fresh {eventChannelCapacity : Nat → Nat} {ok : EventForest → Act → Prop} {as : List Act}
    (h : Run (step forwarders) ok (new eventChannelCapacity) as s) : ∀ m, Fresh (s.wrapper m) :=
  h.invariant (I := fun s => ∀ m, Fresh (s.wrapper m)) (fun _ _ => rfl) fun _ _ _ hf _ hs => step_fresh hf hs

/-! ### The tree -/

theorem view_setWrapper : (s.setWrapper n w).view = s.view.setLevel n (level w) := by
  refine congrArg EventTree.mk (funext fun m => ?_)
  simp only [setWrapper, view, Function.update_apply]
  split <;> rfl

theorem view_forward {forwarder : Option NestedEventForwarder} {event : Relayed} :
    (s.forwardNestedEvent n forwarder event).view = s.view.forwardNestedEvent n event forwarder := by
  cases forwarder with
  | none => rfl
  | some forwarder =>
    rw [forwardNestedEvent, view_setWrapper, EventTree.forwardNestedEvent, EventTree.broadcast]
    congr 1
    rw [level, List.filterMap_append]
    exact congrArg (EventLevel.mk _ · _) (List.append_nil _)

theorem goOn_same (h : w.forwarded = (s.wrapper n).forwarded) : s.goOn forwarders n w = s.setWrapper n w := by
  rw [goOn, h, List.drop_length, List.foldl_nil]

theorem goOn_next {event : Relayed} (h : w.forwarded = (s.wrapper n).forwarded ++ [event]) :
    s.goOn forwarders n w = (s.setWrapper n w).forwardNestedEvent n (forwarders n) event := by
  rw [goOn, h, List.drop_left, List.foldl_cons, List.foldl_nil]

/-- With what the receiver of `n` gets, the tree goes on as well. -/
theorem view_receive (hw : level w = match (s.wrapper n).events.recv with
      | (events, .message event) =>
        ⟨events, (s.wrapper n).emitted.filterMap EventTree.own, (s.wrapper n).forwarded ++ [event]⟩
      | (events, _) => ⟨events, (s.wrapper n).emitted.filterMap EventTree.own, (s.wrapper n).forwarded⟩) :
    s.view.step forwarders (.recv n) = some (s.goOn forwarders n w).view := by
  simp only [EventTree.step]
  rw [show (s.view.level n).events.recv = (s.wrapper n).events.recv from rfl]
  generalize (s.wrapper n).events.recv = r at hw
  obtain ⟨events, received⟩ := r
  cases received with
  | message event =>
    have hforwarded : w.forwarded = (s.wrapper n).forwarded ++ [event] := congrArg EventLevel.received hw
    rw [goOn_next hforwarded, view_forward, view_setWrapper, hw]
    dsimp only
    rw [EventTree.take, EventTree.level_setLevel, EventTree.setLevel_setLevel]
    rfl
  | lagged skipped =>
    rw [goOn_same (congrArg EventLevel.received hw), view_setWrapper, hw]
    rfl
  | empty =>
    rw [goOn_same (congrArg EventLevel.received hw), view_setWrapper, hw]
    rfl

theorem goOn_subscriber (h : forwarders n = none) : s.goOn forwarders n w = s.setWrapper n w := by
  rw [goOn, h]
  generalize w.forwarded.drop (s.wrapper n).forwarded.length = events
  induction events with
  | nil => rfl
  | cons event events ih => exact ih

theorem level_handle (phase : WrapperPhase) (r : Broadcast Relayed × Received Relayed) :
    level ({ w with events := r.1, phase }.handleNestedEvent r.2) = match r with
      | (events, .message event) => ⟨events, w.emitted.filterMap EventTree.own, w.forwarded ++ [event]⟩
      | (events, _) => ⟨events, w.emitted.filterMap EventTree.own, w.forwarded⟩ := by
  obtain ⟨events, received⟩ := r
  cases received <;> rfl

theorem level_drain : level w.drainNestedEvents = match w.events.recv with
      | (events, .message event) => ⟨events, w.emitted.filterMap EventTree.own, w.forwarded ++ [event]⟩
      | (events, _) => ⟨events, w.emitted.filterMap EventTree.own, w.forwarded⟩ := by
  unfold EventForwarding.drainNestedEvents
  obtain ⟨events, received⟩ := w.events.recv
  cases received <;> rfl

/-- What the wrapper does without receiving leaves the tree as it is. -/
theorem view_idle (h : level w = level (s.wrapper n)) : (s.goOn forwarders n w).view = s.view := by
  rw [goOn_same (congrArg EventLevel.received h), view_setWrapper, h, EventTree.setLevel]
  exact congrArg EventTree.mk (Function.update_eq_self n s.view.level)

theorem view_emit {event : SupervisorEvent} (ho : event.isOwn = true)
    (hw : (s.wrapper n).step (.emit ⟨[], event⟩) = some w) :
    s.view.step forwarders (.emit n event) = some (s.setWrapper n w).view := by
  cases EventForwarding.step_cases hw with
  | emit =>
    rw [EventTree.step, if_pos ho, EventTree.broadcast, EventTree.record, EventTree.level_setLevel,
      EventTree.setLevel_setLevel, view_setWrapper, level, List.filterMap_append]
    rfl

/-- The tree can go from one to the other, and loses nothing on the way where `exact`. -/
def Mirrored (forwarders : Nat → Option NestedEventForwarder) (exact : Prop) (s s' : EventForest) : Prop :=
  ∃ bs, Run (EventTree.step forwarders) (fun t b => exact → t.losesNone forwarders b = true) s.view bs s'.view

theorem Mirrored.idle (h : s'.view = s.view) : Mirrored forwarders exact s s' :=
  ⟨[], h ▸ .nil⟩

theorem Mirrored.single {b : EventTree.Act} (hok : exact → s.view.losesNone forwarders b = true)
    (hs : s.view.step forwarders b = some s'.view) : Mirrored forwarders exact s s' :=
  ⟨[b], .single hok hs⟩

theorem wrapper_mirrored {a : EventForwarding.Act Relayed} (hemit : ∀ event, a ≠ .emit event)
    (hfresh : Fresh (s.wrapper n)) (hok : exact → s.losesNone forwarders (.wrapper n a) = true)
    (hw : (s.wrapper n).step a = some w) : Mirrored forwarders exact s (s.goOn forwarders n w) := by
  cases EventForwarding.step_cases hw with
  | @emit event => exact absurd rfl (hemit event)
  | exit | poll | other => exact .idle (view_idle rfl)
  | subscribe hp =>
    refine .single (b := .subscribe n) (fun _ => rfl) ?_
    have hnone : (s.view.level n).events.next = none := hfresh hp
    rw [EventTree.step, hnone, goOn_same, view_setWrapper]
    · rfl
    · rfl
  | recv =>
    refine .single (b := .recv n) hok (view_receive ?_)
    exact level_handle .selecting (s.wrapper n).events.recv
  | drain => exact .single (b := .recv n) hok (view_receive level_drain)

theorem step_mirrored {a : Act} (hfresh : ∀ m, Fresh (s.wrapper m))
    (hok : exact → s.losesNone forwarders a = true) (hs : s.step forwarders a = some s') :
    Mirrored forwarders exact s s' := by
  cases a with
  | emit n event =>
    simp only [step] at hs
    split at hs
    · rename_i ho
      obtain ⟨w, hw, rfl⟩ := Option.map_eq_some_iff.1 hs
      exact .single (b := .emit n event) hok (view_emit ho hw)
    · cases hs
  | wrapper n a =>
    by_cases hemit : ∃ event, a = .emit event
    · obtain ⟨event, rfl⟩ := hemit
      cases hs
    · have hne : ∀ event, a ≠ .emit event := fun event ha => hemit ⟨event, ha⟩
      rw [step_wrapper hne] at hs
      obtain ⟨w, hw, rfl⟩ := Option.map_eq_some_iff.1 hs
      exact wrapper_mirrored hne (hfresh n) hok hw
  | observe n =>
    simp only [step] at hs
    split at hs
    · rename_i hnone
      cases hs
      refine .single (b := .recv n) hok ?_
      rw [← goOn_subscriber (Option.isNone_iff_eq_none.1 hnone)]
      exact view_receive (level_handle _ (s.wrapper n).events.recv)
    · cases hs

theorem run_mirrored {eventChannelCapacity : Nat → Nat} {as : List Act} (exact : Prop)
    (hrun : Run (step forwarders) (fun s a => exact → s.losesNone forwarders a = true)
      (new eventChannelCapacity) as s) : Mirrored forwarders exact (new eventChannelCapacity) s := by
  obtain ⟨bs, t, hbs, rfl⟩ := hrun.simulated (J := fun s => ∀ m, Fresh (s.wrapper m))
    (R := fun s t => s.view = t) (fun _ _ h => run_fresh h) rfl fun s a s' t hfresh ht hok hs => by
      subst ht
      obtain ⟨bs, hbs⟩ := step_mirrored hfresh hok hs
      exact ⟨bs, _, hbs, rfl⟩
  exact ⟨bs, hbs⟩

/-- Any number of real wrappers, whatever the interleaving, do what the tree can do, and lose no event where
none of their steps does. -/
theorem run_refines {eventChannelCapacity : Nat → Nat} {as : List Act}
    (hrun : AnyRun (step forwarders) (new eventChannelCapacity) as s) :
    ∃ bs, AnyRun (EventTree.step forwarders) (.new fun n => (eventChannelCapacity n).nextPowerOfTwo) bs s.view ∧
      (¬ Stepped (step forwarders) (new eventChannelCapacity) as (fun s a => s.losesNone forwarders a = false) →
        ¬ Stepped (EventTree.step forwarders) (.new fun n => (eventChannelCapacity n).nextPowerOfTwo) bs
          fun t b => t.losesNone forwarders b = false) := by
  by_cases hlost : Stepped (step forwarders) (new eventChannelCapacity) as fun s a => s.losesNone forwarders a = false
  · obtain ⟨bs, hbs⟩ := run_mirrored False (hrun.mono fun _ _ _ => False.elim)
    exact ⟨bs, hbs.any, fun h => absurd hlost h⟩
  · obtain ⟨bs, hbs⟩ := run_mirrored True
      ((hrun.not_stepped List.prefix_rfl hlost).mono fun _ _ h _ => eq_true_of_ne_false h)
    exact ⟨bs, hbs.any, fun _ => hbs.avoids fun t b h => by simp [h trivial]⟩

/-- The inner supervisor returns before its second event is received, and the drain forwards it. -/
def drainedActs : List Act :=
  [.wrapper 0 .subscribe, .wrapper 1 .subscribe, .wrapper 2 .subscribe, .emit 2 (.childRemoved "a"),
    .emit 2 (.childRemoved "b"), .wrapper 2 .poll, .wrapper 2 .recv, .wrapper 2 .exit, .wrapper 2 .poll,
    .wrapper 2 .drain, .wrapper 1 .poll, .wrapper 1 .recv, .wrapper 1 .poll, .wrapper 1 .recv, .observe 0,
    .observe 0]

theorem run_refines_two : ∃ s bs, AnyRun (step EventTree.twoDeep) (new fun _ => 2) drainedActs s ∧
    (s.wrapper 0).forwarded.map (·.event.leaf) = [.childRemoved "a", .childRemoved "b"] ∧
    AnyRun (EventTree.step EventTree.twoDeep) (.new fun _ => Nat.nextPowerOfTwo 2) bs s.view := by
  obtain ⟨s, hrun, hs⟩ : ∃ s, AnyRun (step EventTree.twoDeep) (new fun _ => 2) drainedActs s ∧
      (s.wrapper 0).forwarded.map (·.event.leaf) = [.childRemoved "a", .childRemoved "b"] :=
    anyRun_of_exec (by decide +kernel)
  obtain ⟨bs, hbs, -⟩ := run_refines hrun
  exact ⟨s, bs, hrun, hs, hbs⟩

end EventForest
end TokioSupervisor
