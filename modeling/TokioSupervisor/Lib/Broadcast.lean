import Mathlib.Data.List.Basic

/-!
# A bounded broadcast channel with one receiver

The channel keeps the last `capacity` messages. A message that is sent while there is no receiver is not
stored. A receiver that is more than `capacity` messages behind is told how many it has missed, and goes
on with the oldest one that is kept.
-/

namespace Lib

/-- `log` holds the stored messages, oldest first, and `next` is the position of the receiver, once there
is one. -/
structure Broadcast (ε : Type*) where
  capacity : Nat
  log : List ε
  next : Option Nat

inductive Received (ε : Type*)
  | message (event : ε)
  | lagged (dropped : Nat)
  | empty

/-- `l` is part of `l'` in order, and all of it where `exact`. -/
def Within {α : Type*} (exact : Prop) (l l' : List α) : Prop := l.Sublist l' ∧ (exact → l = l')

namespace Within
variable {α β : Type*} {exact : Prop} {l l' l'' : List α}

theorem refl (l : List α) : Within exact l l := ⟨.refl l, fun _ => rfl⟩

theorem trans (h : Within exact l l') (h' : Within exact l' l'') : Within exact l l'' :=
  ⟨h.1.trans h'.1, fun he => (h.2 he).trans (h'.2 he)⟩

theorem concat (h : Within exact l l') (a : α) : Within exact (l ++ [a]) (l' ++ [a]) :=
  ⟨h.1.append (.refl _), fun he => by rw [h.2 he]⟩

theorem lost (h : Within exact l l') (hne : ¬ exact) (hs : l'.Sublist l'') : Within exact l l'' :=
  ⟨h.1.trans hs, fun he => absurd he hne⟩

theorem filterMap (h : Within exact l l') (f : α → Option β) : Within exact (l.filterMap f) (l'.filterMap f) :=
  ⟨h.1.filterMap f, fun he => by rw [h.2 he]⟩

end Within

namespace Broadcast
variable {ε : Type*}

def new (capacity : Nat) : Broadcast ε := ⟨capacity, [], none⟩

def send (c : Broadcast ε) (event : ε) : Broadcast ε :=
  if c.next.isSome then { c with log := c.log ++ [event] } else c

def subscribe (c : Broadcast ε) : Broadcast ε := { c with next := some c.log.length }

/-- The receiver at position `k` is more than `capacity` messages behind. -/
def lagsAt (c : Broadcast ε) (k : Nat) : Bool := decide (k + c.capacity < c.log.length)

def recv (c : Broadcast ε) : Broadcast ε × Received ε :=
  match c.next with
  | none => (c, .empty)
  | some k =>
    if c.lagsAt k then
      ({ c with next := some (c.log.length - c.capacity) }, .lagged (c.log.length - c.capacity - k))
    else
      match c.log[k]? with
      | some event => ({ c with next := some (k + 1) }, .message event)
      | none => (c, .empty)

/-- What the receiver has seen is a prefix of what was stored, `dropped` of it only counted. -/
structure Seen (c : Broadcast ε) (received : List ε) (dropped : Nat) : Prop where
  le : c.next.getD 0 ≤ c.log.length
  sublist : received.Sublist (c.log.take (c.next.getD 0))
  count : received.length + dropped = c.next.getD 0

variable {c : Broadcast ε} {received : List ε} {dropped : Nat}

theorem Seen.new (capacity : Nat) : Seen (new capacity : Broadcast ε) [] 0 :=
  ⟨Nat.le_refl 0, List.nil_sublist _, rfl⟩

theorem Seen.send (h : Seen c received dropped) (event : ε) : Seen (c.send event) received dropped := by
  unfold Broadcast.send
  split
  · refine ⟨?_, ?_, h.count⟩
    · rw [List.length_append]
      exact Nat.le_add_right_of_le h.le
    · rw [List.take_append_of_le_length h.le]
      exact h.sublist
  · exact h

theorem Seen.subscribe (hlog : c.log = []) : Seen c.subscribe [] 0 :=
  ⟨Nat.le_refl _, List.nil_sublist _, by simp [Broadcast.subscribe, hlog]⟩

theorem recv_cases (c : Broadcast ε) :
    (∃ k event, c.next = some k ∧ c.log[k]? = some event ∧
      c.recv = ({ c with next := some (k + 1) }, .message event)) ∨
    (∃ k, c.next = some k ∧ c.lagsAt k = true ∧
      c.recv = ({ c with next := some (c.log.length - c.capacity) },
        .lagged (c.log.length - c.capacity - k))) ∨
    c.recv = (c, .empty) ∧ ∀ k, c.next = some k → c.log.length ≤ k := by
  unfold recv
  cases hn : c.next with
  | none => exact .inr (.inr ⟨rfl, nofun⟩)
  | some k =>
    by_cases hlag : c.lagsAt k = true
    · exact .inr (.inl ⟨k, rfl, hlag, by simp [hlag]⟩)
    · cases hk : c.log[k]? with
      | some event => exact .inl ⟨k, event, rfl, hk, by simp [hlag, hk]⟩
      | none =>
        refine .inr (.inr ⟨by simp [hlag, hk], fun k' hk' => ?_⟩)
        cases hk'
        exact List.getElem?_eq_none_iff.1 hk

theorem Seen.message {k : Nat} {event : ε} (h : Seen c received dropped) (hn : c.next = some k)
    (hk : c.log[k]? = some event) :
    Seen { c with next := some (k + 1) } (received ++ [event]) dropped := by
  obtain ⟨hle, hsub, hcount⟩ := h
  rw [hn, Option.getD_some] at hle hsub hcount
  obtain ⟨hlt, -⟩ := List.getElem?_eq_some_iff.1 hk
  refine ⟨hlt, ?_, ?_⟩
  · simp only [Option.getD_some, List.take_add_one, hk, Option.toList_some]
    exact hsub.append (List.Sublist.refl _)
  · simp only [Option.getD_some, List.length_append, List.length_singleton]
    omega

theorem Seen.lagged {k : Nat} (h : Seen c received dropped) (hn : c.next = some k)
    (hlag : c.lagsAt k = true) :
    Seen { c with next := some (c.log.length - c.capacity) } received
      (dropped + (c.log.length - c.capacity - k)) := by
  obtain ⟨hle, hsub, hcount⟩ := h
  rw [hn, Option.getD_some] at hle hsub hcount
  have hlt := of_decide_eq_true hlag
  refine ⟨Nat.sub_le _ _, hsub.trans (List.take_sublist_take_left ?_), ?_⟩
  · simp only [Option.getD_some]
    omega
  · simp only [Option.getD_some]
    omega

/-- A receiver that finds nothing has accounted for everything. -/
theorem Seen.all (h : Seen c received dropped) {k : Nat} (hn : c.next = some k)
    (hk : c.log.length ≤ k) : received.Sublist c.log ∧ received.length + dropped = c.log.length := by
  obtain ⟨hle, hsub, hcount⟩ := h
  rw [hn, Option.getD_some] at hle hsub hcount
  exact ⟨hsub.trans (List.take_sublist k c.log), hcount.trans (Nat.le_antisymm hle hk)⟩

theorem send_next (c : Broadcast ε) (event : ε) : (c.send event).next = c.next := by
  unfold Broadcast.send
  split <;> rfl

theorem prefix_send_log (c : Broadcast ε) (event : ε) : c.log <+: (c.send event).log := by
  unfold Broadcast.send
  split
  · exact List.prefix_append _ _
  · exact List.prefix_rfl

theorem within_send {exact : Prop} (c : Broadcast ε) (event : ε) (hok : exact → c.next.isSome = true) :
    Within exact (c.send event).log (c.log ++ [event]) := by
  unfold Broadcast.send
  split
  · exact .refl _
  · rename_i hnone
    exact ⟨List.sublist_append_left _ _, fun he => absurd (hok he) hnone⟩

end Broadcast
end Lib
