import Mathlib.Data.List.Basic
import Mathlib.Data.List.Count
import Mathlib.Data.List.ReduceOption

/-!
# Keyed slots with reuse

A `Slab α` stores values under small natural-number keys. Removing a value frees its key, and a
later insertion may reuse any free key (`vacant`): which one is the caller's choice, so that what is
proved holds for every allocation order. `iter` lists the occupied slots by key and `count` counts
the values that satisfy a test.
-/

namespace Lib

/-- What one element of a list establishes and no other undoes holds after a fold over the list. The fold
keeps `Q` from its start on. -/
theorem foldl_of_mem {α β : Type*} {op : β → α → β} {P Q : β → Prop} {l : List α} {a : α} {b : β} (ha : a ∈ l)
    (hb : Q b) (hQ : ∀ b x, Q b → Q (op b x)) (hset : ∀ b, Q b → P (op b a))
    (hkeep : ∀ b x, P b → P (op b x)) : P (l.foldl op b) := by
  obtain ⟨l₁, l₂, rfl⟩ := List.append_of_mem ha
  rw [List.foldl_append, List.foldl_cons]
  have hbefore : Q (l₁.foldl op b) := List.foldlRecOn l₁ op hb fun b hb x _ => hQ b x hb
  exact List.foldlRecOn l₂ op (hset _ hbefore) fun b hb x _ => hkeep b x hb

/-- Slots indexed by key; `none` is a free slot. -/
structure Slab (α : Type*) where
  slots : List (Option α)
deriving Repr

namespace Slab
variable {α : Type*}

def empty : Slab α := ⟨[]⟩

def get (s : Slab α) (k : Nat) : Option α := s.slots[k]?.join

def contains (s : Slab α) (k : Nat) : Bool := (s.get k).isSome

/-- `k` may be handed out by the next insertion. -/
def vacant (s : Slab α) (k : Nat) : Bool := decide (k ≤ s.slots.length) && !s.contains k

/-- Store `a` at the vacant key `k`. -/
def insert (s : Slab α) (k : Nat) (a : α) : Slab α :=
  if k < s.slots.length then ⟨s.slots.set k (some a)⟩ else ⟨s.slots ++ [some a]⟩

def remove (s : Slab α) (k : Nat) : Slab α := ⟨s.slots.set k none⟩

def modify (s : Slab α) (k : Nat) (f : α → α) : Slab α := ⟨s.slots.modify k (Option.map f)⟩

/-- Overwrite the value at the occupied key `k`. -/
def set (s : Slab α) (k : Nat) (a : α) : Slab α := ⟨s.slots.set k (some a)⟩

/-- The occupied slots in key order. -/
def iter (s : Slab α) : List α := s.slots.reduceOption

/-- How many stored values satisfy `p`. -/
def count (p : α → Bool) (s : Slab α) : Nat := s.iter.countP p

@[simp] theorem get_empty (k : Nat) : (empty : Slab α).get k = none := by simp [get, empty]

theorem contains_iff {s : Slab α} {k : Nat} : s.contains k = true ↔ ∃ a, s.get k = some a := by
  simp [contains, Option.isSome_iff_exists]

theorem get_of_vacant {s : Slab α} {k : Nat} (h : s.vacant k = true) : s.get k = none := by
  simp only [vacant, contains, Bool.and_eq_true, Bool.not_eq_true', Option.isSome_eq_false_iff,
    Option.isNone_iff_eq_none] at h
  exact h.2

theorem lt_length_of_get {s : Slab α} {k : Nat} {a : α} (h : s.get k = some a) :
    k < s.slots.length := by
  by_contra hk
  simp [get, List.getElem?_eq_none (Nat.le_of_not_lt hk)] at h

theorem get_modify (s : Slab α) (k j : Nat) (f : α → α) :
    (s.modify k f).get j = if k = j then (s.get j).map f else s.get j := by
  simp only [get, modify, List.getElem?_modify]
  split <;> rcases s.slots[j]? with _ | _ | _ <;> simp

theorem modify_eq_set {s : Slab α} {k : Nat} {a : α} (f : α → α) (h : s.get k = some a) :
    s.modify k f = s.set k (f a) := by
  have hlt := lt_length_of_get h
  simp only [get, List.getElem?_eq_getElem hlt, Option.join_some] at h
  simp [modify, set, List.modify_eq_set_getElem?, List.getElem?_eq_getElem hlt, h]

theorem get_set {s : Slab α} {k : Nat} {a : α} (h : s.get k = some a) (b : α) (j : Nat) :
    (s.set k b).get j = if k = j then some b else s.get j := by
  have hlt := lt_length_of_get h
  simp only [get, set, List.getElem?_set]
  split
  · simp
  · rfl

theorem get_set_self {s : Slab α} {k : Nat} {a : α} (h : s.get k = some a) (b : α) :
    (s.set k b).get k = some b := by simp [get_set h]

theorem get_set_ne {s : Slab α} {k j : Nat} {a : α} (h : s.get k = some a) (b : α) (hj : j ≠ k) :
    (s.set k b).get j = s.get j := by simp [get_set h, hj.symm]

@[simp] theorem set_set (s : Slab α) (k : Nat) (a b : α) : (s.set k a).set k b = s.set k b := by
  simp [set]

theorem set_eq_self {s : Slab α} {k : Nat} {a : α} (h : s.get k = some a) : s.set k a = s := by
  have hlt := lt_length_of_get h
  obtain ⟨l⟩ := s
  simp only [get, List.getElem?_eq_getElem hlt, Option.join_some] at h
  simp only [set, ← h, List.set_getElem_self]

theorem get_remove (s : Slab α) (k j : Nat) :
    (s.remove k).get j = if k = j then none else s.get j := by
  simp only [get, remove, List.getElem?_set]
  split
  · split <;> simp
  · rfl

@[simp] theorem get_remove_self (s : Slab α) (k : Nat) : (s.remove k).get k = none := by
  simp [get_remove]

theorem get_remove_ne (s : Slab α) {k j : Nat} (h : j ≠ k) : (s.remove k).get j = s.get j := by
  simp [get_remove, h.symm]

theorem get_insert {s : Slab α} {k : Nat} (hk : s.vacant k = true) (a : α) (j : Nat) :
    (s.insert k a).get j = if k = j then some a else s.get j := by
  have hle : k ≤ s.slots.length := by
    simp only [vacant, Bool.and_eq_true, decide_eq_true_eq] at hk; exact hk.1
  simp only [insert]
  split
  · rename_i hlt
    simp only [get, List.getElem?_set]
    split
    · simp
    · rfl
  · have hlen : k = s.slots.length := by omega
    simp only [get]
    split
    · rename_i h; subst h; simp [hlen]
    · rename_i h
      by_cases hj : j < s.slots.length
      · rw [List.getElem?_append_left hj]
      · rw [List.getElem?_eq_none (by simp; omega), List.getElem?_eq_none (by omega)]

theorem get_insert_self {s : Slab α} {k : Nat} (hk : s.vacant k = true) (a : α) :
    (s.insert k a).get k = some a := by simp [get_insert hk]

theorem get_insert_ne {s : Slab α} {k j : Nat} (hk : s.vacant k = true) (a : α) (h : j ≠ k) :
    (s.insert k a).get j = s.get j := by simp [get_insert hk, h.symm]

theorem mem_iter {s : Slab α} {a : α} : a ∈ s.iter ↔ ∃ k, s.get k = some a := by
  rw [iter, List.reduceOption_mem_iff]
  simp only [List.mem_iff_getElem?, get, Option.join_eq_some_iff]

/-! ### Counting -/

theorem count_eq_slots (p : α → Bool) (s : Slab α) :
    s.count p = s.slots.countP (fun o => o.any p) := by
  obtain ⟨l⟩ := s
  simp only [count, iter]
  induction l with
  | nil => rfl
  | cons o l ih =>
    cases o with
    | none => rw [List.reduceOption_cons_of_none, ih]; simp
    | some a => rw [List.reduceOption_cons_of_some]; simp [List.countP_cons, ih]

private theorem countP_split (q : Option α → Bool) {l : List (Option α)} {k : Nat}
    (hk : k < l.length) :
    l.countP q = (l.take k).countP q + (if q l[k] then 1 else 0) + (l.drop (k + 1)).countP q := by
  conv_lhs => rw [← List.take_append_drop k l, List.drop_eq_getElem_cons hk]
  simp only [List.countP_append, List.countP_cons]
  omega

private theorem countP_set_split (q : Option α → Bool) {l : List (Option α)} {k : Nat}
    (hk : k < l.length) (o : Option α) :
    (l.set k o).countP q = (l.take k).countP q + (if q o then 1 else 0)
      + (l.drop (k + 1)).countP q := by
  rw [List.set_eq_take_append_cons_drop, if_pos hk]
  simp only [List.countP_append, List.countP_cons]
  omega

private theorem getElem_of_get {s : Slab α} {k : Nat} {a : α} (h : s.get k = some a)
    (hlt : k < s.slots.length) : s.slots[k] = some a := by
  simpa [get, List.getElem?_eq_getElem hlt] using h

theorem count_remove (p : α → Bool) {s : Slab α} {k : Nat} {a : α} (h : s.get k = some a) :
    (s.remove k).count p + (if p a then 1 else 0) = s.count p := by
  have hlt := lt_length_of_get h
  simp only [count_eq_slots, remove]
  rw [countP_set_split _ hlt, countP_split _ hlt, getElem_of_get h hlt]
  simp only [Option.any_none, Bool.false_eq_true, if_false, Option.any_some]
  omega

theorem count_set (p : α → Bool) {s : Slab α} {k : Nat} {a : α} (h : s.get k = some a) (b : α) :
    (s.set k b).count p + (if p a then 1 else 0) = s.count p + (if p b then 1 else 0) := by
  have hlt := lt_length_of_get h
  simp only [count_eq_slots, set]
  rw [countP_set_split _ hlt, countP_split _ hlt, getElem_of_get h hlt]
  simp only [Option.any_some]
  omega

theorem count_insert (p : α → Bool) {s : Slab α} {k : Nat} (hk : s.vacant k = true) (a : α) :
    (s.insert k a).count p = s.count p + (if p a then 1 else 0) := by
  have hget := get_of_vacant hk
  simp only [count_eq_slots, insert]
  split
  · rename_i hlt
    have hnone : s.slots[k] = none := by
      simpa [get, List.getElem?_eq_getElem hlt] using hget
    rw [countP_set_split _ hlt, countP_split _ hlt, hnone]
    simp only [Option.any_none, Bool.false_eq_true, if_false, Option.any_some]
    omega
  · simp [List.countP_append]

theorem count_eq_zero {p : α → Bool} {s : Slab α} :
    s.count p = 0 ↔ ∀ k a, s.get k = some a → p a = false := by
  simp only [count, List.countP_eq_zero, mem_iter, Bool.not_eq_true]
  exact ⟨fun h k a hk => h a ⟨k, hk⟩, fun h a ⟨k, hk⟩ => h k a hk⟩

end Slab
end Lib
