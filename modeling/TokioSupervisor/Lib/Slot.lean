import Mathlib.Logic.Function.Basic

/-!
# A slot that one process holds at a time

A flag is taken by a compare-exchange and given back by a store. `Slot taken holds` says that the
flag tells whether somebody holds the slot, and that nobody else does then. The processes are of any
type; what makes one a holder is a predicate of the development that uses the slot.
-/

namespace Lib

variable {ι : Type*}

/-- The slot is `taken` iff one process holds it. -/
structure Slot (taken : Prop) (holds : ι → Prop) : Prop where
  taken_iff : taken ↔ ∃ i, holds i
  unique : ∀ i j, holds i → holds j → i = j

namespace Slot
variable {taken taken' : Prop} {holds holds' : ι → Prop} {i : ι}

theorem empty (h : ∀ i, ¬ holds i) : Slot False holds :=
  ⟨⟨False.elim, fun ⟨i, hi⟩ => h i hi⟩, fun i _ hi => absurd hi (h i)⟩

theorem taken_of (h : Slot taken holds) (hi : holds i) : taken := h.taken_iff.2 ⟨i, hi⟩

theorem not_holds (h : Slot taken holds) (hfree : ¬ taken) (i : ι) : ¬ holds i :=
  fun hi => hfree (h.taken_of hi)

theorem congr (h : Slot taken holds) (ht : taken' ↔ taken) (hh : ∀ i, holds' i ↔ holds i) :
    Slot taken' holds' := by
  refine ⟨ht.trans (h.taken_iff.trans (exists_congr fun i => (hh i).symm)), fun i j hi hj => ?_⟩
  exact h.unique i j ((hh i).1 hi) ((hh j).1 hj)

theorem take (h : Slot taken holds) (hfree : ¬ taken) (ht : taken') (hi : holds' i)
    (hh : ∀ j, j ≠ i → (holds' j ↔ holds j)) : Slot taken' holds' := by
  have honly (j : ι) (hj : holds' j) : j = i := by
    by_contra hne
    exact h.not_holds hfree j ((hh j hne).1 hj)
  exact ⟨⟨fun _ => ⟨i, hi⟩, fun _ => ht⟩, fun j k hj hk => (honly j hj).trans (honly k hk).symm⟩

theorem release (h : Slot taken holds) (hi : holds i) (ht : ¬ taken') (hi' : ¬ holds' i)
    (hh : ∀ j, j ≠ i → (holds' j ↔ holds j)) : Slot taken' holds' := by
  have hnone (j : ι) : ¬ holds' j := by
    intro hj
    by_cases hne : j = i
    · exact hi' (hne ▸ hj)
    · exact hne (h.unique j i ((hh j hne).1 hj) hi)
  exact ⟨⟨fun h' => absurd h' ht, fun ⟨j, hj⟩ => absurd hj (hnone j)⟩,
    fun j _ hj => absurd hj (hnone j)⟩

end Slot
end Lib
