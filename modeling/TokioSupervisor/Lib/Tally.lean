import Mathlib.Data.List.Count
import Mathlib.Data.List.Range
import Mathlib.Logic.Function.Basic

/-!
# Tallies over a numbered collection

`tally p f k` is the number of those of the first `k` entries of `f` that are there and satisfy `p`. The
entries are numbered in the order of their arrival, so a collection grows at its end (`tally_succ`) and
changes in one place at a time (`tally_update`).
-/

namespace Lib

variable {α : Type*} {p q : α → Bool} {f g : Nat → Option α} {k n : Nat}

/-- How many of the first `k` entries satisfy `p`. -/
def tally (p : α → Bool) (f : Nat → Option α) (k : Nat) : Nat :=
  (List.range k).countP fun n => (f n).any p

@[simp] theorem tally_zero : tally p f 0 = 0 := rfl

theorem tally_succ : tally p f (k + 1) = tally p f k + if (f k).any p then 1 else 0 := by
  simp [tally, List.range_succ, List.countP_append, List.countP_singleton]

theorem tally_congr (h : ∀ n < k, (f n).any p = (g n).any q) : tally p f k = tally q g k := by
  refine List.countP_congr fun n hn => ?_
  rw [h n (List.mem_range.1 hn)]

theorem tally_mono (h : ∀ n < k, (f n).any p = true → (g n).any q = true) :
    tally p f k ≤ tally q g k := by
  induction k with
  | zero => simp
  | succ k ih =>
    have hk := ih fun n hn => h n (by omega)
    have hlast := h k (by omega)
    rw [tally_succ, tally_succ]
    split
    · rename_i hp
      rw [if_pos (hlast hp)]
      omega
    · omega

theorem tally_update_of_le (hn : k ≤ n) (o : Option α) :
    tally p (Function.update f n o) k = tally p f k := by
  refine tally_congr fun m hm => ?_
  rw [Function.update_of_ne (by omega)]

theorem tally_update (hn : n < k) (o : Option α) :
    tally p (Function.update f n o) k + (if (f n).any p then 1 else 0) =
      tally p f k + if o.any p then 1 else 0 := by
  induction k with
  | zero => omega
  | succ k ih =>
    rw [tally_succ, tally_succ]
    by_cases hk : n = k
    · subst hk
      rw [tally_update_of_le (Nat.le_refl n), Function.update_self]
      omega
    · have := ih (by omega)
      rw [Function.update_of_ne (by omega)]
      omega

theorem tally_eq_zero (h : ∀ n < k, (f n).any p = false) : tally p f k = 0 := by
  refine List.countP_eq_zero.2 fun n hn => ?_
  rw [h n (List.mem_range.1 hn)]
  simp

/-- Of two properties, one of which implies the other, the stronger one holds of as many entries only if
it holds wherever the weaker one does. -/
theorem tally_le_iff (h : ∀ n < k, (f n).any p = true → (f n).any q = true) :
    tally q f k ≤ tally p f k ↔ ∀ n < k, (f n).any q = true → (f n).any p = true := by
  constructor
  · induction k with
    | zero => simp
    | succ k ih =>
      intro hle n hn hq
      have hmono : tally p f k ≤ tally q f k := tally_mono fun n hn => h n (by omega)
      have hlast := h k (by omega)
      rw [tally_succ, tally_succ] at hle
      by_cases hk : n = k
      · subst hk
        by_contra hp
        rw [if_pos hq, if_neg hp] at hle
        omega
      · refine ih (fun n hn => h n (by omega)) ?_ n (by omega) hq
        split at hle <;> split at hle <;> try omega
        rename_i hq' hp'
        exact absurd (hlast hp') hq'
  · exact fun hall => tally_mono hall

end Lib
