import Mathlib.Data.List.Induction
import Mathlib.Order.Basic

/-!
# Sliding windows

A history lists what happened, oldest first, and grows at its end. A `Window` says what has expired at
a given point: the longer ago, the sooner. Dropping expired elements from the front each time one is
added (`slide`) keeps exactly the elements of the whole history that have not expired (`foldl_slide`).
-/

namespace Lib

/-- When an element of a history has expired. -/
structure Window (α : Type*) [Preorder α] where
  expired : α → α → Bool
  mono : ∀ {now now' a a' : α}, now ≤ now' → a' ≤ a → expired now a = true → expired now' a' = true
  fresh : ∀ now, expired now now = false

namespace Window
variable {α : Type*} [Preorder α] (w : Window α)

/-- Drop expired elements from the front and append `now`. -/
def slide (l : List α) (now : α) : List α := l.dropWhile (w.expired now) ++ [now]

/-- What has not expired at `now`. -/
def recent (now : α) (l : List α) : List α := l.filter fun a => !w.expired now a

variable {w} {l : List α} {now now' : α}

theorem dropWhile_eq_recent (h : l.Pairwise (· ≤ ·)) : l.dropWhile (w.expired now) = w.recent now l := by
  induction l with
  | nil => rfl
  | cons a l ih =>
    obtain ⟨ha, hl⟩ := List.pairwise_cons.1 h
    cases hexp : w.expired now a with
    | true =>
      rw [List.dropWhile_cons_of_pos hexp, ih hl]
      simp [recent, hexp]
    | false =>
      have hfresh : ∀ b ∈ l, w.expired now b = false := fun b hb =>
        Bool.eq_false_iff.2 fun hb' => Bool.eq_false_iff.1 hexp (w.mono le_rfl (ha b hb) hb')
      rw [List.dropWhile_cons_of_neg (by simp [hexp]), recent, List.filter_eq_self.2]
      simpa [hexp] using hfresh

theorem recent_recent (h : now ≤ now') : w.recent now' (w.recent now l) = w.recent now' l := by
  rw [recent, recent, recent, List.filter_filter]
  refine List.filter_congr fun a _ => ?_
  cases hexp : w.expired now a with
  | false => simp
  | true => simp [w.mono h le_rfl hexp]

theorem slide_recent (h : (l ++ [now']).Pairwise (· ≤ ·)) (hle : now ≤ now') :
    w.slide (w.recent now l) now' = w.recent now' (l ++ [now']) := by
  obtain ⟨hl, -, -⟩ := List.pairwise_append.1 h
  have hsorted : (w.recent now l).Pairwise (· ≤ ·) := hl.filter _
  rw [slide, dropWhile_eq_recent hsorted, recent_recent hle]
  simp [recent, w.fresh]

/-- Sliding along a history leaves what has not expired at its end. -/
theorem foldl_slide (h : (l ++ [now]).Pairwise (· ≤ ·)) :
    (l ++ [now]).foldl w.slide [] = w.recent now (l ++ [now]) := by
  induction l using List.reverseRecOn generalizing now with
  | nil => simp [slide, recent, w.fresh]
  | append_singleton l a ih =>
    obtain ⟨hl, -, hnow⟩ := List.pairwise_append.1 h
    rw [List.foldl_append, ih hl]
    exact slide_recent h (hnow a (by simp) now (by simp))

/-! ### Limits -/

section
variable {hist : List α} {n : Nat}

/-- The window `l` still has what has not expired of `hist` at `now`, as often. -/
def Covers (w : Window α) (l hist : List α) (now : α) : Prop :=
  ∀ p : α → Bool, (∀ a, p a = true → w.expired now a = false) → hist.countP p ≤ l.countP p

theorem Covers.later (h : w.Covers l hist now) (hle : now ≤ now') : w.Covers l hist now' := by
  refine fun p hp => h p fun a ha => ?_
  by_contra hexp
  have hlate := w.mono hle le_rfl (Bool.not_eq_false _ ▸ hexp)
  rw [hp a ha] at hlate
  cases hlate

theorem countP_slide {p : α → Bool} (hp : ∀ a, p a = true → w.expired now a = false) :
    (w.slide l now).countP p = l.countP p + [now].countP p := by
  rw [slide, List.countP_append]
  congr 1
  induction l with
  | nil => rfl
  | cons a l ih =>
    cases hexp : w.expired now a with
    | true =>
      have hnot : p a = false := by
        rw [← Bool.not_eq_true]
        intro ha
        rw [hp a ha] at hexp
        cases hexp
      rw [List.dropWhile_cons_of_pos hexp, ih, List.countP_cons_of_neg (by simp [hnot])]
    | false => rw [List.dropWhile_cons_of_neg (by simp [hexp])]

theorem Covers.refuse (h : w.Covers l hist now) : w.Covers (w.slide l now) hist now := by
  intro p hp
  rw [countP_slide hp]
  exact Nat.le_trans (h p hp) (Nat.le_add_right _ _)

theorem Covers.admit (h : w.Covers l hist now) : w.Covers (w.slide l now) (now :: hist) now := by
  intro p hp
  have hle := h p hp
  rw [countP_slide hp, List.countP_cons, List.countP_singleton]
  exact Nat.add_le_add_right hle _

variable [DecidableLE α]

/-- At any point at most `n` elements of the history up to there have not expired. -/
def Limits (w : Window α) (n : Nat) (hist : List α) : Prop :=
  ∀ now, hist.countP (fun a => decide (a ≤ now) && !w.expired now a) ≤ n

theorem limits_nil : w.Limits n [] := fun _ => Nat.zero_le _

/-- What is admitted while the window is within the limit keeps it. -/
theorem Limits.admit (h : w.Limits n hist) (hc : w.Covers l (now :: hist) now) (hl : l.length ≤ n) :
    w.Limits n (now :: hist) := by
  intro now'
  by_cases hle : now ≤ now'
  · refine Nat.le_trans (hc _ fun a ha => ?_) (Nat.le_trans List.countP_le_length hl)
    simp only [Bool.and_eq_true, Bool.not_eq_true'] at ha
    by_contra hexp
    have hlate := w.mono hle le_rfl (Bool.not_eq_false _ ▸ hexp)
    rw [ha.2] at hlate
    cases hlate
  · rw [List.countP_cons_of_neg (by simp [hle])]
    exact h now'

end

end Window
end Lib
