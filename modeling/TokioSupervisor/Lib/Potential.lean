import TokioSupervisor.Lib.Run
import Mathlib.Algebra.GroupWithZero.Nat

/-!
# Steps that are paid for

A potential on the states of a transition system, which each step of one kind lowers and any other step
raises by its price at most. It bounds how many steps of that kind a run takes, and the steps of that
kind alone come to an end.
-/

namespace Lib

variable {σ α : Type*} {step : σ → α → Option σ}

/-- On the states in `J`, which every step keeps, a step of the kind `own` lowers `work`, and another
step raises it by its price at most. -/
structure Paid (step : σ → α → Option σ) (J : σ → Prop) (work : σ → Nat) (own : α → Bool)
    (price : α → Nat) : Prop where
  keeps : ∀ s a s', J s → step s a = some s' → J s'
  lowers : ∀ s a s', J s → own a = true → step s a = some s' → work s' < work s
  raises : ∀ s a s', J s → own a = false → step s a = some s' → work s' ≤ work s + price a

/-- No step of the kind `own` is enabled. -/
def AtRest (step : σ → α → Option σ) (own : α → Bool) (s : σ) : Prop :=
  ∀ a, own a = true → step s a = none

namespace Paid
variable {J : σ → Prop} {work : σ → Nat} {own : α → Bool} {price : α → Nat} {ok : σ → α → Prop}
  {s₀ s : σ} {as : List α}

theorem run_keeps (h : Paid step J work own price) (h₀ : J s₀) (hrun : Run step ok s₀ as s) : J s :=
  hrun.invariant h₀ fun s a s' hJ _ hstep => h.keeps s a s' hJ hstep

/-- The steps of the kind and the potential left are covered by the potential at the start and the prices. -/
theorem count_add_le (h : Paid step J work own price) (h₀ : J s₀) (hrun : Run step ok s₀ as s) :
    as.countP own + work s ≤ work s₀ + (as.map price).sum := by
  induction hrun with
  | nil => exact Nat.le_of_eq (Nat.add_comm ..)
  | @snoc as a s s' hrun hok hstep ih =>
    have hJ := h.run_keeps h₀ hrun
    rw [List.countP_append, List.map_append, List.sum_append_nat, List.countP_singleton, List.map_singleton,
      List.sum_cons, List.sum_nil, Nat.add_zero]
    cases ho : own a with
    | true =>
      have hlt := h.lowers s a s' hJ ho hstep
      rw [if_pos rfl]
      omega
    | false =>
      have hle := h.raises s a s' hJ ho hstep
      rw [if_neg Bool.false_ne_true]
      omega

/-- Steps of the kind alone are covered by the potential that they begin with. -/
theorem length_add_le (h : Paid step J work own price) (h₀ : J s₀)
    (hrun : Run step (fun _ a => own a = true) s₀ as s) : as.length + work s ≤ work s₀ := by
  induction hrun with
  | nil => exact Nat.le_of_eq (Nat.zero_add _)
  | @snoc as a s s' hrun ho hstep ih =>
    have hlt := h.lowers s a s' (h.run_keeps h₀ hrun) ho hstep
    rw [List.length_append, List.length_singleton]
    omega

/-- The steps of the kind lead to where none of them is enabled. -/
theorem settles (h : Paid step J work own price) (h₀ : J s₀) :
    ∃ as s, Run step (fun _ a => own a = true) s₀ as s ∧ AtRest step own s := by
  induction hw : work s₀ using Nat.strongRecOn generalizing s₀ with
  | ind n ih =>
    subst hw
    by_cases hq : AtRest step own s₀
    · exact ⟨[], s₀, .nil, hq⟩
    · obtain ⟨a, ho, hne⟩ : ∃ a, own a = true ∧ step s₀ a ≠ none := by
        simpa [AtRest] using hq
      obtain ⟨s₁, hstep⟩ := Option.ne_none_iff_exists'.1 hne
      have hlt := h.lowers s₀ a s₁ h₀ ho hstep
      have hfirst : Run step (fun _ a => own a = true) s₀ [a] s₁ := .single ho hstep
      obtain ⟨as, s, hrun, hq⟩ := ih _ hlt (h.keeps s₀ a s₁ h₀ hstep) rfl
      exact ⟨[a] ++ as, s, hfirst.trans hrun, hq⟩

end Paid

/-- Where every state short of the goal has a way to one of less work, the goal is reached. -/
theorem Run.reaches {J goal : σ → Prop} {work : σ → Nat} {ok : σ → α → Prop}
    (h : ∀ s, J s → goal s ∨ ∃ as s', Run step ok s as s' ∧ J s' ∧ work s' < work s) {s₀ : σ} (h₀ : J s₀) :
    ∃ as s, Run step ok s₀ as s ∧ J s ∧ goal s := by
  induction hw : work s₀ using Nat.strongRecOn generalizing s₀ with
  | ind n ih =>
    subst hw
    rcases h s₀ h₀ with hgoal | ⟨as, s₁, hrun, hJ, hlt⟩
    · exact ⟨[], s₀, .nil, h₀, hgoal⟩
    · obtain ⟨as', s, hrun', hJ', hgoal⟩ := ih _ hlt hJ rfl
      exact ⟨as ++ as', s, hrun.trans hrun', hJ', hgoal⟩

end Lib
