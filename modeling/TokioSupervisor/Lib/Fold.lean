import Mathlib.Data.List.Induction

/-!
# Loops that may fail

A loop over a list whose body may return early with an error is `List.foldlM` in `Except`. The rules take
an invariant that also sees the elements done so far: `foldlM_ok` is about a loop that came to its end, and
`exists_foldlM_ok` proves that it does.
-/

namespace Lib

/-- A computation that succeeds has succeeded up to every point in it. -/
theorem bind_eq_ok {ε : Type*} {α β : Type} {x : Except ε α} {f : α → Except ε β} {b : β} :
    (x >>= f) = .ok b ↔ ∃ a, x = .ok a ∧ f a = .ok b := by
  cases x with
  | error e => exact ⟨fun h => (by cases h), fun ⟨a, h, _⟩ => (by cases h)⟩
  | ok a => exact ⟨fun h => ⟨a, rfl, h⟩, fun ⟨a', ha, h⟩ => Except.ok.inj ha ▸ h⟩

variable {α β ε : Type*} {f : β → α → Except ε β} {I : List α → β → Prop} {l : List α} {b₀ b : β}

theorem foldlM_concat (f : β → α → Except ε β) (b₀ : β) (l : List α) (a : α) :
    (l ++ [a]).foldlM f b₀ = (l.foldlM f b₀).bind fun b => f b a := by
  simp only [List.foldlM_append, List.foldlM_cons, List.foldlM_nil, bind_pure]
  rfl

theorem foldlM_ok (h₀ : I [] b₀) (hs : ∀ l a b b', I l b → f b a = .ok b' → I (l ++ [a]) b')
    (h : l.foldlM f b₀ = .ok b) : I l b := by
  induction l using List.reverseRecOn generalizing b with
  | nil =>
    cases h
    exact h₀
  | append_singleton l a ih =>
    rw [foldlM_concat] at h
    cases hl : l.foldlM f b₀ with
    | error e =>
      rw [hl] at h
      cases h
    | ok b₁ =>
      rw [hl] at h
      exact hs l a b₁ b (ih hl) h

/-- A loop none of whose turns fails comes to its end. -/
theorem exists_foldlM_ok (h₀ : I [] b₀)
    (hs : ∀ pre a b, pre ++ [a] <+: l → I pre b → ∃ b', f b a = .ok b' ∧ I (pre ++ [a]) b') :
    ∃ b, l.foldlM f b₀ = .ok b ∧ I l b := by
  induction l using List.reverseRecOn with
  | nil => exact ⟨b₀, rfl, h₀⟩
  | append_singleton l a ih =>
    obtain ⟨b₁, hl, hb₁⟩ := ih fun pre c b hpre hb => hs pre c b (hpre.trans (List.prefix_append _ _)) hb
    obtain ⟨b₂, hf, hb₂⟩ := hs l a b₁ (List.prefix_refl _) hb₁
    refine ⟨b₂, ?_, hb₂⟩
    rw [foldlM_concat, hl]
    exact hf

end Lib
