import Mathlib.Data.List.Induction

/-!
# Runs of a deterministic labelled transition system

`step s a` is the state after action `a`, or `none` when `a` is not enabled in `s`. `exec` executes
a list of actions; `Run step ok s₀ as s` says that it leads from `s₀` to `s` and that every step on
the way meets the side condition `ok`, which sees the state before the step and the action.
-/

namespace Lib

variable {σ α : Type*}

/-- Execute the actions in order. -/
def exec (step : σ → α → Option σ) (s : σ) (as : List α) : Option σ :=
  as.foldlM step s

/-- A run: `ok` held before every step. -/
inductive Run (step : σ → α → Option σ) (ok : σ → α → Prop) (s₀ : σ) : List α → σ → Prop
  | nil : Run step ok s₀ [] s₀
  | snoc {as : List α} {a : α} {s s' : σ} (run : Run step ok s₀ as s) (hok : ok s a)
      (hstep : step s a = some s') : Run step ok s₀ (as ++ [a]) s'

/-- The run with no side condition. -/
abbrev AnyRun (step : σ → α → Option σ) (s₀ : σ) : List α → σ → Prop :=
  Run step (fun _ _ => True) s₀

namespace Run
variable {step : σ → α → Option σ} {ok ok' : σ → α → Prop} {s₀ s : σ} {as : List α}

/-- An invariant that every step meeting `ok` preserves holds at the end of the run. -/
theorem invariant {I : σ → Prop} (h : Run step ok s₀ as s) (h₀ : I s₀)
    (hs : ∀ s a s', I s → ok s a → step s a = some s' → I s') : I s := by
  induction h with
  | nil => exact h₀
  | snoc _ hok hstep ih => exact hs _ _ _ ih hok hstep

/-- As `invariant`, on top of an invariant `J` that is already known along the run. -/
theorem invariant_of {I J : σ → Prop} (h : Run step ok s₀ as s)
    (hJ : ∀ as s, Run step ok s₀ as s → J s) (h₀ : I s₀)
    (hs : ∀ s a s', J s → I s → ok s a → step s a = some s' → I s') : I s := by
  induction h with
  | nil => exact h₀
  | snoc run hok hstep ih => exact hs _ _ _ (hJ _ _ run) ih hok hstep

/-- As `invariant_of`, where the step may also use `J` of the state it leads to. -/
theorem invariant_on {I J : σ → Prop} (h : Run step ok s₀ as s)
    (hJ : ∀ as s, Run step ok s₀ as s → J s) (h₀ : I s₀)
    (hs : ∀ s a s', J s → J s' → I s → ok s a → step s a = some s' → I s') : I s := by
  induction h with
  | nil => exact h₀
  | snoc run hok hstep ih => exact hs _ _ _ (hJ _ _ run) (hJ _ _ (.snoc run hok hstep)) ih hok hstep

theorem mono (h : Run step ok s₀ as s) (himp : ∀ s a, ok s a → ok' s a) :
    Run step ok' s₀ as s := by
  induction h with
  | nil => exact .nil
  | snoc _ hok hstep ih => exact .snoc ih (himp _ _ hok) hstep

theorem mono_of {J : σ → Prop} (h : Run step ok s₀ as s) (hJ : ∀ as s, Run step ok s₀ as s → J s)
    (himp : ∀ s a, J s → ok s a → ok' s a) : Run step ok' s₀ as s := by
  induction h with
  | nil => exact .nil
  | snoc run hok hstep ih => exact .snoc ih (himp _ _ (hJ _ _ run) hok) hstep

theorem any (h : Run step ok s₀ as s) : AnyRun step s₀ as s :=
  h.mono fun _ _ _ => trivial

theorem ok_start (h : Run step ok s₀ as s) : s = s₀ ∨ ∃ a, ok s₀ a := by
  induction h with
  | nil => exact .inl rfl
  | snoc run hok _ ih =>
    rcases ih with rfl | hex
    · exact .inr ⟨_, hok⟩
    · exact .inr hex

/-- A system that watches another one runs as that one does. -/
theorem map {τ : Type*} {step' : τ → α → Option τ} {t₀ t : τ} {ok' : τ → α → Prop} {f : τ → σ}
    (h : Run step' ok' t₀ as t) (hok : ∀ t a, ok' t a → ok (f t) a)
    (hs : ∀ t a t', step' t a = some t' → step (f t) a = some (f t')) : Run step ok (f t₀) as (f t) := by
  induction h with
  | nil => exact .nil
  | snoc _ hok' hstep ih => exact .snoc ih (hok _ _ hok') (hs _ _ _ hstep)

theorem single {a : α} (hok : ok s₀ a) (hstep : step s₀ a = some s) : Run step ok s₀ [a] s :=
  .snoc .nil hok hstep

theorem trans {as' : List α} {s' : σ} (h : Run step ok s₀ as s) (h' : Run step ok s as' s') :
    Run step ok s₀ (as ++ as') s' := by
  induction h' with
  | nil => rwa [List.append_nil]
  | snoc _ hok hstep ih => rw [← List.append_assoc]; exact .snoc ih hok hstep

/-- A system that goes along with every step of another one, with as many steps of its own as it takes, goes
along with its runs. `J` is an invariant that is already known along the run. -/
theorem simulated {τ β : Type*} {step' : τ → β → Option τ} {ok' : τ → β → Prop} {R : σ → τ → Prop}
    {J : σ → Prop} {t₀ : τ} (h : Run step ok s₀ as s) (hJ : ∀ as s, Run step ok s₀ as s → J s) (h₀ : R s₀ t₀)
    (hs : ∀ s a s' t, J s → R s t → ok s a → step s a = some s' →
      ∃ bs t', Run step' ok' t bs t' ∧ R s' t') :
    ∃ bs t, Run step' ok' t₀ bs t ∧ R s t := by
  induction h with
  | nil => exact ⟨[], t₀, .nil, h₀⟩
  | snoc run hok hstep ih =>
    obtain ⟨bs, t, hrun, hR⟩ := ih
    obtain ⟨bs', t', hrun', hR'⟩ := hs _ _ _ _ (hJ _ _ run) hR hok hstep
    exact ⟨bs ++ bs', t', hrun.trans hrun', hR'⟩

end Run

/-- The run `as` has been in a state with `P`, which sees the actions up to there. -/
def Passed (step : σ → α → Option σ) (s₀ : σ) (as : List α) (P : List α → σ → Prop) : Prop :=
  ∃ as₁ s₁, as₁ <+: as ∧ AnyRun step s₀ as₁ s₁ ∧ P as₁ s₁

/-- What holds at the end of a run, and did not at its start, came up in one of its states. -/
theorem Run.passed {step : σ → α → Option σ} {ok : σ → α → Prop} {s₀ s : σ} {as : List α} {Q : σ → Prop}
    {P : List α → σ → Prop} (h : Run step ok s₀ as s) (h₀ : ¬ Q s₀)
    (hs : ∀ as s a s', Run step ok s₀ as s → ok s a → step s a = some s' → Q s' → Q s ∨ P as s)
    (hq : Q s) : Passed step s₀ as P := by
  induction h with
  | nil => exact absurd hq h₀
  | @snoc as a s s' run hok hstep ih =>
    rcases hs as s a s' run hok hstep hq with hq | hp
    · obtain ⟨as₁, s₁, hpre, h₁⟩ := ih hq
      exact ⟨as₁, s₁, hpre.trans (List.prefix_append _ _), h₁⟩
    · exact ⟨as, s, List.prefix_append _ _, run.any, hp⟩

theorem exec_append (step : σ → α → Option σ) (s : σ) (as bs : List α) :
    exec step s (as ++ bs) = (exec step s as).bind fun s' => exec step s' bs := by
  simp only [exec, List.foldlM_append]; rfl

theorem exec_snoc (step : σ → α → Option σ) (s : σ) (as : List α) (a : α) :
    exec step s (as ++ [a]) = (exec step s as).bind fun s' => step s' a := by
  rw [exec_append]
  congr 1; funext s'
  simp [exec]

theorem exec_rel {τ : Type*} {step : σ → α → Option σ} {step' : τ → α → Option τ} {R : σ → τ → Prop}
    (hstep : ∀ s t a, R s t → Option.Rel R (step s a) (step' t a)) {s : σ} {t : τ} (h : R s t)
    (as : List α) : Option.Rel R (exec step s as) (exec step' t as) := by
  induction as generalizing s t with
  | nil => exact .some h
  | cons a as ih =>
    simp only [exec, List.foldlM_cons]
    have hs := hstep s t a h
    cases hs' : step s a <;> cases ht' : step' t a <;> rw [hs', ht'] at hs
    · exact .none
    · cases hs
    · cases hs
    · cases hs with
      | some hr => exact ih hr

/-- `exec` computes exactly the runs without a side condition. -/
theorem anyRun_iff_exec {step : σ → α → Option σ} {s₀ s : σ} {as : List α} :
    AnyRun step s₀ as s ↔ exec step s₀ as = some s := by
  constructor
  · intro h
    induction h with
    | nil => rfl
    | snoc _ _ hstep ih => rw [exec_snoc, ih]; exact hstep
  · intro h
    induction as using List.reverseRecOn generalizing s with
    | nil => simp only [exec, List.foldlM_nil, Option.pure_def, Option.some.injEq] at h; exact h ▸ .nil
    | append_singleton as a ih =>
      rw [exec_snoc, Option.bind_eq_some_iff] at h
      obtain ⟨s', hs', hstep⟩ := h
      exact .snoc (ih hs') trivial hstep

/-- A step of the run `as` met `P`, which sees the state before it and the action. -/
def Stepped (step : σ → α → Option σ) (s₀ : σ) (as : List α) (P : σ → α → Prop) : Prop :=
  ∃ as₁ a s, as₁ ++ [a] <+: as ∧ AnyRun step s₀ as₁ s ∧ P s a

theorem not_stepped_nil {step : σ → α → Option σ} {s₀ : σ} {P : σ → α → Prop} :
    ¬ Stepped step s₀ [] P := by
  rintro ⟨as₁, a, s, hpre, -⟩
  exact absurd (List.prefix_nil.1 hpre) (by simp)

theorem Run.stepped_snoc {step : σ → α → Option σ} {ok : σ → α → Prop} {s₀ s : σ} {as : List α} {a : α}
    {P : σ → α → Prop} (h : Run step ok s₀ as s) :
    Stepped step s₀ (as ++ [a]) P ↔ Stepped step s₀ as P ∨ P s a := by
  constructor
  · rintro ⟨as₁, b, s₁, hpre, h₁, hp⟩
    rcases List.prefix_concat_iff.1 hpre with he | hpre
    · obtain ⟨rfl, rfl⟩ := List.append_singleton_inj.1 he
      have hs : some s₁ = some s := by rw [← anyRun_iff_exec.1 h₁, ← anyRun_iff_exec.1 h.any]
      cases hs
      exact .inr hp
    · exact .inl ⟨as₁, b, s₁, hpre, h₁, hp⟩
  · rintro (⟨as₁, b, s₁, hpre, h₁, hp⟩ | hp)
    · exact ⟨as₁, b, s₁, hpre.trans (List.prefix_append _ _), h₁, hp⟩
    · exact ⟨as, a, s, List.prefix_refl _, h.any, hp⟩

theorem Run.not_stepped {step : σ → α → Option σ} {s₀ s : σ} {as bs : List α} {P : σ → α → Prop}
    (h : AnyRun step s₀ as s) (hpre : as <+: bs) (hno : ¬ Stepped step s₀ bs P) :
    Run step (fun s a => ¬ P s a) s₀ as s := by
  induction h with
  | nil => exact .nil
  | snoc run _ hstep ih =>
    refine .snoc (ih ((List.prefix_append _ _).trans hpre)) (fun hp => ?_) hstep
    exact hno ⟨_, _, _, hpre, run, hp⟩

/-- No step of a run meets what its side condition excludes. -/
theorem Run.avoids {step : σ → α → Option σ} {ok : σ → α → Prop} {s₀ s : σ} {as : List α} {P : σ → α → Prop}
    (h : Run step ok s₀ as s) (hok : ∀ s a, ok s a → ¬ P s a) : ¬ Stepped step s₀ as P := by
  induction h with
  | nil => exact not_stepped_nil
  | snoc run ha _ ih =>
    rw [run.stepped_snoc]
    rintro (hp | hp)
    · exact ih hp
    · exact hok _ _ ha hp

/-- Execute the actions in order while the test `ok` holds before each of them. -/
def execIf (step : σ → α → Option σ) (ok : σ → α → Bool) (s : σ) (as : List α) : Option σ :=
  exec (fun s a => if ok s a then step s a else none) s as

/-- `execIf` computes runs that meet its test. -/
theorem run_of_execIf {step : σ → α → Option σ} {ok : σ → α → Bool} {s₀ s : σ} {as : List α}
    (h : execIf step ok s₀ as = some s) : Run step (fun s a => ok s a = true) s₀ as s := by
  induction as using List.reverseRecOn generalizing s with
  | nil =>
    simp only [execIf, exec, List.foldlM_nil, Option.pure_def, Option.some.injEq] at h
    exact h ▸ .nil
  | append_singleton as a ih =>
    rw [execIf, exec_snoc, Option.bind_eq_some_iff] at h
    obtain ⟨s', hs', hstep⟩ := h
    rw [Option.ite_none_right_eq_some] at hstep
    exact .snoc (ih hs') hstep.1 hstep.2

/-- A run given by what the execution of its actions looks like at the end. -/
theorem anyRun_of_exec {β : Type*} {step : σ → α → Option σ} {s₀ : σ} {as : List α} {f : σ → β} {b : β}
    (h : (exec step s₀ as).map f = some b) : ∃ s, AnyRun step s₀ as s ∧ f s = b := by
  obtain ⟨s, hs, hb⟩ := Option.map_eq_some_iff.1 h
  exact ⟨s, anyRun_iff_exec.2 hs, hb⟩

theorem run_of_execIf_map {β : Type*} {step : σ → α → Option σ} {ok : σ → α → Bool} {s₀ : σ}
    {as : List α} {f : σ → β} {b : β} (h : (execIf step ok s₀ as).map f = some b) :
    ∃ s, Run step (fun s a => ok s a = true) s₀ as s ∧ f s = b := by
  obtain ⟨s, hs, hb⟩ := Option.map_eq_some_iff.1 h
  exact ⟨s, run_of_execIf hs, hb⟩

end Lib
