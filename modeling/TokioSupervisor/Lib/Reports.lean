import TokioSupervisor.Lib.Fold

/-!
# Checks that report the first fault

A validation in `Except` stops at the first fault it comes to. `Reports x es P` compares it with the list
`es` of all faults, in the order of the checks: `x` fails with the first of them, and where there is none it
returns something of which `P` holds. The rules follow the ways in which validations are put together; in a
loop the fault of an element may depend on those before it (`faults`).
-/

namespace Lib

variable {α β ε δ : Type}

/-- `x` fails with the first of `es`, and returns as `P` says if there is none. -/
def Reports (x : Except ε α) (es : List ε) (P : α → Prop) : Prop :=
  match es with
  | [] => ∃ a, x = .ok a ∧ P a
  | e :: _ => x = .error e

/-- The faults of the elements of a list that stand after `pre`. -/
def faults (fault : List α → α → List ε) (pre : List α) : List α → List ε
  | [] => []
  | a :: l => fault pre a ++ faults fault (pre ++ [a]) l

namespace Reports
variable {x : Except ε α} {es es' : List ε} {P Q : α → Prop} {e : ε}

theorem pure {a : α} (h : P a) : Reports (.ok a : Except ε α) [] P := ⟨a, rfl, h⟩

theorem nil_of_ok {a : α} (h : Reports x es P) (hx : x = .ok a) : es = [] ∧ P a := by
  subst hx
  cases es with
  | nil =>
    obtain ⟨a', ha, hP⟩ := h
    cases ha
    exact ⟨rfl, hP⟩
  | cons e es => cases h

theorem of_ok (h : Reports x es P) (hQ : ∀ a, x = .ok a → P a → Q a) : Reports x es Q := by
  cases es with
  | nil =>
    obtain ⟨a, hx, ha⟩ := h
    exact ⟨a, hx, hQ a hx ha⟩
  | cons e es => exact h

theorem bind {f : α → Except ε β} {Q : β → Prop} (h : Reports x es P) (hf : ∀ a, P a → Reports (f a) es' Q) :
    Reports (x >>= f) (es ++ es') Q := by
  cases es with
  | nil =>
    obtain ⟨a, rfl, ha⟩ := h
    exact hf a ha
  | cons e es =>
    show (x >>= f) = .error e
    rw [show x = .error e from h]
    rfl

theorem check_eq_nil {c : Prop} [Decidable c] : (if c then [e] else []) = [] ↔ ¬ c := by
  by_cases hc : c
  · simp [hc]
  · simp [hc]

theorem bind_last {f : α → Except ε β} {Q : β → Prop} (h : Reports x es P)
    (hf : ∀ a, P a → Reports (f a) [] Q) : Reports (x >>= f) es Q := by
  rw [← List.append_nil es]
  exact h.bind hf

theorem ite {c : Prop} [Decidable c] (h : ¬ c → Reports x es P) :
    Reports (if c then .error e else x) ((if c then [e] else []) ++ es) P := by
  by_cases hc : c
  · rw [if_pos hc, if_pos hc]
    exact rfl
  · rw [if_neg hc, if_neg hc]
    exact h hc

theorem last {c : Prop} [Decidable c] (h : ¬ c → Reports x [] P) :
    Reports (if c then .error e else x) (if c then [e] else []) P := by
  rw [← List.append_nil (if c then [e] else [])]
  exact ite h

theorem map_check {c : Prop} [Decidable c] (f : ε → δ) :
    (if c then [e] else []).map f = if c then [f e] else [] := by
  rw [apply_ite (List.map f)]
  rfl

theorem mapError (h : Reports x es P) (f : ε → δ) : Reports (x.mapError f) (es.map f) P := by
  cases es with
  | nil =>
    obtain ⟨a, rfl, ha⟩ := h
    exact ⟨a, rfl, ha⟩
  | cons e es =>
    show x.mapError f = .error (f e)
    rw [show x = .error e from h]
    rfl

/-- A loop reports the first fault of its elements. -/
theorem foldlM {f : β → α → Except ε β} {fault : List α → α → List ε} {I : List α → β → Prop}
    (hs : ∀ pre a b, I pre b → Reports (f b a) (fault pre a) (I (pre ++ [a]))) (l : List α) :
    ∀ {pre : List α} {b : β}, I pre b → Reports (l.foldlM f b) (faults fault pre l) (I (pre ++ l)) := by
  induction l with
  | nil =>
    intro pre b h
    rw [List.append_nil]
    exact .pure h
  | cons a l ih =>
    intro pre b h
    rw [List.foldlM_cons, List.append_cons]
    exact (hs pre a b h).bind fun b' h' => ih h'

end Reports

theorem faults_const (fault : α → List ε) (l : List α) :
    ∀ pre : List α, faults (fun _ => fault) pre l = l.flatMap fault := by
  induction l with
  | nil => exact fun pre => rfl
  | cons a l ih =>
    intro pre
    rw [faults, ih, List.flatMap_cons]

theorem map_faults (f : ε → δ) (fault : List α → α → List ε) (l : List α) :
    ∀ pre : List α, (faults fault pre l).map f = faults (fun pre a => (fault pre a).map f) pre l := by
  induction l with
  | nil => exact fun pre => rfl
  | cons a l ih =>
    intro pre
    rw [faults, List.map_append, ih]
    rfl

/-- Elements that are good each on their own and have different keys have no faults. -/
theorem faults_eq_nil {κ : Type} {fault : List α → α → List ε} (key : α → κ) (good : α → Prop)
    (h : ∀ pre a, fault pre a = [] ↔ good a ∧ key a ∉ pre.map key) (l : List α) :
    ∀ pre : List α, faults fault pre l = [] ↔
      (∀ a ∈ l, good a) ∧ (l.map key).Nodup ∧ ∀ a ∈ l, key a ∉ pre.map key := by
  induction l with
  | nil => simp [faults]
  | cons a l ih =>
    intro pre
    have hlate : (∀ x ∈ l, key x ∉ (pre ++ [a]).map key) ↔
        (∀ x ∈ l, key x ∉ pre.map key) ∧ key a ∉ l.map key := by
      simp only [List.map_append, List.map_cons, List.map_nil, List.mem_append, List.mem_singleton, not_or,
        forall_and, List.mem_map, not_exists, not_and]
    rw [faults, List.append_eq_nil_iff, h, ih, hlate, List.map_cons, List.nodup_cons, List.forall_mem_cons,
      List.forall_mem_cons]
    tauto

end Lib
