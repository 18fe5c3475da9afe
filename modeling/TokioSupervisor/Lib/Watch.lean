import Mathlib.Data.Nat.Notation

/-!
# A watch channel

The sender replaces the value of the channel and counts its version up; a receiver keeps the version
it has seen last. `waitFor p` is one piece of a receiver's wait for a value with `p`: it looks at the
value, and when that does not have `p` it waits for a version it has not seen, or for the sender to go.
-/

namespace Lib

/-- `closed` says that the sender is gone. -/
structure Watch (α : Type*) where
  value : α
  version : ℕ
  closed : Bool

/-- Where a wait stands. -/
inductive WaitFor
  /-- Looks at the value next; `closed` says that it found the channel closed. -/
  | looking (closed : Bool)
  /-- Waits for a change. -/
  | awaiting
  | done (found : Bool)
deriving DecidableEq

namespace Watch
variable {α : Type*} {p : α → Bool} {w w' : Watch α} {seen seen' : ℕ} {wait wait' : WaitFor}

def replace (w : Watch α) (value : α) : Watch α := { w with value, version := w.version + 1 }

/-- There is no sending once the sender is gone. -/
def send (w : Watch α) (value : α) : Option (Watch α) :=
  if w.closed then none else some (w.replace value)

def close (w : Watch α) : Watch α := { w with closed := true }

/-- One piece of a wait, with the version that the receiver has seen then. -/
def waitFor (p : α → Bool) (w : Watch α) (seen : ℕ) : WaitFor → Option (ℕ × WaitFor)
  | .looking closed =>
    if (!closed || seen != w.version) && p w.value then some (w.version, .done true)
    else some (w.version, if closed then .done false else .awaiting)
  | .awaiting =>
    if seen != w.version then some (w.version, .looking false)
    else if w.closed then some (seen, .looking true)
    else none
  | .done _ => none

/-- What a wait has found out: it awaits a change of a value without `p`, and it goes by a closed
channel only when the last value does not have `p`. -/
def Missed (p : α → Bool) (w : Watch α) (seen : ℕ) : WaitFor → Prop
  | .awaiting => seen ≤ w.version ∧ (seen = w.version → p w.value = false)
  | .looking true | .done false => w.closed = true ∧ p w.value = false
  | _ => True

theorem Missed.waitFor (h : Missed p w seen wait)
    (hs : w.waitFor p seen wait = some (seen', wait')) : Missed p w seen' wait' := by
  cases wait with
  | looking closed =>
    simp only [Watch.waitFor] at hs
    split at hs
    · cases hs
      trivial
    · rename_i hno
      cases hs
      cases closed with
      | false => exact ⟨Nat.le_refl _, fun _ => by simpa using hno⟩
      | true => exact h
  | awaiting =>
    simp only [Watch.waitFor] at hs
    split at hs
    · cases hs
      trivial
    · rename_i hseen
      split at hs
      · rename_i hclosed
        cases hs
        exact ⟨hclosed, h.2 (by simpa using hseen)⟩
      · cases hs
  | done found => cases hs

theorem Missed.send {value : α} (h : Missed p w seen wait) (hs : w.send value = some w') :
    Missed p w' seen wait := by
  simp only [Watch.send] at hs
  split at hs
  · cases hs
  · rename_i hopen
    cases hs
    cases wait with
    | looking closed =>
      cases closed with
      | false => trivial
      | true => exact absurd h.1 hopen
    | awaiting => exact ⟨Nat.le_succ_of_le h.1, fun he => absurd (he ▸ h.1) (Nat.not_succ_le_self _)⟩
    | done found =>
      cases found with
      | false => exact absurd h.1 hopen
      | true => trivial

theorem Missed.close (h : Missed p w seen wait) : Missed p w.close seen wait := by
  cases wait with
  | looking closed =>
    cases closed with
    | false => trivial
    | true => exact ⟨rfl, h.2⟩
  | awaiting => exact h
  | done found =>
    cases found with
    | false => exact ⟨rfl, h.2⟩
    | true => trivial

end Watch
end Lib
