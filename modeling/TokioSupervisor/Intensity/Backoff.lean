import TokioSupervisor.Intensity.Window
import Mathlib.Algebra.Order.Ring.Nat

/-!
# The delays of a backoff policy

The loop of `exponential_backoff` multiplies durations, saturating, and returns early at the maximum;
what it computes is the power in unbounded arithmetic, clamped (`exponentialBackoff_closed`). The jitter
is drawn in `u128` nanoseconds and put together again from seconds and a remainder. `jitterBetween?` is
the same computation with every operation checked; no check fails (`jittered_backoff_bounds`).
-/

namespace TokioSupervisor

namespace Duration

theorem min_nanos (a b : Duration) : (a.min b).nanos = Nat.min a.nanos b.nanos := by
  unfold Duration.min
  split
  · rename_i h
    exact (Nat.min_eq_left h).symm
  · rename_i h
    exact (Nat.min_eq_right (Nat.le_of_not_le h)).symm

theorem le_MAX (d : Duration) : d ≤ MAX := Nat.le_pred_of_lt d.lt

theorem saturatingMul_nanos (d : Duration) (factor : UInt32) :
    (d.saturatingMul factor).nanos = Nat.min MAX.nanos (d.nanos * factor.toNat) := by
  unfold saturatingMul
  split
  · rename_i h
    exact (Nat.min_eq_right (Nat.le_pred_of_lt h)).symm
  · rename_i h
    refine (Nat.min_eq_left ?_).symm
    exact Nat.le_trans (Nat.le_of_lt MAX.lt) (Nat.le_of_not_lt h)

end Duration

/-! ### Exponential backoff -/

variable {base max : Duration} {factor : UInt32}

theorem BackoffPolicy.validate_exponential
    (h : (BackoffPolicy.exponential base factor max).validate = .ok ()) : 1 ≤ factor.toNat := by
  by_cases hf : factor = 0
  · cases hb : requireNonZeroDuration base "exponential backoff base must be non-zero" <;>
      simp [validate, hb, hf, bind, Except.bind, throw, throwThe, MonadExceptOf.throw] at h
  · refine Nat.one_le_iff_ne_zero.2 fun hz => hf ?_
    exact UInt32.toNat_inj.1 hz

/-- What the loop has multiplied so far either is the power itself or has reached the maximum. -/
theorem exponentialBackoff_loop (hf : 1 ≤ factor.toNat) (steps : Nat) (delay : Duration) :
    (exponentialBackoff.loop factor max steps delay).nanos =
      Nat.min max.nanos (delay.nanos * factor.toNat ^ steps) := by
  induction steps generalizing delay with
  | zero => rw [exponentialBackoff.loop, Duration.min_nanos, Nat.pow_zero, Nat.mul_one]; exact Nat.min_comm ..
  | succ steps ih =>
    have hpow : delay.nanos * factor.toNat ^ (steps + 1) =
        delay.nanos * factor.toNat * factor.toNat ^ steps := by
      rw [Nat.pow_succ', Nat.mul_assoc]
    have hone : 1 ≤ factor.toNat ^ steps := Nat.one_le_pow _ _ hf
    rw [exponentialBackoff.loop, hpow]
    split
    · rename_i hmax
      have hle : max.nanos ≤ delay.nanos * factor.toNat := by
        have hmul : max.nanos ≤ (delay.saturatingMul factor).nanos := hmax
        rw [Duration.saturatingMul_nanos] at hmul
        exact Nat.le_trans hmul (Nat.min_le_right ..)
      exact (Nat.min_eq_left (Nat.le_trans hle (Nat.le_mul_of_pos_right _ hone))).symm
    · rename_i hmax
      have hlt : (delay.saturatingMul factor).nanos < max.nanos := Nat.lt_of_not_le hmax
      have hexact : (delay.saturatingMul factor).nanos = delay.nanos * factor.toNat := by
        rw [Duration.saturatingMul_nanos] at hlt ⊢
        refine Nat.min_eq_right (Nat.le_of_not_le fun hsat => ?_)
        rw [show Nat.min _ _ = _ from Nat.min_eq_left hsat] at hlt
        exact absurd max.le_MAX (Nat.not_le_of_lt hlt)
      rw [ih, hexact]

/-- For every policy that `validate` accepts, the delay after `steps` steps is the power in unbounded
arithmetic, clamped to the maximum; so it is never above the maximum, and grows with the steps. -/
theorem exponentialBackoff_closed (h : (BackoffPolicy.exponential base factor max).validate = .ok ()) :
    (∀ steps, (exponentialBackoff base factor max steps).nanos =
      Nat.min max.nanos (base.nanos * factor.toNat ^ steps)) ∧
    (∀ steps, exponentialBackoff base factor max steps ≤ max) ∧
    ∀ steps steps', steps ≤ steps' →
      exponentialBackoff base factor max steps ≤ exponentialBackoff base factor max steps' := by
  have hf := BackoffPolicy.validate_exponential h
  have hclosed : ∀ steps, (exponentialBackoff base factor max steps).nanos =
      Nat.min max.nanos (base.nanos * factor.toNat ^ steps) :=
    fun steps => exponentialBackoff_loop hf steps base
  refine ⟨hclosed, fun steps => ?_, fun steps steps' hle => ?_⟩
  · show (exponentialBackoff base factor max steps).nanos ≤ max.nanos
    rw [hclosed]
    exact Nat.min_le_left ..
  · show (exponentialBackoff base factor max steps).nanos ≤
      (exponentialBackoff base factor max steps').nanos
    rw [hclosed, hclosed]
    have hpow : factor.toNat ^ steps ≤ factor.toNat ^ steps' := Nat.pow_le_pow_right hf hle
    exact Nat.le_min.2 ⟨Nat.min_le_left .., Nat.le_trans (Nat.min_le_right ..)
      (Nat.mul_le_mul_left _ hpow)⟩

/-- A base near `Duration::MAX` saturates in one step. -/
theorem exponentialBackoff_closed_saturates :
    exponentialBackoff Duration.MAX 3 (.fromSecs 90) 2 ≤ .fromSecs 90 :=
  (@exponentialBackoff_closed Duration.MAX (.fromSecs 90) 3 rfl).2.1 2

/-! ### Jitter -/

namespace U128

/-- `a + b`, `none` where it overflows. -/
def checkedAdd (a b : Nat) : Option Nat := if a + b < 2 ^ 128 then some (a + b) else none

/-- `a - b`, `none` where it overflows. -/
def checkedSub (a b : Nat) : Option Nat := if b ≤ a then some (a - b) else none

/-- `a % b`, `none` where it divides by zero. -/
def checkedRem (a b : Nat) : Option Nat := if b = 0 then none else some (a % b)

/-- `a as` a type of `bits` bits, `none` where the value changes. -/
def checkedCast (bits a : Nat) : Option Nat := if a < 2 ^ bits then some a else none

variable {a b bits : Nat}

theorem checkedAdd_eq (h : a + b < 2 ^ 128) : checkedAdd a b = some (a + b) := if_pos h

theorem checkedSub_eq (h : b ≤ a) : checkedSub a b = some (a - b) := if_pos h

theorem checkedRem_eq (h : 0 < b) : checkedRem a b = some (a % b) := if_neg (Nat.ne_of_gt h)

theorem checkedCast_eq (h : a < 2 ^ bits) : checkedCast bits a = some a := if_pos h

end U128

/-- `Duration::new`, `none` where the nanoseconds carry into the seconds. -/
def Duration.checkedNew (secs nanos : Nat) : Option Duration :=
  if h : secs < 2 ^ 64 ∧ nanos < NANOS_PER_SEC then
    some ⟨secs * NANOS_PER_SEC + nanos, by
      calc secs * NANOS_PER_SEC + nanos
          < secs * NANOS_PER_SEC + NANOS_PER_SEC := Nat.add_lt_add_left h.2 _
        _ = (secs + 1) * NANOS_PER_SEC := (Nat.succ_mul ..).symm
        _ ≤ 2 ^ 64 * NANOS_PER_SEC := Nat.mul_le_mul_right _ h.1⟩
  else none

/-- `duration_from_nanos` with every operation checked. -/
def durationFromNanosChecked (nanos : Nat) : Option Duration := do
  let secs ← U128.checkedCast 64 (nanos / NANOS_PER_SEC)
  let subsecNanos ← U128.checkedCast 32 (nanos % NANOS_PER_SEC)
  Duration.checkedNew secs subsecNanos

/-- `jitter_between` with every operation checked. -/
def JitterRng.jitterBetweenChecked (rng : JitterRng) (min max : Duration) :
    Option (Duration × JitterRng) :=
  if max ≤ min then some (max, rng)
  else do
    let span ← U128.checkedSub max.nanos min.nanos
    let (word, rng) := rng.nextU64
    let modulus ← U128.checkedAdd span 1
    let offset ← U128.checkedRem word.toNat modulus
    let nanos ← U128.checkedAdd min.nanos offset
    let delay ← durationFromNanosChecked nanos
    return (delay, rng)

/-- Nanoseconds of a duration come back unchanged, and no digit is lost on the way. -/
theorem durationFromNanos_exact {nanos : Nat} (h : nanos < 2 ^ 64 * NANOS_PER_SEC) :
    (durationFromNanos nanos).nanos = nanos ∧
      durationFromNanosChecked nanos = some (durationFromNanos nanos) := by
  have hsecs : nanos / NANOS_PER_SEC < 2 ^ 64 := Nat.div_lt_of_lt_mul (Nat.mul_comm .. ▸ h)
  have hsub : nanos % NANOS_PER_SEC < NANOS_PER_SEC := Nat.mod_lt _ (by decide)
  have hsub' : nanos % NANOS_PER_SEC < 2 ^ 32 := Nat.lt_trans hsub (by decide)
  have hsame : nanos / NANOS_PER_SEC % 2 ^ 64 = nanos / NANOS_PER_SEC := Nat.mod_eq_of_lt hsecs
  have hexact : nanos / NANOS_PER_SEC % 2 ^ 64 * NANOS_PER_SEC + nanos % NANOS_PER_SEC = nanos := by
    rw [hsame]
    exact Nat.div_add_mod' nanos NANOS_PER_SEC
  refine ⟨hexact, ?_⟩
  rw [durationFromNanosChecked, U128.checkedCast_eq hsecs, U128.checkedCast_eq hsub']
  show Duration.checkedNew (nanos / NANOS_PER_SEC) (nanos % NANOS_PER_SEC) = _
  rw [Duration.checkedNew, dif_pos ⟨hsecs, hsub⟩]
  exact congrArg some (Duration.ext (congrArg (· * NANOS_PER_SEC + nanos % NANOS_PER_SEC) hsame.symm))

/-- The drawn delay lies between the bounds, and no operation of the draw overflows. -/
theorem JitterRng.jitterBetween_exact (rng : JitterRng) {min max : Duration} (h : min ≤ max) :
    min ≤ (rng.jitterBetween min max).1 ∧ (rng.jitterBetween min max).1 ≤ max ∧
      rng.jitterBetweenChecked min max = some (rng.jitterBetween min max) := by
  unfold jitterBetween jitterBetweenChecked
  split
  · exact ⟨h, Nat.le_refl _, rfl⟩
  · have hle : min.nanos ≤ max.nanos := h
    generalize rng.nextU64 = next
    obtain ⟨word, rng'⟩ := next
    have hoffset : word.toNat % (max.nanos - min.nanos + 1) < max.nanos - min.nanos + 1 :=
      Nat.mod_lt _ (Nat.succ_pos _)
    have habove : min.nanos + word.toNat % (max.nanos - min.nanos + 1) ≤ max.nanos := by omega
    have hrange := Nat.lt_of_le_of_lt habove max.lt
    have hwide : 2 ^ 64 * NANOS_PER_SEC < 2 ^ 128 - 1 := by decide
    have hspan : max.nanos - min.nanos + 1 < 2 ^ 128 :=
      Nat.add_lt_of_lt_sub (Nat.lt_trans (Nat.lt_of_le_of_lt (Nat.sub_le ..) max.lt) hwide)
    have hnanos : min.nanos + word.toNat % (max.nanos - min.nanos + 1) < 2 ^ 128 :=
      Nat.lt_of_lt_of_le (Nat.lt_trans hrange hwide) (Nat.sub_le ..)
    obtain ⟨hexact, hchecked⟩ := durationFromNanos_exact hrange
    refine ⟨?_, ?_, ?_⟩
    · show min.nanos ≤ (durationFromNanos _).nanos
      rw [hexact]
      exact Nat.le_add_right ..
    · show (durationFromNanos _).nanos ≤ max.nanos
      rwa [hexact]
    · simp only [U128.checkedSub_eq hle, U128.checkedAdd_eq hspan, U128.checkedRem_eq (Nat.succ_pos _),
        U128.checkedAdd_eq hnanos, hchecked, Option.bind_eq_bind, Option.bind_some, Option.pure_def]

/-- For every state of the generator and any number of recorded restarts, the jittered delay is at least
half the deterministic one and at most that, and every operation of its computation is exact. -/
theorem jittered_backoff_bounds (t : RestartTracker)
    (h : t.intensity.backoff = .jitteredExponential base factor max) :
    let d := exponentialBackoff base factor max (t.times.length - 1)
    d.half ≤ t.backoff.1 ∧ t.backoff.1 ≤ d ∧
      t.rng.jitterBetweenChecked d.half d = some (t.backoff.1, t.backoff.2.rng) := by
  intro d
  have hhalf : d.half ≤ d := Nat.div_le_self ..
  have hbackoff : t.backoff = ((t.rng.jitterBetween d.half d).1,
      { t with rng := (t.rng.jitterBetween d.half d).2 }) := by
    rw [t.backoff_eq, h]
    rfl
  rw [hbackoff]
  exact t.rng.jitterBetween_exact hhalf

/-- The longest delay there is, from the state that xorshift never reaches. -/
theorem jittered_backoff_bounds_max :
    let policy : BackoffPolicy := .jitteredExponential Duration.MAX 2 Duration.MAX
    let t : RestartTracker := ⟨⟨3, .fromSecs 1, policy⟩, [5, 8], ⟨0⟩, 2⟩
    policy.validate = .ok () ∧ Duration.MAX.half ≤ t.backoff.1 ∧ t.backoff.1 ≤ Duration.MAX := by
  intro policy t
  have hd : exponentialBackoff Duration.MAX 2 Duration.MAX (t.times.length - 1) = Duration.MAX := by
    decide
  have hbounds := jittered_backoff_bounds t (by rfl)
  rw [hd] at hbounds
  exact ⟨by rfl, hbounds.1, hbounds.2.1⟩

end TokioSupervisor
