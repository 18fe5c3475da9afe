import Mathlib.Algebra.Group.Nat.Defs
import Mathlib.Order.Basic

/-!
# `Duration` and `Instant`

A `Duration` is a whole number of nanoseconds below `2^64` seconds. An `Instant` is the clock's
reading in nanoseconds; adding a duration fails when the sum is past the last representable instant.
-/

namespace TokioSupervisor

def NANOS_PER_SEC : Nat := 1000000000

/-- `std::time::Duration`: a `u64` of seconds and less than a second of nanoseconds. -/
@[ext]
structure Duration where
  nanos : Nat
  lt : nanos < 2 ^ 64 * NANOS_PER_SEC
deriving DecidableEq, Repr

namespace Duration

def zero : Duration := ⟨0, by decide⟩

/-- `Duration::MAX`. -/
def MAX : Duration := ⟨2 ^ 64 * NANOS_PER_SEC - 1, by decide⟩

/-- `Duration::from_secs`. -/
def fromSecs (secs : UInt64) : Duration :=
  ⟨secs.toNat * NANOS_PER_SEC, Nat.mul_lt_mul_of_pos_right secs.toNat_lt (by decide)⟩

def isZero (d : Duration) : Bool := d.nanos == 0

instance : LE Duration := ⟨fun a b => a.nanos ≤ b.nanos⟩
instance : LT Duration := ⟨fun a b => a.nanos < b.nanos⟩
instance (a b : Duration) : Decidable (a ≤ b) := inferInstanceAs (Decidable (a.nanos ≤ b.nanos))
instance (a b : Duration) : Decidable (a < b) := inferInstanceAs (Decidable (a.nanos < b.nanos))

def max (a b : Duration) : Duration := if a ≤ b then b else a

def min (a b : Duration) : Duration := if a ≤ b then a else b

/-- `Duration::saturating_mul`. -/
def saturatingMul (d : Duration) (factor : UInt32) : Duration :=
  if h : d.nanos * factor.toNat < 2 ^ 64 * NANOS_PER_SEC then ⟨d.nanos * factor.toNat, h⟩ else MAX

/-- `Duration / 2`, rounding down to a nanosecond. -/
def half (d : Duration) : Duration := ⟨d.nanos / 2, Nat.lt_of_le_of_lt (Nat.div_le_self ..) d.lt⟩

end Duration

/-- `tokio::time::Instant`: nanoseconds on the monotonic clock. -/
abbrev Instant := Nat

namespace Instant

/-- The last representable instant: an `i64` of seconds and a full second of nanoseconds. -/
def MAX : Nat := 2 ^ 63 * NANOS_PER_SEC - 1

/-- `Instant + Duration`, `none` where the addition panics. -/
def checkedAdd (t : Instant) (d : Duration) : Option Instant :=
  if t + d.nanos ≤ MAX then some (t + d.nanos) else none

/-- `Instant::duration_since`, zero when `earlier` is later. -/
def nanosSince (t earlier : Instant) : Nat := t - earlier

end Instant

/-- The largest `u64`. -/
def U64_MAX : Nat := 2 ^ 64 - 1

/-- `u64::saturating_add(1)`. -/
def saturatingSucc (n : Nat) : Nat := Nat.min (n + 1) U64_MAX

theorem saturatingSucc_of_lt {n : Nat} (h : n < U64_MAX) : saturatingSucc n = n + 1 :=
  Nat.min_eq_left h

theorem le_saturatingSucc {n : Nat} (h : n ≤ U64_MAX) : n ≤ saturatingSucc n :=
  Nat.le_min.2 ⟨Nat.le_succ n, h⟩

theorem saturatingSucc_le (n : Nat) : saturatingSucc n ≤ U64_MAX := Nat.min_le_right ..

end TokioSupervisor
