import TokioSupervisor.Policy

/-!
# The sliding restart window and its backoff

`RestartTracker` keeps the instants of the recent restarts of one child, oldest first. `record`
evicts what has left the window and appends the new restart; `exceeded` compares what is left with
the limit; `backoff` computes the delay before the next attempt.
-/

namespace TokioSupervisor

/-- One round of xorshift, never leaving the zero state. -/
def xorshift64 (state : UInt64) : UInt64 :=
  let s := if state = 0 then 1 else state
  let s := s ^^^ (s <<< 13)
  let s := s ^^^ (s >>> 7)
  s ^^^ (s <<< 17)

/-- The seed, from the nanoseconds (a `u128`) between the wall clock and the epoch. -/
def seedJitterRng (nanos : Nat) : UInt64 :=
  let seed := UInt64.ofNat nanos ^^^ UInt64.ofNat (nanos >>> 64) ^^^ 0x9e3779b97f4a7c15
  if seed = 0 then 1 else seed

/-- `duration_from_nanos`: the seconds are cast to `u64`, the remainder is below a second. -/
def durationFromNanos (nanos : Nat) : Duration :=
  ⟨nanos / NANOS_PER_SEC % 2 ^ 64 * NANOS_PER_SEC + nanos % NANOS_PER_SEC, by
    have h₁ : nanos / NANOS_PER_SEC % 2 ^ 64 < 2 ^ 64 := Nat.mod_lt _ (by decide)
    have h₂ : nanos % NANOS_PER_SEC < NANOS_PER_SEC := Nat.mod_lt _ (by decide)
    calc nanos / NANOS_PER_SEC % 2 ^ 64 * NANOS_PER_SEC + nanos % NANOS_PER_SEC
        < nanos / NANOS_PER_SEC % 2 ^ 64 * NANOS_PER_SEC + NANOS_PER_SEC := by omega
      _ = (nanos / NANOS_PER_SEC % 2 ^ 64 + 1) * NANOS_PER_SEC := (Nat.succ_mul ..).symm
      _ ≤ 2 ^ 64 * NANOS_PER_SEC := Nat.mul_le_mul_right _ h₁⟩

structure JitterRng where
  state : UInt64
deriving DecidableEq, Repr

namespace JitterRng

def nextU64 (rng : JitterRng) : UInt64 × JitterRng :=
  let state := xorshift64 rng.state
  (state, ⟨state⟩)

def jitterBetween (rng : JitterRng) (min max : Duration) : Duration × JitterRng :=
  if max ≤ min then (max, rng)
  else
    let span := max.nanos - min.nanos
    let (word, rng) := rng.nextU64
    (durationFromNanos (min.nanos + word.toNat % (span + 1)), rng)

end JitterRng

/-- The loop of `exponential_backoff`, with its early return at `max`. -/
def exponentialBackoff.loop (factor : UInt32) (max : Duration) : Nat → Duration → Duration
  | 0, delay => delay.min max
  | steps + 1, delay =>
    let delay := delay.saturatingMul factor
    if max ≤ delay then max else loop factor max steps delay

def exponentialBackoff (base : Duration) (factor : UInt32) (max : Duration) (steps : Nat) :
    Duration :=
  exponentialBackoff.loop factor max steps base

structure RestartTracker where
  intensity : RestartIntensity
  times : List Instant
  rng : JitterRng
  totalRestarts : Nat
deriving Repr

namespace RestartTracker

/-- A fresh tracker; `nanos` is the wall clock its generator is seeded from. -/
def new (intensity : RestartIntensity) (nanos : Nat) : RestartTracker :=
  ⟨intensity, [], ⟨seedJitterRng nanos⟩, 0⟩

/-- Pop the front while it is older than the window. -/
def evict (within : Duration) (now : Instant) : List Instant → List Instant
  | [] => []
  | front :: rest =>
    if within.nanos < now.nanosSince front then evict within now rest else front :: rest

def record (t : RestartTracker) (now : Instant) : RestartTracker :=
  { t with times := evict t.intensity.within now t.times ++ [now],
           totalRestarts := saturatingSucc t.totalRestarts }

def exceeded (t : RestartTracker) : Bool := decide (t.intensity.maxRestarts < t.times.length)

def backoff (t : RestartTracker) : Duration × RestartTracker :=
  match t.intensity.backoff with
  | .none => (Duration.zero, t)
  | .fixed delay => (delay, t)
  | .exponential base factor max => (exponentialBackoff base factor max (t.times.length - 1), t)
  | .jitteredExponential base factor max =>
    let deterministic := exponentialBackoff base factor max (t.times.length - 1)
    let (delay, rng) := t.rng.jitterBetween deterministic.half deterministic
    (delay, { t with rng })

theorem backoff_totalRestarts (t : RestartTracker) : t.backoff.2.totalRestarts = t.totalRestarts := by
  unfold backoff
  split <;> rfl

end RestartTracker

end TokioSupervisor
