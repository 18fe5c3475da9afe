import TokioSupervisor.Intensity
import TokioSupervisor.Lib.Window
import Mathlib.Data.Nat.Basic

/-!
# The window of a `RestartTracker` is exact

`record` evicts from the front and stops at the first recent restart; the deque is carried over calls.
The tracker's deque is the sliding window of all the instants ever recorded (`callAll_times`), so that
after a call it holds exactly those that lie within the window of the last one (`record_window`).
-/

namespace TokioSupervisor
open Lib

/-- The window of an intensity: a restart has expired once it is more than `within` ago. -/
def RestartIntensity.window (intensity : RestartIntensity) : Window Instant where
  expired now t := decide (intensity.within.nanos < now.nanosSince t)
  mono := by
    intro now now' t t' hnow ht h
    have hold : intensity.within.nanos < now - t := of_decide_eq_true h
    have hle : now - t ≤ now' - t' :=
      Nat.le_trans (Nat.sub_le_sub_right hnow t) (Nat.sub_le_sub_left ht now')
    exact decide_eq_true (show intensity.within.nanos < now' - t' from Nat.lt_of_lt_of_le hold hle)
  fresh := by
    intro now
    simp [Instant.nanosSince]

/-- The delay of the attempt with this number, and the generator after it. -/
def BackoffPolicy.delay (policy : BackoffPolicy) (rng : JitterRng) (attempt : Nat) :
    Duration × JitterRng :=
  match policy with
  | .none => (Duration.zero, rng)
  | .fixed delay => (delay, rng)
  | .exponential base factor max => (exponentialBackoff base factor max attempt, rng)
  | .jitteredExponential base factor max =>
    let deterministic := exponentialBackoff base factor max attempt
    rng.jitterBetween deterministic.half deterministic

namespace RestartTracker

/-- What is called on a tracker between two looks at it. -/
inductive Call
  | record (now : Instant)
  | backoff

def Call.recorded : Call → Option Instant
  | .record now => some now
  | .backoff => none

def call (t : RestartTracker) : Call → RestartTracker
  | .record now => t.record now
  | .backoff => t.backoff.2

def callAll (t : RestartTracker) (calls : List Call) : RestartTracker := calls.foldl call t

theorem evict_eq (intensity : RestartIntensity) (now : Instant) (times : List Instant) :
    evict intensity.within now times = times.dropWhile (intensity.window.expired now) := by
  induction times with
  | nil => rfl
  | cons front rest ih =>
    rw [evict, List.dropWhile_cons, ih]
    simp [RestartIntensity.window]

theorem record_times (t : RestartTracker) (now : Instant) :
    (t.record now).times = t.intensity.window.slide t.times now := by
  simp only [record, evict_eq, Window.slide]

@[simp] theorem record_intensity (t : RestartTracker) (now : Instant) :
    (t.record now).intensity = t.intensity := rfl

/-- `backoff` draws the delay of the attempt that the deque's length says, and only moves the generator. -/
theorem backoff_eq (t : RestartTracker) :
    t.backoff = ((t.intensity.backoff.delay t.rng (t.times.length - 1)).1,
      { t with rng := (t.intensity.backoff.delay t.rng (t.times.length - 1)).2 }) := by
  unfold backoff BackoffPolicy.delay
  cases t.intensity.backoff <;> rfl

theorem call_intensity (t : RestartTracker) (c : Call) : (t.call c).intensity = t.intensity := by
  cases c with
  | record now => rfl
  | backoff => rw [call, backoff_eq]

/-- The deque is the window slid along the instants recorded. -/
theorem callAll_times (t : RestartTracker) (calls : List Call) :
    (t.callAll calls).times =
      (calls.filterMap Call.recorded).foldl t.intensity.window.slide t.times := by
  induction calls generalizing t with
  | nil => rfl
  | cons c calls ih =>
    have hstep := ih (t.call c)
    rw [call_intensity] at hstep
    show ((t.call c).callAll calls).times = _
    rw [hstep]
    cases c with
    | record now => rw [call, record_times]; rfl
    | backoff => rw [call, backoff_eq]; rfl

theorem callAll_intensity (t : RestartTracker) (calls : List Call) :
    (t.callAll calls).intensity = t.intensity := by
  induction calls generalizing t with
  | nil => rfl
  | cons c calls ih => exact (ih (t.call c)).trans (t.call_intensity c)

/-- The restarts recorded so far that lie within the window of the last one. -/
def recent (intensity : RestartIntensity) (history : List Instant) (now : Instant) : List Instant :=
  history.filter fun t => decide (now - t ≤ intensity.within.nanos)

theorem recent_eq (intensity : RestartIntensity) (history : List Instant) (now : Instant) :
    intensity.window.recent now history = recent intensity history now := by
  refine List.filter_congr fun t _ => ?_
  show (!decide (intensity.within.nanos < now - t)) = decide (now - t ≤ intensity.within.nanos)
  rw [← decide_not]
  exact decide_eq_decide.2 Nat.not_lt

/-- Whatever was called before, with instants that do not go back, after `record` the deque holds exactly
the recorded instants within the window, `exceeded` compares their number with the limit, and `backoff`
uses one less as the number of the attempt. -/
theorem record_window (intensity : RestartIntensity) (nanos : Nat) (calls : List Call) (now : Instant)
    (h : (calls.filterMap Call.recorded ++ [now]).Pairwise (· ≤ ·)) :
    let t := ((new intensity nanos).callAll calls).record now
    let within := recent intensity (calls.filterMap Call.recorded ++ [now]) now
    t.times = within ∧ (t.exceeded = true ↔ intensity.maxRestarts < within.length) ∧
      ∃ attempt, within.length = attempt + 1 ∧
        t.backoff.1 = (intensity.backoff.delay t.rng attempt).1 := by
  intro t within
  have hi : t.intensity = intensity := callAll_intensity _ _
  have htimes : t.times = within := by
    have hslide := Window.foldl_slide (w := intensity.window) h
    rw [recent_eq, List.foldl_append] at hslide
    rw [record_times, callAll_intensity, callAll_times]
    exact hslide
  have hmem : now ∈ within := List.mem_filter.2 ⟨by simp, by simp⟩
  obtain ⟨attempt, hattempt⟩ := Nat.exists_eq_add_one.2 (List.length_pos_of_mem hmem)
  refine ⟨htimes, ?_, attempt, hattempt, ?_⟩
  · rw [exceeded, htimes, hi, decide_eq_true_eq]
  · rw [backoff_eq, htimes, hi, hattempt, Nat.add_sub_cancel]

/-- Three restarts in a window of two nanoseconds, with a limit of one. -/
theorem record_window_boundary :
    let intensity : RestartIntensity := ⟨1, durationFromNanos 2, .none⟩
    let t := ((new intensity 0).callAll [.record 3, .backoff, .record 4]).record 6
    t.times = [4, 6] ∧ t.exceeded = true := by
  intro intensity t
  obtain ⟨htimes, hexceeded, -⟩ :=
    record_window intensity 0 [.record 3, .backoff, .record 4] 6 (by decide)
  exact ⟨htimes, hexceeded.2 (by decide)⟩

end RestartTracker
end TokioSupervisor
