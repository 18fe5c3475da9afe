import Mathlib.Data.List.Basic

/-!
# Snapshots and the events that explain them

A log of events, newest first, is replayed on an initial state. A stream of snapshots `Reflects` the log when
a snapshot is published right before each event that publishes, showing the state with the event, and whatever
is published in between shows the state that the log has led to.
-/

namespace Lib

section
variable {State Event Snapshot : Type*} (apply : State → Event → State)

/-- The state that the events lead to, newest first. -/
def replay (t₀ : State) (log : List Event) : State := log.foldr (fun e t => apply t e) t₀

/-- The snapshots, newest first, come with the events of the log. -/
inductive Reflects (view : Snapshot → State) (publishes : Event → Bool) (t₀ : State) :
    List Snapshot → List Event → Prop
  | start {s : Snapshot} (hs : view s = t₀) : Reflects view publishes t₀ [s] []
  | again {snapshots : List Snapshot} {log : List Event} {s : Snapshot}
      (h : Reflects view publishes t₀ snapshots log) (hs : view s = replay apply t₀ log) :
      Reflects view publishes t₀ (s :: snapshots) log
  | event {snapshots : List Snapshot} {log : List Event} {s : Snapshot} {e : Event}
      (h : Reflects view publishes t₀ snapshots log) (he : publishes e = true)
      (hs : view s = replay apply t₀ (e :: log)) : Reflects view publishes t₀ (s :: snapshots) (e :: log)
  | silent {snapshots : List Snapshot} {log : List Event} {e : Event}
      (h : Reflects view publishes t₀ snapshots log) (he : publishes e = false) :
      Reflects view publishes t₀ snapshots (e :: log)

variable {apply} {view : Snapshot → State} {publishes : Event → Bool} {t₀ : State}
  {snapshots : List Snapshot} {log : List Event}

@[simp] theorem replay_cons (t₀ : State) (e : Event) (log : List Event) :
    replay apply t₀ (e :: log) = apply (replay apply t₀ log) e := rfl

namespace Reflects

/-- Where events that publish nothing change nothing, the last snapshot shows what the log has led to. -/
theorem head (h : Reflects apply view publishes t₀ snapshots log)
    (hsilent : ∀ t e, publishes e = false → apply t e = t) :
    snapshots.head?.map view = some (replay apply t₀ log) := by
  induction h with
  | start hs => exact congrArg some hs
  | again _ hs => exact congrArg some hs
  | event _ _ hs => exact congrArg some hs
  | silent _ he ih => rw [ih, replay_cons, hsilent _ _ he]

end Reflects
end

end Lib
