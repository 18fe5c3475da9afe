import TokioSupervisor.Actor.Admission

/-!
# The count of running blocking tasks

All actors of a graph share `running_blocking_tasks`. The thread that calls `spawn_blocking` counts a task
up after it has inserted the entry, the closure counts it down before it sends its result; the closure was
submitted earlier, so either may come first. `fetch_add` and `fetch_sub` wrap, the `+ 1` and `- 1` behind
them panic in an overflow-checked build: a spawner that panics returns no handle, a closure that panics
is dropped without a send.

`started` and `finished` record the calls of `emit_blocking_task_started` and
`emit_blocking_task_finished`, in order. The count is their difference (`Counted`), so a decrement is safe
exactly when the two do not balance.
-/

namespace TokioSupervisor
open Lib

/-- The blocking runtimes of a graph, which share one counter. -/
structure BlockingGraph where
  actors : Nat → BlockingRuntime
  runningBlockingTasks : Nat
  /-- The tasks of which the spawner has counted. -/
  started : List (Nat × Nat)
  /-- The tasks of which the closure has counted. -/
  finished : List (Nat × Nat)

namespace BlockingRuntime

/-- A closure that panics is dropped: its permit and the sender of its result go with it. -/
def unwind (s : BlockingRuntime) (n : Nat) : Option BlockingRuntime :=
  s.release.move n fun t => match t.closure with
    | .pending => some { t with closure := .aborted }
    | _ => none

/-- The task runs, or waits for a thread. -/
def pendingTask (s : BlockingRuntime) (n : Nat) : Bool := (s.records n).any (·.undelivered)

/-- `spawn_blocking` panics before it returns the handle. -/
def loseHandle (s : BlockingRuntime) (n : Nat) : BlockingRuntime :=
  s.modify n ({ · with handle := .dropped })

section
variable {s s' : BlockingRuntime} {n m : Nat} {t : BlockingTask}

/-- Of a task that is there: its closure has not been dropped before its sends. -/
def Kept (s : BlockingRuntime) (n : Nat) : Prop := ∃ t, s.records n = some t ∧ t.closure ≠ .aborted

theorem SamePermits.kept (h : SamePermits s s') (hn : s.Kept n) : s'.Kept n := by
  obtain ⟨t, ht, hc⟩ := hn
  have hrel := h.records n
  rw [ht] at hrel
  cases ht' : s'.records n with
  | none => rw [ht'] at hrel; cases hrel
  | some t' =>
    rw [ht'] at hrel
    cases hrel with
    | some hrel =>
      refine ⟨t', ht', fun hc' => ?_⟩
      rcases hrel.closure with heq | ⟨-, hocc, -⟩
      · exact hc (heq.symm.trans hc')
      · simp [BlockingTask.occupies, hc', ClosurePhase.holdsPermit] at hocc

theorem kept_update (hn : s.Kept n) {t' : BlockingTask} (hc : n = m → t'.closure ≠ .aborted)
    (r : BlockingRuntime) : Kept { r with records := Function.update s.records m (some t') } n := by
  obtain ⟨u, hu, hclosure⟩ := hn
  by_cases hnm : n = m
  · exact ⟨t', by simp [hnm], hc hnm⟩
  · exact ⟨u, by simpa [hnm] using hu, hclosure⟩

theorem kept_accept (h : s.Known) (name : Option String) (hn : s.Kept n) : (s.accept name).Kept n := by
  obtain ⟨t, ht, hc⟩ := hn
  have hlt := h n t ht
  exact ⟨t, by simp [accept, ht, Nat.ne_of_lt hlt], hc⟩

/-- Only its own abort drops a closure before its sends. -/
theorem kept_step (h : s.Known) {a : Act} (ha : a ≠ .abort n) (hs : s.step a = some s')
    (hn : s.Kept n) : s'.Kept n := by
  by_cases hkeeps : a.keepsPermits = true
  · exact (step_samePermits hkeeps hs).kept hn
  · cases step_cases hs with
    | refused => exact hn
    | @admitted name admission => exact kept_accept (s := { s with admission }) h name hn
    | record ht hr =>
      cases hr with
      | exit => exact kept_update hn (fun _ => ClosurePhase.noConfusion) s.release
      | abort => exact kept_update hn (fun hnm => absurd (hnm ▸ rfl) ha) s.release
      | _ => exact absurd rfl hkeeps
    | _ => exact absurd rfl hkeeps

theorem kept_of_pendingTask (h : s.pendingTask n = true) : s.Kept n := by
  obtain ⟨t, ht, hp⟩ := (Option.any_eq_true _ _).1 h
  refine ⟨t, ht, fun hc => ?_⟩
  rw [BlockingTask.undelivered, hc] at hp
  cases hp

theorem known_loseHandle (h : s.Known) (n : Nat) : (s.loseHandle n).Known := by
  intro m t ht
  by_cases hm : m = n
  · subst hm
    simp only [loseHandle, modify, Function.update_self, Option.map_eq_some_iff] at ht
    obtain ⟨u, hu, -⟩ := ht
    exact h m u hu
  · exact h m t (by simpa [loseHandle, modify, hm] using ht)

theorem kept_loseHandle (hm : s.Kept m) (n : Nat) : (s.loseHandle n).Kept m := by
  obtain ⟨t, ht, hc⟩ := hm
  by_cases hmn : m = n
  · subst hmn
    exact ⟨{ t with handle := .dropped }, by simp [loseHandle, modify, ht], hc⟩
  · exact ⟨t, by simpa [loseHandle, modify, hmn] using ht, hc⟩

end
end BlockingRuntime

namespace BlockingGraph

def new (actorIds : Nat → String) (limits : Nat → Option Nat) : BlockingGraph where
  actors := fun i => .new (actorIds i) (limits i)
  runningBlockingTasks := 0
  started := []
  finished := []

def setActor (s : BlockingGraph) (i : Nat) (r : BlockingRuntime) : BlockingGraph :=
  { s with actors := Function.update s.actors i r }

/-- The fetch and the addition behind it, which may overflow. -/
def emitBlockingTaskStarted (s : BlockingGraph) (i n : Nat) : Option BlockingGraph :=
  if (s.actors i).inserted n && !s.started.contains (i, n) then
    let s' := { s with
      runningBlockingTasks := (s.runningBlockingTasks + 1) % 2 ^ 64
      started := s.started ++ [(i, n)] }
    some (if s.runningBlockingTasks + 1 < 2 ^ 64 then s' else s'.setActor i ((s.actors i).loseHandle n))
  else none

/-- The fetch and the subtraction behind it, which may underflow. -/
def emitBlockingTaskFinished (s : BlockingGraph) (i n : Nat) : Option BlockingGraph :=
  if (s.actors i).pendingTask n && !s.finished.contains (i, n) then
    let s' := { s with
      runningBlockingTasks := (s.runningBlockingTasks + 2 ^ 64 - 1) % 2 ^ 64
      finished := s.finished ++ [(i, n)] }
    if 0 < s.runningBlockingTasks then some s'
    else ((s.actors i).unwind n).map (s'.setActor i)
  else none

inductive Act
  | actor (i : Nat) (a : BlockingRuntime.Act)
  | started (i n : Nat)
  | finished (i n : Nat)

/-- The counts stand between the section that inserts the entry and the handle, and between the end of
the closure's function and its first send. -/
def enabled (s : BlockingGraph) (i : Nat) : BlockingRuntime.Act → Bool
  | .complete n _ => s.finished.contains (i, n)
  | .abort n => !s.finished.contains (i, n)
  | .cancel n | .poll n | .drop n => s.started.contains (i, n)
  | _ => true

def step (s : BlockingGraph) : Act → Option BlockingGraph
  | .actor i a => if s.enabled i a then ((s.actors i).step a).map (s.setActor i) else none
  | .started i n => s.emitBlockingTaskStarted i n
  | .finished i n => s.emitBlockingTaskFinished i n

/-- A closure counts down while the counts up and the counts down do not balance. -/
def countsUpFirst (s : BlockingGraph) : Act → Bool
  | .finished _ _ => decide (s.started.length % 2 ^ 64 ≠ s.finished.length % 2 ^ 64)
  | _ => true

/-- The closure's next send goes through, or it has made both. -/
def ReachesSends (s : BlockingGraph) (i n : Nat) : Prop :=
  ∃ t, (s.actors i).records n = some t ∧
    match t.closure with
    | .pending => ∀ outcome, (s.step (.actor i (.complete n outcome))).isSome = true
    | .sent _ => (s.step (.actor i (.notify n))).isSome = true
    | .notified _ | .exited _ => True
    | .aborted => False

section
variable {s s' : BlockingGraph} {i j n m : Nat}

/-! ### The counter -/

/-- The counter is the number of counts up less that of the counts down. -/
structure Counted (s : BlockingGraph) : Prop where
  bound : s.runningBlockingTasks < 2 ^ 64
  balance : (s.runningBlockingTasks + s.finished.length) % 2 ^ 64 = s.started.length % 2 ^ 64

theorem Counted.step (h : s.Counted) {a : Act} (hs : s.step a = some s') : s'.Counted := by
  have hbound := h.bound
  have hbalance := h.balance
  cases a with
  | actor i a =>
    simp only [BlockingGraph.step, Option.ite_none_right_eq_some, Option.map_eq_some_iff] at hs
    obtain ⟨-, r, -, rfl⟩ := hs
    exact ⟨hbound, hbalance⟩
  | started i n =>
    simp only [BlockingGraph.step, emitBlockingTaskStarted, Option.ite_none_right_eq_some] at hs
    obtain ⟨-, hs⟩ := hs
    cases hs
    split <;> refine ⟨Nat.mod_lt _ (by decide), ?_⟩ <;>
      simp only [setActor, List.length_append, List.length_singleton] <;> omega
  | finished i n =>
    simp only [BlockingGraph.step, emitBlockingTaskFinished, Option.ite_none_right_eq_some] at hs
    obtain ⟨-, hs⟩ := hs
    have hcount : Counted { s with
        runningBlockingTasks := (s.runningBlockingTasks + 2 ^ 64 - 1) % 2 ^ 64
        finished := s.finished ++ [(i, n)] } := by
      refine ⟨Nat.mod_lt _ (by decide), ?_⟩
      simp only [List.length_append, List.length_singleton]
      omega
    split at hs
    · cases hs
      exact hcount
    · obtain ⟨r, -, rfl⟩ := Option.map_eq_some_iff.1 hs
      exact ⟨hcount.bound, hcount.balance⟩

theorem Counted.positive_iff (h : s.Counted) :
    0 < s.runningBlockingTasks ↔ s.countsUpFirst (.finished i n) = true := by
  have hbound := h.bound
  have hbalance := h.balance
  simp only [countsUpFirst, decide_eq_true_eq]
  omega

/-! ### The closures -/

/-- No closure that has counted down was dropped before its sends. -/
structure Reaching (s : BlockingGraph) : Prop where
  known : ∀ i, (s.actors i).Known
  kept : ∀ i n, (i, n) ∈ s.finished → (s.actors i).Kept n

theorem new_reaching (actorIds : Nat → String) (limits : Nat → Option Nat) :
    (new actorIds limits).Reaching where
  known := fun i => BlockingRuntime.new_known (actorIds i) (limits i)
  kept := fun i n h => by simp [new] at h

theorem Reaching.setActor (h : s.Reaching) {r : BlockingRuntime} (hknown : r.Known)
    (hkept : ∀ n, (i, n) ∈ s.finished → r.Kept n) : (s.setActor i r).Reaching := by
  refine ⟨fun j => ?_, fun j n hn => ?_⟩
  · by_cases hj : j = i
    · subst hj
      simpa [BlockingGraph.setActor] using hknown
    · simpa [BlockingGraph.setActor, hj] using h.known j
  · by_cases hj : j = i
    · subst hj
      simpa [BlockingGraph.setActor] using hkept n hn
    · simpa [BlockingGraph.setActor, hj] using h.kept j n hn

theorem Reaching.step (h : s.Reaching) (hc : s.Counted) {a : Act} (hok : s.countsUpFirst a = true)
    (hs : s.step a = some s') : s'.Reaching := by
  cases a with
  | actor i a =>
    simp only [BlockingGraph.step, Option.ite_none_right_eq_some, Option.map_eq_some_iff] at hs
    obtain ⟨henabled, r, hr, rfl⟩ := hs
    refine h.setActor ((h.known i).step hr) fun n hn => ?_
    refine BlockingRuntime.kept_step (h.known i) (fun ha => ?_) hr (h.kept i n hn)
    subst ha
    simp [enabled, hn] at henabled
  | started i n =>
    simp only [BlockingGraph.step, emitBlockingTaskStarted, Option.ite_none_right_eq_some] at hs
    obtain ⟨-, hs⟩ := hs
    cases hs
    split
    · exact ⟨h.known, h.kept⟩
    · have h' : Reaching { s with
          runningBlockingTasks := (s.runningBlockingTasks + 1) % 2 ^ 64
          started := s.started ++ [(i, n)] } := ⟨h.known, h.kept⟩
      exact h'.setActor (BlockingRuntime.known_loseHandle (h.known i) n)
        fun m hm => BlockingRuntime.kept_loseHandle (h.kept i m hm) n
  | finished i n =>
    simp only [BlockingGraph.step, emitBlockingTaskFinished, Option.ite_none_right_eq_some,
      Bool.and_eq_true] at hs
    obtain ⟨⟨hpending, -⟩, hs⟩ := hs
    rw [if_pos (hc.positive_iff.2 hok)] at hs
    cases hs
    refine ⟨h.known, fun j m hm => ?_⟩
    rcases List.mem_append.1 hm with hm | hm
    · exact h.kept j m hm
    · cases List.mem_singleton.1 hm
      exact BlockingRuntime.kept_of_pendingTask hpending

theorem reachesSends_of_kept (h : (s.actors i).Kept n) (hn : (i, n) ∈ s.finished) :
    s.ReachesSends i n := by
  obtain ⟨t, ht, hc⟩ := h
  refine ⟨t, ht, ?_⟩
  cases hphase : t.closure with
  | pending =>
    intro outcome
    simp [BlockingGraph.step, enabled, hn, BlockingRuntime.step, BlockingRuntime.complete,
      BlockingRuntime.move, ht, hphase]
  | sent outcome =>
    simp [BlockingGraph.step, enabled, BlockingRuntime.step, BlockingRuntime.notify,
      BlockingRuntime.move, ht, hphase]
  | notified outcome | exited outcome => trivial
  | aborted => exact hc hphase

/-! ### A schedule that is safe -/

/-- A closure counts down after its own spawner has counted up, and the count does not wrap. -/
def ownFirst (s : BlockingGraph) : Act → Bool
  | .finished i n => s.started.contains (i, n) && decide (s.started.length < 2 ^ 64)
  | _ => true

/-- Each task has counted down once at most, and not before it has counted up. -/
structure Paired (s : BlockingGraph) : Prop where
  nodup : s.finished.Nodup
  subset : s.finished ⊆ s.started

theorem Paired.step (h : s.Paired) {a : Act} (hok : s.ownFirst a = true) (hs : s.step a = some s') :
    s'.Paired := by
  cases a with
  | actor i a =>
    simp only [BlockingGraph.step, Option.ite_none_right_eq_some, Option.map_eq_some_iff] at hs
    obtain ⟨-, r, -, rfl⟩ := hs
    exact ⟨h.nodup, h.subset⟩
  | started i n =>
    simp only [BlockingGraph.step, emitBlockingTaskStarted, Option.ite_none_right_eq_some] at hs
    obtain ⟨-, hs⟩ := hs
    cases hs
    split <;> exact ⟨h.nodup, fun task htask => List.mem_append_left _ (h.subset htask)⟩
  | finished i n =>
    simp only [BlockingGraph.step, emitBlockingTaskFinished, Option.ite_none_right_eq_some,
      Bool.and_eq_true, Bool.not_eq_true', List.contains_eq_mem, decide_eq_false_iff_not] at hs
    obtain ⟨⟨-, hnew⟩, hs⟩ := hs
    simp only [ownFirst, Bool.and_eq_true, List.contains_eq_mem, decide_eq_true_eq] at hok
    have hnodup : (s.finished ++ [(i, n)]).Nodup := by
      rw [List.nodup_append]
      refine ⟨h.nodup, by simp, fun a ha b hb hab => hnew ?_⟩
      rw [← List.mem_singleton.1 hb, ← hab]
      exact ha
    have hsubset : s.finished ++ [(i, n)] ⊆ s.started :=
      List.append_subset.2 ⟨h.subset, by simpa using hok.1⟩
    split at hs
    · cases hs
      exact ⟨hnodup, hsubset⟩
    · obtain ⟨r, -, rfl⟩ := Option.map_eq_some_iff.1 hs
      exact ⟨hnodup, hsubset⟩

theorem Paired.countsUpFirst (h : s.Paired) {a : Act} (hok : s.ownFirst a = true)
    (hs : s.step a = some s') : s.countsUpFirst a = true := by
  cases a with
  | actor i a | started i n => rfl
  | finished i n =>
    have hnext := h.step hok hs
    simp only [BlockingGraph.step, emitBlockingTaskFinished, Option.ite_none_right_eq_some] at hs
    simp only [ownFirst, Bool.and_eq_true, decide_eq_true_eq] at hok
    have hlen : s'.finished.length = s.finished.length + 1 ∧ s'.started = s.started := by
      obtain ⟨-, hs⟩ := hs
      split at hs
      · cases hs
        simp
      · obtain ⟨r, -, rfl⟩ := Option.map_eq_some_iff.1 hs
        simp [BlockingGraph.setActor]
    have hle := (List.subperm_of_subset hnext.nodup hnext.subset).length_le
    simp only [BlockingGraph.countsUpFirst, decide_eq_true_eq]
    rw [hlen.1, hlen.2] at hle
    omega

end

/-- A run is safe if each spawner counts before its closure does. -/
theorem run_ownFirst {actorIds : Nat → String} {limits : Nat → Option Nat} {as : List Act}
    {s : BlockingGraph} (h : Run step (fun s a => s.ownFirst a = true) (new actorIds limits) as s) :
    s.Paired ∧ Run step (fun s a => s.countsUpFirst a = true) (new actorIds limits) as s := by
  induction h with
  | nil => exact ⟨⟨List.nodup_nil, List.nil_subset _⟩, .nil⟩
  | snoc _ hok hstep ih =>
    exact ⟨ih.1.step hok hstep, .snoc ih.2 (ih.1.countsUpFirst hok hstep) hstep⟩

/-- A decrement finds a count of one at least, and leaves its closure on the way to its sends, exactly
when it meets the condition; where all decrements do, every closure that has counted down reaches its
sends. -/
theorem run_countsUpFirst (actorIds : Nat → String) (limits : Nat → Option Nat) :
    (∀ as s, AnyRun step (new actorIds limits) as s → ∀ i n s', s.step (.finished i n) = some s' →
      (1 ≤ s.runningBlockingTasks ∧ s'.ReachesSends i n ↔ s.countsUpFirst (.finished i n) = true)) ∧
    ∀ as s, Run step (fun s a => s.countsUpFirst a = true) (new actorIds limits) as s →
      ∀ i n, (i, n) ∈ s.finished → s.ReachesSends i n := by
  have hnew : (new actorIds limits).Counted := ⟨Nat.two_pow_pos 64, by simp [new]⟩
  constructor
  · intro as s h i n s' hs
    have hcount : s.Counted := h.invariant (I := Counted) hnew fun _ _ _ hc _ hs => hc.step hs
    constructor
    · intro hsafe
      exact hcount.positive_iff.1 hsafe.1
    · intro hok
      have hpos := hcount.positive_iff.2 hok
      refine ⟨hpos, ?_⟩
      simp only [step, emitBlockingTaskFinished, Option.ite_none_right_eq_some, Bool.and_eq_true] at hs
      obtain ⟨⟨hpending, -⟩, hs⟩ := hs
      rw [if_pos hpos] at hs
      obtain rfl := Option.some.inj hs
      exact reachesSends_of_kept (BlockingRuntime.kept_of_pendingTask hpending)
        (List.mem_append_right _ (List.mem_singleton_self _))
  · intro as s h i n hn
    have hinv := h.invariant (I := fun s => s.Counted ∧ s.Reaching) ⟨hnew, new_reaching actorIds limits⟩
      fun _ _ _ hinv hok hs => ⟨hinv.1.step hs, hinv.2.step hinv.1 hok hs⟩
    exact reachesSends_of_kept (hinv.2.kept i n hn) hn

/-- The spawner counts first. -/
theorem run_countsUpFirst_spawner : ∃ s s' : BlockingGraph, s.step (.finished 0 0) = some s' ∧
    1 ≤ s.runningBlockingTasks ∧ s'.ReachesSends 0 0 := by
  have hex : ∃ s, AnyRun step (new (fun _ => "a") fun _ => some 1)
      [.actor 0 (.admitTask none), .actor 0 (.insert 0), .started 0 0] s ∧
      (s.countsUpFirst (.finished 0 0), (s.step (.finished 0 0)).isSome) = (true, true) :=
    anyRun_of_exec (by decide +kernel)
  obtain ⟨s, hs, hlook⟩ := hex
  simp only [Prod.mk.injEq] at hlook
  obtain ⟨s', hs'⟩ := Option.isSome_iff_exists.1 hlook.2
  have := ((run_countsUpFirst (fun _ => "a") fun _ => some 1).1 _ s hs 0 0 s' hs').2 hlook.1
  exact ⟨s, s', hs', this.1, this.2⟩

/-- The closure is done before its spawner has counted: the count wraps, and the result is lost. -/
theorem underflow_reached : ∃ s s', AnyRun step (new (fun _ => "a") fun _ => some 1)
    [.actor 0 (.admitTask none)] s ∧ s.step (.finished 0 0) = some s' ∧
    s.runningBlockingTasks = 0 ∧ s'.runningBlockingTasks = 2 ^ 64 - 1 ∧ ¬ s'.ReachesSends 0 0 := by
  have hex : ∃ s, AnyRun step (new (fun _ => "a") fun _ => some 1) [.actor 0 (.admitTask none)] s ∧
      (s.runningBlockingTasks, (s.step (.finished 0 0)).map fun s' =>
        (s'.runningBlockingTasks, ((s'.actors 0).records 0).map (·.closure))) =
        (0, some (2 ^ 64 - 1, some .aborted)) := anyRun_of_exec (by decide +kernel)
  obtain ⟨s, hs, hlook⟩ := hex
  simp only [Prod.mk.injEq] at hlook
  obtain ⟨hzero, hlook⟩ := hlook
  obtain ⟨s', hs', hlook⟩ := Option.map_eq_some_iff.1 hlook
  simp only [Prod.mk.injEq] at hlook
  obtain ⟨t, ht, hc⟩ := Option.map_eq_some_iff.1 hlook.2
  refine ⟨s, s', hs, hs', hzero, hlook.1, fun hreach => ?_⟩
  obtain ⟨t', ht', hsends⟩ := hreach
  rw [ht] at ht'
  cases ht'
  rw [hc] at hsends
  exact hsends

end BlockingGraph
end TokioSupervisor
