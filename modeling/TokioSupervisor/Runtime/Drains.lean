import TokioSupervisor.Runtime.Tasks
import TokioSupervisor.Runtime.Errors

/-!
# `drain_children`

The steps from the call of `drain_children` to its return, for any state whose handles and tasks belong
together (`Owned`), with the state in which the drain went past the grace period as a ghost (`Drain`).
`Drained` is what a drain makes of the state it began with: children only stop. `Phase` says where the
call stands and what it still knows of that state.
-/

namespace TokioSupervisor
open Lib SupervisorRuntime

/-! ### A drain -/

/-- `drain_children` waits, or goes on. -/
def Ctrl.draining : Ctrl → Bool
  | .await (.drainYield ..) _ | .await (.drainSelect ..) _ | .await (.drainAbortYield ..) _ => true
  | .await (.readyJoins _) (.push (.drainFirst ..) _) | .await (.readyJoins _) (.push (.drainSecond ..) _) =>
    true
  | .ret (.push (.drainFirst ..) _) _ | .ret (.push (.drainSecond ..) _) _ => true
  | _ => false

def Ctrl.waitsGrace : Ctrl → Bool
  | .await (.drainSelect ..) _ => true
  | _ => false

/-- The first sweep is over, and no child has a grace period. -/
def Ctrl.graceless : Ctrl → Bool
  | .ret (.push (.drainFirst _ none) _) (.ok ()) => true
  | _ => false

/-- The wait under the grace deadline times out, or there is no such wait. -/
def Config.passesGrace (c : Config) : Act → Bool
  | .run .timer => c.ctrl.waitsGrace
  | .resume => c.ctrl.graceless && c.rt.liveTasks != 0
  | _ => false

/-- A call of `drain_children`, with the state in which it went past the grace period. -/
structure Drain where
  config : Config
  overdue : Option SupervisorRuntime

namespace Drain

def start (rt : SupervisorRuntime) (reason : DrainReason) (k : Stack (.drainChildren reason)) : Drain :=
  ⟨rt.drainChildren reason k, none⟩

def step (d : Drain) (a : Act) : Option Drain :=
  (TokioSupervisor.step d.config a).map fun config =>
    ⟨config, if d.config.passesGrace a then some d.config.rt else d.overdue⟩

end Drain

/-- `membership != Removed && is_active()`. -/
def ChildEntry.active (e : ChildEntry) : Bool := e.membership != .removed && e.runtime.state.isActive

def ChildEntry.mode (e : ChildEntry) : ShutdownMode := e.runtime.spec.shutdownPolicy.mode

/-- The `Cooperative` children that are active, in slab order. -/
def SupervisorRuntime.late (rt : SupervisorRuntime) : List ChildEntry :=
  rt.children.iter.filter fun e => e.active && e.mode == .cooperative

/-- The `Cooperative` children that were active when the drain went past the grace period. -/
def Drain.timedOut (d : Drain) : List ChildEntry := d.overdue.elim [] (·.late)

/-- The task `id` is unjoined, and was sent an abort. -/
def JoinSet.Flagged (js : JoinSet) (id : TaskId) : Prop :=
  ∃ t ∈ js.tasks, t.id = id ∧ t.abortRequested = true

/-- No child whose mode is not `Abort` is sent an abort before its grace since `rt₀` is over. -/
def SupervisorRuntime.Spares (rt₀ rt : SupervisorRuntime) : Prop :=
  ∀ key e id, rt₀.children.get key = some e → e.runtime.abortHandle = some id → e.mode ≠ .abort →
    ¬ rt₀.joinSet.Flagged id → rt.joinSet.Flagged id →
      rt₀.now + e.runtime.spec.shutdownPolicy.grace.nanos ≤ rt.now

/-- Every child that was active in `past` has been sent an abort. -/
def SupervisorRuntime.Aborted (past rt : SupervisorRuntime) : Prop :=
  ∃ new, rt.trace = new ++ past.trace ∧
    ∀ key e, past.children.get key = some e → e.active = true → .aborted e.instanceId ∈ new

/-! ### What a drain does to the state -/

/-- `e` is what a drain leaves of the entry `e₀`. -/
structure ChildEntry.Remains (e₀ e : ChildEntry) : Prop where
  spec : e.runtime.spec = e₀.runtime.spec
  handle : e.runtime.abortHandle = none ∨ e.runtime.abortHandle = e₀.runtime.abortHandle

/-- `rt` is what a drain has made of `rt₀` so far. -/
structure SupervisorRuntime.Drained (rt₀ rt : SupervisorRuntime) (single : Prop) : Prop where
  wf : rt.Wf
  owned : rt.Owned single
  now : rt₀.now ≤ rt.now
  entry : ∀ key e, rt.children.get key = some e → ∃ e₀, rt₀.children.get key = some e₀ ∧ e₀.Remains e

section
variable {rt₀ rt rt' past : SupervisorRuntime} {single : Prop} {a : Act}

theorem ChildEntry.Ok.active {e : ChildEntry} (h : e.Ok) :
    e.active = true ↔ e.runtime.abortHandle.isSome = true := by
  rw [h.handle, ChildEntry.active, RuntimeChildState.isActive]
  simp [h.membership]

theorem SupervisorRuntime.Aborted.grown {P : Action → Prop} (h : past.Aborted rt)
    (hg : Grown P rt.trace rt'.trace) : past.Aborted rt' := by
  obtain ⟨new, hnew, hall⟩ := h
  obtain ⟨l, hl, -⟩ := hg
  refine ⟨l ++ new, by rw [hl, hnew, List.append_assoc], fun key e he ha => ?_⟩
  exact List.mem_append_right _ (hall key e he ha)

namespace SupervisorRuntime

theorem Owned.congr (h : rt.Owned single) (hc : rt'.children = rt.children)
    (ht : rt'.joinSet.tasks = rt.joinSet.tasks) (hn : rt'.nextChildInstance = rt.nextChildInstance)
    (hl : rt'.liveTasks = rt.liveTasks) : rt'.Owned single := by
  refine ⟨?_, ?_, ?_, ?_, ?_⟩
  · rw [hc, ht]
    exact h.handle
  · rw [ht, hn]
    exact h.taskLt
  · rw [hc, hn]
    exact h.entryLt
  · rw [hc, ht]
    exact h.current
  · rw [hc, hl]
    exact h.live

theorem Owned.handle_inj (h : rt.Owned single) (hwf : rt.Wf) {k₁ k₂ : ChildKey} {e₁ e₂ : ChildEntry}
    {id : TaskId} (h₁ : rt.children.get k₁ = some e₁) (h₂ : rt.children.get k₂ = some e₂)
    (hid₁ : e₁.runtime.abortHandle = some id) (hid₂ : e₂.runtime.abortHandle = some id) : e₁ = e₂ := by
  obtain ⟨t, ht, rfl, hinfo⟩ := h.handle k₁ e₁ id h₁ hid₁
  have hinfo₂ := h.attached.task_of_handle hwf ht h₂ hid₂
  have hkey : k₁ = k₂ := congrArg TaskMeta.key (hinfo.symm.trans hinfo₂)
  subst hkey
  exact Option.some.inj (h₁.symm.trans h₂)

theorem Drained.env (h : rt₀.Drained rt single) (henv : envStep rt a = some rt') : rt₀.Drained rt' single := by
  have hframe := envStep_frame henv
  obtain ⟨f, htasks, hsame⟩ := hframe.tasks
  have hwf' : rt'.Wf := by
    have hr : Rule rt (.panicked .instantOverflow) a rt' (.panicked .instantOverflow) := .env henv
    have hu : Updates ⟨rt, .panicked .instantOverflow⟩ a ⟨rt', .panicked .instantOverflow⟩ rt rt' :=
      hr.updates h.wf
    exact (hu.invariant h.wf trivial fun _ _ _ _ _ => trivial).1
  refine ⟨hwf', ?_, Nat.le_trans h.now hframe.now, by rw [hframe.children]; exact h.entry⟩
  exact (h.owned.mapTasks (fun t => (hsame t).1) fun t => (hsame t).2.1).congr hframe.children htasks hframe.nextChildInstance hframe.liveTasks

theorem Drained.joined (h : rt₀.Drained rt single) {t : Task} {outcome : TaskOutcome} {reason : DrainReason}
    (hf : rt.Finished t outcome) (hd : DrainedJoin rt t outcome reason rt') : rt₀.Drained rt' single := by
  have hexited {e : ChildEntry} (hc : rt.Current t.info e) : rt₀.Drained (rt.exited t e outcome) single := by
    refine ⟨h.wf.exited hc outcome, h.owned.exited h.wf hf.mem hc outcome, h.now, fun key f hf => ?_⟩
    have hget : (rt.exited t e outcome).children.get key =
        if t.info.key = key then some (e.stopped outcome.status) else rt.children.get key :=
      Slab.get_set hc.get _ _
    rw [hget] at hf
    split at hf
    · rename_i hk
      subst hk
      cases hf
      obtain ⟨e₀, he₀, hr⟩ := h.entry _ _ hc.get
      exact ⟨e₀, he₀, hr.spec, .inl rfl⟩
    · exact h.entry key f hf
  cases hd with
  | stale hc => exact ⟨h.wf.ignored t, h.owned.ignored h.wf hf.mem hc, h.now, h.entry⟩
  | exited hc hr => exact hexited hc
  | @temporary e hc hr ht =>
    generalize hlast : (e.stopped outcome.status).terminated t.info.generation outcome.status.isFailure = last
    have hget := exited_get hc outcome
    have hdrained := hexited hc
    have hwf : ((rt.exited t e outcome).setEntry t.info.key last).Wf :=
      hdrained.wf.setEntry hget (by simp [← hlast]) (hlast ▸ (hdrained.wf.ok hget).terminated _ _)
    refine ⟨hwf, hdrained.owned.setEntry hget (by simp [← hlast]) (by simp [← hlast]) (by simp [← hlast]),
      hdrained.now, fun key f hf => ?_⟩
    have hget' : ((rt.exited t e outcome).setEntry t.info.key last).children.get key =
        if t.info.key = key then some last else (rt.exited t e outcome).children.get key :=
      Slab.get_set hget _ _
    rw [hget'] at hf
    split at hf
    · rename_i hk
      subst hk
      cases hf
      obtain ⟨e₀, he₀, hr⟩ := hdrained.entry _ _ hget
      exact ⟨e₀, he₀, by simpa [← hlast] using hr.spec, by simpa [← hlast] using hr.handle⟩
    · exact hdrained.entry key f hf

theorem Drained.aborts (h : rt₀.Drained rt single) (predicate : ChildEntry → Bool) :
    rt₀.Drained (rt.abortMatchingChildren predicate) single := by
  suffices hchain : Relation.ReflTransGen (fun rt₁ rt₂ => rt₀.Drained rt₁ single → rt₀.Drained rt₂ single)
      rt (rt.abortMatchingChildren predicate) from
    rel_of_chain hchain (fun _ => id) (fun _ _ _ h h' hd => h' (h hd)) h
  refine abortMatchingChildren_chain predicate fun rt' key e _ _ _ _ h => ?_
  have hnow : (rt'.abortedChild e).now = rt'.now := by unfold abortedChild; split <;> rfl
  refine ⟨h.wf.abortedChild e, h.owned.abortedChild e, by rw [hnow]; exact h.now, ?_⟩
  rw [abortedChild_children]
  exact h.entry

theorem flagged_of_aborts {predicate : ChildEntry → Bool} {id : TaskId}
    (h : (rt.abortMatchingChildren predicate).joinSet.Flagged id) : rt.joinSet.Flagged id ∨
      ∃ key e, rt.children.get key = some e ∧ e.runtime.abortHandle = some id ∧ predicate e = true := by
  suffices hchain : Relation.ReflTransGen
      (fun rt₁ rt₂ : SupervisorRuntime => rt₂.joinSet.Flagged id → rt₁.joinSet.Flagged id ∨
        ∃ key e, rt.children.get key = some e ∧ e.runtime.abortHandle = some id ∧ predicate e = true)
      rt (rt.abortMatchingChildren predicate) from
    rel_of_chain hchain (fun _ => .inl) (fun _ _ _ h h' hf => (h' hf).elim h .inr) h
  refine abortMatchingChildren_chain predicate fun rt' key e he _ hp _ h => ?_
  unfold abortedChild at h
  split at h
  · exact .inl h
  · rename_i task htask
    obtain ⟨t, ht, hid, hflag⟩ := h
    obtain ⟨u, hu, rfl⟩ := List.mem_map.1 ht
    split at hflag
    · rename_i heq
      rw [if_pos heq] at hid
      exact .inr ⟨key, e, he, by rw [htask, ← heq, ← hid], hp⟩
    · rename_i hne
      rw [if_neg hne] at hid
      exact .inl ⟨u, hu, hid, hflag⟩

/-- The shared grace is at least that of each active child whose mode is not `Abort`. -/
theorem le_maxGrace {key : ChildKey} {e : ChildEntry} (he : rt.children.get key = some e)
    (ha : e.active = true) (hm : e.mode ≠ .abort) :
    ∃ grace, rt.maxGrace = some grace ∧ e.runtime.spec.shutdownPolicy.grace ≤ grace := by
  have hle (a b : Duration) : a ≤ a.max b ∧ b ≤ a.max b := by
    simp only [Duration.max]
    split
    · rename_i hab
      exact ⟨hab, Nat.le_refl _⟩
    · rename_i hab
      exact ⟨Nat.le_refl _, Nat.le_of_lt (Nat.lt_of_not_le hab)⟩
  have hkeep (current : Option Duration) (other : Duration) (h : ∃ grace, current = some grace ∧
      e.runtime.spec.shutdownPolicy.grace ≤ grace) : ∃ grace,
        some (current.elim other fun grace => grace.max other) = some grace ∧
          e.runtime.spec.shutdownPolicy.grace ≤ grace := by
    obtain ⟨grace, rfl, hgrace⟩ := h
    exact ⟨_, rfl, Nat.le_trans hgrace (hle _ _).1⟩
  have hset (current : Option Duration) : ∃ grace, some (current.elim e.runtime.spec.shutdownPolicy.grace
      fun grace => grace.max e.runtime.spec.shutdownPolicy.grace) = some grace ∧
        e.runtime.spec.shutdownPolicy.grace ≤ grace := by
    cases current with
    | none => exact ⟨_, rfl, Nat.le_refl _⟩
    | some grace => exact ⟨_, rfl, (hle _ _).2⟩
  unfold maxGrace
  refine foldl_of_mem (P := fun acc => ∃ grace, acc = some grace ∧
    e.runtime.spec.shutdownPolicy.grace ≤ grace) (Q := fun _ => True) (Slab.mem_iter.2 ⟨key, he⟩) trivial
      (fun _ _ _ => trivial) (fun acc _ => ?_) fun acc f h => ?_
  · simp only [ChildEntry.active, Bool.and_eq_true, bne_iff_ne] at ha
    rw [if_neg (by simp [ha.1, ha.2])]
    cases hmode : e.runtime.spec.shutdownPolicy.mode with
    | abort => exact absurd hmode hm
    | cooperative | cooperativeThenAbort => exact hset acc
  · by_cases hskip : f.membership = .removed ∨ (!f.runtime.state.isActive) = true
    · rw [if_pos hskip]
      exact h
    · rw [if_neg hskip]
      cases f.runtime.spec.shutdownPolicy.mode with
      | abort => exact h
      | cooperative | cooperativeThenAbort => exact hkeep acc _ h

/-- The last sweep of a drain reaches every active child. -/
theorem aborted_all (hwf : rt.Wf) : rt.Aborted (rt.abortMatchingChildren fun _ => true) := by
  have hreached (e : ChildEntry) (key : ChildKey) (he : rt.children.get key = some e) (ha : e.active = true) :
      ∃ new, (rt.abortMatchingChildren fun _ => true).trace = new ++ rt.trace ∧
        .aborted e.instanceId ∈ new := by
    obtain ⟨id, hid⟩ := Option.isSome_iff_exists.1 ((hwf.ok he).active.1 ha)
    unfold abortMatchingChildren
    refine foldl_of_mem (P := fun rt' : SupervisorRuntime => ∃ new, rt'.trace = new ++ rt.trace ∧
        .aborted e.instanceId ∈ new) (Q := fun rt' : SupervisorRuntime => ∃ new, rt'.trace = new ++ rt.trace)
      (Slab.mem_iter.2 ⟨key, he⟩) ⟨[], rfl⟩
        (fun rt' f h => ?_) (fun rt' h => ?_) fun rt' f h => ?_
    · obtain ⟨new, hnew⟩ := h
      cases f.runtime.abortHandle with
      | none => exact ⟨new, hnew⟩
      | some task =>
        by_cases hp : (f.membership != .removed && f.runtime.state.isActive && true) = true
        · simp only [if_pos hp]
          exact ⟨.aborted f.instanceId :: new, congrArg _ hnew⟩
        · simp only [if_neg hp]
          exact ⟨new, hnew⟩
    · obtain ⟨new, hnew⟩ := h
      have hp : (e.membership != .removed && e.runtime.state.isActive && true) = true := by
        rw [Bool.and_true]
        exact ha
      simp only [hid, if_pos hp]
      exact ⟨.aborted e.instanceId :: new, congrArg _ hnew, List.mem_cons_self⟩
    · obtain ⟨new, hnew, hmem⟩ := h
      cases f.runtime.abortHandle with
      | none => exact ⟨new, hnew, hmem⟩
      | some task =>
        by_cases hp : (f.membership != .removed && f.runtime.state.isActive && true) = true
        · simp only [if_pos hp]
          exact ⟨.aborted f.instanceId :: new, congrArg _ hnew, List.mem_cons_of_mem _ hmem⟩
        · simp only [if_neg hp]
          exact ⟨new, hnew, hmem⟩
  have hchain : Relation.ReflTransGen (fun rt₁ rt₂ : SupervisorRuntime =>
      Grown (fun _ => True) rt₁.trace rt₂.trace) rt (rt.abortMatchingChildren fun _ => true) :=
    abortMatchingChildren_chain (fun _ => true) fun rt' _ e _ _ _ _ =>
      abortedChild_grown e (.refl _ _) trivial
  obtain ⟨new, hnew, -⟩ := rel_of_chain hchain (fun _ => .refl _ _) fun _ _ _ => .trans
  refine ⟨new, hnew, fun key e he ha => ?_⟩
  obtain ⟨new', hnew', hmem⟩ := hreached e key he ha
  rwa [List.append_cancel_right (hnew.symm.trans hnew')]

/-! ### Graces -/

theorem Spares.mono (h : rt₀.Spares rt) (hflag : ∀ id, rt'.joinSet.Flagged id → rt.joinSet.Flagged id)
    (hnow : rt.now ≤ rt'.now) : rt₀.Spares rt' :=
  fun key e id he hid hm hn hf => Nat.le_trans (h key e id he hid hm hn (hflag id hf)) hnow

theorem Spares.env (h : rt₀.Spares rt) (henv : envStep rt a = some rt') : rt₀.Spares rt' := by
  have hframe := envStep_frame henv
  obtain ⟨f, htasks, hsame⟩ := hframe.tasks
  refine h.mono (fun id ⟨t, ht, hti, htf⟩ => ?_) hframe.now
  rw [htasks] at ht
  obtain ⟨u, hu, rfl⟩ := List.mem_map.1 ht
  obtain ⟨hid, -, hflag⟩ := hsame u
  exact ⟨u, hu, hid.symm.trans hti, hflag.symm.trans htf⟩

theorem Spares.joined (h : rt₀.Spares rt) {t : Task} {outcome : TaskOutcome} {reason : DrainReason}
    (hd : DrainedJoin rt t outcome reason rt') : rt₀.Spares rt' := by
  have htaken (id : TaskId) (hf : (rt.taken t).joinSet.Flagged id) : rt.joinSet.Flagged id := by
    obtain ⟨u, hu, hid, hflag⟩ := hf
    exact ⟨u, List.mem_of_mem_filter hu, hid, hflag⟩
  have hexited {e : ChildEntry} : (rt.exited t e outcome).joinSet = (rt.taken t).joinSet ∧
      (rt.exited t e outcome).now = rt.now := ⟨rfl, rfl⟩
  cases hd with
  | stale => exact h.mono htaken (Nat.le_refl rt.now)
  | @exited e | @temporary e =>
    obtain ⟨hjs, hnow⟩ := @hexited e
    refine h.mono (fun id hf => htaken id ?_) (Nat.le_of_eq hnow.symm)
    rw [← hjs]
    exact hf

theorem Spares.swept (hwf : rt.Wf) (hown : rt.Owned single) : rt.Spares rt.swept := by
  intro key e id he hid hm hn hf
  rcases flagged_of_aborts hf with hf | ⟨k, f, hk, hfid, hmode⟩
  · exact absurd hf hn
  · have heq := hown.handle_inj hwf he hk hid hfid
    subst heq
    exact absurd (eq_of_beq hmode) hm

/-- The last sweep comes after every grace. -/
theorem Spares.last (hwf : rt₀.Wf) (hgrace : ∀ grace, rt₀.maxGrace = some grace →
    rt₀.now + grace.nanos ≤ rt.now) : rt₀.Spares (rt.abortMatchingChildren fun _ => true) := by
  intro key e id he hid hm hn hf
  have hnow : (rt.abortMatchingChildren fun _ => true).now = rt.now :=
    abortMatchingChildren_field (·.now) (fun rt e => by unfold abortedChild; split <;> rfl) _
  obtain ⟨grace, hmax, hle⟩ := le_maxGrace he ((hwf.ok he).active.2 (by rw [hid]; rfl)) hm
  rw [hnow]
  exact Nat.le_trans (Nat.add_le_add_left hle _) (hgrace grace hmax)

end SupervisorRuntime
end

/-! ### Where the call stands -/

/-- What `drain_children` returns, given the children that were late. -/
inductive Drain.Returns (reason : DrainReason) (late : List ChildEntry) (rt : SupervisorRuntime) :
    Except SupervisorError Unit → Prop
  | timedOut (hl : late ≠ []) :
      Returns reason late rt (.error (.shutdownTimedOut (", ".intercalate (late.map (·.id)))))
  | stopped (hl : late = []) (hq : ∀ key e, rt.children.get key = some e → e.active = false) :
      Returns reason late rt (.ok ())
  | givenUp (hl : late = []) (hr : reason = .shutdown) : Returns reason late rt (.ok ())
  | remaining (names : String) (hl : late = []) (hr : reason = .groupRestart)
      (ha : ∃ key e, rt.children.get key = some e ∧ e.active = true) :
      Returns reason late rt (.error (.shutdownTimedOut names))

/-- Where a call of `drain_children` in `rt₀` stands. -/
inductive Drain.Phase (rt₀ : SupervisorRuntime) (reason : DrainReason) (k : Stack (.drainChildren reason))
    (rt : SupervisorRuntime) : Option SupervisorRuntime → Ctrl → Prop
  | yield : Phase rt₀ reason k rt none (.await (.drainYield reason rt₀.maxGrace) k)
  | first : Phase rt₀ reason k rt none (.await (.readyJoins reason) (.push (.drainFirst reason rt₀.maxGrace) k))
  | firstDone :
      Phase rt₀ reason k rt none (.ret (.push (.drainFirst reason rt₀.maxGrace) k) (.ok ()))
  | select {grace : Duration} {deadline : Instant} (hg : rt₀.maxGrace = some grace)
      (hd : rt₀.now + grace.nanos ≤ deadline) (hmax : deadline ≤ Instant.MAX) :
      Phase rt₀ reason k rt none (.await (.drainSelect reason deadline) k)
  | abortYield {past : SupervisorRuntime} (hwf : past.Wf) :
      Phase rt₀ reason k rt (some past) (.await (.drainAbortYield reason past.cooperativeTimeoutNames) k)
  | second {past : SupervisorRuntime} (hwf : past.Wf) :
      Phase rt₀ reason k rt (some past)
        (.await (.readyJoins reason) (.push (.drainSecond reason past.cooperativeTimeoutNames) k))
  | secondDone {past : SupervisorRuntime} (hwf : past.Wf) :
      Phase rt₀ reason k rt (some past)
        (.ret (.push (.drainSecond reason past.cooperativeTimeoutNames) k) (.ok ()))
  | returned {overdue : Option SupervisorRuntime} {v : Except SupervisorError Unit}
      (hv : Drain.Returns reason (overdue.elim [] (·.late)) rt v) : Phase rt₀ reason k rt overdue (.ret k v)
  | panicked {overdue : Option SupervisorRuntime} : Phase rt₀ reason k rt overdue (.panicked .instantOverflow)

section
variable {rt₀ rt rt' past : SupervisorRuntime} {single : Prop} {a : Act} {reason : DrainReason}
  {k : Stack (.drainChildren reason)} {c c' : Config}

theorem activeTaskNames_isEmpty (hwf : rt.Wf) : rt.activeTaskNames.isEmpty = true ↔
    ∀ key e, rt.children.get key = some e → e.active = false := by
  rw [activeTaskNames, hwf.collectChildNames_isEmpty, List.filter_eq_nil_iff]
  refine ⟨fun h key e he => ?_, fun h e he => ?_⟩
  · simpa [ChildEntry.active] using h e (Slab.mem_iter.2 ⟨key, he⟩)
  · obtain ⟨key, hk⟩ := Slab.mem_iter.1 he
    simpa [ChildEntry.active] using h key e hk

theorem exists_active (hwf : rt.Wf) (hn : rt.activeTaskNames.isEmpty = false) :
    ∃ key e, rt.children.get key = some e ∧ e.active = true := by
  by_contra hnone
  rw [(activeTaskNames_isEmpty hwf).2 fun key e he => ?_] at hn
  · cases hn
  · rw [← Bool.not_eq_true]
    exact fun ha => hnone ⟨key, e, he, ha⟩

theorem step_readyJoins {k : Stack (.drainReadyJoins reason)} {w : Wake} (hwf : rt.Wf)
    (h : step ⟨rt, .await (.readyJoins reason) k⟩ (.run w) = some c') :
    (∃ t outcome rt', rt.Finished t outcome ∧ DrainedJoin rt t outcome reason rt' ∧
      c' = ⟨rt', .await (.readyJoins reason) k⟩) ∨ c' = ⟨rt, .ret k (.ok ())⟩ := by
  obtain ⟨x, hx, rfl⟩ := Option.map_eq_some_iff.1 h
  cases w with
  | join id =>
    obtain ⟨⟨rt₁, joined⟩, hj, rfl⟩ := Option.map_eq_some_iff.1 hx
    obtain ⟨t, outcome, rt', -, hf, hd, heq⟩ := hwf.handleDrainedJoin hj reason
    refine .inl ⟨t, outcome, rt', hf, hd, ?_⟩
    simp only [heq, ok_bind]
    rfl
  | joinNone =>
    dsimp only [wake] at hx
    simp only [Option.ite_none_right_eq_some, Option.some.injEq] at hx
    obtain ⟨-, rfl⟩ := hx
    exact .inr rfl
  | timer =>
    dsimp only [wake] at hx
    simp only [Option.ite_none_right_eq_some, Option.some.injEq] at hx
    obtain ⟨-, rfl⟩ := hx
    exact .inr rfl
  | _ => cases hx

theorem step_drainSelect {deadline : Instant} {w : Wake} (hwf : rt.Wf)
    (h : step ⟨rt, .await (.drainSelect reason deadline) k⟩ (.run w) = some c') :
    (∃ id t outcome rt', w = .join id ∧ rt.Finished t outcome ∧ DrainedJoin rt t outcome reason rt' ∧
      c' = rt'.drainLoop reason deadline k) ∨
    (w = .joinNone ∧ rt.joinSet.isEmpty = true ∧ c' = rt.drainAfterGrace reason k) ∨
    w = .timer ∧ deadline ≤ rt.now ∧ c' = rt.drainAfterGrace reason k := by
  obtain ⟨x, hx, rfl⟩ := Option.map_eq_some_iff.1 h
  cases w with
  | join id =>
    obtain ⟨⟨rt₁, joined⟩, hj, rfl⟩ := Option.map_eq_some_iff.1 hx
    obtain ⟨t, outcome, rt', -, hf, hd, heq⟩ := hwf.handleDrainedJoin hj reason
    refine .inl ⟨id, t, outcome, rt', rfl, hf, hd, ?_⟩
    simp only [heq, ok_bind]
    rfl
  | joinNone =>
    dsimp only [wake] at hx
    simp only [Option.ite_none_right_eq_some, Option.some.injEq] at hx
    obtain ⟨hempty, rfl⟩ := hx
    exact .inr (.inl ⟨rfl, hempty, rfl⟩)
  | timer =>
    dsimp only [wake] at hx
    simp only [Option.ite_none_right_eq_some, Option.some.injEq] at hx
    obtain ⟨hle, rfl⟩ := hx
    exact .inr (.inr ⟨rfl, hle, rfl⟩)
  | _ => cases hx

theorem drainAfterGrace_cases (hwf : rt.Wf) (reason : DrainReason) (k : Stack (.drainChildren reason)) :
    (∀ key e, rt.children.get key = some e → e.active = false) ∧
        rt.drainAfterGrace reason k = ⟨rt, .ret k (.ok ())⟩ ∨
      (∃ key e, rt.children.get key = some e ∧ e.active = true) ∧
        rt.drainAfterGrace reason k = ⟨rt.abortMatchingChildren fun _ => true,
          .await (.drainAbortYield reason rt.cooperativeTimeoutNames) k⟩ := by
  rcases hwf.drainAfterGrace_cases reason k with ⟨hn, heq⟩ | ⟨hn, heq⟩
  · exact .inl ⟨(activeTaskNames_isEmpty hwf).1 hn, heq⟩
  · exact .inr ⟨exists_active hwf hn, heq⟩

theorem drainReturn_returns (hwf : rt.Wf) (hpast : past.Wf) (reason : DrainReason)
    (k : Stack (.drainChildren reason)) : ∃ v, Drain.Returns reason past.late rt v ∧
      rt.drainReturn reason past.cooperativeTimeoutNames k = ⟨rt, .ret k v⟩ := by
  have hlate : past.cooperativeTimeoutNames.isEmpty = true ↔ past.late = [] :=
    hpast.collectChildNames_isEmpty _
  rcases @drainReturn_cases rt reason past.cooperativeTimeoutNames k with
    ⟨hl, heq⟩ | ⟨hl, ⟨hn, heq⟩ | ⟨hn, hr, heq⟩ | ⟨hn, hr, heq⟩⟩
  · refine ⟨_, .timedOut fun hnil => ?_, heq⟩
    rw [hlate.2 hnil] at hl
    cases hl
  · exact ⟨_, .stopped (hlate.1 hl) ((activeTaskNames_isEmpty hwf).1 hn), heq⟩
  · exact ⟨_, .givenUp (hlate.1 hl) hr, heq⟩
  · exact ⟨_, .remaining _ (hlate.1 hl) hr (exists_active hwf hn), heq⟩

/-- The invariant of a drain. -/
structure Drain.Inv (rt₀ : SupervisorRuntime) (reason : DrainReason) (k : Stack (.drainChildren reason))
    (single : Prop) (d : Drain) : Prop where
  drained : rt₀.Drained d.config.rt single
  spares : rt₀.Spares d.config.rt
  aborted : ∀ past, d.overdue = some past → past.Aborted d.config.rt
  past : ∀ past, d.overdue = some past → rt₀.Drained past single ∧
    ∀ grace, rt₀.maxGrace = some grace → rt₀.now + grace.nanos ≤ past.now
  phase : Drain.Phase rt₀ reason k d.config.rt d.overdue d.config.ctrl

theorem Ctrl.draining_ret (v : (Fn.drainChildren reason).Value) : (Ctrl.ret k v).draining = false := by
  cases k with
  | push f k => cases f <;> rfl

theorem Config.passesGrace_env (h : envStep c.rt a = some rt') : c.passesGrace a = false := by
  cases a with
  | run w | resume => cases h
  | _ => rfl

theorem Drain.Phase.env {overdue : Option SupervisorRuntime} {ctrl : Ctrl}
    (h : Drain.Phase rt₀ reason k rt overdue ctrl) (hd : ctrl.draining = true) :
    Drain.Phase rt₀ reason k rt' overdue ctrl := by
  cases h with
  | yield => exact .yield
  | first => exact .first
  | firstDone => exact .firstDone
  | select hg hle hmax => exact .select hg hle hmax
  | abortYield hwf => exact .abortYield hwf
  | second hwf => exact .second hwf
  | secondDone hwf => exact .secondDone hwf
  | returned hv =>
    rw [Ctrl.draining_ret] at hd
    cases hd
  | panicked => cases hd

theorem Drain.step_eq {d d' : Drain} (h : d.step a = some d') :
    TokioSupervisor.step d.config a = some d'.config ∧
      d'.overdue = if d.config.passesGrace a then some d.config.rt else d.overdue := by
  obtain ⟨config, hstep, rfl⟩ := Option.map_eq_some_iff.1 h
  exact ⟨hstep, rfl⟩

theorem DrainedJoin.grown {t : Task} {outcome : TaskOutcome} (h : DrainedJoin rt t outcome reason rt') :
    Grown (fun _ => True) rt.trace rt'.trace := by
  have hexited (e : ChildEntry) : Grown (fun _ => True) rt.trace (rt.exited t e outcome).trace :=
    exited_grown t e outcome (.refl _ _) trivial trivial trivial fun _ _ => trivial
  cases h with
  | stale => exact .cons (.refl _ _) trivial
  | exited hc hr => exact hexited _
  | temporary hc hr ht => exact hexited _

theorem late_nil (hq : ∀ key e, rt.children.get key = some e → e.active = false) : rt.late = [] := by
  rw [SupervisorRuntime.late, List.filter_eq_nil_iff]
  intro e he
  obtain ⟨key, hk⟩ := Slab.mem_iter.1 he
  simp [hq key e hk]

theorem SupervisorRuntime.Drained.late_nil (h : rt₀.Drained rt single) (hwf : rt₀.Wf)
    (hm : rt₀.maxGrace = none) : rt.late = [] := by
  rw [SupervisorRuntime.late, List.filter_eq_nil_iff]
  intro e he hlate
  simp only [Bool.and_eq_true, beq_iff_eq] at hlate
  obtain ⟨key, hk⟩ := Slab.mem_iter.1 he
  obtain ⟨e₀, he₀, hr⟩ := h.entry key e hk
  have hhandle := (h.wf.ok hk).active.1 hlate.1
  have hactive : e₀.active = true := by
    rw [(hwf.ok he₀).active]
    rcases hr.handle with hnone | hsame
    · rw [hnone] at hhandle
      cases hhandle
    · rwa [← hsame]
  have hmode : e₀.mode ≠ .abort := by
    rw [ChildEntry.mode, ← hr.spec]
    exact fun habort => by rw [ChildEntry.mode, habort] at hlate; cases hlate.2
  obtain ⟨grace, hgrace, -⟩ := le_maxGrace he₀ hactive hmode
  rw [hm] at hgrace
  cases hgrace

theorem inactive_of_quiet (hwf : rt.Wf) (hq : rt.Quiet) (key : ChildKey) (e : ChildEntry)
    (he : rt.children.get key = some e) : e.active = false := by
  rw [← Bool.not_eq_true, (hwf.ok he).active, (hq key e he).2]
  exact nofun

namespace Drain
variable {d d' : Drain}

theorem Inv.goesOn (h : d.Inv rt₀ reason k single) {ctrl : Ctrl}
    (hp : Drain.Phase rt₀ reason k d.config.rt d.overdue ctrl) :
    Drain.Inv rt₀ reason k single ⟨⟨d.config.rt, ctrl⟩, d.overdue⟩ :=
  ⟨h.drained, h.spares, h.aborted, h.past, hp⟩

theorem Inv.panics (h : d.Inv rt₀ reason k single) :
    Drain.Inv rt₀ reason k single ⟨⟨d.config.rt.dropReceiver, .panicked .instantOverflow⟩, d.overdue⟩ :=
  ⟨⟨h.drained.wf, h.drained.owned.congr rfl rfl rfl rfl, h.drained.now, h.drained.entry⟩, h.spares,
    fun past hp => (h.aborted past hp).grown (dropReceiver_grown (P := fun _ => True) _ fun _ => trivial),
    h.past, .panicked⟩

theorem Inv.joined (h : d.Inv rt₀ reason k single) {t : Task} {outcome : TaskOutcome} {ctrl : Ctrl}
    (hf : d.config.rt.Finished t outcome) (hd : DrainedJoin d.config.rt t outcome reason rt')
    (hp : Drain.Phase rt₀ reason k rt' d.overdue ctrl) :
    Drain.Inv rt₀ reason k single ⟨⟨rt', ctrl⟩, d.overdue⟩ :=
  ⟨h.drained.joined hf hd, h.spares.joined hd, fun past hpast => (h.aborted past hpast).grown hd.grown,
    h.past, hp⟩

theorem Inv.ends {ctrl : Ctrl} (h : Drain.Inv rt₀ reason k single ⟨⟨rt, ctrl⟩, none⟩)
    (hq : ∀ key e, rt.children.get key = some e → e.active = false) :
    Drain.Inv rt₀ reason k single ⟨rt.drainAfterGrace reason k, none⟩ := by
  rcases drainAfterGrace_cases h.drained.wf reason k with ⟨-, heq⟩ | ⟨⟨key, e, he, ha⟩, -⟩
  · rw [heq]
    exact h.goesOn (.returned (.stopped rfl hq))
  · rw [hq key e he] at ha
    cases ha

theorem Inv.passes {ctrl : Ctrl} (h : Drain.Inv rt₀ reason k single ⟨⟨rt, ctrl⟩, none⟩) (hwf₀ : rt₀.Wf)
    (hgrace : ∀ grace, rt₀.maxGrace = some grace → rt₀.now + grace.nanos ≤ rt.now) :
    Drain.Inv rt₀ reason k single ⟨rt.drainAfterGrace reason k, some rt⟩ := by
  have hpast (past : SupervisorRuntime) (hp : some rt = some past) : rt₀.Drained past single ∧
      ∀ grace, rt₀.maxGrace = some grace → rt₀.now + grace.nanos ≤ past.now := by
    cases hp
    exact ⟨h.drained, hgrace⟩
  rcases drainAfterGrace_cases h.drained.wf reason k with ⟨hq, heq⟩ | ⟨-, heq⟩
  · rw [heq]
    refine ⟨h.drained, h.spares, fun past hpast => ?_, hpast, .returned (.stopped (late_nil hq) hq)⟩
    cases hpast
    exact ⟨[], rfl, fun key e he ha => by rw [hq key e he] at ha; cases ha⟩
  · rw [heq]
    refine ⟨h.drained.aborts _, .last hwf₀ hgrace, fun past hpast => ?_, hpast, .abortYield h.drained.wf⟩
    cases hpast
    exact aborted_all h.drained.wf

theorem passesGrace_readyJoins {k : Stack (.drainReadyJoins reason)} (w : Wake) :
    Config.passesGrace ⟨rt, .await (.readyJoins reason) k⟩ (.run w) = false := by
  cases w <;> rfl

theorem Inv.run {w : Wake} (h : d.Inv rt₀ reason k single) (hwf₀ : rt₀.Wf)
    (hd : d.config.ctrl.draining = true) (hstep : TokioSupervisor.step d.config (.run w) = some d'.config)
    (hover : d'.overdue = if d.config.passesGrace (.run w) then some d.config.rt else d.overdue) :
    d'.Inv rt₀ reason k single := by
  obtain ⟨⟨rt, ctrl⟩, overdue⟩ := d
  obtain ⟨config, overdue'⟩ := d'
  dsimp only at hstep hover
  have hphase := h.phase
  dsimp only at hphase
  cases hphase with
  | yield =>
    obtain ⟨x, hx, rfl⟩ := Option.map_eq_some_iff.1 hstep
    cases w with
    | go =>
      cases hx
      subst hover
      exact h.goesOn .first
    | _ => cases hx
  | first =>
    rw [passesGrace_readyJoins] at hover
    subst hover
    rcases step_readyJoins h.drained.wf hstep with ⟨t, outcome, rt', hf, hj, rfl⟩ | rfl
    · exact h.joined hf hj .first
    · exact h.goesOn .firstDone
  | @select grace deadline hg hle hmax =>
    rcases step_drainSelect h.drained.wf hstep with
      ⟨id, t, outcome, rt', rfl, hf, hj, rfl⟩ | ⟨rfl, hj, rfl⟩ | ⟨rfl, hnow, rfl⟩
    · subst hover
      have hI := h.joined hf hj (.select hg hle hmax)
      unfold drainLoop
      split
      · rename_i hlive
        exact hI.ends (inactive_of_quiet hI.drained.wf (hI.drained.owned.quiet_of_liveTasks hI.drained.wf hlive))
      · exact hI
    · subst hover
      exact h.ends (inactive_of_quiet h.drained.wf (h.drained.owned.quiet_of_isEmpty h.drained.wf hj))
    · subst hover
      refine h.passes hwf₀ fun grace' hg' => ?_
      rw [hg] at hg'
      cases hg'
      exact Nat.le_trans hle hnow
  | abortYield hwf =>
    obtain ⟨x, hx, rfl⟩ := Option.map_eq_some_iff.1 hstep
    cases w with
    | go =>
      cases hx
      subst hover
      exact h.goesOn (.second hwf)
    | _ => cases hx
  | second hwf =>
    rw [passesGrace_readyJoins] at hover
    subst hover
    rcases step_readyJoins h.drained.wf hstep with ⟨t, outcome, rt', hf, hj, rfl⟩ | rfl
    · exact h.joined hf hj (.second hwf)
    · exact h.goesOn (.secondDone hwf)
  | firstDone | secondDone hwf | returned hv | panicked => cases hstep

theorem Inv.resume (h : d.Inv rt₀ reason k single) (hwf₀ : rt₀.Wf)
    (hd : d.config.ctrl.draining = true) (hstep : TokioSupervisor.step d.config .resume = some d'.config)
    (hover : d'.overdue = if d.config.passesGrace .resume then some d.config.rt else d.overdue) :
    d'.Inv rt₀ reason k single := by
  obtain ⟨⟨rt, ctrl⟩, overdue⟩ := d
  obtain ⟨config, overdue'⟩ := d'
  dsimp only at hstep hover
  have hphase := h.phase
  dsimp only at hphase
  cases hphase with
  | firstDone =>
    have hstep := Option.some.inj hstep
    subst hstep
    by_cases hl : rt.liveTasks = 0
    · have hq := inactive_of_quiet h.drained.wf (h.drained.owned.quiet_of_liveTasks h.drained.wf hl)
      have hover : overdue' = none := by simpa [Config.passesGrace, hl] using hover
      subst hover
      dsimp only [TokioSupervisor.resume]
      rw [if_pos hl]
      exact h.goesOn (.returned (.stopped rfl hq))
    · dsimp only [TokioSupervisor.resume]
      rw [if_neg hl]
      cases hm : rt₀.maxGrace with
      | none =>
        have hpasses : Config.passesGrace ⟨rt, .ret (.push (.drainFirst reason none) k) (.ok ())⟩ .resume =
            (rt.liveTasks != 0) := rfl
        have hover : overdue' = some rt := by
          rw [hm, hpasses] at hover
          simpa [hl] using hover
        subst hover
        exact h.passes hwf₀ fun grace hg => by rw [hm] at hg; cases hg
      | some grace =>
        have hpasses : Config.passesGrace ⟨rt, .ret (.push (.drainFirst reason (some grace)) k) (.ok ())⟩
            .resume = false := rfl
        have hover : overdue' = none := by
          rw [hm, hpasses] at hover
          exact hover
        subst hover
        dsimp only [instantAdd]
        cases hdeadline : rt.now.checkedAdd grace with
        | none => exact h.panics
        | some deadline =>
          simp only [Instant.checkedAdd, Option.ite_none_right_eq_some, Option.some.injEq] at hdeadline
          obtain ⟨hmax, rfl⟩ := hdeadline
          have hle : rt₀.now + grace.nanos ≤ rt.now + grace.nanos := Nat.add_le_add_right h.drained.now _
          show Drain.Inv rt₀ reason k single ⟨rt.drainLoop reason (rt.now + grace.nanos) k, none⟩
          rw [drainLoop, if_neg hl]
          exact h.goesOn (.select hm hle hmax)
  | secondDone hwf =>
    have hstep := Option.some.inj hstep
    subst hstep
    subst hover
    obtain ⟨v, hv, heq⟩ := drainReturn_returns h.drained.wf hwf reason k
    dsimp only [TokioSupervisor.resume]
    rw [heq]
    exact h.goesOn (.returned hv)
  | returned hv =>
    rw [Ctrl.draining_ret] at hd
    cases hd
  | yield | first | select | abortYield | second | panicked => cases hstep

theorem Inv.step (h : d.Inv rt₀ reason k single) (hwf₀ : rt₀.Wf) (hd : d.config.ctrl.draining = true)
    (hstep : d.step a = some d') : d'.Inv rt₀ reason k single := by
  obtain ⟨hstep, hover⟩ := Drain.step_eq hstep
  rcases step_cases hstep with ⟨w, rfl⟩ | rfl | ⟨hctrl, henv⟩
  · exact h.run hwf₀ hd hstep hover
  · exact h.resume hwf₀ hd hstep hover
  · rw [Config.passesGrace_env henv, if_neg Bool.false_ne_true] at hover
    refine ⟨h.drained.env henv, h.spares.env henv, fun past hpast => ?_,
      fun past hpast => h.past past (hover ▸ hpast), ?_⟩
    · refine (h.aborted past (hover ▸ hpast)).grown (P := fun _ => True) ?_
      rcases (envStep_frame henv).trace with ht | ⟨reply, ht⟩
      · rw [ht]
        exact .refl _ _
      · rw [ht]
        exact .cons (.refl _ _) trivial
    · rw [hctrl, hover]
      exact h.phase.env hd

end Drain

end
end TokioSupervisor
