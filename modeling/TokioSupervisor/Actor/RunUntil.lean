import TokioSupervisor.Runtime.State
import TokioSupervisor.Lib.Run
import TokioSupervisor.Lib.Slot

/-!
# `RunnableActor::run_until`

The clones of a runnable actor share one `RunnableActorInner`, so the calls of `run_until` on all of
them are futures over one state, numbered here; the actor task of a call has its number, and so has
its mailbox. `RunPhase` is where a call stands: each step of a call is one piece of code between two
accesses to the shared state, and the environment may drop a future wherever `run_until` awaits.
Dropping a `JoinHandle` detaches its task, which goes on running.

The body of an actor task is the environment's. Spans, counters and the exit status that they report
are left out.
-/

namespace TokioSupervisor
open Lib

/-- Errors returned from `run_until`. -/
inductive ActorRunError
  | alreadyRunning (actorId : String)
  | failed (actorId source : String)
deriving DecidableEq, Repr

/-- A spawned actor task; `shutdown` says whether its `actor_shutdown` token is cancelled. -/
structure ActorTask where
  shutdown : Bool
  abortRequested : Bool
  outcome : Option TaskOutcome

/-- How a call of `run_until` is over. -/
inductive RunEnd
  | returned (result : Except ActorRunError Unit)
  /-- `resume_unwind` with the panic of the task. -/
  | unwound (display : String)
  | dropped

/-- Where a call of `run_until` stands. -/
inductive RunPhase
  /-- Not polled yet. -/
  | created
  /-- `_active_run` is held. -/
  | started
  /-- `bound_mailbox` is held too. -/
  | bound
  /-- The task is spawned and its handle is in `actor_task`: no poll has reached the first branch of
  the `select!` (one that finds tokio's budget spent does not). -/
  | spawned
  /-- At the `select!`, with the handle moved into `actor_join`. -/
  | joining
  /-- Inside the `select!`, after its first branch was pending. -/
  | joinPending
  /-- The task is joined. -/
  | joined (result : TaskOutcome)
  /-- The task is joined and `bound_mailbox` dropped. -/
  | unbound (result : TaskOutcome)
  /-- Being dropped: `actor_join` and `actor_task` are gone, `bound_mailbox` is next. -/
  | droppingMailbox
  /-- Being dropped: `_active_run` is next. -/
  | droppingRun
  | gone (how : RunEnd)

/-- The call holds the `ActiveActorRun` guard. -/
def RunPhase.holdsRun : RunPhase → Bool
  | .created | .gone _ => false
  | _ => true

/-- The call waits for its task. -/
def RunPhase.awaitsTask : RunPhase → Bool
  | .spawned | .joining | .joinPending => true
  | _ => false

structure RunUntil where
  phase : RunPhase
  shutdownRequested : Bool

/-- `RunnableActorInner`, with the calls over it and their tasks. `binding` is the call whose mailbox
is bound. -/
structure RunnableActor where
  id : String
  running : Bool
  binding : Option Nat
  calls : Nat → RunUntil
  tasks : Nat → Option ActorTask

namespace RunnableActor

def new (id : String) : RunnableActor := ⟨id, false, none, fun _ => ⟨.created, false⟩, fun _ => none⟩

def setPhase (s : RunnableActor) (i : Nat) (phase : RunPhase) : RunnableActor :=
  { s with calls := Function.update s.calls i { s.calls i with phase } }

def modifyTask (s : RunnableActor) (i : Nat) (f : ActorTask → ActorTask) : RunnableActor :=
  { s with tasks := Function.update s.tasks i ((s.tasks i).map f) }

/-- The task of call `i` runs and nobody has aborted it. -/
def live (s : RunnableActor) (i : Nat) : Bool :=
  (s.tasks i).any fun task => task.outcome.isNone && !task.abortRequested

/-- The outcome of the task of call `i`, once it has ended. -/
def outcome (s : RunnableActor) (i : Nat) : Option TaskOutcome := (s.tasks i).bind (·.outcome)

/-- `ActiveActorRun::start`. -/
def start (s : RunnableActor) (i : Nat) : RunnableActor :=
  if s.running then s.setPhase i (.gone (.returned (.error (.alreadyRunning s.id))))
  else { s with running := true }.setPhase i .started

/-- The last `match` of `run_until`. -/
def runEnd (s : RunnableActor) : TaskOutcome → RunEnd
  | .returned (.ok ()) => .returned (.ok ())
  | .returned (.error source) => .returned (.error (.failed s.id source))
  | .panicked display => .unwound display
  | .cancelled => .returned (.error (.failed s.id s!"actor `{s.id}` task was cancelled"))

/-- The next piece of call `i`. -/
def runCall (s : RunnableActor) (i : Nat) : Option RunnableActor :=
  match (s.calls i).phase with
  | .created => some (s.start i)
  | .started => some ({ s with binding := some i }.setPhase i .bound)
  | .bound =>
    some ({ s with tasks := Function.update s.tasks i (some ⟨false, false, none⟩) }.setPhase i .spawned)
  | .spawned => some (s.setPhase i .joining)
  | .joining =>
    match s.outcome i with
    | some result => some (s.setPhase i (.joined result))
    | none => some (s.setPhase i .joinPending)
  | .joinPending => some (s.setPhase i .joining)
  | .joined result => some ({ s with binding := none }.setPhase i (.unbound result))
  | .unbound result => some ({ s with running := false }.setPhase i (.gone (s.runEnd result)))
  | .droppingMailbox => some ({ s with binding := none }.setPhase i .droppingRun)
  | .droppingRun => some ({ s with running := false }.setPhase i (.gone .dropped))
  | .gone _ => none

/-- The future of call `i` is dropped where it awaits: its locals go in reverse order, first
`actor_join` and then `actor_task`, which aborts the task if it still has the handle. -/
def dropCall (s : RunnableActor) (i : Nat) : Option RunnableActor :=
  match (s.calls i).phase with
  | .created => some (s.setPhase i (.gone .dropped))
  | .spawned => some ((s.modifyTask i ({ · with abortRequested := true })).setPhase i .droppingMailbox)
  | .joining => some (s.setPhase i .droppingMailbox)
  | _ => none

/-- The second branch of the `select!`. -/
def shutdownCall (s : RunnableActor) (i : Nat) : Option RunnableActor :=
  match s.calls i with
  | ⟨.joinPending, false⟩ =>
    some ({ s with calls := Function.update s.calls i ⟨.joining, true⟩ }.modifyTask i
      ({ · with shutdown := true }))
  | _ => none

/-- The body of task `i` ends; only an aborted task ends as cancelled. -/
def finishTask (s : RunnableActor) (i : Nat) (outcome : TaskOutcome) : Option RunnableActor :=
  match s.tasks i, outcome with
  | some ⟨_, false, none⟩, .cancelled => none
  | some ⟨_, _, none⟩, _ => some (s.modifyTask i ({ · with outcome := some outcome }))
  | _, _ => none

inductive Act
  | run (i : Nat)
  | drop (i : Nat)
  /-- The shutdown future of call `i` resolves. -/
  | shutdown (i : Nat)
  | finish (i : Nat) (outcome : TaskOutcome)
  /-- Somebody in task `i` cancels its token. -/
  | cancelToken (i : Nat)

def step (s : RunnableActor) : Act → Option RunnableActor
  | .run i => s.runCall i
  | .drop i => s.dropCall i
  | .shutdown i => s.shutdownCall i
  | .finish i outcome => s.finishTask i outcome
  | .cancelToken i => some (s.modifyTask i ({ · with shutdown := true }))

/-- At most one actor task is live, and none whose call is over. -/
structure Exclusive (s : RunnableActor) : Prop where
  atMostOne : ∀ i j, s.live i = true → s.live j = true → i = j
  gone : ∀ i how, (s.calls i).phase = .gone how → s.live i = false

/-- No future is dropped while its `actor_join` has the handle of a live task. -/
def keepsHandle (s : RunnableActor) : Act → Bool
  | .drop i =>
    match (s.calls i).phase with
    | .joining => !s.live i
    | _ => true
  | _ => true

/-! ### What a step writes -/

section
variable {s s' : RunnableActor} {i j : Nat} {p : RunPhase}

theorem setPhase_phase : ((s.setPhase i p).calls j).phase = if j = i then p else (s.calls j).phase := by
  by_cases h : j = i
  · subst h; simp [setPhase]
  · simp [setPhase, h]

theorem live_modifyTask {f : ActorTask → ActorTask}
    (hf : ∀ task, ((f task).outcome.isNone && !(f task).abortRequested) = true →
      (task.outcome.isNone && !task.abortRequested) = true)
    (h : (s.modifyTask i f).live j = true) : s.live j = true := by
  by_cases hj : j = i
  · subst hj
    simp only [live, modifyTask, Function.update_self, Option.any_map] at h
    unfold live
    cases ht : s.tasks j with
    | none => rw [ht] at h; cases h
    | some task => rw [ht] at h; exact hf task h
  · simpa only [live, modifyTask, Function.update_of_ne hj] using h

theorem live_modifyTask_self {f : ActorTask → ActorTask}
    (hf : ∀ task, ((f task).outcome.isNone && !(f task).abortRequested) = false) :
    (s.modifyTask i f).live i = false := by
  simp only [live, modifyTask, Function.update_self, Option.any_map]
  cases s.tasks i with
  | none => rfl
  | some task => exact hf task

theorem live_of_outcome {o : TaskOutcome} (h : s.outcome i = some o) : s.live i = false := by
  unfold outcome at h
  unfold live
  cases ht : s.tasks i with
  | none => rfl
  | some task =>
    rw [ht, Option.bind_some] at h
    simp [h]

/-! ### The invariant -/

/-- The run slot is held by the one call whose guard is alive, and the call of a live task waits for
it. -/
structure Guarded (s : RunnableActor) : Prop where
  slot : Slot (s.running = true) fun i => (s.calls i).phase.holdsRun = true
  live : ∀ i, s.live i = true → (s.calls i).phase.awaitsTask = true

theorem new_guarded (id : String) : (new id).Guarded :=
  by
  refine ⟨(Slot.empty fun i hi => ?_).congr (by simp [new]) fun i => Iff.rfl, fun i hi => ?_⟩
  · cases hi
  · cases hi

theorem Guarded.move (h : s.Guarded) (hrun : s'.running = s.running)
    (hphase : ∀ j, (s'.calls j).phase = if j = i then p else (s.calls j).phase)
    (hholds : p.holdsRun = (s.calls i).phase.holdsRun)
    (hself : s'.live i = true → p.awaitsTask = true)
    (hlive : ∀ j, j ≠ i → s'.live j = true → s.live j = true) : s'.Guarded := by
  refine ⟨h.slot.congr (by rw [hrun]) fun j => ?_, fun j hj => ?_⟩
  · rw [hphase]
    split
    · rename_i hj
      rw [hj, hholds]
    · exact Iff.rfl
  · rw [hphase]
    split
    · rename_i hij
      exact hself (hij ▸ hj)
    · rename_i hij
      exact h.live j (hlive j hij hj)

theorem Guarded.tasks (h : s.Guarded) (hrun : s'.running = s.running)
    (hphase : ∀ j, (s'.calls j).phase = (s.calls j).phase)
    (hlive : ∀ j, s'.live j = true → s.live j = true) : s'.Guarded := by
  refine ⟨h.slot.congr (by rw [hrun]) fun j => by rw [hphase], fun j hj => ?_⟩
  rw [hphase]
  exact h.live j (hlive j hj)

theorem Guarded.leave (h : s.Guarded) (hrun : s'.running = false) {how : RunEnd}
    (hphase : ∀ j, (s'.calls j).phase = if j = i then .gone how else (s.calls j).phase)
    (hholds : (s.calls i).phase.holdsRun = true) (hwaits : (s.calls i).phase.awaitsTask = false)
    (hlive : ∀ j, s'.live j = true → s.live j = true) : s'.Guarded := by
  refine ⟨h.slot.release hholds (by simp [hrun]) (by simp [hphase, RunPhase.holdsRun]) fun j hj => ?_,
    fun j hj => ?_⟩
  · rw [hphase, if_neg hj]
  · have := h.live j (hlive j hj)
    rw [hphase]
    split
    · rename_i hij
      subst hij
      exact absurd this (by simp [hwaits])
    · exact this

theorem Guarded.start (h : s.Guarded) (hp : (s.calls i).phase = .created) : (s.start i).Guarded := by
  have hidle : s.live i = true → False := fun hl => by
    have := h.live i hl
    rw [hp] at this
    cases this
  unfold RunnableActor.start
  split
  · exact h.move rfl (fun j => setPhase_phase) (by rw [hp]; rfl) (fun hl => (hidle hl).elim)
      fun j _ hl => hl
  · rename_i hfree
    refine ⟨h.slot.take (i := i) hfree rfl (by rw [setPhase_phase]; simp [RunPhase.holdsRun])
      fun j hj => by rw [setPhase_phase, if_neg hj], fun j hj => ?_⟩
    rw [setPhase_phase]
    split
    · rename_i hij
      exact (hidle (hij ▸ hj)).elim
    · exact h.live j hj

theorem Guarded.runCall (h : s.Guarded) (hs : s.runCall i = some s') : s'.Guarded := by
  have hidle {p : RunPhase} (hp : (s.calls i).phase.awaitsTask = false) :
      s.live i = true → p.awaitsTask = true := fun hl => absurd (h.live i hl) (by simp [hp])
  unfold RunnableActor.runCall at hs
  cases hp : (s.calls i).phase with
  | created =>
    rw [hp] at hs
    cases hs
    exact h.start hp
  | started | joined _ | droppingMailbox =>
    rw [hp] at hs
    cases hs
    exact h.move rfl (fun j => setPhase_phase) (by rw [hp]; rfl) (hidle (by rw [hp]; rfl))
      fun j _ hl => hl
  | bound =>
    rw [hp] at hs
    cases hs
    refine h.move rfl (fun j => setPhase_phase) (by rw [hp]; rfl) (fun _ => rfl) fun j hj hl => ?_
    simpa only [RunnableActor.live, setPhase, Function.update_of_ne hj] using hl
  | spawned | joinPending =>
    rw [hp] at hs
    cases hs
    exact h.move rfl (fun j => setPhase_phase) (by rw [hp]; rfl) (fun _ => rfl) fun j _ hl => hl
  | joining =>
    rw [hp] at hs
    dsimp only at hs
    split at hs
    · rename_i result ho
      cases hs
      refine h.move rfl (fun j => setPhase_phase) (by rw [hp]; rfl) (fun hl => ?_) fun j _ hl => hl
      have hl : s.live i = true := hl
      rw [live_of_outcome ho] at hl
      cases hl
    · cases hs
      exact h.move rfl (fun j => setPhase_phase) (by rw [hp]; rfl) (fun _ => rfl) fun j _ hl => hl
  | unbound _ | droppingRun =>
    rw [hp] at hs
    cases hs
    exact h.leave rfl (fun j => setPhase_phase) (by rw [hp]; rfl) (by rw [hp]; rfl) fun j hl => hl
  | gone _ =>
    rw [hp] at hs
    cases hs

theorem Guarded.dropCall (h : s.Guarded) (hok : s.keepsHandle (.drop i) = true)
    (hs : s.dropCall i = some s') : s'.Guarded := by
  unfold RunnableActor.dropCall at hs
  cases hp : (s.calls i).phase with
  | created =>
    rw [hp] at hs
    cases hs
    refine h.move rfl (fun j => setPhase_phase) (by rw [hp]; rfl) (fun hl => ?_) fun j _ hl => hl
    have := h.live i hl
    rw [hp] at this
    cases this
  | spawned =>
    rw [hp] at hs
    cases hs
    refine h.move (p := .droppingMailbox) rfl (fun j => setPhase_phase) (by rw [hp]; rfl)
      (fun hl => ?_) fun j _ hl => live_modifyTask (fun task hl => ?_) hl
    · have hl : (s.modifyTask i ({ · with abortRequested := true })).live i = true := hl
      rw [live_modifyTask_self fun task => by simp] at hl
      cases hl
    · simp at hl
  | joining =>
    rw [hp] at hs
    cases hs
    refine h.move rfl (fun j => setPhase_phase) (by rw [hp]; rfl) (fun hl => ?_) fun j _ hl => hl
    have hl : s.live i = true := hl
    simp only [keepsHandle, hp, hl] at hok
    cases hok
  | _ =>
    rw [hp] at hs
    cases hs

theorem Guarded.shutdownCall (h : s.Guarded) (hs : s.shutdownCall i = some s') : s'.Guarded := by
  unfold RunnableActor.shutdownCall at hs
  split at hs
  · rename_i hc
    cases hs
    refine h.move (i := i) (p := .joining) rfl (fun j => ?_) (by rw [hc]; rfl) (fun _ => rfl)
      fun j _ hl => live_modifyTask (f := ({ · with shutdown := true })) (fun _ hl => hl) hl
    simp only [modifyTask, Function.update_apply]
    split <;> rfl
  · cases hs

theorem Guarded.finishTask (h : s.Guarded) {o : TaskOutcome} (hs : s.finishTask i o = some s') :
    s'.Guarded := by
  unfold RunnableActor.finishTask at hs
  split at hs
  · cases hs
  · cases hs
    exact h.tasks rfl (fun j => rfl) fun j hl => live_modifyTask (fun task hl => by simp at hl) hl
  · cases hs

theorem Guarded.step (h : s.Guarded) {a : Act} (hok : s.keepsHandle a = true)
    (hs : s.step a = some s') : s'.Guarded := by
  cases a with
  | run i => exact h.runCall hs
  | drop i => exact h.dropCall hok hs
  | shutdown i => exact h.shutdownCall hs
  | finish i o => exact h.finishTask hs
  | cancelToken i =>
    cases hs
    exact h.tasks rfl (fun j => rfl)
      fun j hl => live_modifyTask (f := ({ · with shutdown := true })) (fun _ hl => hl) hl

theorem Guarded.exclusive (h : s.Guarded) : s.Exclusive := by
  have hholds (i : Nat) (hl : s.live i = true) : (s.calls i).phase.holdsRun = true := by
    have := h.live i hl
    cases hp : (s.calls i).phase <;> rw [hp] at this <;> first | rfl | cases this
  refine ⟨fun i j hi hj => h.slot.unique i j (hholds i hi) (hholds j hj), fun i how hp => ?_⟩
  by_contra hl
  have := h.live i (by simpa using hl)
  rw [hp] at this
  cases this

end

/-! ### Runs -/

/-- In every run in which no future is dropped while its `actor_join` has the handle of a live task,
at most one actor task is live, and none whose call is over. -/
theorem run_exclusive {id : String} {as : List Act} {s : RunnableActor}
    (hrun : Run step (fun s a => s.keepsHandle a = true) (new id) as s) : s.Exclusive :=
  (hrun.invariant (new_guarded id) fun _ _ _ h hok hs => h.step hok hs).exclusive

/-- The first call is dropped before a poll of its `select!`, so that its task is aborted; the second
call runs the actor again. -/
theorem run_exclusive_rerun : ∃ s, Exclusive s ∧
    (s.live 0, s.live 1, (s.calls 0).phase.holdsRun) = (false, true, false) := by
  have hex : ∃ s, Run step (fun s a => s.keepsHandle a = true) (new "a")
      [.run 0, .run 0, .run 0, .drop 0, .run 0, .run 0, .run 1, .run 1, .run 1, .run 1] s ∧
      (s.live 0, s.live 1, (s.calls 0).phase.holdsRun) = (false, true, false) :=
    run_of_execIf_map (by decide +kernel)
  obtain ⟨s, hs, hlive⟩ := hex
  exact ⟨s, run_exclusive hs, hlive⟩

/-- The condition leaves out only drops that detach a live task. -/
theorem dropped_body_lives {s : RunnableActor} {i : Nat} (hp : (s.calls i).phase = .joining)
    (hl : s.live i = true) : ∃ s', AnyRun step s [.drop i, .run i, .run i] s' ∧ ¬ s'.Exclusive := by
  have hdrop : step s (.drop i) = some (s.setPhase i .droppingMailbox) := by
    simp only [step, dropCall, hp]
  have hrun (s : RunnableActor) (hp : (s.calls i).phase = .droppingMailbox) :
      step s (.run i) = some ({ s with binding := none }.setPhase i .droppingRun) := by
    simp only [step, runCall, hp]
  have hrun' (s : RunnableActor) (hp : (s.calls i).phase = .droppingRun) :
      step s (.run i) = some ({ s with running := false }.setPhase i (.gone .dropped)) := by
    simp only [step, runCall, hp]
  have hself (s : RunnableActor) (p : RunPhase) : ((s.setPhase i p).calls i).phase = p := by
    rw [setPhase_phase, if_pos rfl]
  refine ⟨_, ((Run.single trivial hdrop).snoc trivial (hrun _ (hself _ _))).snoc trivial
    (hrun' _ (hself _ _)), fun h => ?_⟩
  have hgone : s.live i = false := h.gone i .dropped (hself _ _)
  rw [hl] at hgone
  cases hgone

/-- The first call is dropped at its `select!`: its task is detached and runs beside that of the
second call. -/
theorem detached_body_reached : ∃ s, AnyRun step (new "a")
    [.run 0, .run 0, .run 0, .run 0, .drop 0, .run 0, .run 0, .run 1, .run 1, .run 1] s ∧
    ¬ s.Exclusive := by
  have hex : ∃ s, AnyRun step (new "a")
      [.run 0, .run 0, .run 0, .run 0, .drop 0, .run 0, .run 0, .run 1, .run 1, .run 1] s ∧
      (s.live 0, s.live 1) = (true, true) := anyRun_of_exec (by decide +kernel)
  obtain ⟨s, hs, hlive⟩ := hex
  obtain ⟨h0, h1⟩ := Prod.mk.inj hlive
  exact ⟨s, hs, fun h => Nat.zero_ne_one (h.atMostOne 0 1 h0 h1)⟩

end RunnableActor
end TokioSupervisor
