import TokioSupervisor.Actor.Bindings

/-!
# The verdict of a graph run

`GraphRuntime::run` returns from the head of its loop, with the failure it has latched. The joins that
a call has processed are read off the actions of the run (`processed`), each with what the call knew of
the external shutdown at that moment; `firstFailure` is what the latch should hold, and `Judges` says
phase by phase that it does.

The outcome of a task is looked up in the state: once the task has ended it stays.
-/

namespace TokioSupervisor
open Lib

/-- What an actor task returns. -/
structure ActorTaskExit where
  actorId : String
  result : Except String Unit

inductive ActorExitStatus
  | shutdown
  | stopped
  | failed
  | panicked
  | cancelled
deriving DecidableEq, Repr

inductive GraphShutdownCause
  | external
  | actorStopped
  | actorFailed
  | actorPanicked
  | actorCancelled
deriving DecidableEq, Repr

def ActorTaskExit.status (exit : ActorTaskExit) (shutdownRequested : Bool) : ActorExitStatus :=
  match exit.result with
  | .ok () => if shutdownRequested then .shutdown else .stopped
  | .error _ => .failed

def ActorTaskExit.shutdownCause (exit : ActorTaskExit) (shutdownRequested : Bool) :
    GraphShutdownCause :=
  match exit.status shutdownRequested with
  | .shutdown => .external
  | .stopped => .actorStopped
  | .failed => .actorFailed
  | .panicked => .actorPanicked
  | .cancelled => .actorCancelled

def classifyActorExit (exit : ActorTaskExit) (shutdownRequested : Bool) : Option GraphError :=
  match exit.result with
  | .ok () => if shutdownRequested then none else some (.actorStopped exit.actorId)
  | .error source => some (.actorFailed exit.actorId source)

/-- `classify_join`; the name of a task that did not return comes from `task_ids`. -/
def classifyJoin (actorId : String) : TaskOutcome → Except GraphError ActorTaskExit
  | .returned result => .ok ⟨actorId, result⟩
  | .panicked _ => .error (.actorPanicked actorId)
  | .cancelled => .error (.actorCancelled actorId)

def graphShutdownCauseForError : GraphError → GraphShutdownCause
  | .actorStopped _ => .actorStopped
  | .actorFailed _ _ => .actorFailed
  | .actorPanicked _ => .actorPanicked
  | .actorCancelled _ => .actorCancelled
  | .alreadyRunning | .invalidState _ => .external

namespace GraphRun

/-- With the cause it emits. -/
def requestShutdown (r : GraphRun) (cause : GraphShutdownCause) :
    GraphRun × Option GraphShutdownCause :=
  if r.shutdownToken then (r, none) else ({ r with shutdownToken := true }, some cause)

/-- The first branch of the `select!`, as the code has it. -/
def handleJoined (r : GraphRun) (actorId : String) (outcome : TaskOutcome) :
    GraphRun × Option GraphShutdownCause :=
  let r := { r with joinSet := r.joinSet.erase actorId }
  match classifyJoin actorId outcome with
  | .ok exit =>
    let (r, emitted) :=
      if !r.shutdownRequested || !exit.result.isOk then
        r.requestShutdown (exit.shutdownCause r.shutdownRequested)
      else (r, none)
    ({ r with failure := r.failure <|> classifyActorExit exit r.shutdownRequested }, emitted)
  | .error error =>
    let (r, emitted) := r.requestShutdown (graphShutdownCauseForError error)
    ({ r with failure := r.failure <|> some error }, emitted)

/-- The three classifications agree: a join cancels the token exactly when it is a failure, and the
cause it emits is that of its error. -/
theorem handleJoined_eq (r : GraphRun) (actorId : String) (outcome : TaskOutcome) :
    r.handleJoined actorId outcome = (r.processJoin actorId outcome,
      if r.shutdownToken then none
      else (outcome.graphError actorId r.shutdownRequested).map graphShutdownCauseForError) := by
  obtain ⟨phase, req, token, failure, joinSet, number⟩ := r
  rcases outcome with (_ | _) | _ | _ <;> cases req <;> cases token <;> rfl

theorem processJoin_token (r : GraphRun) (actorId : String) (outcome : TaskOutcome) :
    (r.processJoin actorId outcome).shutdownToken =
      (r.shutdownToken || (outcome.graphError actorId r.shutdownRequested).isSome) := by
  obtain ⟨phase, req, token, failure, joinSet, number⟩ := r
  rcases outcome with (_ | _) | _ | _ <;> cases req <;> cases token <;> rfl

theorem processJoin_failure (r : GraphRun) (actorId : String) (outcome : TaskOutcome) :
    (r.processJoin actorId outcome).failure =
      (r.failure <|> outcome.graphError actorId r.shutdownRequested) := rfl

end GraphRun

/-- The call is at its `select!`. -/
def GraphPhase.inLoop : GraphPhase → Bool
  | .selecting | .joinPending => true
  | _ => false

/-- The call has tasks to spawn. -/
def GraphPhase.starting : GraphPhase → Bool
  | .created | .binding _ | .spawning _ => true
  | _ => false

/-- What a call has processed: whether the external shutdown, and which joins, each with whether the
shutdown came before it. -/
structure Processed where
  shutdown : Bool
  joins : List (String × Bool)

namespace Graph

def observe (i : Nat) (p : Processed) : Act → Processed
  | .join j a => if j = i then { p with joins := p.joins ++ [(a, p.shutdown)] } else p
  | .shutdown j => if j = i then { p with shutdown := true } else p
  | _ => p

/-- What call `i` has processed in the course of the actions. -/
def processed (i : Nat) (as : List Act) : Processed := as.foldl (observe i) ⟨false, []⟩

/-- The failure that the join of a task is. -/
def joinFailure (s : Graph) (i : Nat) (join : String × Bool) : Option GraphError :=
  (s.outcome i join.1).bind (·.graphError join.1 join.2)

/-- The first join in processing order that is a failure. -/
def firstFailure (s : Graph) (i : Nat) (p : Processed) : Option GraphError :=
  p.joins.findSome? (s.joinFailure i)

/-- `ActiveRun::start` turned the call away: it has no tasks. -/
def Refused (s : Graph) (i : Nat) (result : Except GraphError Unit) : Prop :=
  (∀ a, s.tasks i a = none) ∧ (result = .error .alreadyRunning ∨
    result = .error (.invalidState "graph has already been decomposed into an actor set"))

/-- The result of a run over all its actors. -/
structure Verdict (s : Graph) (i : Nat) (p : Processed) (result : Except GraphError Unit) : Prop where
  joined : (p.joins.map Prod.fst).Perm s.actors.ids
  ended : ∀ a ∈ s.actors.ids, (s.outcome i a).isSome
  error : ∀ e, result = .error e ↔ s.firstFailure i p = some e
  ok : result = .ok () ↔ ∀ join ∈ p.joins, s.joinFailure i join = none

/-- The loop of call `i` has a join ready. -/
def joinReady (s : Graph) (i : Nat) (a : String) : Prop :=
  a ∈ (s.runs i).joinSet ∧ (s.outcome i a).isSome

/-- What a call of `run_until` promises after the actions `as`. -/
structure Judged (s : Graph) (i : Nat) (as : List Act) : Prop where
  returned : ∀ result, (s.runs i).phase = .gone (.returned result) →
    s.Refused i result ∨ s.Verdict i (processed i as) result
  /-- While the loop goes on. -/
  token : (s.runs i).phase.inLoop = true →
    (s.firstFailure i (processed i as)).isSome ∨ (processed i as).shutdown = true →
    (s.runs i).shutdownToken = true
  /-- A join that is ready when the `select!` polls. -/
  readyFirst : ∀ a, (s.runs i).phase = .selecting → s.joinReady i a →
    ∀ as' s', AnyRun step s as' s' → a ∈ (s'.runs i).joinSet → .shutdown i ∉ as'

/-! ### One call -/

section
variable {s s' : Graph} {i j : Nat} {a b : String} {p : Processed} {as : List Act}

theorem processed_snoc (a : Act) : processed i (as ++ [a]) = observe i (processed i as) a := by
  simp [processed]

/-- The call whose future or task an action moves. -/
def Act.caller : Act → Option Nat
  | .run i | .join i _ | .drop i | .shutdown i | .finish i _ _ => some i
  | .decompose => none

theorem observe_other {a : Act} (hi : a.caller ≠ some i) : observe i p a = p := by
  cases a with
  | join j b | shutdown j => exact if_neg fun hj => hi (congrArg some hj)
  | _ => rfl

theorem step_actors {a : Act} (hs : s.step a = some s') : s'.actors = s.actors := by
  cases step_cases hs <;> rfl

/-- The step of another call leaves this one and its tasks alone. -/
theorem step_other {a : Act} (hi : a.caller ≠ some i) (hs : s.step a = some s') :
    s'.runs i = s.runs i ∧ s'.tasks i = s.tasks i := by
  cases step_cases hs with
  | decomposed | kept => exact ⟨rfl, rfl⟩
  | _ =>
    have hij : i ≠ _ := fun h => hi (congrArg some h.symm)
    simp [setPhase, setRun, bind, spawn, setTask, abortAll, clear, hij]

/-! ### The latch -/

theorem firstFailure_congr (ho : ∀ join ∈ p.joins, s'.outcome i join.1 = s.outcome i join.1) :
    s'.firstFailure i p = s.firstFailure i p := by
  obtain ⟨shutdown, joins⟩ := p
  induction joins with
  | nil => rfl
  | cons join rest ih =>
    have hhead : s'.joinFailure i join = s.joinFailure i join := by
      simp only [joinFailure, ho join List.mem_cons_self]
    have hrest := ih fun x hx => ho x (List.mem_cons_of_mem _ hx)
    simp only [firstFailure, List.findSome?_cons] at hrest ⊢
    rw [hhead, hrest]

theorem firstFailure_snoc (join : String × Bool) (shutdown : Bool) :
    s.firstFailure i ⟨shutdown, p.joins ++ [join]⟩ =
      (s.firstFailure i p <|> s.joinFailure i join) := by
  simp only [firstFailure, List.findSome?_append, List.findSome?_cons, List.findSome?_nil]
  cases p.joins.findSome? (s.joinFailure i) <;> cases s.joinFailure i join <;> rfl

/-- What holds at the head of the loop and at the `select!`. -/
structure Latched (s : Graph) (i : Nat) (p : Processed) : Prop where
  perm : (p.joins.map Prod.fst ++ (s.runs i).joinSet).Perm s.actors.ids
  ended : ∀ join ∈ p.joins, (s.outcome i join.1).isSome
  requested : (s.runs i).shutdownRequested = p.shutdown
  failure : (s.runs i).failure = s.firstFailure i p
  token : (s.firstFailure i p).isSome ∨ p.shutdown = true → (s.runs i).shutdownToken = true

theorem Latched.congr (h : s.Latched i p) (hactors : s'.actors = s.actors)
    (hset : (s'.runs i).joinSet = (s.runs i).joinSet)
    (hreq : (s'.runs i).shutdownRequested = (s.runs i).shutdownRequested)
    (hfail : (s'.runs i).failure = (s.runs i).failure)
    (htoken : (s'.runs i).shutdownToken = (s.runs i).shutdownToken)
    (ho : ∀ join ∈ p.joins, s'.outcome i join.1 = s.outcome i join.1) : s'.Latched i p := by
  refine ⟨?_, fun join hj => ?_, ?_, ?_, ?_⟩
  · rw [hset, hactors]
    exact h.perm
  · rw [ho join hj]
    exact h.ended join hj
  · rw [hreq]
    exact h.requested
  · rw [hfail, firstFailure_congr ho]
    exact h.failure
  · rw [firstFailure_congr ho, htoken]
    exact h.token

theorem Latched.verdict {result : Except GraphError Unit} (h : s.Latched i p)
    (hset : (s.runs i).joinSet = [])
    (hresult : result = match (s.runs i).failure with | some error => .error error | none => .ok ()) :
    s.Verdict i p result := by
  have hperm := h.perm
  rw [hset, List.append_nil] at hperm
  rw [h.failure] at hresult
  refine ⟨hperm, fun a ha => ?_, fun e => ?_, ?_⟩
  · obtain ⟨join, hj, rfl⟩ := List.mem_map.1 (hperm.mem_iff.2 ha)
    exact h.ended join hj
  · rw [hresult]
    cases s.firstFailure i p <;> simp
  · rw [hresult, firstFailure, ← List.findSome?_eq_none_iff]
    cases List.findSome? (s.joinFailure i) p.joins <;> simp

theorem Verdict.ended_join {result : Except GraphError Unit} (h : s.Verdict i p result)
    {join : String × Bool} (hj : join ∈ p.joins) : (s.outcome i join.1).isSome :=
  h.ended join.1 (h.joined.mem_iff.1 (List.mem_map_of_mem hj))

theorem Verdict.congr {result : Except GraphError Unit} (h : s.Verdict i p result)
    (hactors : s'.actors = s.actors)
    (ho : ∀ a, (s.outcome i a).isSome → s'.outcome i a = s.outcome i a) : s'.Verdict i p result := by
  have hjoin (join : String × Bool) (hj : join ∈ p.joins) : s'.outcome i join.1 = s.outcome i join.1 :=
    ho join.1 (h.ended_join hj)
  refine ⟨hactors ▸ h.joined, fun a ha => ?_, fun e => ?_, ?_⟩
  · rw [hactors] at ha
    rw [ho a (h.ended a ha)]
    exact h.ended a ha
  · rw [firstFailure_congr hjoin]
    exact h.error e
  · rw [h.ok]
    refine forall₂_congr fun join hj => ?_
    simp only [joinFailure, hjoin join hj]

/-! ### Phase by phase -/

/-- Before the loop. -/
def Untouched (s : Graph) (i : Nat) (p : Processed) : Prop :=
  p = ⟨false, []⟩ ∧ (s.runs i).shutdownRequested = false ∧ (s.runs i).failure = none

/-- What the call has to show where it stands. -/
def Judges (s : Graph) (i : Nat) (p : Processed) : GraphPhase → Prop
  | .created | .binding _ => s.Untouched i p ∧ (s.runs i).joinSet = [] ∧ ∀ a, s.tasks i a = none
  | .spawning rest => s.Untouched i p ∧ (s.runs i).joinSet ++ rest = s.actors.ids
  | .selecting | .joinPending => s.Latched i p
  | .releasing (.returned result) => s.Verdict i p result
  | .gone (.returned result) => s.Refused i result ∨ s.Verdict i p result
  | .releasing .dropped | .gone .dropped => True

theorem new_judges (actors : GraphActors) : (new actors).Judges i ⟨false, []⟩ .created :=
  ⟨⟨rfl, rfl, rfl⟩, rfl, fun _ => rfl⟩

theorem Judges.congr {phase : GraphPhase} (h : s.Judges i p phase) (hactors : s'.actors = s.actors)
    (hruns : s'.runs i = s.runs i)
    (ho : ∀ a, (s.outcome i a).isSome → s'.outcome i a = s.outcome i a)
    (hnone : ∀ a, s.tasks i a = none → s'.tasks i a = none) : s'.Judges i p phase := by
  cases phase with
  | created | binding rest =>
    obtain ⟨hu, hset, ht⟩ := h
    exact ⟨by rwa [Untouched, hruns], by rw [hruns, hset], fun a => hnone a (ht a)⟩
  | spawning rest =>
    obtain ⟨hu, hset⟩ := h
    exact ⟨by rwa [Untouched, hruns], by rw [hruns, hactors, hset]⟩
  | selecting | joinPending =>
    exact Latched.congr h hactors (by rw [hruns]) (by rw [hruns]) (by rw [hruns]) (by rw [hruns])
      fun join hj => ho join.1 (Latched.ended h join hj)
  | releasing how =>
    cases how with
    | returned result => exact Verdict.congr h hactors ho
    | dropped => trivial
  | gone how =>
    cases how with
    | returned result =>
      exact Or.imp (fun h => ⟨fun a => hnone a (h.1 a), h.2⟩) (fun h => h.congr hactors ho) h
    | dropped => trivial

/-! ### The steps of the call -/

theorem Judges.other (h : s.Judges i p (s.runs i).phase) {a : Act} (hi : a.caller ≠ some i)
    (hs : s.step a = some s') : s'.Judges i (observe i p a) (s'.runs i).phase := by
  obtain ⟨hruns, htasks⟩ := step_other hi hs
  rw [observe_other hi, hruns]
  refine h.congr (step_actors hs) hruns (fun a _ => ?_) fun a ha => ?_
  · simp only [outcome, htasks]
  · rw [htasks, ha]

theorem Judges.finish (h : s.Judges i p (s.runs i).phase) {o : TaskOutcome}
    (hs : s.step (.finish i a o) = some s') : s'.Judges i p (s'.runs i).phase := by
  have hactors := step_actors hs
  cases step_cases hs with
  | finish ht =>
    refine Judges.congr (s := s) h hactors rfl (fun b hb => ?_) fun b hb => ?_
    · by_cases hba : b = a
      · subst hba
        simp [outcome, ht] at hb
      · simp [outcome, setTask, clear, hba]
    · by_cases hba : b = a
      · subst hba
        rw [ht] at hb
        cases hb
      · simpa [setTask, clear, hba] using hb

/-- The latch keeps the first failure: a joined task is moved from the set to the joins. -/
theorem Latched.processJoin (h : s.Latched i p) {o : TaskOutcome} (ha : a ∈ (s.runs i).joinSet)
    (ho : s.outcome i a = some o) :
    (s.setRun i ((s.runs i).processJoin a o)).Latched i
      ⟨p.shutdown, p.joins ++ [(a, p.shutdown)]⟩ := by
  have hrun : (s.setRun i ((s.runs i).processJoin a o)).runs i = (s.runs i).processJoin a o := by
    rw [setRun_runs, if_pos rfl]
  have hjoin : s.joinFailure i (a, p.shutdown) = o.graphError a p.shutdown := by
    simp only [joinFailure, ho, Option.bind_some]
  have hfirst : (s.setRun i ((s.runs i).processJoin a o)).firstFailure i
      ⟨p.shutdown, p.joins ++ [(a, p.shutdown)]⟩ =
      (s.firstFailure i p <|> o.graphError a p.shutdown) := by
    rw [← hjoin, ← firstFailure_snoc]
    rfl
  refine ⟨?_, fun join hj => ?_, ?_, ?_, fun hcause => ?_⟩
  · rw [hrun, List.map_append, List.append_assoc]
    exact ((List.perm_cons_erase ha).symm.append_left _).trans h.perm
  · rcases List.mem_append.1 hj with hj | hj
    · exact h.ended join hj
    · rw [List.mem_singleton.1 hj]
      exact Option.isSome_of_eq_some ho
  · rw [hrun]
    exact h.requested
  · rw [hrun, hfirst, GraphRun.processJoin_failure, h.failure, h.requested]
  · rw [hrun, GraphRun.processJoin_token, h.requested, Bool.or_eq_true]
    rw [hfirst] at hcause
    by_cases hold : (s.firstFailure i p).isSome ∨ p.shutdown = true
    · exact .inl (h.token hold)
    · obtain ⟨hnone, hreq⟩ := not_or.1 hold
      rw [Bool.not_eq_true, Option.isSome_eq_false_iff, Option.isNone_iff_eq_none] at hnone
      refine .inr (hcause.elim (fun hs => ?_) fun hs => absurd hs hreq)
      rwa [hnone] at hs

theorem Latched.loop {r : GraphRun} (h : (s.setRun i r).Latched i p) :
    (s.setRun i r.loop).Judges i p r.loop.phase := by
  have h' : (s.setRun i r.loop).Latched i p :=
    h.congr rfl (by simp [setRun, GraphRun.loop]) (by simp [setRun, GraphRun.loop])
      (by simp [setRun, GraphRun.loop]) (by simp [setRun, GraphRun.loop]) fun _ _ => rfl
  by_cases hset : r.joinSet = []
  · have hset' : ((s.setRun i r.loop).runs i).joinSet = [] := by simp [setRun, GraphRun.loop, hset]
    have hfail : ((s.setRun i r.loop).runs i).failure = r.failure := by simp [setRun, GraphRun.loop]
    cases hf : r.failure with
    | none =>
      rw [show r.loop.phase = .releasing (.returned (.ok ())) by simp [GraphRun.loop, hset, hf]]
      exact h'.verdict hset' (by rw [hfail, hf])
    | some error =>
      rw [show r.loop.phase = .releasing (.returned (.error error)) by
        simp [GraphRun.loop, hset, hf]]
      exact h'.verdict hset' (by rw [hfail, hf])
  · rw [show r.loop.phase = .selecting by simp [GraphRun.loop, hset]]
    exact h'

theorem Judges.runCall (h : s.Judges i p (s.runs i).phase) (hs : s.runCall i = some s') :
    s'.Judges i p (s'.runs i).phase := by
  cases runCall_moves hs with
  | started hp =>
    rw [hp] at h
    obtain ⟨⟨rfl, hreq, hfail⟩, hset, ht⟩ := h
    simp only [setRun, Function.update_self]
    exact ⟨⟨rfl, by simpa using hreq, by simpa using hfail⟩, by simpa using hset, ht⟩
  | refused hp _ hr =>
    rw [hp] at h
    simp only [setPhase, setRun, Function.update_self]
    exact .inl ⟨h.2.2, hr⟩
  | bindEnd hp =>
    rw [hp] at h
    obtain ⟨⟨rfl, hreq, hfail⟩, hset, ht⟩ := h
    simp only [setPhase, setRun, Function.update_self]
    exact ⟨⟨rfl, by simpa using hreq, by simpa using hfail⟩, by simp [hset]⟩
  | bind hp =>
    rw [hp] at h
    obtain ⟨⟨rfl, hreq, hfail⟩, hset, ht⟩ := h
    simp only [setPhase, setRun, bind, Function.update_self]
    exact ⟨⟨rfl, by simpa using hreq, by simpa using hfail⟩, by simpa using hset, ht⟩
  | spawnEnd hp =>
    rw [hp] at h
    obtain ⟨⟨rfl, hreq, hfail⟩, hset⟩ := h
    rw [List.append_nil] at hset
    have hl : (s.setRun i (s.runs i)).Latched i ⟨false, []⟩ := by
      refine ⟨?_, fun p hp => absurd hp List.not_mem_nil, ?_, ?_, ?_⟩ <;>
        simp [setRun, hset, hreq, hfail, firstFailure]
    simpa only [setRun, Function.update_self] using hl.loop
  | spawn hp =>
    rw [hp] at h
    obtain ⟨⟨rfl, hreq, hfail⟩, hset⟩ := h
    simp only [spawn, setTask, setRun, Function.update_self]
    exact ⟨⟨rfl, by simpa using hreq, by simpa using hfail⟩, by simpa using hset⟩
  | joinPending hp | select hp =>
    rw [hp] at h
    simp only [setPhase, setRun, Function.update_self]
    exact Latched.congr h rfl (by simp) (by simp) (by simp) (by simp) fun _ _ => rfl
  | @released _ how hp =>
    rw [hp] at h
    simp only [setPhase, setRun, Function.update_self]
    cases how with
    | returned result => exact .inr (Verdict.congr h rfl fun _ _ => rfl)
    | dropped => trivial

theorem Judges.join (h : s.Judges i p (s.runs i).phase) (hs : s.step (.join i a) = some s') :
    s'.Judges i (observe i p (.join i a)) (s'.runs i).phase := by
  cases step_cases hs with
  | join hp ha ho =>
    rw [hp] at h
    simpa only [observe, if_pos, setRun, Function.update_self] using
      (Latched.processJoin h ha ho).loop

theorem Judges.shutdown (h : s.Judges i p (s.runs i).phase) (hs : s.step (.shutdown i) = some s') :
    s'.Judges i (observe i p (.shutdown i)) (s'.runs i).phase := by
  cases step_cases hs with
  | shutdown hp =>
    rw [hp] at h
    have hl : s.Latched i p := h
    simp only [setRun, Function.update_self, observe, if_pos]
    refine ⟨?_, hl.ended, ?_, ?_, ?_⟩
    · simp only [Function.update_self]
      exact hl.perm
    · simp only [Function.update_self]
    · simp only [Function.update_self]
      exact hl.failure
    · simp only [Function.update_self, implies_true]

theorem Judges.drop (hs : s.step (.drop i) = some s') : s'.Judges i p (s'.runs i).phase := by
  cases step_cases hs <;> simp only [setPhase, setRun, Function.update_self] <;> trivial

theorem Judges.step (h : s.Judges i p (s.runs i).phase) {a : Act} (hs : s.step a = some s') :
    s'.Judges i (observe i p a) (s'.runs i).phase := by
  by_cases hi : a.caller = some i
  · cases a with
    | run j =>
      cases hi
      exact h.runCall hs
    | join j a =>
      cases hi
      exact h.join hs
    | drop j =>
      cases hi
      exact Judges.drop hs
    | shutdown j =>
      cases hi
      exact h.shutdown hs
    | finish j a o =>
      cases hi
      exact h.finish hs
    | decompose => cases hi
  · exact h.other hi hs

/-! ### Ready joins -/

/-- The `select!` has a join ready. -/
def Ready (s : Graph) (i : Nat) (a : String) : Prop :=
  (s.runs i).phase = .selecting ∧ s.joinReady i a

/-- The call is past its spawns and its set no longer has the task. -/
def Passed (s : Graph) (i : Nat) (a : String) : Prop :=
  (s.runs i).phase.starting = false ∧ a ∉ (s.runs i).joinSet

theorem loop_starting (r : GraphRun) : r.loop.phase.starting = false := by
  simp only [GraphRun.loop]
  split <;> rfl

theorem Ready.other (h : s.Ready i b) {a : Act} (hi : a.caller ≠ some i)
    (hs : s.step a = some s') : s'.Ready i b := by
  obtain ⟨hruns, htasks⟩ := step_other hi hs
  exact ⟨by rw [hruns, h.1], by rw [hruns]; exact h.2.1, by simpa only [outcome, htasks] using h.2.2⟩

theorem Passed.other (h : s.Passed i b) {a : Act} (hi : a.caller ≠ some i)
    (hs : s.step a = some s') : s'.Passed i b := by
  rw [Passed, (step_other hi hs).1]
  exact h

/-- The first branch keeps winning while the join is ready. -/
theorem Ready.step (h : s.Ready i b) {a : Act} (hs : s.step a = some s') :
    a ≠ .shutdown i ∧ (s'.Ready i b ∨ s'.Passed i b) := by
  by_cases hi : a.caller = some i
  · obtain ⟨hp, hset, ho⟩ := h
    cases step_cases hs with
    | started hp' | refused hp' | bindEnd hp' | bind hp' | spawnEnd hp' | spawn hp' | select hp'
      | released hp' | shutdown hp' | dropped hp' =>
      cases hi
      rw [hp] at hp'
      cases hp'
    | joinPending _ hnone =>
      cases hi
      rw [hnone b hset] at ho
      cases ho
    | @join _ c outcome _ hc hoc =>
      cases hi
      refine ⟨(fun ha => by cases ha), ?_⟩
      by_cases hb : b ∈ (s.runs i).joinSet.erase c
      · have hne : (s.runs i).joinSet.erase c ≠ [] := List.ne_nil_of_mem hb
        refine .inl ⟨?_, ?_, ho⟩
        · simp [setRun, GraphRun.loop, GraphRun.processJoin, hne]
        · simpa [setRun, GraphRun.loop, GraphRun.processJoin] using hb
      · refine .inr ⟨?_, ?_⟩
        · rw [setRun_runs, if_pos rfl]
          exact loop_starting _
        · simpa [setRun, GraphRun.loop, GraphRun.processJoin] using hb
    | aborted =>
      cases hi
      exact ⟨(fun ha => by cases ha), .inr (by simp [Passed, setRun, GraphPhase.starting])⟩
    | @finish _ c _ _ ht =>
      cases hi
      refine ⟨(fun ha => by cases ha), .inl ⟨hp, hset, ?_⟩⟩
      by_cases hbc : b = c
      · subst hbc
        simp [outcome, ht] at ho
      · simpa [outcome, setTask, clear, hbc] using ho
    | decomposed | kept => cases hi
  · exact ⟨fun ha => hi (by rw [ha]; rfl), .inl (h.other hi hs)⟩

theorem Passed.step (h : s.Passed i b) {a : Act} (hs : s.step a = some s') : s'.Passed i b := by
  by_cases hi : a.caller = some i
  · obtain ⟨hpast, hset⟩ := h
    cases step_cases hs with
    | started hp | bindEnd hp | bind hp | spawnEnd hp | spawn hp =>
      cases hi
      rw [hp] at hpast
      cases hpast
    | refused | joinPending | select | released | dropped =>
      cases hi
      exact ⟨by simp [setPhase, setRun, GraphPhase.starting], by simpa [setPhase, setRun] using hset⟩
    | join =>
      cases hi
      refine ⟨?_, ?_⟩
      · rw [setRun_runs, if_pos rfl]
        exact loop_starting _
      · simpa [setRun, GraphRun.loop, GraphRun.processJoin] using
          fun hm => hset (List.mem_of_mem_erase hm)
    | shutdown =>
      cases hi
      exact ⟨by simp [setRun, GraphPhase.starting], by simpa [setRun] using hset⟩
    | aborted =>
      cases hi
      simp [Passed, setRun, GraphPhase.starting]
    | finish =>
      cases hi
      exact ⟨hpast, hset⟩
    | decomposed | kept => cases hi
  · exact h.other hi hs

theorem Ready.run (h : s.Ready i b) {as' : List Act} (hrun : AnyRun Graph.step s as' s') :
    s'.Passed i b ∨ s'.Ready i b ∧ .shutdown i ∉ as' := by
  induction hrun with
  | nil => exact .inr ⟨h, List.not_mem_nil⟩
  | snoc run hok hstep ih =>
    rcases ih with hpassed | ⟨hready, hnot⟩
    · exact .inl (hpassed.step hstep)
    · obtain ⟨hne, hnext⟩ := hready.step hstep
      refine hnext.symm.imp id fun hr => ⟨hr, fun hm => ?_⟩
      rcases List.mem_append.1 hm with hm | hm
      · exact hnot hm
      · exact hne (List.mem_singleton.1 hm).symm

end

/-! ### Runs -/

theorem run_judges {actors : GraphActors} {as : List Act} {s : Graph} (i : Nat)
    (hrun : AnyRun step (new actors) as s) : s.Judges i (processed i as) (s.runs i).phase := by
  induction hrun with
  | nil => exact new_judges actors
  | snoc run hok hstep ih =>
    rw [processed_snoc]
    exact ih.step hstep

/-- A call that the graph accepts returns once all its actors are joined, with the first failure among
the joins; a failure or the external shutdown has cancelled the token by the time the loop goes on; and
a join that the `select!` finds ready comes before the shutdown. -/
theorem run_judged {actors : GraphActors} {as : List Act} {s : Graph}
    (hrun : AnyRun step (new actors) as s) (i : Nat) : s.Judged i as := by
  have h := run_judges i hrun
  refine ⟨fun result hp => ?_, fun hp => ?_, fun a hp hready as' s' hrun' ha => ?_⟩
  · rw [hp] at h
    exact h
  · cases hq : (s.runs i).phase <;> rw [hq] at h hp
    case selecting | joinPending => exact Latched.token h
    all_goals cases hp
  · rcases Ready.run ⟨hp, hready⟩ hrun' with hpassed | ⟨-, hnot⟩
    · exact absurd ha hpassed.2
    · exact hnot

/-- The error of a call that has returned one. -/
def errorOf (s : Graph) (i : Nat) : Option GraphError :=
  match (s.runs i).phase with
  | .gone (.returned (.error error)) => some error
  | _ => none

/-- The actor ends well before the external shutdown is asked for. -/
theorem run_judged_stopped : ∃ s : Graph, s.Judged 0
      [.run 0, .run 0, .run 0, .run 0, .run 0, .finish 0 "a" (.returned (.ok ())), .join 0 "a", .run 0] ∧
    s.errorOf 0 = some (.actorStopped "a") := by
  have hex : ∃ s, AnyRun step (new oneActor)
      [.run 0, .run 0, .run 0, .run 0, .run 0, .finish 0 "a" (.returned (.ok ())), .join 0 "a", .run 0] s ∧
      s.errorOf 0 = some (.actorStopped "a") := anyRun_of_exec (by decide +kernel)
  obtain ⟨s, hs, herror⟩ := hex
  exact ⟨s, run_judged hs 0, herror⟩

/-- No join is ready where the shutdown is processed. -/
def ShutdownWaits (s : Graph) (i : Nat) : Prop := ∀ a, s.joinReady i a → s.step (.shutdown i) = none

/-- The actor ends between the polls of the two branches of one `select!`, and the shutdown resolves at
the second: it overtakes the join. -/
theorem overtaken_join_reached : ∃ s, AnyRun step (new oneActor)
    [.run 0, .run 0, .run 0, .run 0, .run 0, .run 0, .finish 0 "a" (.returned (.ok ()))] s ∧
    ¬ s.ShutdownWaits 0 := by
  have hex : ∃ s, AnyRun step (new oneActor)
      [.run 0, .run 0, .run 0, .run 0, .run 0, .run 0, .finish 0 "a" (.returned (.ok ()))] s ∧
      ((s.runs 0).joinSet, (s.outcome 0 "a").isSome, (s.step (.shutdown 0)).isSome) =
        (["a"], true, true) := anyRun_of_exec (by decide +kernel)
  obtain ⟨s, hs, hlook⟩ := hex
  simp only [Prod.mk.injEq] at hlook
  obtain ⟨hset, hout, hstep⟩ := hlook
  refine ⟨s, hs, fun h => ?_⟩
  rw [h "a" ⟨by rw [hset]; exact List.mem_singleton_self _, hout⟩] at hstep
  cases hstep

end Graph
end TokioSupervisor
