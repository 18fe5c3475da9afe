import TokioSupervisor.Actor.HandOut
import Mathlib.Data.List.Nodup

/-!
# The failures of blocking tasks

A failure reaches the caller of `wait` or the result of the actor; who is responsible is decided by the
flag that the first poll of `wait` sets and that `complete_entry` reads. `Surfacing` is the invariant
under the condition `surfacesAll`: an entry that has been awaited is that of an ended closure, and its
failure is claimed by a `wait` that still exists or is what the actor's result reports.
-/

namespace TokioSupervisor
open Lib

/-- The non-cancelled error that the closure has ended with. -/
def BlockingTask.failure (t : BlockingTask) : Option BlockingTaskError :=
  match t.closure with
  | .sent outcome | .notified outcome | .exited outcome => outcome.failure
  | .pending | .aborted => none

/-- The failure that the result of the actor carries, or will when `finish` returns. -/
def ActorPhase.reported : ActorPhase → Option BlockingTaskFailure
  | .ended (.error (.blocking failure)) | .done (.error (.blocking failure)) => some failure
  | .finishing (.error (.blocking failure)) _ _ => some failure
  | .finishing (.ok ()) _ firstFailure => firstFailure
  | _ => none

/-- The entries being awaited. -/
def ActorPhase.awaits : ActorPhase → List Nat
  | .reaping n => [n]
  | .finishing _ remaining _ => remaining
  | _ => []

/-- `finish` would report a first failure. -/
def ActorPhase.reportsNext : ActorPhase → Bool
  | .finishing (.ok ()) _ none => true
  | _ => false

def ActorPhase.isClosed : ActorPhase → Bool
  | .finishing _ _ _ | .done _ => true
  | _ => false

def HandlePhase.isWaiting : HandlePhase → Bool
  | .waiting => true
  | _ => false

def HandlePhase.isDropped : HandlePhase → Bool
  | .dropped => true
  | _ => false

namespace BlockingRuntime

/-- `wait` has returned the failure. -/
def Delivered (t : BlockingTask) : Prop :=
  ∃ e, t.failure = some e ∧ t.handle = .delivered (.error e)

/-- `reap_task` or `finish` reports the failure. -/
def Reports (s : BlockingRuntime) (t : BlockingTask) : Prop :=
  ∃ e, t.failure = some e ∧ s.phase.reported = some ⟨t.id, t.name, e⟩

/-- Each failure surfaces once: never both ways, and one way by the end of the run, unless its `wait` is
still to be polled for it; and a failure that is reported fails the run. -/
structure SurfacedOnce (s : BlockingRuntime) : Prop where
  notBoth : ∀ n t, s.records n = some t → ¬ (Delivered t ∧ s.Reports t)
  notNeither : ∀ result, s.phase = .done result → ∀ n t, s.records n = some t →
    t.failure.isSome = true → t.handle.isWaiting = false → Delivered t ∨ s.Reports t
  fails : ∀ failure, s.phase.reported = some failure → ∀ result, s.phase = .done result →
    result = .error (.blocking failure)

/-- No task outlives the shutdown timeout. -/
def Act.inTime : Act → Bool
  | .timeout _ => false
  | _ => true

/-- `wait` is not polled for a failure that was reported; a claimed failure is not dropped; `finish` meets
at most one unclaimed failure, and none where the result is an error already; and the condition of
`tracksAll`. -/
def surfacesAll (s : BlockingRuntime) : Act → Bool
  | .poll n => s.phase.reported.all (·.taskId != n)
  | .drop n => (s.records n).all fun t => !(t.claimed && t.failure.isSome)
  | .complete n outcome =>
    (s.records n).all fun t => !(t.claimed && t.handle.isDropped && outcome.failure.isSome)
  | .await n =>
    (s.records n).all fun t => t.claimed || t.failure.isNone || s.phase.reportsNext
  | a => s.tracksAll a

section
variable {s s' : BlockingRuntime} {n m : Nat} {t t' : BlockingTask}

/-! ### The invariant -/

/-- What the flag says about the handle. -/
def ClaimsRight (t : BlockingTask) : Prop :=
  match t.handle with
  | .spawning | .held => t.claimed = false
  | .waiting => t.claimed = true
  | .delivered result => t.claimed = true ∧ t.closure.completion = some result
  | .dropped => t.claimed = true → t.failure = none

/-- The entry left the map and was awaited. -/
def Completed (s : BlockingRuntime) (n : Nat) : Prop := n ∈ s.handed ∧ n ∉ s.phase.awaits

structure Surfacing (s : BlockingRuntime) : Prop where
  claims : ∀ n t, s.records n = some t → ClaimsRight t
  noAbort : ∀ n t, s.records n = some t → t.abortRequested = false ∧ t.closure ≠ .aborted
  reported : ∀ f, s.phase.reported = some f → ∃ t o, s.records f.taskId = some t ∧
    t.closure = .exited o ∧ t.claimed = false
  completed : ∀ n t, s.records n = some t → s.Completed n →
    (∃ o, t.closure = .exited o) ∧ (t.failure.isSome = true → t.claimed = true ∨ s.Reports t)
  nodup : s.phase.awaits.Nodup
  awaits : ∀ n ∈ s.phase.awaits, n ∈ s.handed
  closed : s.phase.isClosed = true → s.closing = true

theorem new_surfacing (actorId : String) (limit : Option Nat) : (new actorId limit).Surfacing where
  claims := fun _ _ h => by cases h
  noAbort := fun _ _ h => by cases h
  reported := fun _ h => by cases h
  completed := fun _ _ h => by cases h
  nodup := List.nodup_nil
  awaits := fun _ h => by cases h
  closed := fun h => by cases h

/-- One record changes; an exited closure stays, and a claim is not made for a reported failure. -/
theorem Surfacing.record (h : s.Surfacing) (ht : s.records n = some t)
    (hrecords : s'.records = Function.update s.records n (some t'))
    (hphase : s'.phase = s.phase) (hhanded : s'.handedOut = s.handedOut)
    (hclosing : s'.closing = s.closing) (hid : t'.id = t.id) (hname : t'.name = t.name)
    (hclaims : ClaimsRight t') (habort : t'.abortRequested = false ∧ t'.closure ≠ .aborted)
    (hexited : ∀ o, t.closure = .exited o → t'.closure = .exited o)
    (hmono : t.claimed = true → t'.claimed = true)
    (hclaim : t'.claimed = true → t.claimed = true ∨ ∀ f, s.phase.reported = some f → f.taskId ≠ n) :
    s'.Surfacing := by
  have hself : s'.records n = some t' := by rw [hrecords, Function.update_self]
  have hother (m : Nat) (hm : m ≠ n) : s'.records m = s.records m := by
    rw [hrecords, Function.update_of_ne hm]
  have hcompleted (m : Nat) : s'.Completed m ↔ s.Completed m := by
    simp only [Completed, handed, hphase, hhanded]
  refine ⟨fun m u hu => ?_, fun m u hu => ?_, fun f hf => ?_, fun m u hu hc => ?_, ?_, ?_, ?_⟩
  · by_cases hm : m = n
    · subst hm
      rw [hself] at hu
      cases hu
      exact hclaims
    · exact h.claims m u (hother m hm ▸ hu)
  · by_cases hm : m = n
    · subst hm
      rw [hself] at hu
      cases hu
      exact habort
    · exact h.noAbort m u (hother m hm ▸ hu)
  · rw [hphase] at hf
    obtain ⟨u, o, hu, ho, hclaimed⟩ := h.reported f hf
    by_cases hm : f.taskId = n
    · rw [hm, ht] at hu
      cases hu
      refine ⟨t', o, hm ▸ hself, hexited o ho, Bool.eq_false_iff.2 fun hc => ?_⟩
      rcases hclaim hc with hc | hne
      · rw [hclaimed] at hc
        cases hc
      · exact hne f hf hm
    · exact ⟨u, o, by rw [hother _ hm]; exact hu, ho, hclaimed⟩
  · rw [hcompleted] at hc
    by_cases hm : m = n
    · subst hm
      rw [hself] at hu
      cases hu
      obtain ⟨⟨o, ho⟩, hor⟩ := h.completed m t ht hc
      have hfail : t'.failure = t.failure := by
        simp only [BlockingTask.failure, ho, hexited o ho]
      refine ⟨⟨o, hexited o ho⟩, fun hf => ?_⟩
      rw [hfail] at hf
      refine (hor hf).imp hmono ?_
      rintro ⟨e, he, hrep⟩
      refine ⟨e, hfail ▸ he, ?_⟩
      rw [hphase, hid, hname, hrep]
    · obtain ⟨ho, hor⟩ := h.completed m u (hother m hm ▸ hu) hc
      refine ⟨ho, fun hf => (hor hf).imp_right ?_⟩
      rintro ⟨e, he, hrep⟩
      exact ⟨e, he, hphase ▸ hrep⟩
  · rw [hphase]
    exact h.nodup
  · rw [hphase, handed, hhanded]
    exact h.awaits
  · rw [hphase, hclosing]
    exact h.closed

theorem Surfacing.frame (h : s.Surfacing) (hrecords : s'.records = s.records)
    (hphase : s'.phase = s.phase) (hhanded : s'.handedOut = s.handedOut)
    (hclosing : s'.closing = s.closing) : s'.Surfacing := by
  refine ⟨?_, ?_, ?_, ?_, ?_, ?_, ?_⟩ <;>
    simp only [hrecords, hphase, hclosing, Completed, Reports, handed, hhanded]
  exacts [h.claims, h.noAbort, h.reported, h.completed, h.nodup, h.awaits, h.closed]

/-! ### The closure and the handle -/

theorem ClaimsRight.go_on (h : ClaimsRight t) {phase : ClosurePhase}
    (hfail : ({ t with closure := phase } : BlockingTask).failure = t.failure)
    (hdone : phase.completion = t.closure.completion) :
    ClaimsRight { t with closure := phase } := by
  unfold ClaimsRight at h ⊢
  dsimp only
  split at h
  · exact h
  · exact h
  · exact h
  · exact ⟨h.1, hdone.trans h.2⟩
  · rw [hfail]
    exact h

theorem ClaimsRight.complete (h : ClaimsRight t) (hc : t.closure = .pending) {outcome : BlockingOutcome}
    (hdrop : t.handle.isDropped = true → t.claimed = true → outcome.failure = none) :
    ClaimsRight { t with closure := .sent outcome } := by
  unfold ClaimsRight at h ⊢
  dsimp only
  split at h
  · exact h
  · exact h
  · exact h
  · rw [hc] at h
    cases h.2
  · rename_i hdropped
    exact hdrop (by rw [hdropped]; rfl)

theorem Surfacing.recordStep (h : s.Surfacing) {a : Act} (hok : s.surfacesAll a = true)
    (ht : s.records n = some t) (hr : RecordStep n t a t') :
    Surfacing { s.beside a with records := Function.update s.records n (some t') } := by
  have hclaims := h.claims n t ht
  have habort := h.noAbort n t ht
  cases hr with
  | complete hc =>
    simp only [surfacesAll, ht, Option.all_some] at hok
    refine h.record ht rfl rfl rfl rfl rfl rfl (hclaims.complete hc fun hdropped hclaimed => ?_)
      ⟨habort.1, nofun⟩ (fun o ho => ?_) id .inl
    · simpa [hclaimed, hdropped] using hok
    · rw [hc] at ho
      cases ho
  | notify hc | exit hc =>
    exact h.record ht rfl rfl rfl rfl rfl rfl
      (hclaims.go_on (by simp [BlockingTask.failure, hc]) (by rw [hc]; rfl)) ⟨habort.1, nofun⟩
      (fun o ho => by rw [hc] at ho; cases ho) id .inl
  -- without timeouts no closure is aborted
  | abort _ ha =>
    rw [habort.1] at ha
    cases ha
  | cancel => exact h.record ht rfl rfl rfl rfl rfl rfl hclaims habort (fun _ => id) id .inl
  | poll =>
    refine h.record ht rfl rfl rfl rfl rfl rfl rfl habort (fun _ => id) (fun _ => rfl)
      fun _ => .inr fun f hf => ?_
    simp only [surfacesAll, hf, Option.all_some, bne_iff_ne] at hok
    exact hok
  | deliver hh hc =>
    simp only [ClaimsRight, hh] at hclaims
    exact h.record ht rfl rfl rfl rfl rfl rfl ⟨hclaims, hc⟩ habort (fun _ => id) id .inl
  | drop =>
    refine h.record ht rfl rfl rfl rfl rfl rfl (fun hc => ?_) habort (fun _ => id) id .inl
    have hclaimed : t.claimed = true := hc
    simp only [surfacesAll, ht, Option.all_some] at hok
    simpa [hclaimed, BlockingTask.failure] using hok

/-! ### `spawn_blocking` -/

theorem Surfacing.insert (h : s.Surfacing) (ht : s.records n = some t)
    (hspawning : t.handle.isSpawning = true) (tasks : List Nat) :
    Surfacing { s with
      tasks
      records := Function.update s.records n (some { t with handle := .held }) } := by
  have hclaims := h.claims n t ht
  refine h.record ht rfl rfl rfl rfl rfl rfl ?_ (h.noAbort n t ht) (fun _ => id) id .inl
  unfold ClaimsRight at hclaims
  cases hh : t.handle with
  | spawning =>
    rw [hh] at hclaims
    exact hclaims
  | _ =>
    rw [hh] at hspawning
    cases hspawning

theorem Surfacing.accept (h : s.Surfacing) (hp : s.Placed) (name : Option String) :
    (s.accept name).Surfacing := by
  have hnone : s.records s.accepted = none := by
    rw [← Option.not_isSome_iff_eq_none, hp.known]
    exact Nat.lt_irrefl _
  have hself : (s.accept name).records s.accepted =
      some ⟨s.nextId, name, false, false, .pending, false, .spawning⟩ := by
    simp [BlockingRuntime.accept]
  have hother (m : Nat) (hm : m ≠ s.accepted) : (s.accept name).records m = s.records m := by
    simp [BlockingRuntime.accept, hm]
  have hfresh : s.accepted ∉ s.handed := by
    have := hp.place s.accepted
    simp only [inserted, hnone, Option.any_none, Bool.false_eq_true, if_false,
      List.count_eq_zero, List.mem_append, not_or] at this
    exact this.2
  refine ⟨fun m u hu => ?_, fun m u hu => ?_, fun f hf => ?_, fun m u hu hc => ?_, h.nodup, h.awaits,
    h.closed⟩
  · by_cases hm : m = s.accepted
    · subst hm
      rw [hself] at hu
      cases hu
      rfl
    · exact h.claims m u (hother m hm ▸ hu)
  · by_cases hm : m = s.accepted
    · subst hm
      rw [hself] at hu
      cases hu
      exact ⟨rfl, fun hc => by cases hc⟩
    · exact h.noAbort m u (hother m hm ▸ hu)
  · obtain ⟨u, o, hu, ho⟩ := h.reported f hf
    have hm : f.taskId ≠ s.accepted := fun hm => by
      rw [hm, hnone] at hu
      cases hu
    exact ⟨u, o, by rw [hother _ hm]; exact hu, ho⟩
  · by_cases hm : m = s.accepted
    · subst hm
      exact absurd hc.1 hfresh
    · exact h.completed m u (hother m hm ▸ hu) hc

/-! ### The actor task -/

/-- A completed entry gives its failure unless that is claimed. -/
theorem completeEntry_cases {o : Option BlockingTaskFailure} (h : t.completeEntry = some o)
    (habort : t.closure ≠ .aborted) : ∃ outcome, t.closure = .exited outcome ∧
      (t.claimed = true ∧ o = none ∨
        t.claimed = false ∧ o = t.failure.map fun error => ⟨t.id, t.name, error⟩) := by
  unfold BlockingTask.completeEntry at h
  split at h
  · rename_i outcome hexited
    cases h
    refine ⟨outcome, hexited, ?_⟩
    cases hc : t.claimed with
    | true => exact .inl ⟨rfl, rfl⟩
    | false => exact .inr ⟨rfl, by simp [BlockingTask.failure, hexited]⟩
  · rename_i haborted
    exact absurd haborted habort
  · cases h

theorem Surfacing.polled (h : s.Surfacing) (hp : s.phase = .polling) (ht : s.records n = some t)
    (hn : n ∈ s.handed) :
    (∃ o, t.closure = .exited o) ∧ (t.failure.isSome = true → t.claimed = true) := by
  obtain ⟨ho, hor⟩ := h.completed n t ht ⟨hn, by rw [hp]; exact List.not_mem_nil⟩
  refine ⟨ho, fun hf => (hor hf).resolve_right fun ⟨e, _, hrep⟩ => ?_⟩
  rw [hp] at hrep
  cases hrep

theorem Surfacing.taken (h : s.Surfacing) (hp : s.phase = .polling) {event : Nat} {events : List Nat} :
    Surfacing { s with
      events
      tasks := s.tasks.erase n
      handedOut := (n, .reaped event) :: s.handedOut
      phase := .reaping n } := by
  refine ⟨h.claims, h.noAbort, nofun, fun m u hu hc => ?_, List.nodup_singleton n, fun m hm => ?_, nofun⟩
  · obtain ⟨hhanded, hawaits⟩ := hc
    have hmn : m ≠ n := fun hmn => hawaits (List.mem_singleton.2 hmn)
    obtain ⟨ho, hclaimed⟩ := h.polled hp hu ((List.mem_cons.1 hhanded).resolve_left hmn)
    exact ⟨ho, fun hf => .inl (hclaimed hf)⟩
  · obtain rfl : m = n := List.mem_singleton.1 hm
    exact List.mem_cons_self

theorem Surfacing.earlier (h : s.Surfacing) (hp : s.phase = .reaping n) (hu : s.records m = some t)
    (hm : m ∈ s.handed) (hmn : m ≠ n) :
    (∃ o, t.closure = .exited o) ∧ (t.failure.isSome = true → t.claimed = true) := by
  obtain ⟨ho, hor⟩ := h.completed m t hu ⟨hm, by
    rw [hp]
    exact fun hm => hmn (List.mem_singleton.1 hm)⟩
  refine ⟨ho, fun hf => (hor hf).resolve_right fun ⟨e, _, hrep⟩ => ?_⟩
  rw [hp] at hrep
  cases hrep

theorem Surfacing.failed (h : s.Surfacing) (hpl : s.Placed) (hp : s.phase = .reaping n)
    (ht : s.records n = some t) {failure : BlockingTaskFailure}
    (hc : t.completeEntry = some (some failure)) :
    Surfacing { s with actorShutdown := true, phase := .ended (.error (.blocking failure)) } := by
  obtain ⟨o, hexited, hor⟩ := completeEntry_cases hc (h.noAbort n t ht).2
  obtain ⟨hclaimed, hfail⟩ := hor.resolve_left fun ⟨_, hn⟩ => by cases hn
  obtain ⟨e, he, rfl⟩ := Option.map_eq_some_iff.1 hfail.symm
  refine ⟨h.claims, h.noAbort, fun f hf => ?_, fun m u hu hc => ?_, List.nodup_nil, nofun, nofun⟩
  · cases hf
    exact ⟨t, o, by rw [hpl.ids n t ht]; exact ht, hexited, hclaimed⟩
  · by_cases hmn : m = n
    · subst hmn
      rw [ht] at hu
      cases hu
      exact ⟨⟨o, hexited⟩, fun _ => .inr ⟨e, he, rfl⟩⟩
    · obtain ⟨ho, hold⟩ := h.earlier hp hu hc.1 hmn
      exact ⟨ho, fun hf => .inl (hold hf)⟩

theorem Surfacing.reaped (h : s.Surfacing) (hp : s.phase = .reaping n) (ht : s.records n = some t)
    (hc : t.completeEntry = some none) : Surfacing { s with phase := .polling } := by
  obtain ⟨o, hexited, hor⟩ := completeEntry_cases hc (h.noAbort n t ht).2
  refine ⟨h.claims, h.noAbort, nofun, fun m u hu hc => ?_, List.nodup_nil, nofun, nofun⟩
  by_cases hmn : m = n
  · subst hmn
    rw [ht] at hu
    cases hu
    refine ⟨⟨o, hexited⟩, fun hf => .inl ?_⟩
    rcases hor with ⟨hclaimed, -⟩ | ⟨-, hnone⟩
    · exact hclaimed
    · rw [eq_comm, Option.map_eq_none_iff] at hnone
      rw [hnone] at hf
      cases hf
  · obtain ⟨ho, hold⟩ := h.earlier hp hu hc.1 hmn
    exact ⟨ho, fun hf => .inl (hold hf)⟩

theorem Surfacing.actorEnds (h : s.Surfacing) (hp : s.phase = .polling) (result : Except String Unit) :
    Surfacing { s with phase := .ended (result.mapError .own) } := by
  have hnone : (ActorPhase.ended (result.mapError .own)).reported = none := by
    cases result <;> rfl
  refine ⟨h.claims, h.noAbort, fun f hf => ?_, fun m u hu hc => ?_, List.nodup_nil, nofun, nofun⟩
  · rw [hnone] at hf
    cases hf
  · obtain ⟨ho, hclaimed⟩ := h.polled hp hu hc.1
    exact ⟨ho, fun hf => .inl (hclaimed hf)⟩

theorem reported_finishing (result : ActorResult) (remaining : List Nat) :
    (ActorPhase.finishing result remaining none).reported = (ActorPhase.ended result).reported := by
  rcases result with (_ | _) | _ <;> rfl

theorem reported_done (result : ActorResult) (firstFailure : Option BlockingTaskFailure) :
    (ActorPhase.done (finishResult result firstFailure)).reported =
      (ActorPhase.finishing result [] firstFailure).reported := by
  rcases result with (_ | _) | _ <;> cases firstFailure <;> rfl

theorem Surfacing.close (h : s.Surfacing) (hp : s.Placed) {result : ActorResult}
    (hphase : s.phase = .ended result) :
    Surfacing { s with
      closing := true
      records := fun n => (s.records n).map fun t => { t with cancel := t.cancel || decide (n ∈ s.tasks) }
      tasks := []
      handedOut := s.tasks.map (·, .closed) ++ s.handedOut
      phase := .finishing result s.tasks none } := by
  have hback (m : Nat) (u : BlockingTask) (hu : (s.records m).map (fun t =>
      { t with cancel := t.cancel || decide (m ∈ s.tasks) }) = some u) :
      ∃ t, s.records m = some t ∧ u = { t with cancel := t.cancel || decide (m ∈ s.tasks) } := by
    obtain ⟨t, ht, rfl⟩ := Option.map_eq_some_iff.1 hu
    exact ⟨t, ht, rfl⟩
  refine ⟨fun m u hu => ?_, fun m u hu => ?_, fun f hf => ?_, fun m u hu hc => ?_, ?_, fun m hm => ?_,
    fun _ => rfl⟩
  · obtain ⟨t, ht, rfl⟩ := hback m u hu
    exact h.claims m t ht
  · obtain ⟨t, ht, rfl⟩ := hback m u hu
    exact h.noAbort m t ht
  · rw [reported_finishing, ← hphase] at hf
    obtain ⟨t, o, ht, ho, hclaimed⟩ := h.reported f hf
    exact ⟨{ t with cancel := t.cancel || decide (f.taskId ∈ s.tasks) }, o, by simp only [ht]; rfl,
      ho, hclaimed⟩
  · obtain ⟨t, ht, rfl⟩ := hback m u hu
    obtain ⟨hhanded, hawaits⟩ := hc
    have hold : m ∈ s.handed := by
      simp only [handed, List.map_append, List.map_map, List.mem_append] at hhanded
      refine hhanded.resolve_left fun hm => hawaits ?_
      simpa [ActorPhase.awaits, Function.comp_def] using hm
    obtain ⟨ho, hor⟩ := h.completed m t ht ⟨hold, by rw [hphase]; exact List.not_mem_nil⟩
    refine ⟨ho, fun hf => (hor hf).imp_right ?_⟩
    rintro ⟨e, he, hrep⟩
    rw [hphase] at hrep
    refine ⟨e, he, ?_⟩
    rw [reported_finishing]
    exact hrep
  · refine List.nodup_iff_count_le_one.2 fun m => ?_
    have hplace := hp.place m
    rw [List.count_append] at hplace
    have hle : s.tasks.count m ≤ 1 := by split at hplace <;> omega
    exact hle
  · simp only [handed, List.map_append, List.map_map, List.mem_append]
    exact .inl (by simpa [ActorPhase.awaits, Function.comp_def] using hm)

theorem Surfacing.awaited (h : s.Surfacing) (hn : n ∈ s.phase.awaits)
    (hrecords : s'.records = s.records) (hhanded : s'.handedOut = s.handedOut)
    (hclosing : s'.closing = s.closing) (hawaits : s'.phase.awaits = s.phase.awaits.erase n)
    (hclosed : s'.phase.isClosed = s.phase.isClosed)
    (hkeeps : ∀ f, s.phase.reported = some f → s'.phase.reported = some f)
    (hreported : ∀ f, s'.phase.reported = some f → s.phase.reported = some f ∨
      ∃ t o, s.records f.taskId = some t ∧ t.closure = .exited o ∧ t.claimed = false)
    (hself : ∀ t, s.records n = some t → (∃ o, t.closure = .exited o) ∧
      (t.failure.isSome = true → t.claimed = true ∨ s'.Reports t)) : s'.Surfacing := by
  have hhanded' : s'.handed = s.handed := by rw [handed, hhanded, handed]
  refine ⟨hrecords ▸ h.claims, hrecords ▸ h.noAbort, fun f hf => ?_, fun m u hu hc => ?_, ?_,
    fun m hm => ?_, fun hc => ?_⟩
  · rw [hrecords]
    exact (hreported f hf).elim (h.reported f) id
  · rw [hrecords] at hu
    by_cases hmn : m = n
    · subst hmn
      exact hself u hu
    · obtain ⟨hm, hout⟩ := hc
      rw [hawaits, List.mem_erase_of_ne hmn] at hout
      obtain ⟨ho, hor⟩ := h.completed m u hu ⟨hhanded' ▸ hm, hout⟩
      refine ⟨ho, fun hf => (hor hf).imp_right ?_⟩
      rintro ⟨e, he, hrep⟩
      exact ⟨e, he, hkeeps _ hrep⟩
  · rw [hawaits]
    exact h.nodup.erase n
  · rw [hhanded']
    rw [hawaits] at hm
    exact h.awaits m (List.mem_of_mem_erase hm)
  · rw [hclosing]
    exact h.closed (hclosed ▸ hc)

theorem Surfacing.awaitEntry (h : s.Surfacing) (hp : s.Placed) (hok : s.surfacesAll (.await n) = true)
    {result : ActorResult} {remaining : List Nat} {first o : Option BlockingTaskFailure}
    (hphase : s.phase = .finishing result remaining first) (hn : n ∈ remaining)
    (ht : s.records n = some t) (hcomplete : t.completeEntry = some o) :
    Surfacing { s with phase := .finishing result (remaining.erase n) (recordFailure first o) } := by
  have hn' : n ∈ s.phase.awaits := by rw [hphase]; exact hn
  obtain ⟨outcome, hexited, hor⟩ := completeEntry_cases hcomplete (h.noAbort n t ht).2
  simp only [surfacesAll, ht, Option.all_some, Bool.or_eq_true] at hok
  have hawaits (first' : Option BlockingTaskFailure) :
      (ActorPhase.finishing result (remaining.erase n) first').awaits = s.phase.awaits.erase n := by
    rw [hphase]
    rfl
  -- nothing new: the entry is claimed, or its task did not fail
  by_cases hquiet : o = none
  · have hsame : recordFailure first o = first := by
      rw [hquiet]
      cases first <;> rfl
    have hrep : (ActorPhase.finishing result (remaining.erase n) (recordFailure first o)).reported =
        s.phase.reported := by
      rw [hsame, hphase]
      rcases result with (_ | _) | _ <;> rfl
    refine h.awaited hn' rfl rfl rfl (hawaits _) (by rw [hphase]; rfl) (fun f hf => hrep.trans hf)
      (fun f hf => .inl (hrep.symm.trans hf)) fun u hu => ?_
    rw [ht] at hu
    cases hu
    refine ⟨⟨outcome, hexited⟩, fun hf => .inl ?_⟩
    rcases hor with ⟨hclaimed, -⟩ | ⟨-, hnone⟩
    · exact hclaimed
    · rw [hquiet, eq_comm, Option.map_eq_none_iff] at hnone
      rw [hnone] at hf
      cases hf
  · obtain ⟨hclaimed, hfail⟩ := hor.resolve_left fun ⟨_, hn⟩ => hquiet hn
    cases he : t.failure with
    | none =>
      rw [he] at hfail
      exact absurd hfail hquiet
    | some e =>
      have hnext : s.phase.reportsNext = true :=
        hok.resolve_left (by simp [hclaimed, he])
      rw [hphase] at hnext
      obtain ⟨rfl, rfl⟩ : result = .ok () ∧ first = none := by
        rcases result with _ | _ <;> cases first <;> first | exact ⟨rfl, rfl⟩ | cases hnext
      have hnone : s.phase.reported = none := by rw [hphase]; rfl
      rw [he] at hfail
      refine h.awaited hn' rfl rfl rfl (hawaits _) (by rw [hphase]; rfl)
        (fun f hf => by rw [hnone] at hf; cases hf) (fun f hf => .inr ?_) fun u hu => ?_
      · have hf' : o = some f := hf
        rw [hfail] at hf'
        cases hf'
        exact ⟨t, outcome, by rw [hp.ids n t ht]; exact ht, hexited, hclaimed⟩
      · rw [ht] at hu
        cases hu
        exact ⟨⟨outcome, hexited⟩, fun _ => .inr ⟨e, he, hfail⟩⟩

theorem Surfacing.finish (h : s.Surfacing) {result : ActorResult} {first : Option BlockingTaskFailure}
    (hphase : s.phase = .finishing result [] first) :
    Surfacing { s with phase := .done (finishResult result first) } := by
  have hrep := reported_done result first
  rw [← hphase] at hrep
  refine ⟨h.claims, h.noAbort, fun f hf => h.reported f (hrep.symm.trans hf), fun m u hu hc => ?_,
    List.nodup_nil, nofun, fun _ => h.closed (by rw [hphase]; rfl)⟩
  obtain ⟨ho, hor⟩ := h.completed m u hu ⟨hc.1, by rw [hphase]; exact List.not_mem_nil⟩
  exact ⟨ho, fun hf => (hor hf).imp_right fun ⟨e, he, hr⟩ => ⟨e, he, hrep.trans hr⟩⟩

theorem Surfacing.step (h : s.Surfacing) (hp : s.Placed) {a : Act} (hok : s.surfacesAll a = true)
    (htime : a.inTime = true) (hs : s.step a = some s') : s'.Surfacing := by
  cases step_cases hs with
  | refused => exact h
  | @admitted name admission =>
    have h' : Surfacing { s with admission } := h.frame rfl rfl rfl rfl
    exact h'.accept (hp.same ⟨rfl, rfl, rfl, rfl, rfl, SameMap.refl_records s⟩) name
  | insert ht hspawning => exact h.insert ht hspawning _
  | record ht hr => exact h.recordStep hok ht hr
  | shutdown | skipped => exact h.frame rfl rfl rfl rfl
  | actorEnds hphase => exact h.actorEnds hphase _
  | taken hphase => exact h.taken hphase
  | failed hphase ht hc => exact h.failed hp hphase ht hc
  | reaped hphase ht hc => exact h.reaped hphase ht hc
  | close hphase => exact h.close hp hphase
  | await hphase hn ht hc => exact h.awaitEntry hp hok hphase hn ht hc
  | timeout => cases htime
  | finish hphase => exact h.finish hphase

/-- The condition includes that of `tracksAll`. -/
theorem tracksAll_of_surfacesAll {a : Act} (h : s.surfacesAll a = true) : s.tracksAll a = true := by
  cases a with
  | poll n | drop n | complete n outcome | await n => rfl
  | _ => exact h

theorem Surfacing.surfacedOnce (h : s.Surfacing) (hp : s.Placed) : s.SurfacedOnce := by
  refine ⟨fun n t ht hboth => ?_, fun result hdone n t ht hf hw => ?_, fun f hf result hdone => ?_⟩
  · obtain ⟨⟨e, he, hdelivered⟩, ⟨e', -, hrep⟩⟩ := hboth
    obtain ⟨u, o, hu, -, hclaimed⟩ := h.reported _ hrep
    have hclaims := h.claims n t ht
    rw [hp.ids n t ht, ht] at hu
    cases hu
    simp only [ClaimsRight, hdelivered, hclaimed, Bool.false_eq_true, false_and] at hclaims
  · have hclosing := h.closed (by rw [hdone]; rfl)
    have hplace := hp.tracked.all hclosing n ((hp.known n).1 (Option.isSome_of_eq_some ht))
    have hhanded : n ∈ s.handed := List.count_pos_iff.1 (by omega)
    obtain ⟨⟨o, hexited⟩, hor⟩ := h.completed n t ht ⟨hhanded, by rw [hdone]; exact List.not_mem_nil⟩
    refine (hor hf).imp_left fun hclaimed => ?_
    obtain ⟨e, he⟩ := Option.isSome_iff_exists.1 hf
    have hclaims := h.claims n t ht
    cases hh : t.handle with
    | spawning | held =>
      simp only [ClaimsRight, hh, hclaimed, Bool.true_eq_false] at hclaims
    | waiting =>
      rw [hh] at hw
      cases hw
    | delivered r =>
      simp only [ClaimsRight, hh, hexited, ClosurePhase.completion, Option.some.injEq] at hclaims
      simp only [BlockingTask.failure, hexited] at he
      refine ⟨e, by simpa only [BlockingTask.failure, hexited] using he, ?_⟩
      rw [hh, ← hclaims.2]
      cases o <;> cases he <;> rfl
    | dropped =>
      simp only [ClaimsRight, hh] at hclaims
      rw [hclaims hclaimed] at he
      cases he
  · rw [hdone] at hf
    rcases result with (_ | _) | _ <;> cases hf
    rfl

end

/-! ### Runs -/

/-- In every run in which no task outlives the shutdown timeout and every step meets `surfacesAll`, each
failure surfaces once. -/
theorem run_surfacedOnce {actorId : String} {limit : Option Nat} {as : List Act} {s : BlockingRuntime}
    (hrun : Run step (fun s a => (s.surfacesAll a && a.inTime) = true) (new actorId limit) as s) :
    s.SurfacedOnce := by
  have hok (s : BlockingRuntime) (a : Act) (h : (s.surfacesAll a && a.inTime) = true) :
      s.surfacesAll a = true ∧ a.inTime = true := Bool.and_eq_true_iff.1 h
  have h := hrun.invariant (I := fun s => s.Surfacing ∧ s.Placed)
    ⟨new_surfacing actorId limit, new_placed actorId limit⟩ fun s a s' h hstep hs =>
      ⟨h.1.step h.2 (hok s a hstep).1 (hok s a hstep).2 hs,
        h.2.step (tracksAll_of_surfacesAll (hok s a hstep).1) hs⟩
  exact h.1.surfacedOnce h.2

/-- What `finish` has returned. -/
def resultOf (s : BlockingRuntime) : Option ActorResult :=
  match s.phase with
  | .done result => some result
  | _ => none

theorem phase_of_resultOf {s : BlockingRuntime} {result : ActorResult}
    (h : s.resultOf = some result) : s.phase = .done result := by
  unfold resultOf at h
  split at h <;> cases h
  assumption

/-- One failure is delivered, another one is reported. -/
theorem run_surfacedOnce_both : ∃ s : BlockingRuntime, s.SurfacedOnce ∧
    s.resultOf = some (.error (.blocking ⟨1, none, .panicked⟩)) := by
  have hex : ∃ s, Run step (fun s a => (s.surfacesAll a && a.inTime) = true) (new "a" none)
      [.admitTask none, .insert 0, .poll 0, .complete 0 (.failed "x"), .deliver 0, .notify 0, .nextEvent,
        .exit 0, .reapTask, .admitTask none, .insert 1, .drop 1, .complete 1 .panicked, .notify 1, .nextEvent,
        .exit 1, .reapTask, .close, .finish] s ∧
      s.resultOf = some (.error (.blocking ⟨1, none, .panicked⟩)) :=
    run_of_execIf_map (by decide +kernel)
  obtain ⟨s, hs, hresult⟩ := hex
  exact ⟨s, run_surfacedOnce hs, hresult⟩

/-- A `wait` is polled once and dropped, then its task fails: the failure is claimed and lost. -/
theorem lost_failure_reached : ∃ s, AnyRun step (new "a" none)
    [.admitTask none, .insert 0, .poll 0, .drop 0, .complete 0 (.failed "x"), .notify 0, .exit 0, .nextEvent,
      .reapTask, .actorEnds (.ok ()), .close, .finish] s ∧ ¬ s.SurfacedOnce := by
  have hex : ∃ s, AnyRun step (new "a" none)
      [.admitTask none, .insert 0, .poll 0, .drop 0, .complete 0 (.failed "x"), .notify 0, .exit 0, .nextEvent,
        .reapTask, .actorEnds (.ok ()), .close, .finish] s ∧
      (s.resultOf, (s.records 0).map fun t => (t.failure, t.handle.isDropped)) =
        (some (.ok ()), some (some (.failed "x"), true)) := anyRun_of_exec (by decide +kernel)
  obtain ⟨s, hs, hlook⟩ := hex
  simp only [Prod.mk.injEq] at hlook
  obtain ⟨hresult, hrecord⟩ := hlook
  obtain ⟨t, ht, hlook⟩ := Option.map_eq_some_iff.1 hrecord
  simp only [Prod.mk.injEq] at hlook
  obtain ⟨hfail, hdropped⟩ := hlook
  have hphase := phase_of_resultOf hresult
  refine ⟨s, hs, fun h => ?_⟩
  have hhandle : t.handle = .dropped := by
    cases hh : t.handle <;> rw [hh] at hdropped <;> first | rfl | cases hdropped
  rcases h.notNeither _ hphase 0 t ht (by rw [hfail]; rfl) (by rw [hhandle]; rfl) with
    ⟨e, -, hdelivered⟩ | ⟨e, -, hrep⟩
  · rw [hhandle] at hdelivered
    cases hdelivered
  · rw [hphase] at hrep
    cases hrep

end BlockingRuntime
end TokioSupervisor
