import TokioSupervisor.Actor.HandOut
import TokioSupervisor.Lib.Tally

/-!
# Admission of blocking tasks

An accepted closure holds its permit until it is dropped, which is after it has sent its result: a task
`occupies` the actor longer than it is `undelivered`. The permits left and the tasks that hold one add up
to the limit (`Permitted`), so at most that many run. A call of `spawn_blocking` that finds no permit
finds as many undelivered tasks as the limit says exactly when no closure is between its result and the
end of its thread (`admitsExactly`).
-/

namespace TokioSupervisor
open Lib

/-- The closure has not been dropped. -/
def ClosurePhase.holdsPermit : ClosurePhase → Bool
  | .pending | .sent _ | .notified _ => true
  | .exited _ | .aborted => false

/-- The result is not sent. -/
def ClosurePhase.isPending : ClosurePhase → Bool
  | .pending => true
  | _ => false

/-- `wait` has returned. -/
def HandlePhase.isDelivered : HandlePhase → Bool
  | .delivered _ => true
  | _ => false

namespace BlockingTask

def occupies (t : BlockingTask) : Bool := t.closure.holdsPermit

def undelivered (t : BlockingTask) : Bool := t.closure.isPending

def delivered (t : BlockingTask) : Bool := t.handle.isDelivered

theorem occupies_of_undelivered {t : BlockingTask} (h : t.undelivered = true) : t.occupies = true := by
  unfold undelivered ClosurePhase.isPending at h
  split at h
  · rename_i hc
    simp [occupies, hc, ClosurePhase.holdsPermit]
  · cases h

end BlockingTask

namespace BlockingRuntime

/-- The accepted closures that run, or wait for a thread. -/
def running (s : BlockingRuntime) : Nat := tally (·.occupies) s.records s.accepted

/-- The accepted tasks whose result is not sent. -/
def undelivered (s : BlockingRuntime) : Nat := tally (·.undelivered) s.records s.accepted

/-- No closure has sent its result and holds its permit still. -/
def settled (s : BlockingRuntime) : Bool :=
  (List.range s.accepted).all fun n => (s.records n).all fun t => !t.occupies || t.undelivered

/-- `spawn_blocking` is called while no closure is between its result and its end, unless there is a
permit left, or the call is turned away for the shutdown. -/
def admitsExactly (s : BlockingRuntime) : Act → Bool
  | .admitTask _ => s.closing || s.actorShutdown || s.admission.any (0 < ·.permits) || s.settled
  | _ => true

/-- What a call of `spawn_blocking` promises where the limit is `limit`. -/
structure AdmitsExactly (s : BlockingRuntime) (limit : Nat) (name : Option String) : Prop where
  /-- A task is refused only if that many are undelivered. -/
  atCapacity : ∀ actorId n, s.admitTask name = .error (.atCapacity actorId n) →
    n = limit ∧ limit ≤ s.undelivered
  /-- One after another: the caller has the result of every task accepted so far. -/
  sequential : 0 < limit → (∀ n < s.accepted, (s.records n).any (·.delivered) = true) →
    ∀ actorId n, s.admitTask name ≠ .error (.atCapacity actorId n)

section
variable {s s' : BlockingRuntime} {n m limit : Nat} {t t' : BlockingTask}

/-! ### The permits -/

/-- Only accepted tasks have a record. -/
def Known (s : BlockingRuntime) : Prop := ∀ n t, s.records n = some t → n < s.accepted

/-- The permits left and the tasks that hold one add up to the limit. -/
structure Permitted (s : BlockingRuntime) (limit : Nat) : Prop where
  known : s.Known
  permits : ∃ permits, s.admission = some ⟨limit, permits⟩ ∧ permits + s.running = limit
  delivered : ∀ n t, s.records n = some t → t.delivered = true → t.undelivered = false

theorem new_known (actorId : String) (limit : Option Nat) : (new actorId limit).Known := by
  intro n t h
  simp [new] at h

theorem new_permitted (actorId : String) (limit : Nat) :
    (new actorId (some limit)).Permitted limit where
  known := new_known actorId (some limit)
  permits := ⟨limit, rfl, rfl⟩
  delivered := fun n t h => by simp [new] at h

/-- The records of one task before and after: the closure keeps its permit, if it has one. -/
structure SamePermit (t t' : BlockingTask) : Prop where
  closure : t'.closure = t.closure ∨
    t.occupies = true ∧ t'.occupies = true ∧ t'.undelivered = false
  delivered : t'.delivered = true → t.delivered = true ∨ t'.undelivered = false

theorem SamePermit.refl (t : BlockingTask) : SamePermit t t := ⟨.inl rfl, .inl⟩

theorem SamePermit.occupies (h : SamePermit t t') : t'.occupies = t.occupies := by
  rcases h.closure with hc | ⟨ht, ht', -⟩
  · simp only [BlockingTask.occupies, hc]
  · rw [ht, ht']

theorem SamePermit.undelivered (h : SamePermit t t') (ht : t.undelivered = false) :
    t'.undelivered = false := by
  rcases h.closure with hc | ⟨-, -, ht'⟩
  · rw [← ht]
    simp only [BlockingTask.undelivered, hc]
  · exact ht'

/-- Nothing is accepted or released. -/
structure SamePermits (s s' : BlockingRuntime) : Prop where
  admission : s'.admission = s.admission
  accepted : s'.accepted = s.accepted
  records : ∀ n, Option.Rel SamePermit (s.records n) (s'.records n)

theorem samePermits_refl_records (s : BlockingRuntime) (n : Nat) :
    Option.Rel SamePermit (s.records n) (s.records n) := by
  cases s.records n with
  | none => exact .none
  | some t => exact .some (.refl t)

theorem samePermits_update (ht : s.records n = some t) (h : SamePermit t t') (m : Nat) :
    Option.Rel SamePermit (s.records m) (Function.update s.records n (some t') m) := by
  by_cases hm : m = n
  · subst hm
    rw [ht, Function.update_self]
    exact .some h
  · rw [Function.update_of_ne hm]
    exact samePermits_refl_records s m

theorem SamePermits.record (h : SamePermits s s') (ht' : s'.records n = some t') :
    ∃ t, s.records n = some t ∧ SamePermit t t' := by
  have hrel := h.records n
  rw [ht'] at hrel
  cases ht : s.records n with
  | none => rw [ht] at hrel; cases hrel
  | some t =>
    rw [ht] at hrel
    cases hrel with
    | some hrel => exact ⟨t, rfl, hrel⟩

theorem Known.same (h : s.Known) (hsame : SamePermits s s') : s'.Known := by
  intro n t' ht'
  obtain ⟨t, ht, -⟩ := hsame.record ht'
  rw [hsame.accepted]
  exact h n t ht

theorem Known.update (h : s.Known) (ht : s.records n = some t) (r : BlockingRuntime)
    (hacc : r.accepted = s.accepted) : Known { r with records := Function.update s.records n (some t') } := by
  intro m u hu
  show m < r.accepted
  rw [hacc]
  by_cases hm : m = n
  · subst hm
    exact h m t ht
  · exact h m u (by simpa [hm] using hu)

theorem Known.accept (h : s.Known) (name : Option String) : (s.accept name).Known := by
  intro n t ht
  by_cases hn : n = s.accepted
  · subst hn
    exact Nat.lt_succ_self _
  · exact Nat.lt_succ_of_lt (h n t (by simpa [BlockingRuntime.accept, hn] using ht))

theorem Permitted.same (h : s.Permitted limit) (hsame : SamePermits s s') : s'.Permitted limit := by
  have hrel (n : Nat) := hsame.records n
  refine ⟨h.known.same hsame, ?_, fun n t' ht' hd => ?_⟩
  · obtain ⟨permits, hadm, hsum⟩ := h.permits
    refine ⟨permits, hsame.admission.trans hadm, ?_⟩
    have : s'.running = s.running := by
      unfold running
      rw [hsame.accepted]
      refine tally_congr fun n _ => ?_
      have := hrel n
      revert this
      cases s.records n <;> cases s'.records n <;> intro hrel <;> cases hrel
      · rfl
      · rename_i hrel
        exact hrel.occupies
    omega
  · obtain ⟨t, ht, hrel⟩ := hsame.record ht'
    rcases hrel.delivered hd with hd | hu
    · exact hrel.undelivered (h.delivered n t ht hd)
    · exact hu

/-- The steps that neither accept a task nor end a closure. -/
def Act.keepsPermits : Act → Bool
  | .admitTask _ | .exit _ | .abort _ => false
  | _ => true

theorem RecordStep.samePermit {a : Act} (h : RecordStep n t a t') (ha : a.keepsPermits = true) :
    SamePermit t t' := by
  cases h with
  | exit | abort => cases ha
  | complete hc | notify hc =>
    exact ⟨.inr ⟨by simp [BlockingTask.occupies, hc, ClosurePhase.holdsPermit], rfl, rfl⟩,
      fun _ => .inr rfl⟩
  | cancel => exact ⟨.inl rfl, .inl⟩
  | poll | drop =>
    refine ⟨.inl rfl, fun hd => ?_⟩
    simp [BlockingTask.delivered, HandlePhase.isDelivered] at hd
  | deliver _ hc =>
    refine ⟨.inl rfl, fun _ => .inr ?_⟩
    cases hphase : t.closure with
    | pending =>
      rw [hphase] at hc
      cases hc
    | _ => simp [BlockingTask.undelivered, ClosurePhase.isPending]

theorem samePermits_beside {a : Act} (ha : a.keepsPermits = true) : SamePermits s (s.beside a) := by
  unfold beside
  split
  · exact ⟨rfl, rfl, samePermits_refl_records s⟩
  · cases ha
  · cases ha
  · exact ⟨rfl, rfl, samePermits_refl_records s⟩

theorem step_samePermits {a : Act} (ha : a.keepsPermits = true) (hs : s.step a = some s') :
    SamePermits s s' := by
  cases step_cases hs with
  | refused | admitted => cases ha
  | insert ht =>
    refine ⟨rfl, rfl, samePermits_update ht ⟨.inl rfl, fun hd => ?_⟩⟩
    simp [BlockingTask.delivered, HandlePhase.isDelivered] at hd
  | record ht hr =>
    have hbeside := samePermits_beside (s := s) ha
    exact ⟨hbeside.admission, hbeside.accepted, samePermits_update ht (hr.samePermit ha)⟩
  | shutdown | actorEnds | skipped | taken | failed | reaped | await | finish =>
    exact ⟨rfl, rfl, samePermits_refl_records s⟩
  | close =>
    refine ⟨rfl, rfl, fun n => ?_⟩
    cases ht : s.records n with
    | none => simp [ht]
    | some t =>
      simp only [ht, Option.map_some]
      exact .some ⟨.inl rfl, .inl⟩
  | @timeout n =>
    refine ⟨rfl, rfl, fun m => ?_⟩
    simp only [modify]
    cases ht : s.records n with
    | none =>
      rw [Option.map_none, ← ht, Function.update_eq_self]
      exact samePermits_refl_records s m
    | some t =>
      rw [Option.map_some]
      refine samePermits_update ht ?_ m
      exact ⟨.inl rfl, .inl⟩

/-! ### Acceptance and release -/

theorem Permitted.admitted (h : s.Permitted limit) {admission : Option BlockingAdmission}
    (hadm : Spends s.admission admission) (name : Option String) :
    ({ s with admission }.accept name).Permitted limit := by
  obtain ⟨permits, hpermits, hsum⟩ := h.permits
  have hknown : Known ({ s with admission }.accept name) :=
    Known.accept (s := { s with admission }) h.known name
  rw [hpermits] at hadm
  cases hadm with
  | @permit _ permits =>
    refine ⟨hknown, ⟨permits, rfl, ?_⟩, fun n t ht hd => ?_⟩
    · have hrun : ({ s with admission := some ⟨limit, permits⟩ }.accept name).running =
          s.running + 1 := by
        simp only [running, accept]
        rw [tally_succ, tally_update_of_le (Nat.le_refl _), Function.update_self]
        rfl
      omega
    · by_cases hacc : n = s.accepted
      · subst hacc
        simp only [accept, Function.update_self, Option.some.injEq] at ht
        subst ht
        cases hd
      · exact h.delivered n t (by simpa [accept, hacc] using ht) hd

theorem Permitted.release (h : s.Permitted limit) (ht : s.records n = some t) (hocc : t.occupies = true)
    (hocc' : t'.occupies = false) (hund : t'.undelivered = false) :
    Permitted { s.release with records := Function.update s.records n (some t') } limit := by
  have hn : n < s.accepted := h.known n t ht
  obtain ⟨permits, hadm, hsum⟩ := h.permits
  refine ⟨h.known.update ht s.release rfl, ⟨permits + 1, ?_, ?_⟩, fun m u hu hd => ?_⟩
  · simp [BlockingRuntime.release, hadm]
  · have hupd := tally_update (p := (·.occupies)) (f := s.records) hn (some t')
    simp only [ht, Option.any_some, hocc, hocc', if_true, Bool.false_eq_true, if_false] at hupd
    simp only [running, BlockingRuntime.release] at hsum ⊢
    omega
  · by_cases hmn : m = n
    · subst hmn
      simp only [Function.update_self, Option.some.injEq] at hu
      subst hu
      exact hund
    · exact h.delivered m u (by simpa [hmn] using hu) hd

theorem Known.step (h : s.Known) {a : Act} (hs : s.step a = some s') : s'.Known := by
  by_cases ha : a.keepsPermits = true
  · exact h.same (step_samePermits ha hs)
  · cases step_cases hs with
    | refused => exact h
    | @admitted name admission => exact Known.accept (s := { s with admission }) h name
    | record ht => exact h.update ht (s.beside a) (by unfold beside; split <;> rfl)
    | _ => exact absurd rfl ha

theorem Permitted.step (h : s.Permitted limit) {a : Act} (hs : s.step a = some s') :
    s'.Permitted limit := by
  by_cases ha : a.keepsPermits = true
  · exact h.same (step_samePermits ha hs)
  · cases step_cases hs with
    | refused => exact h
    | @admitted name _ _ hadm => exact h.admitted hadm name
    | record ht hr =>
      cases hr with
      | exit hc | abort hc =>
        refine h.release ht ?_ rfl rfl
        simp [BlockingTask.occupies, hc, ClosurePhase.holdsPermit]
      | _ => exact absurd rfl ha
    | _ => exact absurd rfl ha

/-! ### A call of `spawn_blocking` -/

theorem Permitted.atCapacity_iff (h : s.Permitted limit) {name : Option String} {actorId : String}
    {k : Nat} : s.admitTask name = .error (.atCapacity actorId k) ↔
      actorId = s.actorId ∧ k = limit ∧ (s.closing || s.actorShutdown) = false ∧ s.running = limit := by
  obtain ⟨permits, hadm, hsum⟩ := h.permits
  unfold BlockingRuntime.admitTask
  rw [hadm]
  split
  · rename_i hclosed
    simp [hclosed]
  · rename_i hopen
    cases permits with
    | zero =>
      have hrun : s.running = limit := by omega
      simp only [Except.error.injEq, SpawnBlockingError.atCapacity.injEq, hrun, hopen, and_true]
      constructor
      · rintro ⟨rfl, rfl⟩
        simp
      · rintro ⟨rfl, rfl, -⟩
        simp
    | succ permits =>
      have hrun : s.running ≠ limit := by omega
      simp [hrun]

/-- As many tasks are undelivered as hold a permit where no closure is in between. -/
theorem running_le_undelivered : s.running ≤ s.undelivered ↔ s.settled = true := by
  have himp (n : Nat) (_ : n < s.accepted) (hn : (s.records n).any (·.undelivered) = true) :
      (s.records n).any (·.occupies) = true := by
    obtain ⟨t, ht, hu⟩ := (Option.any_eq_true _ _).1 hn
    exact (Option.any_eq_true _ _).2 ⟨t, ht, BlockingTask.occupies_of_undelivered hu⟩
  rw [running, undelivered, tally_le_iff himp]
  simp only [settled, List.all_eq_true, List.mem_range]
  refine forall₂_congr fun n _ => ?_
  cases s.records n with
  | none => simp
  | some t => cases ht : t.occupies <;> simp [ht]

theorem Permitted.undelivered_eq_zero (h : s.Permitted limit)
    (hall : ∀ n < s.accepted, (s.records n).any (·.delivered) = true) : s.undelivered = 0 := by
  refine tally_eq_zero fun n hn => ?_
  obtain ⟨t, ht, hd⟩ := (Option.any_eq_true _ _).1 (hall n hn)
  rw [ht, Option.any_some, h.delivered n t ht hd]

theorem Permitted.admitsExactly_iff (h : s.Permitted limit) (name : Option String) :
    s.AdmitsExactly limit name ↔ s.admitsExactly (.admitTask name) = true := by
  obtain ⟨permits, hadm, hsum⟩ := h.permits
  have hcond : s.admitsExactly (.admitTask name) = true ↔
      ((s.closing || s.actorShutdown) = false → s.running = limit → s.settled = true) := by
    have hfree : 0 < permits ↔ s.running ≠ limit := by omega
    simp only [admitsExactly, hadm, Option.any_some]
    cases s.closing <;> cases s.actorShutdown <;> cases s.settled <;> simp [hfree]
  rw [hcond]
  constructor
  · intro hex hopen hrun
    have hle := (hex.atCapacity s.actorId limit (h.atCapacity_iff.2 ⟨rfl, rfl, hopen, hrun⟩)).2
    exact running_le_undelivered.1 (by omega)
  · intro hsettled
    have hfull {actorId : String} {k : Nat}
        (hrefused : s.admitTask name = .error (.atCapacity actorId k)) :
        k = limit ∧ limit ≤ s.undelivered := by
      obtain ⟨-, hk, hopen, hrun⟩ := h.atCapacity_iff.1 hrefused
      have := running_le_undelivered.2 (hsettled hopen hrun)
      exact ⟨hk, by omega⟩
    refine ⟨fun _ _ => hfull, fun hlimit hall actorId k hrefused => ?_⟩
    have hzero := h.undelivered_eq_zero hall
    have := (hfull hrefused).2
    omega

end

/-- In every state of every run with a limit at most that many closures run, and a call of
`spawn_blocking` there is as exact as it should be if and only if it meets the condition. -/
theorem run_admitsExactly {actorId : String} {limit : Nat} {as : List Act} {s : BlockingRuntime}
    (h : AnyRun step (new actorId (some limit)) as s) :
    s.running ≤ limit ∧
      ∀ name, s.AdmitsExactly limit name ↔ s.admitsExactly (.admitTask name) = true := by
  have hp : s.Permitted limit :=
    h.invariant (I := fun s => s.Permitted limit) (new_permitted actorId limit)
      fun _ _ _ hp _ hs => hp.step hs
  obtain ⟨permits, -, hsum⟩ := hp.permits
  exact ⟨by omega, hp.admitsExactly_iff⟩

/-- What a call of `spawn_blocking` returns in place of a handle. -/
def refusal (s : BlockingRuntime) (name : Option String) : Option SpawnBlockingError :=
  match s.admitTask name with
  | .ok _ => none
  | .error error => some error

theorem admitTask_of_refusal {s : BlockingRuntime} {name : Option String} {error : SpawnBlockingError}
    (h : s.refusal name = some error) : s.admitTask name = .error error := by
  unfold refusal at h
  split at h
  · cases h
  · rename_i heq
    rw [heq, Option.some.inj h]

/-- The closure of the only task still runs: the call is refused, as it should be. -/
theorem run_admitsExactly_full : ∃ s : BlockingRuntime,
    s.refusal none = some (.atCapacity "a" 1) ∧ s.AdmitsExactly 1 none := by
  have hex : ∃ s, AnyRun step (new "a" (some 1)) [.admitTask none, .insert 0, .poll 0] s ∧
      (s.refusal none, s.admitsExactly (.admitTask none)) = (some (.atCapacity "a" 1), true) :=
    anyRun_of_exec (by decide)
  obtain ⟨s, hs, hlook⟩ := hex
  simp only [Prod.mk.injEq] at hlook
  exact ⟨s, hlook.1, ((run_admitsExactly hs).2 none).2 hlook.2⟩

/-- `run_blocking` has returned and is called again before the closure has released its permit. -/
theorem lingering_permit_reached : ∃ s, AnyRun step (new "a" (some 1))
    [.admitTask none, .insert 0, .poll 0, .complete 0 .ok, .deliver 0] s ∧
    s.refusal none = some (.atCapacity "a" 1) ∧ s.undelivered = 0 ∧ ¬ s.AdmitsExactly 1 none := by
  have hex : ∃ s, AnyRun step (new "a" (some 1))
      [.admitTask none, .insert 0, .poll 0, .complete 0 .ok, .deliver 0] s ∧
      (s.refusal none, s.undelivered) = (some (.atCapacity "a" 1), 0) := anyRun_of_exec (by decide)
  obtain ⟨s, hs, hlook⟩ := hex
  simp only [Prod.mk.injEq] at hlook
  obtain ⟨hrefusal, hzero⟩ := hlook
  refine ⟨s, hs, hrefusal, hzero, fun h => ?_⟩
  have := (h.atCapacity "a" 1 (admitTask_of_refusal hrefusal)).2
  omega

end BlockingRuntime
end TokioSupervisor
