import TokioSupervisor.Actor.Blocking

/-!
# Every accepted blocking task is handed out

`spawn_blocking` accepts a task in its first section and inserts the entry in its second one, so a task
can be missing from the map when `close_and_take_all` drains it: inserted afterwards it is never handed
out and its token is not cancelled. With the condition `tracksAll` a task that is inserted is either in
the map or handed out, never both (`Placed`).
-/

namespace TokioSupervisor
open Lib

namespace BlockingRuntime

/-- The tasks that left the map. -/
def handed (s : BlockingRuntime) : List Nat := s.handedOut.map Prod.fst

/-- Accepted tasks are handed out once, by the reap for their own event or when the map is closed, which
cancels the tokens of those not reaped; the map stays empty from then on. -/
structure Tracked (s : BlockingRuntime) : Prop where
  atMostOnce : ∀ n, s.handed.count n ≤ 1
  ownEvent : ∀ n m, (n, .reaped m) ∈ s.handedOut → m = n
  all : s.closing = true → ∀ n < s.accepted, s.handed.count n = 1
  cancelled : s.closing = true → ∀ n t, s.records n = some t → (n, .reaped n) ∉ s.handedOut →
    t.cancel = true
  empty : s.closing = true → s.tasks = []

/-- The entry of the task has been inserted. -/
def inserted (s : BlockingRuntime) (n : Nat) : Bool := (s.records n).any (!·.handle.isSpawning)

/-- `next_id` does not wrap, and no task is between the two sections of `spawn_blocking` when the map is
closed. -/
def tracksAll (s : BlockingRuntime) : Act → Bool
  | .admitTask _ => decide (s.nextId + 1 < 2 ^ 64)
  | .close => (List.range s.accepted).all s.inserted
  | _ => true

section
variable {s s' : BlockingRuntime} {n m : Nat} {t : BlockingTask}

/-! ### What a step does to the map -/

/-- The records of one task before and after: as far as the map is concerned. -/
def SameEntry (t t' : BlockingTask) : Prop :=
  t'.id = t.id ∧ t'.handle.isSpawning = t.handle.isSpawning ∧ (t.cancel = true → t'.cancel = true)

/-- The map and what left it are as before. -/
structure SameMap (s s' : BlockingRuntime) : Prop where
  tasks : s'.tasks = s.tasks
  handedOut : s'.handedOut = s.handedOut
  closing : s'.closing = s.closing
  nextId : s'.nextId = s.nextId
  accepted : s'.accepted = s.accepted
  records : ∀ n, Option.Rel SameEntry (s.records n) (s'.records n)

theorem SameEntry.refl (t : BlockingTask) : SameEntry t t := ⟨rfl, rfl, id⟩

theorem SameMap.refl_records (s : BlockingRuntime) (n : Nat) :
    Option.Rel SameEntry (s.records n) (s.records n) := by
  cases s.records n with
  | none => exact .none
  | some t => exact .some (.refl t)

theorem RecordStep.sameEntry {a : Act} {t' : BlockingTask} (h : RecordStep n t a t') : SameEntry t t' := by
  cases h with
  | complete | notify | exit | abort => exact ⟨rfl, rfl, id⟩
  | cancel => exact ⟨rfl, rfl, fun _ => rfl⟩
  | poll hh | deliver hh => exact ⟨rfl, by rw [hh]; rfl, id⟩
  | drop hh => rcases hh with hh | hh <;> exact ⟨rfl, by rw [hh]; rfl, id⟩

theorem sameMap_beside (s : BlockingRuntime) (a : Act) : SameMap s (s.beside a) := by
  unfold beside
  split <;> exact ⟨rfl, rfl, rfl, rfl, rfl, SameMap.refl_records s⟩

theorem sameMap_update {t' : BlockingTask} (h : SameMap s s') (ht : s.records n = some t)
    (hsame : SameEntry t t') :
    SameMap s { s' with records := Function.update s.records n (some t') } := by
  refine ⟨h.tasks, h.handedOut, h.closing, h.nextId, h.accepted, fun m => ?_⟩
  by_cases hm : m = n
  · subst hm
    simp only [ht, Function.update_self]
    exact .some hsame
  · simp only [Function.update_of_ne hm]
    exact SameMap.refl_records s m

/-- The steps that leave the map alone. -/
def Act.leavesMap : Act → Bool
  | .admitTask _ | .insert _ | .nextEvent | .close => false
  | _ => true

theorem step_sameMap {a : Act} (ha : a.leavesMap = true) (hs : s.step a = some s') : SameMap s s' := by
  cases step_cases hs with
  | refused | admitted | insert | skipped | taken | close => cases ha
  | record ht hr => exact sameMap_update (sameMap_beside s a) ht hr.sameEntry
  | shutdown | actorEnds | failed | reaped | await | finish =>
    exact ⟨rfl, rfl, rfl, rfl, rfl, SameMap.refl_records s⟩
  | @timeout n =>
    refine ⟨rfl, rfl, rfl, rfl, rfl, fun m => ?_⟩
    by_cases hm : m = n
    · subst hm
      simp only [modify, Function.update_self]
      cases s.records m with
      | none => exact .none
      | some t => exact .some ⟨rfl, rfl, id⟩
    · simp only [modify, Function.update_of_ne hm]
      exact SameMap.refl_records s m

/-! ### Where the tasks are -/

/-- An accepted task that is inserted is in the map or handed out; ids are the numbers. -/
structure Placed (s : BlockingRuntime) : Prop where
  known : ∀ n, (s.records n).isSome = true ↔ n < s.accepted
  ids : ∀ n t, s.records n = some t → t.id = n
  nextId : s.nextId = s.accepted
  place : ∀ n, (s.tasks ++ s.handed).count n = if s.inserted n = true then 1 else 0
  own : ∀ n m, (n, .reaped m) ∈ s.handedOut → m = n
  closed : s.closing = true → s.tasks = [] ∧ ∀ n < s.accepted, s.inserted n = true
  cancelled : s.closing = true → ∀ n t, s.records n = some t → (n, .reaped n) ∉ s.handedOut →
    t.cancel = true
  drained : ∀ n, (n, .closed) ∈ s.handedOut → s.closing = true

theorem new_placed (actorId : String) (limit : Option Nat) : (new actorId limit).Placed where
  known := fun n => by simp [new]
  ids := fun _ _ h => by cases h
  nextId := rfl
  place := fun n => by simp [new, handed, inserted]
  own := fun _ _ h => by cases h
  closed := fun h => by cases h
  cancelled := fun h => by cases h
  drained := fun _ h => by cases h

theorem SameMap.cases (h : SameMap s s') (n : Nat) :
    s.records n = none ∧ s'.records n = none ∨
      ∃ t t', s.records n = some t ∧ s'.records n = some t' ∧ SameEntry t t' := by
  have hrel := h.records n
  revert hrel
  cases s.records n <;> cases s'.records n <;> intro hrel
  · exact .inl ⟨rfl, rfl⟩
  · cases hrel
  · cases hrel
  · cases hrel with
    | some hrel => exact .inr ⟨_, _, rfl, rfl, hrel⟩

theorem SameMap.inserted (h : SameMap s s') (n : Nat) : s'.inserted n = s.inserted n := by
  rcases h.cases n with ⟨ht, ht'⟩ | ⟨t, t', ht, ht', hrel⟩
  · simp only [BlockingRuntime.inserted, ht, ht']
  · simp only [BlockingRuntime.inserted, ht, ht', Option.any_some, hrel.2.1]

theorem Placed.same (h : s.Placed) (hsame : SameMap s s') : s'.Placed := by
  have hback (n : Nat) (t' : BlockingTask) (ht' : s'.records n = some t') :
      ∃ t, s.records n = some t ∧ SameEntry t t' := by
    rcases hsame.cases n with ⟨-, hnone⟩ | ⟨t, t'', ht, ht'', hrel⟩
    · rw [hnone] at ht'
      cases ht'
    · rw [ht''] at ht'
      cases ht'
      exact ⟨t, ht, hrel⟩
  refine ⟨fun n => ?_, fun n t' ht' => ?_, ?_, fun n => ?_, fun n m hm => ?_, fun hc => ?_,
    fun hc n t' ht' hn => ?_, fun n hn => ?_⟩
  · rw [hsame.accepted, ← h.known n]
    rcases hsame.cases n with ⟨ht, ht'⟩ | ⟨t, t', ht, ht', -⟩ <;> simp [ht, ht']
  · obtain ⟨t, ht, hrel⟩ := hback n t' ht'
    rw [hrel.1, h.ids n t ht]
  · rw [hsame.nextId, hsame.accepted, h.nextId]
  · rw [handed, hsame.tasks, hsame.handedOut, hsame.inserted]
    exact h.place n
  · rw [hsame.handedOut] at hm
    exact h.own n m hm
  · rw [hsame.closing] at hc
    rw [hsame.tasks, hsame.accepted]
    exact ⟨(h.closed hc).1, fun n hn => by rw [hsame.inserted, (h.closed hc).2 n hn]⟩
  · rw [hsame.closing] at hc
    rw [hsame.handedOut] at hn
    obtain ⟨t, ht, hrel⟩ := hback n t' ht'
    exact hrel.2.2 (h.cancelled hc n t ht hn)
  · rw [hsame.handedOut] at hn
    rw [hsame.closing]
    exact h.drained n hn

theorem Placed.accept (h : s.Placed) {name : Option String} (hopen : s.closing = false)
    (hid : s.nextId + 1 < 2 ^ 64) : (s.accept name).Placed := by
  have hnone : s.records s.accepted = none := by
    rw [← Option.not_isSome_iff_eq_none, h.known]
    exact Nat.lt_irrefl _
  have hrec (n : Nat) (hn : n ≠ s.accepted) : (s.accept name).records n = s.records n := by
    simp [BlockingRuntime.accept, hn]
  have hself : (s.accept name).records s.accepted =
      some ⟨s.nextId, name, false, false, .pending, false, .spawning⟩ := by
    simp [BlockingRuntime.accept]
  refine ⟨fun n => ?_, fun n t ht => ?_, ?_, fun n => ?_, h.own, fun hc => ?_, fun hc => ?_,
    h.drained⟩
  · by_cases hn : n = s.accepted
    · subst hn
      rw [hself]
      simp [BlockingRuntime.accept]
    · rw [hrec n hn, h.known n]
      simp only [BlockingRuntime.accept]
      omega
  · by_cases hn : n = s.accepted
    · subst hn
      rw [hself] at ht
      cases ht
      exact h.nextId
    · rw [hrec n hn] at ht
      exact h.ids n t ht
  · show (s.nextId + 1) % 2 ^ 64 = s.accepted + 1
    rw [Nat.mod_eq_of_lt hid, h.nextId]
  · have hplace := h.place n
    by_cases hn : n = s.accepted
    · subst hn
      simp only [inserted, hnone, Option.any_none, Bool.false_eq_true, if_false] at hplace
      simp only [inserted, hself, Option.any_some, HandlePhase.isSpawning, Bool.not_true,
        Bool.false_eq_true, if_false]
      exact hplace
    · simp only [inserted, hrec n hn]
      exact hplace
  · rw [show (s.accept name).closing = s.closing from rfl, hopen] at hc
    cases hc
  · rw [show (s.accept name).closing = s.closing from rfl, hopen] at hc
    cases hc

theorem Placed.id_unique (h : s.Placed) {m k : Nat} (hm : s.idOf m = some k) : m = k := by
  obtain ⟨t, ht, hid⟩ := Option.map_eq_some_iff.1 hm
  rw [← hid, h.ids m t ht]

theorem Placed.insert (h : s.Placed) (ht : s.records n = some t) (hspawning : t.handle.isSpawning = true) :
    Placed { s with
      tasks := s.tasks.filter (fun m => s.idOf m != some t.id) ++ [n]
      records := Function.update s.records n (some { t with handle := .held }) } := by
  have hout : s.inserted n = false := by simp [inserted, ht, hspawning]
  have hopen : s.closing ≠ true := fun hc => by
    have := (h.closed hc).2 n ((h.known n).1 (Option.isSome_of_eq_some ht))
    rw [hout] at this
    cases this
  have hcount := h.place n
  rw [hout, if_neg Bool.false_ne_true, List.count_eq_zero, List.mem_append, not_or] at hcount
  -- no entry of the same id is replaced
  have hfilter : s.tasks.filter (fun m => s.idOf m != some t.id) = s.tasks := by
    refine List.filter_eq_self.2 fun m hm => bne_iff_ne.2 fun hid => ?_
    rw [h.ids n t ht] at hid
    exact hcount.1 (h.id_unique hid ▸ hm)
  rw [hfilter]
  refine ⟨fun m => ?_, fun m t' ht' => ?_, h.nextId, fun m => ?_, h.own,
    fun hc => absurd hc hopen, fun hc => absurd hc hopen, h.drained⟩
  · rw [← h.known m]
    by_cases hm : m = n
    · subst hm
      simp [ht]
    · simp [hm]
  · by_cases hm : m = n
    · subst hm
      simp only [Function.update_self, Option.some.injEq] at ht'
      rw [← ht', ← h.ids m t ht]
    · simp only [Function.update_of_ne hm] at ht'
      exact h.ids m t' ht'
  · have hplace := h.place m
    by_cases hm : m = n
    · subst hm
      rw [hout, if_neg Bool.false_ne_true] at hplace
      simp only [inserted, handed, List.count_append, Function.update_self, Option.any_some,
        HandlePhase.isSpawning, Bool.not_false, if_true, List.count_singleton_self] at hplace ⊢
      omega
    · have hsame : BlockingRuntime.inserted { s with
          tasks := s.tasks ++ [n]
          records := Function.update s.records n (some { t with handle := .held }) } m =
          s.inserted m := by
        simp only [inserted, Function.update_of_ne hm]
      rw [hsame, ← hplace]
      simp [handed, List.count_append, Ne.symm hm]

theorem Placed.idOf_mem (h : s.Placed) (hn : n ∈ s.tasks) : s.idOf n = some n := by
  have hplace := h.place n
  have hpos : 0 < (s.tasks ++ s.handed).count n :=
    List.count_pos_iff.2 (List.mem_append_left _ hn)
  cases hr : s.records n with
  | none =>
    simp only [inserted, hr, Option.any_none, Bool.false_eq_true, if_false] at hplace
    omega
  | some t => simp [idOf, hr, h.ids n t hr]

theorem Placed.take (h : s.Placed) {event : Nat} (hmem : n ∈ s.tasks) (hid : s.idOf n = s.idOf event) :
    Placed { s with tasks := s.tasks.erase n, handedOut := (n, .reaped event) :: s.handedOut } := by
  rw [h.idOf_mem hmem] at hid
  refine ⟨h.known, h.ids, h.nextId, fun m => ?_, fun m k hm => ?_, fun hc => ?_,
    fun hc m t ht hm => h.cancelled hc m t ht fun hold => hm (List.mem_cons_of_mem _ hold),
    fun m hm => h.drained m ((List.mem_cons.1 hm).resolve_left nofun)⟩
  · have hperm : (s.tasks.erase n ++ n :: s.handed).Perm (s.tasks ++ s.handed) :=
      List.perm_middle.trans ((List.perm_cons_erase hmem).symm.append_right _)
    exact (hperm.count_eq m).trans (h.place m)
  · rcases List.mem_cons.1 hm with hm | hm
    · cases hm
      exact h.id_unique hid.symm
    · exact h.own m k hm
  · rw [(h.closed hc).1] at hmem
    cases hmem

theorem Placed.close (h : s.Placed) (hall : ∀ n < s.accepted, s.inserted n = true) (phase : ActorPhase) :
    Placed { s with
      closing := true
      records := fun n => (s.records n).map fun t => { t with cancel := t.cancel || decide (n ∈ s.tasks) }
      tasks := []
      handedOut := s.tasks.map (·, .closed) ++ s.handedOut
      phase } := by
  have hinserted (m : Nat) : ((s.records m).map fun t =>
      { t with cancel := t.cancel || decide (m ∈ s.tasks) }).any (!·.handle.isSpawning) =
      s.inserted m := by
    rw [Option.any_map]
    rfl
  refine ⟨fun m => ?_, fun m t ht => ?_, h.nextId, fun m => ?_, fun m k hm => ?_,
    fun _ => ⟨rfl, fun m hm => ?_⟩, fun _ m t ht hm => ?_, fun _ _ => rfl⟩
  · rw [Option.isSome_map]
    exact h.known m
  · obtain ⟨t₀, ht₀, rfl⟩ := Option.map_eq_some_iff.1 ht
    exact h.ids m t₀ ht₀
  · rw [inserted, hinserted, ← h.place m, handed, List.nil_append, List.map_append, List.map_map]
    simp [handed, Function.comp_def]
  · rcases List.mem_append.1 hm with hm | hm
    · obtain ⟨k', -, hk⟩ := List.mem_map.1 hm
      cases hk
    · exact h.own m k hm
  · rw [inserted, hinserted]
    exact hall m hm
  · obtain ⟨t₀, ht₀, rfl⟩ := Option.map_eq_some_iff.1 ht
    rw [Bool.or_eq_true, decide_eq_true_eq]
    by_cases hmap : m ∈ s.tasks
    · exact .inr hmap
    · -- it was handed out before: not for its own event, so the map was closed already
      have hm' : m < s.accepted := (h.known m).1 (Option.isSome_of_eq_some ht₀)
      have hplace := h.place m
      rw [hall m hm', if_pos rfl, List.count_append, List.count_eq_zero.2 hmap, Nat.zero_add]
        at hplace
      have hout : m ∈ s.handed := List.count_pos_iff.1 (by omega)
      have hold : (m, .reaped m) ∉ s.handedOut := fun hold => hm (List.mem_append_right _ hold)
      obtain ⟨⟨k, out⟩, hpair, hk⟩ := List.mem_map.1 hout
      obtain rfl : k = m := hk
      cases out with
      | reaped e => exact absurd (h.own k e hpair ▸ hpair) hold
      | closed => exact .inl (h.cancelled (h.drained k hpair) k t₀ ht₀ hold)

theorem Placed.step (h : s.Placed) {a : Act} (hok : s.tracksAll a = true)
    (hs : s.step a = some s') : s'.Placed := by
  cases step_cases hs with
  | refused => exact h
  | @admitted name admission hopen _ =>
    have h' : Placed { s with admission } := h.same ⟨rfl, rfl, rfl, rfl, rfl, SameMap.refl_records s⟩
    exact h'.accept (Bool.or_eq_false_iff.1 hopen).1 (of_decide_eq_true hok)
  | insert ht hspawning => exact h.insert ht hspawning
  | skipped => exact h.same ⟨rfl, rfl, rfl, rfl, rfl, SameMap.refl_records s⟩
  | taken _ _ hn hid =>
    exact (h.take hn hid).same ⟨rfl, rfl, rfl, rfl, rfl, SameMap.refl_records s⟩
  | close => exact h.close (by simpa [tracksAll] using hok) _
  | record _ hr => exact h.same (step_sameMap (by cases hr <;> rfl) hs)
  | _ => exact h.same (step_sameMap rfl hs)

theorem Placed.tracked (h : s.Placed) : s.Tracked := by
  have hcount (n : Nat) : s.handed.count n ≤ (s.tasks ++ s.handed).count n := by
    rw [List.count_append]
    exact Nat.le_add_left _ _
  refine ⟨fun n => Nat.le_trans (hcount n) ?_, h.own, fun hc n hn => ?_, h.cancelled,
    fun hc => (h.closed hc).1⟩
  · rw [h.place n]
    split <;> decide
  · have hplace := h.place n
    rw [(h.closed hc).1, (h.closed hc).2 n hn, if_pos rfl] at hplace
    exact hplace

end

/-! ### Runs -/

theorem run_placed {actorId : String} {limit : Option Nat} {as : List Act} {s : BlockingRuntime}
    (hrun : Run step (fun s a => s.tracksAll a = true) (new actorId limit) as s) : s.Placed :=
  hrun.invariant (new_placed actorId limit) fun _ _ _ h hok hs => h.step hok hs

/-- In every run in which no task is between the two sections of `spawn_blocking` when the map is closed,
and `next_id` does not wrap, the accepted tasks are tracked. -/
theorem run_tracked {actorId : String} {limit : Option Nat} {as : List Act} {s : BlockingRuntime}
    (hrun : Run step (fun s a => s.tracksAll a = true) (new actorId limit) as s) : s.Tracked :=
  (run_placed hrun).tracked

/-- One task is reaped, another is still running when the actor ends. -/
theorem run_tracked_both : ∃ s : BlockingRuntime, s.Tracked ∧
    (s.closing, s.handedOut) = (true, [(1, .closed), (0, .reaped 0)]) := by
  have hex : ∃ s, Run step (fun s a => s.tracksAll a = true) (new "a" none)
      [.admitTask none, .insert 0, .admitTask none, .insert 1, .complete 0 .ok, .notify 0, .nextEvent, .exit 0,
        .reapTask, .actorEnds (.ok ()), .close] s ∧
      (s.closing, s.handedOut) = (true, [(1, .closed), (0, .reaped 0)]) :=
    run_of_execIf_map (by decide +kernel)
  obtain ⟨s, hs, hout⟩ := hex
  exact ⟨s, run_tracked hs, hout⟩

/-- The map is closed between the two sections of a `spawn_blocking` on another thread, which inserts its
entry afterwards. -/
theorem untracked_task_reached : ∃ s, AnyRun step (new "a" none)
    [.admitTask none, .actorEnds (.ok ()), .close, .insert 0] s ∧ ¬ s.Tracked := by
  have hex : ∃ s, AnyRun step (new "a" none)
      [.admitTask none, .actorEnds (.ok ()), .close, .insert 0] s ∧ (s.closing, s.tasks) = (true, [0]) :=
    anyRun_of_exec (by decide +kernel)
  obtain ⟨s, hs, hmap⟩ := hex
  simp only [Prod.mk.injEq] at hmap
  refine ⟨s, hs, fun h => ?_⟩
  rw [h.empty hmap.1] at hmap
  cases hmap.2

end BlockingRuntime
end TokioSupervisor
