import TokioSupervisor.Actor.Graph
import TokioSupervisor.Lib.Slot

/-!
# Stable bindings across graph reruns

That one run is active at a time, and none once the graph is decomposed, holds whatever happens
(`RunSlot`). That the mailbox of a live task stays bound needs more: the run slot is free as soon as a
dropped future is gone, while the guards live in its aborted tasks, and a guard clears the binding
whoever has bound it since. With the condition `bindsAlone` an actor never has two live guards
(`Bound`).
-/

namespace TokioSupervisor
open Lib

theorem GraphRun.loop_holdsRun (r : GraphRun) : r.loop.phase.holdsRun = true := by
  simp only [GraphRun.loop]
  split <;> rfl

namespace Graph

/-- What reruns rely on: one run at a time, none once the graph is decomposed, each live task of the
active run under its own mailbox, and no mailbox overwritten by the guard of an older run. -/
structure StableBindings (s : Graph) : Prop where
  oneRun : ∀ i j, (s.runs i).phase.holdsRun = true → (s.runs j).phase.holdsRun = true → i = j
  decomposed : s.state = .decomposed →
    ∀ as s', AnyRun step s as s' → ∀ i, (s'.runs i).phase.holdsRun = false
  bound : ∀ i a, (s.runs i).phase.holdsRun = true → s.live i a = true → s.bindings a = some i
  writes : ∀ i a j, (i, a, some j) ∈ s.writes → ¬ (s.runs i).number < (s.runs j).number

/-- No mailbox is bound while an earlier guard of its actor is alive. -/
def bindsAlone (s : Graph) : Act → Bool
  | .run i =>
    match (s.runs i).phase with
    | .binding (a :: _) => (s.guards a).isEmpty
    | _ => true
  | _ => true

/-! ### One run at a time -/

section
variable {s s' : Graph} {i j : Nat} {a : String}

/-- The state tells whether some run is active. -/
def RunSlot (s : Graph) : Prop :=
  Slot (s.state = .running) fun i => (s.runs i).phase.holdsRun = true

theorem setRun_runs {r : GraphRun} : (s.setRun i r).runs j = if j = i then r else s.runs j := by
  by_cases h : j = i
  · subst h; simp [setRun]
  · simp [setRun, h]

theorem new_runSlot (actors : GraphActors) : (new actors).RunSlot :=
  (Slot.empty fun i hi => by cases hi).congr (by simp [new]) fun i => Iff.rfl

theorem RunSlot.move (h : s.RunSlot) (hstate : s'.state = s.state) {r : GraphRun}
    (hruns : ∀ j, s'.runs j = if j = i then r else s.runs j)
    (hholds : r.phase.holdsRun = (s.runs i).phase.holdsRun) : s'.RunSlot := by
  refine h.congr (by rw [hstate]) fun j => ?_
  rw [hruns]
  split
  · rename_i hj
    rw [hj, hholds]
  · exact Iff.rfl

theorem RunSlot.step (h : s.RunSlot) {a : Act} (hs : s.step a = some s') : s'.RunSlot := by
  cases step_cases hs with
  | @started i hp hidle =>
    exact h.take (i := i) (by simp [hidle]) rfl (by rw [setRun_runs, if_pos rfl]; rfl)
      fun j hj => by rw [setRun_runs, if_neg hj]
  | refused hp | bindEnd hp | bind hp | spawn hp | joinPending hp | select hp | shutdown hp | dropped hp
    | aborted hp =>
    exact h.move rfl (fun j => setRun_runs) (by rw [hp]; rfl)
  | spawnEnd hp | join hp =>
    exact h.move rfl (fun j => setRun_runs) (by rw [hp]; exact GraphRun.loop_holdsRun _)
  | @released i how hp =>
    refine h.release (i := i) (by simp [hp, GraphPhase.holdsRun]) (by simp [setPhase, setRun])
      (by simp [setPhase, setRun, GraphPhase.holdsRun]) fun j hj => ?_
    simp [setPhase, setRun, hj]
  | decomposed hidle => exact h.congr (by simp [hidle]) fun i => Iff.rfl
  | finish | kept => exact h

theorem step_decomposed (h : s.RunSlot) (hd : s.state = .decomposed) {a : Act}
    (hs : s.step a = some s') : s'.state = .decomposed := by
  cases step_cases hs with
  | started _ hidle =>
    rw [hd] at hidle
    cases hidle
  | @released i how hp => exact absurd (by rw [hp]; rfl) (h.not_holds (by simp [hd]) i)
  | decomposed => rfl
  | _ => exact hd

/-! ### The bindings -/

/-- The guards that a call still has to bind or to hand to its tasks. -/
def Carries (s : Graph) (i : Nat) : GraphPhase → Prop
  | .created => ∀ a, s.tasks i a = none
  | .binding rest =>
    (∀ a, s.tasks i a = none) ∧ ∀ a ∈ s.actors.ids, a ∈ rest ∨ i ∈ s.guards a
  | .spawning rest => rest.Nodup ∧ ∀ a ∈ rest, s.tasks i a = none ∧ i ∈ s.guards a
  | _ => True

/-- An actor has at most one live guard, which is that of the run whose mailbox is bound, and a task
that has not ended has its guard. -/
structure Bound (s : Graph) : Prop where
  guards : ∀ a, s.guards a = [] ∧ s.bindings a = none ∨
    ∃ i, s.guards a = [i] ∧ s.bindings a = some i
  live : ∀ i a, s.live i a = true → i ∈ s.guards a
  carries : ∀ i, s.Carries i (s.runs i).phase
  writes : ∀ i a j, (i, a, some j) ∈ s.writes → i = j

theorem new_bound (actors : GraphActors) : (new actors).Bound where
  guards := fun _ => .inl ⟨rfl, rfl⟩
  live := fun _ _ h => by cases h
  carries := fun _ _ => rfl
  writes := fun _ _ _ h => by cases h

theorem Bound.of_mem (h : s.Bound) (hi : i ∈ s.guards a) :
    s.guards a = [i] ∧ s.bindings a = some i := by
  rcases h.guards a with ⟨hg, -⟩ | ⟨k, hg, hb⟩
  · rw [hg] at hi
    cases hi
  · rw [hg, List.mem_singleton] at hi
    subst hi
    exact ⟨hg, hb⟩

theorem Bound.setRun (h : s.Bound) {r : GraphRun} (hr : s.Carries i r.phase) :
    (s.setRun i r).Bound := by
  refine ⟨h.guards, h.live, fun j => ?_, h.writes⟩
  rw [setRun_runs]
  split
  · rename_i hj
    exact hj ▸ hr
  · exact h.carries j

/-- A guard is bound where no other is alive. -/
theorem Bound.bind (h : s.Bound) (hg : s.guards a = []) : (s.bind i a).Bound := by
  have hnone : s.bindings a = none := by
    rcases h.guards a with ⟨-, hb⟩ | ⟨k, hg', -⟩
    · exact hb
    · rw [hg] at hg'
      cases hg'
  have hmem (j : Nat) (b : String) (hj : j ∈ s.guards b) : j ∈ (s.bind i a).guards b := by
    simp only [Graph.bind, Function.update_apply]
    split
    · rename_i hb
      exact List.mem_cons_of_mem _ (hb ▸ hj)
    · exact hj
  refine ⟨fun b => ?_, fun j b hj => hmem j b (h.live j b hj), fun j => ?_, fun j b k hw => ?_⟩
  · by_cases hb : b = a
    · subst hb
      exact .inr ⟨i, by simp [Graph.bind, hg], by simp [Graph.bind]⟩
    · simpa [Graph.bind, hb] using h.guards b
  · have := h.carries j
    show (s.bind i a).Carries j (s.runs j).phase
    cases hp : (s.runs j).phase with
    | binding rest =>
      rw [hp] at this
      exact ⟨this.1, fun b hb => (this.2 b hb).imp_right (hmem j b)⟩
    | spawning rest =>
      rw [hp] at this
      exact ⟨this.1, fun b hb => ⟨(this.2 b hb).1, hmem j b (this.2 b hb).2⟩⟩
    | created =>
      rw [hp] at this
      exact this
    | _ => trivial
  · simp only [Graph.bind, hnone, List.mem_cons, Prod.mk.injEq, reduceCtorEq, and_false,
      false_or] at hw
    exact h.writes j b k hw

theorem Bound.setTask (h : s.Bound) {task : GraphTask} (hi : i ∈ s.guards a)
    (hc : ∀ rest, (s.runs i).phase = .spawning rest → a ∉ rest)
    (hp : (s.runs i).phase ≠ .created ∧ ∀ rest, (s.runs i).phase ≠ .binding rest) :
    (s.setTask i a task).Bound := by
  have htasks (j : Nat) (b : String) (hne : ¬ (j = i ∧ b = a)) :
      (s.setTask i a task).tasks j b = s.tasks j b := by
    by_cases hj : j = i
    · subst hj
      simp [Graph.setTask, show b ≠ a from fun hb => hne ⟨rfl, hb⟩]
    · simp [Graph.setTask, hj]
  refine ⟨h.guards, fun j b hj => ?_, fun j => ?_, h.writes⟩
  · by_cases hne : j = i ∧ b = a
    · obtain ⟨rfl, rfl⟩ := hne
      exact hi
    · simp only [Graph.live, htasks j b hne] at hj
      exact h.live j b hj
  · have := h.carries j
    show (s.setTask i a task).Carries j (s.runs j).phase
    by_cases hj : j = i
    · subst hj
      cases hq : (s.runs j).phase with
      | created => exact absurd hq hp.1
      | binding rest => exact absurd hq (hp.2 rest)
      | spawning rest =>
        rw [hq] at this
        refine ⟨this.1, fun b hb => ⟨?_, (this.2 b hb).2⟩⟩
        rw [htasks j b fun ⟨_, hba⟩ => hc rest hq (hba ▸ hb)]
        exact (this.2 b hb).1
      | _ => trivial
    · have hrow : (s.setTask i a task).tasks j = s.tasks j := funext fun b => htasks j b fun hne => hj hne.1
      cases hq : (s.runs j).phase with
      | created | binding rest | spawning rest =>
        rw [hq] at this
        simp only [Carries, hrow]
        exact this
      | _ => trivial

theorem Bound.finish (h : s.Bound) {task task' : GraphTask} (ht : s.tasks i a = some task)
    (ho : task.outcome = none) (ho' : task'.outcome.isSome) :
    ((s.clear i a).setTask i a task').Bound := by
  have hi : i ∈ s.guards a := h.live i a (by simp [Graph.live, ht, ho])
  obtain ⟨hg, hb⟩ := h.of_mem hi
  have hother (j : Nat) (b : String) (hj : j ∈ s.guards b) (hne : ¬ (j = i ∧ b = a)) :
      j ∈ (s.clear i a).guards b := by
    simp only [Graph.clear, Function.update_apply]
    split
    · rename_i hba
      subst hba
      rw [hg, List.mem_singleton] at hj
      exact absurd ⟨hj, rfl⟩ hne
    · exact hj
  have htasks (j : Nat) (b : String) (hne : ¬ (j = i ∧ b = a)) :
      ((s.clear i a).setTask i a task').tasks j b = s.tasks j b := by
    by_cases hj : j = i
    · subst hj
      simp [Graph.setTask, Graph.clear, show b ≠ a from fun hb => hne ⟨rfl, hb⟩]
    · simp [Graph.setTask, Graph.clear, hj]
  refine ⟨fun b => ?_, fun j b hj => ?_, fun j => ?_, fun j b k hw => ?_⟩
  · by_cases hba : b = a
    · subst hba
      exact .inl ⟨by simp [Graph.setTask, Graph.clear, hg], by simp [Graph.setTask, Graph.clear]⟩
    · simpa [Graph.setTask, Graph.clear, hba] using h.guards b
  · by_cases hne : j = i ∧ b = a
    · obtain ⟨rfl, rfl⟩ := hne
      simp only [Graph.live, Graph.setTask, Function.update_self, Option.any_some] at hj
      rw [Option.isNone_iff_eq_none.1 hj] at ho'
      cases ho'
    · simp only [Graph.live, htasks j b hne] at hj
      exact hother j b (h.live j b hj) hne
  · have := h.carries j
    show ((s.clear i a).setTask i a task').Carries j (s.runs j).phase
    have hrun (b : String) (hj : s.tasks j b = none) : ¬ (j = i ∧ b = a) := by
      rintro ⟨rfl, rfl⟩
      rw [ht] at hj
      cases hj
    cases hq : (s.runs j).phase with
    | created =>
      rw [hq] at this
      intro b
      rw [htasks j b (hrun b (this b))]
      exact this b
    | binding rest =>
      rw [hq] at this
      refine ⟨fun b => ?_, fun b hb => (this.2 b hb).imp_right fun hj =>
        hother j b hj (hrun b (this.1 b))⟩
      rw [htasks j b (hrun b (this.1 b))]
      exact this.1 b
    | spawning rest =>
      rw [hq] at this
      refine ⟨this.1, fun b hb => ?_⟩
      obtain ⟨hn, hj⟩ := this.2 b hb
      rw [htasks j b (hrun b hn)]
      exact ⟨hn, hother j b hj (hrun b hn)⟩
    | _ => trivial
  · simp only [Graph.setTask, Graph.clear, hb, List.mem_cons, Prod.mk.injEq, Option.some.injEq] at hw
    rcases hw with ⟨rfl, -, rfl⟩ | hw
    · rfl
    · exact h.writes j b k hw

/-- The tasks of a run are aborted; none ends by that. -/
theorem Bound.abortAll (h : s.Bound) : (s.abortAll i).Bound := by
  have htask (j : Nat) (b : String) : (s.abortAll i).tasks j b = s.tasks j b ∨
      (s.abortAll i).tasks j b = (s.tasks j b).map ({ · with abortRequested := true }) := by
    by_cases hj : j = i
    · subst hj
      simp only [Graph.abortAll, Function.update_self]
      split
      · exact .inr rfl
      · exact .inl rfl
    · simp [Graph.abortAll, hj]
  have hnone (j : Nat) (b : String) (hn : s.tasks j b = none) : (s.abortAll i).tasks j b = none := by
    rcases htask j b with ht | ht <;> rw [ht, hn]
    rfl
  refine ⟨h.guards, fun j b hj => h.live j b ?_, fun j => ?_, h.writes⟩
  · rcases htask j b with ht | ht
    · simpa only [Graph.live, ht] using hj
    · simpa only [Graph.live, ht, Option.any_map] using hj
  · have := h.carries j
    show (s.abortAll i).Carries j (s.runs j).phase
    cases hq : (s.runs j).phase with
    | created =>
      rw [hq] at this
      exact fun b => hnone j b (this b)
    | binding rest =>
      rw [hq] at this
      exact ⟨fun b => hnone j b (this.1 b), this.2⟩
    | spawning rest =>
      rw [hq] at this
      exact ⟨this.1, fun b hb => ⟨hnone j b (this.2 b hb).1, (this.2 b hb).2⟩⟩
    | _ => trivial

theorem loop_carries (r : GraphRun) : s.Carries i r.loop.phase := by
  simp only [GraphRun.loop]
  split <;> trivial

theorem Bound.spawn (h : s.Bound) {rest : List String}
    (hp : (s.runs i).phase = .spawning (a :: rest)) : (s.spawn i a rest).Bound := by
  have hc := h.carries i
  rw [hp] at hc
  obtain ⟨hnodup, hc⟩ := hc
  have h' : (s.setRun i { s.runs i with
      phase := .spawning rest, joinSet := (s.runs i).joinSet ++ [a] }).Bound :=
    h.setRun ⟨(List.nodup_cons.1 hnodup).2, fun b hb => hc b (List.mem_cons_of_mem _ hb)⟩
  have hphase : (s.setRun i { s.runs i with
      phase := .spawning rest, joinSet := (s.runs i).joinSet ++ [a] }).runs i =
      { s.runs i with phase := .spawning rest, joinSet := (s.runs i).joinSet ++ [a] } := by
    rw [setRun_runs, if_pos rfl]
  refine h'.setTask (hc a List.mem_cons_self).2 (fun rest' hr => ?_) ?_
  · rw [hphase] at hr
    cases hr
    exact (List.nodup_cons.1 hnodup).1
  · rw [hphase]
    exact ⟨nofun, nofun⟩

theorem Bound.step (h : s.Bound) {a : Act} (hok : s.bindsAlone a = true) (hs : s.step a = some s') :
    s'.Bound := by
  cases step_cases hs with
  | @started i hp _ =>
    have hnone := h.carries i
    rw [hp] at hnone
    have h' : Bound { s with state := .running, started := s.started + 1 } :=
      ⟨h.guards, h.live, h.carries, h.writes⟩
    exact h'.setRun ⟨hnone, fun b hb => .inl hb⟩
  | @bindEnd i hp =>
    have hc := h.carries i
    rw [hp] at hc
    exact h.setRun ⟨s.actors.nodup, fun b hb => ⟨hc.1 b, (hc.2 b hb).resolve_left List.not_mem_nil⟩⟩
  | @bind i a rest hp =>
    have hc := h.carries i
    rw [hp] at hc
    simp only [bindsAlone, hp, List.isEmpty_iff] at hok
    refine (h.bind hok).setRun ⟨hc.1, fun b hb => ?_⟩
    by_cases hba : b = a
    · subst hba
      exact .inr (by simp [Graph.bind])
    · refine (hc.2 b hb).imp (fun hm => (List.mem_cons.1 hm).resolve_left hba) fun hm => ?_
      simpa [Graph.bind, hba] using hm
  | spawn hp => exact h.spawn hp
  | spawnEnd | join => exact h.setRun (loop_carries _)
  | refused | joinPending | select | shutdown | dropped => exact h.setRun trivial
  | released =>
    have h' : Bound { s with state := .idle } := ⟨h.guards, h.live, h.carries, h.writes⟩
    exact h'.setRun trivial
  | aborted => exact h.abortAll.setRun trivial
  | finish ht => exact h.finish ht rfl rfl
  | decomposed => exact ⟨h.guards, h.live, h.carries, h.writes⟩
  | kept => exact h

theorem Bound.stable (h : s.Bound) (hslot : s.RunSlot) : s.StableBindings := by
  refine ⟨hslot.unique, fun hd as s' hrun i => ?_, fun i a _ hl => (h.of_mem (h.live i a hl)).2,
    fun i a j hw => ?_⟩
  · have := hrun.invariant (I := fun s => s.RunSlot ∧ s.state = .decomposed) ⟨hslot, hd⟩
      fun _ _ _ h _ hs => ⟨h.1.step hs, step_decomposed h.1 h.2 hs⟩
    exact Bool.eq_false_iff.2 (this.1.not_holds (by simp [this.2]) i)
  · rw [h.writes i a j hw]
    exact Nat.lt_irrefl _

end

/-! ### Runs -/

/-- In every run in which no mailbox is bound while an earlier guard of its actor is alive, reruns find
stable bindings. -/
theorem run_stableBindings {actors : GraphActors} {as : List Act} {s : Graph}
    (hrun : Run step (fun s a => s.bindsAlone a = true) (new actors) as s) : s.StableBindings := by
  have hslot := hrun.invariant (new_runSlot actors) fun _ _ _ h _ hs => h.step hs
  exact (hrun.invariant (new_bound actors) fun _ _ _ h hok hs => h.step hok hs).stable hslot

/-- A graph with one actor. -/
def oneActor : GraphActors := ⟨["a"], List.nodup_singleton "a"⟩

/-- The task of a dropped run has gone before the next run starts. -/
theorem run_stableBindings_rerun : ∃ s, StableBindings s ∧
    ((s.runs 0).phase.holdsRun, s.live 1 "a", s.bindings "a") = (false, true, some 1) := by
  have hex : ∃ s, Run step (fun s a => s.bindsAlone a = true) (new oneActor)
      [.run 0, .run 0, .run 0, .run 0, .run 0, .drop 0, .run 0, .finish 0 "a" .cancelled,
        .run 1, .run 1, .run 1, .run 1] s ∧
      ((s.runs 0).phase.holdsRun, s.live 1 "a", s.bindings "a") = (false, true, some 1) :=
    run_of_execIf_map (by decide +kernel)
  obtain ⟨s, hs, hlive⟩ := hex
  exact ⟨s, run_stableBindings hs, hlive⟩

/-- A run is dropped, the next one binds its mailbox, and only then does the aborted task of the first
run go: its guard clears the mailbox of the second. -/
theorem cleared_binding_reached : ∃ s, AnyRun step (new oneActor)
    [.run 0, .run 0, .run 0, .run 0, .run 0, .drop 0, .run 0, .run 1, .run 1, .run 1, .run 1,
      .finish 0 "a" .cancelled] s ∧ ¬ s.StableBindings := by
  have hex : ∃ s, AnyRun step (new oneActor)
      [.run 0, .run 0, .run 0, .run 0, .run 0, .drop 0, .run 0, .run 1, .run 1, .run 1, .run 1,
        .finish 0 "a" .cancelled] s ∧
      ((s.runs 1).phase.holdsRun, s.live 1 "a", s.bindings "a") = (true, true, none) :=
    anyRun_of_exec (by decide +kernel)
  obtain ⟨s, hs, hlive⟩ := hex
  simp only [Prod.mk.injEq] at hlive
  refine ⟨s, hs, fun h => ?_⟩
  have := h.bound 1 "a" hlive.1 hlive.2.1
  rw [hlive.2.2] at this
  cases this

end Graph
end TokioSupervisor
