import TokioSupervisor.Runtime.Updates
import Mathlib.Logic.Relation

/-!
# The loops of the synchronous methods

The initial spawns, the respawn loop of a group restart, and the two sweeps of a drain
(`cancel_running_children`, `abort_matching_children`). Each is a chain of the single updates, so a
relation that contains the updates contains the loop.
-/

namespace TokioSupervisor
open Lib Relation

/-- The respawn loop of a group restart spawns this entry. -/
def ChildEntry.respawns (e : ChildEntry) : Bool :=
  e.membership == .active && e.runtime.spec.restart != .temporary

/-- An active child whose exit asks for a restart is no temporary one. -/
theorem ChildEntry.respawns_of_shouldRestart {e : ChildEntry} {isFailure : Bool}
    (hm : e.membership = .active) (hr : e.runtime.spec.restart.shouldRestart isFailure = true) :
    e.respawns = true := by
  unfold ChildEntry.respawns
  cases hsp : e.runtime.spec.restart <;> simp_all [Restart.shouldRestart]

/-- What `cancel_running_children` does to an entry. -/
def ChildEntry.stopping (e : ChildEntry) : ChildEntry := if e.counts then e.cancelled else e

/-- Counted entries are exactly those that `cancel_running_children` marks. -/
theorem ChildEntry.Ok.counts_iff {e : ChildEntry} (h : e.Ok) :
    e.counts = true ↔ e.runtime.state = .running ∨ e.runtime.state = .starting := by
  have := h.membership
  simp [ChildEntry.counts, countsAsRunning, bne_iff_ne.2 this, or_comm]

namespace SupervisorRuntime
variable {rt : SupervisorRuntime}

/-- Every entry has run before. -/
def Started (rt : SupervisorRuntime) : Prop :=
  ∀ key e, rt.children.get key = some e → e.runtime.hasStarted = true

theorem Started.spawned (h : rt.Started) {key : ChildKey} {e : ChildEntry}
    (he : rt.children.get key = some e) : (rt.spawned key e).Started := by
  intro k f hf
  by_cases hk : k = key
  · subst hk; rw [spawned_get he] at hf; cases hf; rfl
  · rw [spawned_get_ne he hk] at hf; exact h k f hf

/-! ### The initial spawns -/

/-- After the first loop of `run` over the keys. -/
def spawnedAll (rt : SupervisorRuntime) : List ChildKey → SupervisorRuntime
  | [] => rt
  | key :: rest =>
    match rt.children.get key with
    | some e => (rt.spawned key e).spawnedAll rest
    | none => rt.spawnedAll rest

theorem Wf.spawnInitial (h : rt.Wf) {keys : List ChildKey}
    (hkeys : ∀ key ∈ keys, ∃ e, rt.children.get key = some e) :
    rt.spawnInitial keys = .ok (rt.spawnedAll keys, .ok ()) := by
  induction keys generalizing rt with
  | nil => rfl
  | cons key rest ih =>
    obtain ⟨e, he⟩ := hkeys key List.mem_cons_self
    have hrest : ∀ k ∈ rest, ∃ f, (rt.spawned key e).children.get k = some f := by
      intro k hk
      by_cases hkk : k = key
      · subst hkk; exact ⟨_, spawned_get he⟩
      · rw [spawned_get_ne he hkk]; exact hkeys k (List.mem_cons_of_mem _ hk)
    simp only [SupervisorRuntime.spawnInitial, h.spawnChild he, ok_bind, spawnedAll, he]
    exact ih (h.spawned he) hrest

theorem Wf.spawnedAll (h : rt.Wf) (keys : List ChildKey) : (rt.spawnedAll keys).Wf := by
  induction keys generalizing rt with
  | nil => exact h
  | cons key rest ih =>
    simp only [SupervisorRuntime.spawnedAll]
    cases he : rt.children.get key with
    | none => exact ih h
    | some e => exact ih (h.spawned he)

/-- Each key is spawned from the entry it had before the loop. -/
theorem spawnedAll_chain {R : SupervisorRuntime → SupervisorRuntime → Prop} {keys : List ChildKey}
    (hnd : keys.Nodup)
    (hR : ∀ rt' key e, rt.children.get key = some e → rt'.children.get key = some e →
      R rt' (rt'.spawned key e)) : ReflTransGen R rt (rt.spawnedAll keys) := by
  suffices H : ∀ rt', (∀ key ∈ keys, rt'.children.get key = rt.children.get key) →
      ReflTransGen R rt' (rt'.spawnedAll keys) from H rt fun _ _ => rfl
  induction keys with
  | nil => intro _ _; exact .refl
  | cons key rest ih =>
    intro rt' hsame
    obtain ⟨hkey, hnd⟩ := List.nodup_cons.1 hnd
    simp only [spawnedAll]
    cases he : rt'.children.get key with
    | none => exact ih hnd rt' fun k hk => hsame k (List.mem_cons_of_mem _ hk)
    | some e =>
      have he₀ := hsame key List.mem_cons_self ▸ he
      refine .head (hR rt' key e he₀ he) (ih hnd _ fun k hk => ?_)
      rw [spawned_get_ne he fun hkk => hkey (hkk ▸ hk)]
      exact hsame k (List.mem_cons_of_mem _ hk)

/-! ### The respawn loop -/

/-- After the respawn loop over the keys. -/
def respawnedAll (rt : SupervisorRuntime) : List ChildKey → SupervisorRuntime
  | [] => rt
  | key :: rest =>
    match rt.children.get key with
    | some e => if e.respawns then (rt.restarted key e).respawnedAll rest else rt.respawnedAll rest
    | none => rt.respawnedAll rest

theorem Wf.respawnLoop (h : rt.Wf) (hst : rt.Started) {keys : List ChildKey}
    (hkeys : ∀ key ∈ keys, ∃ e, rt.children.get key = some e) :
    rt.respawnLoop keys = .ok (rt.respawnedAll keys, .ok ()) := by
  induction keys generalizing rt with
  | nil => rfl
  | cons key rest ih =>
    obtain ⟨e, he⟩ := hkeys key List.mem_cons_self
    have hrest := fun k hk => hkeys k (List.mem_cons_of_mem key hk)
    simp only [SupervisorRuntime.respawnLoop, index_eq he, ok_bind, respawnedAll, he]
    by_cases hr : e.respawns = true
    · have hskip : ¬ (e.membership ≠ .active ∨ e.runtime.spec.restart = .temporary) := by
        simp only [ChildEntry.respawns, Bool.and_eq_true, beq_iff_eq, bne_iff_ne] at hr
        rintro (h' | h')
        · exact h' hr.1
        · exact hr.2 h'
      have hold : e.oldGeneration = some e.runtime.generation := by
        simp [ChildEntry.oldGeneration, hst key e he]
      have hrest' : ∀ k ∈ rest, ∃ f, (rt.restarted key e).children.get k = some f := by
        intro k hk
        by_cases hkk : k = key
        · subst hkk; exact ⟨_, spawned_get he⟩
        · obtain ⟨f, hf⟩ := hrest k hk
          exact ⟨f, (spawned_get_ne he hkk).trans hf⟩
      rw [if_neg hskip, if_pos hr, h.spawnChild he]
      simp only [ok_bind, hold, h.sendRestartEvent he]
      exact ih (h.restarted he) (hst.spawned he) hrest'
    · have hskip : e.membership ≠ .active ∨ e.runtime.spec.restart = .temporary := by
        simp only [ChildEntry.respawns, Bool.and_eq_true, beq_iff_eq, bne_iff_ne] at hr
        by_contra hc
        push Not at hc
        exact hr hc
      rw [if_pos hskip, if_neg hr]
      exact ih h hst hrest

theorem respawnedAll_chain {R : SupervisorRuntime → SupervisorRuntime → Prop} {keys : List ChildKey}
    (hnd : keys.Nodup)
    (hR : ∀ rt' key e, rt.children.get key = some e → rt'.children.get key = some e →
      e.respawns = true → R rt' (rt'.restarted key e)) :
    ReflTransGen R rt (rt.respawnedAll keys) := by
  suffices H : ∀ rt', (∀ key ∈ keys, rt'.children.get key = rt.children.get key) →
      ReflTransGen R rt' (rt'.respawnedAll keys) from H rt fun _ _ => rfl
  induction keys with
  | nil => intro _ _; exact .refl
  | cons key rest ih =>
    intro rt' hsame
    obtain ⟨hkey, hnd⟩ := List.nodup_cons.1 hnd
    have hrest := fun k hk => hsame k (List.mem_cons_of_mem key hk)
    simp only [respawnedAll]
    cases he : rt'.children.get key with
    | none => exact ih hnd rt' hrest
    | some e =>
      have he₀ := hsame key List.mem_cons_self ▸ he
      simp only
      split
      · rename_i hr
        refine .head (hR rt' key e he₀ he hr) (ih hnd _ fun k hk => ?_)
        exact (spawned_get_ne he fun hkk => hkey (hkk ▸ hk)).trans (hrest k hk)
      · exact ih hnd rt' hrest

/-! ### `cancel_running_children` -/

/-- The marking loop changes the entries at the given keys only, and counts those it marks. -/
theorem Wf.cancelRunningLoop (h : rt.Wf) {keys : List ChildKey} (hnd : keys.Nodup) :
    ∃ children n, rt.cancelRunningLoop keys = ({ rt with children }, n) ∧
      (∀ k, children.get k = if k ∈ keys then (rt.children.get k).map ChildEntry.stopping
        else rt.children.get k) ∧
      children.count ChildEntry.counts + n = rt.children.count ChildEntry.counts ∧
      children.count ChildEntry.live = rt.children.count ChildEntry.live ∧
      ({ rt with children } : SupervisorRuntime).Wf := by
  induction keys generalizing rt with
  | nil => exact ⟨rt.children, 0, rfl, by simp, rfl, rfl, h⟩
  | cons key rest ih =>
    obtain ⟨hkey, hnd⟩ := List.nodup_cons.1 hnd
    rw [SupervisorRuntime.cancelRunningLoop]
    cases he : rt.children.get key with
    | none =>
      obtain ⟨C, n, heq, hget, hc, hl, hwf⟩ := ih h hnd
      refine ⟨C, n, by simpa using heq, fun k => ?_, hc, hl, hwf⟩
      simp only [hget, List.mem_cons]
      by_cases hk : k = key
      · subst hk; simp [hkey, he]
      · simp [hk]
    | some e =>
      by_cases hrun : e.runtime.state = .running ∨ e.runtime.state = .starting
      · have hcounts := (h.ok he).counts_iff.2 hrun
        have hok : e.cancelled.Ok :=
          (h.ok he).cancelled (by rcases hrun with hr | hr <;> rw [hr] <;> exact nofun)
        have hset : (rt.setEntry key e.cancelled).Wf := h.setEntry he rfl hok
        obtain ⟨C, n, heq, hget, hc, hl, hwf⟩ := ih hset hnd
        have hmod := modifyEntry_eq he fun entry =>
          { entry with runtime := { entry.runtime with state := .stopping } }
        refine ⟨C, n + 1, ?_, fun k => ?_, ?_, ?_, hwf⟩
        · simp only [if_pos hrun]
          rw [hmod]
          exact congrArg (fun p : SupervisorRuntime × Nat => (p.1, p.2 + 1)) heq
        · simp only [hget, List.mem_cons, SupervisorRuntime.setEntry]
          by_cases hk : k = key
          · subst hk
            simp [hkey, Slab.get_set_self he, he, ChildEntry.stopping, hcounts]
          · simp [hk, Slab.get_set_ne he _ hk]
        · have hcc := Slab.count_set ChildEntry.counts he e.cancelled
          have hnot : e.cancelled.counts = false := by
            simp [ChildEntry.counts, ChildEntry.cancelled, countsAsRunning]
          simp only [SupervisorRuntime.setEntry] at hc
          rw [hnot, hcounts] at hcc
          simp only [if_true, Bool.false_eq_true, if_false] at hcc
          omega
        · have hll := Slab.count_set ChildEntry.live he e.cancelled
          have hlive : e.cancelled.live = e.live := rfl
          simp only [SupervisorRuntime.setEntry] at hl
          rw [hlive] at hll
          omega
      · obtain ⟨C, n, heq, hget, hc, hl, hwf⟩ := ih h hnd
        have hcounts : e.counts = false := by
          rw [← Bool.not_eq_true]; exact mt (h.ok he).counts_iff.1 hrun
        refine ⟨C, n, by simpa [hrun] using heq, fun k => ?_, hc, hl, hwf⟩
        simp only [hget, List.mem_cons]
        by_cases hk : k = key
        · subst hk; simp [hkey, he, ChildEntry.stopping, hcounts]
        · simp [hk]

theorem Wf.cancelRunningChildren (h : rt.Wf) :
    ∃ children n,
      rt.cancelRunningChildren =
        { ({ rt with children } : SupervisorRuntime).subRunning n with
          tokens := rt.tokens.cancel rt.groupToken }.log .groupCancelled ∧
      (∀ k, children.get k = (rt.children.get k).map ChildEntry.stopping) ∧
      children.count ChildEntry.counts + n = rt.children.count ChildEntry.counts ∧
      children.count ChildEntry.live = rt.children.count ChildEntry.live ∧
      rt.cancelRunningChildren.Wf := by
  obtain ⟨C, n, heq, hget, hc, hl, hwf⟩ :=
    h.cancelRunningLoop (List.nodup_reverse.2 h.nodup)
  have hrt : rt.cancelRunningChildren =
      { ({ rt with children := C } : SupervisorRuntime).subRunning n with
        tokens := rt.tokens.cancel rt.groupToken }.log .groupCancelled := by
    simp only [SupervisorRuntime.cancelRunningChildren, heq]
    rfl
  refine ⟨C, n, hrt, fun k => ?_, hc, hl, ?_⟩
  · simp only [hget, List.mem_reverse]
    split
    · rfl
    · rename_i hk
      have hnone : rt.children.get k = none :=
        Option.eq_none_iff_forall_ne_some.2 fun e he => hk ((h.order k).2 ⟨e, he⟩)
      rw [hnone]; rfl
  · rw [hrt]
    exact hwf

/-! ### Names -/

theorem intercalate_isEmpty {sep : String} {l : List String} (h : (sep.intercalate l).isEmpty = true)
    (hl : ∀ s ∈ l, s.isEmpty = false) : l = [] := by
  match l, hl with
  | [], _ => rfl
  | [s], hl =>
    rw [String.intercalate_singleton, hl s List.mem_cons_self] at h
    cases h
  | s :: t :: rest, hl =>
    have := hl s List.mem_cons_self
    rw [String.intercalate_cons_cons] at h
    simp_all

theorem Wf.collectChildNames_isEmpty (h : rt.Wf) (predicate : ChildEntry → Bool) :
    (rt.collectChildNames predicate).isEmpty = true ↔ rt.children.iter.filter predicate = [] := by
  refine ⟨fun hn => List.map_eq_nil_iff.1 (intercalate_isEmpty hn fun id hid => ?_), fun hn => ?_⟩
  · obtain ⟨e, he, rfl⟩ := List.mem_map.1 hid
    obtain ⟨key, hk⟩ := Slab.mem_iter.1 (List.mem_of_mem_filter he)
    exact (h.ok hk).id
  · rw [collectChildNames, hn]
    rfl

theorem Wf.cooperativeTimeoutNames_isEmpty (h : rt.Wf) (hn : rt.activeTaskNames.isEmpty = true) :
    rt.cooperativeTimeoutNames.isEmpty = true := by
  rw [activeTaskNames, h.collectChildNames_isEmpty, List.filter_eq_nil_iff] at hn
  rw [cooperativeTimeoutNames, h.collectChildNames_isEmpty, List.filter_eq_nil_iff]
  intro e he hlate
  rw [Bool.and_eq_true] at hlate
  exact hn e he hlate.1

/-! ### `abort_matching_children` -/

/-- The sweep aborts active entries that meet the predicate, one by one. -/
theorem abortMatchingChildren_chain {R : SupervisorRuntime → SupervisorRuntime → Prop}
    (predicate : ChildEntry → Bool)
    (hR : ∀ rt' key e, rt.children.get key = some e → e.runtime.state.isActive = true →
      predicate e = true → rt'.children = rt.children → R rt' (rt'.abortedChild e)) :
    ReflTransGen R rt (rt.abortMatchingChildren predicate) := by
  refine (List.foldlRecOn (motive := fun rt' => rt'.children = rt.children ∧ ReflTransGen R rt rt')
    rt.children.iter _ ⟨rfl, .refl⟩ fun rt' h e he => ?_).2
  obtain ⟨hsame, hchain⟩ := h
  obtain ⟨key, hkey⟩ := Slab.mem_iter.1 he
  have hstep := hR rt' key e hkey
  unfold abortedChild at hstep
  cases ha : e.runtime.abortHandle with
  | none => exact ⟨hsame, hchain⟩
  | some task =>
    simp only [ha] at hstep ⊢
    split
    · rename_i hcond
      simp only [Bool.and_eq_true] at hcond
      exact ⟨hsame, hchain.tail (hstep hcond.1.2 hcond.2 hsame)⟩
    · exact ⟨hsame, hchain⟩

/-- A relation that composes contains its chains. -/
theorem rel_of_chain {R : SupervisorRuntime → SupervisorRuntime → Prop} {rt' : SupervisorRuntime}
    (h : ReflTransGen R rt rt') (hrefl : ∀ rt, R rt rt)
    (htrans : ∀ rt₁ rt₂ rt₃, R rt₁ rt₂ → R rt₂ rt₃ → R rt₁ rt₃) : R rt rt' := by
  have : Std.Refl R := ⟨hrefl⟩
  have : IsTrans SupervisorRuntime R := ⟨htrans⟩
  rwa [reflTransGen_eq_self] at h

theorem abortMatchingChildren_field {β : Type} (f : SupervisorRuntime → β)
    (hf : ∀ (rt : SupervisorRuntime) e, f (rt.abortedChild e) = f rt) (predicate : ChildEntry → Bool) :
    f (rt.abortMatchingChildren predicate) = f rt := by
  have hchain : ReflTransGen (fun rt₁ rt₂ => f rt₂ = f rt₁) rt (rt.abortMatchingChildren predicate) :=
    abortMatchingChildren_chain predicate fun rt' _ e _ _ _ _ => hf rt' e
  exact rel_of_chain hchain (fun _ => rfl) fun _ _ _ h h' => h'.trans h

theorem abortMatchingChildren_children (predicate : ChildEntry → Bool) :
    (rt.abortMatchingChildren predicate).children = rt.children :=
  abortMatchingChildren_field (·.children) (fun _ _ => abortedChild_children _) predicate

end SupervisorRuntime
end TokioSupervisor
