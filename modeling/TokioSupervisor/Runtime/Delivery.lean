import TokioSupervisor.Runtime.Linked
import TokioSupervisor.Runtime.Slots

/-!
# Nested snapshots are delivered

The invariant of the exchange is an obligation for each current task (`Handed`): while the entry's
snapshot is not the last one forwarded, the flag is set, or a call of `forward` is about to set it, or
the handler is about to read the slot; and while the flag is set, a notification of the incarnation is on
its way (`Pending`). The handler clears the flag before it reads the slot, so a snapshot stored in
between is announced again. A notification of another incarnation is dropped, or, if the numbers are the
same, makes the handler read the slot of the current one.
-/

namespace TokioSupervisor
open Lib SupervisorRuntime

/-! ### Obligations -/

namespace Nesting

/-- Task `i`, whose notification is `n`, has one on its way, or is about to send it. -/
inductive Pending (s : Nesting) (i : TaskId) (n : NestedSnapshotNotification) : Prop
  | claimed (h : s.phase i = .claimed)
  | queued (h : n ∈ s.c.rt.nestedSnapshotRx.queue)
  | deferred (h : (i, n) ∈ s.deferred)
  | received (h : s.handling = some (.received n))

theorem Pending.mono {s s' : Nesting} {i : TaskId} {n : NestedSnapshotNotification} (h : s.Pending i n)
    (hphase : s.phase i = .claimed → s'.phase i = .claimed)
    (hqueue : n ∈ s.c.rt.nestedSnapshotRx.queue → n ∈ s'.c.rt.nestedSnapshotRx.queue)
    (hdeferred : (i, n) ∈ s.deferred → (i, n) ∈ s'.deferred)
    (hhandling : s.handling = some (.received n) → s'.handling = some (.received n)) :
    s'.Pending i n := by
  cases h with
  | claimed hp => exact .claimed (hphase hp)
  | queued hm => exact .queued (hqueue hm)
  | deferred hm => exact .deferred (hdeferred hm)
  | received hr => exact .received (hhandling hr)

/-- The last snapshot of task `i` is in the entry `e` at `key`, or will be. -/
structure Handed (s : Nesting) (key : ChildKey) (e : ChildEntry) (i : TaskId) : Prop where
  latest : s.latest i = (s.forwarded i).head?
  own : ∀ snapshot, e.nestedSnapshot = some snapshot → snapshot ∈ s.forwarded i
  pending : s.c.ctrl.ended = false → s.queued i = true →
    s.Pending i (e.incarnation key).notification
  stored : s.c.ctrl.ended = false → e.nestedSnapshot = (s.forwarded i).head? ∨ s.queued i = true ∨
    s.phase i = .replaced ∨ s.handling = some (.dequeued key i)

/-- What the steps of the exchange and those of the run keep. -/
structure Sound (s : Nesting) : Prop where
  linked : s.c.rt.Linked
  unspawned : ∀ i, s.c.rt.joinSet.nextId ≤ i → s.phase i = .idle ∧ s.forwarded i = []
  handed : ∀ key e i, s.c.rt.children.get key = some e → e.runtime.abortHandle = some i →
    s.Handed key e i
  stopped : ∀ key e, s.c.rt.children.get key = some e → e.runtime.abortHandle = none →
    e.nestedSnapshot = none

/-- Where the handler and the senders stand. -/
structure Placed (s : Nesting) : Prop where
  refused : ∀ i, s.phase i = .refused → s.c.ctrl.ended = true
  select : ∀ x, s.handling = some x → s.c.ctrl = .await .runSelect .nil
  target : ∀ key i, s.handling = some (.dequeued key i) →
    ∃ e, s.c.rt.children.get key = some e ∧ e.runtime.abortHandle = some i

/-- The obligation goes on where the state of task `i` is as before, and nothing on the way is lost. -/
theorem Handed.carry {s s' : Nesting} {key : ChildKey} {e e' : ChildEntry} {i : TaskId}
    (h : s.Handed key e i) (hsnap : e'.nestedSnapshot = e.nestedSnapshot)
    (hinc : e'.incarnation key = e.incarnation key) (hstate : s'.c.rt.nestedStates[i]? = s.c.rt.nestedStates[i]?)
    (hforw : s'.forwarded i = s.forwarded i) (hended : s'.c.ctrl.ended = false → s.c.ctrl.ended = false)
    (hpend : s.c.ctrl.ended = false → s.Pending i (e.incarnation key).notification →
      s'.Pending i (e.incarnation key).notification)
    (hphase : s.phase i = .replaced → s'.phase i = .replaced)
    (hhandling : s.handling = some (.dequeued key i) → s'.handling = some (.dequeued key i)) :
    s'.Handed key e' i := by
  have hqueued : s'.queued i = s.queued i := by simp only [Nesting.queued, hstate]
  have hlatest : s'.latest i = s.latest i := by simp only [Nesting.latest, hstate]
  refine ⟨?_, fun snapshot hs => ?_, fun hc hq => ?_, fun hc => ?_⟩
  · rw [hlatest, hforw]
    exact h.latest
  · rw [hforw]
    exact h.own snapshot (hsnap ▸ hs)
  · rw [hinc]
    exact hpend (hended hc) (h.pending (hended hc) (hqueued ▸ hq))
  · rw [hsnap, hforw, hqueued]
    exact (h.stored (hended hc)).imp_right (.imp_right (.imp hphase hhandling))

theorem Sound.delivered {s : Nesting} (h : s.Sound) : s.Delivered := by
  refine ⟨fun key e i hc he hi hset => ?_, fun key e snapshot he hsnap => ?_⟩
  · have hh := h.handed key e i he hi
    have hnot : s.queued i ≠ true := by
      intro hq
      cases hh.pending hc hq with
      | claimed hp => exact absurd (hp.symm.trans hset.phase) nofun
      | queued hm => exact hset.queue hm
      | deferred hm => exact hset.deferred hm
      | received hr => exact absurd (hr.symm.trans hset.handling) nofun
    rcases hh.stored hc with heq | hq | hp | hr
    · exact heq
    · exact absurd hq hnot
    · exact absurd (hp.symm.trans hset.phase) nofun
    · exact absurd (hr.symm.trans hset.handling) nofun
  · cases hi : e.runtime.abortHandle with
    | none =>
      rw [h.stopped key e he hi] at hsnap
      cases hsnap
    | some i =>
      exact ⟨i, rfl, h.linked.spawned key e i he hi, (h.handed key e i he hi).own snapshot hsnap⟩

/-! ### Steps of the run -/

section
variable {s : Nesting} {c : Config} {rt : SupervisorRuntime}

theorem Sound.keep (h : s.Sound) (hk : KeepsNested s.c.rt rt) : (s.setRt rt).Sound := by
  have hqueue : rt.nestedSnapshotRx.queue = s.c.rt.nestedSnapshotRx.queue := by rw [hk.channel]
  refine ⟨h.linked.keep hk, fun i hi => h.unspawned i (hk.numbers.nextId ▸ hi), ?_, ?_⟩
  · intro key e' i he' hi
    rcases hk.entries key e' he' with ⟨-, -, ha⟩ | ⟨e, he, hsnap, -, ha, hinc⟩
    · rw [ha] at hi
      cases hi
    · have hh := h.handed key e i he (ha ▸ hi)
      exact hh.carry hsnap hinc (congrArg (·[i]?) hk.states) rfl id
        (fun _ hp => hp.mono id (hqueue ▸ ·) id id) id id
  · intro key e' he' hi
    rcases hk.entries key e' he' with ⟨hsnap, -, -⟩ | ⟨e, he, hsnap, -, ha, -⟩
    · exact hsnap
    · rw [hsnap]
      exact h.stopped key e he (ha ▸ hi)

theorem Sound.spawn (h : s.Sound) {key : ChildKey} {e : ChildEntry} (hs : Spawns c s.c.rt key e rt) :
    (s.setRt rt).Sound := by
  have hold {i : TaskId} (hi : i < s.c.rt.joinSet.nextId) :
      rt.nestedStates[i]? = s.c.rt.nestedStates[i]? := by
    rw [hs.nested.2, List.getElem?_append_left (h.linked.lengths ▸ hi)]
  have hnew : rt.nestedStates[s.c.rt.joinSet.nextId]? = some .empty := by
    rw [hs.nested.2, ← h.linked.lengths]
    exact List.getElem?_concat_length
  refine ⟨h.linked.spawn hs, fun i hi => h.unspawned i ?_, ?_, ?_⟩
  · have hi : rt.joinSet.nextId ≤ i := hi
    rw [hs.joinSet] at hi
    exact Nat.le_of_succ_le hi
  · intro k f i hf hi
    rcases hs.entries hf with ⟨rfl, token, rfl⟩ | hg
    · cases hi
      have hforw := (h.unspawned _ (Nat.le_refl _)).2
      refine ⟨?_, nofun, fun _ hq => ?_, fun _ => .inl ?_⟩
      · show (rt.nestedStates[s.c.rt.joinSet.nextId]?).bind (·.latest) = _
        rw [hnew, show (s.setRt rt).forwarded = s.forwarded from rfl, hforw]
        rfl
      · have hq : (rt.nestedStates[s.c.rt.joinSet.nextId]?).any (·.queued) = true := hq
        rw [hnew] at hq
        cases hq
      · rw [show (s.setRt rt).forwarded = s.forwarded from rfl, hforw]
        rfl
    · have hh := h.handed k f i hg hi
      have hqueue : rt.nestedSnapshotRx.queue = s.c.rt.nestedSnapshotRx.queue := by rw [hs.nested.1]
      exact hh.carry rfl rfl (hold (h.linked.lt hg hi)) rfl id
        (fun _ hp => hp.mono id (hqueue ▸ ·) id id) id id
  · intro k f hf hi
    rcases hs.entries hf with ⟨-, token, rfl⟩ | hg
    · cases hi
    · exact h.stopped k f hg hi

theorem Sound.finalize (h : s.Sound) {key : ChildKey} {e : ChildEntry}
    (he : s.c.rt.children.get key = some e) : (s.setRt (s.c.rt.finalized key e)).Sound := by
  have hget {k : ChildKey} {f : ChildEntry} (hf : (s.c.rt.finalized key e).children.get k = some f) :
      k ≠ key ∧ s.c.rt.children.get k = some f := by
    have hf : (s.c.rt.children.remove key).get k = some f := hf
    rw [Slab.get_remove] at hf
    split at hf
    · cases hf
    · rename_i hk
      exact ⟨Ne.symm hk, hf⟩
  refine ⟨h.linked.finalize key e, h.unspawned, ?_, fun k f hf => h.stopped k f (hget hf).2⟩
  intro k f i hf hi
  obtain ⟨hk, hf⟩ := hget hf
  refine (h.handed k f i hf hi).carry rfl rfl ?_ rfl id (fun _ hp => hp.mono id id id id) id id
  show (s.c.rt.finalized key e).nestedStates[i]? = s.c.rt.nestedStates[i]?
  simp only [SupervisorRuntime.finalized, SupervisorRuntime.deleted, emitted, log]
  split
  · rename_i j hj
    rw [h.linked.state key e he] at hj
    have hne : j ≠ i := by
      rintro rfl
      exact hk (h.linked.key_unique hf hi he hj)
    exact List.getElem?_modify_ne _ _ hne
  · rfl

theorem Sound.effect (h : s.Sound) (heff : NestedEffect c s.c.rt rt) : (s.setRt rt).Sound := by
  cases heff with
  | keeps hk => exact h.keep hk
  | spawned hs => exact h.spawn hs
  | @finalized rt₁ key e hk he => exact (h.keep hk).finalize he

/-- A step of the run that is no part of the exchange. -/
theorem Sound.base (h : s.Sound) (hs : s.c.Sane) {a : TokioSupervisor.Act} (ha : a.nests = false)
    (hstep : TokioSupervisor.step s.c a = some c) : { s with c }.Sound := by
  have hu := (step_rule hs hstep).updates hs.wf
  have hsound : (s.setRt c.rt).Sound :=
    (hu.invariant (I := fun rt => (s.setRt rt).Sound) hs.wf h fun rt rt' hwf hI hup =>
      hI.effect (s := s.setRt rt) (hup.nested hwf ha)).2
  refine ⟨hsound.linked, hsound.unspawned, fun key e i he hi => ?_, hsound.stopped⟩
  have hended : c.ctrl.ended = false → s.c.ctrl.ended = false := ended_of_step hstep
  exact (hsound.handed key e i he hi).carry rfl rfl rfl rfl hended
    (fun _ hp => hp.mono id id id id) id id

end

/-! ### Steps of `forward` -/

section
variable {s s' : Nesting} {i : TaskId}

theorem Sound.same (h : s.Sound) (hs : SameChildren s.c.rt s'.c.rt)
    (hun : ∀ j, s.c.rt.joinSet.nextId ≤ j → s'.phase j = s.phase j ∧ s'.forwarded j = s.forwarded j)
    (hh : ∀ key e j, s.c.rt.children.get key = some e → e.runtime.abortHandle = some j →
      s.Handed key e j → s'.Handed key e j) : s'.Sound := by
  refine ⟨h.linked.same hs, fun j hj => ?_, fun key e j he hj => ?_, fun key e he => ?_⟩
  · rw [hs.joinSet] at hj
    rw [(hun j hj).1, (hun j hj).2]
    exact h.unspawned j hj
  · rw [hs.children] at he
    exact hh key e j he hj (h.handed key e j he hj)
  · rw [hs.children] at he
    exact h.stopped key e he

theorem Sound.touch (h : s.Sound) (hlt : i < s.c.rt.joinSet.nextId) (hs : SameChildren s.c.rt s'.c.rt)
    (hctrl : s'.c.ctrl = s.c.ctrl)
    (hne : ∀ j, j ≠ i → s'.c.rt.nestedStates[j]? = s.c.rt.nestedStates[j]? ∧ s'.phase j = s.phase j ∧
      s'.forwarded j = s.forwarded j)
    (hpend : ∀ key e j, s.c.rt.children.get key = some e → e.runtime.abortHandle = some j → j ≠ i →
      s.c.ctrl.ended = false → s.Pending j (e.incarnation key).notification →
        s'.Pending j (e.incarnation key).notification)
    (hhandling : ∀ key j, s.handling = some (.dequeued key j) → s'.handling = some (.dequeued key j))
    (hi : ∀ key e, s.c.rt.children.get key = some e → e.runtime.abortHandle = some i →
      s.Handed key e i → s'.Handed key e i) : s'.Sound := by
  refine h.same hs (fun j hj => (hne j ?_).2) fun key e j he hj hh => ?_
  · rintro rfl
    exact Nat.lt_irrefl _ (Nat.lt_of_lt_of_le hlt hj)
  · by_cases hji : j = i
    · subst hji
      exact hi key e he hj hh
    · obtain ⟨hstate, hphase, hforw⟩ := hne j hji
      exact hh.carry rfl rfl hstate hforw (hctrl ▸ id) (hpend key e j he hj hji) (hphase ▸ id)
        (hhandling key j)

theorem Sound.running (h : s.Sound) {task : Task} (ht : s.running i = some task) :
    (task.info, i) ∈ spawns s.c.rt.trace := by
  obtain ⟨hf, -⟩ := Option.filter_eq_some_iff.1 ht
  have hid : task.id = i := by simpa using List.find?_some hf
  exact hid ▸ h.linked.tasks task (List.mem_of_find?_eq_some hf)

/-- The state of task `i` after a write, which others do not see. -/
theorem Sound.written (h : s.Sound) (hlt : i < s.c.rt.joinSet.nextId)
    (f : NestedSnapshotState → NestedSnapshotState) : ∃ state, s.c.rt.nestedStates[i]? = some state ∧
      (s.c.rt.modifyNestedState i f).nestedStates[i]? = some (f state) ∧
      ∀ j, j ≠ i → (s.c.rt.modifyNestedState i f).nestedStates[j]? = s.c.rt.nestedStates[j]? := by
  have hget := List.getElem?_eq_getElem (h.linked.lengths ▸ hlt)
  refine ⟨_, hget, ?_, fun j hj => List.getElem?_modify_ne _ _ (Ne.symm hj)⟩
  exact (List.getElem?_modify_eq ..).trans (congrArg (Option.map f) hget)

theorem Sound.replaced (h : s.Sound) {task : Task} (snapshot : SupervisorSnapshot)
    (hp : s.phase i = .idle) (ht : s.running i = some task) :
    { s.setRt (s.c.rt.modifyNestedState i ({ · with latest := some snapshot })) with
      phase := Function.update s.phase i .replaced
      forwarded := Function.update s.forwarded i (snapshot :: s.forwarded i) }.Sound := by
  have hlt := h.linked.spawnLt _ (h.running ht)
  obtain ⟨state, hget, hget', hother⟩ := h.written hlt ({ · with latest := some snapshot })
  refine h.touch hlt (.modify ..) rfl (fun j hj => ?_) (fun key e j he hj hji _ hpend => ?_)
    (fun _ _ => id) fun key e he hi hh => ⟨?_, fun x hx => ?_, fun hc hq => ?_, fun _ => ?_⟩
  · exact ⟨hother j hj, Function.update_of_ne hj _ _, Function.update_of_ne hj _ _⟩
  · exact hpend.mono (fun hc => (Function.update_of_ne hji _ _).trans hc) id id id
  · simp only [Nesting.latest, setRt, hget', Function.update_self]
    rfl
  · simp only [Function.update_self]
    exact List.mem_cons_of_mem _ (hh.own x hx)
  · simp only [Nesting.queued, setRt, hget', Option.any_some] at hq
    refine (hh.pending hc ?_).mono (fun hclaim => ?_) id id id
    · simp only [Nesting.queued, hget, Option.any_some, hq]
    · cases hp.symm.trans hclaim
  · exact .inr (.inr (.inl (Function.update_self ..)))

theorem Sound.spawnedOf (h : s.Sound) (hp : s.phase i ≠ .idle) : i < s.c.rt.joinSet.nextId := by
  by_contra hge
  exact hp (h.unspawned i (Nat.le_of_not_lt hge)).1

/-- The flag was set before: its notification is still on the way. -/
theorem Sound.queuedBefore (h : s.Sound) (hp : s.phase i = .replaced) :
    s.queued i = true → (s.setPhase i .idle).Sound := by
  intro hq
  have hlt := h.spawnedOf (i := i) (by rw [hp]; exact nofun)
  refine h.touch hlt ⟨rfl, rfl, rfl, rfl⟩ rfl (fun j hj => ⟨rfl, Function.update_of_ne hj _ _, rfl⟩)
    (fun key e j he hj hji _ hpend => ?_) (fun _ _ => id)
    fun key e he hi hh => ⟨hh.latest, hh.own, fun hc hq => ?_, fun _ => .inr (.inl hq)⟩
  · exact hpend.mono (fun hc => (Function.update_of_ne hji _ _).trans hc) id id id
  · refine (hh.pending hc hq).mono (fun hclaim => ?_) id id id
    cases hp.symm.trans hclaim

theorem Sound.claimed (h : s.Sound) (hp : s.phase i = .replaced) :
    ((s.setRt (s.c.rt.modifyNestedState i ({ · with queued := true }))).setPhase i .claimed).Sound := by
  have hlt := h.spawnedOf (i := i) (by rw [hp]; exact nofun)
  obtain ⟨state, hget, hget', hother⟩ := h.written hlt ({ · with queued := true })
  refine h.touch hlt (.modify ..) rfl (fun j hj => ⟨hother j hj, Function.update_of_ne hj _ _, rfl⟩)
    (fun key e j he hj hji _ hpend => ?_) (fun _ _ => id)
    fun key e he hi hh => ⟨?_, hh.own, fun _ _ => ?_, fun _ => .inr (.inl ?_)⟩
  · exact hpend.mono (fun hc => (Function.update_of_ne hji _ _).trans hc) id id id
  · have hlatest := hh.latest
    simp only [Nesting.latest, hget] at hlatest
    simp only [Nesting.latest, setPhase, setRt, hget']
    exact hlatest
  · exact .claimed (Function.update_self ..)
  · simp only [Nesting.queued, setPhase, setRt, hget', Option.any_some]

theorem Sound.posted (h : s.Sound) {task : Task} (hp : s.phase i = .claimed)
    (ht : s.running i = some task) (hs : SameChildren s.c.rt s'.c.rt) (hctrl : s'.c.ctrl = s.c.ctrl)
    (hstates : s'.c.rt.nestedStates = s.c.rt.nestedStates) (hforw : s'.forwarded = s.forwarded)
    (hphase : s'.phase = Function.update s.phase i .idle) (hhandling : s'.handling = s.handling)
    (hqueue : ∀ n, n ∈ s.c.rt.nestedSnapshotRx.queue → n ∈ s'.c.rt.nestedSnapshotRx.queue)
    (hdeferred : ∀ x, x ∈ s.deferred → x ∈ s'.deferred)
    (hpend : s'.Pending i task.info.notification) : s'.Sound := by
  have hinfo := h.running ht
  refine h.touch (h.linked.spawnLt _ hinfo) hs hctrl (fun j hj => ?_) (fun key e j he hj hji _ hpend => ?_)
    (fun _ _ hx => hhandling.trans hx) fun key e he hi hh => ?_
  · rw [hstates, hphase, hforw]
    exact ⟨rfl, Function.update_of_ne hj _ _, rfl⟩
  · refine hpend.mono (fun hc => ?_) (hqueue _) (hdeferred _) fun hx => hhandling.trans hx
    rw [hphase, Function.update_of_ne hji, hc]
  · have hlatest : s'.latest i = s.latest i := by simp only [Nesting.latest, hstates]
    have hqueued : s'.queued i = s.queued i := by simp only [Nesting.queued, hstates]
    refine ⟨?_, ?_, fun _ _ => ?_, fun hc => ?_⟩
    · rw [hlatest, hforw]
      exact hh.latest
    · rw [hforw]
      exact hh.own
    · rw [h.linked.info_unique (h.linked.spawned key e i he hi) hinfo]
      exact hpend
    · rw [hforw, hqueued, hhandling]
      refine (hh.stored (hctrl ▸ hc)).imp_right (.imp_right fun hx => .inr ?_)
      refine hx.resolve_left fun hrep => ?_
      cases hp.symm.trans hrep

theorem Sound.ended (h : s.Sound) (hend : s.c.ctrl.ended = true) (hs : SameChildren s.c.rt s'.c.rt)
    (hctrl : s'.c.ctrl = s.c.ctrl)
    (hun : ∀ j, s.c.rt.joinSet.nextId ≤ j → s'.phase j = s.phase j) (hforw : s'.forwarded = s.forwarded)
    (hlatest : ∀ j, s'.latest j = s.latest j) : s'.Sound := by
  refine h.same hs (fun j hj => ⟨hun j hj, congrFun hforw j⟩) fun key e j he hj hh => ?_
  have hnot : s'.c.ctrl.ended ≠ false := by rw [hctrl, hend]; exact nofun
  refine ⟨?_, ?_, fun hc => absurd hc hnot, fun hc => absurd hc hnot⟩
  · rw [hlatest, hforw]
    exact hh.latest
  · rw [hforw]
    exact hh.own

theorem latest_unqueued (s : Nesting) (i j : TaskId) :
    ((s.c.rt.modifyNestedState i ({ · with queued := false })).nestedStates[j]?).bind (·.latest) =
      s.latest j := by
  simp only [modifyNestedState, Nesting.latest, List.getElem?_modify]
  split
  · cases s.c.rt.nestedStates[j]? <;> rfl
  · simp

theorem Sound.unqueued (h : s.Sound) (hplaced : s.Placed) (hp : s.phase i = .refused) :
    ((s.setRt (s.c.rt.modifyNestedState i ({ · with queued := false }))).setPhase i .idle).Sound := by
  have hlt := h.spawnedOf (i := i) (by rw [hp]; exact nofun)
  refine h.ended (hplaced.refused i hp) (.modify ..) rfl (fun j hj => ?_) rfl (latest_unqueued s i)
  exact Function.update_of_ne (Nat.ne_of_gt (Nat.lt_of_lt_of_le hlt hj)) _ _

theorem Sound.sent (h : s.Sound) {k : Nat} {n : NestedSnapshotNotification}
    (hk : s.deferred[k]? = some (i, n)) : ({ s with deferred := s.deferred.eraseIdx k }.push n).Sound := by
  refine h.same ⟨rfl, rfl, rfl, rfl⟩ (fun _ _ => ⟨rfl, rfl⟩) fun key e j he hj hh => ?_
  refine hh.carry rfl rfl rfl rfl id (fun _ hpend => ?_) id id
  cases hpend with
  | claimed hp => exact .claimed hp
  | queued hm => exact .queued (List.mem_append_left _ hm)
  | deferred hm =>
    obtain ⟨m, hm⟩ := List.mem_iff_getElem?.1 hm
    by_cases hmk : m = k
    · rw [hmk, hk] at hm
      cases hm
      exact .queued (List.mem_append_right _ (List.mem_singleton_self _))
    · exact .deferred (List.mem_eraseIdx_iff_getElem?.2 ⟨m, hmk, hm⟩)
  | received hr => exact .received hr

/-! ### Steps of the handler -/

theorem Sound.received (h : s.Sound) {n : NestedSnapshotNotification}
    {rest : List NestedSnapshotNotification} (hnone : s.handling = none)
    (hq : s.c.rt.nestedSnapshotRx.queue = n :: rest) :
    { s.setRt { s.c.rt with nestedSnapshotRx :=
      { s.c.rt.nestedSnapshotRx with queue := rest } } with handling := some (.received n) }.Sound := by
  refine h.same ⟨rfl, rfl, rfl, rfl⟩ (fun _ _ => ⟨rfl, rfl⟩) fun key e j he hj hh => ?_
  have hhandling (x : Handling) (hx : s.handling = some x) : False := by
    rw [hnone] at hx
    cases hx
  refine hh.carry rfl rfl rfl rfl id (fun _ hpend => ?_) id fun hx => (hhandling _ hx).elim
  cases hpend with
  | claimed hp => exact .claimed hp
  | queued hm =>
    rw [hq] at hm
    rcases List.mem_cons.1 hm with heq | hm
    · exact .received (congrArg (fun n => some (Handling.received n)) heq.symm)
    · exact .queued hm
  | deferred hm => exact .deferred hm
  | received hx => exact (hhandling _ hx).elim

end

end Nesting

theorem spawns_dropReceiver (rt : SupervisorRuntime) :
    spawns rt.dropReceiver.trace = spawns rt.trace :=
  (dropReceiver_grown (P := fun b => b.spawn = none) rt fun _ => rfl).filterMap_eq fun _ hb => hb

theorem LoopHead.nested {rt rt' : SupervisorRuntime} {ctrl' : Ctrl} (h : LoopHead rt rt' ctrl') :
    KeepsNested rt rt' := by
  cases h with
  | exit hp => exact .same (.same rfl rfl rfl) (spawns_dropReceiver _) rfl rfl rfl
  | natural hp hl hr => exact .same (.same rfl rfl rfl) (spawns_dropReceiver _) rfl rfl rfl
  | wait hp => exact .same (.same rfl rfl rfl) rfl rfl rfl rfl

theorem LoopHead.wf {rt rt' : SupervisorRuntime} {ctrl' : Ctrl} (h : LoopHead rt rt' ctrl')
    (hwf : rt.Wf) : rt'.Wf := by
  cases h <;> exact hwf

theorem SupervisorRuntime.Wf.runLoop_ok {rt : SupervisorRuntime} (h : rt.Wf) :
    ∃ c : Config, rt.runLoop = .ok c ∧ LoopHead rt c.rt c.ctrl := by
  unfold SupervisorRuntime.runLoop
  cases hp : rt.pendingExit with
  | some result => exact ⟨_, rfl, .exit hp⟩
  | none =>
    by_cases hz : rt.liveTasks = 0 ∧ rt.runningChildren = 0
    · refine ⟨⟨_, _⟩, ?_, .natural hp hz.1 hz.2⟩
      simp only [if_pos hz, h.finishNaturalExit, ok_bind, pure_eq_ok]
      rfl
    · exact ⟨_, if_neg hz, .wait hp⟩

namespace Nesting
section
variable {s s' : Nesting} {i : TaskId}

theorem Sound.loop {t : Nesting} (h : t.Sound) (hended : t.c.ctrl.ended = false) (hwf : t.c.rt.Wf)
    (hnone : t.handling = none) {x : Except Panic Config} (hx : x = t.c.rt.runLoop) :
    (t.loop x).Sound := by
  obtain ⟨c, hok, hl⟩ := hwf.runLoop_ok
  rw [hx, hok]
  have hsound := h.keep hl.nested
  refine ⟨hsound.linked, hsound.unspawned, fun key e i he hi => ?_, hsound.stopped⟩
  have hh := hsound.handed key e i he hi
  exact hh.carry rfl rfl rfl rfl (fun _ => hended)
    (fun _ hp => hp.mono id id id fun hr => hnone.symm.trans hr) id fun hr => hnone.symm.trans hr

/-- A notification that is dropped is not one of a current task. -/
theorem Sound.dropped (h : s.Sound) (hplaced : s.Placed) (hwf : s.c.rt.Wf)
    {n : NestedSnapshotNotification} (hn : s.handling = some (.received n))
    (hno : ∀ e, s.c.rt.children.get n.parentKey = some e →
      (e.incarnation n.parentKey).notification = n → e.nestedSnapshotState = none) :
    (s.loop s.c.rt.runLoop).Sound := by
  have hended : s.c.ctrl.ended = false := by rw [hplaced.select _ hn]; rfl
  refine Sound.loop (t := { s with handling := none }) ?_ hended hwf rfl rfl
  refine h.same ⟨rfl, rfl, rfl, rfl⟩ (fun _ _ => ⟨rfl, rfl⟩) fun key e j he hj hh => ?_
  refine hh.carry rfl rfl rfl rfl id (fun _ hp => hp.mono id id id fun hx => ?_) id fun hx => ?_
  · cases hn.symm.trans hx
    have hstate := hno e he rfl
    rw [h.linked.state key e he, hj] at hstate
    cases hstate
  · cases hn.symm.trans hx

theorem Sound.dequeued (h : s.Sound) {n : NestedSnapshotNotification} {e : ChildEntry}
    (hn : s.handling = some (.received n)) (he : s.c.rt.children.get n.parentKey = some e)
    (hi : e.runtime.abortHandle = some i) :
    { s.setRt (s.c.rt.modifyNestedState i ({ · with queued := false })) with
      handling := some (.dequeued n.parentKey i) }.Sound := by
  have hlt := h.linked.lt he hi
  obtain ⟨state, hget, hget', hother⟩ := h.written hlt ({ · with queued := false })
  refine h.touch hlt (.modify ..) rfl (fun j hj => ⟨hother j hj, rfl, rfl⟩)
    (fun key f j hf hj hji _ hpend => ?_) (fun key j hx => ?_)
    fun key f hf hi' hh => ⟨?_, hh.own, fun _ hq => ?_, fun _ => .inr (.inr (.inr ?_))⟩
  · refine hpend.mono id id id fun hx => ?_
    cases hn.symm.trans hx
    cases he.symm.trans hf
    cases hi.symm.trans hj
    exact absurd rfl hji
  · cases hn.symm.trans hx
  · exact (latest_unqueued s i i).trans hh.latest
  · simp only [Nesting.queued, setRt, hget', Option.any_some] at hq
    cases hq
  · rw [h.linked.key_unique hf hi' he hi]

/-- The entry gets what the slot holds: the last snapshot forwarded so far. -/
theorem Sound.stored (h : s.Sound) {key : ChildKey} {e : ChildEntry}
    (hx : s.handling = some (.dequeued key i)) (he : s.c.rt.children.get key = some e)
    (hi : e.runtime.abortHandle = some i) :
    { s.setRt (s.c.rt.setEntry key { e with nestedSnapshot := s.latest i }).published with
      handling := none }.Sound := by
  have hget {k : ChildKey} {f : ChildEntry}
      (hf : (s.c.rt.setEntry key { e with nestedSnapshot := s.latest i }).children.get k = some f) :
      k = key ∧ f = { e with nestedSnapshot := s.latest i } ∨ k ≠ key ∧ s.c.rt.children.get k = some f := by
    rw [SupervisorRuntime.setEntry, Slab.get_set he] at hf
    split at hf
    · rename_i hk
      cases hf
      exact .inl ⟨hk.symm, rfl⟩
    · rename_i hk
      exact .inr ⟨Ne.symm hk, hf⟩
  have hh := h.handed key e i he hi
  have hmono {j : TaskId} {n : NestedSnapshotNotification} (hp : s.Pending j n) :
      { s.setRt (s.c.rt.setEntry key { e with nestedSnapshot := s.latest i }).published with
        handling := none }.Pending j n := by
    refine hp.mono id id id fun hr => ?_
    cases hx.symm.trans hr
  refine ⟨⟨h.linked.lengths, h.linked.spawnLt, h.linked.ids, h.linked.tasks, fun k f hf => ?_,
    fun k f j hf hj => ?_⟩, h.unspawned, fun k f j hf hj => ?_, fun k f hf hj => ?_⟩
  · rcases hget hf with ⟨rfl, rfl⟩ | ⟨-, hf⟩
    · exact h.linked.state k e he
    · exact h.linked.state k f hf
  · rcases hget hf with ⟨rfl, rfl⟩ | ⟨-, hf⟩
    · exact h.linked.spawned k e j he hj
    · exact h.linked.spawned k f j hf hj
  · rcases hget hf with ⟨rfl, rfl⟩ | ⟨hk, hf⟩
    · cases hi.symm.trans hj
      refine ⟨hh.latest, fun snapshot hs => ?_, fun hc hq => hmono (hh.pending hc hq), fun _ => .inl hh.latest⟩
      exact List.mem_of_mem_head? (hh.latest.symm.trans hs)
    · refine (h.handed k f j hf hj).carry rfl rfl rfl rfl id (fun _ => hmono) id fun hr => ?_
      cases hx.symm.trans hr
      exact absurd rfl hk
  · rcases hget hf with ⟨rfl, rfl⟩ | ⟨-, hf⟩
    · cases hi.symm.trans hj
    · exact h.stopped k f hf hj

theorem Sound.read (h : s.Sound) (hplaced : s.Placed) (hwf : s.c.rt.Wf) {key : ChildKey}
    (hx : s.handling = some (.dequeued key i)) : (s.loop do
      let rt ← (s.c.rt.modifyEntry key ({ · with nestedSnapshot := s.latest i })).publishSnapshot
      rt.runLoop).Sound := by
  obtain ⟨e, he, hi⟩ := hplaced.target key i hx
  have hended : s.c.ctrl.ended = false := by rw [hplaced.select _ hx]; rfl
  have hset : (s.c.rt.setEntry key { e with nestedSnapshot := s.latest i }).Wf :=
    hwf.setEntry he rfl ((ChildEntry.Same.nested e (s.latest i)).ok (hwf.ok he))
  have hpub : (s.c.rt.setEntry key { e with nestedSnapshot := s.latest i }).published.Wf := hset
  obtain ⟨c, hok, -⟩ := hpub.runLoop_ok
  rw [modifyEntry_eq he, hset.publishSnapshot, ok_bind, hok]
  exact (h.stored hx he hi).loop hended hpub rfl hok.symm

theorem Sound.exchange (h : s.Sound) (hplaced : s.Placed) (hwf : s.c.rt.Wf) (hx : Exchange s s') :
    s'.Sound := by
  cases hx with
  | replaced snapshot hp ht => exact h.replaced snapshot hp ht
  | queuedBefore hp hq => exact h.queuedBefore hp hq
  | claimed hp => exact h.claimed hp
  | refused hp hc =>
    have hlt := h.spawnedOf (by rw [hp]; exact nofun)
    refine h.ended hc ⟨rfl, rfl, rfl, rfl⟩ rfl (fun j hj => ?_) rfl fun _ => rfl
    exact Function.update_of_ne (Nat.ne_of_gt (Nat.lt_of_lt_of_le hlt hj)) _ _
  | deferred hp ht =>
    exact h.posted hp ht ⟨rfl, rfl, rfl, rfl⟩ rfl rfl rfl rfl rfl (fun _ => id)
      (fun _ => List.mem_append_left _) (.deferred (List.mem_append_right _ (List.mem_singleton_self _)))
  | sent hp ht =>
    exact h.posted hp ht ⟨rfl, rfl, rfl, rfl⟩ rfl rfl rfl rfl rfl (fun _ => List.mem_append_left _)
      (fun _ => id) (.queued (List.mem_append_right _ (List.mem_singleton_self _)))
  | unqueued hp => exact h.unqueued hplaced hp
  | @lost i k hc => exact h.ended hc (.modify ..) rfl (fun _ _ => rfl) rfl (latest_unqueued s i)
  | delivered hk => exact h.sent hk
  | received _ hnone hq => exact h.received hnone hq
  | dropped hn hno => exact h.dropped hplaced hwf hn hno
  | dequeued hn he hstate => exact h.dequeued hn he ((h.linked.state _ _ he).symm.trans hstate)
  | stored hx => exact h.read hplaced hwf hx

/-! ### Where the handler and the senders stand -/

theorem Placed.same (h : s.Placed) (hctrl : s'.c.ctrl = s.c.ctrl)
    (hchildren : s'.c.rt.children = s.c.rt.children) (hhandling : s'.handling = s.handling)
    (hphase : ∀ j, s'.phase j = .refused → s.phase j = .refused ∨ s.c.ctrl.ended = true) :
    s'.Placed := by
  refine ⟨fun j hj => ?_, fun x hx => ?_, fun key j hx => ?_⟩
  · rw [hctrl]
    exact (hphase j hj).elim (h.refused j) id
  · rw [hctrl]
    exact h.select x (hhandling ▸ hx)
  · rw [hchildren]
    exact h.target key j (hhandling ▸ hx)

theorem Placed.setPhase (h : s.Placed) (hctrl : s'.c.ctrl = s.c.ctrl)
    (hchildren : s'.c.rt.children = s.c.rt.children) (hhandling : s'.handling = s.handling)
    {phase : ForwardPhase} (hphase : s'.phase = Function.update s.phase i phase)
    (hp : phase = .refused → s.c.ctrl.ended = true) : s'.Placed := by
  refine h.same hctrl hchildren hhandling fun j hj => ?_
  rw [hphase] at hj
  by_cases hji : j = i
  · subst hji
    rw [Function.update_self] at hj
    exact .inr (hp hj)
  · rw [Function.update_of_ne hji] at hj
    exact .inl hj

/-- The handler runs without an `.await`, so only the environment acts beside it. -/
theorem Placed.base (h : s.Placed) {a : TokioSupervisor.Act} {c : Config} (ha : s.baseEnabled a = true)
    (hstep : TokioSupervisor.step s.c a = some c) : { s with c }.Placed := by
  have henv {x : Handling} (hx : s.handling = some x) :
      c.ctrl = s.c.ctrl ∧ envStep s.c.rt a = some c.rt := by
    rcases step_cases hstep with ⟨w, rfl⟩ | rfl | henv
    · simp only [baseEnabled, hx, Option.isNone_some, Bool.false_eq_true] at ha
    · simp only [baseEnabled, hx, Option.isNone_some, Bool.false_eq_true] at ha
    · exact henv
  refine ⟨fun j hj => ?_, fun x hx => ?_, fun key j hx => ?_⟩
  · have hended := h.refused j hj
    show c.ctrl.ended = true
    rw [(ended_step hended hstep).1]
    exact hended
  · exact (henv hx).1.trans (h.select x hx)
  · rw [(envStep_frame (henv hx).2).children]
    exact h.target key j hx

theorem Placed.loop (h : s.Placed) {y : Handling} (hy : s.handling = some y) (x : Except Panic Config) :
    (s.loop x).Placed := by
  refine ⟨fun j hj => ?_, nofun, nofun⟩
  have hended := h.refused j hj
  rw [h.select y hy] at hended
  cases hended

theorem Placed.exchange (h : s.Placed) (hsound : s.Sound) (hx : Exchange s s') : s'.Placed := by
  cases hx with
  | replaced | queuedBefore | claimed | deferred | sent | unqueued =>
    exact h.setPhase rfl rfl rfl rfl nofun
  | refused _ hc => exact h.setPhase rfl rfl rfl rfl fun _ => hc
  | lost | delivered => exact h.same rfl rfl rfl fun _ => .inl
  | received hctrl _ _ => exact ⟨h.refused, fun _ _ => hctrl, fun _ _ hx => by cases hx⟩
  | dropped hn _ => exact h.loop hn _
  | dequeued hn he hstate =>
    refine ⟨h.refused, fun _ _ => h.select _ hn, fun key j hx => ?_⟩
    cases hx
    exact ⟨_, he, (hsound.linked.state _ _ he).symm.trans hstate⟩
  | stored hx => exact h.loop hx _

end

/-! ### The handler in one step -/

theorem handled_splits {s : Nesting} {n : NestedSnapshotNotification} (hwf : s.c.rt.Wf)
    (hn : s.handling = some (.received n)) : ∃ c as,
      (do let rt ← s.c.rt.handleNestedSnapshot n; rt.runLoop) = .ok c ∧
        exec Nesting.step s as = some { s with c, handling := none } := by
  obtain ⟨⟨rt, ctrl⟩, phase, forwarded, deferred, handling⟩ := s
  obtain rfl : handling = some (.received n) := hn
  have hwf : rt.Wf := hwf
  have hdrop (hh : rt.handleNestedSnapshot n = .ok rt)
      (hd : Nesting.dequeue ⟨⟨rt, ctrl⟩, phase, forwarded, deferred, some (.received n)⟩ =
        some (Nesting.loop ⟨⟨rt, ctrl⟩, phase, forwarded, deferred, some (.received n)⟩ rt.runLoop)) :
      ∃ c as, (do let rt ← rt.handleNestedSnapshot n; rt.runLoop) = .ok c ∧
        exec Nesting.step ⟨⟨rt, ctrl⟩, phase, forwarded, deferred, some (.received n)⟩ as =
          some ⟨c, phase, forwarded, deferred, none⟩ := by
    obtain ⟨c, hok, -⟩ := hwf.runLoop_ok
    rw [hok] at hd
    refine ⟨c, [.dequeue], ?_, congrArg (·.bind some) hd⟩
    rw [hh, ok_bind, hok]
  cases he : rt.children.get n.parentKey with
  | none =>
    refine hdrop ?_ ?_
    · simp [handleNestedSnapshot, he]
    · simp [dequeue, he]
  | some e =>
    by_cases ho : e.instanceId ≠ n.parentInstance ∨ e.runtime.generation ≠ n.generation
    · refine hdrop ?_ ?_
      · simp [handleNestedSnapshot, he, ho]
      · simp [dequeue, he, ho]
    cases hst : e.nestedSnapshotState with
    | none =>
      refine hdrop ?_ ?_
      · simp [handleNestedSnapshot, he, ho, hst]
      · simp [dequeue, he, ho, hst]
    | some i =>
      let rt₁ := rt.modifyNestedState i ({ · with queued := false })
      let s₁ : Nesting := ⟨⟨rt₁, ctrl⟩, phase, forwarded, deferred, some (.dequeued n.parentKey i)⟩
      have he₁ : rt₁.children.get n.parentKey = some e := he
      have hset : (rt₁.setEntry n.parentKey { e with nestedSnapshot := s₁.latest i }).Wf :=
        @Wf.setEntry rt₁ hwf _ _ _ he₁ rfl ((ChildEntry.Same.nested e _).ok (hwf.ok he))
      have hpub : (rt₁.setEntry n.parentKey { e with nestedSnapshot := s₁.latest i }).published.Wf := hset
      obtain ⟨c, hok, -⟩ := hpub.runLoop_ok
      have hread : (do
          let rt ← (rt₁.modifyEntry n.parentKey ({ · with nestedSnapshot := s₁.latest i })).publishSnapshot
          rt.runLoop) = .ok c := by
        rw [modifyEntry_eq he₁, hset.publishSnapshot, ok_bind, hok]
      have hdeq : Nesting.step ⟨⟨rt, ctrl⟩, phase, forwarded, deferred, some (.received n)⟩ .dequeue =
          some s₁ := by
        simp [Nesting.step, dequeue, he, ho, hst, s₁, rt₁, setRt]
      have hlast : s₁.step .read = some (s₁.loop (.ok c)) := by
        rw [← hread]
        rfl
      refine ⟨c, [.dequeue, .read], ?_, ?_⟩
      · rw [← hread]
        simp [handleNestedSnapshot, he, ho, hst, rt₁, s₁, Nesting.latest]
      · simp only [exec, List.foldlM_cons, List.foldlM_nil, Option.bind_eq_bind, hdeq, hlast,
          Option.bind_some]
        rfl

/-- With no other step in between, the handler does what `run` does in one step. -/
theorem nested_splits {s : Nesting} {c : Config} (hwf : s.c.rt.Wf) (hn : s.handling = none)
    (hs : TokioSupervisor.step s.c (.run .nested) = some c) :
    ∃ as, exec Nesting.step s as = some { s with c } := by
  obtain ⟨⟨rt, ctrl⟩, phase, forwarded, deferred, handling⟩ := s
  obtain rfl : handling = none := hn
  have hwf : rt.Wf := hwf
  cases ctrl with
  | await p k =>
    cases p with
    | runSelect =>
      dsimp only [TokioSupervisor.step, wake] at hs
      rw [Option.map_eq_some_iff] at hs
      obtain ⟨x, hx, rfl⟩ := hs
      split at hx
      · rename_i hready
        split at hx
        · cases hx
        · rename_i n rest hq
          cases hx
          let rt₁ := { rt with nestedSnapshotRx := { rt.nestedSnapshotRx with queue := rest } }
          let s₁ : Nesting := ⟨⟨rt₁, .await .runSelect k⟩, phase, forwarded, deferred, some (.received n)⟩
          have hrecv : Nesting.step ⟨⟨rt, .await .runSelect k⟩, phase, forwarded, deferred, none⟩ .receive =
              some s₁ := by
            simp only [Nesting.step, receive, hq, hready, if_true]
            rfl
          obtain ⟨c, as, hok, has⟩ := handled_splits (s := s₁) hwf rfl
          have hok : (rt₁.handleNestedSnapshot n >>= fun rt => rt.runLoop) = .ok c := hok
          refine ⟨.receive :: as, ?_⟩
          rw [hok]
          simp only [exec, List.foldlM_cons, Option.bind_eq_bind, hrecv, Option.bind_some]
          exact has
      · cases hx
    | _ => cases hs
  | _ => cases hs

/-! ### Runs -/

section
variable {s s' : Nesting}

theorem Exchange.sane (hx : Exchange s s') (hs : s.c.Sane) (hplaced : s.Placed) : s'.c.Sane := by
  have hloop {t : Handling} (ht : s.handling = some t) {rt : SupervisorRuntime} (hwf : rt.Wf)
      (hst : s.c.rt.Started → rt.Started) {x : Except Panic Config} (heq : x = rt.runLoop) :
      (s.loop x).c.Sane := by
    obtain ⟨c, hok, hl⟩ := hwf.runLoop_ok
    rw [heq, hok]
    have hstarted : s.c.rt.Started := by
      rcases hs.started with hc | ⟨p, hc⟩ | hst
      · cases (hplaced.select t ht).symm.trans hc
      · cases (hplaced.select t ht).symm.trans hc
      · exact hst
    refine ⟨hl.wf hwf, .inr (.inr ?_), fun l k hc => ?_⟩
    · show c.rt.Started
      unfold SupervisorRuntime.Started
      rw [hl.children]
      exact hst hstarted
    · have hc : c.ctrl = .await (.removalSelect l) k := hc
      rcases hl.ctrl with ⟨r, hr⟩ | hr <;> cases hr.symm.trans hc
  cases hx with
  | dropped hn _ => exact hloop hn hs.wf id rfl
  | @stored key i hx =>
    obtain ⟨e, he, hi⟩ := hplaced.target key i hx
    have hset : (s.c.rt.setEntry key { e with nestedSnapshot := s.latest i }).Wf :=
      hs.wf.setEntry he rfl ((ChildEntry.Same.nested e (s.latest i)).ok (hs.wf.ok he))
    have hpub : (s.c.rt.setEntry key { e with nestedSnapshot := s.latest i }).published.Wf := hset
    rw [modifyEntry_eq he, hset.publishSnapshot, ok_bind]
    refine hloop hx hpub (fun hst k f hf => ?_) rfl
    have hf : (s.c.rt.setEntry key { e with nestedSnapshot := s.latest i }).children.get k = some f := hf
    rw [SupervisorRuntime.setEntry, Slab.get_set he] at hf
    split at hf
    · cases hf
      exact hst key e he
    · exact hst k f hf
  | _ => exact ⟨hs.wf, hs.started, hs.removal⟩

/-- What every step keeps. -/
structure Inv (s : Nesting) : Prop where
  sane : s.c.Sane
  sound : s.Sound
  placed : s.Placed

theorem Inv.step (h : s.Inv) {a : Act} (hs : s.step a = some s') : s'.Inv := by
  cases step_stepped hs with
  | base ha hen hstep =>
    exact ⟨h.sane.step hstep, h.sound.base h.sane ha hstep, h.placed.base hen hstep⟩
  | exchange hx =>
    exact ⟨hx.sane h.sane h.placed, h.sound.exchange h.placed h.sane.wf hx, h.placed.exchange h.sound hx⟩

theorem Inv.start {config : SupervisorConfig} (h : config.Accepted) (env : StartEnv) :
    (Nesting.start config env).Inv := by
  have hfresh := h.fresh env
  refine ⟨h.sane env, ⟨h.linked env, fun _ _ => ⟨rfl, rfl⟩, fun key e i he hi => ?_, fun key e he _ => ?_⟩,
    ⟨nofun, nofun, nofun⟩⟩
  · rw [(hfresh.unborn key e he).abortHandle] at hi
    cases hi
  · exact ((SupervisorConfig.Accepted.unnested env).2 key e he).1

end

end Nesting

/-- Whatever the order of the steps of `forward` and of `handle_nested_snapshot`, the last forwarded
snapshot arrives, and no snapshot of another incarnation does. -/
theorem run_delivered {config : SupervisorConfig} {env : StartEnv} {as : List Nesting.Act} {s : Nesting}
    (h : config.Accepted) (hrun : AnyRun Nesting.step (Nesting.start config env) as s) :
    s.Delivered :=
  (hrun.invariant (Nesting.Inv.start h env) fun _ _ _ hI _ hs => hI.step hs).sound.delivered

/-- The second snapshot of `a` is stored between the two halves of the handler of the first. -/
theorem run_delivered_between : ∃ s : Nesting, (s.forwarded 0).length = 2 ∧
    s.c.rt.children.iter.map (·.nestedSnapshot.isSome) = [true, false] ∧ s.Delivered := by
  have hex : ∃ s, AnyRun Nesting.step (Nesting.start slotConfig ⟨false, 0, 0⟩)
      [.base (.run .go), .replace 0 (initialSnapshot slotConfig), .tryQueue 0, .trySend 0 false, .receive,
        .dequeue, .replace 0 (initialSnapshot slotConfig), .tryQueue 0, .trySend 0 false, .read, .receive,
        .dequeue, .read] s ∧
      ((s.forwarded 0).length, s.c.rt.children.iter.map (·.nestedSnapshot.isSome)) =
        (2, [true, false]) := anyRun_of_exec (by decide +kernel)
  obtain ⟨s, hrun, hs⟩ := hex
  rw [Prod.mk.injEq] at hs
  exact ⟨s, hs.1, hs.2, run_delivered slotConfig_accepted hrun⟩

end TokioSupervisor
