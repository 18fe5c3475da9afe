import TokioSupervisor.Runtime.Machine

/-!
# What the synchronous methods do to a well-formed state

`Wf` is the part of the runtime's representation invariant that every method keeps, whatever the
interleaving: the id map and the child order agree with the slab, an entry has an abort handle
exactly while it is not stopped, and the task map lists the tasks of the join set. On a well-formed
state no index misses its slot, so each method is a plain update (`spawned`, `exited`, `finalized`,
…), and the updates keep `Wf`. Later modules reason about the updates only.
-/

namespace TokioSupervisor
open Lib

/-! ### Entries -/

namespace ChildEntry

def oldGeneration (e : ChildEntry) : Option Nat :=
  if e.runtime.hasStarted then some e.runtime.generation else none

/-- The generation of the next spawn. -/
def nextGeneration (e : ChildEntry) : Nat :=
  if e.runtime.hasStarted then saturatingSucc e.runtime.generation else e.runtime.generation

/-- The entry is counted in `running_children`. -/
def counts (e : ChildEntry) : Bool := countsAsRunning e.membership e.runtime.state

/-- The entry is counted in `live_tasks`. -/
def live (e : ChildEntry) : Bool := e.runtime.abortHandle.isSome

/-- After `spawn_child`. -/
def started (e : ChildEntry) (token : CancellationToken) (nested : Nat) (task : TaskId) :
    ChildEntry :=
  { e with
    runtime := { e.runtime with
      generation := e.nextGeneration, state := .running, activeToken := some token,
      abortHandle := some task, hasStarted := true, nextRestartDeadline := none }
    terminalStatus := none
    nestedSnapshot := none
    nestedSnapshotState := some nested }

/-- After `record_exit`. -/
def stopped (e : ChildEntry) (status : ExitStatus) : ChildEntry :=
  { e with
    runtime := { e.runtime with
      state := .stopped, activeToken := none, abortHandle := none, nextRestartDeadline := none }
    lastExit := some status.view
    nestedSnapshot := none
    nestedSnapshotState := none }

/-- After `record_terminal_status`. -/
def terminated (e : ChildEntry) (generation : Nat) (isFailure : Bool) : ChildEntry :=
  match e.terminalStatus with
  | some current =>
    if generation < current.generation then e
    else { e with terminalStatus := some ⟨generation, isFailure⟩ }
  | none => { e with terminalStatus := some ⟨generation, isFailure⟩ }

/-- After the marking step of `remove_child`. -/
def requested (e : ChildEntry) : ChildEntry :=
  { e with
    membership := .removing
    runtime := { e.runtime with
      state := if e.runtime.state.isActive then .stopping else e.runtime.state } }

/-- After `schedule_restart`. -/
def scheduled (e : ChildEntry) (tracker : RestartTracker) (deadline : Option Instant) : ChildEntry :=
  { e with runtime := { e.runtime with
      restartTracker := tracker, nextRestartDeadline := deadline } }

/-- After `cancel_running_children`. -/
def cancelled (e : ChildEntry) : ChildEntry :=
  { e with runtime := { e.runtime with state := .stopping } }

/-- What `Wf` asks of one entry. -/
structure Ok (e : ChildEntry) : Prop where
  id : e.id.isEmpty = false
  membership : e.membership ≠ .removed
  handle : e.runtime.abortHandle.isSome = true ↔ e.runtime.state ≠ .stopped

namespace Ok
variable {e : ChildEntry}

theorem started (h : e.Ok) (token : CancellationToken) (nested : Nat) (task : TaskId) :
    (e.started token nested task).Ok :=
  ⟨h.id, h.membership, by simp [ChildEntry.started]⟩

theorem stopped (h : e.Ok) (status : ExitStatus) : (e.stopped status).Ok :=
  ⟨h.id, h.membership, by simp [ChildEntry.stopped]⟩

theorem terminated (h : e.Ok) (generation : Nat) (isFailure : Bool) :
    (e.terminated generation isFailure).Ok := by
  unfold ChildEntry.terminated
  split
  · split
    · exact h
    · exact ⟨h.id, h.membership, h.handle⟩
  · exact ⟨h.id, h.membership, h.handle⟩

theorem requested (h : e.Ok) : e.requested.Ok := by
  refine ⟨h.id, by simp [ChildEntry.requested], ?_⟩
  have := h.handle
  cases hs : e.runtime.state <;> simp_all [ChildEntry.requested, RuntimeChildState.isActive]

theorem scheduled (h : e.Ok) (tracker : RestartTracker) (deadline : Option Instant) :
    (e.scheduled tracker deadline).Ok :=
  ⟨h.id, h.membership, h.handle⟩

theorem cancelled (h : e.Ok) (hs : e.runtime.state ≠ .stopped) : e.cancelled.Ok :=
  ⟨h.id, h.membership, by simp [ChildEntry.cancelled, h.handle, hs]⟩

theorem new {id : String} (hid : id.isEmpty = false) (spec : ChildSpec) (d : RestartIntensity)
    (instanceId nanos : Nat) : (ChildEntry.new id spec d instanceId nanos).Ok :=
  ⟨hid, by simp [ChildEntry.new], by simp [ChildEntry.new, ChildRuntime.new]⟩

end Ok

@[simp] theorem terminated_id (e : ChildEntry) (g : Nat) (b : Bool) : (e.terminated g b).id = e.id := by
  unfold terminated; split <;> [split; skip] <;> rfl

@[simp] theorem terminated_instanceId (e : ChildEntry) (g : Nat) (b : Bool) :
    (e.terminated g b).instanceId = e.instanceId := by
  unfold terminated; split <;> [split; skip] <;> rfl

@[simp] theorem terminated_runtime (e : ChildEntry) (g : Nat) (b : Bool) :
    (e.terminated g b).runtime = e.runtime := by
  unfold terminated; split <;> [split; skip] <;> rfl

@[simp] theorem terminated_membership (e : ChildEntry) (g : Nat) (b : Bool) :
    (e.terminated g b).membership = e.membership := by
  unfold terminated; split <;> [split; skip] <;> rfl

@[simp] theorem terminated_lastExit (e : ChildEntry) (g : Nat) (b : Bool) :
    (e.terminated g b).lastExit = e.lastExit := by
  unfold terminated; split <;> [split; skip] <;> rfl

/-- The view of `snapshot_view`, for an entry that is not `Removed`. -/
def view (now : Instant) (e : ChildEntry) : ChildSnapshot where
  id := e.id
  generation := e.runtime.generation
  state := e.runtime.state.view
  membership := if e.membership = .active then .active else .removing
  lastExit := e.lastExit
  restartCount := e.runtime.restartTracker.totalRestarts
  nextRestartIn := e.runtime.nextRestartDeadline.map fun deadline => deadline.nanosSince now
  supervisor := e.nestedSnapshot

theorem snapshot_eq (now : Instant) {e : ChildEntry} (h : e.membership ≠ .removed) :
    e.snapshot now = .ok (e.view now) := by
  cases hm : e.membership
  · simp [snapshot, view, hm, bind, Except.bind, pure, Except.pure]
  · simp [snapshot, view, hm, bind, Except.bind, pure, Except.pure]
  · exact absurd hm h

end ChildEntry

/-- The status that a task's outcome is classified as. -/
def TaskOutcome.status : TaskOutcome → ExitStatus
  | .returned result => .fromChildResult result
  | .panicked _ => .panicked
  | .cancelled => .aborted

/-! ### Well-formed states -/

/-- `Wf` over the fields it speaks of. -/
structure WfOf (children : Slab ChildEntry) (ids : AList (fun _ : String => ChildKey))
    (ord : List ChildKey) (js : JoinSet) (metas : AList (fun _ : TaskId => TaskMeta)) : Prop where
  /-- `children_by_id` maps exactly the ids of the entries to their keys. -/
  byId : ∀ id key, ids.lookup id = some key ↔ ∃ e, children.get key = some e ∧ e.id = id
  /-- `child_order` lists exactly the occupied keys, each once. -/
  order : ∀ key, key ∈ ord ↔ ∃ e, children.get key = some e
  nodup : ord.Nodup
  entry : ∀ key e, children.get key = some e → e.Ok
  taskLt : ∀ t ∈ js.tasks, t.id < js.nextId
  taskNodup : (js.tasks.map (·.id)).Nodup
  /-- `task_map` maps exactly the ids of the tasks not yet joined. -/
  taskMap : ∀ id m, metas.lookup id = some m ↔ ∃ t ∈ js.tasks, t.id = id ∧ t.info = m

def SupervisorRuntime.Wf (rt : SupervisorRuntime) : Prop :=
  WfOf rt.children rt.childrenById rt.childOrder rt.joinSet rt.taskMap

namespace WfOf
variable {children : Slab ChildEntry} {ids : AList (fun _ : String => ChildKey)}
  {ord : List ChildKey} {js : JoinSet} {metas : AList (fun _ : TaskId => TaskMeta)}

theorem lookup (h : WfOf children ids ord js metas) {key : ChildKey} {e : ChildEntry}
    (he : children.get key = some e) : ids.lookup e.id = some key :=
  (h.byId e.id key).2 ⟨e, he, rfl⟩

theorem key_inj (h : WfOf children ids ord js metas) {k₁ k₂ : ChildKey} {e₁ e₂ : ChildEntry}
    (h₁ : children.get k₁ = some e₁) (h₂ : children.get k₂ = some e₂) (hid : e₁.id = e₂.id) :
    k₁ = k₂ := by
  have := h.lookup h₁
  rw [hid, h.lookup h₂] at this
  exact (Option.some.inj this).symm

theorem set (h : WfOf children ids ord js metas) {key : ChildKey} {e e' : ChildEntry}
    (he : children.get key = some e) (hid : e'.id = e.id) (hok : e'.Ok) :
    WfOf (children.set key e') ids ord js metas := by
  refine ⟨fun id k => ?_, fun k => ?_, h.nodup, fun k f hf => ?_, h.taskLt, h.taskNodup, h.taskMap⟩
  · rw [h.byId]
    by_cases hk : key = k
    · subst hk; simp [Slab.get_set_self he, he, hid]
    · simp [Slab.get_set he, hk]
  · rw [h.order]
    by_cases hk : key = k
    · subst hk; simp [Slab.get_set_self he, he]
    · simp [Slab.get_set he, hk]
  · rw [Slab.get_set he] at hf
    split at hf
    · exact Option.some.inj hf ▸ hok
    · exact h.entry k f hf

theorem remove (h : WfOf children ids ord js metas) {key : ChildKey} {e : ChildEntry}
    (he : children.get key = some e) :
    WfOf (children.remove key) (ids.erase e.id) (ord.filter (· != key)) js metas := by
  refine ⟨fun id k => ?_, fun k => ?_, h.nodup.filter _, fun k f hf => ?_, h.taskLt, h.taskNodup,
    h.taskMap⟩
  · by_cases hid : id = e.id
    · subst hid
      rw [AList.lookup_erase]
      refine ⟨nofun, fun ⟨f, hf, hfid⟩ => ?_⟩
      rw [Slab.get_remove] at hf
      split at hf
      · exact absurd hf nofun
      · rename_i hk; exact absurd (h.key_inj he hf hfid.symm) hk
    · rw [AList.lookup_erase_ne hid, h.byId]
      constructor
      · rintro ⟨f, hf, rfl⟩
        have hk : k ≠ key := fun hk => by subst hk; rw [he] at hf; exact hid (Option.some.inj hf ▸ rfl)
        exact ⟨f, by rw [Slab.get_remove_ne _ hk, hf], rfl⟩
      · rintro ⟨f, hf, rfl⟩
        rw [Slab.get_remove] at hf
        split at hf
        · exact absurd hf nofun
        · exact ⟨f, hf, rfl⟩
  · rw [List.mem_filter, h.order, Slab.get_remove]
    by_cases hk : k = key
    · subst hk; simp
    · simp [hk, Ne.symm hk]
  · rw [Slab.get_remove] at hf
    split at hf
    · exact absurd hf nofun
    · exact h.entry k f hf

theorem insert (h : WfOf children ids ord js metas) {key : ChildKey} {e : ChildEntry}
    (hk : children.vacant key = true) (hid : ids.lookup e.id = none) (hok : e.Ok) :
    WfOf (children.insert key e) (ids.insert e.id key) (ord ++ [key]) js metas := by
  have hnone := Slab.get_of_vacant hk
  refine ⟨fun id k => ?_, fun k => ?_, ?_, fun k f hf => ?_, h.taskLt, h.taskNodup, h.taskMap⟩
  · by_cases hid' : id = e.id
    · subst hid'
      rw [AList.lookup_insert, Slab.get_insert hk]
      constructor
      · intro hkk; cases hkk; exact ⟨e, by simp, rfl⟩
      · rintro ⟨f, hf, hfid⟩
        split at hf
        · rename_i hkk; rw [hkk]
        · have := h.lookup hf; rw [hfid, hid] at this; exact absurd this nofun
    · rw [AList.lookup_insert_ne hid', h.byId, Slab.get_insert hk]
      constructor
      · rintro ⟨f, hf, rfl⟩
        refine ⟨f, ?_, rfl⟩
        split
        · rename_i hkk; subst hkk; rw [hnone] at hf; exact absurd hf nofun
        · exact hf
      · rintro ⟨f, hf, rfl⟩
        split at hf
        · exact absurd (congrArg ChildEntry.id (Option.some.inj hf)).symm hid'
        · exact ⟨f, hf, rfl⟩
  · rw [List.mem_append, h.order, List.mem_singleton, Slab.get_insert hk]
    by_cases hkk : key = k
    · subst hkk; simp
    · simp [hkk, Ne.symm hkk]
  · refine h.nodup.append (List.nodup_singleton _) fun k hk₁ hk₂ => ?_
    obtain ⟨f, hf⟩ := (h.order k).1 hk₁
    rw [List.mem_singleton.1 hk₂, hnone] at hf
    exact absurd hf nofun
  · rw [Slab.get_insert hk] at hf
    split at hf
    · exact Option.some.inj hf ▸ hok
    · exact h.entry k f hf

theorem spawn (h : WfOf children ids ord js metas) (info : TaskMeta) :
    WfOf children ids ord (js.spawn info) (metas.insert js.nextId info) := by
  refine ⟨h.byId, h.order, h.nodup, h.entry, fun t ht => ?_, ?_, fun id m => ?_⟩
  · simp only [JoinSet.spawn, List.mem_append, List.mem_singleton] at ht ⊢
    rcases ht with ht | rfl
    · exact Nat.lt_succ_of_lt (h.taskLt t ht)
    · exact Nat.lt_succ_self _
  · simp only [JoinSet.spawn, List.map_append, List.map_cons, List.map_nil]
    refine h.taskNodup.append (List.nodup_singleton _) fun i hi₁ hi₂ => ?_
    obtain ⟨t, ht, rfl⟩ := List.mem_map.1 hi₁
    exact absurd (List.mem_singleton.1 hi₂) (Nat.ne_of_lt (h.taskLt t ht))
  · simp only [JoinSet.spawn, List.mem_append, List.mem_singleton]
    by_cases hid : id = js.nextId
    · subst hid
      rw [AList.lookup_insert]
      constructor
      · intro hm; cases hm; exact ⟨_, .inr rfl, rfl, rfl⟩
      · rintro ⟨t, ht | rfl, hid, rfl⟩
        · exact absurd hid (Nat.ne_of_lt (h.taskLt t ht))
        · rfl
    · rw [AList.lookup_insert_ne hid, h.taskMap]
      constructor
      · rintro ⟨t, ht, h₁, h₂⟩; exact ⟨t, .inl ht, h₁, h₂⟩
      · rintro ⟨t, ht | rfl, h₁, h₂⟩
        · exact ⟨t, ht, h₁, h₂⟩
        · exact absurd h₁.symm hid

theorem take (h : WfOf children ids ord js metas) (id : TaskId) :
    WfOf children ids ord ⟨js.tasks.filter (·.id != id), js.nextId⟩ (metas.erase id) := by
  refine ⟨h.byId, h.order, h.nodup, h.entry, fun t ht => h.taskLt t (List.mem_of_mem_filter ht), ?_,
    fun i m => ?_⟩
  · exact h.taskNodup.sublist (List.filter_sublist.map _)
  · simp only [List.mem_filter, bne_iff_ne, ne_eq]
    by_cases hi : i = id
    · subst hi
      rw [AList.lookup_erase]
      exact ⟨nofun, fun ⟨t, ⟨_, hne⟩, hid, _⟩ => absurd hid hne⟩
    · rw [AList.lookup_erase_ne hi, h.taskMap]
      constructor
      · rintro ⟨t, ht, h₁, h₂⟩; exact ⟨t, ⟨ht, fun hh => hi (h₁ ▸ hh)⟩, h₁, h₂⟩
      · rintro ⟨t, ⟨ht, _⟩, h₁, h₂⟩; exact ⟨t, ht, h₁, h₂⟩

theorem mapTasks (h : WfOf children ids ord js metas) {f : Task → Task}
    (hid : ∀ t, (f t).id = t.id) (hinfo : ∀ t, (f t).info = t.info) :
    WfOf children ids ord { js with tasks := js.tasks.map f } metas := by
  refine ⟨h.byId, h.order, h.nodup, h.entry, fun t ht => ?_, ?_, fun i m => ?_⟩
  · obtain ⟨u, hu, rfl⟩ := List.mem_map.1 ht
    rw [hid]; exact h.taskLt u hu
  · rw [List.map_map, show (fun t : Task => t.id) ∘ f = (·.id) from funext hid]
    exact h.taskNodup
  · rw [h.taskMap]
    simp only [List.mem_map]
    constructor
    · rintro ⟨t, ht, h₁, h₂⟩
      exact ⟨f t, ⟨t, ht, rfl⟩, by rw [hid, h₁], by rw [hinfo, h₂]⟩
    · rintro ⟨_, ⟨t, ht, rfl⟩, h₁, h₂⟩
      exact ⟨t, ht, by rw [← hid, h₁], by rw [← hinfo, h₂]⟩

theorem abort (h : WfOf children ids ord js metas) (id : TaskId) :
    WfOf children ids ord (js.abort id) metas :=
  h.mapTasks (fun t => by split <;> rfl) (fun t => by split <;> rfl)

end WfOf

end TokioSupervisor
