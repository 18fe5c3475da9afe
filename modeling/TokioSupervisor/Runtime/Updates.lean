import TokioSupervisor.Runtime.Effects

/-!
# The updates of the runtime's state

One pure function for each thing a method does to the state of a well-formed runtime, and the
equation that says so. An update takes the entry it works on as an argument: the equations require
that it is the one stored at the key. That updates keep `Wf` stands beside each of them.
-/

namespace TokioSupervisor
open Lib

@[simp] theorem ok_bind {ε α β : Type} (a : α) (f : α → Except ε β) :
    ((Except.ok a : Except ε α) >>= f) = f a := rfl

@[simp] theorem error_bind {ε α β : Type} (e : ε) (f : α → Except ε β) :
    ((Except.error e : Except ε α) >>= f) = Except.error e := rfl

@[simp] theorem pure_eq_ok {ε α : Type} (a : α) : (pure a : Except ε α) = Except.ok a := rfl

@[simp] theorem throw_eq_error {ε α : Type} (e : ε) : (throw e : Except ε α) = Except.error e := rfl

namespace SupervisorRuntime

/-! ### Fields outside the representation -/

/-- What the environment and the waits change beside the shutdown request and the commands. -/
structure Aux where
  nestedSnapshotRx : NestedChannel
  now : Instant
  wallClock : Nat
  nestedStates : List NestedSnapshotState
  snapshots : List SupervisorSnapshot

def withAux (rt : SupervisorRuntime) (x : Aux) : SupervisorRuntime :=
  { rt with
    nestedSnapshotRx := x.nestedSnapshotRx, now := x.now, wallClock := x.wallClock
    nestedStates := x.nestedStates, snapshots := x.snapshots }

/-- The pending change of the shutdown request is seen. -/
def seen (rt : SupervisorRuntime) : SupervisorRuntime :=
  { rt with shutdownRx := { rt.shutdownRx with unseen := false } }

/-- No command is left, and none will come. -/
structure CommandsOver (rt : SupervisorRuntime) : Prop where
  queue : rt.commandRx.queue = []
  noneLeft : rt.commandRx.closed = true ∨ rt.commandRx.senders = false

/-- The command channel is known to be over. -/
def commandsClosed (rt : SupervisorRuntime) : SupervisorRuntime := { rt with commandsOpen := false }

/-- A command is received. -/
def received (rt : SupervisorRuntime) (rest : List SupervisorCommand) : SupervisorRuntime :=
  { rt with commandRx := { rt.commandRx with queue := rest } }

/-! ### Events -/

def view (rt : SupervisorRuntime) : SupervisorSnapshot where
  state := rt.state.view
  lastExit := rt.lastExit
  strategy := rt.info.strategy
  children := (rt.childOrder.filterMap rt.children.get).map (·.view rt.now)

theorem mem_view {rt : SupervisorRuntime} {child : ChildSnapshot} (h : child ∈ rt.view.children) :
    ∃ key e, rt.children.get key = some e ∧ child = e.view rt.now := by
  obtain ⟨e, he, rfl⟩ := List.mem_map.1 h
  obtain ⟨key, -, hget⟩ := List.mem_filterMap.1 he
  exact ⟨key, e, hget, rfl⟩

/-- After `publish_snapshot`. -/
def published (rt : SupervisorRuntime) : SupervisorRuntime :=
  { rt with snapshots := rt.view :: rt.snapshots }

/-- After `send_event`. -/
def emitted (rt : SupervisorRuntime) (owner : Option Nat) (event : SupervisorEvent) :
    SupervisorRuntime :=
  { rt with
    snapshots := if event.updatesSnapshot then rt.view :: rt.snapshots else rt.snapshots
    trace := .event owner event :: rt.trace }

variable {rt : SupervisorRuntime}

@[simp] theorem wf_log (a : Action) : (rt.log a).Wf ↔ rt.Wf := Iff.rfl

@[simp] theorem wf_published : rt.published.Wf ↔ rt.Wf := Iff.rfl

@[simp] theorem wf_emitted (owner : Option Nat) (event : SupervisorEvent) :
    (rt.emitted owner event).Wf ↔ rt.Wf := Iff.rfl

theorem index_eq {key : ChildKey} {e : ChildEntry} (he : rt.children.get key = some e) :
    rt.index key = .ok e := by
  simp [index, he]

theorem index_vacant {key : ChildKey} (he : rt.children.get key = none) :
    rt.index key = .error (.vacantSlot key) := by
  simp [index, he]

theorem Wf.snapshotView (h : rt.Wf) : rt.snapshotView = .ok rt.view := by
  have hall : ∀ l : List ChildEntry, (∀ e ∈ l, e.membership ≠ .removed) →
      l.mapM (ChildEntry.snapshot rt.now) = .ok (l.map (·.view rt.now)) := by
    intro l
    induction l with
    | nil => intro _; rfl
    | cons e l ih =>
      intro hl
      simp only [List.mem_cons, forall_eq_or_imp] at hl
      simp [List.mapM_cons, ChildEntry.snapshot_eq _ hl.1, ih hl.2]
  have hmem : ∀ e ∈ rt.childOrder.filterMap rt.children.get, e.membership ≠ .removed := by
    intro e he
    obtain ⟨key, _, hkey⟩ := List.mem_filterMap.1 he
    exact (h.entry key e hkey).membership
  simp [SupervisorRuntime.snapshotView, hall _ hmem, view]

theorem Wf.publishSnapshot (h : rt.Wf) : rt.publishSnapshot = .ok rt.published := by
  simp [SupervisorRuntime.publishSnapshot, h.snapshotView, published]

/-- The id map only leads to occupied slots, so an event can be sent in every well-formed state. -/
theorem Wf.sendEvent (h : rt.Wf) (owner : Option Nat) (event : SupervisorEvent) :
    rt.sendEvent owner event = .ok (rt.emitted owner event) := by
  have hidx : ∀ key, event.childId.bind (rt.childrenById.lookup ·) = some key →
      ∃ e, rt.children.get key = some e := by
    intro key hkey
    obtain ⟨id, -, hid⟩ := Option.bind_eq_some_iff.1 hkey
    obtain ⟨e, he, -⟩ := (h.byId id key).1 hid
    exact ⟨e, he⟩
  have hwf := h.publishSnapshot
  unfold SupervisorRuntime.sendEvent emitted
  cases hb : event.childId.bind (rt.childrenById.lookup ·) with
  | none => cases hu : event.updatesSnapshot <;> simp [hwf, hb, published, log]
  | some key =>
    obtain ⟨e, he⟩ := hidx key hb
    cases hu : event.updatesSnapshot <;> simp [hwf, hb, published, log, index, he]

/-! ### One entry -/

def setEntry (rt : SupervisorRuntime) (key : ChildKey) (e : ChildEntry) : SupervisorRuntime :=
  { rt with children := rt.children.set key e }

theorem modifyEntry_eq {key : ChildKey} {e : ChildEntry} (he : rt.children.get key = some e)
    (f : ChildEntry → ChildEntry) : rt.modifyEntry key f = rt.setEntry key (f e) := by
  simp [modifyEntry, setEntry, Slab.modify_eq_set f he]

theorem Wf.setEntry (h : rt.Wf) {key : ChildKey} {e e' : ChildEntry}
    (he : rt.children.get key = some e) (hid : e'.id = e.id) (hok : e'.Ok) : (rt.setEntry key e').Wf :=
  WfOf.set h he hid hok

theorem Wf.ok (h : rt.Wf) {key : ChildKey} {e : ChildEntry} (he : rt.children.get key = some e) :
    e.Ok :=
  h.entry key e he

theorem recordTerminalStatus_eq {key : ChildKey} {e : ChildEntry}
    (he : rt.children.get key = some e) (generation : Nat) (status : ExitStatus) :
    rt.recordTerminalStatus key generation status =
      .ok (rt.setEntry key (e.terminated generation status.isFailure)) := by
  unfold recordTerminalStatus ChildEntry.terminated
  rw [index_eq he]
  cases ht : e.terminalStatus with
  | none => simp [ht, modifyEntry_eq he]
  | some current =>
    by_cases hlt : generation < current.generation
    · simp [ht, hlt, SupervisorRuntime.setEntry, Slab.set_eq_self he]
    · simp [ht, hlt, modifyEntry_eq he]

theorem Wf.terminated (h : rt.Wf) {key : ChildKey} {e : ChildEntry}
    (he : rt.children.get key = some e) (generation : Nat) (isFailure : Bool) :
    (rt.setEntry key (e.terminated generation isFailure)).Wf :=
  h.setEntry he (by simp) ((h.ok he).terminated ..)

/-! ### `spawn_child` -/

/-- After `spawn_child` on the entry `e` at `key`. -/
def spawned (rt : SupervisorRuntime) (key : ChildKey) (e : ChildEntry) : SupervisorRuntime :=
  let info : TaskMeta := ⟨key, e.instanceId, e.nextGeneration⟩
  let token := (rt.tokens.childToken rt.groupToken).1
  ({ rt with
    tokens := (rt.tokens.childToken rt.groupToken).2
    nestedStates := rt.nestedStates ++ [NestedSnapshotState.empty]
    children := rt.children.set key (e.started token rt.nestedStates.length rt.joinSet.nextId)
    joinSet := rt.joinSet.spawn info
    runningChildren := rt.runningChildren + if e.counts then 0 else 1
    liveTasks := rt.liveTasks + 1
    taskMap := rt.taskMap.insert rt.joinSet.nextId info }.log
      (.spawned key e.instanceId e.nextGeneration rt.joinSet.nextId)).emitted
    (some e.instanceId) (.childStarted e.id e.nextGeneration)

theorem Wf.spawned (h : rt.Wf) {key : ChildKey} {e : ChildEntry}
    (he : rt.children.get key = some e) : (rt.spawned key e).Wf :=
  (WfOf.set h he (by simp [ChildEntry.started]) ((h.ok he).started ..)).spawn _

theorem Wf.spawnChild (h : rt.Wf) {key : ChildKey} {e : ChildEntry}
    (he : rt.children.get key = some e) :
    rt.spawnChild key = .ok (rt.spawned key e, .ok (e.oldGeneration, e.nextGeneration)) := by
  have hcounts : (e.runtime.state == .starting || e.runtime.state == .running) = e.counts := by
    have := (h.ok he).membership
    simp [ChildEntry.counts, countsAsRunning, bne_iff_ne.2 this]
  have hwf := h.spawned he
  simp only [SupervisorRuntime.spawned, wf_emitted] at hwf
  have hsend := Wf.sendEvent hwf (some e.instanceId) (.childStarted e.id e.nextGeneration)
  simp only [SupervisorRuntime.spawnChild, clearTerminalStatus, index_eq he, ok_bind, pure_eq_ok,
    modifyEntry_eq he, SupervisorRuntime.setEntry, Slab.get_set_self he, hcounts]
  rw [modifyEntry_eq (Slab.get_set_self he _)]
  simp only [SupervisorRuntime.setEntry, Slab.set_set, index, Slab.get_set_self he, ok_bind]
  rw [modifyEntry_eq (Slab.get_set_self he _)]
  simp only [SupervisorRuntime.setEntry, Slab.set_set]
  let rest (rt : SupervisorRuntime) :
      Except Panic (SupervisorRuntime × Except SupervisorError (Option Nat × Nat)) :=
    .ok (rt, .ok (e.oldGeneration, e.nextGeneration))
  cases hc : e.counts <;> simp only [hc, Bool.false_eq_true, if_true, if_false] at hsend ⊢ <;>
    refine (congrArg (· >>= rest) hsend).trans ?_ <;> simp [rest, SupervisorRuntime.spawned, hc]

/-- After `spawn_child` on a child that has run before, and its `ChildRestarted`. -/
def restarted (rt : SupervisorRuntime) (key : ChildKey) (e : ChildEntry) : SupervisorRuntime :=
  (rt.spawned key e).emitted (some e.instanceId)
    (.childRestarted e.id e.runtime.generation e.nextGeneration)

theorem Wf.restarted (h : rt.Wf) {key : ChildKey} {e : ChildEntry}
    (he : rt.children.get key = some e) : (rt.restarted key e).Wf :=
  h.spawned he

theorem spawned_get {key : ChildKey} {e : ChildEntry} (he : rt.children.get key = some e) :
    (rt.spawned key e).children.get key = some
      (e.started (rt.tokens.childToken rt.groupToken).1 rt.nestedStates.length rt.joinSet.nextId) :=
  Slab.get_set_self he _

theorem spawned_get_ne {key k : ChildKey} {e : ChildEntry} (he : rt.children.get key = some e)
    (hk : k ≠ key) : (rt.spawned key e).children.get k = rt.children.get k :=
  Slab.get_set_ne he _ hk

theorem Wf.sendRestartEvent (h : rt.Wf) {key : ChildKey} {e : ChildEntry}
    (he : rt.children.get key = some e) (old new : Nat) :
    (rt.spawned key e).sendRestartEvent key old new =
      .ok ((rt.spawned key e).emitted (some e.instanceId) (.childRestarted e.id old new)) := by
  simp only [SupervisorRuntime.sendRestartEvent, index_eq (spawned_get he), ok_bind]
  exact (h.spawned he).sendEvent ..

/-! ### Consuming a join -/

/-- The task `t` has ended with `outcome` and is in the join set. -/
structure Finished (rt : SupervisorRuntime) (t : Task) (outcome : TaskOutcome) : Prop where
  mem : t ∈ rt.joinSet.tasks
  outcome : t.outcome = some outcome

/-- `current_child_matches` for the metadata of a task, with the entry found. -/
structure Current (rt : SupervisorRuntime) (info : TaskMeta) (e : ChildEntry) : Prop where
  get : rt.children.get info.key = some e
  instanceId : e.instanceId = info.instanceId
  generation : e.runtime.generation = info.generation

/-- The join set and the task map after `t` is joined and classified. -/
def taken (rt : SupervisorRuntime) (t : Task) : SupervisorRuntime :=
  { rt with
    joinSet := ⟨rt.joinSet.tasks.filter (·.id != t.id), rt.joinSet.nextId⟩
    taskMap := rt.taskMap.erase t.id }

/-- After a stale join. -/
def ignored (rt : SupervisorRuntime) (t : Task) : SupervisorRuntime :=
  (rt.taken t).log (.joined t.id t.info false)

/-- After `consume_joined_child` accepts the join. -/
def consumed (rt : SupervisorRuntime) (t : Task) : SupervisorRuntime :=
  { rt.taken t with liveTasks := rt.liveTasks - 1 }.log (.joined t.id t.info true)

/-- After `record_exit` on the entry `e` at `key`. -/
def recorded (rt : SupervisorRuntime) (key : ChildKey) (e : ChildEntry) (generation : Nat)
    (status : ExitStatus) : SupervisorRuntime :=
  (((rt.log (.exited key e.instanceId generation status (rt.demandsRestart e status))).subRunning
    (if e.counts then 1 else 0)).setEntry key (e.stopped status)).emitted
    (some e.instanceId) (.childExited e.id generation status.view)

/-- After an accepted join of `t`, whose entry is `e`, is recorded. -/
def exited (rt : SupervisorRuntime) (t : Task) (e : ChildEntry) (outcome : TaskOutcome) :
    SupervisorRuntime :=
  (rt.consumed t).recorded t.info.key e t.info.generation outcome.status

theorem Wf.taken (h : rt.Wf) (t : Task) : (rt.taken t).Wf := WfOf.take h t.id

theorem Wf.ignored (h : rt.Wf) (t : Task) : (rt.ignored t).Wf := h.taken t

theorem Wf.consumed (h : rt.Wf) (t : Task) : (rt.consumed t).Wf := h.taken t

@[simp] theorem subRunning_zero (rt : SupervisorRuntime) : rt.subRunning 0 = rt := by
  simp [subRunning]

@[simp] theorem log_children (a : Action) : (rt.log a).children = rt.children := rfl

@[simp] theorem wf_subRunning (n : Nat) : (rt.subRunning n).Wf ↔ rt.Wf := Iff.rfl

@[simp] theorem subRunning_children (n : Nat) : (rt.subRunning n).children = rt.children := rfl

theorem Wf.recorded (h : rt.Wf) {key : ChildKey} {e : ChildEntry}
    (he : rt.children.get key = some e) (generation : Nat) (status : ExitStatus) :
    (rt.recorded key e generation status).Wf :=
  h.setEntry he (by rfl) ((h.ok he).stopped status)

theorem Wf.recordExit (h : rt.Wf) {key : ChildKey} {e : ChildEntry}
    (he : rt.children.get key = some e) (generation : Nat) (status : ExitStatus) :
    rt.recordExit key generation status = .ok (rt.recorded key e generation status) := by
  have hwf := h.recorded he generation status
  simp only [SupervisorRuntime.recorded, wf_emitted] at hwf
  have hsend := Wf.sendEvent hwf (some e.instanceId) (.childExited e.id generation status.view)
  simp only [SupervisorRuntime.recordExit, index_eq he, ok_bind]
  rw [SupervisorRuntime.recorded, ← hsend, ChildEntry.counts]
  cases hc : countsAsRunning e.membership e.runtime.state with
  | false => simp [@modifyEntry_eq (rt.log _) key e he, ChildEntry.stopped]
  | true =>
    simp only [if_true]
    rw [modifyEntry_eq (by simpa using he)]
    rfl

theorem Wf.exited (h : rt.Wf) {t : Task} {e : ChildEntry} (hc : rt.Current t.info e)
    (outcome : TaskOutcome) : (rt.exited t e outcome).Wf :=
  (h.consumed t).recorded hc.get ..

theorem currentChildMatches_iff {info : TaskMeta} :
    rt.currentChildMatches info.key info.instanceId info.generation = true ↔
      ∃ e, rt.Current info e := by
  unfold currentChildMatches
  cases hg : rt.children.get info.key with
  | none =>
    simp only [Option.any_none, Bool.false_eq_true, false_iff]
    rintro ⟨e, he⟩
    exact absurd (hg.symm.trans he.get) nofun
  | some e =>
    simp only [Option.any_some, Bool.and_eq_true, beq_iff_eq]
    constructor
    · rintro ⟨h₁, h₂⟩; exact ⟨e, hg, h₁, h₂⟩
    · rintro ⟨f, hf⟩
      cases hg.symm.trans hf.get
      exact ⟨hf.instanceId, hf.generation⟩

theorem find_iff (h : rt.Wf) {id : TaskId} {t : Task} :
    rt.joinSet.find id = some t ↔ t ∈ rt.joinSet.tasks ∧ t.id = id := by
  unfold JoinSet.find
  constructor
  · intro hf; exact ⟨List.mem_of_find?_eq_some hf, by simpa using List.find?_some hf⟩
  · rintro ⟨ht, rfl⟩
    have hsome : (rt.joinSet.tasks.find? (·.id == t.id)).isSome = true :=
      List.find?_isSome.2 ⟨t, ht, by simp⟩
    obtain ⟨u, hu⟩ := Option.isSome_iff_exists.1 hsome
    have hut : u = t := by
      refine List.inj_on_of_nodup_map h.taskNodup (List.mem_of_find?_eq_some hu) ht ?_
      simpa using List.find?_some hu
    rw [hu, hut]

theorem Wf.exists_joinTask (h : rt.Wf) (hf : rt.joinSet.anyFinished = true) :
    ∃ id x, rt.joinTask id = some x := by
  obtain ⟨t, ht, hout⟩ := List.any_eq_true.1 hf
  have hfind := (find_iff h).2 ⟨ht, rfl⟩
  obtain ⟨id, info, flag, outcome⟩ := t
  refine ⟨id, ?_⟩
  unfold joinTask JoinSet.joinNext
  rw [hfind]
  cases outcome with
  | none => cases hout
  | some outcome => cases outcome <;> exact ⟨_, rfl⟩

/-- A task leaves the join set only finished, and its join is either stale or that of an entry. -/
theorem Wf.consumeJoinedChild (h : rt.Wf) {id : TaskId} {rt₁ : SupervisorRuntime} {joined : Joined}
    (hj : rt.joinTask id = some (rt₁, joined)) :
    ∃ t outcome, t.id = id ∧ rt.Finished t outcome ∧
      ((¬ ∃ e, rt.Current t.info e) ∧ rt₁.consumeJoinedChild joined = (rt.ignored t, .ok none) ∨
        ∃ e, rt.Current t.info e ∧ rt₁.consumeJoinedChild joined =
          (rt.consumed t, .ok (some ⟨t.info.key, t.info.instanceId, t.info.generation,
            outcome.status⟩))) := by
  unfold joinTask JoinSet.joinNext at hj
  cases hf : rt.joinSet.find id with
  | none => simp [hf] at hj
  | some t =>
    obtain ⟨ht, rfl⟩ := (find_iff h).1 hf
    obtain ⟨tid, info, ab, _ | outcome⟩ := t
    · simp [hf] at hj
    · have hmeta : rt.taskMap.lookup tid = some info := (h.taskMap tid info).2 ⟨_, ht, rfl, rfl⟩
      have hmatch := @currentChildMatches_iff rt info
      refine ⟨_, outcome, rfl, ⟨ht, rfl⟩, ?_⟩
      by_cases hc : ∃ e, rt.Current info e
      · right
        obtain ⟨e, he⟩ := hc
        refine ⟨e, he, ?_⟩
        have hm := hmatch.2 ⟨e, he⟩
        rw [hf] at hj
        cases outcome <;> simp only [Option.map_some, Option.some.injEq, Prod.mk.injEq] at hj <;>
          obtain ⟨rfl, rfl⟩ := hj <;>
          simp only [SupervisorRuntime.consumeJoinedChild, classifyJoin, hmeta] <;>
          exact if_pos hm
      · refine .inl ⟨hc, ?_⟩
        have hm := mt hmatch.1 hc
        rw [hf] at hj
        cases outcome <;> simp only [Option.map_some, Option.some.injEq, Prod.mk.injEq] at hj <;>
          obtain ⟨rfl, rfl⟩ := hj <;>
          simp only [SupervisorRuntime.consumeJoinedChild, classifyJoin, hmeta] <;>
          exact if_neg hm

/-! ### Removal -/

/-- After the marking step of `remove_child`. -/
def requested (rt : SupervisorRuntime) (reply : Nat) (key : ChildKey) (e : ChildEntry) :
    SupervisorRuntime :=
  (((rt.setEntry key e.requested).subRunning (if e.counts then 1 else 0)).log
    (.removalRequested reply e.instanceId)).emitted (some e.instanceId) (.childRemoveRequested e.id)

/-- After `cancel_child` on the entry `e`. -/
def cancelledChild (rt : SupervisorRuntime) (e : ChildEntry) : SupervisorRuntime :=
  match e.runtime.activeToken with
  | none => rt
  | some token => { rt with tokens := rt.tokens.cancel token }.log (.tokenCancelled e.instanceId)

/-- After `abort_child` on the entry `e`. -/
def abortedChild (rt : SupervisorRuntime) (e : ChildEntry) : SupervisorRuntime :=
  match e.runtime.abortHandle with
  | none => rt
  | some task => { rt with joinSet := rt.joinSet.abort task }.log (.aborted e.instanceId)

/-- `finalize_removed_child` on the entry `e` at `key`, before its event. -/
def deleted (rt : SupervisorRuntime) (key : ChildKey) (e : ChildEntry) : SupervisorRuntime :=
  { rt with
    children := rt.children.remove key
    nestedStates := match e.nestedSnapshotState with
      | some i => rt.nestedStates.modify i fun _ => NestedSnapshotState.empty
      | none => rt.nestedStates
    liveTasks := rt.liveTasks - if e.live then 1 else 0
    childrenById := rt.childrenById.erase e.id
    childOrder := rt.childOrder.filter (· != key) }.log (.deleted key e.instanceId)

/-- After `finalize_removed_child` on the entry `e` at `key`. -/
def finalized (rt : SupervisorRuntime) (key : ChildKey) (e : ChildEntry) : SupervisorRuntime :=
  (rt.deleted key e).emitted (some e.instanceId) (.childRemoved e.id)

theorem requested_get (reply : Nat) {key : ChildKey} {e : ChildEntry}
    (he : rt.children.get key = some e) :
    (rt.requested reply key e).children.get key = some e.requested :=
  Slab.get_set_self he _

theorem Wf.requested (h : rt.Wf) (reply : Nat) {key : ChildKey} {e : ChildEntry}
    (he : rt.children.get key = some e) : (rt.requested reply key e).Wf :=
  h.setEntry he (by rfl) (h.ok he).requested

theorem Wf.cancelledChild (h : rt.Wf) (e : ChildEntry) : (rt.cancelledChild e).Wf := by
  unfold SupervisorRuntime.cancelledChild; split <;> exact h

theorem Wf.abortedChild (h : rt.Wf) (e : ChildEntry) : (rt.abortedChild e).Wf := by
  unfold SupervisorRuntime.abortedChild
  split
  · exact h
  · exact WfOf.abort h _

@[simp] theorem abortedChild_children (e : ChildEntry) :
    (rt.abortedChild e).children = rt.children := by
  unfold SupervisorRuntime.abortedChild; split <;> rfl

@[simp] theorem cancelledChild_children (e : ChildEntry) :
    (rt.cancelledChild e).children = rt.children := by
  unfold SupervisorRuntime.cancelledChild; split <;> rfl

theorem cancelChild_eq {key : ChildKey} {e : ChildEntry} (he : rt.children.get key = some e) :
    rt.cancelChild key = .ok (rt.cancelledChild e) := by
  simp only [cancelChild, cancelledChild, index_eq he, ok_bind]
  cases e.runtime.activeToken <;> rfl

theorem abortChild_eq {key : ChildKey} {e : ChildEntry} (he : rt.children.get key = some e) :
    rt.abortChild key = .ok (rt.abortedChild e) := by
  simp only [abortChild, abortedChild, index_eq he, ok_bind]
  cases e.runtime.abortHandle <;> rfl

theorem Wf.finalized (h : rt.Wf) {key : ChildKey} {e : ChildEntry}
    (he : rt.children.get key = some e) : (rt.finalized key e).Wf :=
  WfOf.remove h he

theorem Wf.finalizeRemovedChild (h : rt.Wf) {key : ChildKey} {e : ChildEntry}
    (he : rt.children.get key = some e) :
    rt.finalizeRemovedChild key = .ok (rt.finalized key e) := by
  have hwf : (rt.deleted key e).Wf := WfOf.remove h he
  rw [SupervisorRuntime.finalized, ← hwf.sendEvent]
  rcases hn : e.nestedSnapshotState with _ | i <;> rcases ha : e.runtime.abortHandle with _ | task <;>
    simp [SupervisorRuntime.finalizeRemovedChild, Slab.contains_iff.2 ⟨e, he⟩, index_eq he,
      SupervisorRuntime.deleted, ChildEntry.live, modifyNestedState, hn, ha]

theorem Wf.finalizeRemovedChildIfPresent (h : rt.Wf) (key : ChildKey) :
    rt.children.get key = none ∧ rt.finalizeRemovedChildIfPresent key = .ok rt ∨
      ∃ e, rt.children.get key = some e ∧
        rt.finalizeRemovedChildIfPresent key = .ok (rt.finalized key e) := by
  unfold SupervisorRuntime.finalizeRemovedChildIfPresent
  cases he : rt.children.get key with
  | none => simp [Slab.contains, he]
  | some e => simp [Slab.contains, he, h.finalizeRemovedChild he]

/-! ### `schedule_restart` -/

/-- After a restart that exceeds the intensity. -/
def overrun (rt : SupervisorRuntime) (key : ChildKey) (e : ChildEntry) : SupervisorRuntime :=
  (rt.setEntry key (e.scheduled (e.runtime.restartTracker.record rt.now)
    e.runtime.nextRestartDeadline)).emitted none .restartIntensityExceeded

/-- After a restart that is scheduled for `deadline`. -/
def scheduled (rt : SupervisorRuntime) (key : ChildKey) (e : ChildEntry) (deadline : Instant) :
    SupervisorRuntime :=
  rt.setEntry key (e.scheduled (e.runtime.restartTracker.record rt.now).backoff.2 (some deadline))

theorem Wf.scheduled (h : rt.Wf) {key : ChildKey} {e : ChildEntry}
    (he : rt.children.get key = some e) (deadline : Instant) : (rt.scheduled key e deadline).Wf :=
  h.setEntry he (by rfl) ((h.ok he).scheduled ..)

theorem scheduled_get {key : ChildKey} {e : ChildEntry} (he : rt.children.get key = some e)
    (deadline : Instant) : (rt.scheduled key e deadline).children.get key =
      some (e.scheduled (e.runtime.restartTracker.record rt.now).backoff.2 (some deadline)) :=
  Slab.get_set_self he _

theorem Wf.scheduleRestart (h : rt.Wf) {key : ChildKey} {e : ChildEntry}
    (he : rt.children.get key = some e) :
    rt.scheduleRestart key =
      (if (e.runtime.restartTracker.record rt.now).exceeded then
        .ok (rt.overrun key e, .error .restartIntensityExceeded)
      else match rt.now.checkedAdd (e.runtime.restartTracker.record rt.now).backoff.1 with
        | none => .error .instantOverflow
        | some deadline => .ok (rt.scheduled key e deadline,
            .ok (e.runtime.restartTracker.record rt.now).backoff.1)) := by
  simp only [SupervisorRuntime.scheduleRestart, index_eq he, ok_bind]
  split
  · have hwf : (rt.setEntry key (e.scheduled (e.runtime.restartTracker.record rt.now)
        e.runtime.nextRestartDeadline)).Wf := h.setEntry he rfl ((h.ok he).scheduled ..)
    have hsend := hwf.sendEvent none .restartIntensityExceeded
    simp only [ChildEntry.scheduled] at hsend
    rw [modifyEntry_eq he, hsend]
    rfl
  · unfold instantAdd
    cases rt.now.checkedAdd (e.runtime.restartTracker.record rt.now).backoff.1 with
    | none => rfl
    | some deadline =>
      simp only [ok_bind, modifyEntry_eq he]
      rw [index_eq (Slab.get_set_self he _)]
      rfl

/-! ### The end of the run -/

/-- After `finish_with_exit`. -/
def finishedWith (rt : SupervisorRuntime) (exit : SupervisorExit) : SupervisorRuntime :=
  { rt with state := .stopped, lastExit := some exit }.emitted none .supervisorStopped

theorem Wf.finishWithExit (h : rt.Wf) (exit : SupervisorExit) :
    rt.finishWithExit exit = .ok (rt.finishedWith exit) :=
  (show Wf { rt with state := .stopped, lastExit := some exit } from h).sendEvent _ _

theorem Wf.finishNaturalExit (h : rt.Wf) :
    rt.finishNaturalExit = .ok (rt.finishedWith rt.naturalExit, rt.naturalExit) := by
  simp [SupervisorRuntime.finishNaturalExit, h.finishWithExit]

/-! ### Adding a child -/

/-- The entry that `add_child` stores. -/
def newEntry (rt : SupervisorRuntime) (child : ChildSpec) : ChildEntry :=
  .new child.id child rt.info.defaultRestartIntensity rt.nextChildInstance rt.wallClock

/-- An entry is stored, without a task. -/
def inserted (rt : SupervisorRuntime) (key : ChildKey) (child : ChildSpec) : SupervisorRuntime :=
  { rt with
    children := rt.children.insert key (rt.newEntry child)
    nextChildInstance := saturatingSucc rt.nextChildInstance
    childrenById := rt.childrenById.insert child.id key
    childOrder := rt.childOrder ++ [key] }

/-- After `add_child`. -/
def added (rt : SupervisorRuntime) (key : ChildKey) (child : ChildSpec) : SupervisorRuntime :=
  (rt.inserted key child).spawned key (rt.newEntry child)

/-- `add_child` accepts the child. -/
structure Addable (rt : SupervisorRuntime) (child : ChildSpec) : Prop where
  state : rt.state ≠ .stopping
  id : child.id.isEmpty = false
  new : rt.childrenById.lookup child.id = none

theorem inserted_get {key : ChildKey} (hk : rt.children.vacant key = true) (child : ChildSpec) :
    (rt.inserted key child).children.get key = some (rt.newEntry child) :=
  Slab.get_insert_self hk _

theorem Wf.inserted (h : rt.Wf) {key : ChildKey} {child : ChildSpec}
    (hk : rt.children.vacant key = true) (hid : child.id.isEmpty = false)
    (hnew : rt.childrenById.lookup child.id = none) : (rt.inserted key child).Wf :=
  WfOf.insert h hk hnew (ChildEntry.Ok.new hid ..)

theorem Wf.added (h : rt.Wf) {key : ChildKey} {child : ChildSpec}
    (hk : rt.children.vacant key = true) (ha : rt.Addable child) : (rt.added key child).Wf :=
  (h.inserted hk ha.id ha.new).spawned (inserted_get hk child)
/-- The precondition that a call of `add_child` fails. -/
def addRefusal (rt : SupervisorRuntime) (child : ChildSpec) : Option ControlError :=
  if rt.state = .stopping then some .supervisorStopping
  else if child.id.isEmpty then some (.invalidConfig "child id must not be empty")
  else match child.restartIntensity.elim (.ok ()) RestartIntensity.validate with
    | .error err => some (mapBuildErrorToControl child.id err)
    | .ok () =>
      if (rt.childrenById.lookup child.id).isSome then some (.duplicateChildId child.id) else none

theorem Wf.addChild (h : rt.Wf) {key : ChildKey} (hk : rt.children.vacant key = true)
    (child : ChildSpec) :
    (∃ e, rt.addRefusal child = some e ∧ rt.addChild key child = .ok (rt, .error e)) ∨
      rt.addRefusal child = none ∧ rt.Addable child ∧
        rt.addChild key child = .ok (rt.added key child, .ok ()) := by
  unfold SupervisorRuntime.addChild addRefusal
  by_cases hs : rt.state = .stopping
  · exact .inl ⟨.supervisorStopping, by simp [hs], by simp [hs]⟩
  by_cases hid : child.id.isEmpty = true
  · exact .inl ⟨.invalidConfig "child id must not be empty", by simp [hs, hid], by simp [hs, hid]⟩
  rw [Bool.not_eq_true] at hid
  cases hi : child.restartIntensity.elim (.ok ()) RestartIntensity.validate with
  | error err =>
    exact .inl ⟨mapBuildErrorToControl child.id err, by simp [hs, hid], by simp [hs, hid]⟩
  | ok u =>
    cases hl : rt.childrenById.lookup child.id with
    | some k => exact .inl ⟨.duplicateChildId child.id, by simp [hs, hid], by simp [hs, hid]⟩
    | none =>
      refine .inr ⟨by simp [hs, hid], ⟨hs, hid, hl⟩, ?_⟩
      have hspawn := (h.inserted hk hid hl).spawnChild (inserted_get hk child)
      simp only [SupervisorRuntime.inserted, SupervisorRuntime.newEntry] at hspawn
      simp [hs, hid, hspawn, SupervisorRuntime.added, SupervisorRuntime.inserted,
        SupervisorRuntime.newEntry]

end SupervisorRuntime
end TokioSupervisor
