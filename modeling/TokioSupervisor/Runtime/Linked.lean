import TokioSupervisor.Runtime.Nesting
import TokioSupervisor.Runtime.Incarnations

/-!
# Tasks and their nested snapshots

What a step of the run that is no part of the exchange makes of the nested snapshots (`Update.nested`):
it keeps them, spawns a task with an empty state, or clears the state of a removed child. A task and its
`NestedSnapshotState` have the same number, and the entry that holds one holds the other (`Linked`).
-/

namespace TokioSupervisor
open Lib SupervisorRuntime

/-! ### What an update makes of the nested snapshots -/

theorem ChildEntry.incarnation_congr {e e' : ChildEntry} (key : ChildKey)
    (hi : e'.instanceId = e.instanceId) (hg : e'.runtime.generation = e.runtime.generation) :
    e'.incarnation key = e.incarnation key := by
  simp only [ChildEntry.incarnation, hi, hg]

/-- The nested snapshots are as before, except that children may have stopped. -/
structure KeepsNested (rt rt' : SupervisorRuntime) : Prop where
  numbers : KeepsNumbers rt rt'
  channel : rt'.nestedSnapshotRx = rt.nestedSnapshotRx
  states : rt'.nestedStates = rt.nestedStates
  spawned : spawns rt'.trace = spawns rt.trace
  entries : ∀ key e', rt'.children.get key = some e' →
    e'.nestedSnapshot = none ∧ e'.nestedSnapshotState = none ∧ e'.runtime.abortHandle = none ∨
      ∃ e, rt.children.get key = some e ∧ e'.nestedSnapshot = e.nestedSnapshot ∧
        e'.nestedSnapshotState = e.nestedSnapshotState ∧
        e'.runtime.abortHandle = e.runtime.abortHandle ∧ e'.incarnation key = e.incarnation key

namespace KeepsNested
variable {rt rt' : SupervisorRuntime}

theorem same (hn : KeepsNumbers rt rt') (hs : spawns rt'.trace = spawns rt.trace)
    (hrx : rt'.nestedSnapshotRx = rt.nestedSnapshotRx) (hst : rt'.nestedStates = rt.nestedStates)
    (hc : rt'.children = rt.children) : KeepsNested rt rt' :=
  ⟨hn, hrx, hst, hs, fun _ e he => .inr ⟨e, hc ▸ he, rfl, rfl, rfl, rfl⟩⟩

theorem set {key : ChildKey} {e e' : ChildEntry} (hn : KeepsNumbers rt rt')
    (hs : spawns rt'.trace = spawns rt.trace) (hrx : rt'.nestedSnapshotRx = rt.nestedSnapshotRx)
    (hst : rt'.nestedStates = rt.nestedStates) (he : rt.children.get key = some e)
    (hc : rt'.children = rt.children.set key e')
    (hsame : e'.nestedSnapshot = none ∧ e'.nestedSnapshotState = none ∧ e'.runtime.abortHandle = none ∨
      e'.nestedSnapshot = e.nestedSnapshot ∧ e'.nestedSnapshotState = e.nestedSnapshotState ∧
        e'.runtime.abortHandle = e.runtime.abortHandle ∧ e'.incarnation key = e.incarnation key) :
    KeepsNested rt rt' := by
  refine ⟨hn, hrx, hst, hs, fun k f hf => ?_⟩
  rw [hc, Slab.get_set he] at hf
  split at hf
  · rename_i hk
    subst hk
    cases hf
    exact hsame.imp_right fun h => ⟨e, he, h⟩
  · exact .inr ⟨f, hf, rfl, rfl, rfl, rfl⟩

end KeepsNested

/-- What an update of a step that has no part in the exchange makes of the nested snapshots. -/
inductive NestedEffect (c : Config) (rt : SupervisorRuntime) : SupervisorRuntime → Prop
  | keeps {rt' : SupervisorRuntime} (h : KeepsNested rt rt') : NestedEffect c rt rt'
  | spawned {rt' : SupervisorRuntime} {key : ChildKey} {e : ChildEntry} (h : Spawns c rt key e rt') :
      NestedEffect c rt rt'
  | finalized {rt₁ : SupervisorRuntime} {key : ChildKey} {e : ChildEntry} (h : KeepsNested rt rt₁)
      (he : rt₁.children.get key = some e) : NestedEffect c rt (rt₁.finalized key e)

theorem Update.nested {c c' : Config} {a : Act} {rt rt' : SupervisorRuntime}
    (h : Update c a c' rt rt') (hwf : rt.Wf) (ha : a.nests = false) : NestedEffect c rt rt' := by
  rcases h.numbers hwf with ⟨key, e, hs⟩ | hnum
  · exact .spawned hs
  have hspawns : spawns rt'.trace = spawns rt.trace := by
    rcases h.spawns_eq hwf with heq | ⟨key, e, hs⟩
    · exact heq
    · have hnext := hnum.nextId
      rw [hs.joinSet] at hnext
      exact absurd hnext (Nat.succ_ne_self _)
  have hsame (hrx : rt'.nestedSnapshotRx = rt.nestedSnapshotRx)
      (hst : rt'.nestedStates = rt.nestedStates) (hc : rt'.children = rt.children) :
      NestedEffect c rt rt' :=
    .keeps (.same hnum hspawns hrx hst hc)
  have hno {P : Prop} (hx : P ∨ a.nests = true) : P :=
    hx.resolve_right (by rw [ha]; exact Bool.false_ne_true)
  cases h with
  | aux x hx => exact hsame (hno hx).1 (hno hx).2 rfl
  | @entry key e e' he hs hn =>
    have hinc := ChildEntry.incarnation_congr key hs.instanceId hs.generation
    exact .keeps (.set hnum hspawns rfl rfl he rfl (.inr ⟨(hno hn).1, (hno hn).2, hs.abortHandle, hinc⟩))
  | @terminated key e status generation he _ _ =>
    refine .keeps (.set hnum hspawns rfl rfl he rfl (.inr ?_))
    unfold ChildEntry.terminated
    split
    · split <;> exact ⟨rfl, rfl, rfl, rfl⟩
    · exact ⟨rfl, rfl, rfl, rfl⟩
  | requested reply he _ _ _ _ _ =>
    exact .keeps (.set hnum hspawns rfl rfl he rfl (.inr ⟨rfl, rfl, rfl, rfl⟩))
  | @removed key e reply he _ _ _ _ =>
    have hset : KeepsNumbers rt (rt.setEntry key e.requested) := .setEntry he rfl rfl rfl
    have hreq : KeepsNumbers rt (rt.requested reply key e) := hset.trans (.same rfl rfl rfl)
    exact .finalized (.set hreq hspawns rfl rfl he rfl (.inr ⟨rfl, rfl, rfl, rfl⟩)) (requested_get reply he)
  | cancelled =>
    refine hsame ?_ ?_ (cancelledChild_children _) <;>
      unfold SupervisorRuntime.cancelledChild <;> split <;> rfl
  | aborted =>
    refine hsame ?_ ?_ (abortedChild_children _) <;>
      unfold SupervisorRuntime.abortedChild <;> split <;> rfl
  | exited _ _ _ hc =>
    exact .keeps (.set hnum hspawns rfl rfl hc.get rfl (.inl ⟨rfl, rfl, rfl⟩))
  | @finalized key e he _ _ | @detached key e _ _ he _ _ =>
    exact .finalized (.same (.same rfl rfl rfl) rfl rfl rfl rfl) he
  | cancelledAll _ =>
    obtain ⟨C, n, heq, hget, -⟩ := hwf.cancelRunningChildren
    refine .keeps ⟨hnum, by rw [heq]; rfl, by rw [heq]; rfl, hspawns, fun key e' he' => ?_⟩
    have hg : rt.cancelRunningChildren.children.get key = C.get key := by rw [heq]; rfl
    rw [hg, hget, Option.map_eq_some_iff] at he'
    obtain ⟨e, he, rfl⟩ := he'
    refine .inr ⟨e, he, ?_⟩
    unfold ChildEntry.stopping
    split <;> exact ⟨rfl, rfl, rfl, rfl⟩
  | started | added | respawned | groupRespawned => exact absurd hnum.nextId (Nat.succ_ne_self _)
  | _ => exact hsame rfl rfl rfl

section
variable {c : Config} {rt rt' : SupervisorRuntime} {key : ChildKey} {e : ChildEntry}

theorem Spawns.nested (h : Spawns c rt key e rt') : rt'.nestedSnapshotRx = rt.nestedSnapshotRx ∧
    rt'.nestedStates = rt.nestedStates ++ [NestedSnapshotState.empty] := by
  cases h <;> exact ⟨rfl, rfl⟩

theorem Spawns.entries (h : Spawns c rt key e rt') {k : ChildKey} {f : ChildEntry}
    (hf : rt'.children.get k = some f) :
    (k = key ∧ ∃ token, f = e.started token rt.nestedStates.length rt.joinSet.nextId) ∨
      rt.children.get k = some f := by
  have hspawn {rt₁ : SupervisorRuntime} (he : rt₁.children.get key = some e)
      (hf : (rt₁.spawned key e).children.get k = some f) :
      (k = key ∧ f = e.started (rt₁.tokens.childToken rt₁.groupToken).1 rt₁.nestedStates.length
        rt₁.joinSet.nextId) ∨ k ≠ key ∧ rt₁.children.get k = some f := by
    by_cases hk : k = key
    · subst hk
      rw [spawned_get he] at hf
      cases hf
      exact .inl ⟨rfl, rfl⟩
    · exact .inr ⟨hk, (spawned_get_ne he hk).symm.trans hf⟩
  cases h with
  | started he _ _ =>
    rcases hspawn he hf with ⟨hk, heq⟩ | ⟨_, hg⟩
    · exact .inl ⟨hk, _, heq⟩
    · exact .inr hg
  | restarted he _ _ =>
    rcases hspawn he hf with ⟨hk, heq⟩ | ⟨_, hg⟩
    · exact .inl ⟨hk, _, heq⟩
    · exact .inr hg
  | added hv _ =>
    rcases hspawn (inserted_get hv _) hf with ⟨hk, heq⟩ | ⟨hk, hg⟩
    · exact .inl ⟨hk, _, heq⟩
    · exact .inr ((Slab.get_insert_ne hv _ hk).symm.trans hg)

end

/-! ### Tasks and their states -/

/-- A task and its state have the same number, which the entry keeps twice. -/
structure SupervisorRuntime.Linked (rt : SupervisorRuntime) : Prop where
  lengths : rt.nestedStates.length = rt.joinSet.nextId
  spawnLt : ∀ s ∈ spawns rt.trace, s.2 < rt.joinSet.nextId
  ids : ((spawns rt.trace).map (·.2)).Nodup
  tasks : ∀ t ∈ rt.joinSet.tasks, (t.info, t.id) ∈ spawns rt.trace
  state : ∀ key e, rt.children.get key = some e → e.nestedSnapshotState = e.runtime.abortHandle
  spawned : ∀ key e i, rt.children.get key = some e → e.runtime.abortHandle = some i →
    (e.incarnation key, i) ∈ spawns rt.trace

/-- What the steps of the exchange leave alone, until the handler writes to an entry. -/
structure SameChildren (rt rt' : SupervisorRuntime) : Prop where
  children : rt'.children = rt.children
  joinSet : rt'.joinSet = rt.joinSet
  length : rt'.nestedStates.length = rt.nestedStates.length
  spawned : spawns rt'.trace = spawns rt.trace

theorem SameChildren.modify (rt : SupervisorRuntime) (i : Nat)
    (f : NestedSnapshotState → NestedSnapshotState) : SameChildren rt (rt.modifyNestedState i f) :=
  ⟨rfl, rfl, List.length_modify .., rfl⟩

namespace SupervisorRuntime.Linked
variable {c : Config} {rt rt' : SupervisorRuntime} {key : ChildKey} {e : ChildEntry} {i : TaskId}

theorem lt (h : rt.Linked) (he : rt.children.get key = some e) (hi : e.runtime.abortHandle = some i) :
    i < rt.joinSet.nextId :=
  h.spawnLt _ (h.spawned key e i he hi)

theorem info_unique (h : rt.Linked) {info info' : TaskMeta} (hs : (info, i) ∈ spawns rt.trace)
    (hs' : (info', i) ∈ spawns rt.trace) : info = info' :=
  congrArg Prod.fst (List.inj_on_of_nodup_map h.ids hs hs' rfl)

theorem key_unique (h : rt.Linked) {key' : ChildKey} {e' : ChildEntry}
    (he : rt.children.get key = some e) (hi : e.runtime.abortHandle = some i)
    (he' : rt.children.get key' = some e') (hi' : e'.runtime.abortHandle = some i) : key = key' :=
  congrArg TaskMeta.key (h.info_unique (h.spawned key e i he hi) (h.spawned key' e' i he' hi'))

theorem keep (h : rt.Linked) (hk : KeepsNested rt rt') : rt'.Linked := by
  refine ⟨?_, ?_, hk.spawned ▸ h.ids, fun t ht => ?_, fun key e' he' => ?_, fun key e' i he' hi => ?_⟩
  · rw [hk.states, hk.numbers.nextId]
    exact h.lengths
  · rw [hk.spawned, hk.numbers.nextId]
    exact h.spawnLt
  · obtain ⟨u, hu, hid, hinfo⟩ := hk.numbers.tasks t ht
    rw [hk.spawned, ← hid, ← hinfo]
    exact h.tasks u hu
  · rcases hk.entries key e' he' with ⟨-, hs, ha⟩ | ⟨e, he, -, hs, ha, -⟩
    · rw [hs, ha]
    · rw [hs, ha]
      exact h.state key e he
  · rcases hk.entries key e' he' with ⟨-, -, ha⟩ | ⟨e, he, -, -, ha, hinc⟩
    · rw [ha] at hi
      cases hi
    · rw [hk.spawned, hinc]
      exact h.spawned key e i he (ha ▸ hi)

theorem finalize (h : rt.Linked) (key : ChildKey) (e : ChildEntry) : (rt.finalized key e).Linked := by
  have hget {k : ChildKey} {f : ChildEntry} (hf : (rt.finalized key e).children.get k = some f) :
      rt.children.get k = some f := by
    have hf : (rt.children.remove key).get k = some f := hf
    rw [Slab.get_remove] at hf
    split at hf
    · cases hf
    · exact hf
  refine ⟨?_, h.spawnLt, h.ids, h.tasks, fun k f hf => h.state k f (hget hf),
    fun k f i hf => h.spawned k f i (hget hf)⟩
  rw [← show rt.nestedStates.length = (rt.finalized key e).joinSet.nextId from h.lengths]
  simp only [SupervisorRuntime.finalized, SupervisorRuntime.deleted, emitted, log]
  split
  · exact List.length_modify ..
  · rfl

theorem spawn (h : rt.Linked) (hs : Spawns c rt key e rt') : rt'.Linked := by
  have hnew : (⟨key, e.instanceId, e.nextGeneration⟩, rt.joinSet.nextId) ∈ spawns rt'.trace := by
    rw [hs.spawns_eq]
    exact List.mem_cons_self
  have hold {s : TaskMeta × TaskId} (hm : s ∈ spawns rt.trace) : s ∈ spawns rt'.trace := by
    rw [hs.spawns_eq]
    exact List.mem_cons_of_mem _ hm
  refine ⟨?_, fun s hm => ?_, ?_, fun t ht => ?_, fun k f hf => ?_, fun k f i hf hi => ?_⟩
  · rw [hs.nested.2, hs.joinSet, List.length_append, h.lengths]
    rfl
  · rw [hs.spawns_eq] at hm
    rw [hs.joinSet]
    rcases List.mem_cons.1 hm with rfl | hm
    · exact Nat.lt_succ_self _
    · exact Nat.lt_succ_of_lt (h.spawnLt s hm)
  · rw [hs.spawns_eq, List.map_cons, List.nodup_cons]
    refine ⟨fun hm => ?_, h.ids⟩
    obtain ⟨s, hm, hid⟩ := List.mem_map.1 hm
    exact absurd (h.spawnLt s hm) (by rw [hid]; exact Nat.lt_irrefl _)
  · rw [hs.joinSet] at ht
    rcases List.mem_append.1 ht with ht | ht
    · exact hold (h.tasks t ht)
    · rw [List.mem_singleton.1 ht]
      exact hnew
  · rcases hs.entries hf with ⟨-, token, rfl⟩ | hg
    · exact congrArg some h.lengths
    · exact h.state k f hg
  · rcases hs.entries hf with ⟨rfl, token, rfl⟩ | hg
    · cases hi
      exact hnew
    · exact hold (h.spawned k f i hg hi)

theorem same (h : rt.Linked) (hs : SameChildren rt rt') : rt'.Linked where
  lengths := by rw [hs.length, hs.joinSet]; exact h.lengths
  spawnLt := by rw [hs.spawned, hs.joinSet]; exact h.spawnLt
  ids := by rw [hs.spawned]; exact h.ids
  tasks := by rw [hs.spawned, hs.joinSet]; exact h.tasks
  state := by rw [hs.children]; exact h.state
  spawned := by rw [hs.spawned, hs.children]; exact h.spawned

end SupervisorRuntime.Linked

theorem insertInitial_unnested {rt : SupervisorRuntime} {specs : List ChildSpec}
    (h : ∀ key e, rt.children.get key = some e → e.nestedSnapshot = none ∧ e.nestedSnapshotState = none) :
    (rt.insertInitial specs).nestedStates = rt.nestedStates ∧
      ∀ key e, (rt.insertInitial specs).children.get key = some e →
        e.nestedSnapshot = none ∧ e.nestedSnapshotState = none := by
  induction specs generalizing rt with
  | nil => exact ⟨rfl, h⟩
  | cons spec rest ih =>
    rw [insertInitial_cons]
    refine ih fun key e he => ?_
    have he : (rt.children.insert rt.children.slots.length (rt.newEntry spec)).get key = some e := he
    rw [Slab.get_insert (vacant_length _)] at he
    split at he
    · cases he
      exact ⟨rfl, rfl⟩
    · exact h key e he

theorem SupervisorConfig.Accepted.unnested {config : SupervisorConfig} (env : StartEnv) :
    (SupervisorRuntime.new config env).nestedStates = [] ∧
      ∀ key e, (SupervisorRuntime.new config env).children.get key = some e →
        e.nestedSnapshot = none ∧ e.nestedSnapshotState = none :=
  insertInitial_unnested fun key e he => by simp at he

theorem SupervisorConfig.Accepted.linked {config : SupervisorConfig} (h : config.Accepted)
    (env : StartEnv) : (SupervisorRuntime.new config env).Linked := by
  have hfresh := h.fresh env
  have hnone : spawns (SupervisorRuntime.new config env).trace = [] := by rw [hfresh.trace]; rfl
  obtain ⟨hstates, hentry⟩ := @SupervisorConfig.Accepted.unnested config env
  refine ⟨?_, ?_, ?_, ?_, fun key e he => ?_, fun key e i he hi => ?_⟩
  · rw [hstates, hfresh.joinSet]
    rfl
  · rw [hnone]
    exact nofun
  · rw [hnone]
    exact List.nodup_nil
  · rw [hfresh.joinSet]
    exact nofun
  · rw [(hentry key e he).2, (hfresh.unborn key e he).abortHandle]
  · rw [(hfresh.unborn key e he).abortHandle] at hi
    cases hi

end TokioSupervisor
