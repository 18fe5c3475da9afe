import TokioSupervisor.Nested.Endings
import TokioSupervisor.Runtime.Counters
import TokioSupervisor.Runtime.Linked

/-!
# The registry of control endpoints

The first poll of `run_as_child` registers the nested supervisor's control endpoint under the path of
its child, and the `NestedControlRegistration` that it holds removes what is under this path when it is
dropped. The registry outlives a run of the supervisor, so wrappers that an earlier, detached run has
left behind use the same paths. The paths of the children of one supervisor differ in the child's id.

Whoever registers after the drop of its predecessor's registration is found under its path
(`Routed`). An abort detaches a child whose wrapper is dropped only later, when its successor may have
registered.
-/

namespace TokioSupervisor
open Lib SupervisorRuntime

/-- The endpoint of the nested supervisor of a child task. -/
inductive ControlEndpoint
  /-- The task is one of an earlier run of the supervisor. -/
  | earlier (n : Nat)
  | own (t : TaskId)
deriving DecidableEq, Repr

/-- The task of `x` was spawned before that of `y`. -/
def ControlEndpoint.older : ControlEndpoint → ControlEndpoint → Bool
  | .earlier m, .earlier n => decide (m < n)
  | .earlier _, .own _ => true
  | .own _, .earlier _ => false
  | .own t, .own u => decide (t < u)

structure NestedControlRegistry where
  endpoints : String → Option ControlEndpoint

namespace NestedControlRegistry

def insert (registry : NestedControlRegistry) (path : String) (endpoint : ControlEndpoint) :
    NestedControlRegistry :=
  ⟨Function.update registry.endpoints path (some endpoint)⟩

def remove (registry : NestedControlRegistry) (path : String) : NestedControlRegistry :=
  ⟨Function.update registry.endpoints path none⟩

def get (registry : NestedControlRegistry) (path : String) : Option ControlEndpoint :=
  registry.endpoints path

variable (registry : NestedControlRegistry) (path path' : String) (endpoint : ControlEndpoint)

@[simp] theorem get_insert : (registry.insert path endpoint).get path' =
    if path' = path then some endpoint else registry.get path' :=
  Function.update_apply ..

@[simp] theorem get_remove : (registry.remove path).get path' =
    if path' = path then none else registry.get path' :=
  Function.update_apply ..

end NestedControlRegistry

/-- A registration that has not been dropped, with the endpoint that it was made for. -/
structure NestedControlRegistration where
  childPath : String
  endpoint : ControlEndpoint
deriving DecidableEq, Repr

/-- A supervisor, the supervisors that run as its children, and the registry that they share. For each
drop that has removed an endpoint, `removals` has its own and the removed one; no step reads it. -/
structure ControlTree where
  tree : SupervisorTree
  registry : NestedControlRegistry
  registrations : List NestedControlRegistration
  removals : List (ControlEndpoint × ControlEndpoint)

inductive ControlAct
  | tree (a : TreeAct)
  /-- The first poll of `run_as_child` goes on after `spawn_with_control`. -/
  | register (t : TaskId)
  /-- A wrapper that an earlier run of the supervisor has left behind registers its endpoint. -/
  | earlierRegisters (path : String) (n : Nat)
  | earlierDrops (path : String) (n : Nat)

namespace ControlTree

def start (config : SupervisorConfig) (env : StartEnv) : ControlTree :=
  ⟨.start config env, ⟨fun _ => none⟩, [], []⟩

/-- `NestedControlScope::register`. -/
def register (s : ControlTree) (r : NestedControlRegistration) : Option ControlTree :=
  if r ∈ s.registrations then none
  else some { s with
    registry := s.registry.insert r.childPath r.endpoint
    registrations := r :: s.registrations }

/-- `NestedControlRegistration::drop`. -/
def drop (s : ControlTree) (r : NestedControlRegistration) : Option ControlTree :=
  if r ∈ s.registrations then some { s with
    registry := s.registry.remove r.childPath
    registrations := s.registrations.filter (· ≠ r)
    removals := match s.registry.get r.childPath with
      | some removed => (r.endpoint, removed) :: s.removals
      | none => s.removals }
  else none

/-- The registration of the wrapper in the child task `t`. -/
def registration (s : ControlTree) (t : TaskId) : Option NestedControlRegistration :=
  (s.tree.contexts t).map fun ctx => ⟨ctx.id, .own t⟩

def registered (s : ControlTree) (t : TaskId) : Bool :=
  (s.registration t).any (· ∈ s.registrations)

/-- The wrapper in the child task `t` is over, and drops its registration. -/
def leave (s : ControlTree) (t : TaskId) : Option ControlTree :=
  (s.registration t).bind s.drop

def treeStep (supervisors : Nat → Option SupervisorConfig) (s : ControlTree) (a : TreeAct) :
    Option ControlTree :=
  (s.tree.step supervisors a).map ({ s with tree := · })

def step (supervisors : Nat → Option SupervisorConfig) (s : ControlTree) :
    ControlAct → Option ControlTree
  | .register t =>
    match s.tree.running t, s.tree.nested t with
    | some _, some _ => (s.registration t).bind s.register
    | _, _ => none
  | .earlierRegisters path n => s.register ⟨path, .earlier n⟩
  | .earlierDrops path n => s.drop ⟨path, .earlier n⟩
  -- the wrapper gets to an await when it has registered
  | .tree (.cancelled t) =>
    if s.registered t then s.treeStep supervisors (.cancelled t) else none
  | .tree (.waited t display) => (s.leave t).bind (·.treeStep supervisors (.waited t display))
  | .tree (.dropped t) =>
    -- or it was never polled
    if (s.tree.nested t).isSome then (s.leave t).bind (·.treeStep supervisors (.dropped t))
    else s.treeStep supervisors (.dropped t)
  | .tree a => s.treeStep supervisors a

/-- Under the path of a child is the endpoint of its current task, once this has registered and until
it drops its registration; and no drop has removed an endpoint newer than its own. -/
structure Routed (s : ControlTree) : Prop where
  current : ∀ key e t, s.tree.parent.rt.children.get key = some e → e.runtime.abortHandle = some t →
    ⟨e.id, .own t⟩ ∈ s.registrations → s.registry.get e.id = some (.own t)
  removals : ∀ r ∈ s.removals, r.1.older r.2 = false

/-! ### Conditions -/

/-- No registration under the path of `r` is newer. -/
def newest (s : ControlTree) (r : NestedControlRegistration) : Bool :=
  s.registrations.all fun r' => r'.childPath != r.childPath || !r.endpoint.older r'.endpoint

/-- The registrations under a path come in the order of the tasks, each before the next: nothing is
registered or dropped while there is a newer one. -/
def inTurn (s : ControlTree) : ControlAct → Bool
  | .register t => (s.registration t).all s.newest
  | .tree (.waited t _) | .tree (.dropped t) => !s.registered t || (s.registration t).all s.newest
  | .earlierRegisters path n | .earlierDrops path n => s.newest ⟨path, .earlier n⟩
  | .tree _ => true

end ControlTree

/-! ### The current tasks -/

/-- No child has a new task, and the ids are as before. -/
def KeepsHandles (rt rt' : SupervisorRuntime) : Prop :=
  ∀ key e', rt'.children.get key = some e' → e'.runtime.abortHandle = none ∨
    ∃ e, rt.children.get key = some e ∧ e'.id = e.id ∧ e'.runtime.abortHandle = e.runtime.abortHandle

namespace KeepsHandles
variable {rt rt' rt'' : SupervisorRuntime}

theorem same (hc : rt'.children = rt.children) : KeepsHandles rt rt' :=
  fun _ e he => .inr ⟨e, hc ▸ he, rfl, rfl⟩

theorem set {key : ChildKey} {e e' : ChildEntry} (he : rt.children.get key = some e)
    (hc : rt'.children = rt.children.set key e') (hsame : e'.runtime.abortHandle = none ∨
      e'.id = e.id ∧ e'.runtime.abortHandle = e.runtime.abortHandle) : KeepsHandles rt rt' := by
  intro k f hf
  rw [hc, Slab.get_set he] at hf
  split at hf
  · rename_i hk
    subst hk
    cases hf
    exact hsame.imp_right fun h => ⟨e, he, h⟩
  · exact .inr ⟨f, hf, rfl, rfl⟩

theorem remove {key : ChildKey} (hc : rt'.children = rt.children.remove key) : KeepsHandles rt rt' := by
  intro k f hf
  rw [hc, Slab.get_remove] at hf
  split at hf
  · cases hf
  · exact .inr ⟨f, hf, rfl, rfl⟩

theorem trans (h : KeepsHandles rt rt') (h' : KeepsHandles rt' rt'') : KeepsHandles rt rt'' := by
  intro key e'' he''
  rcases h' key e'' he'' with hnone | ⟨e', he', hid, hh⟩
  · exact .inl hnone
  · rcases h key e' he' with hnone | ⟨e, he, hid', hh'⟩
    · exact .inl (hh.trans hnone)
    · exact .inr ⟨e, he, hid.trans hid', hh.trans hh'⟩

end KeepsHandles

theorem Update.handles {c c' : Config} {a : Act} {rt rt' : SupervisorRuntime}
    (h : Update c a c' rt rt') (hwf : rt.Wf) :
    (∃ key e, Spawns c rt key e rt') ∨ rt'.joinSet.nextId = rt.joinSet.nextId ∧ KeepsHandles rt rt' := by
  rcases h.numbers hwf with hs | hnum
  · exact .inl hs
  refine .inr ⟨hnum.nextId, ?_⟩
  cases h with
  | started | added | respawned | groupRespawned => exact absurd hnum.nextId (Nat.succ_ne_self _)
  | entry he hs => exact .set he rfl (.inr ⟨hs.id, hs.abortHandle⟩)
  | terminated g he _ _ => exact .set he rfl (.inr ⟨by simp, by simp⟩)
  | requested reply he _ _ _ _ _ => exact .set he rfl (.inr ⟨rfl, rfl⟩)
  | @removed key e reply he _ _ _ _ =>
    have hset : KeepsHandles rt (rt.requested reply key e) := .set he rfl (.inr ⟨rfl, rfl⟩)
    exact hset.trans (.remove rfl)
  | cancelled => exact .same (cancelledChild_children _)
  | aborted => exact .same (abortedChild_children _)
  | exited _ _ _ hc => exact .set hc.get rfl (.inl rfl)
  | finalized | detached => exact .remove rfl
  | cancelledAll =>
    obtain ⟨C, n, heq, hget, -⟩ := hwf.cancelRunningChildren
    intro key e' he'
    have he' : C.get key = some e' := by rwa [heq] at he'
    rw [hget, Option.map_eq_some_iff] at he'
    obtain ⟨e, he, rfl⟩ := he'
    refine .inr ⟨e, he, ?_⟩
    unfold ChildEntry.stopping
    split <;> exact ⟨rfl, rfl⟩
  | _ => exact .same rfl

/-- The current tasks of children have been spawned. -/
def SupervisorRuntime.Handled (rt : SupervisorRuntime) : Prop :=
  ∀ key e t, rt.children.get key = some e → e.runtime.abortHandle = some t → t < rt.joinSet.nextId

theorem Update.handled {c c' : Config} {a : Act} {rt rt' : SupervisorRuntime}
    (h : Update c a c' rt rt') (hwf : rt.Wf) (hI : rt.Handled) : rt'.Handled := by
  intro key e' t he' ht
  rcases h.handles hwf with ⟨k, e, hs⟩ | ⟨hnext, hk⟩
  · have hnext : rt'.joinSet.nextId = rt.joinSet.nextId + 1 := by rw [hs.joinSet]; rfl
    rw [hnext]
    rcases hs.entries he' with ⟨-, token, rfl⟩ | hg
    · cases ht
      exact Nat.lt_succ_self _
    · exact Nat.lt_succ_of_lt (hI key e' t hg ht)
  · rw [hnext]
    rcases hk key e' he' with hnone | ⟨e, he, -, hh⟩
    · rw [hnone] at ht
      cases ht
    · exact hI key e t he (hh ▸ ht)

/-- A child had its task before the step, or the task is new. -/
theorem step_handle {c c' : Config} {a : Act} (hs : c.Sane) (hI : c.rt.Handled)
    (hstep : step c a = some c') : c'.rt.Handled ∧ ∀ key e' t, c'.rt.children.get key = some e' →
      e'.runtime.abortHandle = some t → c.rt.joinSet.nextId ≤ t ∨
        ∃ e, c.rt.children.get key = some e ∧ e'.id = e.id ∧ e.runtime.abortHandle = some t := by
  have h := ((step_rule hs hstep).updates hs.wf).invariant
    (I := fun rt => rt.Handled ∧ c.rt.joinSet.nextId ≤ rt.joinSet.nextId ∧
      ∀ key e' t, rt.children.get key = some e' → e'.runtime.abortHandle = some t →
        c.rt.joinSet.nextId ≤ t ∨
          ∃ e, c.rt.children.get key = some e ∧ e'.id = e.id ∧ e.runtime.abortHandle = some t)
    hs.wf ⟨hI, le_rfl, fun key e t he ht => .inr ⟨e, he, rfl, ht⟩⟩ ?_
  · exact ⟨h.2.1, h.2.2.2⟩
  · rintro rt rt' hwf ⟨hhandled, hle, hfrom⟩ hu
    refine ⟨hu.handled hwf hhandled, ?_⟩
    rcases hu.handles hwf with ⟨k, f, hsp⟩ | ⟨hnext, hk⟩
    · refine ⟨by rw [hsp.joinSet]; exact Nat.le_succ_of_le hle, fun key e' t he' ht => ?_⟩
      rcases hsp.entries he' with ⟨-, token, rfl⟩ | hg
      · cases ht
        exact .inl hle
      · exact hfrom key e' t hg ht
    · refine ⟨hnext ▸ hle, fun key e' t he' ht => ?_⟩
      rcases hk key e' he' with hnone | ⟨e, he, hid, hh⟩
      · rw [hnone] at ht
        cases ht
      · rw [hid]
        exact hfrom key e t he (hh ▸ ht)

theorem SupervisorRuntime.context_entry {rt : SupervisorRuntime} {t : TaskId} {ctx : ChildContext}
    (h : rt.context t = some ctx) :
    ∃ key e, rt.children.get key = some e ∧ e.runtime.abortHandle = some t ∧ ctx.id = e.id := by
  obtain ⟨e, he, hctx⟩ := Option.bind_eq_some_iff.1 h
  obtain ⟨token, -, rfl⟩ := Option.map_eq_some_iff.1 hctx
  obtain ⟨key, hkey⟩ := Slab.mem_iter.1 (List.mem_of_find?_eq_some he)
  exact ⟨key, e, hkey, by simpa using List.find?_some he, rfl⟩

namespace SupervisorTree
variable {supervisors : Nat → Option SupervisorConfig} {s s' : SupervisorTree} {a : TreeAct}

/-- The current task of a child is the newest with the child's id. -/
structure Named (s : SupervisorTree) : Prop where
  sane : s.parent.Sane
  handled : s.parent.rt.Handled
  lt : ∀ t ctx, s.contexts t = some ctx → t < s.parent.rt.joinSet.nextId
  newest : ∀ key e t, s.parent.rt.children.get key = some e → e.runtime.abortHandle = some t →
    ∀ t' ctx, s.contexts t' = some ctx → ctx.id = e.id → t' ≤ t

theorem Named.parent (h : s.Named) {b : Act} {parent : Config}
    (hb : TokioSupervisor.step s.parent b = some parent) (hp : s'.parent = parent)
    (hc : ∀ t ctx, s'.contexts t = some ctx → s.contexts t = some ctx ∨ parent.rt.context t = some ctx) :
    s'.Named := by
  subst hp
  have hnext := step_nextId_le h.sane hb
  have hsane := h.sane.step hb
  obtain ⟨hhandled, hfrom⟩ := step_handle h.sane h.handled hb
  refine ⟨hsane, hhandled, fun t ctx hctx => ?_, fun key e t he ht t' ctx hctx hid => ?_⟩
  · rcases hc t ctx hctx with hold | hnew
    · exact (h.lt t ctx hold).trans_le hnext
    · obtain ⟨key, e, he, ht, -⟩ := context_entry hnew
      exact hhandled key e t he ht
  · rcases hc t' ctx hctx with hold | hnew
    · rcases hfrom key e t he ht with hle | ⟨e₀, he₀, hid₀, ht₀⟩
      · exact ((h.lt t' ctx hold).trans_le hle).le
      · exact h.newest key e₀ t he₀ ht₀ t' ctx hold (hid.trans hid₀)
    · obtain ⟨key', e', he', ht', hid'⟩ := context_entry hnew
      obtain rfl := hsane.wf.key_inj he he' (hid.symm.trans hid')
      cases he.symm.trans he'
      exact (Option.some.inj (ht'.symm.trans ht)).le

theorem Named.step (h : s.Named) (hm : Moves supervisors s a s') : s'.Named := by
  cases hm with
  | parent hb =>
    refine h.parent hb rfl fun t ctx hctx => ?_
    exact (Option.or_eq_some_iff.1 hctx).imp_right And.right
  | tick hb | ended hb => exact h.parent hb rfl fun t ctx => .inl
  | spawned | inner => exact ⟨h.sane, h.handled, h.lt, h.newest⟩

theorem Moves.contexts (hm : Moves supervisors s a s') {t : TaskId} {ctx : ChildContext}
    (h : s.contexts t = some ctx) : s'.contexts t = some ctx := by
  cases hm with
  | parent => exact Option.or_eq_some_iff.2 (.inl h)
  | tick | ended | spawned | inner => exact h

theorem Named.start {config : SupervisorConfig} (h : config.Accepted) (env : StartEnv) :
    (start config env).Named := by
  refine ⟨h.sane env, fun key e t he ht => ?_, fun _ _ => nofun, fun _ _ _ _ _ _ _ => nofun⟩
  rw [((h.fresh env).unborn key e he).abortHandle] at ht
  cases ht

end SupervisorTree

/-! ### Runs -/

namespace ControlTree
variable {supervisors : Nat → Option SupervisorConfig} {s s' : ControlTree} {a : ControlAct}

/-- A step, with the state after it. -/
inductive Moves (supervisors : Nat → Option SupervisorConfig) (s : ControlTree) (a : ControlAct) :
    ControlTree → Prop
  | tree {b : TreeAct} {tree : SupervisorTree} (h : s.tree.step supervisors b = some tree) :
      Moves supervisors s a { s with tree }
  | registered {r : NestedControlRegistration} (hnew : r ∉ s.registrations)
      (hown : ∀ t, r.endpoint = .own t → s.registration t = some r)
      (hok : s.inTurn a = true → s.newest r = true) :
      Moves supervisors s a { s with
        registry := s.registry.insert r.childPath r.endpoint
        registrations := r :: s.registrations }
  | dropped {r : NestedControlRegistration} {s' : ControlTree} {tree : SupervisorTree}
      (hmem : r ∈ s.registrations)
      (hok : s.inTurn a = true → s.newest r = true) (hdrop : s.drop r = some s')
      (h : tree = s.tree ∨ ∃ b, s.tree.step supervisors b = some tree) :
      Moves supervisors s a { s' with tree }

section
variable {r : NestedControlRegistration} {t : TaskId}

theorem register_eq (h : s.register r = some s') : r ∉ s.registrations ∧ s' = { s with
    registry := s.registry.insert r.childPath r.endpoint
    registrations := r :: s.registrations } := by
  unfold register at h
  split at h
  · cases h
  · rename_i hr
    cases h
    exact ⟨hr, rfl⟩

theorem drop_mem (h : s.drop r = some s') : r ∈ s.registrations ∧ s'.tree = s.tree := by
  unfold drop at h
  split at h
  · rename_i hr
    cases h
    exact ⟨hr, rfl⟩
  · cases h

theorem registration_endpoint (h : s.registration t = some r) : r.endpoint = .own t := by
  obtain ⟨ctx, -, rfl⟩ := Option.map_eq_some_iff.1 h
  rfl

theorem leave_moves {b : TreeAct} (ha : s.inTurn a = (!s.registered t || (s.registration t).all s.newest))
    (h : (s.leave t).bind (·.treeStep supervisors b) = some s') : Moves supervisors s a s' := by
  obtain ⟨s₁, hleave, h⟩ := Option.bind_eq_some_iff.1 h
  obtain ⟨tree, htree, rfl⟩ := Option.map_eq_some_iff.1 h
  obtain ⟨r, hr, hdrop⟩ := Option.bind_eq_some_iff.1 hleave
  obtain ⟨hmem, heq⟩ := drop_mem hdrop
  refine .dropped hmem (fun hok => ?_) hdrop (.inr ⟨b, heq ▸ htree⟩)
  rw [ha] at hok
  simpa [registered, hr, hmem] using hok

theorem step_moves (h : s.step supervisors a = some s') : Moves supervisors s a s' := by
  have htree {b : TreeAct} (h : s.treeStep supervisors b = some s') : Moves supervisors s a s' := by
    obtain ⟨tree, htree, rfl⟩ := Option.map_eq_some_iff.1 h
    exact .tree htree
  have hregister {r : NestedControlRegistration} (h : s.register r = some s')
      (hown : ∀ t, r.endpoint = .own t → s.registration t = some r)
      (hok : s.inTurn a = true → s.newest r = true) : Moves supervisors s a s' := by
    obtain ⟨hnew, rfl⟩ := register_eq h
    exact .registered hnew hown hok
  cases a with
  | register t =>
    simp only [step] at h
    split at h
    · obtain ⟨r, hr, h⟩ := Option.bind_eq_some_iff.1 h
      refine hregister h (fun u hu => ?_) fun hok => ?_
      · rw [registration_endpoint hr] at hu
        cases hu
        exact hr
      · simpa [inTurn, hr] using hok
    · cases h
  | earlierRegisters path n => exact hregister h nofun id
  | earlierDrops path n =>
    obtain ⟨hmem, heq⟩ := drop_mem h
    have hm : Moves supervisors s (.earlierDrops path n) { s' with tree := s.tree } :=
      .dropped hmem id h (.inl rfl)
    rwa [← heq] at hm
  | tree b =>
    cases b with
    | cancelled t =>
      simp only [step, Option.ite_none_right_eq_some] at h
      exact htree h.2
    | waited t display => exact leave_moves rfl h
    | dropped t =>
      simp only [step] at h
      split at h
      · exact leave_moves rfl h
      · exact htree h
    | _ => exact htree h

/-- The registrations are those of child tasks, and the newest task of a child is found by its id. -/
structure Ordered (s : ControlTree) : Prop where
  named : s.tree.Named
  owned : ∀ id t, ⟨id, .own t⟩ ∈ s.registrations → ∃ ctx, s.tree.contexts t = some ctx ∧ ctx.id = id
  mapped : ∀ id x, s.registry.get id = some x → ⟨id, x⟩ ∈ s.registrations
  newest : ∀ id t, ⟨id, .own t⟩ ∈ s.registrations →
    (∀ t' ctx, s.tree.contexts t' = some ctx → ctx.id = id → t' ≤ t) → s.registry.get id = some (.own t)
  removals : ∀ x ∈ s.removals, x.1.older x.2 = false

theorem not_older (hn : s.newest r = true) {x : ControlEndpoint} (hx : ⟨r.childPath, x⟩ ∈ s.registrations) :
    r.endpoint.older x = false := by
  simpa using List.all_eq_true.1 hn _ hx

/-- Nothing under the path is as new as the registration of the newest task. -/
theorem newest_eq (hn : s.newest r = true) (hx : ⟨r.childPath, .own t⟩ ∈ s.registrations)
    (hown : ∀ u, r.endpoint = .own u → ∃ ctx, s.tree.contexts u = some ctx ∧ ctx.id = r.childPath)
    (hlast : ∀ t' ctx, s.tree.contexts t' = some ctx → ctx.id = r.childPath → t' ≤ t) :
    r.endpoint = .own t := by
  have hold := not_older hn hx
  cases he : r.endpoint with
  | earlier n =>
    rw [he] at hold
    cases hold
  | own u =>
    rw [he] at hold
    have hle : t ≤ u := by simpa [ControlEndpoint.older] using hold
    obtain ⟨ctx, hctx, hid⟩ := hown u he
    rw [le_antisymm (hlast u ctx hctx hid) hle]

theorem Ordered.tree (h : s.Ordered) {b : TreeAct} {tree : SupervisorTree}
    (hb : s.tree.step supervisors b = some tree) : Ordered { s with tree } := by
  have hm := SupervisorTree.step_moves hb
  refine ⟨h.named.step hm, fun id t hr => ?_, h.mapped, fun id t hr hlast => ?_, h.removals⟩
  · obtain ⟨ctx, hctx, hid⟩ := h.owned id t hr
    exact ⟨ctx, hm.contexts hctx, hid⟩
  · exact h.newest id t hr fun t' ctx hctx => hlast t' ctx (hm.contexts hctx)

theorem Ordered.drop (h : s.Ordered) (hn : s.newest r = true) (hmem : r ∈ s.registrations)
    (hdrop : s.drop r = some s') : s'.Ordered := by
  simp only [ControlTree.drop, hmem, if_true, Option.some.injEq] at hdrop
  subst hdrop
  refine ⟨h.named, fun id t hr => h.owned id t (List.mem_of_mem_filter hr), fun id x hx => ?_,
    fun id t hr hlast => ?_, fun x hx => ?_⟩
  · rw [NestedControlRegistry.get_remove] at hx
    split at hx
    · cases hx
    · rename_i hne
      refine List.mem_filter.2 ⟨h.mapped id x hx, decide_eq_true fun heq => hne ?_⟩
      rw [← heq]
  · obtain ⟨hr, hne⟩ := List.mem_filter.1 hr
    rw [NestedControlRegistry.get_remove]
    split
    · rename_i hid
      subst hid
      have heq := newest_eq hn hr (fun u hu => h.owned _ u (hu ▸ hmem)) hlast
      rw [← heq] at hne
      exact absurd rfl (of_decide_eq_true hne)
    · exact h.newest id t hr hlast
  · dsimp only at hx
    split at hx
    · rename_i removed hget
      rcases List.mem_cons.1 hx with rfl | hx
      · exact not_older hn (h.mapped _ _ hget)
      · exact h.removals x hx
    · exact h.removals x hx

theorem Ordered.register (h : s.Ordered) (hn : s.newest r = true)
    (hown : ∀ t, r.endpoint = .own t → s.registration t = some r) : Ordered { s with
      registry := s.registry.insert r.childPath r.endpoint
      registrations := r :: s.registrations } := by
  have hctx {u : TaskId} (hu : r.endpoint = .own u) :
      ∃ ctx, s.tree.contexts u = some ctx ∧ ctx.id = r.childPath := by
    obtain ⟨ctx, hctx, heq⟩ := Option.map_eq_some_iff.1 (hown u hu)
    exact ⟨ctx, hctx, congrArg NestedControlRegistration.childPath heq⟩
  refine ⟨h.named, fun id t hr => ?_, fun id x hx => ?_, fun id t hr hlast => ?_, h.removals⟩
  · rcases List.mem_cons.1 hr with rfl | hr
    · exact hctx rfl
    · exact h.owned id t hr
  · rw [NestedControlRegistry.get_insert] at hx
    split at hx
    · rename_i hid
      subst hid
      cases hx
      exact List.mem_cons_self
    · exact List.mem_cons_of_mem _ (h.mapped id x hx)
  · rw [NestedControlRegistry.get_insert]
    rcases List.mem_cons.1 hr with rfl | hr
    · exact if_pos rfl
    · split
      · rename_i hid
        subst hid
        rw [newest_eq hn hr (fun _ => hctx) hlast]
      · exact h.newest id t hr hlast

end

theorem Ordered.step (h : s.Ordered) (hok : s.inTurn a = true) (hm : Moves supervisors s a s') :
    s'.Ordered := by
  cases hm with
  | tree hb => exact h.tree hb
  | registered _ hown hnewest => exact h.register (hnewest hok) hown
  | @dropped r s₁ tree hmem hnewest hdrop hb =>
    have hdropped := h.drop (hnewest hok) hmem hdrop
    have heq := (drop_mem hdrop).2
    rcases hb with rfl | ⟨b, hb⟩
    · rwa [← heq]
    · exact hdropped.tree (heq ▸ hb)

theorem Ordered.start {config : SupervisorConfig} (h : config.Accepted) (env : StartEnv) :
    (start config env).Ordered :=
  ⟨.start h env, fun _ _ => nofun, fun _ _ => nofun, fun _ _ => nofun, fun _ => nofun⟩

/-- While the registrations under a path come in turn, the current one is found there. -/
theorem run_routed {config : SupervisorConfig} {env : StartEnv} {as : List ControlAct}
    (h : config.Accepted) (hrun : Run (ControlTree.step supervisors) (fun s a => s.inTurn a = true)
      (ControlTree.start config env) as s) : s.Routed := by
  have hord : s.Ordered := hrun.invariant (.start h env) fun _ _ _ hI hok hstep => hI.step hok (step_moves hstep)
  exact ⟨fun key e t he ht hr => hord.newest e.id t hr fun t' ctx hctx hid =>
    hord.named.newest key e t he ht t' ctx hctx hid, hord.removals⟩

end ControlTree

/-! ### A child that is removed and added again -/

/-- The child `a` of `slotConfig` is a supervisor, and so is the one that is added for it later. -/
def slotTree : Nat → Option SupervisorConfig
  | 0 | 2 => some slotConfig
  | _ => none

/-- The wrapper in `a` registers. Then `a` is aborted and detached, and a child with its id is added. -/
def readdActs : List ControlAct :=
  [.tree (.parent (.run .go)), .tree (.spawn 0), .register 0,
   .tree (.parent (.send (.removeChild "a" 0))), .tree (.parent (.run (.command 2))),
   .tree (.parent (.run .go)), .tree (.parent (.run .timer)), .tree (.parent .resume),
   .tree (.parent .resume), .tree (.parent .resume), .tree (.parent .resume),
   .tree (.parent (.send (.addChild (cooperativeChild "a") 1))), .tree (.parent (.run (.command 0))),
   .tree (.parent .resume)]

/-- The aborted wrapper is dropped when its successor has registered, whose endpoint it removes. -/
theorem unrouted_child_reached : slotConfig.Accepted ∧ ∃ s,
    AnyRun (ControlTree.step slotTree) (ControlTree.start slotConfig ⟨false, 0, 0⟩)
      (readdActs ++ [.tree (.spawn 2), .register 2, .tree (.dropped 0)]) s ∧ ¬ s.Routed := by
  have hex : ∃ s, AnyRun (ControlTree.step slotTree) (ControlTree.start slotConfig ⟨false, 0, 0⟩)
      (readdActs ++ [.tree (.spawn 2), .register 2, .tree (.dropped 0)]) s ∧
      ((s.tree.parent.rt.children.get 0).map fun e => (e.id, e.runtime.abortHandle), s.registrations,
        s.registry.get "a") = (some ("a", some 2), [⟨"a", .own 2⟩], none) :=
    anyRun_of_exec (by decide +kernel)
  obtain ⟨s, hrun, hs⟩ := hex
  simp only [Prod.mk.injEq] at hs
  obtain ⟨hentry, hregs, hget⟩ := hs
  refine ⟨slotConfig_accepted, s, hrun, fun h => ?_⟩
  obtain ⟨e, he, hpair⟩ := Option.map_eq_some_iff.1 hentry
  obtain ⟨hid, hh⟩ := Prod.mk.inj hpair
  have hfound := h.current 0 e 2 he hh (by rw [hid, hregs]; exact List.mem_singleton_self _)
  rw [hid, hget] at hfound
  cases hfound

/-- The wrapper is dropped before its successor registers. -/
theorem ControlTree.run_routed_dropped : ∃ s : ControlTree, s.Routed ∧
    s.registrations = [⟨"a", .own 2⟩] ∧ s.registry.get "a" = some (.own 2) := by
  have hex : ∃ s, Run (ControlTree.step slotTree) (fun s a => s.inTurn a = true)
      (ControlTree.start slotConfig ⟨false, 0, 0⟩)
      (readdActs ++ [.tree (.spawn 2), .tree (.dropped 0), .register 2]) s ∧
      (s.registrations, s.registry.get "a") = ([⟨"a", .own 2⟩], some (.own 2)) :=
    run_of_execIf_map (by decide +kernel)
  obtain ⟨s, hrun, hs⟩ := hex
  exact ⟨s, ControlTree.run_routed slotConfig_accepted hrun, (Prod.mk.inj hs).1, (Prod.mk.inj hs).2⟩

end TokioSupervisor
