import TokioSupervisor.Otp.Agreement
import TokioSupervisor.Runtime.Building
import TokioSupervisor.Actor.Faults
import TokioSupervisor.Actor.Wiring

/-!
# From a graph to a runtime

`SupervisedActors` collects policies for the actors of a graph, and `build_runtime` makes a supervisor with
one more child for each actor, and a registry. `childSpec` says which policies an actor gets: what the last
call for it says, or else the last call for all actors, or else the default. The registry never refuses the
actors of a graph that was built, so all that can be wrong is an override for an actor that the graph does
not have, or what the supervisor's builder refuses.
-/

namespace TokioSupervisor
open Lib

namespace SupervisedActors

/-- `into_actor_set` is in `Actor/Wiring.lean`, the state of the graph in `Actor/Graph.lean`. -/
def new (actorSet : List String) : SupervisedActors where
  actorSet
  defaultRestart := .transient
  defaultShutdown := .default
  overrides := ∅

inductive Call
  | restart (restart : Restart)
  | shutdown (shutdown : ShutdownPolicy)
  | actorRestart (actorId : String) (restart : Restart)
  | actorRestartIntensity (actorId : String) (intensity : RestartIntensity)
  | actorShutdown (actorId : String) (shutdown : ShutdownPolicy)
deriving DecidableEq, Repr

/-- `entry(actor_id).or_default()`, and what is set there. -/
def setOverride (s : SupervisedActors) (actorId : String) (set : ActorOverrides → ActorOverrides) :
    SupervisedActors :=
  { s with overrides :=
      s.overrides.insert actorId (set ((s.overrides.lookup actorId).getD ⟨none, none, none⟩)) }

def call (s : SupervisedActors) : Call → SupervisedActors
  | .restart restart => { s with defaultRestart := restart }
  | .shutdown shutdown => { s with defaultShutdown := shutdown }
  | .actorRestart actorId restart => s.setOverride actorId fun o => { o with restart := some restart }
  | .actorRestartIntensity actorId intensity =>
    s.setOverride actorId fun o => { o with restartIntensity := some intensity }
  | .actorShutdown actorId shutdown => s.setOverride actorId fun o => { o with shutdown := some shutdown }

def ofCalls (actorSet : List String) (calls : List Call) : SupervisedActors := calls.foldl call (new actorSet)

/-! ### What the calls say -/

/-- The last answer that a call gives. -/
def said {β : Type} (f : Call → Option β) (calls : List Call) : Option β := calls.reverse.findSome? f

namespace Call

def actorId : Call → Option String
  | .actorRestart actorId _ | .actorRestartIntensity actorId _ | .actorShutdown actorId _ => some actorId
  | .restart _ | .shutdown _ => none

def restartOf (id : String) : Call → Option Restart
  | .actorRestart actorId policy => if actorId = id then some policy else none
  | _ => none

def restartIntensityOf (id : String) : Call → Option RestartIntensity
  | .actorRestartIntensity actorId intensity => if actorId = id then some intensity else none
  | _ => none

def shutdownOf (id : String) : Call → Option ShutdownPolicy
  | .actorShutdown actorId policy => if actorId = id then some policy else none
  | _ => none

def restartOfAll : Call → Option Restart
  | .restart policy => some policy
  | _ => none

def shutdownOfAll : Call → Option ShutdownPolicy
  | .shutdown policy => some policy
  | _ => none

end Call

/-- The child of an actor, by the calls. -/
def childSpec (calls : List Call) (id : String) : ChildSpec where
  id
  restart := (said (Call.restartOf id) calls).getD ((said Call.restartOfAll calls).getD .transient)
  restartIntensity := said (Call.restartIntensityOf id) calls
  shutdownPolicy := (said (Call.shutdownOf id) calls).getD ((said Call.shutdownOfAll calls).getD .default)

section
variable {calls : List Call} {c : Call} {actorSet : List String} {s : SupervisedActors}

theorem said_concat {β : Type} {f : Call → Option β} :
    said f (calls ++ [c]) = (f c).or (said f calls) := by
  rw [said, List.reverse_append, List.reverse_singleton, List.singleton_append, List.findSome?_cons]
  cases f c <;> rfl

/-- What a builder has after `calls`. -/
structure Collected (actorSet : List String) (calls : List Call) (s : SupervisedActors) : Prop where
  actors : s.actorSet = actorSet
  restart : s.defaultRestart = (said Call.restartOfAll calls).getD .transient
  shutdown : s.defaultShutdown = (said Call.shutdownOfAll calls).getD .default
  overrides : ∀ id, (s.overrides.lookup id).getD ⟨none, none, none⟩ =
    ⟨said (Call.restartOf id) calls, said (Call.restartIntensityOf id) calls, said (Call.shutdownOf id) calls⟩
  keys : ∀ id, id ∈ s.overrides ↔ ∃ c ∈ calls, c.actorId = some id

theorem setOverride_overrides {actorId : String} {set : ActorOverrides → ActorOverrides} (id : String) :
    ((s.setOverride actorId set).overrides.lookup id).getD ⟨none, none, none⟩ =
      if id = actorId then set ((s.overrides.lookup id).getD ⟨none, none, none⟩)
      else (s.overrides.lookup id).getD ⟨none, none, none⟩ := by
  by_cases h : id = actorId
  · subst h
    simp [setOverride]
  · simp [setOverride, AList.lookup_insert_ne h, h]

theorem mem_setOverride {actorId : String} {set : ActorOverrides → ActorOverrides} {id : String} :
    id ∈ (s.setOverride actorId set).overrides ↔ id = actorId ∨ id ∈ s.overrides :=
  AList.mem_insert _

theorem Collected.call (h : Collected actorSet calls s) (c : Call) :
    Collected actorSet (calls ++ [c]) (s.call c) := by
  obtain ⟨hactors, hrestart, hshutdown, hover, hkeys⟩ := h
  cases c with
  | restart policy | shutdown policy =>
    refine ⟨hactors, ?_, ?_, fun id => ?_, fun id => ?_⟩ <;>
      simp_all [said_concat, SupervisedActors.call, Call.restartOf, Call.restartIntensityOf, Call.shutdownOf,
        Call.restartOfAll, Call.shutdownOfAll, Call.actorId]
  | actorRestart actorId policy | actorRestartIntensity actorId policy | actorShutdown actorId policy =>
    refine ⟨hactors, ?_, ?_, fun id => ?_, fun id => ?_⟩
    · simpa [said_concat, Call.restartOfAll, SupervisedActors.call, setOverride] using hrestart
    · simpa [said_concat, Call.shutdownOfAll, SupervisedActors.call, setOverride] using hshutdown
    · rw [SupervisedActors.call, setOverride_overrides, hover]
      by_cases hid : id = actorId
      · simp [said_concat, Call.restartOf, Call.restartIntensityOf, Call.shutdownOf, hid]
      · simp [said_concat, Call.restartOf, Call.restartIntensityOf, Call.shutdownOf, hid, Ne.symm hid]
    · rw [SupervisedActors.call, mem_setOverride, hkeys]
      simp [Call.actorId, or_and_right, exists_or, eq_comm, or_comm]

theorem ofCalls_collected : Collected actorSet calls (ofCalls actorSet calls) := by
  induction calls using List.reverseRecOn with
  | nil => exact ⟨rfl, rfl, rfl, fun id => rfl, fun id => by simp [ofCalls, new]⟩
  | append_singleton calls c ih =>
    rw [ofCalls, List.foldl_concat]
    exact ih.call c

theorem Collected.actorChild (h : Collected actorSet calls s) (id : String) :
    s.actorChild id = childSpec calls id := by
  rw [SupervisedActors.actorChild, h.overrides, h.restart, h.shutdown]
  rfl

end

/-! ### Building -/

/-- All that is wrong: overrides of what is no actor, as the map iterates over them, and then what the
builder of the supervisor finds. -/
def faults (s : SupervisedActors) (builder : SupervisorBuilder) : List RuntimeBuildError :=
  (s.overrides.keys.filter (!s.actorSet.contains ·)).map .unknownActor ++
  ({ builder with children := builder.children ++ s.actorChildren } : SupervisorBuilder).faults.map .supervisor

theorem validateOverrides_reports (s : SupervisedActors) : Reports s.validateOverrides
    ((s.overrides.keys.filter (!s.actorSet.contains ·)).map .unknownActor) fun _ => True := by
  unfold validateOverrides
  rw [← List.head?_filter]
  cases s.overrides.keys.filter (!s.actorSet.contains ·) with
  | nil => exact .pure trivial
  | cons id ids => exact rfl

theorem registerEntry_reports {ids : List String} (hids : ∀ id ∈ ids, id ≠ "") (hnodup : ids.Nodup) :
    Reports (ids.foldlM ActorRegistry.registerEntry ⟨[]⟩) [] fun registry =>
      ∀ id, registry.contains id = true ↔ id ∈ ids := by
  refine exists_foldlM_ok (I := fun pre registry => ∀ id, ActorRegistry.contains registry id = true ↔ id ∈ pre)
    (by simp [ActorRegistry.contains]) fun pre id registry hpre hr => ?_
  have hnew : id ∉ pre := by
    have hn := hnodup.sublist hpre.sublist
    exact fun hm => (List.nodup_append.1 hn).2.2 id hm id (List.mem_singleton_self id) rfl
  have hid : id.isEmpty = false := by
    have hm := hids id (hpre.subset (by simp))
    simpa using hm
  refine ⟨⟨id :: registry.actorIds⟩, ?_, fun i => ?_⟩
  · have hc : registry.contains id = false := by
      rw [Bool.eq_false_iff, Ne, hr]
      exact hnew
    simp [ActorRegistry.registerEntry, hid, hc]
  · have hri := hr i
    simp only [ActorRegistry.contains, List.contains_iff_mem] at hri ⊢
    rw [List.mem_cons, hri, List.mem_append, List.mem_singleton, or_comm]

/-- The builder with one more child for each actor. -/
def withActors (builder : SupervisorBuilder) (calls : List Call) (ids : List String) : SupervisorBuilder :=
  { builder with children := builder.children ++ ids.map (childSpec calls) }

/-- What is built. -/
structure Built (builder : SupervisorBuilder) (ids : List String) (r : Runtime) : Prop where
  supervisor : r.supervisor = ⟨builder.strategy, builder.restartIntensity, builder.children,
    builder.controlChannelCapacity, builder.eventChannelCapacity⟩
  registry : ∀ id, r.registry.contains id = true ↔ id ∈ ids

theorem buildRuntime_reports {s : SupervisedActors} (hids : ∀ id ∈ s.actorSet, id ≠ "")
    (hnodup : s.actorSet.Nodup) (builder : SupervisorBuilder) :
    Reports (s.buildRuntime builder) (s.faults builder)
      (Built { builder with children := builder.children ++ s.actorChildren } s.actorSet) := by
  unfold buildRuntime
  refine s.validateOverrides_reports.bind fun _ _ => ?_
  refine ((registerEntry_reports hids hnodup).mapError _).bind fun registry hregistry => ?_
  exact ((SupervisorBuilder.build_reports _).mapError _).bind_last fun config hconfig =>
    .pure ⟨hconfig, hregistry⟩

theorem faults_eq_nil_iff {calls : List Call} {ids : List String} {s : SupervisedActors}
    (h : Collected ids calls s) (builder : SupervisorBuilder) : s.faults builder = [] ↔
      (∀ c ∈ calls, ∀ id, c.actorId = some id → id ∈ ids) ∧ (withActors builder calls ids).Valid := by
  have hchildren : s.actorChildren = ids.map (childSpec calls) := by
    rw [actorChildren, h.actors]
    exact List.map_congr_left fun id _ => h.actorChild id
  rw [faults, List.append_eq_nil_iff, List.map_eq_nil_iff, List.map_eq_nil_iff, hchildren,
    SupervisorBuilder.faults_eq_nil_iff, List.filter_eq_nil_iff, h.actors]
  refine and_congr_left fun _ => ⟨fun hk c hc id hid => ?_, fun hk id hid => ?_⟩
  · have hmem : id ∈ s.overrides.keys := AList.mem_keys.1 ((h.keys id).2 ⟨c, hc, hid⟩)
    simpa using hk id hmem
  · obtain ⟨c, hc, hcid⟩ := (h.keys id).1 (AList.mem_keys.2 hid)
    simpa using hk c hc id hcid

/-- From the calls that describe a graph, policies and a supervisor to the runtime: `build_runtime` fails with
the first fault, and where there is none, which is where every override is for an actor and the builder with
the children of the actors is valid, the runtime has these children and the actors in its registry. -/
theorem buildRuntime_exact {graphCalls : List GraphBuilder.Call} {anonymous : String} {g : GraphInner}
    {set : ActorSet} (h : (GraphBuilder.ofCalls graphCalls).build anonymous = .ok g)
    (hset : ActorSet.fromGraph g = .ok set) (calls : List Call) (builder : SupervisorBuilder) :
    let ids := GraphBuilder.ids (GraphBuilder.ofCalls graphCalls).actors
    let s := ofCalls (set.actors.map (·.spec.id)) calls
    (s.faults builder = [] ↔ (∀ c ∈ calls, ∀ id, c.actorId = some id → id ∈ ids) ∧
      (withActors builder calls ids).Valid) ∧
    Reports (s.buildRuntime builder) (s.faults builder) (Built (withActors builder calls ids) ids) := by
  intro ids s
  have hnil := ((GraphBuilder.build_reports _ _).nil_of_ok h).1
  have hvalid : (GraphBuilder.ofCalls graphCalls).Valid :=
    GraphBuilder.faults_eq_nil_iff.1 (List.map_eq_nil_iff.1 hnil)
  have hwired := GraphBuilder.build_wired h
  obtain ⟨set', hset', hruns⟩ := ActorSet.fromGraph_ok hwired
  obtain rfl : set' = set := Except.ok.inj (hset'.symm.trans hset)
  have hset : set'.actors.map (·.spec.id) = ids := by
    show _ = GraphBuilder.ids _
    rw [GraphBuilder.ids, ← hwired.actors, ← hruns.order, List.map_map]
    rfl
  have hcollected : Collected ids calls s := hset ▸ ofCalls_collected
  have hchildren : s.actorChildren = ids.map (childSpec calls) := by
    rw [actorChildren, hcollected.actors]
    exact List.map_congr_left fun id _ => hcollected.actorChild id
  refine ⟨faults_eq_nil_iff hcollected builder, ?_⟩
  have hids (id : String) (hid : id ∈ s.actorSet) : id ≠ "" := by
    rw [hcollected.actors] at hid
    obtain ⟨actor, hactor, rfl⟩ := List.mem_map.1 hid
    exact hvalid.actorIds actor hactor
  have hbuilt := buildRuntime_reports hids (hcollected.actors ▸ hvalid.nodup) builder
  rwa [hchildren, hcollected.actors] at hbuilt

/-- One actor is to be restarted always, the other one after failures only. -/
theorem buildRuntime_exact_two :
    let calls : List Call := [.actorRestart "b" .permanent, .shutdown ⟨.fromSecs 1, .abort⟩]
    ∃ g set, (GraphBuilder.ofCalls [.actor ⟨"a"⟩, .actor ⟨"b"⟩, .link "a" "b"]).build "graph-0" = .ok g ∧
      ActorSet.fromGraph g = .ok set ∧
      ((ofCalls (set.actors.map (·.spec.id)) calls).faults .new = [] ↔
        (∀ c ∈ calls, ∀ id, c.actorId = some id → id ∈ ["a", "b"]) ∧ (withActors .new calls ["a", "b"]).Valid) ∧
      Reports ((ofCalls (set.actors.map (·.spec.id)) calls).buildRuntime .new)
        ((ofCalls (set.actors.map (·.spec.id)) calls).faults .new)
        (Built (withActors .new calls ["a", "b"]) ["a", "b"]) := by
  intro calls
  have hok : ((GraphBuilder.ofCalls [.actor ⟨"a"⟩, .actor ⟨"b"⟩, .link "a" "b"]).build "graph-0").isOk = true := by
    decide +kernel
  cases hg : (GraphBuilder.ofCalls [.actor ⟨"a"⟩, .actor ⟨"b"⟩, .link "a" "b"]).build "graph-0" with
  | error e =>
    rw [hg] at hok
    cases hok
  | ok g =>
    obtain ⟨set, hset, -⟩ := ActorSet.fromGraph_ok (GraphBuilder.build_wired hg)
    exact ⟨g, set, rfl, hset, buildRuntime_exact hg hset calls .new⟩

end SupervisedActors
end TokioSupervisor
