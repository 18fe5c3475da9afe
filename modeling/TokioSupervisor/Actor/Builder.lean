import TokioSupervisor.Actor.Graph
import TokioSupervisor.Lib.Fold
import Mathlib.Data.List.AList
import Mathlib.Data.Finset.Insert

/-!
# `GraphBuilder`

A builder collects what its calls say; `build` validates it and makes the maps of `GraphInner`, in three
loops over the actors, the links and the ingresses. `Wired` says what the maps hold when `build` returns
`Ok`. Each actor gets a fresh `MailboxBinding`; they are numbered in the order of the actors. Of an
`ActorSpec` only the id is modelled, the actor that its factory makes is user code; the state of the graph
is in `Actor/Graph.lean`.
-/

namespace TokioSupervisor
open Lib

/-- Errors returned while validating a graph during build. -/
inductive GraphBuildError
  | emptyActors
  | duplicateActorId (id : String)
  | duplicateIngressName (name : String)
  | unknownLinkSource (actor : String)
  | unknownLinkTarget (source actor : String)
  | unknownIngressTarget (ingress actor : String)
  | invalidConfig (text : String)
deriving DecidableEq, Repr

/-- How a function with errors `ε` ends early. -/
inductive Stop (ε : Type)
  | error (error : ε)
  | panic (message : String)
deriving DecidableEq, Repr

structure ActorSpec where
  id : String
deriving DecidableEq, Repr

structure GraphBuilder where
  name : Option String
  actors : List ActorSpec
  links : List (String × String)
  ingresses : List (String × String)
  mailboxCapacity : Nat
  maxEnvelopeBytes : Option Nat
  maxBlockingTasksPerActor : Option Nat
  blockingShutdownTimeout : Duration

def DEFAULT_MAILBOX_CAPACITY : Nat := 64
def DEFAULT_MAX_ENVELOPE_BYTES : Nat := 1024 * 1024
def DEFAULT_MAX_BLOCKING_TASKS_PER_ACTOR : Nat := 16
def DEFAULT_BLOCKING_SHUTDOWN_TIMEOUT : Duration := .fromSecs 5

structure IngressDefinition where
  targetActor : String
deriving DecidableEq, Repr

structure GraphInner where
  graphName : String
  actors : List ActorSpec
  links : AList fun _ : String => List String
  bindings : AList fun _ : String => Nat
  mailboxCapacity : Nat
  maxEnvelopeBytes : Option Nat
  maxBlockingTasksPerActor : Option Nat
  blockingShutdownTimeout : Duration
  ingresses : AList fun _ : String => IngressDefinition
  ingressNamesByActor : AList fun _ : String => List String

namespace GraphBuilder

def new : GraphBuilder where
  name := none
  actors := []
  links := []
  ingresses := []
  mailboxCapacity := DEFAULT_MAILBOX_CAPACITY
  maxEnvelopeBytes := some DEFAULT_MAX_ENVELOPE_BYTES
  maxBlockingTasksPerActor := some DEFAULT_MAX_BLOCKING_TASKS_PER_ACTOR
  blockingShutdownTimeout := DEFAULT_BLOCKING_SHUTDOWN_TIMEOUT

/-- The calls of a builder. -/
inductive Call
  | name (name : String)
  | actor (actor : ActorSpec)
  | link (source target : String)
  | ingress (name targetActor : String)
  | mailboxCapacity (capacity : Nat)
  | maxEnvelopeBytes (maxBytes : Nat)
  | disableEnvelopeSizeLimit
  | maxBlockingTasksPerActor (limit : Nat)
  | unboundedBlockingTasksPerActor
  | blockingShutdownTimeout (timeout : Duration)

def call (b : GraphBuilder) : Call → GraphBuilder
  | .name name => { b with name := some name }
  | .actor actor => { b with actors := b.actors ++ [actor] }
  | .link source target => { b with links := b.links ++ [(source, target)] }
  | .ingress name targetActor => { b with ingresses := b.ingresses ++ [(name, targetActor)] }
  | .mailboxCapacity capacity => { b with mailboxCapacity := capacity }
  | .maxEnvelopeBytes maxBytes => { b with maxEnvelopeBytes := some maxBytes }
  | .disableEnvelopeSizeLimit => { b with maxEnvelopeBytes := none }
  | .maxBlockingTasksPerActor limit => { b with maxBlockingTasksPerActor := some limit }
  | .unboundedBlockingTasksPerActor => { b with maxBlockingTasksPerActor := none }
  | .blockingShutdownTimeout timeout => { b with blockingShutdownTimeout := timeout }

def ofCalls (calls : List Call) : GraphBuilder := calls.foldl call new

section
variable {calls : List Call}

@[simp] theorem ofCalls_concat (c : Call) : ofCalls (calls ++ [c]) = (ofCalls calls).call c := by
  simp [ofCalls]

theorem mem_actors_ofCalls {actor : ActorSpec} :
    actor ∈ (ofCalls calls).actors ↔ .actor actor ∈ calls := by
  induction calls using List.reverseRecOn with
  | nil => simp [ofCalls, new]
  | append_singleton calls c ih => cases c <;> simp [call, ih]

theorem mem_links_ofCalls {source target : String} :
    (source, target) ∈ (ofCalls calls).links ↔ .link source target ∈ calls := by
  induction calls using List.reverseRecOn with
  | nil => simp [ofCalls, new]
  | append_singleton calls c ih => cases c <;> simp [call, ih]

theorem mem_ingresses_ofCalls {name target : String} :
    (name, target) ∈ (ofCalls calls).ingresses ↔ .ingress name target ∈ calls := by
  induction calls using List.reverseRecOn with
  | nil => simp [ofCalls, new]
  | append_singleton calls c ih => cases c <;> simp [call, ih]

end

/-- What the loop over the actors fills, and the loop over the links after it. -/
structure ActorMaps where
  actorIds : Finset String
  actors : List ActorSpec
  links : AList fun _ : String => List String
  bindings : AList fun _ : String => Nat

/-- What the loop over the ingresses fills. -/
structure IngressMaps where
  ingressNames : Finset String
  ingresses : AList fun _ : String => IngressDefinition
  ingressNamesByActor : AList fun _ : String => List String

/-- One turn of the loop over the actors. -/
def addActor (m : ActorMaps) (actor : ActorSpec) : Except (Stop GraphBuildError) ActorMaps :=
  if actor.id.isEmpty then .error (.error (.invalidConfig "actor id must not be empty"))
  else if actor.id ∈ m.actorIds then .error (.error (.duplicateActorId actor.id))
  else .ok {
    actorIds := insert actor.id m.actorIds
    actors := m.actors ++ [actor]
    links := m.links.insert actor.id []
    bindings := m.bindings.insert actor.id m.actors.length }

/-- One turn of the loop over the links. -/
def addLink (m : ActorMaps) (link : String × String) : Except (Stop GraphBuildError) ActorMaps :=
  if link.1 ∉ m.actorIds then .error (.error (.unknownLinkSource link.1))
  else if link.2 ∉ m.actorIds then .error (.error (.unknownLinkTarget link.1 link.2))
  else match m.links.lookup link.1 with
    | some outgoing => .ok { m with links := m.links.insert link.1 (outgoing ++ [link.2]) }
    | none => .error (.panic "links entry guaranteed by actor_ids check")

/-- One turn of the loop over the ingresses. -/
def addIngress (actorIds : Finset String) (m : IngressMaps) (ingress : String × String) :
    Except (Stop GraphBuildError) IngressMaps :=
  if ingress.1.isEmpty then .error (.error (.invalidConfig "ingress name must not be empty"))
  else if ingress.1 ∈ m.ingressNames then .error (.error (.duplicateIngressName ingress.1))
  else if ingress.2 ∉ actorIds then
    .error (.error (.unknownIngressTarget ingress.1 ingress.2))
  else .ok {
    ingressNames := insert ingress.1 m.ingressNames
    ingresses := m.ingresses.insert ingress.1 ⟨ingress.2⟩
    ingressNamesByActor := m.ingressNamesByActor.insert ingress.2
      ((m.ingressNamesByActor.lookup ingress.2).getD [] ++ [ingress.1]) }

/-- The first `match` of `build`; `anonymous` is what `anonymous_graph_name` returns. -/
def graphName (b : GraphBuilder) (anonymous : String) : Except (Stop GraphBuildError) String :=
  match b.name with
  | some name =>
    if name.isEmpty then .error (.error (.invalidConfig "graph name must not be empty")) else .ok name
  | none => .ok anonymous

def build (b : GraphBuilder) (anonymous : String) : Except (Stop GraphBuildError) GraphInner := do
  let graphName ← b.graphName anonymous
  if b.actors.isEmpty then .error (.error .emptyActors)
  else if b.mailboxCapacity = 0 then
    .error (.error (.invalidConfig "mailbox capacity must be non-zero"))
  else do
    let m ← b.actors.foldlM addActor ⟨∅, [], ∅, ∅⟩
    let m ← b.links.foldlM addLink m
    let i ← b.ingresses.foldlM (addIngress m.actorIds) ⟨∅, ∅, ∅⟩
    return {
      graphName
      actors := m.actors
      links := m.links
      bindings := m.bindings
      mailboxCapacity := b.mailboxCapacity
      maxEnvelopeBytes := b.maxEnvelopeBytes
      maxBlockingTasksPerActor := b.maxBlockingTasksPerActor
      blockingShutdownTimeout := b.blockingShutdownTimeout
      ingresses := i.ingresses
      ingressNamesByActor := i.ingressNamesByActor }

/-! ### What `build` makes -/

/-- The targets of the links from `a`. -/
def targetsOf (links : List (String × String)) (a : String) : List String :=
  (links.filter (·.1 == a)).map (·.2)

/-- The ingresses whose target is `a`. -/
def namesOf (ingresses : List (String × String)) (a : String) : List String :=
  (ingresses.filter (·.2 == a)).map (·.1)

def ids (actors : List ActorSpec) : List String := actors.map (·.id)

theorem mem_ids_ofCalls {calls : List Call} {a : String} :
    a ∈ ids (ofCalls calls).actors ↔ .actor ⟨a⟩ ∈ calls := by
  rw [← mem_actors_ofCalls, ids, List.mem_map]
  exact ⟨fun ⟨actor, hm, ha⟩ => ha ▸ hm, fun hm => ⟨_, hm, rfl⟩⟩

/-- What the maps of a graph hold that is built from `b`. -/
structure Wired (b : GraphBuilder) (g : GraphInner) : Prop where
  actors : g.actors = b.actors
  nonempty : b.actors ≠ []
  nodup : (ids b.actors).Nodup
  capacity : g.mailboxCapacity = b.mailboxCapacity ∧ g.mailboxCapacity ≠ 0
  links : ∀ a, g.links.lookup a = if a ∈ ids b.actors then some (targetsOf b.links a) else none
  known : ∀ l ∈ b.links, l.1 ∈ ids b.actors ∧ l.2 ∈ ids b.actors
  bindings : ∀ a k, g.bindings.lookup a = some k ↔ (ids b.actors)[k]? = some a
  ingresses : ∀ n t, g.ingresses.lookup n = some ⟨t⟩ ↔ (n, t) ∈ b.ingresses
  ingressTargets : ∀ i ∈ b.ingresses, i.2 ∈ ids b.actors
  ingressNames : ∀ a, (g.ingressNamesByActor.lookup a).getD [] = namesOf b.ingresses a

section
variable {a t x : String} {link ingress : String × String} {ls is : List (String × String)}
  {actor : ActorSpec} {as : List ActorSpec} {m m' m₀ : ActorMaps} {i i' : IngressMaps}
  {actorIds : Finset String}

@[simp] theorem ids_concat : ids (as ++ [actor]) = ids as ++ [actor.id] := List.map_append

theorem targetsOf_concat :
    targetsOf (ls ++ [link]) a = targetsOf ls a ++ if link.1 = a then [link.2] else [] := by
  by_cases h : link.1 = a <;> simp [targetsOf, h]

theorem namesOf_concat :
    namesOf (is ++ [ingress]) a = namesOf is a ++ if ingress.2 = a then [ingress.1] else [] := by
  by_cases h : ingress.2 = a <;> simp [namesOf, h]

theorem mem_targetsOf : t ∈ targetsOf ls a ↔ (a, t) ∈ ls := by
  simp only [targetsOf, List.mem_map, List.mem_filter, beq_iff_eq]
  constructor
  · rintro ⟨⟨x, y⟩, ⟨hm, rfl⟩, rfl⟩
    exact hm
  · intro hm
    exact ⟨(a, t), ⟨hm, rfl⟩, rfl⟩

theorem getElem?_concat_new {l : List String} {k : Nat} (hnew : x ∉ l) :
    (l ++ [x])[k]? = some a ↔ if a = x then k = l.length else l[k]? = some a := by
  rcases Nat.lt_trichotomy k l.length with hk | rfl | hk
  · rw [List.getElem?_append_left hk]
    split
    · rename_i ha
      subst ha
      simp only [Nat.ne_of_lt hk, iff_false]
      exact fun h => hnew (List.mem_of_getElem? h)
    · rfl
  · by_cases ha : a = x
    · simp [ha]
    · simp [ha, Ne.symm ha]
  · have : (l ++ [x])[k]? = none := by simp; omega
    by_cases ha : a = x
    · simp [this, ha, Nat.ne_of_gt hk]
    · simp [this, ha, Nat.le_of_lt hk]

/-- The maps after the loop over the actors `as`. -/
structure ActorsRead (as : List ActorSpec) (m : ActorMaps) : Prop where
  actorIds : ∀ a, a ∈ m.actorIds ↔ a ∈ ids as
  actors : m.actors = as
  nodup : (ids as).Nodup
  links : ∀ a, m.links.lookup a = if a ∈ ids as then some [] else none
  bindings : ∀ a k, m.bindings.lookup a = some k ↔ (ids as)[k]? = some a

/-- The maps after the loop over the links `ls`, which started with `m₀`. -/
structure LinksRead (m₀ : ActorMaps) (ls : List (String × String)) (m : ActorMaps) : Prop where
  actorIds : m.actorIds = m₀.actorIds
  actors : m.actors = m₀.actors
  bindings : m.bindings = m₀.bindings
  links : ∀ a, m.links.lookup a = if a ∈ m₀.actorIds then some (targetsOf ls a) else none
  known : ∀ l ∈ ls, l.1 ∈ m₀.actorIds ∧ l.2 ∈ m₀.actorIds

/-- The maps after the loop over the ingresses `is`. -/
structure IngressesRead (actorIds : Finset String) (is : List (String × String)) (i : IngressMaps) :
    Prop where
  ingressNames : ∀ n, n ∈ i.ingressNames ↔ n ∈ is.map (·.1)
  ingresses : ∀ n t, i.ingresses.lookup n = some ⟨t⟩ ↔ (n, t) ∈ is
  targets : ∀ ingress ∈ is, ingress.2 ∈ actorIds
  namesByActor : ∀ a, (i.ingressNamesByActor.lookup a).getD [] = namesOf is a

theorem actorsRead_nil : ActorsRead [] ⟨∅, [], ∅, ∅⟩ where
  actorIds := by simp [ids]
  actors := rfl
  nodup := List.nodup_nil
  links := by simp [ids]
  bindings := by simp [ids]

theorem ActorsRead.addActor (h : ActorsRead as m) (hs : addActor m actor = .ok m') :
    ActorsRead (as ++ [actor]) m' := by
  unfold GraphBuilder.addActor at hs
  split at hs
  · cases hs
  split at hs
  · cases hs
  rename_i hknown
  cases hs
  have hnew : actor.id ∉ ids as := fun hm => hknown ((h.actorIds _).2 hm)
  refine ⟨fun a => ?_, by rw [h.actors], ?_, fun a => ?_, fun a k => ?_⟩
  · simp [h.actorIds, or_comm]
  · rw [ids_concat]
    exact List.nodup_append.2 ⟨h.nodup, List.nodup_singleton _, fun x hx y hy he =>
      hnew (List.mem_singleton.1 hy ▸ he ▸ hx)⟩
  · by_cases ha : a = actor.id
    · subst ha
      simp
    · simp [AList.lookup_insert_ne ha, h.links, ha]
  · rw [ids_concat, getElem?_concat_new hnew]
    by_cases ha : a = actor.id
    · subst ha
      simp [h.actors, ids, eq_comm]
    · rw [AList.lookup_insert_ne ha, h.bindings, if_neg ha]

theorem linksRead_nil (h : ActorsRead as m) : LinksRead m [] m where
  actorIds := rfl
  actors := rfl
  bindings := rfl
  links := fun a => by simp [h.links, h.actorIds, targetsOf]
  known := by simp

theorem LinksRead.addLink (h : LinksRead m₀ ls m) (hs : addLink m link = .ok m') :
    LinksRead m₀ (ls ++ [link]) m' := by
  unfold GraphBuilder.addLink at hs
  split at hs
  · cases hs
  split at hs
  · cases hs
  rename_i hsource htarget
  simp only [h.actorIds, not_not] at hsource htarget
  rw [h.links, if_pos hsource] at hs
  cases hs
  refine ⟨h.actorIds, h.actors, h.bindings, fun a => ?_, fun l hl => ?_⟩
  · rw [targetsOf_concat]
    by_cases ha : a = link.1
    · subst ha
      simp [hsource]
    · simp [AList.lookup_insert_ne ha, h.links, Ne.symm ha]
  · rcases List.mem_append.1 hl with hl | hl
    · exact h.known l hl
    · rw [List.mem_singleton.1 hl]
      exact ⟨hsource, htarget⟩

theorem ingressesRead_nil : IngressesRead actorIds [] ⟨∅, ∅, ∅⟩ where
  ingressNames := by simp
  ingresses := by simp
  targets := by simp
  namesByActor := by simp [namesOf]

theorem IngressesRead.addIngress (h : IngressesRead actorIds is i)
    (hs : addIngress actorIds i ingress = .ok i') : IngressesRead actorIds (is ++ [ingress]) i' := by
  unfold GraphBuilder.addIngress at hs
  split at hs
  · cases hs
  split at hs
  · cases hs
  split at hs
  · cases hs
  rename_i hknown htarget
  rw [not_not] at htarget
  cases hs
  have hnew : ingress.1 ∉ is.map (·.1) := fun hm => hknown ((h.ingressNames _).2 hm)
  refine ⟨fun n => ?_, fun n t => ?_, fun j hj => ?_, fun a => ?_⟩
  · simp [h.ingressNames, or_comm]
  · by_cases hn : n = ingress.1
    · subst hn
      have hno : (ingress.1, t) ∉ is := fun hm => hnew (List.mem_map.2 ⟨_, hm, rfl⟩)
      simp [hno, Prod.ext_iff, eq_comm]
    · simp [AList.lookup_insert_ne hn, h.ingresses, Prod.ext_iff, hn]
  · rcases List.mem_append.1 hj with hj | hj
    · exact h.targets j hj
    · rw [List.mem_singleton.1 hj]
      exact htarget
  · rw [namesOf_concat]
    by_cases ha : a = ingress.2
    · subst ha
      simp [h.namesByActor]
    · simp [AList.lookup_insert_ne ha, h.namesByActor, Ne.symm ha]

/-- The bodies of `build` that did not return early. -/
theorem build_cases {b : GraphBuilder} {anonymous : String} {g : GraphInner}
    (h : b.build anonymous = .ok g) : ∃ graphName m m' i,
      b.actors ≠ [] ∧ b.mailboxCapacity ≠ 0 ∧ b.actors.foldlM GraphBuilder.addActor ⟨∅, [], ∅, ∅⟩ = .ok m ∧
      b.links.foldlM GraphBuilder.addLink m = .ok m' ∧
      b.ingresses.foldlM (GraphBuilder.addIngress m'.actorIds) ⟨∅, ∅, ∅⟩ = .ok i ∧
      g = ⟨graphName, m'.actors, m'.links, m'.bindings, b.mailboxCapacity, b.maxEnvelopeBytes,
        b.maxBlockingTasksPerActor, b.blockingShutdownTimeout, i.ingresses, i.ingressNamesByActor⟩ := by
  unfold build at h
  obtain ⟨graphName, -, h⟩ := bind_eq_ok.1 h
  split at h
  · cases h
  split at h
  · cases h
  rename_i hempty hcapacity
  obtain ⟨m, hm, h⟩ := bind_eq_ok.1 h
  obtain ⟨m', hm', h⟩ := bind_eq_ok.1 h
  obtain ⟨i, hi, h⟩ := bind_eq_ok.1 h
  cases h
  exact ⟨graphName, m, m', i, fun he => hempty (by rw [he]; rfl), hcapacity, hm, hm', hi, rfl⟩

theorem build_wired {b : GraphBuilder} {anonymous : String} {g : GraphInner}
    (h : b.build anonymous = .ok g) : b.Wired g := by
  obtain ⟨graphName, m, m', i, hempty, hcapacity, hm, hm', hi, rfl⟩ := build_cases h
  have ha : ActorsRead b.actors m := foldlM_ok actorsRead_nil (fun _ _ _ _ h hs => h.addActor hs) hm
  have hl : LinksRead m b.links m' := foldlM_ok (linksRead_nil ha) (fun _ _ _ _ h hs => h.addLink hs) hm'
  have hn : IngressesRead m'.actorIds b.ingresses i :=
    foldlM_ok ingressesRead_nil (fun _ _ _ _ h hs => h.addIngress hs) hi
  have hids (a : String) : a ∈ m'.actorIds ↔ a ∈ ids b.actors := by rw [hl.actorIds, ha.actorIds]
  refine ⟨by rw [hl.actors, ha.actors], hempty, ha.nodup, ⟨rfl, hcapacity⟩, fun a => ?_, fun l hl' => ?_,
    fun a k => ?_, hn.ingresses, fun j hj => (hids _).1 (hn.targets j hj), hn.namesByActor⟩
  · simp only [hl.links, ha.actorIds]
  · exact ⟨(ha.actorIds _).1 (hl.known l hl').1, (ha.actorIds _).1 (hl.known l hl').2⟩
  · rw [hl.bindings, ha.bindings]

end

end GraphBuilder
end TokioSupervisor
