import TokioSupervisor.Actor.Builder
import TokioSupervisor.Actor.Mailbox

/-!
# The wiring of a graph

What `build` has put into maps is looked up again by `GraphRuntime::run`, before its loop, and by
`ActorSet::from_graph`. Each lookup has its own error, with the actor that misses something; on a graph that
`build` has made none of them is returned, and the handles lead where the builder's calls say.

`create_mailboxes` takes the mailboxes from `next` on, and `bind_mailboxes` binds them. A task is modelled
by its context and its guard; shutdown tokens, the blocking runtime and observations are left out.
-/

namespace TokioSupervisor
open Lib

/-- `Semaphore::MAX_PERMITS`. -/
def MAX_PERMITS : Nat := (2 ^ 64 - 1) / 8

/-- `mpsc::channel`, which panics on a capacity it cannot have. -/
def Mailbox.channel (capacity : Nat) : Except String Mailbox :=
  if capacity = 0 then .error "mpsc bounded channel requires buffer > 0"
  else if MAX_PERMITS < capacity then
    .error s!"a semaphore may not have more than MAX_PERMITS permits ({MAX_PERMITS})"
  else .ok ⟨capacity, [], false⟩

/-- `MailboxBinding::bind`. -/
def Mailboxes.bind (w : Mailboxes) (b : Nat) (mailbox : MailboxRef) : Mailboxes :=
  w.setBinding b ((w.bindings b).replace (some mailbox))

structure MailboxBindingGuard where
  actorId : String
  binding : Nat
  ingressNames : List String

/-- `mailbox` is the number of the channel of the receiver. -/
structure ActorContext where
  id : String
  mailbox : Nat
  peers : AList fun _ : String => ActorRef
  myself : ActorRef

/-! ### Lookups -/

namespace GraphInner

def actorBinding (g : GraphInner) (actorId : String) : Except GraphError Nat :=
  match g.bindings.lookup actorId with
  | some binding => .ok binding
  | none => .error (.invalidState s!"actor `{actorId}` is missing its mailbox binding")

def ingressNamesForActor (g : GraphInner) (actorId : String) : List String :=
  (g.ingressNamesByActor.lookup actorId).getD []

def ingressHandle (g : GraphInner) (name : String) : Option IngressHandle := do
  let definition ← g.ingresses.lookup name
  let binding ← g.bindings.lookup definition.targetActor
  return ⟨name, definition.targetActor, binding⟩

def ingressHandles (g : GraphInner) : AList fun _ : String => IngressHandle :=
  (g.ingresses.entries.filterMap fun entry =>
    ((g.bindings.lookup entry.2.targetActor).map fun binding =>
      (⟨entry.1, entry.2.targetActor, binding⟩ : IngressHandle)).map (Sigma.mk entry.1)).toAList

/-- One turn of the loop of `peer_refs`. -/
def addPeer (g : GraphInner) (peers : AList fun _ : String => ActorRef) (peerId : String) :
    Except GraphError (AList fun _ : String => ActorRef) := do
  let binding ← g.actorBinding peerId
  return peers.insert peerId ⟨peerId, binding⟩

/-- `GraphRuntime::peer_refs`, and `peer_refs` of `actor_set.rs` with the same body. -/
def peerRefs (g : GraphInner) (actorId : String) :
    Except GraphError (AList fun _ : String => ActorRef) :=
  match g.links.lookup actorId with
  | some linkedPeers => linkedPeers.foldlM g.addPeer ∅
  | none => .error (.invalidState s!"actor `{actorId}` is missing its link definition")

end GraphInner

/-! ### A run of the graph -/

namespace GraphRuntime

/-- What `create_mailboxes` has made; `next` is the number of the next channel. -/
structure Created where
  world : Mailboxes
  next : Nat
  mailboxes : AList fun _ : String => MailboxRef
  receivers : AList fun _ : String => Nat

/-- One turn of the loop of `create_mailboxes`. -/
def createMailbox (g : GraphInner) (c : Created) (actor : ActorSpec) : Except String Created := do
  let box ← Mailbox.channel g.mailboxCapacity
  return {
    world := c.world.setBox c.next box
    next := c.next + 1
    mailboxes := c.mailboxes.insert actor.id ⟨actor.id, c.next, g.maxEnvelopeBytes⟩
    receivers := c.receivers.insert actor.id c.next }

def createMailboxes (g : GraphInner) (w : Mailboxes) (next : Nat) : Except String Created :=
  g.actors.foldlM (createMailbox g) ⟨w, next, ∅, ∅⟩

/-- What `bind_mailboxes` has bound, and the guards of it. -/
structure BoundMailboxes where
  world : Mailboxes
  guards : AList fun _ : String => MailboxBindingGuard

/-- One turn of the loop of `bind_mailboxes`. -/
def bindMailbox (g : GraphInner) (mailboxes : AList fun _ : String => MailboxRef) (s : BoundMailboxes)
    (actor : ActorSpec) : Except GraphError BoundMailboxes :=
  let id := actor.id
  match mailboxes.lookup id with
  | some mailbox => do
    let binding ← g.actorBinding id
    return {
      world := s.world.bind binding mailbox
      guards := s.guards.insert id ⟨id, binding, g.ingressNamesForActor id⟩ }
  | none => .error (.invalidState s!"actor `{id}` is missing its mailbox sender")

def bindMailboxes (g : GraphInner) (w : Mailboxes) (mailboxes : AList fun _ : String => MailboxRef) :
    Except GraphError BoundMailboxes :=
  g.actors.foldlM (bindMailbox g mailboxes) ⟨w, ∅⟩

def mailboxReceiver (actorId : String) (receivers : AList fun _ : String => Nat) :
    Except GraphError (Nat × AList fun _ : String => Nat) :=
  match receivers.lookup actorId with
  | some receiver => .ok (receiver, receivers.erase actorId)
  | none => .error (.invalidState s!"actor `{actorId}` is missing its mailbox receiver")

def actorRef (g : GraphInner) (actorId : String) : Except GraphError ActorRef := do
  let binding ← g.actorBinding actorId
  return ⟨actorId, binding⟩

/-- A task that `spawn_actors` has spawned, with the guard it owns. -/
structure ActorTask where
  ctx : ActorContext
  boundMailbox : MailboxBindingGuard

/-- `tasks` are those spawned so far, the maps what is left for the others. -/
structure Spawning where
  receivers : AList fun _ : String => Nat
  bindings : AList fun _ : String => MailboxBindingGuard
  tasks : List ActorTask

/-- One turn of the loop of `spawn_actors`. -/
def spawnActor (g : GraphInner) (s : Spawning) (actor : ActorSpec) : Except GraphError Spawning := do
  let id := actor.id
  let peers ← g.peerRefs id
  let (mailbox, receivers) ← mailboxReceiver id s.receivers
  let myself ← actorRef g id
  match s.bindings.lookup id with
  | some boundMailbox =>
    return {
      receivers
      bindings := s.bindings.erase id
      tasks := s.tasks ++ [⟨⟨id, mailbox, peers, myself⟩, boundMailbox⟩] }
  | none => .error (.invalidState s!"actor `{id}` is missing its binding guard")

def spawnActors (g : GraphInner) (receivers : AList fun _ : String => Nat)
    (bindings : AList fun _ : String => MailboxBindingGuard) : Except GraphError Spawning :=
  g.actors.foldlM (spawnActor g) ⟨receivers, bindings, []⟩

/-- A run at the head of its loop. -/
structure Started where
  world : Mailboxes
  tasks : List ActorTask

/-- `GraphRuntime::run` up to its loop. -/
def start (g : GraphInner) (w : Mailboxes) (next : Nat) : Except (Stop GraphError) Started := do
  let c ← (createMailboxes g w next).mapError .panic
  let s ← (bindMailboxes g c.world c.mailboxes).mapError .error
  let r ← (spawnActors g c.receivers s.guards).mapError .error
  return ⟨s.world, r.tasks⟩

end GraphRuntime

/-! ### An actor set -/

structure RunnableActorInner where
  spec : ActorSpec
  binding : Nat
  peers : AList fun _ : String => ActorRef
  myself : ActorRef
  mailboxCapacity : Nat
  maxEnvelopeBytes : Option Nat
  maxBlockingTasksPerActor : Option Nat
  blockingShutdownTimeout : Duration
  ingressNames : List String

structure ActorSet where
  actors : List RunnableActorInner
  actorIndex : AList fun _ : String => Nat

namespace ActorSet

/-- One actor of the set. -/
def runnable (g : GraphInner) (actor : ActorSpec) (peers : AList fun _ : String => ActorRef)
    (binding : Nat) : RunnableActorInner where
  spec := actor
  binding := binding
  peers := peers
  myself := ⟨actor.id, binding⟩
  mailboxCapacity := g.mailboxCapacity
  maxEnvelopeBytes := g.maxEnvelopeBytes
  maxBlockingTasksPerActor := g.maxBlockingTasksPerActor
  blockingShutdownTimeout := g.blockingShutdownTimeout
  ingressNames := g.ingressNamesForActor actor.id

/-- One turn of the loop of `from_graph`. -/
def addActor (g : GraphInner) (s : ActorSet) (actor : ActorSpec) : Except GraphError ActorSet := do
  let peers ← g.peerRefs actor.id
  let binding ← g.actorBinding actor.id
  return {
    actors := s.actors ++ [runnable g actor peers binding]
    actorIndex := s.actorIndex.insert actor.id s.actors.length }

def fromGraph (g : GraphInner) : Except GraphError ActorSet :=
  g.actors.foldlM (addActor g) ⟨[], ∅⟩

def actor (s : ActorSet) (id : String) : Option RunnableActorInner :=
  (s.actorIndex.lookup id).bind fun index => s.actors[index]?

end ActorSet

/-! ### What the lookups find -/

section
open GraphBuilder
variable {b : GraphBuilder} {g : GraphInner} {calls : List Call} {a t : String} {k : Nat}
  {peers : AList fun _ : String => ActorRef}

theorem GraphBuilder.Wired.exists_binding (h : b.Wired g) (ha : a ∈ ids b.actors) :
    ∃ k, g.bindings.lookup a = some k := by
  obtain ⟨k, hk, he⟩ := List.getElem_of_mem ha
  exact ⟨k, (h.bindings a k).2 (List.getElem?_eq_some_iff.2 ⟨hk, he⟩)⟩

theorem GraphBuilder.Wired.mem_bindings (h : b.Wired g) : a ∈ g.bindings ↔ a ∈ ids b.actors := by
  constructor
  · intro ha
    obtain ⟨k, hk⟩ := Option.isSome_iff_exists.1 (AList.lookup_isSome.2 ha)
    exact List.mem_of_getElem? ((h.bindings a k).1 hk)
  · intro ha
    obtain ⟨k, hk⟩ := h.exists_binding ha
    exact AList.lookup_isSome.1 (by rw [hk]; rfl)

theorem GraphBuilder.Wired.binding_inj (h : b.Wired g) {a' : String} (ha : g.bindings.lookup a = some k)
    (ha' : g.bindings.lookup a' = some k) : a = a' := by
  have hk := (h.bindings a k).1 ha
  rw [(h.bindings a' k).1 ha'] at hk
  exact (Option.some.inj hk).symm

theorem actorBinding_of_lookup (hk : g.bindings.lookup a = some k) : g.actorBinding a = .ok k := by
  simp only [GraphInner.actorBinding, hk]

/-- The refs to `targets`, by their ids. -/
def PeersTo (g : GraphInner) (targets : List String) (peers : AList fun _ : String => ActorRef) : Prop :=
  ∀ t, peers.lookup t = if t ∈ targets then (g.bindings.lookup t).map (ActorRef.mk t) else none

theorem PeersTo.addPeer {targets : List String}
    (h : PeersTo g targets peers) (hk : g.bindings.lookup t = some k) :
    ∃ peers', g.addPeer peers t = .ok peers' ∧ PeersTo g (targets ++ [t]) peers' := by
  refine ⟨peers.insert t ⟨t, k⟩, ?_, fun u => ?_⟩
  · simp only [GraphInner.addPeer, actorBinding_of_lookup hk]
    rfl
  · by_cases hu : u = t
    · subst hu
      simp [hk]
    · simp [AList.lookup_insert_ne hu, h u, hu]

theorem GraphBuilder.Wired.peerRefs (h : b.Wired g) (ha : a ∈ ids b.actors) :
    ∃ peers, g.peerRefs a = .ok peers ∧ PeersTo g (targetsOf b.links a) peers := by
  simp only [GraphInner.peerRefs, h.links, if_pos ha]
  refine exists_foldlM_ok (fun t => by simp) fun pre t peers hpre hp => ?_
  have ht : t ∈ targetsOf b.links a := hpre.subset (by simp)
  obtain ⟨k, hk⟩ := h.exists_binding (h.known _ (mem_targetsOf.1 ht)).2
  exact hp.addPeer hk

/-- `peers` are the actors that the calls link from `a`, each with its binding. -/
structure PeersOf (calls : List Call) (g : GraphInner) (a : String)
    (peers : AList fun _ : String => ActorRef) : Prop where
  keys : ∀ t, t ∈ peers ↔ .link a t ∈ calls
  refs : ∀ t ref, peers.lookup t = some ref → ref.actorId = t ∧ g.bindings.lookup t = some ref.binding

theorem PeersTo.peersOf (hw : (ofCalls calls).Wired g)
    (h : PeersTo g (targetsOf (ofCalls calls).links a) peers) : PeersOf calls g a peers := by
  constructor
  · intro t
    rw [← AList.lookup_isSome, h t, ← mem_links_ofCalls, ← mem_targetsOf]
    split
    · rename_i ht
      obtain ⟨i, hi⟩ := hw.exists_binding (hw.known _ (mem_targetsOf.1 ht)).2
      simp [hi, ht]
    · rename_i ht
      simp [ht]
  · intro t ref href
    rw [h t] at href
    split at href
    · obtain ⟨i, hi, rfl⟩ := Option.map_eq_some_iff.1 href
      exact ⟨rfl, hi⟩
    · cases href

end

/-! ### A run -/

namespace GraphRuntime
open GraphBuilder
variable {b : GraphBuilder} {g : GraphInner} {w : Mailboxes} {next : Nat} {pre : List ActorSpec}
  {actor : ActorSpec} {c : Created} {s : BoundMailboxes} {r : Spawning} {a : String} {k : Nat}
  {mailboxes : AList fun _ : String => MailboxRef} {receivers : AList fun _ : String => Nat}
  {guards : AList fun _ : String => MailboxBindingGuard}

theorem channel_cases {capacity : Nat} (h : capacity ≠ 0) :
    ¬ MAX_PERMITS < capacity ∧ Mailbox.channel capacity = .ok ⟨capacity, [], false⟩ ∨
      MAX_PERMITS < capacity ∧ ∃ message, Mailbox.channel capacity = .error message := by
  unfold Mailbox.channel
  rw [if_neg h]
  split
  · rename_i hlt
    exact .inr ⟨hlt, _, rfl⟩
  · rename_i hle
    exact .inl ⟨hle, rfl⟩

/-- `create_mailboxes` after the actors `pre`: one fresh mailbox for each. -/
structure CreatedFor (g : GraphInner) (w : Mailboxes) (pre : List ActorSpec) (c : Created) : Prop where
  bindings : c.world.bindings = w.bindings
  known : ∀ a, a ∈ c.receivers ↔ a ∈ ids pre
  senders : ∀ a, c.mailboxes.lookup a = (c.receivers.lookup a).map (⟨a, ·, g.maxEnvelopeBytes⟩)
  fresh : ∀ a k, c.receivers.lookup a = some k →
    k < c.next ∧ c.world.boxes k = ⟨g.mailboxCapacity, [], false⟩
  own : ∀ a a' k, c.receivers.lookup a = some k → c.receivers.lookup a' = some k → a = a'

theorem CreatedFor.createMailbox (h : CreatedFor g w pre c)
    (hbox : Mailbox.channel g.mailboxCapacity = .ok ⟨g.mailboxCapacity, [], false⟩) :
    ∃ c', createMailbox g c actor = .ok c' ∧ CreatedFor g w (pre ++ [actor]) c' := by
  have hold (a : String) (k : Nat) (hk : (c.receivers.insert actor.id c.next).lookup a = some k) :
      a = actor.id ∧ k = c.next ∨ k < c.next ∧ c.receivers.lookup a = some k := by
    by_cases ha : a = actor.id
    · subst ha
      rw [AList.lookup_insert] at hk
      exact .inl ⟨rfl, (Option.some.inj hk).symm⟩
    · rw [AList.lookup_insert_ne ha] at hk
      exact .inr ⟨(h.fresh a k hk).1, hk⟩
  refine ⟨⟨c.world.setBox c.next ⟨g.mailboxCapacity, [], false⟩, c.next + 1,
    c.mailboxes.insert actor.id ⟨actor.id, c.next, g.maxEnvelopeBytes⟩,
    c.receivers.insert actor.id c.next⟩, ?_, h.bindings, fun a => ?_, fun a => ?_, fun a k hk => ?_,
    fun a a' k hk hk' => ?_⟩
  · simp only [GraphRuntime.createMailbox, hbox]
    rfl
  · simp [h.known, or_comm]
  · by_cases ha : a = actor.id
    · subst ha
      simp
    · simp [AList.lookup_insert_ne ha, h.senders]
  · rcases hold a k hk with ⟨-, rfl⟩ | ⟨hlt, hk⟩
    · exact ⟨Nat.lt_succ_self _, by simp [Mailboxes.setBox]⟩
    · exact ⟨Nat.lt_succ_of_lt hlt,
        by simpa [Mailboxes.setBox, Nat.ne_of_lt hlt] using (h.fresh a k hk).2⟩
  · rcases hold a k hk with ⟨rfl, rfl⟩ | ⟨hlt, hk⟩ <;> rcases hold a' _ hk' with ⟨rfl, he⟩ | ⟨hlt', hk'⟩
    · rfl
    · exact absurd hlt' (Nat.lt_irrefl _)
    · exact absurd (he ▸ hlt) (Nat.lt_irrefl _)
    · exact h.own a a' k hk hk'

/-- `bind_mailboxes` after the actors `pre`. -/
structure BoundFor (g : GraphInner) (w : Mailboxes) (mailboxes : AList fun _ : String => MailboxRef)
    (pre : List ActorSpec) (s : BoundMailboxes) : Prop where
  boxes : s.world.boxes = w.boxes
  guards : ∀ a, s.guards.lookup a = if a ∈ ids pre then
    (g.bindings.lookup a).map (⟨a, ·, g.ingressNamesForActor a⟩) else none
  bound : ∀ a ∈ ids pre, ∀ k, g.bindings.lookup a = some k →
    (s.world.bindings k).value = mailboxes.lookup a

theorem BoundFor.bindMailbox (h : BoundFor g w mailboxes pre s) (hw : b.Wired g) {m : MailboxRef}
    (hm : mailboxes.lookup actor.id = some m) (hk : g.bindings.lookup actor.id = some k) :
    ∃ s', bindMailbox g mailboxes s actor = .ok s' ∧ BoundFor g w mailboxes (pre ++ [actor]) s' := by
  refine ⟨⟨s.world.bind k m, s.guards.insert actor.id ⟨actor.id, k, g.ingressNamesForActor actor.id⟩⟩, ?_,
    h.boxes, fun a => ?_, fun a ha k' hk' => ?_⟩
  · simp only [GraphRuntime.bindMailbox, hm, actorBinding_of_lookup hk]
    rfl
  · by_cases ha : a = actor.id
    · subst ha
      simp [hk]
    · simp [AList.lookup_insert_ne ha, h.guards, ha]
  · by_cases hkk : k' = k
    · subst hkk
      rw [hw.binding_inj hk' hk, hm]
      simp [Mailboxes.bind, Mailboxes.setBinding, Watch.replace]
    · rw [ids_concat, List.mem_append, List.mem_singleton] at ha
      rcases ha with ha | rfl
      · simpa [Mailboxes.bind, Mailboxes.setBinding, hkk] using h.bound a ha k' hk'
      · exact absurd (Option.some.inj (hk'.symm.trans hk)) hkk

theorem not_mem_pre {as : List ActorSpec} (hnodup : (ids as).Nodup) (hpre : pre ++ [actor] <+: as) :
    actor.id ∉ ids pre := by
  obtain ⟨post, rfl⟩ := hpre
  rw [ids, List.map_append] at hnodup
  have := (List.nodup_append.1 hnodup).1
  rw [← ids, ids_concat] at this
  exact fun ha => (List.nodup_append.1 this).2.2 _ ha _ (List.mem_singleton_self _) rfl

/-- The context of a task has the receiver and the handles of its actor. -/
structure TaskFor (g : GraphInner) (links : List (String × String))
    (receivers : AList fun _ : String => Nat) (guards : AList fun _ : String => MailboxBindingGuard)
    (task : ActorTask) : Prop where
  mailbox : receivers.lookup task.ctx.id = some task.ctx.mailbox
  guard : guards.lookup task.ctx.id = some task.boundMailbox
  peers : PeersTo g (targetsOf links task.ctx.id) task.ctx.peers
  myself : task.ctx.myself.actorId = task.ctx.id ∧
    g.bindings.lookup task.ctx.id = some task.ctx.myself.binding

/-- `spawn_actors` after the actors `pre`. -/
structure SpawnedFor (g : GraphInner) (links : List (String × String))
    (receivers : AList fun _ : String => Nat) (guards : AList fun _ : String => MailboxBindingGuard)
    (pre : List ActorSpec) (r : Spawning) : Prop where
  leftReceivers : ∀ a, r.receivers.lookup a = if a ∈ ids pre then none else receivers.lookup a
  leftGuards : ∀ a, r.bindings.lookup a = if a ∈ ids pre then none else guards.lookup a
  order : r.tasks.map (·.ctx.id) = ids pre
  tasks : ∀ task ∈ r.tasks, TaskFor g links receivers guards task

/-- What one actor is given is taken from the maps. -/
theorem lookup_erase_pre {β : Type} {left all : AList fun _ : String => β}
    (h : ∀ a, left.lookup a = if a ∈ ids pre then none else all.lookup a) (a : String) :
    (left.erase actor.id).lookup a = if a ∈ ids (pre ++ [actor]) then none else all.lookup a := by
  by_cases ha : a = actor.id
  · subst ha
    simp
  · simp [AList.lookup_erase_ne ha, h, ha]

theorem SpawnedFor.spawnActor (h : SpawnedFor g b.links receivers guards pre r) (hw : b.Wired g)
    (hnew : actor.id ∉ ids pre) (ha : actor.id ∈ ids b.actors) {guard : MailboxBindingGuard}
    (hmailbox : receivers.lookup actor.id = some k) (hguard : guards.lookup actor.id = some guard) :
    ∃ r', spawnActor g r actor = .ok r' ∧ SpawnedFor g b.links receivers guards (pre ++ [actor]) r' := by
  obtain ⟨peers, hpeers, hto⟩ := hw.peerRefs ha
  obtain ⟨i, hi⟩ := hw.exists_binding ha
  have hr : r.receivers.lookup actor.id = some k := by rw [h.leftReceivers, if_neg hnew, hmailbox]
  have hg : r.bindings.lookup actor.id = some guard := by rw [h.leftGuards, if_neg hnew, hguard]
  refine ⟨⟨r.receivers.erase actor.id, r.bindings.erase actor.id,
    r.tasks ++ [⟨⟨actor.id, k, peers, ⟨actor.id, i⟩⟩, guard⟩]⟩, ?_, lookup_erase_pre h.leftReceivers,
    lookup_erase_pre h.leftGuards, by simp [h.order], fun task ht => ?_⟩
  · simp only [GraphRuntime.spawnActor, hpeers, mailboxReceiver, hr, actorRef, actorBinding_of_lookup hi, hg]
    rfl
  · rcases List.mem_append.1 ht with ht | ht
    · exact h.tasks task ht
    · rw [List.mem_singleton.1 ht]
      exact ⟨hmailbox, hguard, hto, rfl, hi⟩

/-- A run has one task for each actor of `calls`: its context has the peers that the calls link from the
actor and the receiver of a mailbox of its own, which the binding of the actor holds. -/
structure RunsAs (calls : List Call) (g : GraphInner) (s : Started) : Prop where
  order : s.tasks.map (·.ctx.id) = ids g.actors
  peers : ∀ task ∈ s.tasks, PeersOf calls g task.ctx.id task.ctx.peers
  myself : ∀ task ∈ s.tasks, task.ctx.myself.actorId = task.ctx.id ∧
    g.bindings.lookup task.ctx.id = some task.ctx.myself.binding
  guard : ∀ task ∈ s.tasks, task.boundMailbox =
    ⟨task.ctx.id, task.ctx.myself.binding, g.ingressNamesForActor task.ctx.id⟩
  bound : ∀ task ∈ s.tasks, (s.world.bindings task.ctx.myself.binding).value =
    some ⟨task.ctx.id, task.ctx.mailbox, g.maxEnvelopeBytes⟩
  fresh : ∀ task ∈ s.tasks, s.world.boxes task.ctx.mailbox = ⟨g.mailboxCapacity, [], false⟩
  own : ∀ task ∈ s.tasks, ∀ task' ∈ s.tasks, task.ctx.mailbox = task'.ctx.mailbox →
    task.ctx.id = task'.ctx.id

theorem start_ok {calls : List Call} (hw : (ofCalls calls).Wired g)
    (hbox : Mailbox.channel g.mailboxCapacity = .ok ⟨g.mailboxCapacity, [], false⟩) (w : Mailboxes)
    (next : Nat) : ∃ s, start g w next = .ok s ∧ RunsAs calls g s := by
  have hmem {pre : List ActorSpec} {actor : ActorSpec} (hpre : pre ++ [actor] <+: g.actors) :
      actor.id ∈ ids (ofCalls calls).actors :=
    List.mem_map_of_mem (hw.actors ▸ hpre.subset (by simp))
  obtain ⟨c, hc, hcf⟩ : ∃ c, createMailboxes g w next = .ok c ∧ CreatedFor g w g.actors c :=
    exists_foldlM_ok ⟨rfl, by simp [ids], by simp, by simp, by simp⟩
      fun pre actor c _ h => h.createMailbox hbox
  have hreceiver {a : String} (ha : a ∈ ids (ofCalls calls).actors) : ∃ k, c.receivers.lookup a = some k :=
    Option.isSome_iff_exists.1 (AList.lookup_isSome.2 ((hcf.known a).2 (hw.actors ▸ ha)))
  obtain ⟨s, hs, hsf⟩ : ∃ s, bindMailboxes g c.world c.mailboxes = .ok s ∧
      BoundFor g c.world c.mailboxes g.actors s := by
    refine exists_foldlM_ok ⟨rfl, by simp [ids], by simp [ids]⟩ fun pre actor s hpre h => ?_
    obtain ⟨k, hk⟩ := hreceiver (hmem hpre)
    obtain ⟨i, hi⟩ := hw.exists_binding (hmem hpre)
    exact h.bindMailbox hw (by rw [hcf.senders, hk]; rfl) hi
  have hguard {a : String} {i : Nat} (ha : a ∈ ids (ofCalls calls).actors) (hi : g.bindings.lookup a = some i) :
      s.guards.lookup a = some ⟨a, i, g.ingressNamesForActor a⟩ := by
    rw [hsf.guards, hw.actors, if_pos ha, hi]
    rfl
  obtain ⟨r, hr, hrf⟩ : ∃ r, spawnActors g c.receivers s.guards = .ok r ∧
      SpawnedFor g (ofCalls calls).links c.receivers s.guards g.actors r := by
    refine exists_foldlM_ok ⟨by simp [ids], by simp [ids], rfl, by simp⟩ fun pre actor r hpre h => ?_
    obtain ⟨k, hk⟩ := hreceiver (hmem hpre)
    obtain ⟨i, hi⟩ := hw.exists_binding (hmem hpre)
    exact h.spawnActor hw (not_mem_pre (hw.actors ▸ hw.nodup) hpre) (hmem hpre) hk (hguard (hmem hpre) hi)
  have hid (task : ActorTask) (ht : task ∈ r.tasks) : task.ctx.id ∈ ids (ofCalls calls).actors := by
    rw [← hw.actors, ← hrf.order]
    exact List.mem_map_of_mem ht
  refine ⟨⟨s.world, r.tasks⟩, ?_, hrf.order, fun task ht => (hrf.tasks task ht).peers.peersOf hw,
    fun task ht => (hrf.tasks task ht).myself, fun task ht => ?_, fun task ht => ?_, fun task ht => ?_,
    fun task ht task' ht' he => ?_⟩
  · exact bind_eq_ok.2 ⟨c, by rw [hc]; rfl, bind_eq_ok.2 ⟨s, by rw [hs]; rfl,
      bind_eq_ok.2 ⟨r, by rw [hr]; rfl, rfl⟩⟩⟩
  · have := (hrf.tasks task ht).guard
    rw [hguard (hid task ht) (hrf.tasks task ht).myself.2] at this
    exact (Option.some.inj this).symm
  · have hb := (hrf.tasks task ht).myself.2
    rw [hsf.bound _ (hw.actors ▸ hid task ht) _ hb, hcf.senders, (hrf.tasks task ht).mailbox]
    rfl
  · rw [hsf.boxes]
    exact (hcf.fresh _ _ (hrf.tasks task ht).mailbox).2
  · refine hcf.own _ _ _ (hrf.tasks task ht).mailbox ?_
    rw [he]
    exact (hrf.tasks task' ht').mailbox

theorem start_panic (hw : b.Wired g) {message : String}
    (hbox : Mailbox.channel g.mailboxCapacity = .error message) (w : Mailboxes) (next : Nat) :
    start g w next = .error (.panic message) := by
  obtain ⟨actor, rest, hactors⟩ := List.exists_cons_of_ne_nil hw.nonempty
  simp only [start, createMailboxes, hw.actors, hactors, List.foldlM_cons, createMailbox, hbox]
  rfl

end GraphRuntime

/-! ### An actor set -/

namespace ActorSet
open GraphBuilder
variable {b : GraphBuilder} {g : GraphInner} {pre : List ActorSpec} {actor : ActorSpec} {s : ActorSet}
  {a : String}

/-- The actor has its own binding, and the handles to those linked from it. -/
structure ActorFor (g : GraphInner) (links : List (String × String)) (r : RunnableActorInner) : Prop where
  binding : g.bindings.lookup r.spec.id = some r.binding
  peers : PeersTo g (targetsOf links r.spec.id) r.peers
  myself : r.myself = ⟨r.spec.id, r.binding⟩
  ingressNames : r.ingressNames = g.ingressNamesForActor r.spec.id

/-- `from_graph` after the actors `pre`. -/
structure SetFor (g : GraphInner) (links : List (String × String)) (pre : List ActorSpec) (s : ActorSet) :
    Prop where
  order : s.actors.map (·.spec) = pre
  index : ∀ a k, s.actorIndex.lookup a = some k ↔ (ids pre)[k]? = some a
  actors : ∀ r ∈ s.actors, ActorFor g links r

theorem SetFor.addActor (h : SetFor g b.links pre s) (hw : b.Wired g) (hnew : actor.id ∉ ids pre)
    (ha : actor.id ∈ ids b.actors) :
    ∃ s', addActor g s actor = .ok s' ∧ SetFor g b.links (pre ++ [actor]) s' := by
  obtain ⟨peers, hpeers, hto⟩ := hw.peerRefs ha
  obtain ⟨i, hi⟩ := hw.exists_binding ha
  have hlen : s.actors.length = (ids pre).length := by rw [← h.order]; simp [ids]
  refine ⟨⟨s.actors ++ [runnable g actor peers i], s.actorIndex.insert actor.id s.actors.length⟩, ?_,
    by simp [h.order, runnable], fun a k => ?_, fun r hr => ?_⟩
  · simp only [ActorSet.addActor, hpeers, actorBinding_of_lookup hi]
    rfl
  · rw [ids_concat, getElem?_concat_new hnew]
    by_cases ha : a = actor.id
    · subst ha
      simp [hlen, eq_comm]
    · rw [AList.lookup_insert_ne ha, h.index, if_neg ha]
  · rcases List.mem_append.1 hr with hr | hr
    · exact h.actors r hr
    · rw [List.mem_singleton.1 hr]
      exact ⟨hi, hto, rfl, rfl⟩

/-- `actor` finds exactly the actors of the set, by their ids. -/
theorem SetFor.actor_eq (h : SetFor g b.links pre s) {r : RunnableActorInner} :
    s.actor a = some r → r ∈ s.actors ∧ r.spec.id = a := by
  intro hr
  obtain ⟨k, hk, hr⟩ := Option.bind_eq_some_iff.1 hr
  refine ⟨List.mem_of_getElem? hr, ?_⟩
  have := (h.index a k).1 hk
  rw [← h.order, ids, List.getElem?_map, List.getElem?_map, hr] at this
  exact Option.some.inj this

theorem SetFor.isSome_actor (h : SetFor g b.links pre s) : (s.actor a).isSome ↔ a ∈ ids pre := by
  constructor
  · intro hs
    obtain ⟨r, hr⟩ := Option.isSome_iff_exists.1 hs
    obtain ⟨hm, rfl⟩ := h.actor_eq hr
    rw [← h.order, ids, List.map_map]
    exact List.mem_map_of_mem hm
  · intro ha
    obtain ⟨k, hk, he⟩ := List.getElem_of_mem ha
    have hlt : k < s.actors.length := by simpa [← h.order, ids] using hk
    simp [ActorSet.actor, (h.index a k).2 (List.getElem?_eq_some_iff.2 ⟨hk, he⟩), hlt]

/-- A set has one runnable actor for each actor of `calls`, which `actor` finds by its id: it has the
binding of the actor and the peers that the calls link from it. -/
structure RunsAlone (calls : List Call) (g : GraphInner) (s : ActorSet) : Prop where
  order : s.actors.map (·.spec) = g.actors
  found : ∀ a, (s.actor a).isSome ↔ .actor ⟨a⟩ ∈ calls
  actor : ∀ a r, s.actor a = some r → r ∈ s.actors ∧ r.spec.id = a
  peers : ∀ r ∈ s.actors, PeersOf calls g r.spec.id r.peers
  binding : ∀ r ∈ s.actors, g.bindings.lookup r.spec.id = some r.binding ∧
    r.myself = ⟨r.spec.id, r.binding⟩
  ingressNames : ∀ r ∈ s.actors, r.ingressNames = g.ingressNamesForActor r.spec.id

theorem fromGraph_ok {calls : List Call} (hw : (ofCalls calls).Wired g) :
    ∃ s, fromGraph g = .ok s ∧ RunsAlone calls g s := by
  obtain ⟨s, hs, hf⟩ : ∃ s, fromGraph g = .ok s ∧ SetFor g (ofCalls calls).links g.actors s := by
    refine exists_foldlM_ok ⟨rfl, by simp [ids], by simp⟩ fun pre actor s hpre h => ?_
    refine h.addActor hw (GraphRuntime.not_mem_pre (hw.actors ▸ hw.nodup) hpre) ?_
    exact List.mem_map_of_mem (hw.actors ▸ hpre.subset (by simp))
  refine ⟨s, hs, hf.order, fun a => ?_, fun a r => hf.actor_eq, fun r hr => (hf.actors r hr).peers.peersOf hw,
    fun r hr => ⟨(hf.actors r hr).binding, (hf.actors r hr).myself⟩, fun r hr => (hf.actors r hr).ingressNames⟩
  rw [hf.isSome_actor, hw.actors, mem_ids_ofCalls]

end ActorSet

/-! ### Built graphs -/

theorem dlookup_filterMap {β γ : Type} {l : List (Sigma fun _ : String => β)} (h : l.NodupKeys)
    (f : String → β → Option γ) (key : String) :
    (l.filterMap fun e => (f e.1 e.2).map (Sigma.mk (β := fun _ => γ) e.1)).dlookup key =
      (l.dlookup key).bind (f key) := by
  induction l with
  | nil => rfl
  | cons e l ih =>
    obtain ⟨k, v⟩ := e
    obtain ⟨hk, hl⟩ := List.nodupKeys_cons.1 h
    by_cases hkey : key = k
    · subst hkey
      rw [List.dlookup_cons_eq]
      cases hf : f key v with
      | none =>
        simp only [List.filterMap_cons, hf, Option.map_none, ih hl, List.dlookup_eq_none.2 hk]
        exact hf.symm
      | some c =>
        simp only [List.filterMap_cons, hf, Option.map_some, List.dlookup_cons_eq]
        exact hf.symm
    · rw [List.dlookup_cons_ne _ _ hkey, ← ih hl]
      cases hf : f k v with
      | none => simp only [List.filterMap_cons, hf, Option.map_none]
      | some c =>
        simp only [List.filterMap_cons, hf, Option.map_some]
        exact List.dlookup_cons_ne (β := fun _ => γ) _ ⟨k, c⟩ hkey

section
open GraphBuilder
variable {b : GraphBuilder} {g : GraphInner} {calls : List Call} {a t name target : String}
  {peers : AList fun _ : String => ActorRef}

theorem ingressHandle_of_mem (hw : b.Wired g) (hm : (name, target) ∈ b.ingresses) :
    ∃ i, g.bindings.lookup target = some i ∧ g.ingressHandle name = some ⟨name, target, i⟩ := by
  obtain ⟨i, hi⟩ := hw.exists_binding (hw.ingressTargets _ hm)
  exact ⟨i, hi, by simp [GraphInner.ingressHandle, (hw.ingresses name target).2 hm, hi]⟩

theorem lookup_ingressHandles (g : GraphInner) (name : String) :
    g.ingressHandles.lookup name = g.ingressHandle name := by
  have := dlookup_filterMap g.ingresses.nodupKeys (fun name definition =>
    (g.bindings.lookup definition.targetActor).map fun binding =>
      (⟨name, definition.targetActor, binding⟩ : IngressHandle)) name
  rw [GraphInner.ingressHandles, AList.lookup_to_alist, this, GraphInner.ingressHandle]
  exact Option.bind_congr fun definition _ => Option.map_eq_bind

theorem mem_of_ingressHandle (hw : b.Wired g) (h : (g.ingressHandle name).isSome) :
    ∃ target, (name, target) ∈ b.ingresses := by
  obtain ⟨handle, hh⟩ := Option.isSome_iff_exists.1 h
  obtain ⟨definition, hd, -⟩ := Option.bind_eq_some_iff.1 hh
  exact ⟨definition.targetActor, (hw.ingresses name _).1 hd⟩

/-- What holds of a graph that `calls` build: no lookup of a run or of an actor set fails, and every handle
leads to the binding of the actor that the calls say. -/
structure Resolves (calls : List Call) (g : GraphInner) : Prop where
  actors : ∀ a, a ∈ ids g.actors ↔ .actor ⟨a⟩ ∈ calls
  /-- The runs of `Actor/Graph.lean` are over these. -/
  graphActors : ∃ actors : GraphActors, actors.ids = ids g.actors
  bindings : ∀ a, a ∈ g.bindings ↔ .actor ⟨a⟩ ∈ calls
  distinct : ∀ a a' k, g.bindings.lookup a = some k → g.bindings.lookup a' = some k → a = a'
  run : ∀ w next, if MAX_PERMITS < g.mailboxCapacity
    then ∃ message, GraphRuntime.start g w next = .error (.panic message)
    else ∃ s, GraphRuntime.start g w next = .ok s ∧ GraphRuntime.RunsAs calls g s
  set : ∃ s, ActorSet.fromGraph g = .ok s ∧ ActorSet.RunsAlone calls g s
  ingress : ∀ name, (g.ingressHandle name).isSome ↔ ∃ target, .ingress name target ∈ calls
  target : ∀ name target, .ingress name target ∈ calls → ∃ i,
    g.bindings.lookup target = some i ∧ g.ingressHandle name = some ⟨name, target, i⟩
  handles : ∀ name, g.ingressHandles.lookup name = g.ingressHandle name

theorem build_resolves (calls : List Call) (anonymous : String) (g : GraphInner)
    (h : (ofCalls calls).build anonymous = .ok g) : Resolves calls g := by
  have hw := build_wired h
  refine ⟨fun a => ?_, ⟨⟨ids g.actors, hw.actors ▸ hw.nodup⟩, rfl⟩, fun a => ?_,
    fun a a' k => hw.binding_inj, fun w next => ?_, ActorSet.fromGraph_ok hw,
    fun name => ⟨fun hs => ?_, fun ⟨target, ht⟩ => ?_⟩, fun name target ht => ?_, lookup_ingressHandles g⟩
  · rw [hw.actors, mem_ids_ofCalls]
  · rw [hw.mem_bindings, mem_ids_ofCalls]
  · rcases GraphRuntime.channel_cases hw.capacity.2 with
      ⟨hle, hbox⟩ | ⟨hlt, message, hbox⟩
    · rw [if_neg hle]
      exact GraphRuntime.start_ok hw hbox w next
    · rw [if_pos hlt]
      exact ⟨message, GraphRuntime.start_panic hw hbox w next⟩
  · obtain ⟨target, ht⟩ := mem_of_ingressHandle hw hs
    exact ⟨target, mem_ingresses_ofCalls.1 ht⟩
  · obtain ⟨i, -, hi⟩ := ingressHandle_of_mem hw (mem_ingresses_ofCalls.2 ht)
    rw [hi]
    rfl
  · exact ingressHandle_of_mem hw (mem_ingresses_ofCalls.2 ht)

/-- A cycle, a link to itself and a link made twice. -/
theorem build_resolves_cycle :
    let calls : List Call := [.actor ⟨"a"⟩, .actor ⟨"b"⟩, .link "a" "b", .link "b" "a", .link "a" "a",
      .link "a" "b", .ingress "in" "b"]
    ∃ g, (ofCalls calls).build "graph-0" = .ok g ∧ Resolves calls g := by
  intro calls
  have hok : ((ofCalls calls).build "graph-0").isOk = true := by decide +kernel
  cases h : (ofCalls calls).build "graph-0" with
  | error e =>
    rw [h] at hok
    cases hok
  | ok g => exact ⟨g, rfl, build_resolves calls "graph-0" g h⟩

end
end TokioSupervisor
