import TokioSupervisor.Runtime.Commands

/-!
# Actors of a runtime

`tokio-otp` keeps a registry of actors beside the supervisor. `RuntimeHandle::add_actor` registers the
actor and then asks the supervisor for its child; `remove_actor` asks for the removal of the child and
then takes the actor out of the registry. Calls run concurrently with each other and with the
supervisor: a call is given by its phase, and one of its steps is one look at the registry, or what it
does between two of its `.await`s.

Only handles with dynamic support are modelled (the others answer `Unsupported`), and of an actor only
its id. The number of a call names its oneshot in the supervisor's commands.
-/

namespace TokioSupervisor
open Lib

inductive RegistryError
  | emptyActorId
  | duplicateActorId (id : String)
  | unknownActorId (id : String)
deriving DecidableEq, Repr

/-- The ids that have an entry. -/
structure ActorRegistry where
  actorIds : List String
deriving DecidableEq, Repr

namespace ActorRegistry

def contains (r : ActorRegistry) (id : String) : Bool := r.actorIds.contains id

def registerEntry (r : ActorRegistry) (id : String) : Except RegistryError ActorRegistry :=
  if id.isEmpty then .error .emptyActorId
  else if r.contains id then .error (.duplicateActorId id)
  else .ok ⟨id :: r.actorIds⟩

def deregister (r : ActorRegistry) (id : String) : ActorRegistry × Except RegistryError Unit :=
  if id.isEmpty then (r, .error .emptyActorId)
  else if r.contains id then (⟨r.actorIds.filter (· != id)⟩, .ok ())
  else (r, .error (.unknownActorId id))

end ActorRegistry

/-! ### Building a runtime -/

structure ActorOverrides where
  restart : Option Restart
  restartIntensity : Option RestartIntensity
  shutdown : Option ShutdownPolicy
deriving DecidableEq, Repr

/-- `actor_set` lists the ids of the actors, in graph definition order. -/
structure SupervisedActors where
  actorSet : List String
  defaultRestart : Restart
  defaultShutdown : ShutdownPolicy
  overrides : AList (fun _ : String => ActorOverrides)

/-- `tokio_otp::BuildError`. -/
inductive RuntimeBuildError
  | registry (error : RegistryError)
  | supervisor (error : BuildError)
  | unknownActor (actorId : String)
deriving DecidableEq, Repr

/-- A runtime with dynamic support, not yet running. -/
structure Runtime where
  supervisor : SupervisorConfig
  registry : ActorRegistry

/-- The factory, which runs the actor, is left out with all factories. -/
def actorChildSpec (id : String) (restart : Restart) (shutdown : ShutdownPolicy)
    (restartIntensity : Option RestartIntensity) : ChildSpec :=
  { id, restart, restartIntensity, shutdownPolicy := shutdown }

namespace SupervisedActors

def validateOverrides (s : SupervisedActors) : Except RuntimeBuildError Unit :=
  match s.overrides.keys.find? (!s.actorSet.contains ·) with
  | some id => .error (.unknownActor id)
  | none => .ok ()

def actorChild (s : SupervisedActors) (id : String) : ChildSpec :=
  let overrides := (s.overrides.lookup id).getD ⟨none, none, none⟩
  actorChildSpec id (overrides.restart.getD s.defaultRestart)
    (overrides.shutdown.getD s.defaultShutdown) overrides.restartIntensity

def actorChildren (s : SupervisedActors) : List ChildSpec := s.actorSet.map s.actorChild

def buildRuntime (s : SupervisedActors) (builder : SupervisorBuilder) :
    Except RuntimeBuildError Runtime := do
  s.validateOverrides
  let registry ← (s.actorSet.foldlM ActorRegistry.registerEntry ⟨[]⟩).mapError .registry
  let builder := { builder with children := builder.children ++ s.actorChildren }
  let supervisor ← builder.build.mapError .supervisor
  return { supervisor, registry }

end SupervisedActors

/-! ### Calls -/

inductive DynamicActorError
  | registry (error : RegistryError)
  | control (error : ControlError)
deriving DecidableEq, Repr

structure DynamicActorOptions where
  restart : Restart
  shutdown : ShutdownPolicy
  restartIntensity : Option RestartIntensity
  peerIds : List String
deriving DecidableEq, Repr

/-- Where a call of `add_actor` or `remove_actor` stands. -/
inductive Call
  /-- `build_actor`, with the peers it has yet to find in the registry. -/
  | building (id : String) (options : DynamicActorOptions) (peerIds : List String)
  /-- The actor is registered, and the supervisor not yet asked. -/
  | registered (child : ChildSpec)
  | adding (child : ChildSpec)
  /-- `remove_actor`, before it asks the supervisor. -/
  | called (id : String)
  | removing (id : String)
  | returned (result : Except DynamicActorError Unit)

/-- The answer to call `n` that the action gives. -/
def Action.answer (n : Nat) : Action → Option (Except ControlError Unit)
  | .replied m result => if m = n then some result else none
  | .unavailable m => if m = n then some (.error .unavailable) else none
  | _ => none

/-- What the supervisor has answered to call `n`. -/
def SupervisorRuntime.answer (rt : SupervisorRuntime) (n : Nat) : Option (Except ControlError Unit) :=
  rt.trace.findSome? (Action.answer n)

/-- The supervisor has a child of this id. -/
def SupervisorRuntime.hasChild (rt : SupervisorRuntime) (id : String) : Bool :=
  (rt.childrenById.lookup id).isSome

/-- A running runtime with the calls made through its handles. `plain` lists the present children
that are no actors: those of the builder. It is recorded for the properties and never read. -/
structure RuntimeState where
  supervisor : Config
  registry : ActorRegistry
  calls : List Call
  plain : List String

/-- One step: of the supervisor or its environment, a new call, or call `n` going on. -/
inductive RuntimeAct
  | supervisor (a : Act)
  | addActor (id : String) (options : DynamicActorOptions)
  | removeActor (id : String)
  | resume (n : Nat)

namespace RuntimeState

def setCall (s : RuntimeState) (n : Nat) (call : Call) : RuntimeState :=
  { s with calls := s.calls.set n call }

/-- `SupervisorHandle::send` puts the command on the channel, or gets `Unavailable`. -/
def send (s : RuntimeState) (command : SupervisorCommand) : Option RuntimeState :=
  (TokioSupervisor.step s.supervisor (.send command)).map fun supervisor => { s with supervisor }

/-- The next piece of call `n`. -/
def resume (s : RuntimeState) (n : Nat) : Call → Option RuntimeState
  | .building id options (peerId :: peerIds) =>
    if s.registry.contains peerId then some (s.setCall n (.building id options peerIds))
    else some (s.setCall n (.returned (.error (.registry (.unknownActorId peerId)))))
  | .building id options [] =>
    match s.registry.registerEntry id with
    | .error err => some (s.setCall n (.returned (.error (.registry err))))
    | .ok registry =>
      let child := actorChildSpec id options.restart options.shutdown options.restartIntensity
      some ({ s with registry }.setCall n (.registered child))
  | .registered child => (s.send (.addChild child n)).map (·.setCall n (.adding child))
  | .adding child =>
    (s.supervisor.rt.answer n).map fun
      | .ok () => s.setCall n (.returned (.ok ()))
      | .error err =>
        { s with registry := (s.registry.deregister child.id).1 }.setCall n
          (.returned (.error (.control err)))
  | .called id => (s.send (.removeChild id n)).map (·.setCall n (.removing id))
  | .removing id =>
    (s.supervisor.rt.answer n).map fun
      | .error err => s.setCall n (.returned (.error (.control err)))
      | .ok () =>
        let (registry, result) := s.registry.deregister id
        { s with registry }.setCall n (.returned (result.mapError .registry))
  | .returned _ => none

/-- The supervisor's commands come from the calls only. -/
def step (s : RuntimeState) : RuntimeAct → Option RuntimeState
  | .supervisor (.send _) => none
  | .supervisor a =>
    (TokioSupervisor.step s.supervisor a).map fun supervisor =>
      { s with supervisor, plain := s.plain.filter supervisor.rt.hasChild }
  | .addActor id options =>
    some { s with calls := s.calls ++ [.building id options options.peerIds] }
  | .removeActor id => some { s with calls := s.calls ++ [.called id] }
  | .resume n => (s.calls[n]?).bind (s.resume n)

end RuntimeState

/-- The spawned runtime. -/
def Runtime.spawn (r : Runtime) (env : StartEnv) : RuntimeState where
  supervisor := Config.start r.supervisor env
  registry := r.registry
  calls := []
  plain := (r.supervisor.children.map (·.id)).filter (!r.registry.contains ·)

end TokioSupervisor
