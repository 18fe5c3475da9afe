import TokioSupervisor.Actor.SendWhenReady
import TokioSupervisor.Actor.Wiring
import TokioSupervisor.Lib.Mpsc

/-!
# Actors that send to each other

All mailboxes with all calls that send into them. A call is the future of one of the send methods of
`ActorRef`, `IngressHandle` and `ActorContext`: those of the context look for the handle of a peer first and
leave the rest to it, and the two kinds of handle go through the same code with errors of their own. A poll
runs a call from one look at shared state to the next, so that every interleaving of the calls, of the
actors and of whoever binds mailboxes is a run; a future can be dropped wherever it awaits.

The number of a call is that of its sender in the channel, and a context has the number of its mailbox. The
capacities are given for every mailbox that will ever be made. `pushed` and `received` record what went
through the mailboxes; no transition reads them. Observations are left out, and so is that `recv` answers
`None` when every sender of the mailbox is gone, which changes nothing.
-/

namespace TokioSupervisor
open Lib

/-- An envelope, with the call that sends it. -/
structure Message where
  call : Nat
  envelope : Envelope
deriving DecidableEq, Repr

/-! ### Errors -/

/-- The error of a handle of either kind. -/
inductive HandleError
  | send (error : SendError)
  | ingress (error : IngressError)
deriving DecidableEq, Repr

namespace MailboxError

/-- `MailboxError::from_try_send`. -/
def fromTrySend (actorId : String) : TrySendError → MailboxError
  | .full => .mailboxFull actorId
  | .closed => .mailboxClosed actorId

def intoSendError : MailboxError → SendError
  | .envelopeTooLarge actorId envelopeLen maxEnvelopeBytes =>
    .envelopeTooLarge actorId envelopeLen maxEnvelopeBytes
  | .mailboxFull actorId => .mailboxFull actorId
  | .mailboxClosed actorId => .mailboxClosed actorId

end MailboxError

def MailboxSendFailure.intoMailboxError (actorId : String) : MailboxSendFailure → MailboxError
  | .envelopeTooLarge envelopeLen maxEnvelopeBytes =>
    .envelopeTooLarge actorId envelopeLen maxEnvelopeBytes
  | .mailboxClosed _ => .mailboxClosed actorId

def IngressHandle.mapMailboxError (h : IngressHandle) : MailboxError → IngressError
  | .envelopeTooLarge _ envelopeLen maxEnvelopeBytes =>
    .envelopeTooLarge h.name h.actorId envelopeLen maxEnvelopeBytes
  | .mailboxFull _ => .mailboxFull h.name h.actorId
  | .mailboxClosed _ => .mailboxClosed h.name h.actorId

def SendPhase.mapError {ε δ : Type} (f : ε → δ) : SendPhase ε → SendPhase δ
  | .head envelope => .head envelope
  | .sending mailbox envelope => .sending mailbox envelope
  | .waiting error envelope wait => .waiting (f error) envelope wait
  | .returned result => .returned (result.mapError f)
  | .panicked => .panicked

/-! ### Calls -/

/-- The methods that send, those of a context included. -/
inductive Operation
  | send
  | sendWhenReady
  | trySend
  | blockingSend
deriving DecidableEq, Repr

/-- The method is `async`: its call waits for capacity, and its future can be dropped. -/
def Operation.awaits : Operation → Bool
  | .send | .sendWhenReady => true
  | .trySend | .blockingSend => false

inductive SendHandle
  | actor (a : ActorRef)
  | ingress (h : IngressHandle)
deriving DecidableEq, Repr

namespace SendHandle

def binding : SendHandle → Nat
  | .actor a => a.binding
  | .ingress h => h.binding

def currentMailbox (w : Mailboxes) : SendHandle → Except HandleError MailboxRef
  | .actor a => (a.currentMailbox w).mapError .send
  | .ingress h => (h.currentMailbox w).mapError .ingress

/-- What `send`, `try_send` and `blocking_send` return for an error of the mailbox. -/
def mailboxError (error : MailboxError) : SendHandle → HandleError
  | .actor _ => .send error.intoSendError
  | .ingress h => .ingress (h.mapMailboxError error)

/-- The arms of `send_when_ready` on what `send_retaining` returns. -/
def afterSend (result : Except MailboxSendFailure Unit) : SendHandle → SendPhase HandleError
  | .actor a => (a.afterSend result).mapError .send
  | .ingress h => (h.afterSend result).mapError .ingress

end SendHandle

/-- How far a call has come. -/
inductive CallPhase
  | running (phase : SendPhase HandleError)
  /-- The shutdown of its context has ended it: `Ok`. -/
  | abandoned
  /-- Its future has been dropped. -/
  | dropped
deriving DecidableEq

/-- `owner` is the context whose `send_when_ready` selects on its shutdown token, `seen` the version that
the receiver in the handle has seen. `given` is recorded and never read. -/
structure SendingCall where
  handle : SendHandle
  operation : Operation
  owner : Option Nat
  given : Envelope
  seen : Nat
  phase : CallPhase
deriving DecidableEq

namespace SendingCall

def start (handle : SendHandle) (operation : Operation) (owner : Option Nat) (seen : Nat)
    (envelope : Envelope) : SendingCall :=
  ⟨handle, operation, owner, envelope, seen, .running (.head envelope)⟩

/-- What the caller gets. -/
def result (c : SendingCall) : Option (Except HandleError Unit) :=
  match c.phase with
  | .running (.returned result) => some result
  | .abandoned => some (.ok ())
  | _ => none

/-- The call is over. -/
def ended (c : SendingCall) : Bool :=
  match c.phase with
  | .running (.returned _) | .running .panicked | .abandoned | .dropped => true
  | _ => false

/-- The mailbox whose channel the call is in. -/
def channel (c : SendingCall) : Option Nat :=
  match c.phase with
  | .running (.sending mailbox _) => some mailbox.sender
  | _ => none

/-- `validate_envelope` has failed. -/
def refused (c : SendingCall) (mailbox : MailboxRef) (error : MailboxError) : SendPhase HandleError :=
  match c.operation, error.sendFailure with
  | .send, some failure =>
    .returned (.error (c.handle.mailboxError (failure.intoMailboxError mailbox.actorId)))
  | .sendWhenReady, some failure => c.handle.afterSend (.error failure)
  | .send, none | .sendWhenReady, none => .panicked
  | .trySend, _ | .blockingSend, _ => .returned (.error (c.handle.mailboxError error))

/-- `Sender::send` has returned. -/
def answered (c : SendingCall) (mailbox : MailboxRef) (result : Except MailboxSendFailure Unit) :
    SendPhase HandleError :=
  match c.operation with
  | .sendWhenReady => c.handle.afterSend result
  | _ => .returned (result.mapError fun failure =>
      c.handle.mailboxError (failure.intoMailboxError mailbox.actorId))

/-- From the head of the method to the channel. -/
def head (c : SendingCall) (w : Mailboxes) (envelope : Envelope) : SendPhase HandleError :=
  match c.handle.currentMailbox w with
  | .ok mailbox =>
    match mailbox.validateEnvelope envelope with
    | .ok () => .sending mailbox envelope
    | .error error => c.refused mailbox error
  | .error error =>
    match c.operation with
    | .sendWhenReady => .waiting error envelope (.looking false)
    | _ => .returned (.error error)

end SendingCall

namespace ActorRef

/-- The calls of the methods of the same names. -/
def sendCall (a : ActorRef) : Nat → Envelope → SendingCall := .start (.actor a) .send none
def sendWhenReadyCall (a : ActorRef) : Nat → Envelope → SendingCall :=
  .start (.actor a) .sendWhenReady none
def trySendCall (a : ActorRef) : Nat → Envelope → SendingCall := .start (.actor a) .trySend none
def blockingSendCall (a : ActorRef) : Nat → Envelope → SendingCall := .start (.actor a) .blockingSend none

end ActorRef

namespace IngressHandle

def sendCall (h : IngressHandle) : Nat → Envelope → SendingCall := .start (.ingress h) .send none
def sendWhenReadyCall (h : IngressHandle) : Nat → Envelope → SendingCall :=
  .start (.ingress h) .sendWhenReady none
def trySendCall (h : IngressHandle) : Nat → Envelope → SendingCall := .start (.ingress h) .trySend none

end IngressHandle

/-! ### Contexts -/

/-- The entries of an `ActorRegistry`, by the binding they have. -/
abbrev ActorEntries := AList fun _ : String => Nat

def ActorEntries.actorRef (entries : ActorEntries) (actorId : String) : Option ActorRef :=
  (entries.lookup actorId).map fun binding => ⟨actorId, binding⟩

namespace ActorContext

def peer (ctx : ActorContext) (actorId : String) : Option ActorRef := ctx.peers.lookup actorId

/-- `registry` is what the actor's registry has, if it has one. -/
def resolveDynamicPeer (ctx : ActorContext) (registry : Option ActorEntries) (actorId : String) :
    Option ActorRef :=
  (ctx.peer actorId).or (registry.bind (·.actorRef actorId))

def unknownTarget (ctx : ActorContext) (peerId : String) : SendError := .unknownPeer ctx.id peerId

/-- The send methods, up to the call of the peer. -/
def callPeer (ctx : ActorContext) (peerId : String) (found : Option ActorRef)
    (call : ActorRef → SendingCall) : Except SendError SendingCall :=
  match found with
  | some peer => .ok (call peer)
  | none => .error (ctx.unknownTarget peerId)

/-- `select!` on the token of the context and the call. -/
def untilShutdown (ctx : ActorContext) (c : SendingCall) : SendingCall := { c with owner := some ctx.mailbox }

def send (ctx : ActorContext) (actorId : String) (seen : Nat) (envelope : Envelope) :
    Except SendError SendingCall :=
  ctx.callPeer actorId (ctx.peer actorId) fun peer => peer.sendCall seen envelope

def sendWhenReady (ctx : ActorContext) (actorId : String) (seen : Nat) (envelope : Envelope) :
    Except SendError SendingCall :=
  ctx.callPeer actorId (ctx.peer actorId) fun peer =>
    ctx.untilShutdown (peer.sendWhenReadyCall seen envelope)

def trySend (ctx : ActorContext) (actorId : String) (seen : Nat) (envelope : Envelope) :
    Except SendError SendingCall :=
  ctx.callPeer actorId (ctx.peer actorId) fun peer => peer.trySendCall seen envelope

def sendDynamic (ctx : ActorContext) (registry : Option ActorEntries) (actorId : String) (seen : Nat)
    (envelope : Envelope) : Except SendError SendingCall :=
  ctx.callPeer actorId (ctx.resolveDynamicPeer registry actorId) fun peer => peer.sendCall seen envelope

def sendDynamicWhenReady (ctx : ActorContext) (registry : Option ActorEntries) (actorId : String)
    (seen : Nat) (envelope : Envelope) : Except SendError SendingCall :=
  ctx.callPeer actorId (ctx.resolveDynamicPeer registry actorId) fun peer =>
    ctx.untilShutdown (peer.sendWhenReadyCall seen envelope)

end ActorContext

/-- A context with what it shares; `exited` says that the actor has dropped it. -/
structure RunningContext where
  ctx : ActorContext
  hasRegistry : Bool
  shutdown : Bool
  exited : Bool

/-! ### The system -/

structure Messaging where
  bindings : Nat → Watch (Option MailboxRef)
  boxes : Nat → Mpsc Message
  contexts : Nat → Option RunningContext
  registry : ActorEntries
  calls : List SendingCall
  pushed : List (Nat × Message)
  received : List (Nat × Message)

namespace Messaging

/-- No mailbox is bound and no actor runs. -/
def new (capacity : Nat → Nat) : Messaging where
  bindings := fun _ => ⟨none, 0, false⟩
  boxes := fun k => .channel (capacity k)
  contexts := fun _ => none
  registry := ∅
  calls := []
  pushed := []
  received := []

/-- What a call sees of the others. -/
def view (s : Messaging) : Mailboxes where
  bindings := s.bindings
  boxes := fun k =>
    ⟨(s.boxes k).capacity, (s.boxes k).queue.map (·.envelope), (s.boxes k).closed⟩

def setCall (s : Messaging) (i : Nat) (c : SendingCall) : Messaging := { s with calls := s.calls.set i c }

def setBox (s : Messaging) (k : Nat) (box : Mpsc Message) : Messaging :=
  { s with boxes := Function.update s.boxes k box }

def setContext (s : Messaging) (k : Nat) (r : RunningContext) : Messaging :=
  { s with contexts := Function.update s.contexts k (some r) }

def setBinding (s : Messaging) (b : Nat) (binding : Watch (Option MailboxRef)) : Messaging :=
  { s with bindings := Function.update s.bindings b binding }

/-- The channel of `k` has taken the message of call `i`. -/
def push (s : Messaging) (i k : Nat) (box : Mpsc Message) (envelope : Envelope) : Messaging :=
  { s.setBox k box with pushed := s.pushed ++ [(k, ⟨i, envelope⟩)] }

/-- `Sender::send` or `Sender::try_send`, by the method. -/
def pollChannel (s : Messaging) (i : Nat) (c : SendingCall) (mailbox : MailboxRef) (envelope : Envelope) :
    Messaging :=
  if c.operation.awaits then
    match (s.boxes mailbox.sender).pollSend i ⟨i, envelope⟩ with
    | (box, none) => s.setBox mailbox.sender box
    | (box, some (.ok ())) =>
      (s.push i mailbox.sender box envelope).setCall i
        { c with phase := .running (c.answered mailbox (.ok ())) }
    | (_, some (.error returned)) =>
      s.setCall i
        { c with phase := .running (c.answered mailbox (.error (.mailboxClosed returned.envelope))) }
  else
    match (s.boxes mailbox.sender).trySend ⟨i, envelope⟩ with
    | .ok box =>
      (s.push i mailbox.sender box envelope).setCall i { c with phase := .running (.returned (.ok ())) }
    | .error error =>
      s.setCall i { c with
        phase := .running (.returned (.error
          (c.handle.mailboxError (.fromTrySend mailbox.actorId error)))) }

/-- The next piece of call `i`. -/
def poll (s : Messaging) (i : Nat) (c : SendingCall) : Option Messaging :=
  match c.phase with
  | .running (.head envelope) => some (s.setCall i { c with phase := .running (c.head s.view envelope) })
  | .running (.sending mailbox envelope) => some (s.pollChannel i c mailbox envelope)
  | .running (.waiting error envelope wait) =>
    ((s.bindings c.handle.binding).waitFor Option.isSome c.seen wait).map fun (seen, wait) =>
      s.setCall i { c with
        seen
        phase := .running (match wait with
          | .done true => .head envelope
          | .done false => .returned (.error error)
          | wait => .waiting error envelope wait) }
  | .running (.returned _) | .running .panicked | .abandoned | .dropped => none

/-- The future of call `i` goes, and with it its place in a channel. -/
def leave (s : Messaging) (i : Nat) (c : SendingCall) (phase : CallPhase) : Messaging :=
  match c.channel with
  | some k => (s.setBox k ((s.boxes k).cancel i)).setCall i { c with phase }
  | none => s.setCall i { c with phase }

/-- The branch of the `select!` of call `i` on the token of its context. -/
def abandon (s : Messaging) (i : Nat) (c : SendingCall) : Option Messaging := do
  let r ← s.contexts (← c.owner)
  if r.shutdown && !c.ended then some (s.leave i c .abandoned) else none

def dropCall (s : Messaging) (i : Nat) (c : SendingCall) : Option Messaging :=
  if c.operation.awaits && !c.ended then some (s.leave i c .dropped) else none

/-- A poll of `recv`, with what it returns. -/
def recv (s : Messaging) (k : Nat) (r : RunningContext) : Option (Messaging × Option Envelope) :=
  if r.shutdown then some (s, none)
  else (s.boxes k).recv.map fun (message, box) =>
    ({ s.setBox k box with received := s.received ++ [(k, message)] }, some message.envelope)

/-- Who calls which method. -/
inductive Request
  | actorSend (a : ActorRef)
  | actorSendWhenReady (a : ActorRef)
  | actorTrySend (a : ActorRef)
  | actorBlockingSend (a : ActorRef)
  | ingressSend (h : IngressHandle)
  | ingressSendWhenReady (h : IngressHandle)
  | ingressTrySend (h : IngressHandle)
  | contextSend (k : Nat) (actorId : String)
  | contextSendWhenReady (k : Nat) (actorId : String)
  | contextTrySend (k : Nat) (actorId : String)
  | contextSendDynamic (k : Nat) (actorId : String)
  | contextSendDynamicWhenReady (k : Nat) (actorId : String)
deriving DecidableEq, Repr

/-- The context that owns mailbox `k`, while its actor has it. -/
def active (s : Messaging) (k : Nat) : Option RunningContext := (s.contexts k).filter (!·.exited)

/-- The registry of a context. -/
def registryOf (s : Messaging) (r : RunningContext) : Option ActorEntries :=
  if r.hasRegistry then some s.registry else none

/-- The call that a method makes, or its error when it does not get as far. -/
def call (s : Messaging) (seen : Nat) (envelope : Envelope) :
    Request → Option (Except SendError SendingCall)
  | .actorSend a => some (.ok (a.sendCall seen envelope))
  | .actorSendWhenReady a => some (.ok (a.sendWhenReadyCall seen envelope))
  | .actorTrySend a => some (.ok (a.trySendCall seen envelope))
  | .actorBlockingSend a => some (.ok (a.blockingSendCall seen envelope))
  | .ingressSend h => some (.ok (h.sendCall seen envelope))
  | .ingressSendWhenReady h => some (.ok (h.sendWhenReadyCall seen envelope))
  | .ingressTrySend h => some (.ok (h.trySendCall seen envelope))
  | .contextSend k actorId => (s.active k).map fun r => r.ctx.send actorId seen envelope
  | .contextSendWhenReady k actorId => (s.active k).map fun r => r.ctx.sendWhenReady actorId seen envelope
  | .contextTrySend k actorId => (s.active k).map fun r => r.ctx.trySend actorId seen envelope
  | .contextSendDynamic k actorId =>
    (s.active k).map fun r => r.ctx.sendDynamic (s.registryOf r) actorId seen envelope
  | .contextSendDynamicWhenReady k actorId =>
    (s.active k).map fun r => r.ctx.sendDynamicWhenReady (s.registryOf r) actorId seen envelope

inductive Act
  | request (r : Request) (seen : Nat) (envelope : Envelope)
  | poll (i : Nat)
  | abandon (i : Nat)
  | drop (i : Nat)
  /-- An actor gets its context, and with it the receiver of a mailbox that nobody has had. -/
  | enter (ctx : ActorContext) (hasRegistry : Bool)
  | recv (k : Nat)
  | shutdown (k : Nat)
  /-- The actor drops its context. -/
  | exit (k : Nat)
  | bind (b : Nat) (mailbox : MailboxRef)
  | clear (b : Nat)
  | dropSource (b : Nat)
  | register (actorId : String) (b : Nat)
  | deregister (actorId : String)

def step (s : Messaging) : Act → Option Messaging
  | .request r seen envelope =>
    (s.call seen envelope r).map fun
      | .ok c => { s with calls := s.calls ++ [c] }
      | .error _ => s
  | .poll i => (s.calls[i]?).bind (s.poll i)
  | .abandon i => (s.calls[i]?).bind (s.abandon i)
  | .drop i => (s.calls[i]?).bind (s.dropCall i)
  | .enter ctx hasRegistry =>
    if (s.contexts ctx.mailbox).isSome then none
    else some (s.setContext ctx.mailbox ⟨ctx, hasRegistry, false, false⟩)
  | .recv k => ((s.active k).bind (s.recv k)).map Prod.fst
  | .shutdown k => (s.contexts k).map fun r => s.setContext k { r with shutdown := true }
  | .exit k =>
    (s.active k).map fun r =>
      (s.setBox k (s.boxes k).dropReceiver).setContext k { r with exited := true }
  | .bind b mailbox => ((s.bindings b).send (some mailbox)).map (s.setBinding b)
  | .clear b => ((s.bindings b).send none).map (s.setBinding b)
  | .dropSource b => some (s.setBinding b (s.bindings b).close)
  | .register actorId b =>
    if actorId.isEmpty || (s.registry.lookup actorId).isSome then none
    else some { s with registry := s.registry.insert actorId b }
  | .deregister actorId =>
    if (s.registry.lookup actorId).isSome then some { s with registry := s.registry.erase actorId } else none

end Messaging
end TokioSupervisor
