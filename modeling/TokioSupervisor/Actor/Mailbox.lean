import TokioSupervisor.Lib.Run
import TokioSupervisor.Lib.Watch
import Mathlib.Logic.Function.Basic

/-!
# Mailboxes and their bindings

A mailbox is an `mpsc` channel of envelopes, and a binding is a watch channel of the mailbox that the
current run of an actor has bound. Both are numbered here: `MailboxRef` has the number of its sender,
`ActorRef` and `IngressHandle` have that of the binding they follow. The `environment` of `Mailboxes` is
what everybody but one sender does to them.
-/

namespace TokioSupervisor
open Lib

/-- Opaque message envelope passed between actors. -/
structure Envelope where
  payload : List UInt8
deriving DecidableEq, Repr

/-- `as_slice().len()`. -/
def Envelope.len (e : Envelope) : Nat := e.payload.length

/-- Errors returned when sending to an actor mailbox. -/
inductive SendError
  | unknownPeer (actorId peerId : String)
  | actorNotRunning (actorId : String)
  | envelopeTooLarge (actorId : String) (envelopeLen maxEnvelopeBytes : Nat)
  | mailboxFull (actorId : String)
  | mailboxClosed (actorId : String)
deriving DecidableEq, Repr

/-- Errors returned by stable ingress handles. -/
inductive IngressError
  | notRunning (ingress actorId : String)
  | envelopeTooLarge (ingress actorId : String) (envelopeLen maxEnvelopeBytes : Nat)
  | mailboxFull (ingress actorId : String)
  | mailboxClosed (ingress actorId : String)
deriving DecidableEq, Repr

inductive MailboxError
  | envelopeTooLarge (actorId : String) (envelopeLen maxEnvelopeBytes : Nat)
  | mailboxFull (actorId : String)
  | mailboxClosed (actorId : String)

inductive MailboxSendFailure
  | envelopeTooLarge (envelopeLen maxEnvelopeBytes : Nat)
  /-- The envelope comes back. -/
  | mailboxClosed (envelope : Envelope)

structure MailboxRef where
  actorId : String
  sender : Nat
  maxEnvelopeBytes : Option Nat
deriving DecidableEq, Repr

structure ActorRef where
  actorId : String
  binding : Nat
deriving DecidableEq, Repr

structure IngressHandle where
  name : String
  actorId : String
  binding : Nat
deriving DecidableEq, Repr

/-- The closure on a failed validation in `send_retaining`; `none` is `unreachable!`. -/
def MailboxError.sendFailure : MailboxError → Option MailboxSendFailure
  | .envelopeTooLarge _ envelopeLen maxEnvelopeBytes =>
    some (.envelopeTooLarge envelopeLen maxEnvelopeBytes)
  | .mailboxFull _ => none
  | .mailboxClosed _ => none

namespace MailboxRef

def validateEnvelope (m : MailboxRef) (envelope : Envelope) : Except MailboxError Unit :=
  match m.maxEnvelopeBytes with
  | none => .ok ()
  | some maxEnvelopeBytes =>
    if envelope.len ≤ maxEnvelopeBytes then .ok ()
    else .error (.envelopeTooLarge m.actorId envelope.len maxEnvelopeBytes)

/-- The limit that the envelope exceeds. -/
def exceeded (m : MailboxRef) (envelope : Envelope) : Option Nat :=
  m.maxEnvelopeBytes.filter (· < envelope.len)

theorem validateEnvelope_of_exceeded_none {m : MailboxRef} {envelope : Envelope}
    (h : m.exceeded envelope = none) : m.validateEnvelope envelope = .ok () := by
  unfold validateEnvelope
  split
  · rfl
  · rename_i hmax
    simp only [exceeded, hmax, Option.filter_eq_none_iff, Option.some.injEq, forall_eq',
      decide_eq_true_eq, Nat.not_lt] at h
    rw [if_pos h]

theorem validateEnvelope_of_exceeded {m : MailboxRef} {envelope : Envelope} {max : Nat}
    (h : m.exceeded envelope = some max) :
    m.validateEnvelope envelope = .error (.envelopeTooLarge m.actorId envelope.len max) := by
  simp only [exceeded, Option.filter_eq_some_iff, decide_eq_true_eq] at h
  simp [validateEnvelope, h.1, Nat.not_le.2 h.2]

end MailboxRef

/-- An `mpsc` channel: `queue` is what has been pushed and not received. -/
structure Mailbox where
  capacity : Nat
  queue : List Envelope
  /-- The receiver is closed or gone. -/
  closed : Bool

/-- A poll of `Sender::send`, which awaits a permit; a closed channel gives the envelope back. -/
def Mailbox.send (b : Mailbox) (envelope : Envelope) : Option (Except Envelope Mailbox) :=
  if b.closed then some (.error envelope)
  else if b.queue.length < b.capacity then some (.ok { b with queue := b.queue ++ [envelope] })
  else none

/-- All bindings and all mailboxes. -/
structure Mailboxes where
  bindings : Nat → Watch (Option MailboxRef)
  boxes : Nat → Mailbox

namespace Mailboxes

def setBinding (w : Mailboxes) (b : Nat) (binding : Watch (Option MailboxRef)) : Mailboxes :=
  { w with bindings := Function.update w.bindings b binding }

def setBox (w : Mailboxes) (k : Nat) (box : Mailbox) : Mailboxes :=
  { w with boxes := Function.update w.boxes k box }

/-- What happens to the bindings and the mailboxes. -/
inductive Act
  /-- `MailboxBinding::bind`. -/
  | bind (b : Nat) (mailbox : MailboxRef)
  /-- `MailboxBinding::clear`. -/
  | clear (b : Nat)
  /-- The last owner of the `MailboxBinding` is gone. -/
  | dropSource (b : Nat)
  | close (k : Nat)
  | receive (k : Nat)
  /-- Another sender pushes. -/
  | push (k : Nat) (envelope : Envelope)

def environment (w : Mailboxes) : Act → Option Mailboxes
  | .bind b mailbox => ((w.bindings b).send (some mailbox)).map (w.setBinding b)
  | .clear b => ((w.bindings b).send none).map (w.setBinding b)
  | .dropSource b => some (w.setBinding b (w.bindings b).close)
  | .close k => some (w.setBox k { w.boxes k with closed := true })
  | .receive k => some (w.setBox k { w.boxes k with queue := (w.boxes k).queue.tail })
  | .push k envelope => ((w.boxes k).send envelope).bind fun
    | .ok box => some (w.setBox k box)
    | .error _ => none

/-- What a wait has found out stays so whatever happens to the mailboxes. -/
theorem missed_environment {w w' : Mailboxes} {a : Act} {b seen : Nat} {wait : WaitFor}
    {p : Option MailboxRef → Bool} (h : (w.bindings b).Missed p seen wait)
    (hs : w.environment a = some w') : (w'.bindings b).Missed p seen wait := by
  have hset (c : Nat) (binding : Watch (Option MailboxRef))
      (hc : c = b → binding.Missed p seen wait) : ((w.setBinding c binding).bindings b).Missed p seen wait := by
    by_cases hbc : c = b
    · subst hbc
      simpa [setBinding] using hc rfl
    · simpa [setBinding, Function.update_of_ne (Ne.symm hbc)] using h
  cases a with
  | bind c mailbox | clear c =>
    obtain ⟨binding, hb, rfl⟩ := Option.map_eq_some_iff.1 hs
    exact hset c binding fun hc => by subst hc; exact h.send hb
  | dropSource c =>
    cases hs
    exact hset c _ fun hc => by subst hc; exact h.close
  | close k | receive k =>
    cases hs
    exact h
  | push k envelope =>
    obtain ⟨result, -, hr⟩ := Option.bind_eq_some_iff.1 hs
    cases result with
    | ok box =>
      cases hr
      exact h
    | error returned => cases hr

end Mailboxes
end TokioSupervisor
