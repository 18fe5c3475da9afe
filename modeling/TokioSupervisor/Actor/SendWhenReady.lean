import TokioSupervisor.Actor.Mailbox

/-!
# `send_when_ready`

`ActorRef` and `IngressHandle` each have a loop of their own that retries a send while the mailbox is
closed or not bound. A call is a future over the mailboxes: one piece of it runs from one `await` to the
next, and the environment acts in between. `pushed` records what the call has pushed and where; no
transition reads it.

`Retrying` is what a call carries from one `await` to the next: the envelope it was given, which is in no
mailbox before the call returns `Ok`. The loops of the two handles go through the same states
(`Mirrors`). Observations are left out.
-/

namespace TokioSupervisor
open Lib

/-- Where a call of `send_when_ready` stands; `ε` is the error of its handle. -/
inductive SendPhase (ε : Type)
  /-- At the head of the loop. -/
  | head (envelope : Envelope)
  /-- In `Sender::send`, inside `send_retaining`. -/
  | sending (mailbox : MailboxRef) (envelope : Envelope)
  /-- In `wait_for_next_binding`, after the error in the argument. -/
  | waiting (error : ε) (envelope : Envelope) (wait : WaitFor)
  | returned (result : Except ε Unit)
  | panicked
deriving DecidableEq

/-- A call with the mailboxes it runs over; `seen` is the version its receiver has seen. -/
structure SendCall (ε : Type) where
  mailboxes : Mailboxes
  seen : Nat
  phase : SendPhase ε
  pushed : List (Nat × Envelope)

namespace SendCall
variable {ε : Type}

def start (mailboxes : Mailboxes) (seen : Nat) (envelope : Envelope) : SendCall ε :=
  ⟨mailboxes, seen, .head envelope, []⟩

/-- `self.sender.send(envelope).await` of `send_retaining`; `none` while it is pending. -/
def pollSend (s : SendCall ε) (mailbox : MailboxRef) (envelope : Envelope) :
    Option (SendCall ε × Except MailboxSendFailure Unit) :=
  ((s.mailboxes.boxes mailbox.sender).send envelope).map fun
    | .ok b =>
      ({ s with
          mailboxes := s.mailboxes.setBox mailbox.sender b
          pushed := s.pushed ++ [(mailbox.sender, envelope)] }, .ok ())
    | .error returned => (s, .error (.mailboxClosed returned))

inductive Act
  /-- The next piece of the call. -/
  | poll
  | environment (a : Mailboxes.Act)

def step (poll : SendCall ε → Option (SendCall ε)) (s : SendCall ε) : Act → Option (SendCall ε)
  | .poll => poll s
  | .environment a => (s.mailboxes.environment a).map fun mailboxes => { s with mailboxes }

end SendCall

namespace ActorRef

def currentMailbox (a : ActorRef) (w : Mailboxes) : Except SendError MailboxRef :=
  match (w.bindings a.binding).value with
  | some mailbox => .ok mailbox
  | none => .error (.actorNotRunning a.actorId)

/-- The arms of `send_when_ready` on what `send_retaining` returns. -/
def afterSend (a : ActorRef) : Except MailboxSendFailure Unit → SendPhase SendError
  | .ok () => .returned (.ok ())
  | .error (.envelopeTooLarge envelopeLen maxEnvelopeBytes) =>
    .returned (.error (.envelopeTooLarge a.actorId envelopeLen maxEnvelopeBytes))
  | .error (.mailboxClosed returned) => .waiting (.mailboxClosed a.actorId) returned (.looking false)

/-- `wait_for_next_binding`, and the loop after it. -/
def waitForNextBinding (a : ActorRef) (s : SendCall SendError) (error : SendError) (envelope : Envelope)
    (wait : WaitFor) : Option (SendCall SendError) :=
  ((s.mailboxes.bindings a.binding).waitFor Option.isSome s.seen wait).map fun (seen, wait) =>
    { s with
      seen
      phase := match wait with
        | .done true => .head envelope
        | .done false => .returned (.error error)
        | wait => .waiting error envelope wait }

def sendWhenReady (a : ActorRef) (s : SendCall SendError) : Option (SendCall SendError) :=
  match s.phase with
  | .head envelope =>
    match a.currentMailbox s.mailboxes with
    | .ok mailbox =>
      match mailbox.validateEnvelope envelope with
      | .ok () => some { s with phase := .sending mailbox envelope }
      | .error error =>
        match error.sendFailure with
        | some failure => some { s with phase := a.afterSend (.error failure) }
        | none => some { s with phase := .panicked }
    | .error error => some { s with phase := .waiting error envelope (.looking false) }
  | .sending mailbox envelope =>
    (s.pollSend mailbox envelope).map fun (s, result) => { s with phase := a.afterSend result }
  | .waiting error envelope wait => a.waitForNextBinding s error envelope wait
  | .returned _ | .panicked => none

end ActorRef

namespace IngressHandle

def currentMailbox (h : IngressHandle) (w : Mailboxes) : Except IngressError MailboxRef :=
  match (w.bindings h.binding).value with
  | some mailbox => .ok mailbox
  | none => .error (.notRunning h.name h.actorId)

/-- The arms of `send_when_ready` on what `send_retaining` returns. -/
def afterSend (h : IngressHandle) : Except MailboxSendFailure Unit → SendPhase IngressError
  | .ok () => .returned (.ok ())
  | .error (.envelopeTooLarge envelopeLen maxEnvelopeBytes) =>
    .returned (.error (.envelopeTooLarge h.name h.actorId envelopeLen maxEnvelopeBytes))
  | .error (.mailboxClosed returned) =>
    .waiting (.mailboxClosed h.name h.actorId) returned (.looking false)

/-- `wait_for_next_binding`, and the loop after it. -/
def waitForNextBinding (h : IngressHandle) (s : SendCall IngressError) (error : IngressError) (envelope : Envelope)
    (wait : WaitFor) : Option (SendCall IngressError) :=
  ((s.mailboxes.bindings h.binding).waitFor Option.isSome s.seen wait).map fun (seen, wait) =>
    { s with
      seen
      phase := match wait with
        | .done true => .head envelope
        | .done false => .returned (.error error)
        | wait => .waiting error envelope wait }

def sendWhenReady (h : IngressHandle) (s : SendCall IngressError) : Option (SendCall IngressError) :=
  match s.phase with
  | .head envelope =>
    match h.currentMailbox s.mailboxes with
    | .ok mailbox =>
      match mailbox.validateEnvelope envelope with
      | .ok () => some { s with phase := .sending mailbox envelope }
      | .error error =>
        match error.sendFailure with
        | some failure => some { s with phase := h.afterSend (.error failure) }
        | none => some { s with phase := .panicked }
    | .error error => some { s with phase := .waiting error envelope (.looking false) }
  | .sending mailbox envelope =>
    (s.pollSend mailbox envelope).map fun (s, result) => { s with phase := h.afterSend result }
  | .waiting error envelope wait => h.waitForNextBinding s error envelope wait
  | .returned _ | .panicked => none

end IngressHandle

namespace SendCall
variable {ε : Type} {poll : SendCall ε → Option (SendCall ε)} {s₀ s s' : SendCall ε} {as : List Act}
  {b : Nat} {m : MailboxRef}

/-- The call has read the binding `b` while `m` was bound. -/
def Tried (poll : SendCall ε → Option (SendCall ε)) (b : Nat) (s₀ : SendCall ε) (as : List Act)
    (m : MailboxRef) : Prop :=
  Stepped (step poll) s₀ as fun s a =>
    a = .poll ∧ (∃ envelope, s.phase = .head envelope) ∧ (s.mailboxes.bindings b).value = some m

theorem tried_environment (hrun : AnyRun (step poll) s₀ as s) {a : Mailboxes.Act} :
    Tried poll b s₀ (as ++ [.environment a]) m ↔ Tried poll b s₀ as m := by
  simp [Tried, hrun.stepped_snoc]

theorem tried_poll (hrun : AnyRun (step poll) s₀ as s) :
    Tried poll b s₀ (as ++ [.poll]) m ↔ Tried poll b s₀ as m ∨
      (∃ envelope, s.phase = .head envelope) ∧ (s.mailboxes.bindings b).value = some m := by
  simp [Tried, hrun.stepped_snoc]

end SendCall

/-! ### One delivery -/

namespace ActorRef
open SendCall
variable {actor : ActorRef} {envelope : Envelope} {tried tried' : MailboxRef → Prop}
  {s s' : SendCall SendError}

/-- The errors after which the loop goes on. -/
def Transient (actor : ActorRef) (error : SendError) : Prop :=
  error = .actorNotRunning actor.actorId ∨ error = .mailboxClosed actor.actorId

/-- The phases of a call that has pushed nothing and met no limit. -/
inductive Carries (actor : ActorRef) (envelope : Envelope) (tried : MailboxRef → Prop)
    (binding : Watch (Option MailboxRef)) (seen : Nat) : SendPhase SendError → Prop
  | head : Carries actor envelope tried binding seen (.head envelope)
  | sending {m : MailboxRef} (hm : tried m) : Carries actor envelope tried binding seen (.sending m envelope)
  | waiting {error : SendError} {wait : WaitFor} (he : actor.Transient error)
      (hw : binding.Missed Option.isSome seen wait) :
      Carries actor envelope tried binding seen (.waiting error envelope wait)
  | gone {error : SendError} (he : actor.Transient error)
      (hw : binding.Missed Option.isSome seen (.done false)) :
      Carries actor envelope tried binding seen (.returned (.error error))

/-- How far a call has come that was given `envelope` and has tried the mailboxes `tried`. -/
inductive Retrying (actor : ActorRef) (envelope : Envelope) (tried : MailboxRef → Prop)
    (s : SendCall SendError) : Prop
  | unsent (hpushed : s.pushed = []) (hfits : ∀ m, tried m → m.exceeded envelope = none)
      (hphase : actor.Carries envelope tried (s.mailboxes.bindings actor.binding) s.seen s.phase)
  | sent {m : MailboxRef} (hm : tried m) (hpushed : s.pushed = [(m.sender, envelope)])
      (hfits : ∀ m, tried m → m.exceeded envelope = none) (hphase : s.phase = .returned (.ok ()))
  | tooLarge {m : MailboxRef} {max : Nat} (hm : tried m) (hmax : m.exceeded envelope = some max)
      (hother : ∀ m', tried m' → m' = m ∨ m'.exceeded envelope = none) (hpushed : s.pushed = [])
      (hphase : s.phase = .returned (.error (.envelopeTooLarge actor.actorId envelope.len max)))

theorem Retrying.congr (h : actor.Retrying envelope tried s) (ht : ∀ m, tried' m ↔ tried m) :
    actor.Retrying envelope tried' s := by
  have : tried' = tried := funext fun m => propext (ht m)
  exact this ▸ h

theorem Carries.environment {w w' : Mailboxes} {b seen : Nat} {phase : SendPhase SendError}
    (h : actor.Carries envelope tried (w.bindings b) seen phase) {a : Mailboxes.Act}
    (hs : w.environment a = some w') : actor.Carries envelope tried (w'.bindings b) seen phase := by
  cases h with
  | head => exact .head
  | sending hm => exact .sending hm
  | waiting he hw => exact .waiting he (Mailboxes.missed_environment hw hs)
  | gone he hw => exact .gone he (Mailboxes.missed_environment hw hs)

theorem Retrying.environment (h : actor.Retrying envelope tried s) {a : Mailboxes.Act}
    {poll : SendCall SendError → Option (SendCall SendError)}
    (hs : SendCall.step poll s (.environment a) = some s') : actor.Retrying envelope tried s' := by
  obtain ⟨w, hw, rfl⟩ := Option.map_eq_some_iff.1 hs
  cases h with
  | unsent hpushed hfits hphase => exact .unsent hpushed hfits (hphase.environment hw)
  | sent hm hpushed hfits hphase => exact .sent hm hpushed hfits hphase
  | tooLarge hm hmax hother hpushed hphase => exact .tooLarge hm hmax hother hpushed hphase

theorem Retrying.head (hpushed : s.pushed = []) (hfits : ∀ m, tried m → m.exceeded envelope = none)
    (hphase : s.phase = .head envelope)
    (ht : ∀ m, tried' m ↔ tried m ∨ (s.mailboxes.bindings actor.binding).value = some m)
    (hs : actor.sendWhenReady s = some s') : actor.Retrying envelope tried' s' := by
  simp only [sendWhenReady, hphase, currentMailbox] at hs
  cases hvalue : (s.mailboxes.bindings actor.binding).value with
  | none =>
    rw [hvalue] at hs
    cases hs
    refine .unsent hpushed (fun m hm => ?_) (.waiting (.inl rfl) trivial)
    exact hfits m (((ht m).1 hm).resolve_right (by simp [hvalue]))
  | some mailbox =>
    have hm : tried' mailbox := (ht mailbox).2 (.inr hvalue)
    have hold (m : MailboxRef) (hm : tried' m) : m = mailbox ∨ m.exceeded envelope = none := by
      rcases (ht m).1 hm with hm | hm
      · exact .inr (hfits m hm)
      · exact .inl (Option.some.inj (hm.symm.trans hvalue))
    rw [hvalue] at hs
    cases hmax : mailbox.exceeded envelope with
    | none =>
      simp only [MailboxRef.validateEnvelope_of_exceeded_none hmax] at hs
      cases hs
      refine .unsent hpushed (fun m hm => ?_) (.sending hm)
      rcases hold m hm with rfl | hfit
      · exact hmax
      · exact hfit
    | some max =>
      simp only [MailboxRef.validateEnvelope_of_exceeded hmax, MailboxError.sendFailure] at hs
      cases hs
      exact .tooLarge hm hmax hold hpushed rfl

theorem Retrying.sending {m : MailboxRef} (hm : tried m) (hpushed : s.pushed = [])
    (hfits : ∀ m, tried m → m.exceeded envelope = none) (hphase : s.phase = .sending m envelope)
    (hs : actor.sendWhenReady s = some s') : actor.Retrying envelope tried s' := by
  simp only [sendWhenReady, hphase, pollSend, Mailbox.send] at hs
  split at hs
  · cases hs
    exact .unsent hpushed hfits (.waiting (.inr rfl) trivial)
  · split at hs
    · cases hs
      exact .sent hm (by simp [hpushed]) hfits rfl
    · cases hs

theorem Retrying.waiting {error : SendError} {wait : WaitFor} (he : actor.Transient error)
    (hw : (s.mailboxes.bindings actor.binding).Missed Option.isSome s.seen wait) (hpushed : s.pushed = [])
    (hfits : ∀ m, tried m → m.exceeded envelope = none) (hphase : s.phase = .waiting error envelope wait)
    (hs : actor.sendWhenReady s = some s') : actor.Retrying envelope tried s' := by
  simp only [sendWhenReady, hphase, waitForNextBinding, Option.map_eq_some_iff] at hs
  obtain ⟨⟨seen, wait'⟩, hwait, rfl⟩ := hs
  have hw' := hw.waitFor hwait
  refine .unsent hpushed hfits ?_
  cases wait' with
  | looking closed | awaiting => exact .waiting he hw'
  | done found =>
    cases found with
    | true => exact .head
    | false => exact .gone he hw'

theorem Retrying.poll (h : actor.Retrying envelope tried s)
    (ht : ∀ m, tried' m ↔ tried m ∨
      (∃ envelope, s.phase = .head envelope) ∧ (s.mailboxes.bindings actor.binding).value = some m)
    (hs : actor.sendWhenReady s = some s') : actor.Retrying envelope tried' s' := by
  have hsame (hnot : ∀ envelope, s.phase ≠ .head envelope) (m : MailboxRef) : tried' m ↔ tried m := by
    rw [ht]
    exact or_iff_left fun ⟨⟨envelope, hp⟩, _⟩ => hnot envelope hp
  cases h with
  | unsent hpushed hfits hphase =>
    generalize hp : s.phase = phase at hphase
    cases hphase with
    | head => exact .head hpushed hfits hp (fun m => by simp [ht, hp]) hs
    | sending hm =>
      exact (Retrying.sending hm hpushed hfits hp hs).congr (hsame (by simp [hp]))
    | waiting he hw =>
      exact (Retrying.waiting he hw hpushed hfits hp hs).congr (hsame (by simp [hp]))
    | gone he hw => simp [sendWhenReady, hp] at hs
  | sent hm hpushed hfits hphase => simp [sendWhenReady, hphase] at hs
  | tooLarge hm hmax hother hpushed hphase => simp [sendWhenReady, hphase] at hs

theorem run_retrying {mailboxes : Mailboxes} {seen : Nat} {as : List SendCall.Act}
    (hrun : AnyRun (step actor.sendWhenReady) (start mailboxes seen envelope) as s) :
    actor.Retrying envelope (Tried actor.sendWhenReady actor.binding (start mailboxes seen envelope) as) s := by
  induction hrun with
  | nil => exact .unsent rfl (fun m hm => absurd hm not_stepped_nil) .head
  | @snoc as a s s' run _ hstep ih =>
    cases a with
    | environment a => exact (ih.congr fun m => tried_environment run).environment hstep
    | poll => exact ih.poll (fun m => tried_poll run) hstep

/-- What a call of `send_when_ready` has done: `Ok` goes with the one push into a mailbox that was bound
when it was read, an error with no push; `EnvelopeTooLarge` comes from a mailbox that was tried, any other
error when the source of the binding is gone and nothing is bound. -/
structure DeliversOnce (actor : ActorRef) (envelope : Envelope) (tried : MailboxRef → Prop)
    (s : SendCall SendError) : Prop where
  ok : s.phase = .returned (.ok ()) ↔ ∃ m, tried m ∧ s.pushed = [(m.sender, envelope)]
  error : ∀ error, s.phase = .returned (.error error) → s.pushed = []
  tooLarge : ∀ actorId len max,
    s.phase = .returned (.error (.envelopeTooLarge actorId len max)) ↔
      actorId = actor.actorId ∧ len = envelope.len ∧ ∃ m, tried m ∧ m.exceeded envelope = some max
  gone : ∀ error, s.phase = .returned (.error error) →
    (∃ max, error = .envelopeTooLarge actor.actorId envelope.len max) ∨
      actor.Transient error ∧ (s.mailboxes.bindings actor.binding).closed = true ∧
        (s.mailboxes.bindings actor.binding).value = none
  pushes : s.pushed = [] ∨ s.phase = .returned (.ok ())
  noPanic : s.phase ≠ .panicked

theorem Carries.not_ok {binding : Watch (Option MailboxRef)} {seen : Nat} {phase : SendPhase SendError}
    (h : actor.Carries envelope tried binding seen phase) : phase ≠ .returned (.ok ()) ∧ phase ≠ .panicked := by
  cases h <;> simp

theorem Carries.error {binding : Watch (Option MailboxRef)} {seen : Nat} {error : SendError}
    (h : actor.Carries envelope tried binding seen (.returned (.error error))) :
    actor.Transient error ∧ binding.closed = true ∧ binding.value = none := by
  cases h with
  | gone he hw => exact ⟨he, hw.1, by simpa using hw.2⟩

theorem Transient.ne_tooLarge {error : SendError} (h : actor.Transient error) (actorId : String)
    (len max : Nat) : error ≠ .envelopeTooLarge actorId len max := by
  rcases h with rfl | rfl <;> simp

theorem Retrying.deliversOnce (h : actor.Retrying envelope tried s) :
    actor.DeliversOnce envelope tried s := by
  cases h with
  | unsent hpushed hfits hphase =>
    refine ⟨⟨fun hp => absurd hp hphase.not_ok.1, ?_⟩, fun _ _ => hpushed, fun actorId len max => ⟨?_, ?_⟩,
      fun error hp => .inr (Carries.error (hp ▸ hphase)), .inl hpushed, hphase.not_ok.2⟩
    · rintro ⟨m, -, hm⟩
      rw [hpushed] at hm
      cases hm
    · intro hp
      exact absurd rfl ((Carries.error (hp ▸ hphase)).1.ne_tooLarge actorId len max)
    · rintro ⟨-, -, m, hm, hmax⟩
      rw [hfits m hm] at hmax
      cases hmax
  | sent hm hpushed hfits hphase =>
    refine ⟨⟨fun _ => ⟨_, hm, hpushed⟩, fun _ => hphase⟩, fun error hp => ?_,
      fun actorId len max => ⟨?_, ?_⟩, fun error hp => ?_, .inr hphase, by simp [hphase]⟩
    · rw [hphase] at hp
      cases hp
    · intro hp
      rw [hphase] at hp
      cases hp
    · rintro ⟨-, -, m, hm, hmax⟩
      rw [hfits m hm] at hmax
      cases hmax
    · rw [hphase] at hp
      cases hp
  | @tooLarge m max hm hmax hother hpushed hphase =>
    refine ⟨⟨fun hp => ?_, ?_⟩, fun _ _ => hpushed, fun actorId len max' => ⟨?_, ?_⟩,
      fun error hp => .inl ⟨max, ?_⟩, .inl hpushed, by simp [hphase]⟩
    · rw [hphase] at hp
      cases hp
    · rintro ⟨m', -, hm'⟩
      rw [hpushed] at hm'
      cases hm'
    · intro hp
      rw [hphase] at hp
      cases hp
      exact ⟨rfl, rfl, m, hm, hmax⟩
    · rintro ⟨rfl, rfl, m', hm', hmax'⟩
      rcases hother m' hm' with rfl | hfit
      · rw [hphase, Option.some.inj (hmax.symm.trans hmax')]
      · rw [hfit] at hmax'
        cases hmax'
    · rw [hphase] at hp
      cases hp
      rfl

end ActorRef

/-! ### The two handles -/

/-- The errors of the two handles that correspond. -/
inductive MirrorsError (actor : ActorRef) (ingress : IngressHandle) : SendError → IngressError → Prop
  | notRunning : MirrorsError actor ingress (.actorNotRunning actor.actorId)
      (.notRunning ingress.name ingress.actorId)
  | tooLarge (len max : Nat) : MirrorsError actor ingress (.envelopeTooLarge actor.actorId len max)
      (.envelopeTooLarge ingress.name ingress.actorId len max)
  | closed : MirrorsError actor ingress (.mailboxClosed actor.actorId)
      (.mailboxClosed ingress.name ingress.actorId)

inductive MirrorsPhase (actor : ActorRef) (ingress : IngressHandle) :
    SendPhase SendError → SendPhase IngressError → Prop
  | head (envelope : Envelope) : MirrorsPhase actor ingress (.head envelope) (.head envelope)
  | sending (m : MailboxRef) (envelope : Envelope) :
      MirrorsPhase actor ingress (.sending m envelope) (.sending m envelope)
  | waiting {error : SendError} {error' : IngressError} (he : MirrorsError actor ingress error error')
      (envelope : Envelope) (wait : WaitFor) :
      MirrorsPhase actor ingress (.waiting error envelope wait) (.waiting error' envelope wait)
  | ok : MirrorsPhase actor ingress (.returned (.ok ())) (.returned (.ok ()))
  | error {error : SendError} {error' : IngressError} (he : MirrorsError actor ingress error error') :
      MirrorsPhase actor ingress (.returned (.error error)) (.returned (.error error'))
  | panicked : MirrorsPhase actor ingress .panicked .panicked

/-- Two calls over the same mailboxes that have pushed the same and stand at the same place. -/
structure Mirrors (actor : ActorRef) (ingress : IngressHandle) (s : SendCall SendError)
    (t : SendCall IngressError) : Prop where
  mailboxes : t.mailboxes = s.mailboxes
  seen : t.seen = s.seen
  pushed : t.pushed = s.pushed
  phase : MirrorsPhase actor ingress s.phase t.phase

section
open SendCall
variable {actor : ActorRef} {ingress : IngressHandle} {s : SendCall SendError} {t : SendCall IngressError}

theorem mirrors_afterSend (result : Except MailboxSendFailure Unit) :
    MirrorsPhase actor ingress (actor.afterSend result) (ingress.afterSend result) := by
  cases result with
  | ok => exact .ok
  | error failure =>
    cases failure with
    | envelopeTooLarge len max => exact .error (.tooLarge len max)
    | mailboxClosed returned => exact .waiting .closed returned (.looking false)

theorem Mirrors.poll (hb : ingress.binding = actor.binding) (h : Mirrors actor ingress s t) :
    Option.Rel (Mirrors actor ingress) (actor.sendWhenReady s) (ingress.sendWhenReady t) := by
  obtain ⟨w, seen, phase, pushed⟩ := s
  obtain ⟨w', seen', phase', pushed'⟩ := t
  obtain ⟨rfl, rfl, rfl, hphase⟩ := h
  cases hphase with
  | head envelope =>
    simp only [ActorRef.sendWhenReady, IngressHandle.sendWhenReady, ActorRef.currentMailbox,
      IngressHandle.currentMailbox, hb]
    cases (w'.bindings actor.binding).value with
    | none => exact .some ⟨rfl, rfl, rfl, .waiting .notRunning envelope (.looking false)⟩
    | some m =>
      dsimp only
      cases m.validateEnvelope envelope with
      | ok => exact .some ⟨rfl, rfl, rfl, .sending m envelope⟩
      | error error =>
        dsimp only
        cases error.sendFailure with
        | none => exact .some ⟨rfl, rfl, rfl, .panicked⟩
        | some failure => exact .some ⟨rfl, rfl, rfl, mirrors_afterSend (.error failure)⟩
  | sending m envelope =>
    simp only [ActorRef.sendWhenReady, IngressHandle.sendWhenReady, pollSend]
    cases (w'.boxes m.sender).send envelope with
    | none => exact .none
    | some result =>
      cases result with
      | ok b => exact .some ⟨rfl, rfl, rfl, mirrors_afterSend (.ok ())⟩
      | error returned => exact .some ⟨rfl, rfl, rfl, mirrors_afterSend (.error (.mailboxClosed returned))⟩
  | waiting he envelope wait =>
    simp only [ActorRef.sendWhenReady, IngressHandle.sendWhenReady, ActorRef.waitForNextBinding,
      IngressHandle.waitForNextBinding, hb]
    cases (w'.bindings actor.binding).waitFor Option.isSome seen' wait with
    | none => exact .none
    | some next =>
      obtain ⟨seen, wait⟩ := next
      refine .some ⟨rfl, rfl, rfl, ?_⟩
      cases wait with
      | looking closed | awaiting => exact .waiting he envelope _
      | done found =>
        cases found with
        | true => exact .head envelope
        | false => exact .error he
  | ok | error he | panicked => exact .none

theorem Mirrors.step (hb : ingress.binding = actor.binding) (h : Mirrors actor ingress s t)
    (a : SendCall.Act) :
    Option.Rel (Mirrors actor ingress) (SendCall.step actor.sendWhenReady s a)
      (SendCall.step ingress.sendWhenReady t a) := by
  cases a with
  | poll => exact h.poll hb
  | environment a =>
    simp only [SendCall.step, h.mailboxes]
    cases s.mailboxes.environment a with
    | none => exact .none
    | some w => exact .some ⟨rfl, h.seen, h.pushed, h.phase⟩

end

/-- Over any mailboxes and whatever happens to them, a call of `ActorRef::send_when_ready` delivers its
envelope once, and the call of `IngressHandle::send_when_ready` over the same binding goes along with it. -/
theorem sendWhenReady_deliversOnce (actor : ActorRef) (ingress target : String) (mailboxes : Mailboxes)
    (seen : Nat) (envelope : Envelope) (as : List SendCall.Act) :
    (∀ s, AnyRun (SendCall.step actor.sendWhenReady) (.start mailboxes seen envelope) as s →
      actor.DeliversOnce envelope
        (SendCall.Tried actor.sendWhenReady actor.binding (.start mailboxes seen envelope) as) s) ∧
    Option.Rel (Mirrors actor ⟨ingress, target, actor.binding⟩)
      (exec (SendCall.step actor.sendWhenReady) (.start mailboxes seen envelope) as)
      (exec (SendCall.step (IngressHandle.sendWhenReady ⟨ingress, target, actor.binding⟩))
        (.start mailboxes seen envelope) as) := by
  constructor
  · intro s hrun
    exact (ActorRef.run_retrying hrun).deliversOnce
  · exact exec_rel (fun s t a h => h.step rfl a) ⟨rfl, rfl, rfl, .head envelope⟩ as

/-- The mailbox bound first is closed; the envelope goes into the one that is bound after it. -/
theorem sendWhenReady_deliversOnce_rebound :
    let actor : ActorRef := ⟨"a", 0⟩
    let mailboxes : Mailboxes := ⟨fun _ => ⟨some ⟨"a", 0, some 8⟩, 1, false⟩, fun k => ⟨4, [], k == 0⟩⟩
    let as : List SendCall.Act := [.poll, .poll, .environment (.clear 0), .poll,
      .environment (.bind 0 ⟨"a", 1, some 8⟩), .poll, .poll, .poll, .poll]
    ∃ s, actor.DeliversOnce ⟨[1, 2]⟩
        (SendCall.Tried actor.sendWhenReady 0 (.start mailboxes 1 ⟨[1, 2]⟩) as) s ∧
      (s.phase, s.pushed) = (.returned (.ok ()), [(1, ⟨[1, 2]⟩)]) := by
  intro actor mailboxes as
  have hex : ∃ s, AnyRun (SendCall.step actor.sendWhenReady) (.start mailboxes 1 ⟨[1, 2]⟩) as s ∧
      (s.phase, s.pushed) = (.returned (.ok ()), [(1, ⟨[1, 2]⟩)]) := anyRun_of_exec (by decide +kernel)
  obtain ⟨s, hrun, hs⟩ := hex
  exact ⟨s, (sendWhenReady_deliversOnce actor "i" "a" mailboxes 1 ⟨[1, 2]⟩ as).1 s hrun, hs⟩

end TokioSupervisor
