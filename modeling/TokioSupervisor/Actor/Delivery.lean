import TokioSupervisor.Actor.Messaging

/-!
# What is sent arrives once and in order

`Effect` says once what a step of `Messaging` can do; the invariants are derived from it. `Standing` is where
a call stands together with what it has pushed: its message is in one mailbox, once, exactly when the method
returns `Ok` for a push, and that mailbox was bound when the call read the binding. Of what a mailbox has
taken its actor has received the oldest part, and the rest is queued until the actor goes (`Stocked`).
-/

namespace TokioSupervisor
open Lib

/-! ### Calls -/

namespace SendingCall
variable {c : SendingCall} {w : Mailboxes} {m : MailboxRef} {envelope : Envelope}

/-- The call is on its way with `envelope`. -/
inductive Carries (c : SendingCall) (envelope : Envelope) : Prop
  | head (hp : c.phase = .running (.head envelope))
  | sending {m : MailboxRef} (hp : c.phase = .running (.sending m envelope))
  | waiting {error : HandleError} {wait : WaitFor} (hp : c.phase = .running (.waiting error envelope wait))

theorem Carries.not_ended (h : c.Carries envelope) : c.ended = false := by
  cases h with
  | head hp | sending hp | waiting hp => simp [ended, hp]

/-- A validation never finds the mailbox full or closed, so nothing panics. -/
theorem refused_eq (c : SendingCall) (m : MailboxRef) (envelope : Envelope) (max : Nat) :
    ∃ error, c.refused m (.envelopeTooLarge m.actorId envelope.len max) = .returned (.error error) := by
  obtain ⟨handle, operation, owner, given, seen, phase⟩ := c
  cases operation with
  | send | trySend | blockingSend => exact ⟨_, rfl⟩
  | sendWhenReady =>
    cases handle with
    | actor a | ingress h => exact ⟨_, rfl⟩

theorem currentMailbox_ok {h : SendHandle} (hm : h.currentMailbox w = .ok m) :
    (w.bindings h.binding).value = some m := by
  cases h with
  | actor a =>
    simp only [SendHandle.currentMailbox, ActorRef.currentMailbox] at hm
    split at hm
    · cases hm
      assumption
    · cases hm
  | ingress h =>
    simp only [SendHandle.currentMailbox, IngressHandle.currentMailbox] at hm
    split at hm
    · cases hm
      assumption
    · cases hm

theorem head_cases (c : SendingCall) (w : Mailboxes) (envelope : Envelope) :
    (∃ m, (w.bindings c.handle.binding).value = some m ∧ m.exceeded envelope = none ∧
      c.head w envelope = .sending m envelope) ∨
    (∃ error, c.head w envelope = .returned (.error error)) ∨
    ∃ error, c.head w envelope = .waiting error envelope (.looking false) := by
  unfold head
  cases hm : c.handle.currentMailbox w with
  | ok m =>
    cases hmax : m.exceeded envelope with
    | none =>
      refine .inl ⟨m, currentMailbox_ok hm, hmax, ?_⟩
      simp only [MailboxRef.validateEnvelope_of_exceeded_none hmax]
    | some max =>
      obtain ⟨error, he⟩ := c.refused_eq m envelope max
      refine .inr (.inl ⟨error, ?_⟩)
      simp only [MailboxRef.validateEnvelope_of_exceeded hmax, he]
  | error error =>
    dsimp only
    split
    · exact .inr (.inr ⟨error, rfl⟩)
    · exact .inr (.inl ⟨error, rfl⟩)

theorem answered_ok : c.answered m (.ok ()) = .returned (.ok ()) := by
  obtain ⟨handle, operation, owner, given, seen, phase⟩ := c
  cases operation with
  | send | trySend | blockingSend => rfl
  | sendWhenReady =>
    cases handle with
    | actor a | ingress h => rfl

theorem answered_closed (c : SendingCall) (m : MailboxRef) (envelope : Envelope) :
    (∃ error, c.answered m (.error (.mailboxClosed envelope)) = .returned (.error error)) ∨
    ∃ error, c.answered m (.error (.mailboxClosed envelope)) = .waiting error envelope (.looking false) := by
  obtain ⟨handle, operation, owner, given, seen, phase⟩ := c
  cases operation with
  | send | trySend | blockingSend => exact .inl ⟨_, rfl⟩
  | sendWhenReady =>
    cases handle with
    | actor a | ingress h => exact .inr ⟨_, rfl⟩

end SendingCall

namespace Messaging
open SendingCall
variable {s s' : Messaging} {a : Act} {i k : Nat} {c : SendingCall}

/-! ### Steps -/

/-- Where a call that has not pushed goes on to. -/
inductive GoesOn (s : Messaging) (c : SendingCall) (envelope : Envelope) : SendPhase HandleError → Prop
  | bound {m : MailboxRef} (hp : c.phase = .running (.head envelope))
      (hm : (s.bindings c.handle.binding).value = some m) (hfit : m.exceeded envelope = none) :
      GoesOn s c envelope (.sending m envelope)
  | fails {error : HandleError} : GoesOn s c envelope (.returned (.error error))
  | retries {error : HandleError} {wait : WaitFor} : GoesOn s c envelope (.waiting error envelope wait)
  | restarts : GoesOn s c envelope (.head envelope)

/-- The channel takes the message of call `i`. -/
inductive Takes (box : Mpsc Message) (i : Nat) (c : SendingCall) (message : Message) : Mpsc Message → Prop
  | waited (ha : c.operation.awaits = true) {box' : Mpsc Message}
      (hs : box.pollSend i message = (box', some (.ok ()))) : Takes box i c message box'
  | tried (ha : c.operation.awaits = false) {box' : Mpsc Message} (hs : box.trySend message = .ok box') :
      Takes box i c message box'

/-- What a step can do. -/
inductive Effect (s : Messaging) : Act → Messaging → Prop
  | called {r : Request} {seen : Nat} {envelope : Envelope} {c : SendingCall} (hg : c.given = envelope)
      (hp : c.phase = .running (.head envelope)) :
      Effect s (.request r seen envelope) { s with calls := s.calls ++ [c] }
  | unknown {r : Request} {seen : Nat} {envelope : Envelope} : Effect s (.request r seen envelope) s
  | goesOn {i : Nat} (seen : Nat) {c : SendingCall} {envelope : Envelope} {phase : SendPhase HandleError}
      (hc : s.calls[i]? = some c) (hcar : c.Carries envelope) (hgo : GoesOn s c envelope phase)
      (hout : ∀ k, c.channel = some k → (s.boxes k).closed = true ∨ c.operation.awaits = false) :
      Effect s (.poll i) (s.setCall i { c with seen, phase := .running phase })
  | lines {i : Nat} {c : SendingCall} {m : MailboxRef} {envelope : Envelope} (hc : s.calls[i]? = some c)
      (hp : c.phase = .running (.sending m envelope)) (ha : c.operation.awaits = true) {box : Mpsc Message}
      (hs : (s.boxes m.sender).pollSend i ⟨i, envelope⟩ = (box, none)) :
      Effect s (.poll i) (s.setBox m.sender box)
  | pushes {i : Nat} {c : SendingCall} {m : MailboxRef} {envelope : Envelope} (hc : s.calls[i]? = some c)
      (hp : c.phase = .running (.sending m envelope)) {box : Mpsc Message}
      (hs : Takes (s.boxes m.sender) i c ⟨i, envelope⟩ box) :
      Effect s (.poll i)
        ((s.push i m.sender box envelope).setCall i { c with phase := .running (.returned (.ok ())) })
  | abandons {i k : Nat} {c : SendingCall} {r : RunningContext} (hc : s.calls[i]? = some c)
      (ho : c.owner = some k) (hr : s.contexts k = some r) (hs : r.shutdown = true)
      (hne : c.ended = false) : Effect s (.abandon i) (s.leave i c .abandoned)
  | drops {i : Nat} {c : SendingCall} (hc : s.calls[i]? = some c) (hne : c.ended = false) :
      Effect s (.drop i) (s.leave i c .dropped)
  | receives {k : Nat} {r : RunningContext} {message : Message} {box : Mpsc Message}
      (hr : s.active k = some r) (hopen : r.shutdown = false) (hs : (s.boxes k).recv = some (message, box)) :
      Effect s (.recv k) { s.setBox k box with received := s.received ++ [(k, message)] }
  | hearsNone {k : Nat} : Effect s (.recv k) s
  | exits {k : Nat} {r : RunningContext} (hr : s.active k = some r) :
      Effect s (.exit k) ((s.setBox k (s.boxes k).dropReceiver).setContext k { r with exited := true })
  | enters {ctx : ActorContext} {hasRegistry : Bool} (hnew : s.contexts ctx.mailbox = none) :
      Effect s (.enter ctx hasRegistry) (s.setContext ctx.mailbox ⟨ctx, hasRegistry, false, false⟩)
  | shutsDown {k : Nat} {r : RunningContext} (hr : s.contexts k = some r) :
      Effect s (.shutdown k) (s.setContext k { r with shutdown := true })
  | binds {b : Nat} {m : MailboxRef} {binding : Watch (Option MailboxRef)}
      (hs : (s.bindings b).send (some m) = some binding) : Effect s (.bind b m) (s.setBinding b binding)
  | clears {b : Nat} {binding : Watch (Option MailboxRef)} (hs : (s.bindings b).send none = some binding) :
      Effect s (.clear b) (s.setBinding b binding)
  | closes {b : Nat} : Effect s (.dropSource b) (s.setBinding b (s.bindings b).close)
  | registers {a : Act} {registry : ActorEntries} : Effect s a { s with registry }

theorem call_start {seen : Nat} {envelope : Envelope} {r : Request}
    (h : s.call seen envelope r = some (.ok c)) :
    c.given = envelope ∧ c.phase = .running (.head envelope) := by
  have hpeer {ctx : ActorContext} {id : String} {found : Option ActorRef} {f : ActorRef → SendingCall}
      (hf : ∀ peer, (f peer).given = envelope ∧ (f peer).phase = .running (.head envelope))
      (hc : ctx.callPeer id found f = .ok c) : c.given = envelope ∧ c.phase = .running (.head envelope) := by
    cases found with
    | none => cases hc
    | some peer =>
      cases hc
      exact hf peer
  cases r with
  | contextSend | contextSendWhenReady | contextTrySend | contextSendDynamic | contextSendDynamicWhenReady =>
    obtain ⟨r, -, hc⟩ := Option.map_eq_some_iff.1 h
    exact hpeer (fun peer => ⟨rfl, rfl⟩) hc
  | _ =>
    cases h
    exact ⟨rfl, rfl⟩

theorem pollChannel_effect {m : MailboxRef} {envelope : Envelope} (hc : s.calls[i]? = some c)
    (hp : c.phase = .running (.sending m envelope)) :
    Effect s (.poll i) (s.pollChannel i c m envelope) := by
  have hchannel : c.channel = some m.sender := by rw [channel, hp]
  unfold pollChannel
  split
  · rename_i ha
    split
    · exact .lines hc hp ha ‹_›
    · rw [answered_ok]
      exact .pushes hc hp (.waited ha ‹_›)
    · rename_i box returned hs
      have hcases := (s.boxes m.sender).pollSend_cases i ⟨i, envelope⟩
      rw [hs] at hcases
      cases hcases with
      | closed hclosed =>
        have hout (k : Nat) (hk : c.channel = some k) :
            (s.boxes k).closed = true ∨ c.operation.awaits = false := by
          cases hchannel.symm.trans hk
          exact .inl hclosed
        rcases c.answered_closed m envelope with ⟨error, he⟩ | ⟨error, he⟩
        · rw [he]
          exact .goesOn c.seen hc (.sending hp) .fails hout
        · rw [he]
          exact .goesOn c.seen hc (.sending hp) .retries hout
  · rename_i ha
    have ha : c.operation.awaits = false := by simpa using ha
    split
    · exact .pushes hc hp (.tried ha ‹_›)
    · exact .goesOn c.seen hc (.sending hp) .fails fun k _ => .inr ha

theorem poll_effect (hc : s.calls[i]? = some c) (h : s.poll i c = some s') : Effect s (.poll i) s' := by
  unfold poll at h
  cases hp : c.phase with
  | running phase =>
    rw [hp] at h
    have hnone (hnot : ∀ m envelope, phase ≠ .sending m envelope) (k : Nat) (hk : c.channel = some k) :
        (s.boxes k).closed = true ∨ c.operation.awaits = false := by
      rw [channel, hp] at hk
      cases phase with
      | sending m envelope => exact absurd rfl (hnot m envelope)
      | _ => cases hk
    cases phase with
    | head envelope =>
      cases h
      have hout := hnone fun m envelope => by simp
      rcases c.head_cases s.view envelope with ⟨m, hm, hfit, he⟩ | ⟨error, he⟩ | ⟨error, he⟩
      · rw [he]
        exact .goesOn c.seen hc (.head hp) (.bound hp hm hfit) hout
      · rw [he]
        exact .goesOn c.seen hc (.head hp) .fails hout
      · rw [he]
        exact .goesOn c.seen hc (.head hp) .retries hout
    | sending m envelope =>
      cases h
      exact pollChannel_effect hc hp
    | waiting error envelope wait =>
      obtain ⟨⟨seen, wait'⟩, -, rfl⟩ := Option.map_eq_some_iff.1 h
      refine .goesOn _ hc (.waiting hp) ?_ (hnone fun m envelope => by simp)
      cases wait' with
      | looking closed | awaiting => exact .retries
      | done found =>
        cases found with
        | true => exact .restarts
        | false => exact .fails
    | returned result | panicked => cases h
  | abandoned | dropped =>
    rw [hp] at h
    cases h

theorem step_effect (h : step s a = some s') : Effect s a s' := by
  cases a with
  | request r seen envelope =>
    obtain ⟨result, hr, rfl⟩ := Option.map_eq_some_iff.1 h
    cases result with
    | ok c =>
      obtain ⟨hg, hp⟩ := call_start hr
      exact .called hg hp
    | error e => exact .unknown
  | poll i =>
    obtain ⟨c, hc, hs⟩ := Option.bind_eq_some_iff.1 h
    exact poll_effect hc hs
  | abandon i =>
    obtain ⟨c, hc, hs⟩ := Option.bind_eq_some_iff.1 h
    unfold abandon at hs
    obtain ⟨k, ho, hs⟩ := Option.bind_eq_some_iff.1 hs
    obtain ⟨r, hr, hs⟩ := Option.bind_eq_some_iff.1 hs
    split at hs
    · rename_i hcond
      cases hs
      simp only [Bool.and_eq_true, Bool.not_eq_true'] at hcond
      exact .abandons hc ho hr hcond.1 hcond.2
    · cases hs
  | drop i =>
    obtain ⟨c, hc, hs⟩ := Option.bind_eq_some_iff.1 h
    unfold dropCall at hs
    split at hs
    · rename_i hcond
      cases hs
      simp only [Bool.and_eq_true, Bool.not_eq_true'] at hcond
      exact .drops hc hcond.2
    · cases hs
  | enter ctx hasRegistry =>
    simp only [step] at h
    split at h
    · cases h
    · rename_i hno
      cases h
      exact .enters (by simpa using hno)
  | recv k =>
    obtain ⟨⟨s₁, answer⟩, hr, rfl⟩ := Option.map_eq_some_iff.1 h
    obtain ⟨r, hactive, hs⟩ := Option.bind_eq_some_iff.1 hr
    unfold recv at hs
    split at hs
    · cases hs
      exact .hearsNone
    · rename_i hopen
      obtain ⟨⟨message, box⟩, hbox, hs⟩ := Option.map_eq_some_iff.1 hs
      cases hs
      exact .receives hactive (by simpa using hopen) hbox
  | shutdown k =>
    obtain ⟨r, hr, rfl⟩ := Option.map_eq_some_iff.1 h
    exact .shutsDown hr
  | exit k =>
    obtain ⟨r, hr, rfl⟩ := Option.map_eq_some_iff.1 h
    exact .exits hr
  | bind b mailbox =>
    obtain ⟨binding, hb, rfl⟩ := Option.map_eq_some_iff.1 h
    exact .binds hb
  | clear b =>
    obtain ⟨binding, hb, rfl⟩ := Option.map_eq_some_iff.1 h
    exact .clears hb
  | dropSource b =>
    cases h
    exact .closes
  | register actorId b =>
    simp only [step] at h
    split at h
    · cases h
    · cases h
      exact .registers
  | deregister actorId =>
    simp only [step] at h
    split at h
    · cases h
      exact .registers
    · cases h

/-! ### Lines -/

theorem setBox_boxes {box : Mpsc Message} {j : Nat} :
    (s.setBox k box).boxes j = if j = k then box else s.boxes j := by
  simp [setBox, Function.update_apply]

theorem setCall_calls {c' : SendingCall} (hc : s.calls[i]? = some c) {j : Nat} :
    (s.setCall i c').calls[j]? = if j = i then some c' else s.calls[j]? := by
  obtain ⟨hlt, -⟩ := List.getElem?_eq_some_iff.1 hc
  by_cases hj : j = i
  · subst hj
    simp [setCall, hlt]
  · simp [setCall, hj, Ne.symm hj]

/-- Who is in the line of a channel is a call that awaits it. -/
structure Seated (s : Messaging) : Prop where
  sound : ∀ k, (s.boxes k).Sound
  line : ∀ k i, (s.boxes k).Lined i →
    ∃ c, s.calls[i]? = some c ∧ c.channel = some k ∧ c.operation.awaits = true

theorem Seated.congr (h : s.Seated) (hbox : ∀ k, (s'.boxes k).Sound)
    (hline : ∀ k i, (s'.boxes k).Lined i → (s.boxes k).Lined i)
    (hcalls : ∀ (i : Nat) (c : SendingCall), s.calls[i]? = some c → s'.calls[i]? = some c) :
    s'.Seated := by
  refine ⟨hbox, fun k i hi => ?_⟩
  obtain ⟨c, hc, hrest⟩ := h.line k i (hline k i hi)
  exact ⟨c, hcalls i c hc, hrest⟩

theorem Seated.goesOn (h : s.Seated) (hc : s.calls[i]? = some c) {c' : SendingCall}
    (hsound : ∀ k, (s'.boxes k).Sound)
    (hline : ∀ k j, (s'.boxes k).Lined j → (s.boxes k).Lined j ∧ j ≠ i) (hcalls : s'.calls = s.calls) :
    (s'.setCall i c').Seated := by
  refine ⟨hsound, fun k j hj => ?_⟩
  obtain ⟨hj, hne⟩ := hline k j hj
  obtain ⟨d, hd, hrest⟩ := h.line k j hj
  refine ⟨d, ?_, hrest⟩
  rw [setCall_calls (hcalls ▸ hc), if_neg hne, hcalls, hd]

theorem Seated.not_elsewhere (h : s.Seated) (hc : s.calls[i]? = some c) (hk : c.channel ≠ some k) :
    ¬ (s.boxes k).Lined i := by
  intro hi
  obtain ⟨d, hd, hchannel, -⟩ := h.line k i hi
  cases hc.symm.trans hd
  exact hk hchannel

theorem Seated.set_sound (h : s.Seated) {box : Mpsc Message} (hbox : box.Sound) (j : Nat) :
    ((s.setBox k box).boxes j).Sound := by
  rw [setBox_boxes]
  split
  · exact hbox
  · exact h.sound j

theorem Seated.leave (h : s.Seated) (hc : s.calls[i]? = some c) (phase : CallPhase) :
    (s.leave i c phase).Seated := by
  unfold Messaging.leave
  cases hchannel : c.channel with
  | none =>
    refine h.goesOn hc h.sound (fun k j hj => ⟨hj, ?_⟩) rfl
    rintro rfl
    exact h.not_elsewhere hc (by simp [hchannel]) hj
  | some k =>
    refine h.goesOn hc (h.set_sound ((h.sound k).cancel i)) (fun l j hj => ?_) rfl
    rw [setBox_boxes] at hj
    split at hj
    · rename_i hl
      rw [hl]
      exact (h.sound k).cancel_lined.1 hj
    · rename_i hl
      refine ⟨hj, ?_⟩
      rintro rfl
      refine h.not_elsewhere hc ?_ hj
      rw [hchannel]
      exact fun he => hl (Option.some.inj he).symm

theorem Seated.pushes (h : s.Seated) (hc : s.calls[i]? = some c) {m : MailboxRef} {envelope : Envelope}
    (hp : c.phase = .running (.sending m envelope)) {box : Mpsc Message} {message : Message}
    (hs : Takes (s.boxes m.sender) i c message box) {c' : SendingCall} :
    ((s.push i m.sender box envelope).setCall i c').Seated := by
  have hsound := h.sound m.sender
  have hchannel : c.channel = some m.sender := by rw [channel, hp]
  have hbox : box.Sound ∧ ∀ j, box.Lined j → (s.boxes m.sender).Lined j ∧ j ≠ i := by
    cases hs with
    | waited ha hs =>
      have hs' := hsound.pollSend i message
      have hl (j : Nat) := hsound.pollSend_lined (i := i) (v := message) (j := j)
      rw [hs] at hs' hl
      refine ⟨hs', fun j hj => ?_⟩
      simpa using (hl j).1 hj
    | tried ha hs =>
      refine ⟨hsound.trySend hs, fun j hj => ?_⟩
      obtain ⟨-, -, rfl⟩ := Mpsc.trySend_ok hs
      refine ⟨hj, ?_⟩
      rintro rfl
      obtain ⟨d, hd, -, ha'⟩ := h.line m.sender j hj
      cases hc.symm.trans hd
      rw [ha] at ha'
      cases ha'
  refine h.goesOn hc (h.set_sound hbox.1) (fun k j hj => ?_) rfl
  change ((s.setBox m.sender box).boxes k).Lined j at hj
  rw [setBox_boxes] at hj
  split at hj
  · rename_i hk
    rw [hk]
    exact hbox.2 j hj
  · rename_i hk
    refine ⟨hj, ?_⟩
    rintro rfl
    refine h.not_elsewhere hc ?_ hj
    rw [hchannel]
    exact fun he => hk (Option.some.inj he).symm

theorem Seated.effect (h : s.Seated) (he : Effect s a s') : s'.Seated := by
  cases he with
  | called hg hp =>
    refine h.congr h.sound (fun _ _ hi => hi) fun i c hc => ?_
    obtain ⟨hlt, -⟩ := List.getElem?_eq_some_iff.1 hc
    rw [List.getElem?_append_left hlt, hc]
  | unknown | hearsNone => exact h
  | @goesOn i _ c _ _ hc hcar hgo hout =>
    refine h.goesOn hc h.sound (fun k j hj => ⟨hj, ?_⟩) rfl
    rintro rfl
    obtain ⟨d, hd, hchannel, ha⟩ := h.line k j hj
    cases hc.symm.trans hd
    rcases hout k hchannel with hclosed | ha'
    · exact (h.sound k).not_lined hclosed hj
    · rw [ha] at ha'
      cases ha'
  | @lines i c m envelope hc hp ha box hs =>
    have hsound := h.sound m.sender
    have hs' := hsound.pollSend i ⟨i, envelope⟩
    have hl (j : Nat) := hsound.pollSend_lined (i := i) (v := ⟨i, envelope⟩) (j := j)
    rw [hs] at hs' hl
    refine ⟨h.set_sound hs', fun k j hj => ?_⟩
    rw [setBox_boxes] at hj
    split at hj
    · rename_i hk
      rw [hk]
      rcases (hl j).1 hj with ⟨hj, -⟩ | ⟨rfl, -⟩
      · exact h.line m.sender j hj
      · exact ⟨c, hc, by rw [channel, hp], ha⟩
    · exact h.line k j hj
  | pushes hc hp hs => exact h.pushes hc hp hs
  | abandons hc ho hr hs hne => exact h.leave hc _
  | drops hc hne => exact h.leave hc _
  | @receives k r message box hr hopen hs =>
    refine h.congr (h.set_sound ((h.sound k).recv hs)) (fun l j hj => ?_) fun _ _ hc => hc
    change ((s.setBox k box).boxes l).Lined j at hj
    rw [setBox_boxes] at hj
    split at hj
    · rename_i hl
      rw [hl]
      exact (Mpsc.recv_lined hs).1 hj
    · exact hj
  | @exits k r hr =>
    refine h.congr (h.set_sound Mpsc.sound_dropReceiver) (fun l j hj => ?_) fun _ _ hc => hc
    change ((s.setBox k (s.boxes k).dropReceiver).boxes l).Lined j at hj
    rw [setBox_boxes] at hj
    split at hj
    · exact absurd hj (Mpsc.sound_dropReceiver.not_lined rfl)
    · exact hj
  | enters | shutsDown | binds | clears | closes | registers => exact h.congr h.sound (fun _ _ hi => hi) fun _ _ hc => hc

theorem new_seated (capacity : Nat → Nat) : (new capacity).Seated :=
  ⟨fun k => .channel (capacity k), fun k i hi => by simp [new, Mpsc.Lined, Mpsc.channel] at hi⟩

/-! ### Mailboxes -/

/-- What the mailbox `k` has taken, oldest first. -/
def pushedTo (s : Messaging) (k : Nat) : List Message :=
  (s.pushed.filter (·.1 == k)).map (·.2)

/-- What the actor of the mailbox `k` has received. -/
def receivedFrom (s : Messaging) (k : Nat) : List Message :=
  (s.received.filter (·.1 == k)).map (·.2)

/-- What went into a mailbox comes out in the same order, but for what its receiver took along. -/
structure Stocked (s : Messaging) : Prop where
  kept : ∀ k, (s.boxes k).closed = false → s.pushedTo k = s.receivedFrom k ++ (s.boxes k).queue
  heads : ∀ k, s.receivedFrom k <+: s.pushedTo k

theorem Stocked.congr (h : s.Stocked) (hp : s'.pushed = s.pushed) (hr : s'.received = s.received)
    (hbox : ∀ k, (s'.boxes k).closed = false → (s.boxes k).closed = false ∧
      (s'.boxes k).queue = (s.boxes k).queue) : s'.Stocked := by
  have hpushed (k : Nat) : s'.pushedTo k = s.pushedTo k := by rw [pushedTo, hp, pushedTo]
  have hreceived (k : Nat) : s'.receivedFrom k = s.receivedFrom k := by rw [receivedFrom, hr, receivedFrom]
  refine ⟨fun k hk => ?_, fun k => ?_⟩
  · obtain ⟨hopen, hq⟩ := hbox k hk
    rw [hpushed, hreceived, hq, h.kept k hopen]
  · rw [hpushed, hreceived]
    exact h.heads k

theorem Stocked.setBox (h : s.Stocked) {box : Mpsc Message}
    (hbox : box.closed = false → (s.boxes k).closed = false ∧ box.queue = (s.boxes k).queue) :
    (s.setBox k box).Stocked := by
  refine h.congr rfl rfl fun l hl => ?_
  rw [setBox_boxes] at hl ⊢
  split
  · rename_i he
    rw [if_pos he] at hl
    rw [he]
    exact hbox hl
  · rename_i he
    rw [if_neg he] at hl
    exact ⟨hl, rfl⟩

theorem pushedTo_push {box : Mpsc Message} {envelope : Envelope} {l : Nat} :
    (s.push i k box envelope).pushedTo l =
      if l = k then s.pushedTo k ++ [⟨i, envelope⟩] else s.pushedTo l := by
  simp only [pushedTo, push, List.filter_append, List.map_append]
  by_cases hl : l = k
  · simp [hl]
  · simp [hl, Ne.symm hl]

theorem Stocked.push (h : s.Stocked) {box : Mpsc Message} {envelope : Envelope}
    (hopen : (s.boxes k).closed = false) (hq : box.queue = (s.boxes k).queue ++ [⟨i, envelope⟩]) :
    (s.push i k box envelope).Stocked := by
  refine ⟨fun l hl => ?_, fun l => ?_⟩
  · change ((s.setBox k box).boxes l).closed = false at hl
    show _ = s.receivedFrom l ++ ((s.setBox k box).boxes l).queue
    rw [setBox_boxes] at hl ⊢
    rw [pushedTo_push]
    split
    · rename_i he
      rw [he, h.kept k hopen, hq, List.append_assoc]
    · rename_i he
      rw [if_neg he] at hl
      exact h.kept l hl
  · rw [pushedTo_push]
    show s.receivedFrom l <+: _
    split
    · rename_i he
      rw [he]
      exact (h.heads k).trans (List.prefix_append _ _)
    · exact h.heads l

theorem Takes.spec {box box' : Mpsc Message} {message : Message} (h : Takes box i c message box') :
    box.closed = false ∧ box'.queue = box.queue ++ [message] ∧ box'.capacity = box.capacity := by
  cases h with
  | waited ha hs =>
    have hcases := box.pollSend_cases i message
    rw [hs] at hcases
    cases hcases with
    | granted hopen | free hopen => exact ⟨hopen, rfl, rfl⟩
  | tried ha hs =>
    obtain ⟨hopen, -, rfl⟩ := Mpsc.trySend_ok hs
    exact ⟨hopen, rfl, rfl⟩

/-- The message had a permit, so there was room for it. -/
theorem Takes.room {box box' : Mpsc Message} {message : Message} (h : Takes box i c message box')
    (hsound : box.Sound) : box.queue.length < box.capacity ∧ box'.closed = false := by
  cases h with
  | waited ha hs =>
    have hcases := box.pollSend_cases i message
    rw [hs] at hcases
    cases hcases with
    | granted hopen hi =>
      have hpos := List.length_pos_of_mem hi
      exact ⟨hsound.length_lt (by omega), hopen⟩
    | free hopen hg hi hf => exact ⟨hsound.length_lt (by omega), hopen⟩
  | tried ha hs =>
    obtain ⟨hopen, hf, rfl⟩ := Mpsc.trySend_ok hs
    exact ⟨hsound.length_lt (by omega), hopen⟩

theorem receivedFrom_receive {box : Mpsc Message} {message : Message} {l : Nat} :
    receivedFrom { s.setBox k box with received := s.received ++ [(k, message)] } l =
      if l = k then s.receivedFrom k ++ [message] else s.receivedFrom l := by
  simp only [receivedFrom, List.filter_append, List.map_append]
  by_cases hl : l = k
  · simp [hl]
  · simp [hl, Ne.symm hl]

theorem Stocked.receive (h : s.Stocked) {box : Mpsc Message} {message : Message}
    (hopen : (s.boxes k).closed = false) (hs : (s.boxes k).recv = some (message, box)) :
    Stocked { s.setBox k box with received := s.received ++ [(k, message)] } := by
  obtain ⟨queue, hq, rfl⟩ := Mpsc.recv_eq_some hs
  have hkept := h.kept k hopen
  rw [hq] at hkept
  refine ⟨fun l hl => ?_, fun l => ?_⟩
  · change ((s.setBox k _).boxes l).closed = false at hl
    show s.pushedTo l = _ ++ ((s.setBox k _).boxes l).queue
    rw [setBox_boxes] at hl ⊢
    rw [receivedFrom_receive]
    split
    · rename_i he
      rw [he, hkept, Mpsc.release_queue, List.append_assoc, List.singleton_append]
    · rename_i he
      rw [if_neg he] at hl
      exact h.kept l hl
  · rw [receivedFrom_receive]
    show _ <+: s.pushedTo l
    split
    · rename_i he
      rw [he, hkept]
      exact ⟨queue, by simp⟩
    · exact h.heads l

theorem Stocked.leave (h : s.Stocked) (i : Nat) (c : SendingCall) (phase : CallPhase) :
    (s.leave i c phase).Stocked := by
  unfold Messaging.leave
  split
  · refine (h.setBox fun hopen => ?_ : (s.setBox _ _).Stocked).congr rfl rfl fun l hl => ⟨hl, rfl⟩
    rw [Mpsc.cancel_closed] at hopen
    exact ⟨hopen, Mpsc.cancel_queue⟩
  · exact h.congr rfl rfl fun l hl => ⟨hl, rfl⟩

theorem Stocked.effect (h : s.Stocked) (hseated : s.Seated) (he : Effect s a s') : s'.Stocked := by
  cases he with
  | unknown | hearsNone => exact h
  | called | goesOn | enters | shutsDown | binds | clears | closes | registers => exact h.congr rfl rfl fun _ hl => ⟨hl, rfl⟩
  | @lines i c m envelope hc hp ha box hs =>
    refine h.setBox fun hopen => ?_
    have hcases := (s.boxes m.sender).pollSend_cases i ⟨i, envelope⟩
    rw [hs] at hcases
    cases hcases with
    | waits hopen | joins hopen => exact ⟨hopen, rfl⟩
  | pushes hc hp hs =>
    obtain ⟨hopen, hq, -⟩ := hs.spec
    exact (h.push hopen hq).congr rfl rfl fun l hl => ⟨hl, rfl⟩
  | abandons | drops => exact h.leave _ _ _
  | @receives k r message box hr hopen hs =>
    refine h.receive ?_ hs
    by_contra hclosed
    obtain ⟨queue, hq, -⟩ := Mpsc.recv_eq_some hs
    rw [((hseated.sound k).gone (by simpa using hclosed)).1] at hq
    cases hq
  | exits hr =>
    refine (h.setBox fun hopen => ?_ : (s.setBox _ _).Stocked).congr rfl rfl fun l hl => ⟨hl, rfl⟩
    cases hopen

theorem new_stocked (capacity : Nat → Nat) : (new capacity).Stocked :=
  ⟨fun _ _ => rfl, fun _ => List.prefix_rfl⟩

/-! ### Calls and what they have pushed -/

/-- The context `k` has been told to shut down. -/
def Stopping (s : Messaging) (k : Nat) : Prop := ∃ r, s.contexts k = some r ∧ r.shutdown = true

def pushedBy (s : Messaging) (i : Nat) : List (Nat × Message) := s.pushed.filter (·.2.call == i)

/-- Where call `i` stands, with what it has pushed: it has found bound the mailboxes `found`, and `stopping`
are the contexts that were told to shut down. -/
inductive Standing (found : MailboxRef → Prop) (stopping : Nat → Prop) (i : Nat) (c : SendingCall) :
    List (Nat × Message) → Prop
  | carries (hcar : c.Carries c.given)
      (hfound : ∀ m envelope, c.phase = .running (.sending m envelope) →
        found m ∧ m.exceeded c.given = none) : Standing found stopping i c []
  | sent {m : MailboxRef} (hm : found m) (hfit : m.exceeded c.given = none)
      (hp : c.phase = .running (.returned (.ok ()))) : Standing found stopping i c [(m.sender, ⟨i, c.given⟩)]
  | failed {error : HandleError} (hp : c.phase = .running (.returned (.error error))) :
      Standing found stopping i c []
  | abandoned {k : Nat} (ho : c.owner = some k) (hk : stopping k) (hp : c.phase = .abandoned) :
      Standing found stopping i c []
  | dropped (hp : c.phase = .dropped) : Standing found stopping i c []

theorem Standing.mono {found found' : MailboxRef → Prop} {stopping stopping' : Nat → Prop}
    {l : List (Nat × Message)} (h : Standing found stopping i c l) (hfound : ∀ m, found m → found' m)
    (hstop : ∀ k, stopping k → stopping' k) : Standing found' stopping' i c l := by
  cases h with
  | carries hcar hm =>
    refine .carries hcar fun m envelope hp => ?_
    obtain ⟨hm, hfit⟩ := hm m envelope hp
    exact ⟨hfound m hm, hfit⟩
  | sent hm hfit hp => exact .sent (hfound _ hm) hfit hp
  | failed hp => exact .failed hp
  | abandoned ho hk hp => exact .abandoned ho (hstop _ hk) hp
  | dropped hp => exact .dropped hp

theorem Carries.unique {envelope envelope' : Envelope} (h : c.Carries envelope) (h' : c.Carries envelope') :
    envelope = envelope' := by
  cases h <;> cases h' <;> simp_all

/-- A call that is on its way has pushed nothing, and carries what it was given. -/
theorem Standing.on_way {found : MailboxRef → Prop} {stopping : Nat → Prop} {l : List (Nat × Message)}
    (h : Standing found stopping i c l) (hne : c.ended = false) :
    l = [] ∧ c.Carries c.given ∧ ∀ m envelope, c.phase = .running (.sending m envelope) →
      found m ∧ m.exceeded c.given = none := by
  cases h with
  | carries hcar hm => exact ⟨rfl, hcar, hm⟩
  | sent hm hfit hp | failed hp | abandoned ho hk hp | dropped hp => simp [ended, hp] at hne

structure Accounted (found : Nat → MailboxRef → Prop) (s : Messaging) : Prop where
  standing : ∀ (i : Nat) (c : SendingCall), s.calls[i]? = some c →
    Standing (found i) s.Stopping i c (s.pushedBy i)
  known : ∀ p ∈ s.pushed, p.2.call < s.calls.length

section
variable {found found' : Nat → MailboxRef → Prop}

theorem Accounted.congr (h : Accounted found s) (hfound : ∀ i m, found i m → found' i m)
    (hcalls : s'.calls = s.calls) (hpushed : s'.pushed = s.pushed)
    (hstop : ∀ k, s.Stopping k → s'.Stopping k) : Accounted found' s' := by
  refine ⟨fun i c hc => ?_, by rw [hpushed, hcalls]; exact h.known⟩
  rw [hcalls] at hc
  rw [pushedBy, hpushed]
  exact (h.standing i c hc).mono (hfound i) hstop

theorem Accounted.goesOn (h : Accounted found s) (hfound : ∀ i m, found i m → found' i m)
    (hc : s.calls[i]? = some c) (s' : Messaging) {c' : SendingCall} (hcalls : s'.calls = s.calls)
    (hpushed : ∀ j, j ≠ i → s'.pushedBy j = s.pushedBy j)
    (hknown : ∀ p ∈ s'.pushed, p ∈ s.pushed ∨ p.2.call = i) (hstop : ∀ k, s.Stopping k → s'.Stopping k)
    (hi : Standing (found' i) s'.Stopping i c' (s'.pushedBy i)) : Accounted found' (s'.setCall i c') := by
  obtain ⟨hlt, -⟩ := List.getElem?_eq_some_iff.1 hc
  refine ⟨fun j d hd => ?_, fun p hp => ?_⟩
  · rw [setCall_calls (hcalls ▸ hc)] at hd
    show Standing (found' j) s'.Stopping j d (s'.pushedBy j)
    split at hd
    · rename_i hj
      cases hd
      rw [hj]
      exact hi
    · rename_i hj
      rw [hcalls] at hd
      rw [hpushed j hj]
      exact (h.standing j d hd).mono (hfound j) hstop
  · show p.2.call < (s'.calls.set i c').length
    rw [List.length_set, hcalls]
    rcases hknown p hp with hp | hp
    · exact h.known p hp
    · rw [hp]
      exact hlt

theorem Accounted.leave (h : Accounted found s) (hfound : ∀ i m, found i m → found' i m)
    (hc : s.calls[i]? = some c) (hne : c.ended = false) {phase : CallPhase}
    (hi : Standing (found' i) s.Stopping i { c with phase } []) : Accounted found' (s.leave i c phase) := by
  have hon := ((h.standing i c hc).on_way hne).1
  have hknown (p : Nat × Message) (hp : p ∈ s.pushed) : p ∈ s.pushed ∨ p.2.call = i := .inl hp
  have hi' : Standing (found' i) s.Stopping i { c with phase } (s.pushedBy i) := by rwa [hon]
  unfold Messaging.leave
  cases c.channel with
  | none => exact h.goesOn hfound hc s rfl (fun _ _ => rfl) hknown (fun _ hk => hk) hi'
  | some k => exact h.goesOn hfound hc (s.setBox k _) rfl (fun _ _ => rfl) hknown (fun _ hk => hk) hi'

theorem pushedBy_push {k j : Nat} {box : Mpsc Message} {envelope : Envelope} :
    (s.push i k box envelope).pushedBy j =
      if j = i then s.pushedBy i ++ [(k, ⟨i, envelope⟩)] else s.pushedBy j := by
  simp only [pushedBy, push, List.filter_append]
  by_cases hj : j = i
  · simp [hj]
  · simp [hj, Ne.symm hj]

theorem pushedBy_new (h : Accounted found s) : s.pushedBy s.calls.length = [] := by
  refine List.filter_eq_nil_iff.2 fun p hp => ?_
  simpa using Nat.ne_of_lt (h.known p hp)

theorem stopping_setContext {r : RunningContext} (hr : ∀ r', s.contexts k = some r' → r'.shutdown = true →
    r.shutdown = true) {l : Nat} (hl : s.Stopping l) : (s.setContext k r).Stopping l := by
  obtain ⟨r', hr', hs⟩ := hl
  by_cases he : l = k
  · subst he
    exact ⟨r, by simp [setContext], hr r' hr' hs⟩
  · exact ⟨r', by simp [setContext, he, hr'], hs⟩

theorem active_eq {r : RunningContext} (h : s.active k = some r) : s.contexts k = some r :=
  (Option.filter_eq_some_iff.1 h).1

theorem Accounted.effect (h : Accounted found s) (hfound : ∀ i m, found i m → found' i m)
    (hhead : ∀ i c m envelope, a = .poll i → s.calls[i]? = some c → c.phase = .running (.head envelope) →
      (s.bindings c.handle.binding).value = some m → found' i m)
    (he : Effect s a s') : Accounted found' s' := by
  cases he with
  | unknown | hearsNone => exact h.congr hfound rfl rfl fun _ hk => hk
  | lines | receives | binds | clears | closes | registers => exact h.congr hfound rfl rfl fun _ hk => hk
  | @called r seen envelope c hg hp =>
    refine ⟨fun i d hd => ?_, fun p hp => ?_⟩
    · show Standing (found' i) s.Stopping i d (s.pushedBy i)
      rcases Nat.lt_or_ge i s.calls.length with hlt | hge
      · rw [List.getElem?_append_left hlt] at hd
        exact (h.standing i d hd).mono (hfound i) fun _ hk => hk
      · rw [List.getElem?_append_right hge, List.getElem?_singleton] at hd
        split at hd
        · rename_i hi
          cases hd
          have hi : i = s.calls.length := by omega
          subst hi
          rw [pushedBy_new h]
          refine .carries (hg ▸ .head hp) fun m envelope hp' => ?_
          rw [hp] at hp'
          cases hp'
        · cases hd
    · show p.2.call < (s.calls ++ [c]).length
      rw [List.length_append]
      exact Nat.lt_add_right _ (h.known p hp)
  | @goesOn i seen c envelope phase hc hcar hgo hout =>
    obtain ⟨hpushed, hgiven, hm⟩ := (h.standing i c hc).on_way hcar.not_ended
    have henv := Carries.unique hcar hgiven
    subst henv
    refine h.goesOn hfound hc s rfl (fun _ _ => rfl) (fun p hp => .inl hp) (fun _ hk => hk) ?_
    rw [hpushed]
    cases hgo with
    | bound hp hvalue hfit =>
      refine .carries (.sending rfl) fun m envelope hs => ?_
      cases hs
      exact ⟨hhead i c _ _ rfl hc hp hvalue, hfit⟩
    | fails => exact .failed rfl
    | retries => exact .carries (.waiting rfl) fun m envelope hs => by cases hs
    | restarts => exact .carries (.head rfl) fun m envelope hs => by cases hs
  | @pushes i c m envelope hc hp box hs =>
    have hcar : c.Carries envelope := .sending hp
    obtain ⟨hpushed, hgiven, hm⟩ := (h.standing i c hc).on_way hcar.not_ended
    have henv := Carries.unique hcar hgiven
    subst henv
    refine h.goesOn hfound hc (s.push i m.sender box c.given) rfl (fun j hj => ?_) (fun p hp => ?_)
      (fun _ hk => hk) ?_
    · rw [pushedBy_push, if_neg hj]
    · rcases List.mem_append.1 hp with hp | hp
      · exact .inl hp
      · exact .inr (by rw [List.mem_singleton.1 hp])
    · rw [pushedBy_push, if_pos rfl, hpushed, List.nil_append]
      obtain ⟨hfound', hfit⟩ := hm m _ hp
      exact .sent (hfound i m hfound') hfit rfl
  | abandons hc ho hr hs hne => exact h.leave hfound hc hne (.abandoned ho ⟨_, hr, hs⟩ rfl)
  | drops hc hne => exact h.leave hfound hc hne (.dropped rfl)
  | exits hr =>
    refine h.congr hfound rfl rfl fun l hl => stopping_setContext (s := s.setBox _ _) (fun r' hr' hs => ?_) hl
    cases (active_eq hr).symm.trans hr'
    exact hs
  | enters hnew =>
    refine h.congr hfound rfl rfl fun l hl => stopping_setContext (fun r' hr' hs => ?_) hl
    rw [hnew] at hr'
    cases hr'
  | shutsDown hr => exact h.congr hfound rfl rfl fun l hl => stopping_setContext (fun _ _ _ => rfl) hl

end

theorem new_accounted {found : Nat → MailboxRef → Prop} (capacity : Nat → Nat) :
    Accounted found (new capacity) :=
  ⟨fun i c hc => by simp [new] at hc, fun p hp => absurd hp List.not_mem_nil⟩

/-! ### Whole runs -/

/-- Call `i` has read its binding while the mailbox `m` was bound. -/
def Found (s₀ : Messaging) (as : List Act) (i : Nat) (m : MailboxRef) : Prop :=
  Stepped step s₀ as fun s a => a = .poll i ∧ ∃ c, s.calls[i]? = some c ∧
    (∃ envelope, c.phase = .running (.head envelope)) ∧ (s.bindings c.handle.binding).value = some m

variable {s₀ : Messaging} {as : List Act}

theorem run_seated (hrun : AnyRun step s₀ as s) (h₀ : s₀.Seated) : s.Seated :=
  hrun.invariant h₀ fun _ _ _ h _ hs => h.effect (step_effect hs)

theorem run_stocked (hrun : AnyRun step s₀ as s) (h₀ : s₀.Seated) (h : s₀.Stocked) : s.Stocked :=
  hrun.invariant_of (J := Seated) (fun _ _ hr => run_seated hr h₀) h
    fun _ _ _ hJ h _ hs => h.effect hJ (step_effect hs)

theorem run_accounted {capacity : Nat → Nat} (hrun : AnyRun step (new capacity) as s) :
    Accounted (Found (new capacity) as) s := by
  induction hrun with
  | nil => exact new_accounted capacity
  | @snoc as a s s' hrun _ hs ih =>
    refine ih.effect (fun i m hm => ?_) (fun i c m envelope ha hc hp hm => ?_) (step_effect hs)
    · exact hrun.stepped_snoc.2 (.inl hm)
    · exact hrun.stepped_snoc.2 (.inr ⟨ha, c, hc, ⟨envelope, hp⟩, hm⟩)

theorem Effect.capacity (h : Effect s a s') (k : Nat) : (s'.boxes k).capacity = (s.boxes k).capacity := by
  have hset (s : Messaging) {l : Nat} {box : Mpsc Message} (hl : box.capacity = (s.boxes l).capacity) :
      ((s.setBox l box).boxes k).capacity = (s.boxes k).capacity := by
    rw [setBox_boxes]
    split
    · rename_i he
      rw [he, hl]
    · rfl
  have hleave (i : Nat) (c : SendingCall) (phase : CallPhase) :
      ((s.leave i c phase).boxes k).capacity = (s.boxes k).capacity := by
    unfold Messaging.leave
    split
    · exact hset s Mpsc.cancel_capacity
    · rfl
  cases h with
  | @lines i c m envelope hc hp ha box hs =>
    refine hset s ?_
    have hcases := (s.boxes m.sender).pollSend_cases i ⟨i, envelope⟩
    rw [hs] at hcases
    cases hcases <;> rfl
  | pushes hc hp hs =>
    obtain ⟨-, -, hcapacity⟩ := hs.spec
    exact hset s hcapacity
  | abandons | drops => exact hleave _ _ _
  | receives hr hopen hs =>
    obtain ⟨queue, -, rfl⟩ := Mpsc.recv_eq_some hs
    exact hset s Mpsc.release_capacity
  | exits => exact hset s rfl
  | _ => rfl

theorem run_capacity (hrun : AnyRun step s₀ as s) (k : Nat) : (s.boxes k).capacity = (s₀.boxes k).capacity :=
  hrun.invariant (I := fun s => (s.boxes k).capacity = (s₀.boxes k).capacity) rfl
    fun _ _ _ h _ hs => ((step_effect hs).capacity k).trans h

variable {capacity : Nat → Nat}

/-- What the mailboxes and the calls have come to: `found` are the mailboxes that a call has found bound. -/
structure Delivered (capacity : Nat → Nat) (found : Nat → MailboxRef → Prop) (s : Messaging) : Prop where
  /-- An actor receives from the oldest on what its mailbox has taken. -/
  inOrder : ∀ k, s.receivedFrom k <+: s.pushedTo k
  /-- The rest is queued, until the actor drops its receiver. -/
  kept : ∀ k, (s.boxes k).closed = false → s.pushedTo k = s.receivedFrom k ++ (s.boxes k).queue
  room : ∀ k, (s.boxes k).queue.length ≤ capacity k
  /-- Nothing is in a mailbox that no call has sent. -/
  sent : ∀ p ∈ s.pushed, ∃ c, s.calls[p.2.call]? = some c ∧ c.phase = .running (.returned (.ok ()))
  /-- A call that has returned `Ok` for it has delivered what it was given, once, to a mailbox that was bound
  and has room for it; any other has delivered nothing. -/
  once : ∀ (i : Nat) (c : SendingCall), s.calls[i]? = some c →
    (∃ m, c.phase = .running (.returned (.ok ())) ∧ found i m ∧ m.exceeded c.given = none ∧
      s.pushedBy i = [(m.sender, ⟨i, c.given⟩)]) ∨
    c.phase ≠ .running (.returned (.ok ())) ∧ s.pushedBy i = []
  /-- `Ok` for nothing comes from the shutdown of the context that sends. -/
  ok : ∀ (i : Nat) (c : SendingCall), s.calls[i]? = some c → c.result = some (.ok ()) →
    s.pushedBy i ≠ [] ∨ c.phase = .abandoned ∧ ∃ k, c.owner = some k ∧ s.Stopping k
  noPanic : ∀ (i : Nat) (c : SendingCall), s.calls[i]? = some c → c.phase ≠ .running .panicked

theorem Standing.once {found : MailboxRef → Prop} {stopping : Nat → Prop} {l : List (Nat × Message)}
    (h : Standing found stopping i c l) :
    (∃ m, c.phase = .running (.returned (.ok ())) ∧ found m ∧ m.exceeded c.given = none ∧
      l = [(m.sender, ⟨i, c.given⟩)]) ∨ c.phase ≠ .running (.returned (.ok ())) ∧ l = [] := by
  cases h with
  | carries hcar => exact .inr ⟨by cases hcar <;> simp_all, rfl⟩
  | sent hm hfit hp => exact .inl ⟨_, hp, hm, hfit, rfl⟩
  | failed hp | abandoned ho hk hp | dropped hp => exact .inr ⟨by simp [hp], rfl⟩

theorem Standing.ok {found : MailboxRef → Prop} {stopping : Nat → Prop} {l : List (Nat × Message)}
    (h : Standing found stopping i c l) (hr : c.result = some (.ok ())) :
    l ≠ [] ∨ c.phase = .abandoned ∧ ∃ k, c.owner = some k ∧ stopping k := by
  cases h with
  | carries hcar => cases hcar <;> simp_all [result]
  | sent => exact .inl (List.cons_ne_nil _ _)
  | failed hp => simp [result, hp] at hr
  | abandoned ho hk hp => exact .inr ⟨hp, _, ho, hk⟩
  | dropped hp => simp [result, hp] at hr

theorem Standing.no_panic {found : MailboxRef → Prop} {stopping : Nat → Prop} {l : List (Nat × Message)}
    (h : Standing found stopping i c l) : c.phase ≠ .running .panicked := by
  cases h with
  | carries hcar => cases hcar <;> simp_all
  | sent hm hfit hp | failed hp | abandoned ho hk hp | dropped hp => simp [hp]

theorem Accounted.sent {found : Nat → MailboxRef → Prop} (h : Accounted found s) {p : Nat × Message}
    (hp : p ∈ s.pushed) :
    ∃ c, s.calls[p.2.call]? = some c ∧ c.phase = .running (.returned (.ok ())) := by
  have hc := List.getElem?_eq_getElem (h.known p hp)
  have hmem : p ∈ s.pushedBy p.2.call := List.mem_filter.2 ⟨hp, beq_self_eq_true _⟩
  rcases (h.standing _ _ hc).once with ⟨m, hok, -⟩ | ⟨-, hnil⟩
  · exact ⟨_, hc, hok⟩
  · rw [hnil] at hmem
    cases hmem

/-- Whatever the senders, the actors and the graphs do, and in whichever order, every envelope arrives once
or its sender knows that it does not. -/
theorem run_delivers (hrun : AnyRun step (new capacity) as s) :
    Delivered capacity (Found (new capacity) as) s := by
  have hseated := run_seated hrun (new_seated capacity)
  have hstocked := run_stocked hrun (new_seated capacity) (new_stocked capacity)
  have haccounted := run_accounted hrun
  refine ⟨hstocked.heads, hstocked.kept, fun k => ?_, fun p hp => haccounted.sent hp,
    fun i c hc => (haccounted.standing i c hc).once, fun i c hc => (haccounted.standing i c hc).ok,
    fun i c hc => (haccounted.standing i c hc).no_panic⟩
  have hle := (hseated.sound k).length_le
  rwa [run_capacity hrun k] at hle

/-- A full mailbox: the second call waits until the actor has received the message of the first. -/
def fullMailbox : List Act :=
  [.enter ⟨"a", 0, ∅, ⟨"a", 0⟩⟩ false, .bind 0 ⟨"a", 0, some 8⟩,
    .request (.actorSend ⟨"a", 0⟩) 0 ⟨[1]⟩, .poll 0, .poll 0,
    .request (.ingressSend ⟨"in", "a", 0⟩) 0 ⟨[2]⟩, .poll 1, .poll 1]

theorem run_delivers_full :
    ∃ s, Delivered (fun _ => 1) (Found (new fun _ => 1) (fullMailbox ++ [.recv 0, .poll 1])) s ∧
      (s.receivedFrom 0, (s.boxes 0).queue) = ([⟨0, ⟨[1]⟩⟩], [⟨1, ⟨[2]⟩⟩]) := by
  have hex : ∃ s, AnyRun step (new fun _ => 1) (fullMailbox ++ [.recv 0, .poll 1]) s ∧
      (s.receivedFrom 0, (s.boxes 0).queue) = ([⟨0, ⟨[1]⟩⟩], [⟨1, ⟨[2]⟩⟩]) :=
    anyRun_of_exec (f := fun s : Messaging => (s.receivedFrom 0, (s.boxes 0).queue)) (by decide +kernel)
  obtain ⟨s, hrun, hs⟩ := hex
  exact ⟨s, run_delivers hrun, hs⟩

/-! ### The order of the calls -/

theorem Effect.pushed (h : Effect s a s') : s.pushed <+: s'.pushed := by
  have hleave (i : Nat) (c : SendingCall) (phase : CallPhase) : (s.leave i c phase).pushed = s.pushed := by
    unfold Messaging.leave
    split <;> rfl
  cases h with
  | pushes => exact List.prefix_append _ _
  | abandons | drops =>
    rw [hleave]
  | _ => exact List.prefix_rfl

theorem run_pushed (hrun : AnyRun step s₀ as s) : s₀.pushed <+: s.pushed :=
  hrun.invariant (I := fun s => s₀.pushed <+: s.pushed) List.prefix_rfl
    fun _ _ _ h _ hs => h.trans (step_effect hs).pushed

/-- An actor that receives a message has received before it what its mailbox took before the call was made
that sent the message. -/
theorem run_in_order {as' : List Act} {m m' : Message} (hrun : AnyRun step (new capacity) as s)
    (hrun' : AnyRun step s as' s') (hm : (k, m) ∈ s.pushed) (hnew : s.calls.length ≤ m'.call)
    (hm' : m' ∈ s'.receivedFrom k) :
    ∃ before between after, s'.receivedFrom k = before ++ m :: between ++ m' :: after := by
  have hd := run_delivers (hrun.trans hrun')
  have hold : s.pushedTo k <+: s'.pushedTo k := ((run_pushed hrun').filter _).map _
  have hfirst : m ∈ s.pushedTo k := List.mem_map.2 ⟨(k, m), List.mem_filter.2 ⟨hm, beq_self_eq_true k⟩, rfl⟩
  have hlate : m' ∉ s.pushedTo k := by
    intro hmem
    obtain ⟨p, hp, rfl⟩ := List.mem_map.1 hmem
    exact absurd ((run_accounted hrun).known p (List.mem_filter.1 hp).1) (Nat.not_lt.2 hnew)
  have hin : s.pushedTo k <+: s'.receivedFrom k := by
    rcases List.prefix_or_prefix_of_prefix hold (hd.inOrder k) with h | h
    · exact h
    · exact absurd (h.subset hm') hlate
  obtain ⟨rest, hrest⟩ := hin
  obtain ⟨before, between, hb⟩ := List.append_of_mem hfirst
  rw [← hrest] at hm'
  obtain ⟨middle, after, ha⟩ := List.append_of_mem ((List.mem_append.1 hm').resolve_left hlate)
  exact ⟨before, between ++ middle, after, by rw [← hrest, hb, ha]; simp⟩

theorem run_in_order_full :
    ∃ s : Messaging, ∃ before between after,
      s.receivedFrom 0 = before ++ ⟨0, ⟨[1]⟩⟩ :: between ++ ⟨1, ⟨[2]⟩⟩ :: after := by
  have hex : ∃ s, AnyRun step (new fun _ => 1) (fullMailbox.take 5) s ∧
      (s.pushed, s.calls.length) = ([(0, ⟨0, ⟨[1]⟩⟩)], 1) :=
    anyRun_of_exec (f := fun s : Messaging => (s.pushed, s.calls.length)) (by decide +kernel)
  obtain ⟨s, hrun, hs⟩ := hex
  simp only [Prod.mk.injEq] at hs
  have hrest : (exec step s (fullMailbox.drop 5 ++ [.recv 0, .poll 1, .recv 0])).map (receivedFrom · 0) =
      some [⟨0, ⟨[1]⟩⟩, ⟨1, ⟨[2]⟩⟩] := by
    have hall : (exec step (new fun _ => 1) (fullMailbox.take 5 ++
        (fullMailbox.drop 5 ++ [.recv 0, .poll 1, .recv 0]))).map (receivedFrom · 0) =
        some [⟨0, ⟨[1]⟩⟩, ⟨1, ⟨[2]⟩⟩] := by decide +kernel
    rwa [exec_append, anyRun_iff_exec.1 hrun] at hall
  obtain ⟨s', hrun', hs'⟩ := anyRun_of_exec hrest
  exact ⟨s', run_in_order hrun hrun' (by rw [hs.1]; exact List.mem_singleton_self _) (Nat.le_of_eq hs.2)
    (by rw [hs']; exact List.mem_cons_of_mem _ (List.mem_singleton_self _))⟩

end Messaging
end TokioSupervisor
