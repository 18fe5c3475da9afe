import TokioSupervisor.Actor.Delivery

/-!
# One call among many

A call of `send_when_ready` in `Messaging` behaves as the loop of its handle does on its own, where everybody
else is the environment: what happens between two of its polls is what an environment of mailboxes can do,
and a poll that leaves it in line is none. What is known of the loop alone is so known of every call.
-/

namespace TokioSupervisor
open Lib

namespace SendHandle

/-- The error of the methods of the handle. -/
def Error : SendHandle → Type
  | .actor _ => SendError
  | .ingress _ => IngressError

def raise : (h : SendHandle) → h.Error → HandleError
  | .actor _ => .send
  | .ingress _ => .ingress

/-- The loop of `send_when_ready`. -/
def whenReady : (h : SendHandle) → SendCall h.Error → Option (SendCall h.Error)
  | .actor a => a.sendWhenReady
  | .ingress h => h.sendWhenReady

/-- The arms of the loop on what `send_retaining` returns. -/
def loopAfterSend : (h : SendHandle) → Except MailboxSendFailure Unit → SendPhase h.Error
  | .actor a => a.afterSend
  | .ingress h => h.afterSend

theorem afterSend_eq (h : SendHandle) (result : Except MailboxSendFailure Unit) :
    h.afterSend result = (h.loopAfterSend result).mapError h.raise := by
  cases h <;> rfl

end SendHandle

namespace Messaging
open SendingCall
variable {s s' : Messaging} {i : Nat} {c : SendingCall} {h : SendHandle} {t : SendCall h.Error}

/-- The mailboxes `w` as the calls see them. One without a receiver takes nothing, whatever it holds. -/
structure Shows (w : Mailboxes) (s : Messaging) : Prop where
  bindings : w.bindings = s.bindings
  closed : ∀ k, (w.boxes k).closed = (s.boxes k).closed
  stock : ∀ k, (s.boxes k).closed = false → w.boxes k = s.view.boxes k

/-- The loop `t` of call `i`, alone with its mailboxes. -/
structure Follows (h : SendHandle) (i : Nat) (s : Messaging) (t : SendCall h.Error) : Prop where
  shows : Shows t.mailboxes s
  pushed : t.pushed = (s.pushedBy i).map fun p => (p.1, p.2.envelope)
  call : ∃ c, s.calls[i]? = some c ∧ c.handle = h ∧ c.operation = .sendWhenReady ∧ c.seen = t.seen ∧
    c.phase = .running (t.phase.mapError h.raise)

/-! ### Mailboxes -/

section
variable {w : Mailboxes} {k : Nat} {box : Mpsc Message}

theorem Shows.setBox (hw : Shows w s) (k : Nat) (box : Mpsc Message) (b : Mailbox)
    (hclosed : b.closed = box.closed)
    (hstock : box.closed = false → b = ⟨box.capacity, box.queue.map (·.envelope), box.closed⟩) :
    Shows (w.setBox k b) (s.setBox k box) := by
  refine ⟨hw.bindings, fun l => ?_, fun l hl => ?_⟩
  · simp only [setBox_boxes, Mailboxes.setBox, Function.update_apply]
    split
    · exact hclosed
    · exact hw.closed l
  · simp only [view, setBox_boxes, Mailboxes.setBox, Function.update_apply] at hl ⊢
    split
    · rename_i hlk
      rw [if_pos hlk] at hl
      exact hstock hl
    · rename_i hlk
      rw [if_neg hlk] at hl
      exact hw.stock l hl

/-- What only the line of a mailbox tells is not seen. -/
theorem Shows.line (hw : Shows w s) (k : Nat) (box : Mpsc Message) (hclosed : box.closed = (s.boxes k).closed)
    (hcapacity : box.capacity = (s.boxes k).capacity) (hqueue : box.queue = (s.boxes k).queue) :
    Shows w (s.setBox k box) := by
  have hset := hw.setBox k box (w.boxes k) ((hw.closed k).trans hclosed.symm) fun hopen => by
    rw [hw.stock k (hclosed.symm.trans hopen), view, hcapacity, hqueue, hclosed]
  rwa [Mailboxes.setBox, Function.update_eq_self] at hset

theorem Shows.push (hw : Shows w s) {message : Message} (hopen : (s.boxes k).closed = false)
    (hroom : (s.boxes k).queue.length < (s.boxes k).capacity)
    (hqueue : box.queue = (s.boxes k).queue ++ [message]) (hcapacity : box.capacity = (s.boxes k).capacity)
    (hbox : box.closed = false) :
    ∃ b, (w.boxes k).send message.envelope = some (.ok b) ∧ Shows (w.setBox k b) (s.setBox k box) := by
  refine ⟨⟨box.capacity, box.queue.map (·.envelope), box.closed⟩, ?_, hw.setBox k box _ rfl fun _ => rfl⟩
  rw [hw.stock k hopen, Mailbox.send, view]
  simp only [hopen, List.length_map, if_pos hroom, hqueue, hcapacity, hbox, List.map_append,
    Bool.false_eq_true, if_false]
  rfl

end

/-! ### The pieces of the loop -/

theorem whenReady_head {envelope : Envelope} (hc : c.handle = h) (ho : c.operation = .sendWhenReady)
    (hp : t.phase = .head envelope) {w : Mailboxes} (hw : t.mailboxes.bindings = w.bindings) :
    ∃ phase, h.whenReady t = some { t with phase } ∧ c.head w envelope = phase.mapError h.raise := by
  subst hc
  obtain ⟨handle, operation, owner, given, seen, cphase⟩ := c
  cases ho
  cases handle with
  | actor a =>
    simp only [SendHandle.whenReady, ActorRef.sendWhenReady, hp, head, SendHandle.currentMailbox,
      ActorRef.currentMailbox, hw]
    cases (w.bindings a.binding).value with
    | none => exact ⟨_, rfl, rfl⟩
    | some m =>
      simp only [Except.mapError]
      cases hv : m.validateEnvelope envelope with
      | ok => exact ⟨_, rfl, rfl⟩
      | error error =>
        cases hf : error.sendFailure with
        | none => exact ⟨.panicked, by simp only [hf]; rfl, by simp [refused, hf, SendPhase.mapError]⟩
        | some failure => exact ⟨_, by simp only [hf]; rfl, by simp [refused, hf, SendHandle.afterSend]; rfl⟩
  | ingress h =>
    simp only [SendHandle.whenReady, IngressHandle.sendWhenReady, hp, head, SendHandle.currentMailbox,
      IngressHandle.currentMailbox, hw]
    cases (w.bindings h.binding).value with
    | none => exact ⟨_, rfl, rfl⟩
    | some m =>
      simp only [Except.mapError]
      cases hv : m.validateEnvelope envelope with
      | ok => exact ⟨_, rfl, rfl⟩
      | error error =>
        cases hf : error.sendFailure with
        | none => exact ⟨.panicked, by simp only [hf]; rfl, by simp [refused, hf, SendPhase.mapError]⟩
        | some failure => exact ⟨_, by simp only [hf]; rfl, by simp [refused, hf, SendHandle.afterSend]; rfl⟩

theorem whenReady_sending {m : MailboxRef} {envelope : Envelope} (hp : t.phase = .sending m envelope)
    {r : SendCall h.Error × Except MailboxSendFailure Unit} (hs : t.pollSend m envelope = some r) :
    h.whenReady t = some { r.1 with phase := h.loopAfterSend r.2 } := by
  cases h with
  | actor a =>
    simp only [SendHandle.whenReady, ActorRef.sendWhenReady, hp]
    exact congrArg (Option.map _) hs
  | ingress h =>
    simp only [SendHandle.whenReady, IngressHandle.sendWhenReady, hp]
    exact congrArg (Option.map _) hs

/-- Where the loop goes on after a piece of its wait. -/
def afterWait {ε : Type} (error : ε) (envelope : Envelope) : WaitFor → SendPhase ε
  | .done true => .head envelope
  | .done false => .returned (.error error)
  | wait => .waiting error envelope wait

theorem afterWait_mapError {ε δ : Type} (f : ε → δ) (error : ε) (envelope : Envelope) (wait : WaitFor) :
    (afterWait error envelope wait).mapError f = afterWait (f error) envelope wait := by
  cases wait with
  | looking closed | awaiting => rfl
  | done found => cases found <;> rfl

theorem whenReady_waiting {error : h.Error} {envelope : Envelope} {wait wait' : WaitFor} {seen : Nat}
    (hp : t.phase = .waiting error envelope wait)
    (hs : (t.mailboxes.bindings h.binding).waitFor Option.isSome t.seen wait = some (seen, wait')) :
    h.whenReady t = some { t with seen, phase := afterWait error envelope wait' } := by
  cases h with
  | actor a =>
    simp only [SendHandle.binding] at hs
    simp only [SendHandle.whenReady, ActorRef.sendWhenReady, hp, ActorRef.waitForNextBinding, hs]
    rcases wait' with _ | _ | _ | _ <;> rfl
  | ingress h =>
    simp only [SendHandle.binding] at hs
    simp only [SendHandle.whenReady, IngressHandle.sendWhenReady, hp, IngressHandle.waitForNextBinding, hs]
    rcases wait' with _ | _ | _ | _ <;> rfl

/-! ### The call itself -/

theorem Follows.setCall (hf : Follows h i s t) (hc : s.calls[i]? = some c) (hhandle : c.handle = h)
    (ho : c.operation = .sendWhenReady) (seen : Nat) (phase : SendPhase h.Error) :
    Follows h i (s.setCall i { c with seen, phase := .running (phase.mapError h.raise) })
      { t with seen, phase } := by
  refine ⟨⟨hf.shows.bindings, hf.shows.closed, hf.shows.stock⟩, hf.pushed,
    { c with seen, phase := .running (phase.mapError h.raise) }, ?_, hhandle, ho, rfl, rfl⟩
  rw [setCall_calls hc, if_pos rfl]

theorem one_poll {t' : SendCall h.Error} (hs : h.whenReady t = some t') :
    AnyRun (SendCall.step h.whenReady) t [.poll] t' :=
  .single trivial hs

theorem one_environment {a : Mailboxes.Act} {w : Mailboxes} (hs : t.mailboxes.environment a = some w) :
    AnyRun (SendCall.step h.whenReady) t [.environment a] { t with mailboxes := w } :=
  .single trivial (by rw [SendCall.step, hs]; rfl)

theorem Follows.pollChannel (hf : Follows h i s t) (hseated : s.Seated) (hc : s.calls[i]? = some c)
    (hhandle : c.handle = h) (ho : c.operation = .sendWhenReady) (hseen : c.seen = t.seen) {m : MailboxRef}
    {envelope : Envelope} (hp : t.phase = .sending m envelope) :
    ∃ bs t', AnyRun (SendCall.step h.whenReady) t bs t' ∧ Follows h i (s.pollChannel i c m envelope) t' := by
  have ha : c.operation.awaits = true := by rw [ho]; rfl
  have hanswer (result : Except MailboxSendFailure Unit) :
      c.answered m result = (h.loopAfterSend result).mapError h.raise := by
    rw [answered, ho, ← h.afterSend_eq, ← hhandle]
  have hsound := hseated.sound m.sender
  unfold Messaging.pollChannel
  rw [if_pos ha]
  have hcases := (s.boxes m.sender).pollSend_cases i ⟨i, envelope⟩
  generalize (s.boxes m.sender).pollSend i ⟨i, envelope⟩ = r at hcases
  have hpush {box : Mpsc Message} (hopen : (s.boxes m.sender).closed = false)
      (hroom : (s.boxes m.sender).queue.length < (s.boxes m.sender).capacity)
      (hqueue : box.queue = (s.boxes m.sender).queue ++ [⟨i, envelope⟩])
      (hcapacity : box.capacity = (s.boxes m.sender).capacity) (hbox : box.closed = false) :
      ∃ bs t', AnyRun (SendCall.step h.whenReady) t bs t' ∧ Follows h i ((s.push i m.sender box envelope).setCall i
        { c with phase := .running (c.answered m (.ok ())) }) t' := by
    obtain ⟨b, hb, hshows⟩ := hf.shows.push hopen hroom hqueue hcapacity hbox
    have hpoll : t.pollSend m envelope = some ({ t with
        mailboxes := t.mailboxes.setBox m.sender b
        pushed := t.pushed ++ [(m.sender, envelope)] }, .ok ()) := by
      rw [SendCall.pollSend, hb]
      rfl
    refine ⟨_, _, one_poll (whenReady_sending hp hpoll),
      ⟨hshows.bindings, hshows.closed, hshows.stock⟩, ?_,
      { c with phase := .running (c.answered m (.ok ())) }, ?_, hhandle, ho, hseen, ?_⟩
    · show t.pushed ++ _ = ((s.push i m.sender box envelope).pushedBy i).map _
      rw [pushedBy_push, if_pos rfl, List.map_append, ← hf.pushed]
      rfl
    · rw [setCall_calls (s := s.push _ _ _ _) hc, if_pos rfl]
    · rw [hanswer]
  have hpending {box : Mpsc Message} (hclosed : box.closed = (s.boxes m.sender).closed)
      (hcapacity : box.capacity = (s.boxes m.sender).capacity)
      (hqueue : box.queue = (s.boxes m.sender).queue) : ∃ bs t',
        AnyRun (SendCall.step h.whenReady) t bs t' ∧ Follows h i (s.setBox m.sender box) t' :=
    ⟨[], t, .nil, hf.shows.line _ _ hclosed hcapacity hqueue, hf.pushed, hf.call⟩
  cases hcases with
  | closed hclosed =>
    have hpoll : t.pollSend m envelope = some (t, .error (.mailboxClosed envelope)) := by
      rw [SendCall.pollSend, Mailbox.send, if_pos ((hf.shows.closed m.sender).trans hclosed)]
      rfl
    refine ⟨_, _, one_poll (whenReady_sending hp hpoll), ?_⟩
    dsimp only
    rw [hanswer, ← hseen]
    exact hf.setCall hc hhandle ho _ _
  | granted hopen hi =>
    have hpos := List.length_pos_of_mem hi
    exact hpush hopen (hsound.length_lt (by omega)) rfl rfl hopen
  | waits hopen hg hi => exact hpending rfl rfl rfl
  | joins hopen hg hi hfree => exact hpending rfl rfl rfl
  | free hopen hg hi hfree => exact hpush hopen (hsound.length_lt (by omega)) rfl rfl hopen

theorem Follows.poll (hf : Follows h i s t) (hseated : s.Seated) (hs : s.step (.poll i) = some s') :
    ∃ bs t', AnyRun (SendCall.step h.whenReady) t bs t' ∧ Follows h i s' t' := by
  obtain ⟨c, hc, hhandle, ho, hseen, hcp⟩ := hf.call
  simp only [step, hc, Option.bind_some, Messaging.poll, hcp] at hs
  cases hp : t.phase with
  | head envelope =>
    simp only [hp, SendPhase.mapError] at hs
    cases hs
    obtain ⟨phase, hloop, hhead⟩ := whenReady_head (w := s.view) hhandle ho hp hf.shows.bindings
    refine ⟨_, _, one_poll hloop, ?_⟩
    rw [hhead]
    have hset := hf.setCall hc hhandle ho c.seen phase
    rwa [hseen] at hset ⊢
  | sending m envelope =>
    simp only [hp, SendPhase.mapError] at hs
    cases hs
    exact hf.pollChannel hseated hc hhandle ho hseen hp
  | waiting error envelope wait =>
    simp only [hp, SendPhase.mapError] at hs
    obtain ⟨⟨seen, wait'⟩, hwait, rfl⟩ := Option.map_eq_some_iff.1 hs
    rw [hhandle, ← hf.shows.bindings, hseen] at hwait
    refine ⟨_, _, one_poll (whenReady_waiting hp hwait), ?_⟩
    have hset := hf.setCall hc hhandle ho seen (afterWait error envelope wait')
    rw [afterWait_mapError] at hset
    convert hset using 4
    rcases wait' with _ | _ | _ | _ <;> rfl
  | returned result | panicked =>
    simp only [hp, SendPhase.mapError] at hs
    cases hs

/-! ### Everybody else -/

theorem Follows.unseen (hf : Follows h i s t) (hshows : Shows t.mailboxes s')
    (hpushed : s'.pushedBy i = s.pushedBy i) (hcall : s'.calls[i]? = s.calls[i]?) :
    ∃ bs t', AnyRun (SendCall.step h.whenReady) t bs t' ∧ Follows h i s' t' :=
  ⟨[], t, .nil, hshows, by rw [hpushed, hf.pushed], by rw [hcall]; exact hf.call⟩

theorem Follows.environment (hf : Follows h i s t) {a : Mailboxes.Act} {w : Mailboxes}
    (hs : t.mailboxes.environment a = some w) (hshows : Shows w s')
    (hpushed : s'.pushedBy i = s.pushedBy i) (hcall : s'.calls[i]? = s.calls[i]?) :
    ∃ bs t', AnyRun (SendCall.step h.whenReady) t bs t' ∧ Follows h i s' t' :=
  ⟨_, _, one_environment hs, hshows, by rw [hpushed, ← hf.pushed], by rw [hcall]; exact hf.call⟩

theorem Shows.setBinding {w : Mailboxes} (hw : Shows w s) (b : Nat) (binding : Watch (Option MailboxRef)) :
    Shows (w.setBinding b binding) (s.setBinding b binding) := by
  refine ⟨?_, hw.closed, hw.stock⟩
  rw [Mailboxes.setBinding, Messaging.setBinding, hw.bindings]

theorem Follows.leave (hf : Follows h i s t) {j : Nat} {d : SendingCall} (hd : s.calls[j]? = some d)
    (hne : i ≠ j) (phase : CallPhase) :
    ∃ bs t', AnyRun (SendCall.step h.whenReady) t bs t' ∧ Follows h i (s.leave j d phase) t' := by
  unfold Messaging.leave
  split
  · rename_i k hk
    have hline := hf.shows.line k ((s.boxes k).cancel j) Mpsc.cancel_closed Mpsc.cancel_capacity
      Mpsc.cancel_queue
    refine hf.unseen ⟨hline.bindings, hline.closed, hline.stock⟩ rfl ?_
    rw [setCall_calls (s := s.setBox _ _) hd, if_neg hne]
    rfl
  · refine hf.unseen ⟨hf.shows.bindings, hf.shows.closed, hf.shows.stock⟩ rfl ?_
    rw [setCall_calls hd, if_neg hne]

theorem Follows.pushes (hf : Follows h i s t) (hseated : s.Seated) {j : Nat} {d : SendingCall}
    (hd : s.calls[j]? = some d) (hne : i ≠ j) {m : MailboxRef} {envelope : Envelope} {box : Mpsc Message}
    (hs : Takes (s.boxes m.sender) j d ⟨j, envelope⟩ box) {d' : SendingCall} :
    ∃ bs t', AnyRun (SendCall.step h.whenReady) t bs t' ∧
      Follows h i ((s.push j m.sender box envelope).setCall j d') t' := by
  obtain ⟨hopen, hqueue, hcapacity⟩ := hs.spec
  obtain ⟨hroom, hbox⟩ := hs.room (hseated.sound m.sender)
  obtain ⟨b, hb, hshows⟩ := hf.shows.push hopen hroom hqueue hcapacity hbox
  refine hf.environment (a := .push m.sender envelope) (by rw [Mailboxes.environment, hb]; rfl)
    ⟨hshows.bindings, hshows.closed, hshows.stock⟩ ?_ ?_
  · show (s.push j m.sender box envelope).pushedBy i = _
    rw [pushedBy_push, if_neg hne]
  · rw [setCall_calls (s := s.push _ _ _ _) hd, if_neg hne]
    rfl

theorem Follows.others (hf : Follows h i s t) (hseated : s.Seated) {a : Act} (he : Effect s a s')
    (hpoll : a ≠ .poll i) (habandon : a ≠ .abandon i) (hdrop : a ≠ .drop i) :
    ∃ bs t', AnyRun (SendCall.step h.whenReady) t bs t' ∧ Follows h i s' t' := by
  have hshows := hf.shows
  cases he with
  | unknown | hearsNone => exact ⟨[], t, .nil, hf⟩
  | called =>
    obtain ⟨c, hc, -⟩ := hf.call
    obtain ⟨hlt, -⟩ := List.getElem?_eq_some_iff.1 hc
    exact hf.unseen ⟨hshows.bindings, hshows.closed, hshows.stock⟩ rfl (List.getElem?_append_left hlt)
  | @goesOn j _ d _ _ hd =>
    have hne : i ≠ j := fun hij => hpoll (by rw [hij])
    refine hf.unseen ⟨hshows.bindings, hshows.closed, hshows.stock⟩ rfl ?_
    rw [setCall_calls hd, if_neg hne]
  | @lines j d m envelope hd hp ha box hs =>
    have hcases := (s.boxes m.sender).pollSend_cases j ⟨j, envelope⟩
    rw [hs] at hcases
    refine hf.unseen (hshows.line _ _ ?_ ?_ ?_) rfl rfl
    all_goals cases hcases <;> rfl
  | @pushes j d m envelope hd hp box hs =>
    exact hf.pushes hseated hd (fun hij => hpoll (by rw [hij])) hs
  | @abandons j _ d _ hd => exact hf.leave hd (fun hij => habandon (by rw [hij])) _
  | @drops j d hd => exact hf.leave hd (fun hij => hdrop (by rw [hij])) _
  | @receives k r message box hr hopen hs =>
    obtain ⟨queue, hq, rfl⟩ := Mpsc.recv_eq_some hs
    have hset := hshows.setBox k (Mpsc.release { s.boxes k with queue })
      { t.mailboxes.boxes k with queue := (t.mailboxes.boxes k).queue.tail }
      (by rw [Mpsc.release_closed]; exact hshows.closed k) fun hbox => by
        rw [Mpsc.release_closed] at hbox
        rw [hshows.stock k hbox, view, Mpsc.release_closed, Mpsc.release_capacity, Mpsc.release_queue]
        simp only [hq, List.map_cons, List.tail_cons]
    exact hf.environment (a := .receive k) rfl ⟨hset.bindings, hset.closed, hset.stock⟩ rfl rfl
  | @exits k r hr =>
    have hset := hshows.setBox k (s.boxes k).dropReceiver
      { t.mailboxes.boxes k with closed := true } rfl fun hbox => by cases hbox
    exact hf.environment (a := .close k) rfl ⟨hset.bindings, hset.closed, hset.stock⟩ rfl rfl
  | enters | shutsDown | registers =>
    exact hf.unseen ⟨hshows.bindings, hshows.closed, hshows.stock⟩ rfl rfl
  | @binds b m binding hs =>
    rw [← hshows.bindings] at hs
    exact hf.environment (a := .bind b m) (by rw [Mailboxes.environment, hs]; rfl) (hshows.setBinding b binding)
      rfl rfl
  | @clears b binding hs =>
    rw [← hshows.bindings] at hs
    exact hf.environment (a := .clear b) (by rw [Mailboxes.environment, hs]; rfl) (hshows.setBinding b binding)
      rfl rfl
  | @closes b =>
    rw [← hshows.bindings]
    exact hf.environment (a := .dropSource b) rfl (hshows.setBinding b _) rfl rfl

/-- From its head on, and as long as its future is kept, a call of `send_when_ready` is a run of the loop of
its handle over mailboxes that everybody else changes. -/
theorem run_follows {capacity : Nat → Nat} {as as' : List Act} {envelope : Envelope}
    (hrun : AnyRun step (new capacity) as s) (hc : s.calls[i]? = some c) (ho : c.operation = .sendWhenReady)
    (hp : c.phase = .running (.head envelope))
    (hrun' : Run step (fun _ a => a ≠ .abandon i ∧ a ≠ .drop i) s as' s') :
    ∃ bs t, AnyRun (SendCall.step c.handle.whenReady) (.start s.view c.seen envelope) bs t ∧
      Follows c.handle i s' t := by
  have hstart : Follows c.handle i s (.start s.view c.seen envelope) := by
    refine ⟨⟨rfl, fun _ => rfl, fun _ _ => rfl⟩, ?_, c, hc, rfl, ho, rfl, hp⟩
    rw [(((run_accounted hrun).standing i c hc).on_way (Carries.head hp).not_ended).1]
    rfl
  refine hrun'.simulated (J := Seated)
    (fun _ _ hr => run_seated (hrun.trans hr.any) (new_seated capacity)) hstart ?_
  intro s₁ a s₂ t hseated hf hok hs
  by_cases hpoll : a = .poll i
  · subst hpoll
    exact hf.poll hseated hs
  · exact hf.others hseated (step_effect hs) hpoll hok.1 hok.2

/-- The call waits in line while the actor receives the message before its own. -/
theorem run_follows_full :
    ∃ s s' bs t, AnyRun (SendCall.step (SendHandle.actor ⟨"a", 0⟩).whenReady) (.start (view s) 0 ⟨[2]⟩) bs t ∧
      Follows (.actor ⟨"a", 0⟩) 1 s' t ∧ s'.pushedBy 1 = [(0, ⟨1, ⟨[2]⟩⟩)] := by
  have hex : ∃ s, AnyRun step (new fun _ => 1)
      (fullMailbox.take 5 ++ [.request (.actorSendWhenReady ⟨"a", 0⟩) 0 ⟨[2]⟩]) s ∧
      s.calls[1]? = some (ActorRef.sendWhenReadyCall ⟨"a", 0⟩ 0 ⟨[2]⟩) :=
    anyRun_of_exec (f := fun s : Messaging => s.calls[1]?) (by decide +kernel)
  obtain ⟨s, hrun, hc⟩ := hex
  have hrest : (execIf step (fun _ a => !a matches .abandon 1 | .drop 1) s
      [.poll 1, .poll 1, .recv 0, .poll 1]).map (pushedBy · 1) = some [(0, ⟨1, ⟨[2]⟩⟩)] := by
    have hall : ((exec step (new fun _ => 1)
        (fullMailbox.take 5 ++ [.request (.actorSendWhenReady ⟨"a", 0⟩) 0 ⟨[2]⟩])).bind fun s =>
        execIf step (fun _ a => !a matches .abandon 1 | .drop 1) s
          [.poll 1, .poll 1, .recv 0, .poll 1]).map (pushedBy · 1) = some [(0, ⟨1, ⟨[2]⟩⟩)] := by
      decide +kernel
    rwa [anyRun_iff_exec.1 hrun, Option.bind_some] at hall
  obtain ⟨s', hrun', hs'⟩ := run_of_execIf_map hrest
  have hkept : Run step (fun _ a => a ≠ .abandon 1 ∧ a ≠ .drop 1) s [.poll 1, .poll 1, .recv 0, .poll 1] s' := by
    refine hrun'.mono fun _ a ha => ?_
    constructor <;> intro he <;> simp [he] at ha
  obtain ⟨bs, t, hloop, hf⟩ := run_follows hrun hc rfl rfl hkept
  exact ⟨s, s', bs, t, hloop, hf, hs'⟩

end Messaging
end TokioSupervisor
