import TokioSupervisor.Actor.Delivery

/-!
# Senders that wait for capacity

A call of `send` or `send_when_ready` that found its mailbox full has its place in line. Nobody overtakes it:
a message that is received brings it forward by one, and whoever comes later, `try_send` included, finds no
permit before it has its own. So after as many messages as there were senders up to it, its next poll
delivers.
-/

namespace TokioSupervisor
open Lib

namespace Messaging
open SendingCall
variable {s s' : Messaging} {a : Act} {i k n : Nat} {c : SendingCall}

/-- Call `i` has returned `Ok` for a message that it has pushed. -/
def Sent (s : Messaging) (i : Nat) : Prop :=
  ∃ c, s.calls[i]? = some c ∧ c.phase = .running (.returned (.ok ()))

/-- Call `i` awaits mailbox `k` and gets its permit after `n` messages at most. -/
structure Awaiting (s : Messaging) (i k n : Nat) (c : SendingCall) : Prop where
  call : s.calls[i]? = some c
  channel : c.channel = some k
  nearly : (s.boxes k).Nearly i n

theorem Awaiting.lined (h : Awaiting s i k n c) : (s.boxes k).Lined i :=
  h.nearly.imp_right List.mem_of_mem_take

theorem Awaiting.isOpen (h : Awaiting s i k n c) (hseated : s.Seated) : (s.boxes k).closed = false := by
  by_contra hclosed
  exact (hseated.sound k).not_lined (by simpa using hclosed) h.lined

theorem Awaiting.awaits (h : Awaiting s i k n c) (hseated : s.Seated) : c.operation.awaits = true := by
  obtain ⟨d, hd, -, ha⟩ := hseated.line k i h.lined
  cases h.call.symm.trans hd
  exact ha

theorem Awaiting.setCall (h : Awaiting s i k n c) (s' : Messaging) {j : Nat} {d d' : SendingCall}
    (hd : s.calls[j]? = some d) (hne : i ≠ j) (hcalls : s'.calls = s.calls) (hnearly : (s'.boxes k).Nearly i n) :
    Awaiting (s'.setCall j d') i k n c := by
  refine ⟨?_, h.channel, hnearly⟩
  rw [setCall_calls (hcalls ▸ hd), if_neg hne, hcalls, h.call]

theorem nearly_setBox {l : Nat} {box : Mpsc Message} (h : (s.boxes k).Nearly i n)
    (hbox : l = k → box.Nearly i n) : ((s.setBox l box).boxes k).Nearly i n := by
  rw [setBox_boxes]
  split
  · rename_i hk
    exact hbox hk.symm
  · exact h

theorem Awaiting.leave (h : Awaiting s i k n c) {j : Nat} {d : SendingCall} (hd : s.calls[j]? = some d)
    (hne : i ≠ j) (phase : CallPhase) : Awaiting (s.leave j d phase) i k n c := by
  unfold Messaging.leave
  split
  · refine h.setCall (s.setBox _ _) hd hne rfl (nearly_setBox h.nearly ?_)
    rintro rfl
    exact h.nearly.cancel hne
  · exact h.setCall s hd hne rfl h.nearly

theorem Takes.nearly {j : Nat} {d : SendingCall} {message : Message} {box box' : Mpsc Message}
    (hs : Takes box j d message box') (hne : i ≠ j) (h : box.Nearly i n) : box'.Nearly i n := by
  cases hs with
  | waited ha hs =>
    have hnearly := h.pollSend hne message
    rwa [hs] at hnearly
  | tried ha hs => exact h.trySend hs

/-- A poll of the call itself delivers or changes nothing. -/
theorem Awaiting.poll (h : Awaiting s i k n c) (hseated : s.Seated) (he : Effect s (.poll i) s') :
    Sent s' i ∨ Awaiting s' i k n c := by
  generalize ha : Act.poll i = a at he
  cases he with
  | goesOn seen hc hcar hgo hout =>
    cases ha
    cases h.call.symm.trans hc
    rcases hout k h.channel with hclosed | hno
    · rw [h.isOpen hseated] at hclosed
      cases hclosed
    · rw [h.awaits hseated] at hno
      cases hno
  | @lines j d m envelope hc hp hd box hs =>
    cases ha
    refine .inr ⟨h.call, h.channel, nearly_setBox h.nearly ?_⟩
    rintro rfl
    have hcases := (s.boxes m.sender).pollSend_cases i ⟨i, envelope⟩
    rw [hs] at hcases
    cases hcases with
    | waits => exact h.nearly
    | joins hopen hg hw =>
      rcases h.lined with hi | hi
      · exact absurd hi hg
      · exact absurd hi hw
  | @pushes j d m envelope hd hp box hs =>
    cases ha
    refine .inl ⟨{ d with phase := .running (.returned (.ok ())) }, ?_, rfl⟩
    rw [setCall_calls (s := s.push _ _ _ _) hd, if_pos rfl]
  | registers => exact .inr ⟨h.call, h.channel, h.nearly⟩
  | _ => cases ha

/-- A step of anybody else; a message that is received brings the call forward. -/
theorem Awaiting.effect (h : Awaiting s i k n c) (he : Effect s a s')
    (hpoll : a ≠ .poll i) (habandon : a ≠ .abandon i) (hdrop : a ≠ .drop i) (hexit : a ≠ .exit k) :
    Awaiting s' i k (n - ((s'.receivedFrom k).length - (s.receivedFrom k).length)) c := by
  have hsame (h' : Awaiting s' i k n c) (hr : s'.received = s.received) :
      Awaiting s' i k (n - ((s'.receivedFrom k).length - (s.receivedFrom k).length)) c := by
    rwa [receivedFrom, hr, ← receivedFrom, Nat.sub_self, Nat.sub_zero]
  have hleave (j : Nat) (d : SendingCall) (phase : CallPhase) :
      (s.leave j d phase).received = s.received := by
    unfold Messaging.leave
    split <;> rfl
  cases he with
  | unknown | hearsNone => exact hsame h rfl
  | called =>
    refine hsame ⟨?_, h.channel, h.nearly⟩ rfl
    obtain ⟨hlt, -⟩ := List.getElem?_eq_some_iff.1 h.call
    rw [List.getElem?_append_left hlt, h.call]
  | @goesOn j _ d _ _ hd =>
    have hne : i ≠ j := fun hij => hpoll (by rw [hij])
    exact hsame (h.setCall s hd hne rfl h.nearly) rfl
  | @lines j d m envelope hd hp ha box hs =>
    have hne : i ≠ j := fun hij => hpoll (by rw [hij])
    refine hsame ⟨h.call, h.channel, nearly_setBox h.nearly ?_⟩ rfl
    rintro rfl
    have hnearly := h.nearly.pollSend hne ⟨j, envelope⟩
    rwa [hs] at hnearly
  | @pushes j d m envelope hd hp box hs =>
    have hne : i ≠ j := fun hij => hpoll (by rw [hij])
    refine hsame (h.setCall (s.push _ _ _ _) hd hne rfl (nearly_setBox h.nearly ?_)) rfl
    rintro rfl
    exact Takes.nearly hs hne h.nearly
  | @abandons j _ d _ hd =>
    exact hsame (h.leave hd (fun hij => habandon (by rw [hij])) _) (hleave _ _ _)
  | @drops j d hd => exact hsame (h.leave hd (fun hij => hdrop (by rw [hij])) _) (hleave _ _ _)
  | @receives l r message box hr hopen hs =>
    by_cases hl : k = l
    · subst hl
      refine ⟨h.call, h.channel, ?_⟩
      show ((s.setBox k box).boxes k).Nearly i _
      rw [setBox_boxes, if_pos rfl, receivedFrom_receive, if_pos rfl, List.length_append,
        List.length_singleton, Nat.add_sub_cancel_left]
      exact (h.nearly.mono (by omega)).recv hs
    · refine ⟨h.call, h.channel, ?_⟩
      show ((s.setBox l box).boxes k).Nearly i _
      rw [setBox_boxes, if_neg hl, receivedFrom_receive, if_neg hl, Nat.sub_self, Nat.sub_zero]
      exact h.nearly
  | @exits l r hr =>
    have hne : l ≠ k := fun hlk => hexit (by rw [hlk])
    refine hsame ⟨h.call, h.channel, nearly_setBox h.nearly fun hlk => absurd hlk hne⟩ rfl
  | enters | shutsDown | binds | clears | closes | registers => exact hsame ⟨h.call, h.channel, h.nearly⟩ rfl

theorem Sent.setCall (h : s.Sent i) (s' : Messaging) {j : Nat} {d d' : SendingCall}
    (hd : s.calls[j]? = some d) (hne : d.ended = false) (hcalls : s'.calls = s.calls) : (s'.setCall j d').Sent i := by
  obtain ⟨c, hc, hp⟩ := h
  refine ⟨c, ?_, hp⟩
  rw [setCall_calls (hcalls ▸ hd), if_neg, hcalls, hc]
  rintro rfl
  cases hc.symm.trans hd
  simp [ended, hp] at hne

theorem Sent.leave (h : s.Sent i) {j : Nat} {d : SendingCall} (hd : s.calls[j]? = some d)
    (hne : d.ended = false) (phase : CallPhase) : (s.leave j d phase).Sent i := by
  unfold Messaging.leave
  split
  · exact h.setCall (s.setBox _ _) hd hne rfl
  · exact h.setCall s hd hne rfl

theorem Sent.effect (h : s.Sent i) (he : Effect s a s') : s'.Sent i := by
  cases he with
  | called =>
    obtain ⟨c, hc, hp⟩ := h
    obtain ⟨hlt, -⟩ := List.getElem?_eq_some_iff.1 hc
    exact ⟨c, by rw [List.getElem?_append_left hlt, hc], hp⟩
  | goesOn seen hd hcar => exact h.setCall s hd hcar.not_ended rfl
  | pushes hd hp => exact h.setCall (s.push _ _ _ _) hd (Carries.sending hp).not_ended rfl
  | abandons hd ho hr hs hne => exact h.leave hd hne _
  | drops hd hne => exact h.leave hd hne _
  | _ => exact h

theorem Effect.receivedFrom (he : Effect s a s') (k : Nat) :
    (s.receivedFrom k).length ≤ (s'.receivedFrom k).length := by
  cases he with
  | @receives l r message box hr hopen hs =>
    rw [receivedFrom_receive]
    split
    · rename_i hk
      rw [hk, List.length_append]
      exact Nat.le_add_right _ _
    · exact Nat.le_refl _
  | abandons | drops =>
    refine Nat.le_of_eq ?_
    unfold Messaging.leave
    split <;> rfl
  | _ => exact Nat.le_refl _

theorem Effect.poll_received (he : Effect s (.poll i) s') : s'.received = s.received := by
  generalize ha : Act.poll i = a at he
  cases he with
  | receives => cases ha
  | abandons | drops => cases ha
  | _ => rfl

theorem Awaiting.delivers (h : Awaiting s i k 0 c) (hseated : s.Seated) :
    ∃ s', s.step (.poll i) = some s' ∧ s'.Sent i := by
  have hopen := h.isOpen hseated
  have hchannel := h.channel
  unfold SendingCall.channel at hchannel
  split at hchannel
  · rename_i m envelope hp
    cases hchannel
    have hs : s.step (.poll i) = some (s.pollChannel i c m envelope) := by
      simp only [step, h.call, Option.bind_some, Messaging.poll, hp]
    refine ⟨_, hs, ?_⟩
    unfold pollChannel
    rw [if_pos (h.awaits hseated), Mpsc.pollSend, hopen, if_neg Bool.false_ne_true,
      if_pos h.nearly.granted]
    refine ⟨{ c with phase := .running (.returned (.ok ())) }, ?_, rfl⟩
    simp only [answered_ok]
    rw [setCall_calls (s := s.push _ _ _ _) h.call, if_pos rfl]
  · cases hchannel

/-- While its future is kept and the actor keeps its mailbox, a call that waits for capacity delivers as soon
as it is polled after `n` messages have been received, where it was among the first `n` in line: no sender
overtakes it, and none waits for good. -/
theorem run_served {capacity : Nat → Nat} {as as' : List Act} (hrun : AnyRun step (new capacity) as s)
    (h : Awaiting s i k n c)
    (hrun' : Run step (fun _ a => a ≠ .abandon i ∧ a ≠ .drop i ∧ a ≠ .exit k) s as' s')
    (hn : (s.receivedFrom k).length + n ≤ (s'.receivedFrom k).length) :
    s'.Sent i ∨ ∃ s'', s'.step (.poll i) = some s'' ∧ s''.Sent i := by
  have hseated (as : List Act) (s₁ : Messaging) (hr : Run step
      (fun _ a => a ≠ .abandon i ∧ a ≠ .drop i ∧ a ≠ .exit k) s as s₁) : s₁.Seated :=
    run_seated (hrun.trans hr.any) (new_seated capacity)
  have hinv : s'.Sent i ∨ (s.receivedFrom k).length ≤ (s'.receivedFrom k).length ∧
      Awaiting s' i k (n - ((s'.receivedFrom k).length - (s.receivedFrom k).length)) c := by
    refine hrun'.invariant_of (J := Seated) (I := fun s₁ => s₁.Sent i ∨
      (s.receivedFrom k).length ≤ (s₁.receivedFrom k).length ∧
        Awaiting s₁ i k (n - ((s₁.receivedFrom k).length - (s.receivedFrom k).length)) c) hseated ?_ ?_
    · refine .inr ⟨Nat.le_refl _, ?_⟩
      rwa [Nat.sub_self, Nat.sub_zero]
    · intro s₁ a s₂ hJ hI hok hs
      have he := step_effect hs
      have hle := he.receivedFrom k
      rcases hI with hsent | ⟨hle', hw⟩
      · exact .inl (hsent.effect he)
      · by_cases hpoll : a = .poll i
        · subst hpoll
          rcases hw.poll hJ he with hsent | hw'
          · exact .inl hsent
          · have hsame : s₂.receivedFrom k = s₁.receivedFrom k := by
              rw [receivedFrom, he.poll_received, receivedFrom]
            rw [hsame]
            exact .inr ⟨hle', hw'⟩
        · obtain ⟨habandon, hdrop, hexit⟩ := hok
          have hw' := hw.effect he hpoll habandon hdrop hexit
          refine .inr ⟨hle'.trans hle, ⟨hw'.call, hw'.channel, hw'.nearly.mono ?_⟩⟩
          omega
  rcases hinv with hsent | ⟨hle, hw⟩
  · exact .inl hsent
  · right
    rw [Nat.sub_eq_zero_of_le (by omega)] at hw
    exact hw.delivers (hseated _ _ hrun')

theorem run_served_full :
    ∃ s : Messaging, (s.Sent 1 ∨ ∃ s', s.step (.poll 1) = some s' ∧ s'.Sent 1) ∧ (s.boxes 0).granted = [1] := by
  have hex : ∃ s, AnyRun step (new fun _ => 1) fullMailbox s ∧
      (s.calls[1]?.map (·.channel), (s.boxes 0).waiting, (s.receivedFrom 0).length) = (some (some 0), [1], 0) :=
    anyRun_of_exec (f := fun s : Messaging =>
      (s.calls[1]?.map (·.channel), (s.boxes 0).waiting, (s.receivedFrom 0).length)) (by decide +kernel)
  obtain ⟨s, hrun, hs⟩ := hex
  simp only [Prod.mk.injEq, Option.map_eq_some_iff] at hs
  obtain ⟨⟨c, hc, hchannel⟩, hwaiting, hlen⟩ := hs
  have hnext : (s.step (.recv 0)).map (fun s => ((s.receivedFrom 0).length, (s.boxes 0).granted)) =
      some (1, [1]) := by
    have hall : ((exec step (new fun _ => 1) fullMailbox).bind fun s => s.step (.recv 0)).map
        (fun s => ((s.receivedFrom 0).length, (s.boxes 0).granted)) = some (1, [1]) := by decide +kernel
    rwa [anyRun_iff_exec.1 hrun, Option.bind_some] at hall
  obtain ⟨s', hstep, hs'⟩ := Option.map_eq_some_iff.1 hnext
  simp only [Prod.mk.injEq] at hs'
  have hawaiting : Awaiting s 1 0 1 c := ⟨hc, hchannel, .inr (by rw [hwaiting]; exact List.mem_singleton_self 1)⟩
  exact ⟨s', run_served hrun hawaiting (.single (by simp) hstep) (by rw [hlen, hs'.1]), hs'.2⟩

end Messaging
end TokioSupervisor
