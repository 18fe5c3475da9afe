import TokioSupervisor.Runtime.Errors

/-!
# Isolation of children

Under `Strategy::OneForOne`, and without a shutdown, a child is cancelled, aborted or deleted only for
a call of `remove_child` that resolved its id to that very child. `await_child_removal` only keeps a
slab key across its wait, so when the key was freed and reused meanwhile its timeout falls on the new
child (`foreign_abort_reached`); `ownsSlot` says that the key still belongs to the child the removal is
for.
-/

namespace TokioSupervisor
open Lib SupervisorRuntime

/-! ### Isolated traces -/

/-- The action ends instance `i`, or its task. -/
def Action.Ends (i : Nat) : Action → Prop
  | .tokenCancelled j | .aborted j | .deleted _ j => j = i
  | _ => False

/-- Some call of `remove_child` has resolved its id to instance `i`. -/
def Requested (trace : List Action) (i : Nat) : Prop := ∃ reply, .removalRequested reply i ∈ trace

/-- Nothing ends an instance before its removal was requested, and nothing ends the whole group. -/
def Isolated : List Action → Prop
  | [] => True
  | b :: trace => b ≠ .groupCancelled ∧ (∀ i, b.Ends i → Requested trace i) ∧ Isolated trace

theorem Requested.append {l trace : List Action} {i : Nat} (h : Requested trace i) :
    Requested (l ++ trace) i := by
  obtain ⟨reply, hr⟩ := h
  exact ⟨reply, List.mem_append_right l hr⟩

theorem Grown.requested {P : Action → Prop} {old new : List Action} {i : Nat} (h : Grown P old new)
    (hr : Requested old i) : Requested new i := by
  obtain ⟨l, rfl, -⟩ := h
  exact hr.append

theorem Isolated.append {l trace : List Action} (h : Isolated trace)
    (hl : ∀ b ∈ l, b ≠ .groupCancelled ∧ ∀ i, b.Ends i → Requested trace i) :
    Isolated (l ++ trace) := by
  induction l with
  | nil => exact h
  | cons b l ih =>
    obtain ⟨hg, hb⟩ := hl b List.mem_cons_self
    exact ⟨hg, fun i hi => (hb i hi).append, ih fun b hb => hl b (List.mem_cons_of_mem _ hb)⟩

theorem Isolated.grown {P : Action → Prop} {old new : List Action} (h : Isolated old)
    (hg : Grown P old new) (hP : ∀ b, P b → b ≠ .groupCancelled ∧ ∀ i, b.Ends i → Requested old i) :
    Isolated new := by
  obtain ⟨l, rfl, hl⟩ := hg
  exact h.append fun b hb => hP b (hl b hb)

theorem Isolated.requested {trace : List Action} (h : Isolated trace) {b : Action} (hb : b ∈ trace)
    {i : Nat} (hi : b.Ends i) : Requested trace i := by
  induction trace with
  | nil => cases hb
  | cons b' trace ih =>
    obtain ⟨-, hreq, hrest⟩ := h
    rcases List.mem_cons.1 hb with rfl | hb
    · exact (hreq i hi).append (l := [b])
    · exact (ih hrest hb).append (l := [b'])

/-! ### Suspended removals -/

/-- The locals of a call of `await_child_removal`, suspended with this frame. -/
def Frame.removal {callee caller : Fn} : Frame callee caller → Option Removal
  | .removalShutdown l | .removalJoin l => some l
  | _ => none

def Await.removal {fn : Fn} : Await fn → Option Removal
  | .removalSelect l => some l
  | _ => none

/-- A call of `await_child_removal` with the locals `l` is suspended. -/
def Stack.Removing (l : Removal) : {fn : Fn} → Stack fn → Prop
  | _, .nil => False
  | _, .push f k => f.removal = some l ∨ k.Removing l

def Ctrl.Removing (l : Removal) : Ctrl → Prop
  | .await p k => p.removal = some l ∨ k.Removing l
  | .ret k _ => k.Removing l
  | _ => False

section
variable {l : Removal}

@[simp] theorem Stack.removing_nil : ¬ Stack.nil.Removing l := id

@[simp] theorem Stack.removing_push {callee caller : Fn} {f : Frame callee caller} {k : Stack caller} :
    (Stack.push f k).Removing l ↔ f.removal = some l ∨ k.Removing l := Iff.rfl

@[simp] theorem Ctrl.removing_await {fn : Fn} {p : Await fn} {k : Stack fn} :
    (Ctrl.await p k).Removing l ↔ p.removal = some l ∨ k.Removing l := Iff.rfl

@[simp] theorem Ctrl.removing_ret {fn : Fn} {k : Stack fn} {v : fn.Value} :
    (Ctrl.ret k v).Removing l ↔ k.Removing l := Iff.rfl

@[simp] theorem Ctrl.removing_finished {r : Except SupervisorError SupervisorExit} :
    ¬ (Ctrl.finished r).Removing l := id

@[simp] theorem Ctrl.removing_panicked {p : Panic} : ¬ (Ctrl.panicked p).Removing l := id

/-- The frame is of the call of `await_child_removal` with the locals `l` and the caller `k₀`. -/
def Frame.RemovingFor (l : Removal) : {callee caller : Fn} → Frame callee caller → Stack caller →
    Stack .awaitChildRemoval → Prop
  | _, _, .removalShutdown l', k, k₀ | _, _, .removalJoin l', k, k₀ => l' = l ∧ k = k₀
  | _, _, _, _, _ => False

def Await.RemovingFor (l : Removal) : {fn : Fn} → Await fn → Stack fn → Stack .awaitChildRemoval → Prop
  | _, .removalSelect l', k, k₀ => l' = l ∧ k = k₀
  | _, _, _, _ => False

/-- The call of `await_child_removal` with the locals `l` and the caller `k₀` is suspended. -/
def Stack.RemovingFor (l : Removal) : {fn : Fn} → Stack fn → Stack .awaitChildRemoval → Prop
  | _, .nil, _ => False
  | _, .push f k, k₀ => f.RemovingFor l k k₀ ∨ k.RemovingFor l k₀

def Ctrl.RemovingFor (l : Removal) (k₀ : Stack .awaitChildRemoval) : Ctrl → Prop
  | .await p k => p.RemovingFor l k k₀ ∨ k.RemovingFor l k₀
  | .ret k _ => k.RemovingFor l k₀
  | _ => False

section
variable {k₀ : Stack .awaitChildRemoval}

@[simp] theorem Stack.removingFor_push {callee caller : Fn} {f : Frame callee caller} {k : Stack caller} :
    (Stack.push f k).RemovingFor l k₀ ↔ f.RemovingFor l k k₀ ∨ k.RemovingFor l k₀ := Iff.rfl

@[simp] theorem Ctrl.removingFor_await {fn : Fn} {p : Await fn} {k : Stack fn} :
    (Ctrl.await p k).RemovingFor l k₀ ↔ p.RemovingFor l k k₀ ∨ k.RemovingFor l k₀ := Iff.rfl

@[simp] theorem Ctrl.removingFor_ret {fn : Fn} {k : Stack fn} {v : fn.Value} :
    (Ctrl.ret k v).RemovingFor l k₀ ↔ k.RemovingFor l k₀ := Iff.rfl

@[simp] theorem Ctrl.removingFor_finished {r : Except SupervisorError SupervisorExit} :
    ¬ (Ctrl.finished r).RemovingFor l k₀ := id

@[simp] theorem Ctrl.removingFor_panicked {p : Panic} : ¬ (Ctrl.panicked p).RemovingFor l k₀ := id

theorem Stack.removing_iff {fn : Fn} {k : Stack fn} : k.Removing l ↔ ∃ k₀, k.RemovingFor l k₀ := by
  induction k with
  | nil => simp [Stack.RemovingFor]
  | push f k ih =>
    simp only [Stack.removing_push, Stack.removingFor_push, exists_or, ih]
    refine or_congr_left ?_
    cases f <;> simp [Frame.removal, Frame.RemovingFor]

theorem Ctrl.removing_iff {ctrl : Ctrl} : ctrl.Removing l ↔ ∃ k₀, ctrl.RemovingFor l k₀ := by
  cases ctrl with
  | await p k =>
    simp only [Ctrl.removing_await, Ctrl.removingFor_await, exists_or, Stack.removing_iff]
    refine or_congr_left ?_
    cases p <;> simp [Await.removal, Await.RemovingFor]
  | ret k v => exact Stack.removing_iff
  | _ => simp

theorem RemovalHead.removingFor {rt : SupervisorRuntime} {l' : Removal} {k : Stack .awaitChildRemoval}
    {ctrl : Ctrl} (h : RemovalHead rt l' k ctrl) (hr : ctrl.RemovingFor l k₀) :
    (l' = l ∧ k = k₀) ∨ k.RemovingFor l k₀ := by
  cases h <;> simp_all [Await.RemovingFor]

theorem LoopHead.removingFor {rt rt' : SupervisorRuntime} {ctrl : Ctrl} (h : LoopHead rt rt' ctrl) :
    ¬ ctrl.RemovingFor l k₀ := by
  cases h <;> simp [Await.RemovingFor, Stack.RemovingFor]

theorem DrainNext.removingFor {rt rt' : SupervisorRuntime} {reason : DrainReason}
    {k : Stack (.drainChildren reason)} {ctrl : Ctrl} (h : DrainNext rt reason k rt' ctrl)
    (hr : ctrl.RemovingFor l k₀) : k.RemovingFor l k₀ := by
  cases h <;> simpa [Await.RemovingFor] using hr

theorem Move.removingFor {rt : SupervisorRuntime} {ctrl ctrl' : Ctrl} {a : Act} (h : Move rt ctrl a ctrl')
    (hr : ctrl'.RemovingFor l k₀) : ctrl.RemovingFor l k₀ := by
  cases h with
  | removalShutdownOk hh | removalJoinOk hh => exact hh.removingFor hr
  | _ => simp_all [Frame.RemovingFor, Await.RemovingFor]

end

/-- A call of `remove_child` begins to wait for its child. -/
inductive BeginsRemoval (rt : SupervisorRuntime) (ctrl : Ctrl) (l : Removal) :
    Act → SupervisorRuntime → Ctrl → Prop
  | intro {k : Stack .handleCommand} {key : ChildKey} {reply : Nat} {rest : List SupervisorCommand}
      {e : ChildEntry} (hh : HandlesCommand ctrl k)
      (hq : rt.commandRx.queue = .removeChild e.id reply :: rest)
      (he : rt.children.get l.key = some e) (hm : e.membership = .active)
      (hs : e.runtime.state ≠ .stopped) (hr : rt.removeRefusal e.id = none) (hid : l.childId = e.id)
      (ht : l.target = e.instanceId) :
      BeginsRemoval rt ctrl l (.run (.command key))
        ((((rt.received rest).log (.handled reply)).requested reply l.key e).cancelledChild e.requested)
        (.await (.removalSelect l) (.push .removeAwait (.push (.commandReply reply) k)))

theorem BeginsRemoval.requested {rt rt' : SupervisorRuntime} {ctrl ctrl' : Ctrl} {a : Act}
    (h : BeginsRemoval rt ctrl l a rt' ctrl') : Requested rt'.trace l.target := by
  cases h with
  | @intro _ _ reply _ e _ _ _ _ _ _ _ ht =>
    refine (cancelledChild_grown (P := fun _ => True) _ (.refl _ _) trivial).requested ?_
    rw [ht]
    exact ⟨reply, List.mem_cons_of_mem _ List.mem_cons_self⟩

theorem Rule.removingFor {rt rt' : SupervisorRuntime} {ctrl ctrl' : Ctrl} {a : Act}
    {k₀ : Stack .awaitChildRemoval} (h : Rule rt ctrl a rt' ctrl') (hr : ctrl'.RemovingFor l k₀) :
    ctrl.RemovingFor l k₀ ∨
      BeginsRemoval rt ctrl l a rt' ctrl' ∧ ctrl' = .await (.removalSelect l) k₀ := by
  cases h with
  | env _ => exact .inl hr
  | move h => exact .inl (h.removingFor hr)
  | start hl => exact absurd hr hl.removingFor
  | loop _ hl => exact absurd hr hl.removingFor
  | shutdown hb _ _ => cases hb <;> simp_all [Frame.RemovingFor, Await.RemovingFor]
  | command hk _ hq ho =>
    cases ho with
    | @removeWait reply target e deadline timeoutIsError he hm hs hr₀ =>
      rcases hr with ⟨rfl, rfl⟩ | hr
      · exact .inr ⟨.intro hk hq he hm hs hr₀ rfl rfl, rfl⟩
      · cases hk <;> simp_all [Frame.RemovingFor]
    | _ => cases hk <;> simp_all [Frame.RemovingFor, Await.RemovingFor]
  | join hk _ ho => cases hk <;> cases ho <;> simp_all [Frame.RemovingFor, Await.RemovingFor]
  | drainJoin _ _ hn => exact .inl (.inr (hn.removingFor hr))
  | drainNext hd hn => cases hd <;> simp_all [hn.removingFor, Frame.RemovingFor, Await.RemovingFor]
  | removalSeen hh => exact .inl (by simpa [Await.RemovingFor] using hh.removingFor hr)
  | _ => simp_all [Frame.RemovingFor, Await.RemovingFor]

theorem Rule.removing_from {rt rt' : SupervisorRuntime} {ctrl ctrl' : Ctrl} {a : Act}
    (h : Rule rt ctrl a rt' ctrl') (hr : ctrl'.Removing l) :
    ctrl.Removing l ∨ BeginsRemoval rt ctrl l a rt' ctrl' := by
  obtain ⟨k₀, hr⟩ := Ctrl.removing_iff.1 hr
  rcases h.removingFor hr with hr | ⟨hbegins, -⟩
  · exact .inl (Ctrl.removing_iff.2 ⟨k₀, hr⟩)
  · exact .inr hbegins

/-- A removal that waits was requested for its target. -/
theorem Rule.removing {rt rt' : SupervisorRuntime} {ctrl ctrl' : Ctrl} {a : Act}
    (h : Rule rt ctrl a rt' ctrl') (hr : ctrl'.Removing l) :
    ctrl.Removing l ∨ Requested rt'.trace l.target :=
  (h.removing_from hr).imp_right BeginsRemoval.requested

end

/-! ### Detachments -/

/-- The key of the child that is being aborted and detached. -/
def Ctrl.detachKey : Ctrl → Option ChildKey
  | .await (.detachYield key _) _ | .await (.readyJoins _) (.push (.detachDrain key _) _)
  | .ret (.push (.detachDrain key _) _) _ => some key
  | _ => none

/-- Nothing is spawned, and what was sent an abort stays so. -/
def SupervisorRuntime.KeepsAborts (rt rt' : SupervisorRuntime) : Prop :=
  ∀ t ∈ rt'.joinSet.tasks, ∃ u ∈ rt.joinSet.tasks, t.id = u.id ∧
    (u.abortRequested = true → t.abortRequested = true)

theorem SupervisorRuntime.KeepsAborts.of_joinSet {rt rt' : SupervisorRuntime}
    (h : rt'.joinSet = rt.joinSet) : KeepsAborts rt rt' :=
  fun t ht => ⟨t, h ▸ ht, rfl, fun ha => ha⟩

theorem EnvFrame.keepsAborts {rt rt' : SupervisorRuntime} (h : EnvFrame rt rt') :
    rt.KeepsAborts rt' := by
  obtain ⟨f, hf, hsame⟩ := h.tasks
  intro t ht
  rw [hf] at ht
  obtain ⟨u, hu, rfl⟩ := List.mem_map.1 ht
  exact ⟨u, hu, (hsame u).1, fun ha => (hsame u).2.2.trans ha⟩

theorem DrainedJoin.keepsAborts {rt rt' : SupervisorRuntime} {t : Task} {outcome : TaskOutcome}
    {reason : DrainReason} (h : DrainedJoin rt t outcome reason rt') : rt.KeepsAborts rt' := by
  intro u hu
  cases h <;> exact ⟨u, List.mem_of_mem_filter hu, rfl, fun ha => ha⟩

/-- The child that is there later on is the one that was there, with its task or with none. -/
structure ChildEntry.StaysAs (e e' : ChildEntry) : Prop where
  instanceId : e'.instanceId = e.instanceId
  handle : e'.runtime.abortHandle = none ∨ e'.runtime.abortHandle = e.runtime.abortHandle

/-- Where a detachment comes from: it goes on with the same child at its key, or it begins. -/
inductive DetachStep (c : Config) (a : Act) (c' : Config) (key : ChildKey) : Prop
  | goesOn (hc : c.ctrl.detachKey = some key) (hsame : ∀ e', c'.rt.children.get key = some e' →
      ∃ e, c.rt.children.get key = some e ∧ e.StaysAs e') (hkeeps : c.rt.KeepsAborts c'.rt)
  | removal {rt₁ : SupervisorRuntime} {e : ChildEntry} (he : rt₁.children.get key = some e)
      (hrt : c'.rt = rt₁.abortedChild e) (hr : Requested c'.rt.trace e.instanceId)
  | timer {l : Removal} {k : Stack .awaitChildRemoval} {e : ChildEntry}
      (hc : c.ctrl = .await (.removalSelect l) k) (ha : a = .run .timer) (hl : l.key = key)
      (he : c.rt.children.get key = some e) (hrt : c'.rt = c.rt.abortedChild e)

theorem DrainedJoin.staysAs {rt rt' : SupervisorRuntime} {t : Task} {outcome : TaskOutcome}
    {reason : DrainReason} (h : DrainedJoin rt t outcome reason rt') {key : ChildKey} {e' : ChildEntry}
    (he' : rt'.children.get key = some e') :
    ∃ e, rt.children.get key = some e ∧ e.StaysAs e' := by
  have hset {e f : ChildEntry} (hc : rt.Current t.info e) (hf : e.StaysAs f)
      (hg : (rt.children.set t.info.key f).get key = some e') :
      ∃ e, rt.children.get key = some e ∧ e.StaysAs e' := by
    rw [Slab.get_set hc.get] at hg
    split at hg
    · rename_i hk; subst hk; cases hg; exact ⟨e, hc.get, hf⟩
    · exact ⟨e', hg, rfl, .inr rfl⟩
  cases h with
  | stale hn => exact ⟨e', he', rfl, .inr rfl⟩
  | @exited e hc _ => exact hset (f := e.stopped outcome.status) hc ⟨rfl, .inl rfl⟩ he'
  | @temporary e hc _ _ =>
    refine hset hc (f := (e.stopped outcome.status).terminated t.info.generation
      outcome.status.isFailure) ⟨by simp [ChildEntry.stopped], .inl (by simp [ChildEntry.stopped])⟩ ?_
    rw [← Slab.set_set (a := e.stopped outcome.status)]
    exact he'

theorem Ctrl.detachKey_ret {fn : Fn} {k : Stack fn} {v : fn.Value} {key : ChildKey}
    (h : (Ctrl.ret k v).detachKey = some key) : ∃ reason, fn = .drainReadyJoins reason := by
  cases k with
  | nil => cases h
  | push f k => cases f <;> first | exact ⟨_, rfl⟩ | cases h

theorem LoopHead.detachKey {rt rt' : SupervisorRuntime} {ctrl : Ctrl} (h : LoopHead rt rt' ctrl) :
    ctrl.detachKey = none := by
  cases h <;> rfl

theorem Move.detachKey {rt : SupervisorRuntime} {ctrl ctrl' : Ctrl} {a : Act} {key : ChildKey}
    (h : Move rt ctrl a ctrl') (hk : ctrl'.detachKey = some key) : ctrl.detachKey = some key := by
  cases h with
  | detachYield => exact hk
  | @readyEmpty reason k | @readyTimer reason k =>
    cases k with
    | push f k => cases f <;> exact hk
  | removalShutdownOk hr | removalJoinOk hr =>
    cases hr with
    | gone => obtain ⟨_, h⟩ := Ctrl.detachKey_ret hk; cases h
    | wait => cases hk
  | delayCheck | delayYield | zeroLoop | delayLoop | drainYield | drainAbortYield => cases hk
  | _ => obtain ⟨_, h⟩ := Ctrl.detachKey_ret hk; cases h

theorem CommandOutcome.detachKey {rt rt' : SupervisorRuntime} {key target : ChildKey}
    {k : Stack .handleCommand} {cmd : SupervisorCommand} {ctrl' : Ctrl}
    (h : CommandOutcome rt key k cmd rt' ctrl') (hk : ctrl'.detachKey = some target) :
    ∃ e reply, cmd = .removeChild e.id reply ∧
      rt' = ((rt.log (.handled reply)).requested reply target e).abortedChild e.requested ∧
      rt.children.get target = some e := by
  cases h with
  | removeAbort he _ _ _ => cases hk; exact ⟨_, _, rfl, rfl, he⟩
  | removeWait _ _ _ _ => cases hk
  | _ => obtain ⟨_, h⟩ := Ctrl.detachKey_ret hk; cases h

theorem JoinOutcome.detachKey {rt rt' : SupervisorRuntime} {t : Task} {outcome : TaskOutcome}
    {k : Stack .handleJoinedChild} {ctrl' : Ctrl} (h : JoinOutcome rt t outcome k rt' ctrl') :
    ctrl'.detachKey = none := by
  cases hk : ctrl'.detachKey with
  | none => rfl
  | some key =>
    cases h with
    | scheduledOne | scheduledAll => rename_i hp; cases hp <;> cases hk
    | _ => obtain ⟨_, h⟩ := Ctrl.detachKey_ret hk; cases h

theorem DrainNext.detachKey {rt rt' : SupervisorRuntime} {reason : DrainReason}
    {k : Stack (.drainChildren reason)} {ctrl : Ctrl} (h : DrainNext rt reason k rt' ctrl) :
    ctrl.detachKey = none := by
  cases hk : ctrl.detachKey with
  | none => rfl
  | some key =>
    cases h with
    | select | abort => cases hk
    | _ => obtain ⟨_, h⟩ := Ctrl.detachKey_ret hk; cases h

theorem Rule.detachStep {rt rt' : SupervisorRuntime} {ctrl ctrl' : Ctrl} {a : Act} {key : ChildKey}
    (h : Rule rt ctrl a rt' ctrl') (hk : ctrl'.detachKey = some key) :
    DetachStep ⟨rt, ctrl⟩ a ⟨rt', ctrl'⟩ key := by
  have hret {fn : Fn} {k : Stack fn} {v : fn.Value} (hc : (Ctrl.ret k v).detachKey = some key)
      (hfn : ∀ reason, fn ≠ .drainReadyJoins reason) : DetachStep ⟨rt, ctrl⟩ a ⟨rt', ctrl'⟩ key := by
    obtain ⟨reason, h⟩ := Ctrl.detachKey_ret hc
    exact absurd h (hfn reason)
  have hnone (hc : ctrl'.detachKey = none) : DetachStep ⟨rt, ctrl⟩ a ⟨rt', ctrl'⟩ key := by
    rw [hc] at hk
    cases hk
  cases h with
  | env h =>
    exact .goesOn hk (fun e' he' => ⟨e', (envStep_frame h).children ▸ he', rfl, .inr rfl⟩)
      (envStep_frame h).keepsAborts
  | move h => exact .goesOn (h.detachKey hk) (fun e' he' => ⟨e', he', rfl, .inr rfl⟩) (.of_joinSet rfl)
  | start hl => exact hnone hl.detachKey
  | loop _ hl => exact hnone hl.detachKey
  | @command _ _ _ _ _ rest _ _ _ _ ho =>
    obtain ⟨e, reply, rfl, rfl, he⟩ := ho.detachKey hk
    refine .removal (@requested_get ((rt.received rest).log (.handled reply)) reply key e he) rfl ?_
    refine (abortedChild_grown (P := fun _ => True) _ (.refl _ _) trivial).requested ?_
    exact ⟨reply, List.mem_cons_of_mem _ List.mem_cons_self⟩
  | join _ _ ho => exact hnone ho.detachKey
  | readyJoin hf hd => exact .goesOn hk (fun e' he' => hd.staysAs he') hd.keepsAborts
  | drainJoin _ _ hn => exact hnone hn.detachKey
  | drainNext _ hn => exact hnone hn.detachKey
  | removalSeen hr => cases hr with
    | gone => exact hret hk nofun
    | wait => cases hk
  | removalTimer he => cases hk; exact .timer rfl rfl rfl he rfl
  | queued | shutdownDrained | replied | respawn | groupRespawn | tryRecvClosed | delayClosedPending
  | detachGone | detach => exact hret hk nofun
  | _ => cases hk

/-! ### Runs -/

/-- When the grace of a removal is over, its key still belongs to the child it is for. -/
def ownsSlot (c : Config) (a : Act) : Bool :=
  match c.ctrl, a with
  | .await (.removalSelect l) _, .run .timer =>
    (c.rt.children.get l.key).all fun e => e.instanceId == l.target
  | _, _ => true

/-- Everything that is about to end was requested to. -/
structure Config.Isolating (c : Config) : Prop where
  quiet : c.rt.shutdownRx.value = false ∧ c.rt.shutdownRx.closed = false
  state : c.rt.state = .running ∨ c.ctrl.ended = true
  removing : ∀ key e, c.rt.children.get key = some e → e.membership = .removing →
    Requested c.rt.trace e.instanceId
  waiting : ∀ l, c.ctrl.Removing l → Requested c.rt.trace l.target
  detaching : ∀ key e, c.ctrl.detachKey = some key → c.rt.children.get key = some e →
    Requested c.rt.trace e.instanceId
  isolated : Isolated c.rt.trace

/-- No child is stopped for the sake of the group. -/
theorem Config.Isolating.no_drain {c : Config} (h : c.Isolating) (hs : c.ctrl.Suits .oneForOne)
    (hh : ¬ c.ctrl.Halts) (a : Act) : ¬ DrainCause c a := by
  have hstack {reason : DrainReason} (k : Stack (.drainChildren reason)) (hk : k.Suits .oneForOne)
      (hn : ¬ k.Halts) : False := by
    cases k with
    | push f k => cases f with
      | shutdownDrain => exact hn (.inl rfl)
      | groupDrain => exact absurd (hk.1 _ rfl) nofun
  rintro (⟨-, hq⟩ | hc | hc | hd)
  · rw [h.quiet.1, h.quiet.2] at hq
    simp at hq
  · rw [hc] at hs
    exact absurd (hs.1 _ rfl) nofun
  · rw [hc] at hs hh
    exact hstack _ hs hh
  · generalize c.ctrl = ctrl at hs hh hd
    cases hd with
    | empty | timer => exact hstack _ hs hh
    | first | second =>
      simp only [Ctrl.suits_ret, Stack.suits_push, Ctrl.halts_ret, Stack.halts_push, not_or] at hs hh
      exact hstack _ hs.2 hh.1.2

theorem Update.removing {c c' : Config} {a : Act} {rt rt' : SupervisorRuntime}
    (h : Update c a c' rt rt') (hwf : rt.Wf)
    (hI : ∀ key e, rt.children.get key = some e → e.membership = .removing →
      Requested rt.trace e.instanceId) {key : ChildKey} {e' : ChildEntry}
    (he' : rt'.children.get key = some e') (hm : e'.membership = .removing) :
    Requested rt'.trace e'.instanceId := by
  have hold := fun i => (h.logs hwf).requested (i := i)
  rcases h.entry_from hwf he' with ⟨e, he, hev⟩ | ⟨child, token, nested, task, rfl⟩
  · cases hev with
    | same hs => rw [hs.instanceId]; exact hold _ (hI key e he (hs.membership ▸ hm))
    | terminated g hl hs => simpa using hold _ (hI key e he (by simpa using hm))
    | requested _ hr _ _ _ => exact ⟨_, hr⟩
    | stopped | started => exact hold _ (hI key e he hm)
    | stopping =>
      unfold ChildEntry.stopping at hm ⊢
      split at hm
      · rename_i hc; rw [if_pos hc]; exact hold _ (hI key e he hm)
      · rename_i hc; rw [if_neg hc]; exact hold _ (hI key e he hm)
  · cases hm

theorem Action.ends_of_plain {b : Action} (hb : b.plain = true ∨ b.life = true) :
    b ≠ .groupCancelled ∧ ∀ i, ¬ b.Ends i := by
  cases b <;> simp_all [Action.plain, Action.life, Action.Ends]

/-- What an update ends was requested to, where nothing drains and the removal that times out has its
own child. -/
theorem Update.isolated {c c' : Config} {a : Act} {rt rt' : SupervisorRuntime}
    (h : Update c a c' rt rt') (hwf : rt.Wf) (hd : ¬ DrainCause c a)
    (htimer : ∀ l k e, c.ctrl = .await (.removalSelect l) k → a = .run .timer →
      c.rt.children.get l.key = some e → Requested rt.trace e.instanceId)
    (hdetach : ∀ key e, c.ctrl.detachKey = some key → c.rt.children.get key = some e →
      Requested rt.trace e.instanceId)
    (hI : ∀ key e, rt.children.get key = some e → e.membership = .removing →
      Requested rt.trace e.instanceId) (hiso : Isolated rt.trace) : Isolated rt'.trace := by
  by_cases hrem : ∃ reply key e, rt' = (rt.requested reply key e).finalized key e.requested
  · obtain ⟨reply, key, e, rfl⟩ := hrem
    have hreq : Isolated (rt.requested reply key e).trace :=
      hiso.grown (requested_grown (P := fun b => b ≠ .groupCancelled ∧ ∀ i, ¬ b.Ends i) reply key e
        (.refl _ _) ⟨nofun, nofun⟩ ⟨nofun, nofun⟩ ⟨nofun, nofun⟩)
        fun b hb => ⟨hb.1, fun i hi => absurd hi (hb.2 i)⟩
    refine ⟨nofun, nofun, nofun, fun i hi => ?_, hreq⟩
    cases hi
    exact ⟨reply, List.mem_cons_of_mem _ List.mem_cons_self⟩
  · refine hiso.grown (h.logs hwf) fun b hl => ?_
    have hnone (hb : b.plain = true ∨ b.life = true) :
        b ≠ .groupCancelled ∧ ∀ i, b.Ends i → Requested rt.trace i :=
      ⟨(Action.ends_of_plain hb).1, fun i hi => absurd hi ((Action.ends_of_plain hb).2 i)⟩
    cases hl with
    | plain hb => exact hnone (.inl hb)
    | life hb => exact hnone (.inr hb)
    | groupCancelled hc => exact absurd hc hd
    | removed reply hrt => exact absurd ⟨_, _, _, hrt⟩ hrem
    | tokenCancelled he hm => exact ⟨nofun, fun i hi => hi ▸ hI _ _ he hm⟩
    | aborted he hc =>
      refine ⟨nofun, fun i hi => hi ▸ ?_⟩
      cases hc with
      | removal hm => exact hI _ _ he hm
      | timer hc ha hk he => exact htimer _ _ _ hc ha (hk ▸ he)
      | drain hc => exact absurd hc hd
    | deleted he hm => exact ⟨nofun, fun i hi => hi ▸ hI _ _ he hm⟩
    | detached he hc => exact ⟨nofun, fun i hi => hi ▸ hdetach _ _ (by rw [hc]; rfl) he⟩
    | _ => exact ⟨nofun, nofun⟩

theorem Config.Isolating.step {c c' : Config} {a : Act} (h : c.Isolating) (hs : c.Sane)
    (hsuits : c.ctrl.Suits .oneForOne) (hhalt : c.Halting) (hok : ownsSlot c a = true)
    (ha : a.asksShutdown = false) (hstep : TokioSupervisor.step c a = some c') : c'.Isolating := by
  have hr := step_rule hs hstep
  have hu := hr.updates hs.wf
  have hh : ¬ c.ctrl.Halts := by
    rcases h.state with hrun | hend
    · exact fun hh => hhalt.frames hh hrun
    · cases hc : c.ctrl with
      | finished r | panicked p => exact id
      | _ => rw [hc] at hend; cases hend
  have hd := h.no_drain hsuits hh a
  have htimer : ∀ l k, c.ctrl = .await (.removalSelect l) k → a = .run .timer → ∀ e,
      c.rt.children.get l.key = some e → Requested c.rt.trace e.instanceId := by
    rintro l k hc rfl e he
    have hown : e.instanceId = l.target := by simpa [ownsSlot, hc, he] using hok
    rw [hown]
    exact h.waiting l (by rw [hc]; exact .inl rfl)
  have hstate := hu.invariant (I := fun rt => rt.state = c.rt.state ∨ HaltCause c a c') hs.wf (.inl rfl)
    fun rt rt' hwf hI hup => by
      rcases hup.halts hwf with heq | hc
      · exact hI.imp_left heq.trans
      · exact .inr hc
  have hquiet := hu.invariant (I := fun rt => rt.shutdownRx.value = false ∧ rt.shutdownRx.closed = false)
    hs.wf h.quiet fun rt rt' hwf hI hup => by
      obtain ⟨hv, hc⟩ := hup.shutdownRx hwf ha
      rwa [hv, hc]
  have hall := hu.invariant (I := fun rt => (∀ i, Requested c.rt.trace i → Requested rt.trace i) ∧
      (∀ key e, rt.children.get key = some e → e.membership = .removing →
        Requested rt.trace e.instanceId) ∧ Isolated rt.trace) hs.wf ⟨fun _ => id, h.removing, h.isolated⟩
    fun rt rt' hwf hI hup => by
      obtain ⟨hold, hrem, hiso⟩ := hI
      refine ⟨fun i hi => (hup.logs hwf).requested (hold i hi),
        fun key e he hm => hup.removing hwf hrem he hm, ?_⟩
      exact hup.isolated hwf hd (fun l k e hc ha he => hold _ (htimer l k hc ha e he))
        (fun key e hk he => hold _ (h.detaching key e hk he)) hrem hiso
  obtain ⟨hold, hrem, hiso⟩ := hall.2
  refine ⟨hquiet.2, ?_, hrem, fun l hl => ?_, fun key e' hk he' => ?_, hiso⟩
  · rcases h.state with hrun | hend
    · rcases hstate.2 with heq | hc
      · exact .inl (heq.trans hrun)
      · cases hc with
        | ended hc => exact .inr hc
        | begins hb hq _ => rw [h.quiet.1, h.quiet.2] at hq; simp at hq
        | drained hc => exact absurd (by rw [hc]; exact .inl (.inl rfl)) hh
    · exact .inr (by rw [(ended_step hend hstep).1]; exact hend)
  · rcases hr.removing hl with hl | hreq
    · exact hold _ (h.waiting l hl)
    · exact hreq
  · cases hr.detachStep hk with
    | goesOn hc hsame _ =>
      obtain ⟨e, he, hstays⟩ := hsame e' he'
      rw [hstays.instanceId]
      exact hold _ (h.detaching key e hc he)
    | removal he hrt hreq =>
      rw [hrt, abortedChild_children, he] at he'
      cases he'
      exact hreq
    | timer hc ha hl he hrt =>
      subst hl
      rw [hrt, abortedChild_children] at he'
      exact hold _ (htimer _ _ hc ha e' he')

/-- In a run without a shutdown whose removals keep their slots, every child that is cancelled, aborted
or deleted was asked for by a removal before. -/
theorem run_isolated {config : SupervisorConfig} {env : StartEnv} {as : List Act} {c : Config}
    (h : config.Accepted) (hst : config.strategy = .oneForOne)
    (hrun : Run step (fun c a => ownsSlot c a = true ∧ a.asksShutdown = false)
      (Config.start config env) as c) : Isolated c.rt.trace := by
  have hfresh := h.fresh env
  refine (hrun.invariant_of (I := Config.Isolating)
    (J := fun c => c.Sane ∧ c.ctrl.Suits .oneForOne ∧ c.Halting)
    (fun _ _ h' => ⟨run_sane h h', hst ▸ run_suits h h', run_halting h h'⟩)
    ⟨by simp [Config.start, hfresh.shutdownRx], .inl hfresh.state, fun key e he hm => ?_, ?_, ?_, ?_⟩
    fun c a c' hJ hI hok hstep => hI.step hJ.1 hJ.2.1 hJ.2.2 hok.1 hok.2 hstep).isolated
  · rw [(hfresh.unborn key e he).membership] at hm
    cases hm
  · simp [Config.start, Await.removal]
  · simp [Config.start, Ctrl.detachKey]
  · simp [Config.start, hfresh.trace, Isolated]

/-! ### A removal that times out on a reused key -/

/-- The new child at the reused key is aborted, and nobody asked for that. -/
theorem foreign_abort_reached : reuseConfig.Accepted ∧ reuseConfig.strategy = .oneForOne ∧
    (∀ a ∈ detachActs, a.asksShutdown = false) ∧
    ∃ c, AnyRun step (Config.start reuseConfig ⟨false, 0, 0⟩) detachActs c ∧ ¬ Isolated c.rt.trace := by
  have hex : ∃ c, AnyRun step (Config.start reuseConfig ⟨false, 0, 0⟩) detachActs c ∧
      (c.rt.trace.any (· matches .aborted 4), c.rt.trace.any (· matches .removalRequested _ 4)) =
        (true, false) := anyRun_of_exec (by decide +kernel)
  obtain ⟨c, hrun, hc⟩ := hex
  refine ⟨reuseConfig_accepted, rfl, by decide, c, hrun, fun h => ?_⟩
  simp only [Prod.mk.injEq, List.any_eq_true, List.any_eq_false] at hc
  obtain ⟨⟨b, hb, hmatch⟩, hnot⟩ := hc
  obtain ⟨reply, hreq⟩ := h.requested hb (i := 4) (by
    split at hmatch
    · rfl
    · cases hmatch)
  exact hnot _ hreq rfl

/-- Up to that timeout two removals, an addition and a restart leave the other children alone. -/
theorem run_isolated_reuse : ∃ c : Config, c.rt.childOrder = [1, 2, 0] ∧ Isolated c.rt.trace := by
  have hex : ∃ c, Run step (fun c a => (ownsSlot c a && !a.asksShutdown) = true)
      (Config.start reuseConfig ⟨false, 0, 0⟩) reuseActs c ∧ c.rt.childOrder = [1, 2, 0] :=
    run_of_execIf_map (by decide +kernel)
  obtain ⟨c, hrun, hc⟩ := hex
  refine ⟨c, hc, run_isolated reuseConfig_accepted rfl (hrun.mono fun c a hok => ?_)⟩
  simpa using hok

end TokioSupervisor
