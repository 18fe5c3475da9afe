import TokioSupervisor.Runtime.LastChild
import TokioSupervisor.Runtime.Coverage
import TokioSupervisor.Runtime.Instances

/-!
# Completed removals

A call of `remove_child` that is not refused marks its child, and waits until the child is gone. It
gives the wait up where `handle_join_during_control` returns the error of some other child, or where the
join set is empty; the child then stays marked with nobody waiting for it
(`orphaned_removal_reached`). `keepsRemoval` says that a wait is not given up while the entry at its key
is marked.
-/

namespace TokioSupervisor
open Lib SupervisorRuntime

/-! ### Who waits for a removal -/

/-- A call that removes the child at `key` is suspended at depth `d` or above. -/
def Stack.Serves (d : Nat) (key : ChildKey) : {fn : Fn} → Stack fn → Prop
  | _, .nil => False
  | _, .push f k => f.cover = some (.removal key) ∧ d ≤ k.depth ∨ k.Serves d key

/-- The same below the innermost suspended call. -/
def Stack.ServesBelow (d : Nat) (key : ChildKey) : {fn : Fn} → Stack fn → Prop
  | _, .nil => False
  | _, .push _ k => k.Serves d key

def Ctrl.Serves (d : Nat) (key : ChildKey) : Ctrl → Prop
  | .await p k => p.cover = some (.removal key) ∧ d ≤ k.depth ∨ k.Serves d key
  | @Ctrl.ret fn k v => fn.goesOn v = true ∧ k.Serves d key ∨ k.ServesBelow d key
  | _ => False

section
variable {d : Nat} {key : ChildKey}

@[simp] theorem Stack.serves_nil : ¬ Stack.nil.Serves d key := id

@[simp] theorem Stack.serves_push {callee caller : Fn} {f : Frame callee caller} {k : Stack caller} :
    (Stack.push f k).Serves d key ↔
      f.cover = some (.removal key) ∧ d ≤ k.depth ∨ k.Serves d key := Iff.rfl

@[simp] theorem Stack.servesBelow_push {callee caller : Fn} {f : Frame callee caller}
    {k : Stack caller} : (Stack.push f k).ServesBelow d key ↔ k.Serves d key := Iff.rfl

@[simp] theorem Ctrl.serves_await {fn : Fn} {p : Await fn} {k : Stack fn} :
    (Ctrl.await p k).Serves d key ↔
      p.cover = some (.removal key) ∧ d ≤ k.depth ∨ k.Serves d key := Iff.rfl

@[simp] theorem Ctrl.serves_ret {fn : Fn} {k : Stack fn} {v : fn.Value} :
    (Ctrl.ret k v).Serves d key ↔ fn.goesOn v = true ∧ k.Serves d key ∨ k.ServesBelow d key := Iff.rfl

@[simp] theorem Ctrl.serves_finished {r : Except SupervisorError SupervisorExit} :
    ¬ (Ctrl.finished r).Serves d key := id

@[simp] theorem Ctrl.serves_panicked {p : Panic} : ¬ (Ctrl.panicked p).Serves d key := id

theorem Stack.Serves.depth_lt {fn : Fn} {k : Stack fn} (h : k.Serves d key) : d < k.depth := by
  induction k with
  | nil => cases h
  | push f k ih =>
    rcases h with ⟨-, hd⟩ | h
    · exact Nat.lt_succ_of_le hd
    · exact Nat.lt_succ_of_lt (ih h)

theorem Stack.not_serves_run (k : Stack .run) : ¬ k.Serves d key := by
  cases k with
  | nil => exact id
  | push f k => cases f

end

/-- A wait for a removal is not given up while the entry at its key is marked. -/
def keepsRemoval (c : Config) : Act → Bool
  | .resume =>
    match c.ctrl with
    | .ret (.push .controlJoin (.push (.removalJoin l) _)) (.error _) =>
      (c.rt.children.get l.key).all (·.membership != .removing)
    | _ => true
  | .run .joinNone =>
    match c.ctrl with
    | .await (.removalSelect l) _ => (c.rt.children.get l.key).all (·.membership != .removing)
    | _ => true
  | _ => true

/-- A removal at `key` was served, and still is, or its slot is free, or the run is about to end. -/
inductive Served (d : Nat) (key : ChildKey) (c : Config) : Prop
  | serves (h : c.ctrl.Serves d key)
  | gone (h : c.rt.children.get key = none)
  | halted (h : c.rt.state ≠ .running)
  | ended (h : c.ctrl.ended = true)

section
variable {d : Nat} {key : ChildKey} {e : ChildEntry}

theorem RemovalHead.served {rt : SupervisorRuntime} {l : Removal} {k : Stack .awaitChildRemoval}
    {ctrl : Ctrl} (h : RemovalHead rt l k ctrl)
    (hc : l.key = key ∧ d ≤ k.depth ∨ k.Serves d key) : Served d key ⟨rt, ctrl⟩ := by
  cases h with
  | gone he =>
    rcases hc with ⟨rfl, -⟩ | hc
    · exact .gone he
    · exact .serves (by simpa [Fn.goesOn] using .inl hc)
  | wait he => exact .serves (by simpa [Await.cover] using hc)

theorem Move.served {rt : SupervisorRuntime} {ctrl ctrl' : Ctrl} {a : Act} (h : Move rt ctrl a ctrl')
    (he : rt.children.get key = some e) (hm : e.membership = .removing) (hs : rt.state = .running)
    (hh : (Config.mk rt ctrl).Halting) (hok : keepsRemoval ⟨rt, ctrl⟩ a = true)
    (hc : ctrl.Serves d key) : Served d key ⟨rt, ctrl'⟩ := by
  have hp : rt.pendingExit.isSome = false := by
    rw [← Bool.not_eq_true]; exact fun hp => hh.pending hp hs
  have hn : ¬ ctrl.Halts := fun hn => hh.frames hn hs
  have hmark (l : Removal) (hl : l.key = key) :
      ¬ (rt.children.get l.key).all (·.membership != .removing) = true := by
    rw [hl, he]
    simp [hm]
  cases h with
  | removalShutdownOk hr => exact hr.served (by simpa [Frame.cover, Fn.goesOn] using hc)
  | removalJoinOk hr => exact hr.served (by simpa [Frame.cover, Fn.goesOn] using hc)
  | @removalJoinNone l k hempty =>
    rcases hc with ⟨hl, -⟩ | hc
    · cases hl
      exact absurd hok (hmark l rfl)
    · exact .serves (by simpa [Fn.goesOn] using hc)
  | @controlJoinErr k e =>
    cases k with
    | push f k => cases f with
      | removalJoin l =>
        rcases (by simpa [Frame.cover, Fn.goesOn] using hc : l.key = key ∧ d ≤ k.depth ∨
          k.Serves d key) with ⟨hl, -⟩ | hc
        · exact absurd hok (hmark l hl)
        · exact .serves (by simpa [Fn.goesOn] using hc)
  | @groupDrain k v =>
    cases k with
    | push f k => cases f with
      | oneForAllDrain =>
        have hk : k.Serves d key := by simpa [Frame.cover, Fn.goesOn] using hc
        exact .serves (.inr hk)
  | _ =>
    refine .serves ?_
    simp_all [Frame.cover, Await.cover, Fn.goesOn, Frame.halts, Fn.givesUp]

theorem DrainNext.served {rt rt' : SupervisorRuntime} {reason : DrainReason}
    {k : Stack (.drainChildren reason)} {ctrl : Ctrl} (h : DrainNext rt reason k rt' ctrl)
    (hc : k.Serves d key) : ctrl.Serves d key := by
  cases h <;> simp [Fn.goesOn, hc]

theorem CommandOutcome.served {rt rt' : SupervisorRuntime} {k₁ : ChildKey} {k : Stack .handleCommand}
    {cmd : SupervisorCommand} {ctrl' : Ctrl} (h : CommandOutcome rt k₁ k cmd rt' ctrl')
    (hc : k.Serves d key) : ctrl'.Serves d key := by
  cases h <;> simp [Fn.goesOn, hc]

theorem JoinOutcome.served {rt rt' : SupervisorRuntime} {t : Task} {outcome : TaskOutcome}
    {k : Stack .handleJoinedChild} {ctrl' : Ctrl} (h : JoinOutcome rt t outcome k rt' ctrl')
    (hc : k.Serves d key) : ctrl'.Serves d key := by
  cases h <;> simp [Fn.goesOn, hc]

/-- A step of a running supervisor does not give up a removal of a marked entry. -/
theorem Rule.served {rt rt' : SupervisorRuntime} {ctrl ctrl' : Ctrl} {a : Act}
    (h : Rule rt ctrl a rt' ctrl') (hwf : rt.Wf) (he : rt.children.get key = some e)
    (hm : e.membership = .removing) (hs : rt.state = .running) (hh : (Config.mk rt ctrl).Halting)
    (hok : keepsRemoval ⟨rt, ctrl⟩ a = true) (hc : ctrl.Serves d key) : Served d key ⟨rt', ctrl'⟩ := by
  cases h with
  | env h => exact .serves hc
  | move h => exact h.served he hm hs hh hok hc
  | start hl => simp [Stack.not_serves_run, Await.cover] at hc
  | loop hl _ => cases hl <;> simp [Stack.not_serves_run, Await.cover, Frame.cover] at hc
  | natural | joinError | shutdownEnd | runEnd | overflow | vacantOne | vacantAll => exact .ended rfl
  | shutdown hb hrt hq =>
    have hwf₁ : ∀ rt₁ : SupervisorRuntime, rt₁ = rt ∨ rt₁ = rt.seen → rt₁.Wf := by
      rintro rt₁ (rfl | rfl) <;> exact hwf
    exact .halted (by rw [(hwf₁ _ hrt).halted_state]; decide)
  | command hk _ _ ho =>
    refine .serves (ho.served ?_)
    cases hk <;> simpa [Await.cover, Frame.cover] using hc
  | join hk _ ho =>
    refine .serves (ho.served ?_)
    cases hk <;> simpa [Await.cover, Frame.cover] using hc
  | drainJoin _ _ hd => exact .serves (hd.served (by simpa [Await.cover] using hc))
  | drainNext hd hnext =>
    refine .serves (hnext.served ?_)
    cases hd <;> simpa [Await.cover, Frame.cover, Fn.goesOn] using hc
  | delayClosedPending _ hp => exact absurd hs (hh.pending hp)
  | removalSeen hr =>
    cases @RemovalHead.served d key _ _ _ _ hr (by simpa [Await.cover] using hc) with
    | serves h => exact .serves h
    | gone h => exact .gone h
    | halted h => exact absurd hs h
    | ended h => exact .ended h
  | @detachGone k₁ reason k hnone =>
    rcases (by simpa [Frame.cover, Fn.goesOn] using hc : k₁ = key ∧ d ≤ k.depth ∨ k.Serves d key) with
      ⟨rfl, -⟩ | hk
    · exact .gone hnone
    · exact .serves (by simpa [Fn.goesOn] using .inl hk)
  | @detach k₁ reason k e₁ he₁ =>
    rcases (by simpa [Frame.cover, Fn.goesOn] using hc : k₁ = key ∧ d ≤ k.depth ∨ k.Serves d key) with
      ⟨rfl, -⟩ | hk
    · exact .gone (Slab.get_remove_self rt.children k₁)
    · exact .serves (by simpa [Fn.goesOn] using .inl hk)
  | removalTimer _ =>
    rcases (by simpa [Await.cover] using hc) with ⟨hl, hd⟩ | hk
    · exact .serves (.inl ⟨by rw [Await.cover, hl], Nat.le_succ_of_le hd⟩)
    · exact .serves (.inr (.inr hk))
  | _ => refine .serves ?_; simp_all [Frame.cover, Await.cover, Fn.goesOn]

end

/-! ### Marked entries are waited for -/

/-- Somebody waits for every entry that is marked, while the supervisor is running. -/
def Config.Waited (c : Config) : Prop :=
  ∀ key e, c.rt.children.get key = some e → e.membership = .removing → c.rt.state = .running →
    c.ctrl.ended = false → c.ctrl.Serves 0 key

theorem Ctrl.StartsRemoval.serves {key : ChildKey} {ctrl : Ctrl} (h : ctrl.StartsRemoval key) :
    ctrl.Serves 0 key := by
  cases h with
  | abort => exact .inl ⟨rfl, Nat.zero_le _⟩
  | wait hl => exact .inl ⟨by rw [Await.cover, hl], Nat.zero_le _⟩

/-- A marked entry was marked before, or its removal has just begun. -/
theorem Update.marked {c c' : Config} {a : Act} {rt rt' : SupervisorRuntime}
    (h : Update c a c' rt rt') (hwf : rt.Wf) {key : ChildKey} {e' : ChildEntry}
    (he' : rt'.children.get key = some e') (hm : e'.membership = .removing) :
    (∃ e, rt.children.get key = some e ∧ e.membership = .removing) ∨ c'.ctrl.StartsRemoval key := by
  rcases h.entry_from hwf he' with ⟨e, he, hev⟩ | ⟨child, token, nested, task, rfl⟩
  · cases hev with
    | same hs => exact .inl ⟨e, he, hs.membership ▸ hm⟩
    | terminated g hl hs => exact .inl ⟨e, he, by simpa using hm⟩
    | requested _ _ hc _ _ => exact .inr hc
    | stopping =>
      refine .inl ⟨e, he, ?_⟩
      unfold ChildEntry.stopping at hm
      split at hm <;> exact hm
    | _ => exact .inl ⟨e, he, hm⟩
  · cases hm

theorem Config.Waited.step {c c' : Config} {a : Act} (h : c.Waited) (hs : c.Sane) (hh : c.Halting)
    (hok : keepsRemoval c a = true) (hstep : TokioSupervisor.step c a = some c') : c'.Waited := by
  intro key e' he' hm hrun hend
  have hr := step_rule hs hstep
  have hrun₀ : c.rt.state = .running := by
    by_contra hc
    exact hr.state hs.wf hc hrun
  have hmark := ((hr.updates hs.wf).invariant (I := fun rt => ∀ key e', rt.children.get key = some e' →
    e'.membership = .removing → (∃ e, c.rt.children.get key = some e ∧ e.membership = .removing) ∨
      c'.ctrl.StartsRemoval key) hs.wf (fun key e he hm => .inl ⟨e, he, hm⟩)
    fun rt rt' hwf hI hup key f hf hfm => by
      rcases hup.marked hwf hf hfm with ⟨g, hg, hgm⟩ | hc
      · exact hI key g hg hgm
      · exact .inr hc).2
  rcases hmark key e' he' hm with ⟨e, he, hme⟩ | hc
  · have hserves := h key e he hme hrun₀ (ended_of_step hstep hend)
    cases hr.served hs.wf he hme hrun₀ hh hok hserves with
    | serves h => exact h
    | gone hnone => exact absurd (hnone.symm.trans he') nofun
    | halted hn => exact absurd hrun hn
    | ended hn => exact absurd (hn.symm.trans hend) nofun
  · exact hc.serves

/-! ### One call of `remove_child` -/

namespace SupervisorRuntime

/-- Since the trace was `old` the instance `i` was deleted at `key`, and is in no slot. -/
def Gone (rt : SupervisorRuntime) (old : List Action) (key : ChildKey) (i : Nat) : Prop :=
  (∃ l, rt.trace = l ++ old ∧ .deleted key i ∈ l) ∧ rt.Absent i

/-- Since the trace was `old` the instance `i` has stayed at `key`, with `P`, or it is gone. -/
structure Leaves (rt : SupervisorRuntime) (P : ChildEntry → Prop) (old : List Action) (key : ChildKey)
    (i : Nat) : Prop where
  grown : ∃ l, rt.trace = l ++ old
  instances : rt.Instances
  left : (∃ e, rt.children.get key = some e ∧ e.instanceId = i ∧ P e) ∨ rt.Gone old key i

end SupervisorRuntime

section
variable {c c' : Config} {a : Act} {rt rt' : SupervisorRuntime} {old : List Action} {key : ChildKey}
  {i : Nat}

theorem Update.gone (h : Update c a c' rt rt') (hwf : rt.Wf) (hI : rt.Instances)
    (hg : rt.Gone old key i) : rt'.Gone old key i := by
  obtain ⟨⟨l, hl, hd⟩, habs⟩ := hg
  obtain ⟨l', hl', -⟩ := h.logs hwf
  refine ⟨⟨l' ++ l, by rw [hl', hl, List.append_assoc], List.mem_append_right _ hd⟩, ?_⟩
  exact (h.renumbers hwf).absent hI habs

theorem Update.leaves {P : ChildEntry → Prop} (h : Update c a c' rt rt') (hwf : rt.Wf)
    (hP : ∀ trace e e', e.Evolves c a c' trace key e' → P e → P e') (hI : rt.Leaves P old key i) :
    rt'.Leaves P old key i := by
  obtain ⟨⟨l, hl⟩, hinst, hleft⟩ := hI
  obtain ⟨l', hl', -⟩ := h.logs hwf
  refine ⟨⟨l' ++ l, by rw [hl', hl, List.append_assoc]⟩, (h.renumbers hwf).instances hinst, ?_⟩
  rcases hleft with ⟨e, he, hi, hm⟩ | hgone
  · rcases h.entry_to hwf he with ⟨f, hf, hev⟩ | hdel
    · exact .inl ⟨f, hf, hev.instanceId.trans hi, hP _ _ _ hev hm⟩
    · obtain ⟨b, t, ht, l₀, rfl⟩ := hdel.logged
      refine .inr ⟨⟨b :: .deleted key e.instanceId :: l₀ ++ l, ?_, by simp [hi]⟩, ?_⟩
      · rw [ht, hl]
        simp
      · rw [← hi]
        exact (h.renumbers hwf).absent_of_vacant hinst he hdel.vacant
  · exact .inr (h.gone hwf hinst hgone)

/-- The call at depth `d` that removes the instance `i` at `key` goes on until it is gone. -/
structure Config.Leaving (c : Config) (old : List Action) (key : ChildKey) (i d : Nat) : Prop where
  leaves : c.rt.Leaves (·.membership = .removing) old key i
  serves : c.rt.Gone old key i ∨ c.rt.state ≠ .running ∨ c.ctrl.ended = true ∨ c.ctrl.Serves d key

theorem Config.Leaving.step {d : Nat} (h : c.Leaving old key i d) (hs : c.Sane) (hh : c.Halting)
    (hok : keepsRemoval c a = true) (hstep : TokioSupervisor.step c a = some c') :
    c'.Leaving old key i d := by
  have hr := step_rule hs hstep
  have hchain := ((hr.updates hs.wf).invariant
    (I := fun rt => rt.Leaves (·.membership = .removing) old key i ∧
      (c.rt.Gone old key i → rt.Gone old key i)) hs.wf ⟨h.leaves, id⟩ fun rt rt' hwf hI hup =>
      ⟨hup.leaves hwf (fun _ _ _ hev => hev.removing) hI.1,
        fun hg => hup.gone hwf hI.1.instances (hI.2 hg)⟩).2
  refine ⟨hchain.1, ?_⟩
  by_cases hrun : c.rt.state = .running
  · rcases h.serves with hg | hn | hend | hserves
    · exact .inl (hchain.2 hg)
    · exact absurd hrun hn
    · exact .inr (.inr (.inl (by rw [(ended_step hend hstep).1]; exact hend)))
    · rcases h.leaves.left with ⟨e, he, -, hm⟩ | hg
      · cases hr.served hs.wf he hm hrun hh hok hserves with
        | serves h => exact .inr (.inr (.inr h))
        | gone hnone =>
          rcases hchain.1.left with ⟨e', he', -⟩ | hg
          · exact absurd (hnone.symm.trans he') nofun
          · exact .inl hg
        | halted hn => exact .inr (.inl hn)
        | ended hn => exact .inr (.inr (.inl hn))
      · exact .inl (hchain.2 hg)
  · exact .inr (.inl (hr.state hs.wf hrun))

theorem Config.Leaving.returned {fn : Fn} {k : Stack fn} {v : fn.Value}
    (h : c.Leaving old key i (k.depth + 1)) (hc : c.ctrl = .ret k v) (hrun : c.rt.state = .running) :
    c.rt.Gone old key i := by
  rcases h.serves with hg | hn | hend | hserves
  · exact hg
  · exact absurd hrun hn
  · rw [hc] at hend; cases hend
  · rw [hc] at hserves
    rcases hserves with ⟨-, hk⟩ | hk
    · exact absurd hk.depth_lt (by omega)
    · cases k with
      | nil => cases hk
      | push f k =>
        have hlt := Stack.Serves.depth_lt hk
        simp only [Stack.depth] at hlt
        omega

end

/-- The step that accepts a removal marks its child, or deletes it at once. -/
theorem Handles.leaving {c c' : Config} {id : String} {reply : Nat} {x key : ChildKey} {e : ChildEntry}
    {k : Stack .handleCommand} (h : Handles c (.removeChild id reply)) (hs : c.Sane)
    (hI : c.rt.Instances) (hr : c.rt.removeRefusal id = none) (hk : HandlesCommand c.ctrl k)
    (hl : c.rt.childrenById.lookup id = some key) (he : c.rt.children.get key = some e)
    (hstep : step c (.run (.command x)) = some c') : c'.ctrl.ended = true ∨
      c'.Leaving c.rt.trace key e.instanceId ((Stack.push (.commandReply reply) k).depth + 1) := by
  have hchain := (((step_rule hs hstep).updates hs.wf).invariant
    (I := fun rt => rt.Leaves (fun _ => True) c.rt.trace key e.instanceId) hs.wf
    ⟨⟨[], rfl⟩, hI, .inl ⟨e, he, rfl, trivial⟩⟩ fun rt rt' hwf hI hup =>
      hup.leaves hwf (fun _ _ _ _ _ => trivial) hI).2
  obtain ⟨hgrown, hinst, hleft⟩ := hchain
  have hgone (hnone : c'.rt.children.get key = none) : c'.rt.Gone c.rt.trace key e.instanceId := by
    rcases hleft with ⟨f, hf, -⟩ | hg
    · exact absurd (hnone.symm.trans hf) nofun
    · exact hg
  obtain ⟨rest, hq⟩ := h.queue
  obtain ⟨hv, hc'⟩ := step_command hk hq hstep
  have hleads := (show (c.rt.received rest).Wf from hs.wf).handleCommand hv (.removeChild id reply) k
  cases hx : (c.rt.received rest).handleCommand x (.removeChild id reply) k with
  | error p => rw [hx] at hc'; exact .inl (hc' ▸ rfl)
  | ok c₁ =>
    rw [hx] at hc' hleads
    obtain rfl : c' = c₁ := hc'
    obtain ⟨rt', ctrl'⟩ := c'
    have hkey {target : ChildKey} {f : ChildEntry} (hf : c.rt.children.get target = some f)
        (hid : f.id = id) : target = key ∧ f = e := by
      obtain rfl : target = key := Option.some.inj ((hs.wf.lookup hf).symm.trans (hid ▸ hl))
      exact ⟨rfl, Option.some.inj (hf.symm.trans he)⟩
    simp only [Leads] at hleads
    refine .inr ?_
    generalize hcmd : SupervisorCommand.removeChild id reply = cmd at hleads
    cases hleads with
    | addRefused | added => cases hcmd
    | removeRefused hr' =>
      cases hcmd
      exact absurd (hr.symm.trans hr') nofun
    | removed hf hm hst hr' =>
      cases hcmd
      obtain ⟨rfl, rfl⟩ := hkey hf rfl
      have hnone := hgone (Slab.get_remove_self _ _)
      exact ⟨⟨hgrown, hinst, .inr hnone⟩, .inl hnone⟩
    | @removeAbort _ target f hf hm hst hr' =>
      cases hcmd
      obtain ⟨rfl, rfl⟩ := hkey hf rfl
      refine ⟨⟨hgrown, hinst, .inl ⟨f.requested, ?_, rfl, rfl⟩⟩, ?_⟩
      · show (SupervisorRuntime.abortedChild _ _).children.get target = _
        rw [abortedChild_children]
        exact requested_get _ hf
      · exact .inr (.inr (.inr (.inl ⟨rfl, Nat.le_refl _⟩)))
    | @removeWait _ target f _ _ hf hm hst hr' =>
      cases hcmd
      obtain ⟨rfl, rfl⟩ := hkey hf rfl
      refine ⟨⟨hgrown, hinst, .inl ⟨f.requested, ?_, rfl, rfl⟩⟩, ?_⟩
      · show (SupervisorRuntime.cancelledChild _ _).children.get target = _
        rw [cancelledChild_children]
        exact requested_get _ hf
      · exact .inr (.inr (.inr (.inl ⟨rfl, Nat.le_refl _⟩)))

/-! ### Runs -/

namespace SupervisorRuntime

/-- The instance `i` is in none of the structures. -/
structure Lacks (rt : SupervisorRuntime) (i : Nat) : Prop where
  slab : ∀ key e, rt.children.get key = some e → e.instanceId ≠ i
  byId : ∀ id key, rt.childrenById.lookup id = some key →
    ∃ e, rt.children.get key = some e ∧ e.id = id ∧ e.instanceId ≠ i
  order : ∀ key ∈ rt.childOrder, ∃ e, rt.children.get key = some e ∧ e.instanceId ≠ i

theorem Absent.lacks {rt : SupervisorRuntime} {i : Nat} (h : rt.Absent i) (hwf : rt.Wf)
    (hlt : rt.nextChildInstance < U64_MAX) : rt.Lacks i := by
  obtain ⟨-, hall⟩ := h hlt
  refine ⟨hall, fun id key hl => ?_, fun key hk => ?_⟩
  · obtain ⟨e, he, hid⟩ := (hwf.byId id key).1 hl
    exact ⟨e, he, hid, hall key e he⟩
  · obtain ⟨e, he⟩ := (hwf.order key).1 hk
    exact ⟨e, he, hall key e he⟩

/-- The children, their memberships and the counters are the same. -/
structure SameChildren (rt rt' : SupervisorRuntime) : Prop where
  children : rt'.children = rt.children
  childrenById : rt'.childrenById = rt.childrenById
  childOrder : rt'.childOrder = rt.childOrder
  runningChildren : rt'.runningChildren = rt.runningChildren
  liveTasks : rt'.liveTasks = rt.liveTasks
  nextChildInstance : rt'.nextChildInstance = rt.nextChildInstance

end SupervisorRuntime

/-- What the call of `remove_child` that is handled in the step from `c₀` to `c₁` has come to in the
later configuration `c`. -/
structure Config.RemovalComplete (c₀ c₁ c : Config) (id : String) (reply : Nat) : Prop where
  /-- A precondition error changes no child. -/
  refused : ∀ e, c₀.rt.removeRefusal id = some e → c₀.rt.SameChildren c₁.rt ∧
    ∃ k, c₁.ctrl = .ret (.push (.commandReply reply) k) (.error e)
  /-- Any other return to a running supervisor finds the child deleted. -/
  returned : c₀.rt.removeRefusal id = none → ∃ key e, c₀.rt.childrenById.lookup id = some key ∧
    c₀.rt.children.get key = some e ∧ ∀ k v, HandlesCommand c₀.ctrl k →
      c.ctrl = .ret (.push (.commandReply reply) k) v → c.rt.state = .running →
      c.rt.pendingExit = none → (∃ l, c.rt.trace = l ++ c₀.rt.trace ∧ .deleted key e.instanceId ∈ l) ∧
        (c.rt.nextChildInstance < U64_MAX → c.rt.Lacks e.instanceId)
  /-- No child is left marked with nobody waiting for it. -/
  waited : c.Waited

/-- In a run that never gives up a wait for a marked child, every call of `remove_child` is refused
without an effect or returns when its child is gone. -/
theorem run_removalComplete {config : SupervisorConfig} {env : StartEnv} {as as' : List Act}
    {c₀ c₁ c : Config} {id : String} {reply : Nat} {x : ChildKey} (h : config.Accepted)
    (hrun : Run step (fun c a => keepsRemoval c a = true) (Config.start config env) as c₀)
    (hh : Handles c₀ (.removeChild id reply)) (hstep : step c₀ (.run (.command x)) = some c₁)
    (hrun' : Run step (fun c a => keepsRemoval c a = true) c₁ as' c) :
    c₀.RemovalComplete c₁ c id reply := by
  have hs := run_sane h hrun
  have hone : Run step (fun c a => keepsRemoval c a = true) c₀ [.run (.command x)] c₁ :=
    .single rfl hstep
  have hall := hrun.trans (hone.trans hrun')
  refine ⟨fun e hr => ?_, fun hr => ?_, ?_⟩
  · obtain ⟨rest, k, rfl⟩ := hh.refused hr hstep
    exact ⟨⟨rfl, rfl, rfl, rfl, rfl, rfl⟩, k, rfl⟩
  · obtain ⟨-, key, hl, -⟩ := removeRefusal_none hr
    obtain ⟨e, he, -⟩ := (hs.wf.byId id key).1 hl
    refine ⟨key, e, hl, he, fun k v hk hc hrunning _ => ?_⟩
    have hleaving : c.ctrl.ended = true ∨
        c.Leaving c₀.rt.trace key e.instanceId ((Stack.push (.commandReply reply) k).depth + 1) := by
      refine hrun'.invariant_of (I := fun c => c.ctrl.ended = true ∨ c.Leaving c₀.rt.trace key
        e.instanceId ((Stack.push (.commandReply reply) k).depth + 1)) (J := fun c => c.Sane ∧ c.Halting)
        (fun bs c' h' => ?_) (hh.leaving hs (run_instances h hrun) hr hk hl he hstep) ?_
      · have hrun₁ := hrun.trans (hone.trans h')
        exact ⟨run_sane h hrun₁, run_halting h hrun₁⟩
      · rintro c a c' ⟨hs, hh⟩ hI hok hstep
        rcases hI with hend | hI
        · exact .inl (by rw [(ended_step hend hstep).1]; exact hend)
        · exact .inr (hI.step hs hh hok hstep)
    rcases hleaving with hend | hleaving
    · rw [hc] at hend; cases hend
    · obtain ⟨hdel, habs⟩ := hleaving.returned hc hrunning
      exact ⟨hdel, habs.lacks (run_sane h hall).wf⟩
  · refine hall.invariant_of (I := Config.Waited) (J := fun c => c.Sane ∧ c.Halting)
      (fun _ _ h' => ⟨run_sane h h', run_halting h h'⟩) (fun key e he hm => ?_)
      fun c a c' hJ hI hok hstep => hI.step hJ.1 hJ.2 hok hstep
    rw [((h.fresh env).unborn key e he).membership] at hm
    cases hm

/-! ### A wait that is given up -/

theorem Ctrl.atSelect_run {ctrl : Ctrl} (h : ctrl.atSelect = true) :
    ∃ k, ctrl = .await .runSelect k := by
  cases ctrl with
  | await p k => cases p <;> first | exact ⟨k, rfl⟩ | cases h
  | _ => cases h

theorem Handles.of_select {c : Config} {cmd : SupervisorCommand} {rest : List SupervisorCommand}
    (h : c.ctrl.atSelect = true) (hq : c.rt.commandRx.queue = cmd :: rest) : Handles c cmd := by
  obtain ⟨k, hk⟩ := Ctrl.atSelect_run h
  exact ⟨⟨_, by rw [hk]; exact .run⟩, rest, hq⟩

/-- `b` overruns the intensity while `a` is being removed: the call returns, and `a` stays marked. -/
theorem orphaned_removal_reached : strictConfig.Accepted ∧ ∃ c₀ c₁ c : Config,
    AnyRun step (Config.start strictConfig ⟨false, 0, 0⟩) (swallowActs.take 2) c₀ ∧
    Handles c₀ (.removeChild "a" 0) ∧ step c₀ (.run (.command 3)) = some c₁ ∧
    AnyRun step c₁ (swallowActs.drop 3) c ∧ ¬ c₀.RemovalComplete c₁ c "a" 0 := by
  have hex : ((exec step (Config.start strictConfig ⟨false, 0, 0⟩) (swallowActs.take 2)).bind fun c₀ =>
      (step c₀ (.run (.command 3))).bind fun c₁ => (exec step c₁ (swallowActs.drop 3)).map fun c =>
        ((c₀.ctrl.atSelect, c₀.rt.commandRx.queue),
          c.rt.state, c.ctrl.atSelect, (c.rt.children.get 0).map (·.membership))) =
      some ((true, [.removeChild "a" 0]), .running, true, some .removing) := by decide +kernel
  obtain ⟨c₀, hc₀, hex⟩ := Option.bind_eq_some_iff.1 hex
  obtain ⟨c₁, hc₁, hex⟩ := Option.bind_eq_some_iff.1 hex
  obtain ⟨c, hc, hex⟩ := Option.map_eq_some_iff.1 hex
  simp only [Prod.mk.injEq] at hex
  obtain ⟨⟨hsel₀, hqueue⟩, hs, hsel, hm⟩ := hex
  obtain ⟨k, hk⟩ := Ctrl.atSelect_run hsel
  obtain ⟨e, he, hm⟩ := Option.map_eq_some_iff.1 hm
  refine ⟨strictConfig_accepted, c₀, c₁, c, anyRun_iff_exec.2 hc₀, .of_select hsel₀ hqueue, hc₁,
    anyRun_iff_exec.2 hc, fun h => ?_⟩
  have hserves := h.waited 0 e he hm hs (by rw [hk]; rfl)
  rw [hk] at hserves
  simp [Await.cover, Stack.not_serves_run] at hserves

/-- When `a` stops by itself, its removal returns with `a` gone. -/
theorem run_removalComplete_stopped : ∃ c₀ c₁ c : Config,
    c.rt.childOrder = [1, 2] ∧ c₀.RemovalComplete c₁ c "a" 0 := by
  have hex : ((execIf step keepsRemoval (Config.start strictConfig ⟨false, 0, 0⟩)
      (swallowActs.take 2)).bind fun c₀ => (step c₀ (.run (.command 3))).bind fun c₁ =>
        (execIf step keepsRemoval c₁ [.finish 0 (.returned (.ok ())), .run (.join 0), .resume, .resume,
          .resume]).map fun c => ((c₀.ctrl.atSelect, c₀.rt.commandRx.queue), c.rt.childOrder)) =
      some ((true, [.removeChild "a" 0]), [1, 2]) := by decide +kernel
  obtain ⟨c₀, hc₀, hex⟩ := Option.bind_eq_some_iff.1 hex
  obtain ⟨c₁, hc₁, hex⟩ := Option.bind_eq_some_iff.1 hex
  obtain ⟨c, hc, hex⟩ := Option.map_eq_some_iff.1 hex
  simp only [Prod.mk.injEq] at hex
  obtain ⟨⟨hsel₀, hqueue⟩, horder⟩ := hex
  have hh : Handles c₀ (.removeChild "a" 0) := .of_select hsel₀ hqueue
  exact ⟨c₀, c₁, c, horder, run_removalComplete strictConfig_accepted (run_of_execIf hc₀) hh hc₁
    (run_of_execIf hc)⟩

end TokioSupervisor
