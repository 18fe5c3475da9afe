import TokioSupervisor.Runtime.Removing
import TokioSupervisor.Runtime.Errors

/-!
# The last active child

`remove_child` refuses to take the last child, and counts the ids for that. The count includes the
children that are being removed already, so a removal that is handled while all the others are marked
takes the last active one (`empty_supervisor_reached`). `keepsActive` says that the count was right
where it decided; under it some child is active in every state of a run.
-/

namespace TokioSupervisor
open Lib SupervisorRuntime

namespace SupervisorRuntime

/-- Some child is active. -/
def SomeActive (rt : SupervisorRuntime) : Prop :=
  ∃ key e, rt.children.get key = some e ∧ e.membership = .active

/-- The entry at `key` is the only active one. -/
def lastActive (rt : SupervisorRuntime) (key : ChildKey) : Bool :=
  (rt.children.get key).any (·.membership == .active) &&
    rt.childOrder.all fun k => k == key || (rt.children.get k).all (·.membership != .active)

theorem Wf.exists_beside {rt : SupervisorRuntime} (h : rt.Wf) {key : ChildKey} {e : ChildEntry}
    (he : rt.children.get key = some e) (hm : e.membership = .active)
    (hl : rt.lastActive key = false) :
    ∃ k f, k ≠ key ∧ rt.children.get k = some f ∧ f.membership = .active := by
  simp only [lastActive, he, Option.any_some, hm, beq_self_eq_true, Bool.true_and,
    List.all_eq_false] at hl
  obtain ⟨k, hk, hkey⟩ := hl
  obtain ⟨f, hf⟩ := (h.order k).1 hk
  simp only [hf, Option.all_some, Bool.or_eq_true, beq_iff_eq, bne_iff_ne, not_or, not_not] at hkey
  exact ⟨k, f, hkey.1, hf, hkey.2⟩

end SupervisorRuntime

/-- The key of the child that `abort_and_detach_child` finalizes next. -/
def Ctrl.finalizes : Ctrl → Option ChildKey
  | .ret (.push (.detachDrain key _) _) (.ok ()) => some key
  | _ => none

/-- A removal that passes the guard is not for the only active child, and neither is a detachment. -/
def keepsActive (c : Config) : Act → Bool
  | .resume => c.ctrl.finalizes.all (!c.rt.lastActive ·)
  | .run (.command _) =>
    match c.rt.commandRx.queue with
    | .removeChild id _ :: _ =>
      c.rt.state == .stopping || decide (c.rt.activeChildCount ≤ 1) ||
        (c.rt.childrenById.lookup id).all (!c.rt.lastActive ·)
    | _ => true
  | _ => true

theorem SupervisorRuntime.removeRefusal_none {rt : SupervisorRuntime} {id : String}
    (hr : rt.removeRefusal id = none) : rt.state ≠ .stopping ∧
      ∃ key, rt.childrenById.lookup id = some key ∧
        ∀ e, rt.children.get key = some e → 1 < rt.activeChildCount := by
  unfold removeRefusal at hr
  split at hr
  · cases hr
  · rename_i hs
    cases hl : rt.childrenById.lookup id with
    | none => rw [hl] at hr; cases hr
    | some key =>
      refine ⟨hs, key, rfl, fun e he => ?_⟩
      simp only [hl, he, Option.bind_some] at hr
      split at hr
      · cases hr
      · split at hr
        · cases hr
        · rename_i hn; exact Nat.lt_of_not_le hn

/-- The child that a step marks or deletes while it is active is not the only active one. -/
theorem Removes.not_last {c : Config} {a : Act} {key : ChildKey} {e : ChildEntry} {reply : Nat}
    (h : Removes c a e.id reply) (hwf : c.rt.Wf) (he : c.rt.children.get key = some e)
    (hok : keepsActive c a = true) : c.rt.lastActive key = false := by
  obtain ⟨k, rfl⟩ := h.act
  obtain ⟨rest, hq⟩ := h.queue
  obtain ⟨stack, hctrl⟩ := h.ctrl
  obtain ⟨hs, target, hl, hn⟩ := removeRefusal_none h.accepted
  obtain rfl : key = target := Option.some.inj ((hwf.lookup he).symm.trans hl)
  obtain ⟨rt, ctrl⟩ := c
  simp only at hs hl hn hq hctrl he ⊢
  cases hctrl <;> simpa [keepsActive, hq, hl, hs, Nat.not_le.2 (hn e he)] using hok

theorem Update.stays_active {c c' : Config} {a : Act} {rt rt' : SupervisorRuntime}
    (h : Update c a c' rt rt') (hwf : rt.Wf) {key : ChildKey} {e : ChildEntry}
    (he : rt.children.get key = some e) (hm : e.membership = .active)
    (hr : ∀ reply, ¬ Removes c a e.id reply)
    (hd : ∀ reason k, c.ctrl ≠ .ret (.push (.detachDrain key reason) k) (.ok ())) :
    ∃ e', rt'.children.get key = some e' ∧ e'.membership = .active ∧ e'.id = e.id := by
  rcases h.entry_to hwf he with ⟨e', he', hev⟩ | ⟨hc, -, -⟩
  · refine ⟨e', he', ?_⟩
    cases hev with
    | same h => exact ⟨h.membership.trans hm, h.id⟩
    | terminated => exact ⟨by simpa using hm, by simp⟩
    | requested _ _ _ _ hh => exact absurd hh (hr _)
    | stopping => unfold ChildEntry.stopping; split <;> exact ⟨hm, rfl⟩
    | _ => exact ⟨hm, rfl⟩
  · cases hc with
    | removing hm' _ => rw [hm] at hm'; cases hm'
    | removed _ _ _ hh => exact absurd hh (hr _)
    | detached _ hc => exact absurd hc (hd _ _)

/-- A step of the runtime leaves some active child alone. -/
theorem Config.exists_kept {c c' : Config} {a : Act} (hs : c.Sane) (hok : keepsActive c a = true)
    (hstep : step c a = some c') (ha : (∃ w, a = .run w) ∨ a = .resume) (hI : c.rt.SomeActive) :
    ∃ key e, c.rt.children.get key = some e ∧ e.membership = .active ∧
      (∀ reply, ¬ Removes c a e.id reply) ∧
      ∀ reason k, c.ctrl ≠ .ret (.push (.detachDrain key reason) k) (.ok ()) := by
  obtain ⟨key, e, he, hm⟩ := hI
  by_cases hr : ∃ reply, Removes c a e.id reply
  · obtain ⟨reply, hr⟩ := hr
    obtain ⟨k, f, hk, hf, hfm⟩ := hs.wf.exists_beside he hm (hr.not_last hs.wf he hok)
    refine ⟨k, f, hf, hfm, fun reply' hr' => hk (hs.wf.key_inj hf he ?_), fun reason stack hc => ?_⟩
    · obtain ⟨rest, hq⟩ := hr.queue
      obtain ⟨rest', hq'⟩ := hr'.queue
      simp only [hq, List.cons.injEq, SupervisorCommand.removeChild.injEq] at hq'
      exact hq'.1.1.symm
    · obtain ⟨stack', hctrl⟩ := hr.ctrl
      rw [hc] at hctrl
      cases hctrl
  · by_cases hd : ∃ reason k, c.ctrl = .ret (.push (.detachDrain key reason) k) (.ok ())
    · obtain ⟨reason, stack, hc⟩ := hd
      obtain rfl : a = .resume := by
        rcases ha with ⟨w, rfl⟩ | rfl
        · simp [step, hc] at hstep
        · rfl
      have hl : (!c.rt.lastActive key) = true := by
        obtain ⟨rt, ctrl⟩ := c
        cases hc
        exact hok
      rw [Bool.not_eq_true'] at hl
      obtain ⟨k, f, hk, hf, hfm⟩ := hs.wf.exists_beside he hm hl
      refine ⟨k, f, hf, hfm, fun reply hr' => ?_, fun reason' stack' hc' => ?_⟩
      · obtain ⟨stack', hctrl⟩ := hr'.ctrl
        rw [hc] at hctrl
        cases hctrl
      · rw [hc] at hc'
        cases hc'
        exact hk rfl
    · exact ⟨key, e, he, hm, fun reply h => hr ⟨reply, h⟩, fun reason k h => hd ⟨reason, k, h⟩⟩

theorem Config.Sane.someActive {c c' : Config} {a : Act} (hs : c.Sane) (hok : keepsActive c a = true)
    (hstep : TokioSupervisor.step c a = some c') (hI : c.rt.SomeActive) : c'.rt.SomeActive := by
  have hwork (ha : (∃ w, a = .run w) ∨ a = .resume) : c'.rt.SomeActive := by
    obtain ⟨key, e, he, hm, hr, hd⟩ := Config.exists_kept hs hok hstep ha hI
    have hu := (step_rule hs hstep).updates hs.wf
    obtain ⟨f, hf, hfm, -⟩ := (hu.invariant (I := fun rt => ∃ f, rt.children.get key = some f ∧
      f.membership = .active ∧ f.id = e.id) hs.wf ⟨e, he, hm, rfl⟩ fun rt rt' hwf hf hup => by
        obtain ⟨f, hf, hfm, hid⟩ := hf
        obtain ⟨g, hg, hgm, hgid⟩ := hup.stays_active hwf hf hfm (hid ▸ hr) hd
        exact ⟨g, hg, hgm, hgid.trans hid⟩).2
    exact ⟨key, f, hf, hfm⟩
  rcases step_cases hstep with ha | ha | ⟨-, henv⟩
  · exact hwork (.inl ha)
  · exact hwork (.inr ha)
  · obtain ⟨key, e, he, hm⟩ := hI
    exact ⟨key, e, (envStep_frame henv).children ▸ he, hm⟩

/-! ### The refusal -/

theorem step_command {c c' : Config} {k : Stack .handleCommand} {key : ChildKey}
    {cmd : SupervisorCommand} {rest : List SupervisorCommand} (hk : HandlesCommand c.ctrl k)
    (hq : c.rt.commandRx.queue = cmd :: rest) (hstep : step c (.run (.command key)) = some c') :
    c.rt.children.vacant key = true ∧
      c' = settle c.rt ((c.rt.received rest).handleCommand key cmd k) := by
  obtain ⟨rt, ctrl⟩ := c
  have hrecv : rt.recvCommand = (rt.received rest, some cmd) := by
    unfold SupervisorRuntime.recvCommand
    rw [show rt.commandRx.queue = _ from hq]
    rfl
  simp only at hk
  cases hk <;> (
    dsimp only [step, wake] at hstep
    simp only [hrecv, Option.map_eq_some_iff, Option.ite_none_right_eq_some, Bool.and_eq_true] at hstep
    obtain ⟨x, ⟨hv, hx⟩, rfl⟩ := hstep
    cases hx
    refine ⟨?_, rfl⟩)
  · exact hv.2
  · exact hv
  · exact hv.2

/-- A removal that fails a precondition is answered at once, and changes no child. -/
theorem Handles.refused {c c' : Config} {id : String} {reply : Nat} {key : ChildKey} {e : ControlError}
    (h : Handles c (.removeChild id reply)) (hr : c.rt.removeRefusal id = some e)
    (hstep : step c (.run (.command key)) = some c') :
    ∃ rest k, c' = ⟨(c.rt.received rest).log (.handled reply),
      .ret (.push (.commandReply reply) k) (.error e)⟩ := by
  obtain ⟨k, hk⟩ := h.ctrl
  obtain ⟨rest, hq⟩ := h.queue
  have hhandle : (c.rt.received rest).handleCommand key (.removeChild id reply) k =
      .ok (((c.rt.received rest).log (.handled reply)).ret (.push (.commandReply reply) k) (.error e)) :=
    @removeChild_refused ((c.rt.received rest).log (.handled reply)) id e hr reply
      (.push (.commandReply reply) k)
  refine ⟨rest, k, ?_⟩
  rw [(step_command hk hq hstep).2, hhandle]
  rfl

/-- Where the guard counts right, a removal of the only active child is refused. -/
theorem removeRefusal_last {c : Config} {id : String} {reply : Nat} {key target : ChildKey}
    (hs : c.Sane) (h : Handles c (.removeChild id reply)) (hl : c.rt.childrenById.lookup id = some target)
    (hlast : c.rt.lastActive target = true) (hrun : c.rt.state = .running)
    (hok : keepsActive c (.run (.command key)) = true) :
    c.rt.removeRefusal id = some .lastChildRemovalUnsupported := by
  obtain ⟨e, he, -⟩ := (hs.wf.byId id target).1 hl
  obtain ⟨rest, hq⟩ := h.queue
  have hm : e.membership = .active := by
    simp only [lastActive, he, Option.any_some, Bool.and_eq_true, beq_iff_eq] at hlast
    exact hlast.1
  have hn : c.rt.activeChildCount ≤ 1 := by
    simpa [keepsActive, hq, hl, hlast, hrun] using hok
  simp [removeRefusal, hrun, hl, he, hm, hn]

/-! ### Runs -/

theorem insertInitial_some (rt : SupervisorRuntime) (specs : List ChildSpec)
    (h : specs ≠ [] ∨ ∃ key e, rt.children.get key = some e) :
    ∃ key e, (rt.insertInitial specs).children.get key = some e := by
  induction specs generalizing rt with
  | nil => exact h.resolve_left (fun hne => hne rfl)
  | cons spec rest ih =>
    rw [insertInitial_cons]
    exact ih _ (.inr ⟨_, _, inserted_get (vacant_length _) spec⟩)

/-- In a run that meets the condition some child is active in every state, and a removal of the only
active child is answered `LastChildRemovalUnsupported`. -/
theorem run_someActive {config : SupervisorConfig} {env : StartEnv} {as : List Act} {c : Config}
    (h : config.Accepted)
    (hrun : Run step (fun c a => keepsActive c a = true) (Config.start config env) as c) :
    c.rt.SomeActive ∧ ∀ id reply key target c', Handles c (.removeChild id reply) →
      c.rt.childrenById.lookup id = some target → c.rt.lastActive target = true →
      c.rt.state = .running → keepsActive c (.run (.command key)) = true →
      step c (.run (.command key)) = some c' → c'.rt.children = c.rt.children ∧
        ∃ k, c'.ctrl = .ret (.push (.commandReply reply) k) (.error .lastChildRemovalUnsupported) := by
  refine ⟨?_, fun id reply key target c' hh hl hlast hs hok hstep => ?_⟩
  · refine hrun.invariant_of (I := fun c => c.rt.SomeActive) (fun _ _ h' => run_sane h h') ?_
      fun c a c' hs hI hok hstep => hs.someActive hok hstep hI
    obtain ⟨key, e, he⟩ := insertInitial_some _ _ (.inl h.children_ne_nil)
    exact ⟨key, e, he, ((h.fresh env).unborn key e he).membership⟩
  · obtain ⟨rest, k, rfl⟩ :=
      hh.refused (removeRefusal_last (run_sane h hrun) hh hl hlast hs hok) hstep
    exact ⟨rfl, k, rfl⟩

/-! ### A removal while the others are marked -/

def pairConfig : SupervisorConfig := { reuseConfig with
  children := [cooperativeChild "a", cooperativeChild "b"] }

theorem pairConfig_accepted : pairConfig.Accepted :=
  ⟨⟨pairConfig.strategy, pairConfig.restartIntensity, pairConfig.children, 8, 8⟩, rfl⟩

/-- The removal of `a` waits, `b` fails and waits for its restart, and is removed in that wait. -/
def emptyActs : List Act :=
  [.run .go, .send (.removeChild "a" 0), .run (.command 2),
   .finish 1 (.returned (.error "failed")), .run (.join 1),
   .send (.removeChild "b" 1), .run (.command 2)]

/-- Then the only child left is `a`, which is being removed. -/
theorem empty_supervisor_reached : pairConfig.Accepted ∧
    ∃ c, AnyRun step (Config.start pairConfig ⟨false, 0, 0⟩) emptyActs c ∧
      c.rt.state = .running ∧ c.ctrl.ended = false ∧ ¬ c.rt.SomeActive := by
  have hex : ∃ c, AnyRun step (Config.start pairConfig ⟨false, 0, 0⟩) emptyActs c ∧
      (c.rt.state, c.ctrl.ended, c.rt.children.iter.map (·.membership)) =
        (.running, false, [.removing]) := anyRun_of_exec (by decide +kernel)
  obtain ⟨c, hrun, hc⟩ := hex
  simp only [Prod.mk.injEq] at hc
  refine ⟨pairConfig_accepted, c, hrun, hc.1, hc.2.1, fun ⟨key, e, he, hm⟩ => ?_⟩
  have hmem : e.membership ∈ c.rt.children.iter.map (·.membership) :=
    List.mem_map_of_mem (Slab.mem_iter.2 ⟨key, he⟩)
  rw [hc.2.2, List.mem_singleton, hm] at hmem
  cases hmem

/-- Before it the second removal finds `b` the only active child. -/
theorem run_someActive_pair : ∃ c : Config, c.rt.children.iter.map (·.membership) = [.removing, .active] ∧
    c.rt.SomeActive := by
  have hex : ∃ c, Run step (fun c a => keepsActive c a = true) (Config.start pairConfig ⟨false, 0, 0⟩)
      (emptyActs.take 6) c ∧ c.rt.children.iter.map (·.membership) = [.removing, .active] :=
    run_of_execIf_map (by decide +kernel)
  obtain ⟨c, hrun, hc⟩ := hex
  exact ⟨c, hc, (run_someActive pairConfig_accepted hrun).1⟩

end TokioSupervisor
