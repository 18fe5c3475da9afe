import TokioSupervisor.Runtime.Counters
import TokioSupervisor.Runtime.Drains

/-!
# The contract of `drain_children`

A drain never depends on its children: when none of them ends, its own steps and the clock lead to a
return (`Drain.Inv.canEnd`). What it returns and which children it aborts follows from its phases.
-/

namespace TokioSupervisor
open Lib SupervisorRuntime

section
variable {rt₀ rt rt' : SupervisorRuntime} {single : Prop} {a : Act} {reason : DrainReason}
  {k : Stack (.drainChildren reason)} {c c' : Config}

/-! ### The end of a drain -/

theorem readyJoins_enabled (hwf : rt.Wf) (k : Stack (.drainReadyJoins reason)) :
    ∃ w c', step ⟨rt, .await (.readyJoins reason) k⟩ (.run w) = some c' ∧
      (c'.ctrl = .await (.readyJoins reason) k ∧ c'.rt.joinSet.tasks.length < rt.joinSet.tasks.length ∨
        c' = ⟨rt, .ret k (.ok ())⟩) := by
  have hdone {w : Wake} (h : wake (.readyJoins reason) w rt k = some (.ok (rt.ret k (.ok ())))) :
      ∃ w c', step ⟨rt, .await (.readyJoins reason) k⟩ (.run w) = some c' ∧
        (c'.ctrl = .await (.readyJoins reason) k ∧ c'.rt.joinSet.tasks.length < rt.joinSet.tasks.length ∨
          c' = ⟨rt, .ret k (.ok ())⟩) :=
    ⟨w, _, congrArg (Option.map (settle rt)) h, .inr rfl⟩
  cases hfin : rt.joinSet.anyFinished with
  | true =>
    obtain ⟨id, ⟨rt₁, joined⟩, hjoin⟩ := hwf.exists_joinTask hfin
    obtain ⟨u, outcome, rt', hid, hf, hd, heq⟩ := hwf.handleDrainedJoin hjoin reason
    refine ⟨.join id, ⟨rt', .await (.readyJoins reason) k⟩, ?_, .inl ⟨rfl, ?_⟩⟩
    · show (wake (.readyJoins reason) (.join id) rt k).map _ = _
      dsimp only [wake]
      simp only [hjoin, Option.map_some, heq, ok_bind]
      rfl
    · have htasks : rt'.joinSet.tasks = rt.joinSet.tasks.filter (·.id != u.id) := by
        cases hd <;> rfl
      rw [htasks]
      refine List.length_filter_lt_length_iff_exists.2 ⟨u, hf.mem, by simp⟩
  | false =>
    cases hempty : rt.joinSet.isEmpty with
    | true => exact hdone (w := .joinNone) (if_pos hempty)
    | false => exact hdone (w := .timer) (if_pos (by simp [joinPending, hfin, hempty]))

theorem drainReturn_ret (rt : SupervisorRuntime) (names : String) (k : Stack (.drainChildren reason)) :
    ∃ v, rt.drainReturn reason names k = rt.ret k v := by
  unfold drainReturn
  cases reason with
  | shutdown | groupRestart =>
    dsimp only
    split
    · exact ⟨_, rfl⟩
    · split <;> exact ⟨_, rfl⟩

/-- The steps that need no child to end. -/
def Act.unaided : Act → Bool
  | .run _ | .resume | .tick .. => true
  | _ => false

namespace Drain
variable {d d' : Drain}

/-- By steps of its own, and as time passes, the drain returns, or a deadline cannot be represented. -/
def CanEnd (k : Stack (.drainChildren reason)) (d : Drain) : Prop :=
  ∃ as d', Run Drain.step (fun d a => d.config.ctrl.draining = true ∧ a.unaided = true) d as d' ∧
    ((∃ v, d'.config.ctrl = .ret k v) ∨ d'.config.ctrl = .panicked .instantOverflow)

theorem CanEnd.step {a : Act} (hd : d.config.ctrl.draining = true) (ha : a.unaided = true)
    (hstep : d.step a = some d') (h : d'.CanEnd k) : d.CanEnd k := by
  obtain ⟨as, d'', hrun, hend⟩ := h
  exact ⟨_, d'', (Run.single ⟨hd, ha⟩ hstep).trans hrun, hend⟩

theorem Inv.canEnd_ended (h : d.Inv rt₀ reason k single) (hd : d.config.ctrl.draining = false) :
    d.CanEnd k := by
  refine ⟨[], d, .nil, ?_⟩
  obtain ⟨⟨rt, ctrl⟩, overdue⟩ := d
  have hphase := h.phase
  dsimp only at hphase
  cases hphase with
  | returned hv => exact .inl ⟨_, rfl⟩
  | panicked => exact .inr rfl
  | _ => cases hd

theorem Inv.canEnd_of (h : d.Inv rt₀ reason k single) (hwf₀ : rt₀.Wf) {a : Act} {c' : Config}
    (hd : d.config.ctrl.draining = true) (ha : a.unaided = true)
    (hstep : TokioSupervisor.step d.config a = some c')
    (hnext : ∀ d' : Drain, d'.Inv rt₀ reason k single → d'.config = c' → d'.CanEnd k) : d.CanEnd k := by
  have hstep' : d.step a = some ⟨c', if d.config.passesGrace a then some d.config.rt else d.overdue⟩ := by
    rw [Drain.step, hstep]
    rfl
  exact .step hd ha hstep' (hnext _ (h.step hwf₀ hd hstep') rfl)

theorem Inv.canEnd_sweep (hwf₀ : rt₀.Wf) (k' : Stack (.drainReadyJoins reason))
    (hd : (Ctrl.await (.readyJoins reason) k').draining = true)
    (hnext : ∀ d : Drain, d.Inv rt₀ reason k single → d.config.ctrl = .ret k' (.ok ()) → d.CanEnd k)
    (h : d.Inv rt₀ reason k single) (hc : d.config.ctrl = .await (.readyJoins reason) k') : d.CanEnd k := by
  induction hn : d.config.rt.joinSet.tasks.length using Nat.strong_induction_on generalizing d with
  | _ n ih =>
    obtain ⟨⟨rt, ctrl⟩, overdue⟩ := d
    cases hc
    obtain ⟨w, c', hstep, hc'⟩ := readyJoins_enabled h.drained.wf k'
    refine h.canEnd_of hwf₀ hd rfl hstep fun d' h' heq => ?_
    rcases hc' with ⟨hctrl, hlt⟩ | rfl
    · exact ih _ (by rw [heq, ← hn]; exact hlt) h' (by rw [heq]; exact hctrl) rfl
    · exact hnext d' h' (by rw [heq])

theorem Inv.canEnd_last (hwf₀ : rt₀.Wf) (h : d.Inv rt₀ reason k single) {names : String}
    (hc : d.config.ctrl = .ret (.push (.drainSecond reason names) k) (.ok ())) : d.CanEnd k := by
  obtain ⟨⟨rt, ctrl⟩, overdue⟩ := d
  cases hc
  refine h.canEnd_of hwf₀ (a := .resume) rfl rfl rfl fun d' h' heq => h'.canEnd_ended ?_
  obtain ⟨v, hv⟩ := drainReturn_ret rt names k
  have heq : d'.config = rt.drainReturn reason names k := heq
  rw [heq, hv]
  exact Ctrl.draining_ret v

theorem Inv.canEnd_second (hwf₀ : rt₀.Wf) (h : d.Inv rt₀ reason k single) {names : String}
    (hc : d.config.ctrl = .await (.readyJoins reason) (.push (.drainSecond reason names) k)) : d.CanEnd k :=
  h.canEnd_sweep hwf₀ _ rfl (fun _ h hc => h.canEnd_last hwf₀ hc) hc

theorem Inv.canEnd_abort (hwf₀ : rt₀.Wf) (h : d.Inv rt₀ reason k single) {names : String}
    (hc : d.config.ctrl = .await (.drainAbortYield reason names) k) : d.CanEnd k := by
  obtain ⟨⟨rt, ctrl⟩, overdue⟩ := d
  cases hc
  refine h.canEnd_of hwf₀ (a := .run .go) rfl rfl rfl fun d' h' heq => ?_
  exact h'.canEnd_second hwf₀ (by rw [heq]; rfl)

theorem Inv.canEnd_afterGrace (hwf₀ : rt₀.Wf) (h : d.Inv rt₀ reason k single) (hwf : rt.Wf)
    (hc : d.config = rt.drainAfterGrace reason k) : d.CanEnd k := by
  rcases drainAfterGrace_cases hwf reason k with ⟨-, heq⟩ | ⟨-, heq⟩
  · refine h.canEnd_ended ?_
    rw [hc, heq]
    exact Ctrl.draining_ret _
  · exact h.canEnd_abort hwf₀ (by rw [hc, heq])

theorem Inv.canEnd_select (hwf₀ : rt₀.Wf) (h : d.Inv rt₀ reason k single) {deadline : Instant}
    (hmax : deadline ≤ Instant.MAX) (hc : d.config.ctrl = .await (.drainSelect reason deadline) k) :
    d.CanEnd k := by
  have htimer {d : Drain} (h : d.Inv rt₀ reason k single)
      (hc : d.config.ctrl = .await (.drainSelect reason deadline) k) (hle : deadline ≤ d.config.rt.now) :
      d.CanEnd k := by
    obtain ⟨⟨rt, ctrl⟩, overdue⟩ := d
    cases hc
    have hstep : TokioSupervisor.step ⟨rt, .await (.drainSelect reason deadline) k⟩ (.run .timer) =
        some (rt.drainAfterGrace reason k) := by
      show (wake (.drainSelect reason deadline) .timer rt k).map _ = _
      dsimp only [wake]
      rw [if_pos hle]
      rfl
    exact h.canEnd_of hwf₀ rfl rfl hstep fun d' h' heq => h'.canEnd_afterGrace hwf₀ h.drained.wf heq
  by_cases hle : deadline ≤ d.config.rt.now
  · exact htimer h hc hle
  · obtain ⟨⟨rt, ctrl⟩, overdue⟩ := d
    cases hc
    have hsum : rt.now + (deadline - rt.now) = deadline := Nat.add_sub_cancel' (Nat.le_of_not_le hle)
    have hstep : TokioSupervisor.step ⟨rt, .await (.drainSelect reason deadline) k⟩
        (.tick (deadline - rt.now) 0) = some ⟨{ rt with now := deadline, wallClock := 0 },
          .await (.drainSelect reason deadline) k⟩ := by
      simp only [TokioSupervisor.step, envStep, hsum, if_pos hmax, Option.map_some]
    exact h.canEnd_of hwf₀ rfl rfl hstep fun d' h' heq => htimer h' (by rw [heq]) (by rw [heq])

theorem Inv.canEnd_first (hwf₀ : rt₀.Wf) (h : d.Inv rt₀ reason k single) {maxGrace : Option Duration}
    (hc : d.config.ctrl = .ret (.push (.drainFirst reason maxGrace) k) (.ok ())) : d.CanEnd k := by
  obtain ⟨⟨rt, ctrl⟩, overdue⟩ := d
  cases hc
  refine h.canEnd_of hwf₀ (a := .resume) rfl rfl rfl fun d' h' heq => ?_
  dsimp only [TokioSupervisor.resume] at heq
  split at heq
  · refine h'.canEnd_ended ?_
    rw [heq]
    exact Ctrl.draining_ret _
  · rename_i hl
    cases maxGrace with
    | none => exact h'.canEnd_afterGrace hwf₀ h.drained.wf heq
    | some grace =>
      dsimp only [instantAdd] at heq
      cases hdeadline : rt.now.checkedAdd grace with
      | none =>
        rw [hdeadline] at heq
        refine h'.canEnd_ended ?_
        rw [heq]
        rfl
      | some deadline =>
        rw [hdeadline] at heq
        have heq : d'.config = rt.drainLoop reason deadline k := heq
        rw [drainLoop, if_neg hl] at heq
        simp only [Instant.checkedAdd, Option.ite_none_right_eq_some, Option.some.injEq] at hdeadline
        exact h'.canEnd_select hwf₀ (hdeadline.2 ▸ hdeadline.1) (by rw [heq])

/-- From every state of it a drain can end. -/
theorem Inv.canEnd (hwf₀ : rt₀.Wf) (h : d.Inv rt₀ reason k single) : d.CanEnd k := by
  cases hd : d.config.ctrl.draining with
  | false => exact h.canEnd_ended hd
  | true =>
    obtain ⟨⟨rt, ctrl⟩, overdue⟩ := d
    have hphase := h.phase
    dsimp only at hphase
    cases hphase with
    | yield =>
      refine h.canEnd_of hwf₀ (a := .run .go) rfl rfl rfl fun d' h' heq => ?_
      exact h'.canEnd_sweep hwf₀ (.push (.drainFirst reason rt₀.maxGrace) k) rfl
        (fun _ h hc => h.canEnd_first hwf₀ hc) (by rw [heq]; rfl)
    | first => exact h.canEnd_sweep hwf₀ _ rfl (fun _ h hc => h.canEnd_first hwf₀ hc) rfl
    | firstDone => exact h.canEnd_first hwf₀ rfl
    | select hg hle hmax => exact h.canEnd_select hwf₀ hmax rfl
    | abortYield hwf => exact h.canEnd_abort hwf₀ rfl
    | second hwf => exact h.canEnd_second hwf₀ rfl
    | secondDone hwf => exact h.canEnd_last hwf₀ rfl
    | returned hv =>
      rw [Ctrl.draining_ret] at hd
      cases hd
    | panicked => cases hd

end Drain
end

/-! ### The contract -/

/-- What `drain_children`, called in the state `rt₀`, promises. -/
structure Drain.Contract (rt₀ : SupervisorRuntime) (reason : DrainReason) (k : Stack (.drainChildren reason))
    (d : Drain) : Prop where
  spares : rt₀.Spares d.config.rt
  /-- A shutdown reports exactly the cooperative children that were late. -/
  shutdown : ∀ v, reason = .shutdown → d.config.ctrl = .ret k v →
    v = if d.timedOut = [] then .ok ()
      else .error (.shutdownTimedOut (", ".intercalate (d.timedOut.map (·.id))))
  /-- A group restart goes on only when every child has stopped, and none was late. -/
  groupRestart : ∀ v, reason = .groupRestart → d.config.ctrl = .ret k v →
    (v = .ok () ↔ d.timedOut = [] ∧ ∀ key e, d.config.rt.children.get key = some e → e.active = false) ∧
      (v = .ok () ∨ ∃ names, v = .error (.shutdownTimedOut names))
  aborted : ∀ past, d.overdue = some past → past.Aborted d.config.rt
  /-- A drain goes past the grace period when each grace is over; where there is none, nobody is late. -/
  overdue : ∀ past, d.overdue = some past →
    (∀ grace, rt₀.maxGrace = some grace → rt₀.now + grace.nanos ≤ past.now) ∧
      (rt₀.maxGrace = none → past.late = [])
  /-- The drain returns whatever the children do. -/
  ends : d.CanEnd k

section
variable {rt₀ : SupervisorRuntime} {single : Prop} {reason : DrainReason} {k : Stack (.drainChildren reason)}

theorem Drain.inv_start (hwf : rt₀.Wf) (hown : rt₀.Owned single) (reason : DrainReason)
    (k : Stack (.drainChildren reason)) : (Drain.start rt₀ reason k).Inv rt₀ reason k single := by
  have hclosed : rt₀.Drained { rt₀ with commandRx := { rt₀.commandRx with closed := true } } single :=
    ⟨hwf, hown.congr rfl rfl rfl rfl, Nat.le_refl _, fun _ e he => ⟨e, he, rfl, .inr rfl⟩⟩
  have hswept : rt₀.Drained rt₀.swept single :=
    hclosed.aborts fun child => child.runtime.spec.shutdownPolicy.mode == ShutdownMode.abort
  show Drain.Inv rt₀ reason k single ⟨⟨rt₀.swept, .await (.drainYield reason rt₀.maxGrace) k⟩, none⟩
  exact ⟨hswept, .swept hwf hown, fun past hp => (Option.some_ne_none past hp.symm).elim,
    fun past hp => (Option.some_ne_none past hp.symm).elim, .yield⟩

theorem Drain.Phase.result {rt : SupervisorRuntime} {overdue : Option SupervisorRuntime}
    {v : Except SupervisorError Unit} (h : Drain.Phase rt₀ reason k rt overdue (.ret k v)) :
    Drain.Returns reason (overdue.elim [] (·.late)) rt v := by
  cases h with
  | returned hv => exact hv

theorem Drain.Inv.contract {d : Drain} (h : d.Inv rt₀ reason k single) (hwf : rt₀.Wf) :
    d.Contract rt₀ reason k := by
  have hresult {v : Except SupervisorError Unit} (hv : d.config.ctrl = .ret k v) :
      Drain.Returns reason d.timedOut d.config.rt v := by
    have hphase := h.phase
    rw [hv] at hphase
    exact hphase.result
  refine ⟨h.spares, fun v hr hv => ?_, fun v hr hv => ?_, h.aborted, fun past hpast => ?_, h.canEnd hwf⟩
  · cases hresult hv with
    | timedOut hl => rw [if_neg hl]
    | stopped hl _ | givenUp hl _ => rw [if_pos hl]
    | remaining _ _ hr' _ =>
      rw [hr] at hr'
      cases hr'
  · cases hresult hv with
    | timedOut hl => exact ⟨⟨nofun, fun hok => absurd hok.1 hl⟩, .inr ⟨_, rfl⟩⟩
    | stopped hl hq => exact ⟨⟨fun _ => ⟨hl, hq⟩, fun _ => rfl⟩, .inl rfl⟩
    | givenUp _ hr' =>
      rw [hr] at hr'
      cases hr'
    | remaining names hl _ ha =>
      obtain ⟨key, e, he, ha⟩ := ha
      refine ⟨⟨nofun, fun hok => ?_⟩, .inr ⟨names, rfl⟩⟩
      rw [hok.2 key e he] at ha
      cases ha
  · obtain ⟨hdrained, hgrace⟩ := h.past past hpast
    exact ⟨hgrace, hdrained.late_nil hwf⟩

/-- `drain_children` keeps its contract, from any state whose handles and tasks belong together. -/
theorem drain_contract {as : List Act} {d : Drain} (hwf : rt₀.Wf) (hown : rt₀.Owned single)
    (hrun : Run Drain.step (fun d _ => d.config.ctrl.draining = true) (.start rt₀ reason k) as d) :
    d.Contract rt₀ reason k :=
  (hrun.invariant (Drain.inv_start hwf hown reason k) fun _ _ _ hI hd hstep => hI.step hwf hd hstep).contract hwf

/-- The ghost of a drain does not restrict the runs of the machine. -/
theorem Drain.run_of_run {as : List Act} {c : Config}
    (hrun : Run TokioSupervisor.step (fun c _ => c.ctrl.draining = true) (rt₀.drainChildren reason k) as c) :
    ∃ d : Drain, Run Drain.step (fun d _ => d.config.ctrl.draining = true) (.start rt₀ reason k) as d ∧
      d.config = c := by
  induction hrun with
  | nil => exact ⟨_, .nil, rfl⟩
  | snoc _ hd hstep ih =>
    obtain ⟨d, hrun, rfl⟩ := ih
    have hstep' : d.step _ = some ⟨_, _⟩ := congrArg (Option.map _) hstep
    exact ⟨_, .snoc hrun hd hstep', rfl⟩

/-! ### The callers -/

theorem drainForGroupRestart_drains {rt : SupervisorRuntime} (hwf : rt.Wf) (hown : rt.Owned single)
    (k : Stack .drainForGroupRestart) : ∃ rt₀ : SupervisorRuntime, rt₀.Wf ∧ rt₀.Owned single ∧
      rt.drainForGroupRestart k = rt₀.drainChildren .groupRestart (.push .groupDrain k) :=
  ⟨_, hwf.cancelRunningChildren.choose_spec.choose_spec.2.2.2.2, hown.cancelRunningChildren hwf, rfl⟩

theorem shutdownAll_drains {rt : SupervisorRuntime} (hwf : rt.Wf) (hown : rt.Owned single)
    (k : Stack .shutdownAll) : ∃ rt₀ : SupervisorRuntime, rt₀.Wf ∧ rt₀.Owned single ∧
      rt.shutdownAll k = .ok (rt₀.drainChildren .shutdown (.push .shutdownDrain k)) := by
  let rt₁ : SupervisorRuntime := { rt with state := .stopping }
  have hwf₁ : rt₁.Wf := hwf
  have hown₁ : rt₁.Owned single := hown.congr rfl rfl rfl rfl
  obtain ⟨C, n, -, -, -, -, hwf₂⟩ := hwf₁.cancelRunningChildren
  have hown₂ := hown₁.cancelRunningChildren hwf₁
  refine ⟨rt₁.cancelRunningChildren.emitted none .supervisorStopping, hwf₂, hown₂.congr rfl rfl rfl rfl, ?_⟩
  show (rt₁.cancelRunningChildren.sendEvent none .supervisorStopping).map _ = _
  rw [hwf₂.sendEvent]
  rfl

end
/-! ### Two modes -/

/-- A child that may be aborted and one that may not, with the same grace. -/
def mixedConfig : SupervisorConfig := { reuseConfig with
  children := [⟨"cooperative-then-abort", .transient, none, ⟨.fromSecs 5, .cooperativeThenAbort⟩⟩,
    cooperativeChild "cooperative"] }

theorem mixedConfig_accepted : mixedConfig.Accepted :=
  ⟨⟨mixedConfig.strategy, mixedConfig.restartIntensity, mixedConfig.children, 8, 8⟩, rfl⟩

/-- Neither child ends until it is aborted. -/
def mixedActs : List Act :=
  [.run .go, .run .timer, .resume, .tick (5 * NANOS_PER_SEC) 0, .run .timer, .run .go, .finish 0 .cancelled,
   .run (.join 0), .finish 1 .cancelled, .run (.join 1), .run .joinNone, .resume]

/-- Both are aborted, only the cooperative one is reported. -/
theorem drain_contract_mixed : ∃ (rt₀ : SupervisorRuntime) (k : Stack (.drainChildren .shutdown)) (d : Drain),
    d.timedOut.map (·.id) = ["cooperative"] ∧ d.config.rt.joinSet.tasks = [] ∧ d.Contract rt₀ .shutdown k := by
  let k : Stack (.drainChildren .shutdown) := .push .shutdownDrain (.push .runShutdown .nil)
  have hex : ((execIf step (fun c _ => restartsTold c && instancesLeft c) (Config.start mixedConfig ⟨false, 0, 0⟩)
      [.run .go]).bind fun c => (execIf Drain.step (fun d _ => d.config.ctrl.draining) (.start c.rt .shutdown k)
        mixedActs).map fun d => (d.timedOut.map (·.id), d.config.rt.joinSet.tasks.isEmpty)) =
      some (["cooperative"], true) := by decide +kernel
  obtain ⟨c, hc, hex⟩ := Option.bind_eq_some_iff.1 hex
  obtain ⟨d, hd, hproj⟩ := Option.map_eq_some_iff.1 hex
  have hrun := run_of_execIf hc
  have hlate := congrArg Prod.fst hproj
  have htasks := congrArg Prod.snd hproj
  have hown : c.rt.Owned False := (run_owned mixedConfig_accepted
    (fun _ _ ha => ⟨False.elim, (Bool.and_eq_true _ _).mp ha⟩) (by decide) hrun).1
  exact ⟨c.rt, k, d, hlate, List.isEmpty_iff.1 htasks,
    drain_contract (run_sane mixedConfig_accepted hrun).wf hown (run_of_execIf hd)⟩

end TokioSupervisor
