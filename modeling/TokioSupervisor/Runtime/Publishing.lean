import TokioSupervisor.Runtime.Observed
import TokioSupervisor.Runtime.Group
import TokioSupervisor.Runtime.LastChild

/-!
# The published snapshot

`drain_for_group_restart` marks the children that run as stopping and waits for them without an event:
until the first of them exits, subscribers still see them run. `publishesDrain` rules these drains out;
at every other await the last published snapshot is the present one.
-/

namespace TokioSupervisor
open Lib SupervisorRuntime

/-- A suspension point after the initial children have been spawned. -/
def Ctrl.suspended : Ctrl → Bool
  | .await .runStart _ => false
  | .await _ _ => true
  | _ => false

/-- Where the runtime is suspended, the last snapshot on the watch channel is the present one. -/
def Config.Published (c : Config) : Prop := c.ctrl.suspended = true → c.rt.Shown

/-- The debug event before a group restart's drain indexes a vacant slot. -/
def Config.logsVacant (c : Config) : Bool :=
  match c.ctrl with
  | .ret (.push (.oneForAllDelay key) _) _ => c.rt.info.debugEnabled && (c.rt.children.get key).isNone
  | _ => false

/-- The step does not begin a group restart's drain while a child runs. -/
def publishesDrain (c : Config) (a : Act) : Bool :=
  !(c.ctrl.startsDrain && a matches .resume) || c.logsVacant || !c.rt.children.iter.any (·.counts)

/-! ### Marking the children -/

section
variable {rt : SupervisorRuntime}

theorem swept_shown_iff (rt : SupervisorRuntime) : rt.swept.Shown ↔ rt.Shown := by
  have hfield := @abortMatchingChildren_field { rt with commandRx := { rt.commandRx with closed := true } } _
    (fun rt => (rt.snapshots, rt.view.timeless)) (fun rt e => by unfold abortedChild; split <;> rfl)
    fun child => child.runtime.spec.shutdownPolicy.mode == ShutdownMode.abort
  obtain ⟨hsnapshots, hview⟩ := Prod.mk.inj hfield
  show _ = some rt.swept.view.timeless ↔ _
  unfold swept
  rw [hsnapshots, hview]
  rfl

theorem ChildEntry.face_stopping (e : ChildEntry) : e.face = e.stopping.face ↔ e.counts = false := by
  constructor
  · intro h
    have hstate : e.runtime.state.view = e.stopping.runtime.state.view := congrArg (·.state) h
    by_contra hcounts
    rw [Bool.not_eq_false] at hcounts
    have hstopping : e.stopping.runtime.state = .stopping := by
      rw [ChildEntry.stopping, if_pos hcounts]
      rfl
    rw [hstopping] at hstate
    cases hst : e.runtime.state with
    | starting | running | stopped =>
      rw [hst] at hstate
      cases hstate
    | stopping => simp [ChildEntry.counts, countsAsRunning, hst] at hcounts
  · intro h
    rw [ChildEntry.stopping, if_neg (by simp [h])]

/-- The drain of a group restart is shown where no child runs. -/
theorem SupervisorRuntime.Shown.cancelled_iff (h : rt.Shown) (hwf : rt.Wf) :
    rt.cancelRunningChildren.swept.Shown ↔ rt.children.iter.any (·.counts) = false := by
  obtain ⟨C, n, heq, hget, -⟩ := hwf.cancelRunningChildren
  have hshown : rt.cancelRunningChildren.Shown ↔ rt.view.timeless = rt.cancelRunningChildren.view.timeless := by
    have hsnapshots : rt.cancelRunningChildren.snapshots = rt.snapshots := by rw [heq]; rfl
    have h : rt.snapshots.head?.map (·.timeless) = some rt.view.timeless := h
    rw [Shown, hsnapshots, h, Option.some.injEq]
  have hview : rt.cancelRunningChildren.view.timeless = ⟨rt.state.view, rt.lastExit, rt.info.strategy,
      (rt.childOrder.filterMap rt.children.get).map fun e => e.stopping.face⟩ := by
    rw [view_timeless, List.map_filterMap]
    have hchildren : (fun key => (rt.cancelRunningChildren.children.get key).map ChildEntry.face) =
        fun key => (rt.children.get key).map fun e => e.stopping.face := by
      funext key
      rw [show rt.cancelRunningChildren.children = C from by rw [heq]; rfl, hget, Option.map_map]
      rfl
    rw [hchildren, heq]
    rfl
  have hmem (e : ChildEntry) : e ∈ rt.childOrder.filterMap rt.children.get ↔ e ∈ rt.children.iter := by
    simp only [List.mem_filterMap, Slab.mem_iter]
    constructor
    · rintro ⟨key, -, he⟩
      exact ⟨key, he⟩
    · rintro ⟨key, he⟩
      exact ⟨key, (hwf.order key).2 ⟨e, he⟩, he⟩
  rw [swept_shown_iff, hshown, hview, view_timeless, ← List.map_filterMap]
  simp only [SupervisorSnapshot.mk.injEq, true_and, List.map_inj_left, hmem, ChildEntry.face_stopping,
    List.any_eq_false, Bool.not_eq_true]

end

/-! ### Steps and runs -/

section
variable {rt rt₁ rt' : SupervisorRuntime} {c c' : Config} {a : Act}

theorem finishedWith_shown (rt : SupervisorRuntime) (exit : SupervisorExit) : (rt.finishedWith exit).Shown :=
  emitted_shown _ _ rfl

theorem LoopHead.shown {ctrl : Ctrl} (h : LoopHead rt₁ rt' ctrl) (hs : rt₁.Shown) : rt'.Shown := by
  cases h with
  | exit hp => exact (exit_steady rt₁).shown hs
  | natural hp hl hr => exact (dropReceiver_steady _).shown (finishedWith_shown _ _)
  | wait hp => exact hs

theorem Ctrl.startsDrain_eq {ctrl : Ctrl} (h : ctrl.startsDrain = true) :
    ∃ key k, ctrl = .ret (.push (.oneForAllDelay key) k) (.ok true) := by
  unfold Ctrl.startsDrain at h
  split at h
  · exact ⟨_, _, rfl⟩
  · cases h

theorem drains_step (hc : c.ctrl.startsDrain = true) (hstep : step c .resume = some c') :
    if c.logsVacant = true then c'.rt = c.rt.dropReceiver ∧ ∃ p, c'.ctrl = .panicked p
    else c'.rt = c.rt.cancelRunningChildren.swept := by
  obtain ⟨rt, ctrl⟩ := c
  obtain ⟨key, k, rfl⟩ := Ctrl.startsDrain_eq hc
  have hstep := Option.some.inj hstep
  dsimp only [resume] at hstep
  simp only [Config.logsVacant, Bool.and_eq_true, Option.isNone_iff_eq_none]
  split
  · rename_i hv
    rw [if_pos hv.1, index_vacant hv.2] at hstep
    subst hstep
    exact ⟨rfl, _, rfl⟩
  · rename_i hv
    by_cases hd : rt.info.debugEnabled = true
    · obtain ⟨e, he⟩ := Option.ne_none_iff_exists'.1 fun he => hv ⟨hd, he⟩
      rw [if_pos hd, index_eq he] at hstep
      subst hstep
      rfl
    · rw [if_neg hd] at hstep
      subst hstep
      rfl

/-- A step that meets the condition leaves nothing unshown. -/
theorem shown_step (hs : c.Sane) (h : c.rt.Shown) (hok : publishesDrain c a = true)
    (hstep : step c a = some c') : c'.rt.Shown := by
  cases step_effect hs hstep with
  | steady hsteady => exact hsteady.shown h
  | drains hc ha hrt =>
    subst ha
    have hdrains := drains_step hc hstep
    split at hdrains
    · rw [hdrains.1]
      exact (dropReceiver_steady _).shown h
    · rename_i hv
      rw [hrt, h.cancelled_iff hs.wf]
      simpa [publishesDrain, hc, hv] using hok
  | begins hb hq hshown => exact hshown
  | ends hsteady hrt =>
    rcases hrt with hrt | hrt <;> rw [hrt]
    · exact finishedWith_shown _ _
    · exact (dropReceiver_steady _).shown (finishedWith_shown _ _)

theorem publishesDrain_false (h : publishesDrain c a = false) :
    c.ctrl.startsDrain = true ∧ a = .resume ∧ c.logsVacant = false ∧
      c.rt.children.iter.any (·.counts) = true := by
  simp only [publishesDrain, Bool.or_eq_false_iff, Bool.not_eq_false', Bool.and_eq_true] at h
  refine ⟨h.1.1.1, ?_, h.1.2, h.2⟩
  cases a <;> first | rfl | cases h.1.1.2

end

section
variable {config : SupervisorConfig} {env : StartEnv} {as : List Act} {c : Config}

theorem run_childAtStart {ok : Config → Act → Prop} (h : config.Accepted)
    (hrun : Run step ok (Config.start config env) as c) (hc : c.ctrl = .await .runStart .nil) :
    ∃ key e, c.rt.children.get key = some e := by
  refine run_unstarted (I := fun rt => ∃ key e, rt.children.get key = some e) h hrun
    (insertInitial_some _ _ (.inl h.children_ne_nil)) (fun rt rt' a hI henv => ?_) hc
  rw [(envStep_frame henv).children]
  exact hI

/-- Once the initial children are spawned, everything is shown. -/
theorem run_shown (h : config.Accepted)
    (hrun : Run step (fun c a => publishesDrain c a = true) (Config.start config env) as c) :
    c.ctrl = .await .runStart .nil ∨ (∃ p, c.ctrl = .panicked p) ∨ c.rt.Shown := by
  refine hrun.invariant_of (I := fun c => c.ctrl = .await .runStart .nil ∨ (∃ p, c.ctrl = .panicked p) ∨
    c.rt.Shown) (fun _ _ h' => And.intro (run_sane h h') (run_childAtStart h h')) (.inl rfl) ?_
  rintro c a c' ⟨hs, hchild⟩ hI hok hstep
  rcases hI with hc | ⟨p, hp⟩ | hI
  · have hr := step_rule hs hstep
    rw [hc] at hr
    rcases hr.from_start with ⟨-, hc'⟩ | hp | hl
    · exact .inl hc'
    · exact .inr (.inl hp)
    · obtain ⟨key, e, he⟩ := hchild hc
      exact .inr (.inr (hl.shown (spawnedAll_shown ⟨key, (hs.wf.order key).2 ⟨e, he⟩, e, he⟩)))
  · exact .inr (.inl ⟨p, (ended_step (by rw [hp]; rfl) hstep).1.trans hp⟩)
  · exact .inr (.inr (shown_step hs hI hok hstep))

/-- In a run that meets the condition the last published snapshot is the present one wherever the runtime
is suspended; a step that does not meet it suspends the runtime with a change unpublished. -/
theorem run_published (h : config.Accepted)
    (hrun : Run step (fun c a => publishesDrain c a = true) (Config.start config env) as c) :
    c.Published ∧ ∀ a c', step c a = some c' → c'.ctrl.suspended = true →
      (c'.rt.Shown ↔ publishesDrain c a = true) := by
  have hsuspended {as : List Act} {c : Config} (hc : c.ctrl.suspended = true)
      (hrun : Run step (fun c a => publishesDrain c a = true) (Config.start config env) as c) :
      c.rt.Shown := by
    rcases run_shown h hrun with hstart | ⟨p, hp⟩ | hI
    · rw [hstart] at hc
      cases hc
    · rw [hp] at hc
      cases hc
    · exact hI
  refine ⟨fun hc => hsuspended hc hrun, fun a c' hstep hc' => ⟨fun hI => ?_, fun hok => ?_⟩⟩
  · by_contra hok
    obtain ⟨hc, rfl, hv, hcounts⟩ := publishesDrain_false (Bool.not_eq_true _ ▸ hok)
    have hs := run_sane h hrun
    rcases run_shown h hrun with hstart | ⟨p, hp⟩ | hI₀
    · rw [hstart] at hc
      cases hc
    · rw [hp] at hc
      cases hc
    · have hrt := drains_step hc hstep
      rw [if_neg (by simp [hv])] at hrt
      rw [hrt, hI₀.cancelled_iff hs.wf, hcounts] at hI
      cases hI
  · exact hsuspended hc' (.snoc hrun hok hstep)

end

/-! ### A group restart -/

/-- The states of the children, as last published and as they are. -/
def Config.published (c : Config) : Option (List ChildStateView) × List ChildStateView :=
  (c.rt.snapshots.head?.map fun s => s.children.map (·.state), c.rt.view.children.map (·.state))

theorem SupervisorRuntime.Shown.published {c : Config} (h : c.rt.Shown) :
    c.published.1 = some c.published.2 := by
  have hstates := congrArg (Option.map fun s : SupervisorSnapshot => s.children.map (·.state)) h
  simpa [Config.published, SupervisorSnapshot.timeless, ChildSnapshotOf.timeless, Function.comp_def,
    Option.map_map] using hstates

/-- `b` fails while `a` runs: the drain of the group restart waits, and subscribers see `a` run. -/
theorem unpublished_drain_reached : groupConfig.Accepted ∧ ∃ c,
    AnyRun step (Config.start groupConfig ⟨false, 0, 0⟩) [.run .go, .finish 1 (.returned (.error "failed")),
      .run (.join 1), .tick (2 * NANOS_PER_SEC) 0, .run .timer, .resume] c ∧ ¬ c.Published := by
  have hex : ∃ c, AnyRun step (Config.start groupConfig ⟨false, 0, 0⟩) [.run .go,
      .finish 1 (.returned (.error "failed")), .run (.join 1), .tick (2 * NANOS_PER_SEC) 0, .run .timer,
      .resume] c ∧ (c.ctrl.suspended, c.published) =
        (true, some [.running, .stopped], [.stopping, .stopped]) := anyRun_of_exec (by decide +kernel)
  obtain ⟨c, hrun, hc⟩ := hex
  refine ⟨groupConfig_accepted, c, hrun, fun hp => ?_⟩
  have hshown := (hp (Prod.mk.inj hc).1).published
  rw [(Prod.mk.inj hc).2] at hshown
  cases hshown

/-- `a` has ended before `b` fails. -/
theorem run_published_stopped : ∃ c : Config,
    c.ctrl.suspended = true ∧ c.published.2 = [.stopped, .stopped] ∧ c.Published := by
  have hex : ∃ c, Run step (fun c a => publishesDrain c a = true) (Config.start groupConfig ⟨false, 0, 0⟩)
      [.run .go, .finish 0 (.returned (.ok ())), .run (.join 0), .resume,
        .finish 1 (.returned (.error "failed")), .run (.join 1), .tick (2 * NANOS_PER_SEC) 0, .run .timer,
        .resume] c ∧ (c.ctrl.suspended, c.published.2) = (true, [.stopped, .stopped]) :=
    run_of_execIf_map (by decide +kernel)
  obtain ⟨c, hrun, hc⟩ := hex
  exact ⟨c, (Prod.mk.inj hc).1, (Prod.mk.inj hc).2, (run_published groupConfig_accepted hrun).1⟩

end TokioSupervisor
