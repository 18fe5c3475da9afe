import TokioSupervisor.Nested.RunAsChild
import TokioSupervisor.Runtime.Joined
import TokioSupervisor.Runtime.Deadlines

/-!
# A nested supervisor ends with its child

The wrapper returns when the nested supervisor's run is over, so an unfinished nested supervisor has an
unfinished child task (`Attended`), and the parent consumes the joins of finished tasks only. An abort
breaks this: it drops the wrapper and detaches the run behind it.
-/

namespace TokioSupervisor
open Lib SupervisorRuntime

/-! ### Conditions -/

/-- The run returns an error next: the one that is returned to it, or the one pending at its loop. -/
def Config.fails (c : Config) : Bool :=
  match c.ctrl with
  | .ret .nil (.error _) | .ret (.push .runJoin _) (.error _) | .ret (.push .runShutdown _) (.error _) =>
    true
  | .ret (.push .runCommand _) _ | .ret (.push .runJoin _) (.ok _) => c.rt.pendingExit.any (!·.isOk)
  | _ => false

/-- No task is unjoined, or the step neither panics nor returns an error. -/
def endsJoined (c : Config) (a : Act) : Bool :=
  c.rt.joinSet.isEmpty || deadlinesFit c a &&
    match a with
    | .resume => keepsSlot c && !c.fails
    | _ => true

namespace SupervisorTree

/-- What the supervisors rely on so that a nested one ends with its child. A wrapper is not dropped by
an abort while its supervisor runs. The parent restarts stopped children only, and detaches no child
whose task is not joined. A nested supervisor that returns has joined its tasks. -/
def keepsNested (s : SupervisorTree) (a : TreeAct) : Bool :=
  restartsStopped s.parent && instancesLeft s.parent && detachesJoined s.parent &&
    (List.range s.parent.rt.joinSet.nextId).all
      (fun t => (s.nested t).all fun n => joinsBeforeOk n.inner) &&
    match a with
    | .dropped t => s.parent.ctrl.ended || (s.nested t).all (·.inner.ctrl.ended)
    | .inner t b => (s.nested t).all fun n => endsJoined n.inner b
    | _ => true

structure Kept (s : SupervisorTree) (a : TreeAct) : Prop where
  stopped : restartsStopped s.parent = true
  left : instancesLeft s.parent = true
  detach : detachesJoined s.parent = true
  inner : ∀ t n, t < s.parent.rt.joinSet.nextId → s.nested t = some n → joinsBeforeOk n.inner = true
  dropped : ∀ t n, a = .dropped t → s.nested t = some n → s.parent.ctrl.ended = false →
    n.inner.ctrl.ended = true
  ends : ∀ t b n, a = .inner t b → s.nested t = some n → endsJoined n.inner b = true

theorem kept_of {s : SupervisorTree} {a : TreeAct} (h : s.keepsNested a = true) : s.Kept a := by
  simp only [keepsNested, Bool.and_eq_true] at h
  obtain ⟨⟨⟨⟨hstopped, hleft⟩, hdetach⟩, hinner⟩, ha⟩ := h
  refine ⟨hstopped, hleft, hdetach, fun t n ht hn => ?_, ?_, ?_⟩
  · have ht := List.all_eq_true.1 hinner t (List.mem_range.2 ht)
    rwa [hn] at ht
  · rintro t n rfl hn he
    simpa [hn, he] using ha
  · rintro t b n rfl hn
    simpa [hn] using ha

end SupervisorTree

/-! ### What a step does -/

namespace SupervisorTree
variable {supervisors : Nat → Option SupervisorConfig} {s s' : SupervisorTree} {a : TreeAct}

/-- A step of the tree, with the state after it. -/
inductive Moves (supervisors : Nat → Option SupervisorConfig) (s : SupervisorTree) (a : TreeAct) :
    SupervisorTree → Prop
  | parent {b : Act} {parent : Config} (hb : TokioSupervisor.step s.parent b = some parent)
      (hf : ∀ t o, b = .finish t o → ∃ task ∈ s.parent.rt.joinSet.tasks, task.id = t ∧
        (supervisors task.info.instanceId).isSome = false) : Moves supervisors s a (s.setParent parent)
  | tick {nanos wallClock : Nat} {parent : Config}
      (hp : TokioSupervisor.step s.parent (.tick nanos wallClock) = some parent) :
      Moves supervisors s a
        { s with parent, nested := fun t => (s.nested t).map (·.tick nanos wallClock) }
  | spawned {t : TaskId} {task : Task} {config : SupervisorConfig} (env : StartEnv)
      (ht : s.running t = some task) (hn : s.nested t = none)
      (hc : supervisors task.info.instanceId = some config) :
      Moves supervisors s a (s.setNested t ⟨Config.start config env, false⟩)
  | inner {t : TaskId} {n : NestedRun} {b : Act} {inner : Config} (shutdownRequested : Bool)
      (hn : s.nested t = some n) (hb : TokioSupervisor.step n.inner b = some inner)
      (ha : a = .inner t b ∨ inner.ctrl = n.inner.ctrl) :
      Moves supervisors s a (s.setNested t ⟨inner, shutdownRequested⟩)
  | ended {t : TaskId} {outcome : TaskOutcome} {parent : Config}
      (hp : TokioSupervisor.step s.parent (.finish t outcome) = some parent)
      (hn : a = .dropped t ∨ ∃ n, s.nested t = some n ∧ n.inner.ctrl.ended = true) :
      Moves supervisors s a
        { s with parent, nested := Function.update s.nested t ((s.nested t).map NestedRun.detach) }

theorem running_iff {t : TaskId} {task : Task} (h : s.running t = some task) :
    task ∈ s.parent.rt.joinSet.tasks ∧ task.id = t ∧ task.outcome = none := by
  obtain ⟨hfind, hnone⟩ := Option.filter_eq_some_iff.1 h
  exact ⟨List.mem_of_find?_eq_some hfind, by simpa using List.find?_some hfind, by simpa using hnone⟩

theorem finish_moves {t : TaskId} {outcome : TaskOutcome} (h : s.finish t outcome = some s')
    (hn : a = .dropped t ∨ ∃ n, s.nested t = some n ∧ n.inner.ctrl.ended = true) :
    Moves supervisors s a s' := by
  obtain ⟨parent, hp, rfl⟩ := Option.map_eq_some_iff.1 h
  exact .ended hp hn

theorem step_moves (h : s.step supervisors a = some s') : Moves supervisors s a s' := by
  have hparent {b : Act} (h : (TokioSupervisor.step s.parent b).map s.setParent = some s')
      (hf : ∀ t o, b ≠ .finish t o) : Moves supervisors s a s' := by
    obtain ⟨parent, hp, rfl⟩ := Option.map_eq_some_iff.1 h
    exact .parent hp fun t o hb => absurd hb (hf t o)
  have hinner {t : TaskId} {b : Act} (ha : a = .inner t b)
      (h : ((s.nested t).bind fun n => (n.step b).map (s.setNested t)) = some s') :
      Moves supervisors s a s' := by
    obtain ⟨n, hn, h⟩ := Option.bind_eq_some_iff.1 h
    obtain ⟨n', hn', rfl⟩ := Option.map_eq_some_iff.1 h
    obtain ⟨inner, hb, rfl⟩ := Option.map_eq_some_iff.1 hn'
    exact .inner _ hn hb (.inl ha)
  cases a with
  | tick nanos wallClock =>
    obtain ⟨parent, hp, rfl⟩ := Option.map_eq_some_iff.1 h
    exact .tick hp
  | parent b =>
    cases b with
    | tick => cases h
    | finish t outcome =>
      simp only [step] at h
      split at h
      · rename_i task htask
        obtain ⟨hmem, hid, -⟩ := running_iff htask
        simp only [Option.ite_none_right_eq_some] at h
        obtain ⟨parent, hp, rfl⟩ := Option.map_eq_some_iff.1 h.2
        refine .parent hp ?_
        rintro t' o ⟨⟩
        exact ⟨task, hmem, hid, by simpa using h.1⟩
      · cases h
    | _ =>
      simp only [step] at h
      exact hparent h fun _ _ => nofun
  | spawn t =>
    simp only [step] at h
    split at h
    · rename_i task ht hn
      obtain ⟨config, hc, rfl⟩ := Option.map_eq_some_iff.1 h
      exact .spawned _ ht hn hc
    · cases h
  | cancelled t =>
    simp only [step] at h
    split at h
    · rename_i n ctx _ hn _
      simp only [Option.ite_none_right_eq_some] at h
      obtain ⟨n', hn', rfl⟩ := Option.map_eq_some_iff.1 h.2
      obtain ⟨inner, hb, rfl⟩ := Option.map_eq_some_iff.1 hn'
      obtain ⟨rt, -, rfl⟩ := Option.map_eq_some_iff.1 hb
      exact .inner true hn hb (.inr rfl)
    · cases h
  | waited t display =>
    simp only [step] at h
    split at h
    · rename_i n ctx hn _
      obtain ⟨result, hw, h⟩ := Option.bind_eq_some_iff.1 h
      refine finish_moves h (.inr ⟨n, hn, ?_⟩)
      unfold NestedRun.wait at hw
      split at hw
      · rename_i hc
        rw [hc]
        rfl
      · rename_i hc
        rw [hc]
        rfl
      · cases hw
    · cases h
  | dropped t =>
    simp only [step] at h
    split at h
    · rw [Option.ite_none_right_eq_some] at h
      exact finish_moves h.2 (.inl rfl)
    · cases h
  | inner t b =>
    cases b with
    | tick | requestShutdown | dropShutdownSenders => cases h
    | dropCommandSenders =>
      simp only [step, Option.ite_none_left_eq_some] at h
      exact hinner rfl h.2
    | _ => exact hinner rfl h

end SupervisorTree

/-! ### Ends of a run -/

section
variable {rt rt' : SupervisorRuntime} {ctrl ctrl' : Ctrl} {a : Act}

/-- How a run ends: it has succeeded, or it joins nothing in its last step. -/
inductive EndCause (rt : SupervisorRuntime) (ctrl : Ctrl) (a : Act) (rt' : SupervisorRuntime)
    (ctrl' : Ctrl) : Prop
  | succeeded (x : SupervisorExit) (hc : ctrl' = .finished (.ok x))
  | overflow (hjs : rt'.joinSet = rt.joinSet) (hc : ctrl' = .panicked .instantOverflow)
  | lostSlot (hjs : rt'.joinSet = rt.joinSet) (ha : a = .resume) (hk : keepsSlot ⟨rt, ctrl⟩ = false)
  | failed (hjs : rt'.joinSet = rt.joinSet) (ha : a = .resume) (hf : Config.fails ⟨rt, ctrl⟩ = true)

theorem Rule.ends (h : Rule rt ctrl a rt' ctrl')
    (hu : rt.pendingExit.isSome = true → ctrl.unwinds = true) (hlive : ctrl.ended = false)
    (he : ctrl'.ended = true) : EndCause rt ctrl a rt' ctrl' := by
  have hfails {v : Except SupervisorError SupervisorExit} (ha : a = .resume)
      (hf : ∀ e, v = .error e → Config.fails ⟨rt, ctrl⟩ = true) (hc : ctrl' = .finished v)
      (hjs : rt'.joinSet = rt.joinSet) : EndCause rt ctrl a rt' ctrl' := by
    cases v with
    | ok x => exact .succeeded x hc
    | error e => exact .failed hjs ha (hf e rfl)
  cases h with
  | env henv =>
    rw [hlive] at he
    cases he
  | move hm =>
    cases hm with
    | removalShutdownOk hr | removalJoinOk hr => cases hr <;> cases he
    | _ => cases he
  | overflow => exact .overflow rfl rfl
  | vacantOne hn => exact .lostSlot rfl rfl (by simp [keepsSlot, Slab.contains, hn])
  | vacantAll hd hn => exact .lostSlot rfl rfl (by simp [keepsSlot, Slab.contains, hd, hn])
  | start hl =>
    cases hl with
    | exit hp =>
      rw [spawnedAll_pendingExit] at hp
      have hp : rt.pendingExit = some _ := hp
      have := hu (by rw [hp]; rfl)
      cases this
    | natural => exact .succeeded _ rfl
    | wait => cases he
  | loop hc hl =>
    have hjs := hl.joinSet.trans hc.joinSet
    cases hl with
    | exit hp =>
      rw [hc.pendingExit] at hp
      have hunwinds := hu (by rw [hp]; rfl)
      cases hc with
      | command | join =>
        refine hfails rfl (fun e hv => ?_) rfl hjs
        simp [Config.fails, hp, hv, Except.isOk, Except.toBool]
      | _ => cases hunwinds
    | natural => exact .succeeded _ rfl
    | wait => cases he
  | natural => exact .succeeded _ rfl
  | joinError e => exact .failed rfl rfl rfl
  | shutdownEnd v | runEnd v => exact hfails rfl (fun e hv => by rw [hv]; rfl) rfl rfl
  | command _ _ _ ho => cases ho <;> cases he
  | join _ _ ho => cases ho <;> cases he
  | drainJoin _ _ hn => cases hn <;> cases he
  | drainNext _ hn => cases hn <;> cases he
  | removalSeen hr => cases hr <;> cases he
  | _ => cases he

/-- No task is left where the condition holds and the run has not succeeded. -/
theorem step_endsJoined {c c' : Config} (hs : c.Sane)
    (hu : c.rt.pendingExit.isSome = true → c.ctrl.unwinds = true) (hlive : c.ctrl.ended = false)
    (hok : endsJoined c a = true) (hstep : step c a = some c') (he : c'.ctrl.ended = true) :
    (∃ x, c'.ctrl = .finished (.ok x)) ∨ c'.rt.joinSet.tasks = [] := by
  unfold endsJoined at hok
  rw [Bool.or_eq_true, Bool.and_eq_true] at hok
  have hnil (hjs : c'.rt.joinSet = c.rt.joinSet) (hj : c.rt.joinSet.isEmpty = true) :
      c'.rt.joinSet.tasks = [] := by
    rw [hjs]
    exact List.isEmpty_iff.1 hj
  have hresume (ha : a = .resume) : c.rt.joinSet.isEmpty = true ∨
      keepsSlot c = true ∧ c.fails = false := by
    subst ha
    exact hok.imp_right fun ⟨_, hres⟩ => by simpa using hres
  cases (step_rule hs hstep).ends hu hlive he with
  | succeeded x hc => exact .inl ⟨x, hc⟩
  | overflow hjs hc =>
    refine .inr (hnil hjs (hok.resolve_right fun ⟨hfit, _⟩ => ?_))
    have hpanic : c.ctrl.panic = none := by
      cases hc : c.ctrl with
      | panicked p => rw [hc] at hlive; cases hlive
      | _ => rfl
    rw [(step_overflow_iff hs hpanic hstep).1 (by rw [hc]; rfl)] at hfit
    cases hfit
  | lostSlot hjs ha hk =>
    refine .inr (hnil hjs ((hresume ha).resolve_right fun ⟨hk', _⟩ => ?_))
    rw [hk'] at hk
    cases hk
  | failed hjs ha hf =>
    refine .inr (hnil hjs ((hresume ha).resolve_right fun ⟨_, hf'⟩ => ?_))
    rw [hf'] at hf
    cases hf

end

/-! ### The nested run -/

namespace NestedRun
variable {n : NestedRun}

/-- The run has been one that joins its tasks, and none is left once it is over. -/
structure Sound (n : NestedRun) : Prop where
  run : ∃ config env as, SupervisorConfig.Accepted config ∧
    Run TokioSupervisor.step (fun c _ => joinsBeforeOk c = true) (Config.start config env) as n.inner
  tasks : n.inner.ctrl.ended = true → n.inner.rt.joinSet.tasks = []

/-- The run is over, and every task that it spawned was joined. -/
structure Over (n : NestedRun) : Prop where
  ended : n.inner.ctrl.ended = true
  tasks : n.inner.rt.joinSet.tasks = []
  joined : ∀ p ∈ spawns n.inner.rt.trace, p.2 ∈ joins n.inner.rt.trace

theorem Sound.over (h : n.Sound) (he : n.inner.ctrl.ended = true) : n.Over := by
  obtain ⟨config, env, as, hacc, hrun⟩ := h.run
  refine ⟨he, h.tasks he, fun p hp => ?_⟩
  rcases run_accounted hacc hrun p hp with hj | ⟨t, ht, -⟩
  · exact hj
  · rw [h.tasks he] at ht
    cases ht

theorem Sound.start {config : SupervisorConfig} (h : config.Accepted) (env : StartEnv) :
    Sound ⟨Config.start config env, false⟩ :=
  ⟨⟨config, env, [], h, .nil⟩, nofun⟩

theorem Sound.step {b : Act} {inner : Config} (h : n.Sound) (hok : joinsBeforeOk n.inner = true)
    (hb : TokioSupervisor.step n.inner b = some inner)
    (ha : endsJoined n.inner b = true ∨ inner.ctrl = n.inner.ctrl) (shutdownRequested : Bool) :
    Sound ⟨inner, shutdownRequested⟩ := by
  obtain ⟨config, env, as, hacc, hrun⟩ := h.run
  have hrun' := hrun.snoc hok hb
  refine ⟨⟨config, env, _, hacc, hrun'⟩, fun he => ?_⟩
  have he : inner.ctrl.ended = true := he
  by_cases hold : n.inner.ctrl.ended = true
  · exact (envStep_frame (ended_step hold hb).2).keepsAborts.tasks_nil (h.tasks hold)
  · rcases ha with ha | ha
    · rw [Bool.not_eq_true] at hold
      rcases step_endsJoined (run_sane hacc hrun) (run_unwinds hacc hrun) hold ha hb he with ⟨x, hx⟩ | hnil
      · exact (run_joined hacc hrun' x hx).1
      · exact hnil
    · rw [ha] at he
      exact absurd he hold

theorem Sound.quiet {b : Act} (h : n.Sound) (hok : joinsBeforeOk n.inner = true)
    (hb : ∀ inner, TokioSupervisor.step n.inner b = some inner → inner.ctrl = n.inner.ctrl) :
    ((n.step b).getD n).Sound := by
  unfold NestedRun.step
  cases hs : TokioSupervisor.step n.inner b with
  | none => exact h
  | some inner => exact h.step hok hs (.inr (hb inner hs)) _

theorem tick_ctrl (n : NestedRun) (nanos wallClock : Nat) :
    ∀ inner, TokioSupervisor.step n.inner (.tick nanos wallClock) = some inner →
      inner.ctrl = n.inner.ctrl := by
  intro inner h
  obtain ⟨rt, -, rfl⟩ := Option.map_eq_some_iff.1 h
  rfl

theorem drop_ctrl (n : NestedRun) :
    ∀ inner, TokioSupervisor.step n.inner .dropShutdownSenders = some inner →
      inner.ctrl = n.inner.ctrl := by
  intro inner h
  cases h
  rfl

theorem getD_ended {b : Act}
    (hb : ∀ inner, TokioSupervisor.step n.inner b = some inner → inner.ctrl = n.inner.ctrl) :
    ((n.step b).getD n).inner.ctrl.ended = n.inner.ctrl.ended := by
  unfold NestedRun.step
  cases hs : TokioSupervisor.step n.inner b with
  | none => rfl
  | some inner => exact congrArg Ctrl.ended (hb inner hs)

end NestedRun

/-! ### The parent's step -/

/-- The unfinished task `t` of the supervisor runs a nested one. -/
def Config.Wraps (supervisors : Nat → Option SupervisorConfig) (c : Config) (t : TaskId) : Prop :=
  ∃ task ∈ c.rt.joinSet.tasks, task.id = t ∧ task.outcome = none ∧
    (supervisors task.info.instanceId).isSome = true

/-- The join of `t` is not consumed, and until the supervisor has returned the task is unfinished. -/
structure Config.Attends (supervisors : Nat → Option SupervisorConfig) (c : Config) (t : TaskId) :
    Prop where
  unjoined : t ∉ joins c.rt.trace
  wraps : c.ctrl.ended = false → c.Wraps supervisors t

section
variable {supervisors : Nat → Option SupervisorConfig} {c c' : Config} {b : Act} {t : TaskId}

theorem Update.wraps {rt rt' : SupervisorRuntime} {ctrl : Ctrl} (h : Update c b c' rt rt')
    (hwf : rt.Wf) (hb : ∀ o, b ≠ .finish t o) (hI : Config.Wraps supervisors ⟨rt, ctrl⟩ t) :
    Config.Wraps supervisors ⟨rt', ctrl⟩ t := by
  obtain ⟨task, ht, rfl, hnone, hsome⟩ := hI
  rcases h.tasks_to hwf ht with ⟨u, hu, hlater⟩ | ⟨hout, -⟩
  · refine ⟨u, hu, hlater.id, ?_, by rw [hlater.info]; exact hsome⟩
    rcases hlater.outcome with ho | ⟨o, ho⟩
    · rw [ho, hnone]
    · exact absurd ho (hb o)
  · rw [hnone] at hout
    cases hout

/-- A task is attended until the environment finishes it. -/
theorem Config.Attends.step (h : c.Attends supervisors t) (hs : c.Sane) (hj : c'.rt.JoinsOnce)
    (hb : c.ctrl.ended = false → ∀ o, b ≠ .finish t o) (hstep : TokioSupervisor.step c b = some c') :
    c'.Attends supervisors t := by
  cases he : c.ctrl.ended with
  | true =>
    obtain ⟨hctrl, henv⟩ := ended_step he hstep
    refine ⟨?_, fun he' => ?_⟩
    · rcases (envStep_frame henv).trace with heq | ⟨reply, heq⟩
      · rw [heq]
        exact h.unjoined
      · rw [heq]
        exact h.unjoined
    · rw [hctrl, he] at he'
      cases he'
  | false =>
    have hw : c'.Wraps supervisors t :=
      (((step_rule hs hstep).updates hs.wf).invariant
        (I := fun rt => Config.Wraps supervisors ⟨rt, c'.ctrl⟩ t) hs.wf (h.wraps he)
        fun _ _ hwf hI hu => hu.wraps hwf (hb he) hI).2
    refine ⟨fun hmem => ?_, fun _ => hw⟩
    obtain ⟨task, ht, hid, -⟩ := hw
    exact (hj.gone t hmem).2 task ht hid

theorem step_nextId_le (hs : c.Sane) (hstep : step c b = some c') :
    c.rt.joinSet.nextId ≤ c'.rt.joinSet.nextId := by
  refine (((step_rule hs hstep).updates hs.wf).invariant
    (I := fun rt => c.rt.joinSet.nextId ≤ rt.joinSet.nextId) hs.wf le_rfl ?_).2
  intro rt rt' hwf hI hu
  rcases hu.numbers hwf with ⟨key, e, hsp⟩ | hk
  · rw [hsp.joinSet]
    exact Nat.le_succ_of_le hI
  · rw [hk.nextId]
    exact hI

end

/-! ### Runs -/

namespace SupervisorTree

/-- A nested supervisor that has not finished is attended by its wrapper. -/
structure Attended (supervisors : Nat → Option SupervisorConfig) (s : SupervisorTree) : Prop where
  sound : ∀ t n, s.nested t = some n → t < s.parent.rt.joinSet.nextId ∧ n.Sound
  attends : ∀ t n, s.nested t = some n → n.inner.ctrl.ended = false → s.parent.Attends supervisors t

/-- By the time the parent has consumed the join of a child task, the nested supervisor that ran in it
is over. While the parent runs, a nested supervisor that is not over is that of the current task of a
child. -/
structure EndsWithChild (s : SupervisorTree) : Prop where
  joined : ∀ t n, s.nested t = some n → t ∈ joins s.parent.rt.trace → n.Over
  current : s.parent.ctrl.ended = false → ∀ t n, s.nested t = some n →
    n.Over ∨ ∃ key e, s.parent.rt.children.get key = some e ∧ e.runtime.abortHandle = some t

section
variable {supervisors : Nat → Option SupervisorConfig} {s s' : SupervisorTree} {a : TreeAct}

theorem Attended.step (hI : s.Attended supervisors)
    (hsup : ∀ i config, supervisors i = some config → config.Accepted) (hs : s.parent.Sane)
    (hj : s.parent.rt.JoinsOnce) (hj' : s'.parent.rt.JoinsOnce) (hk : s.Kept a)
    (hm : Moves supervisors s a s') : s'.Attended supervisors := by
  cases hm with
  | @parent b c' hb hf =>
    refine ⟨fun t n hn => ⟨(hI.sound t n hn).1.trans_le (step_nextId_le hs hb), (hI.sound t n hn).2⟩,
      fun t n hn he => (hI.attends t n hn he).step hs hj' (fun hp o ho => ?_) hb⟩
    obtain ⟨task, ht, hid, -, hsome⟩ := (hI.attends t n hn he).wraps hp
    obtain ⟨u, hu, hid', hnone⟩ := hf t o ho
    obtain rfl := List.inj_on_of_nodup_map hs.wf.taskNodup ht hu (hid.trans hid'.symm)
    rw [hsome] at hnone
    cases hnone
  | @tick nanos wallClock c' hp =>
    have hctrl (n : NestedRun) : (n.tick nanos wallClock).inner.ctrl.ended = n.inner.ctrl.ended :=
      NestedRun.getD_ended (n.tick_ctrl nanos wallClock)
    refine ⟨fun t n' hn' => ?_, fun t n' hn' he => ?_⟩
    · obtain ⟨n, hn, rfl⟩ := Option.map_eq_some_iff.1 hn'
      obtain ⟨hlt, hsound⟩ := hI.sound t n hn
      exact ⟨hlt.trans_le (step_nextId_le hs hp),
        hsound.quiet (hk.inner t n hlt hn) (n.tick_ctrl nanos wallClock)⟩
    · obtain ⟨n, hn, rfl⟩ := Option.map_eq_some_iff.1 hn'
      exact (hI.attends t n hn (hctrl n ▸ he)).step (b := .tick nanos wallClock) hs hj'
        (fun _ _ => nofun) hp
  | @spawned t task config env ht _ hc =>
    obtain ⟨hmem, hid, hnone⟩ := running_iff ht
    refine ⟨fun u n hn => ?_, fun u n hn he => ?_⟩
    · by_cases hu : u = t
      · subst hu
        rw [show n = ⟨Config.start config env, false⟩ by
          simpa [setNested] using hn.symm]
        exact ⟨hid ▸ hs.wf.taskLt task hmem, .start (hsup _ config hc) env⟩
      · exact hI.sound u n (by simpa [setNested, hu] using hn)
    · by_cases hu : u = t
      · subst hu
        exact ⟨fun hm => (hj.gone u hm).2 task hmem hid, fun _ => ⟨task, hmem, hid, hnone, by rw [hc]; rfl⟩⟩
      · exact hI.attends u n (by simpa [setNested, hu] using hn) he
  | @inner t n b inner req hn hb ha =>
    obtain ⟨hlt, hsound⟩ := hI.sound t n hn
    refine ⟨fun u m hm => ?_, fun u m hm he => ?_⟩
    · by_cases hu : u = t
      · subst hu
        rw [show m = ⟨inner, req⟩ by simpa [setNested] using hm.symm]
        refine ⟨hlt, hsound.step (hk.inner u n hlt hn) hb ?_ req⟩
        exact ha.imp_left fun ha => hk.ends u b n ha hn
      · exact hI.sound u m (by simpa [setNested, hu] using hm)
    · by_cases hu : u = t
      · subst hu
        rw [show m = ⟨inner, req⟩ by simpa [setNested] using hm.symm] at he
        refine hI.attends u n hn ?_
        by_contra hend
        rw [Bool.not_eq_false] at hend
        rw [show inner.ctrl = n.inner.ctrl from (ended_step hend hb).1, hend] at he
        cases he
      · exact hI.attends u m (by simpa [setNested, hu] using hm) he
  | @ended t outcome c' hp hn =>
    have hother {u : TaskId} {m : NestedRun} (hu : u ≠ t) (hm : s.nested u = some m)
        (he : m.inner.ctrl.ended = false) : c'.Attends supervisors u := by
      refine (hI.attends u m hm he).step hs hj' (fun _ o ho => ?_) hp
      cases ho
      exact hu rfl
    have hself {m' : NestedRun} (hm' : Function.update s.nested t
        ((s.nested t).map NestedRun.detach) t = some m') : ∃ m, s.nested t = some m ∧ m.detach = m' := by
      rw [Function.update_self] at hm'
      exact Option.map_eq_some_iff.1 hm'
    have hnext := step_nextId_le hs hp
    refine ⟨fun u m' hm' => ?_, fun u m' hm' he => ?_⟩
    · by_cases hu : u = t
      · subst hu
        obtain ⟨m, hm, rfl⟩ := hself hm'
        obtain ⟨hlt, hsound⟩ := hI.sound u m hm
        exact ⟨hlt.trans_le hnext, hsound.quiet (hk.inner u m hlt hm) m.drop_ctrl⟩
      · have hm : s.nested u = some m' := by simpa [hu] using hm'
        exact ⟨(hI.sound u m' hm).1.trans_le hnext, (hI.sound u m' hm).2⟩
    · by_cases hu : u = t
      · subst hu
        obtain ⟨m, hm, rfl⟩ := hself hm'
        have he : m.inner.ctrl.ended = false := (NestedRun.getD_ended m.drop_ctrl).symm.trans he
        refine (hI.attends u m hm he).step hs hj' (fun hpe o _ => ?_) hp
        rcases hn with ha | ⟨n, hn, hend⟩
        · rw [hk.dropped u m ha hm hpe] at he
          cases he
        · rw [hm] at hn
          cases hn
          rw [hend] at he
          cases he
      · exact hother hu (by simpa [hu] using hm') he

theorem run_parent {config : SupervisorConfig} {env : StartEnv} {as : List TreeAct}
    (hrun : Run (SupervisorTree.step supervisors) (fun s a => s.keepsNested a = true)
      (SupervisorTree.start config env) as s) :
    ∃ bs, Run TokioSupervisor.step (fun c _ => restartsStopped c = true ∧ instancesLeft c = true ∧
      detachesJoined c = true) (Config.start config env) bs s.parent := by
  induction hrun with
  | nil => exact ⟨[], .nil⟩
  | snoc _ hok hstep ih =>
    obtain ⟨bs, hbs⟩ := ih
    have hk := kept_of hok
    have hok := And.intro hk.stopped (And.intro hk.left hk.detach)
    cases step_moves hstep with
    | parent hb | tick hb | ended hb => exact ⟨_, hbs.snoc hok hb⟩
    | spawned | inner => exact ⟨bs, hbs⟩

/-- In a run that keeps the condition, a nested supervisor is over when the join of its child task is
consumed, and none is left behind by an earlier task. -/
theorem run_endsWithChild {config : SupervisorConfig} {env : StartEnv} {as : List TreeAct}
    (h : config.Accepted) (hsup : ∀ i config, supervisors i = some config → config.Accepted)
    (hrun : Run (SupervisorTree.step supervisors) (fun s a => s.keepsNested a = true)
      (SupervisorTree.start config env) as s) : s.EndsWithChild := by
  rcases hrun.ok_start with rfl | ⟨a, hok⟩
  · exact ⟨fun _ _ => nofun, fun _ _ _ => nofun⟩
  · have hlt : (SupervisorRuntime.new config env).nextChildInstance < U64_MAX :=
      of_decide_eq_true (kept_of hok).left
    have hatt : s.Attended supervisors := by
      refine hrun.invariant_on (J := fun s => s.parent.Sane ∧ s.parent.rt.JoinsOnce)
        (fun _ _ h' => ?_) ⟨fun _ _ => nofun, fun _ _ => nofun⟩
        fun _ _ _ hJ hJ' hI hok hstep => hI.step hsup hJ.1 hJ.2 hJ'.2 (kept_of hok) (step_moves hstep)
      obtain ⟨bs, hbs⟩ := run_parent h'
      exact ⟨run_sane h hbs, run_joinsOnce h hbs⟩
    obtain ⟨bs, hbs⟩ := run_parent hrun
    obtain ⟨hown, hclaimed⟩ := run_claimed h (fun _ _ hok => hok) hlt hbs
    have hended {t : TaskId} {n : NestedRun} (hn : s.nested t = some n)
        (he : s.parent.Attends supervisors t → False) : n.Over := by
      refine (hatt.sound t n hn).2.over ?_
      by_contra hend
      exact he (hatt.attends t n hn (by simpa using hend))
    refine ⟨fun t n hn ht => hended hn fun ha => ha.unjoined ht, fun hp t n hn => ?_⟩
    by_cases hend : n.inner.ctrl.ended = true
    · exact .inl ((hatt.sound t n hn).2.over hend)
    · obtain ⟨task, ht, rfl, -⟩ := (hatt.attends t n hn (by simpa using hend)).wraps hp
      obtain ⟨e, he, -, hh⟩ := (hclaimed task ht).handle hown ht
      exact .inr ⟨_, e, he, hh⟩

end

end SupervisorTree

/-! ### Equal grace periods -/

/-- One child, which is aborted when its grace runs out. -/
def graceConfig : SupervisorConfig :=
  { slotConfig with children :=
      [⟨"n", .transient, none, ⟨.fromSecs 5, .cooperativeThenAbort⟩⟩] }

theorem graceConfig_accepted : graceConfig.Accepted :=
  ⟨⟨graceConfig.strategy, graceConfig.restartIntensity, graceConfig.children, 8, 8⟩, rfl⟩

/-- The child is a supervisor with one such child of its own. -/
def graceTree : Nat → Option SupervisorConfig
  | 0 => some graceConfig
  | _ => none

/-- A shutdown is passed on to the nested supervisor, and both wait. -/
def stopActs : List TreeAct :=
  [.parent (.run .go), .spawn 0, .inner 0 (.run .go), .parent .requestShutdown, .parent (.run .shutdown),
   .cancelled 0, .inner 0 (.run .shutdown), .parent (.run .go), .parent (.run .timer), .parent .resume,
   .inner 0 (.run .go), .inner 0 (.run .timer), .inner 0 .resume]

/-- The parent's grace runs out together with that of the nested supervisor, whose wrapper is aborted
and joined while the supervisor itself has not finished. -/
theorem detached_supervisor_reached : graceConfig.Accepted ∧ ∃ s,
    AnyRun (SupervisorTree.step graceTree) (SupervisorTree.start graceConfig ⟨false, 0, 0⟩)
      (stopActs ++ [.tick (5 * NANOS_PER_SEC) 0, .parent (.run .timer), .dropped 0, .parent (.run .go),
        .parent (.run (.join 0))]) s ∧ ¬ s.EndsWithChild := by
  have hex : ∃ s, AnyRun (SupervisorTree.step graceTree) (SupervisorTree.start graceConfig ⟨false, 0, 0⟩)
      (stopActs ++ [.tick (5 * NANOS_PER_SEC) 0, .parent (.run .timer), .dropped 0, .parent (.run .go),
        .parent (.run (.join 0))]) s ∧
      (joins s.parent.rt.trace, (s.nested 0).map (·.inner.ctrl.ended)) = ([0], some false) :=
    anyRun_of_exec (by decide +kernel)
  obtain ⟨s, hrun, hs⟩ := hex
  obtain ⟨hjoins, hnested⟩ := Prod.mk.inj hs
  obtain ⟨n, hn, hend⟩ := Option.map_eq_some_iff.1 hnested
  refine ⟨graceConfig_accepted, s, hrun, fun h => ?_⟩
  have hover := (h.joined 0 n hn (by rw [hjoins]; exact List.mem_singleton_self 0)).ended
  rw [hend] at hover
  cases hover

/-- The nested supervisor's child stops in time. -/
theorem SupervisorTree.run_endsWithChild_stopped : ∃ s : SupervisorTree, s.EndsWithChild ∧
    joins s.parent.rt.trace = [0] ∧ (s.nested 0).isSome = true := by
  have hex : ∃ s, Run (SupervisorTree.step graceTree) (fun s a => s.keepsNested a = true)
      (SupervisorTree.start graceConfig ⟨false, 0, 0⟩)
      (stopActs ++ [.inner 0 (.finish 0 (.returned (.ok ()))), .inner 0 (.run (.join 0)),
        .inner 0 .resume, .inner 0 .resume, .waited 0 "", .parent (.run (.join 0))]) s ∧
      (joins s.parent.rt.trace, (s.nested 0).isSome) = ([0], true) :=
    run_of_execIf_map (by decide +kernel)
  obtain ⟨s, hrun, hs⟩ := hex
  have hsup (i : Nat) (config : SupervisorConfig) (h : graceTree i = some config) : config.Accepted := by
    cases i with
    | zero =>
      cases h
      exact graceConfig_accepted
    | succ i => cases h
  exact ⟨s, SupervisorTree.run_endsWithChild graceConfig_accepted hsup hrun, (Prod.mk.inj hs).1,
    (Prod.mk.inj hs).2⟩

end TokioSupervisor
