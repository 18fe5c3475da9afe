import TokioSupervisor.Runtime.Group

/-!
# Restart counts and generations

A snapshot shows two counters of a child: the generation, which `spawn_child` advances, and the restart
count, which `schedule_restart` advances. `schedule_restart` is called for the child that has failed
only, so the siblings that are restarted with it fall behind in their count
(`uncounted_sibling_reached`). The counters of the running children agree in all snapshots of a run
exactly where every child that a step respawns has had its restart recorded (`run_countersAgree`).
-/

namespace TokioSupervisor
open Lib SupervisorRuntime

/-! ### The counters -/

/-- A running child has been restarted as often as its generation says. -/
def SupervisorSnapshot.CountersAgree (s : SupervisorSnapshot) : Prop :=
  ∀ child ∈ s.children, child.state = .running → child.restartCount = child.generation

/-- The counters agree in every snapshot published. -/
def SupervisorRuntime.CountersAgree (rt : SupervisorRuntime) : Prop :=
  ∀ s ∈ rt.snapshots, s.CountersAgree

/-- `schedule_restart` has recorded the restart that the next spawn of the child will be. -/
def ChildEntry.recorded (e : ChildEntry) : Bool :=
  e.runtime.restartTracker.totalRestarts == e.nextGeneration

/-- The children that the step respawns: the child of a single restart, or the group. -/
def Config.respawned (c : Config) (a : Act) : List ChildEntry :=
  match c.ctrl, a with
  | .ret (.push (.oneForOneDelay key _) _) (.ok true), .resume =>
    (c.rt.children.get key).toList.filter (·.membership == .active)
  | .ret (.push .oneForAllDrain _) (.ok ()), .resume =>
    (c.rt.childOrder.filterMap c.rt.children.get).filter (·.respawns)
  | _, _ => []

/-- The restart of every child that the step respawns has been recorded. -/
def recordsRespawns (c : Config) (a : Act) : Bool := (c.respawned a).all (·.recorded)

/-- What keeps the counters of an entry in step. -/
def ChildEntry.InStep (e : ChildEntry) : Prop :=
  e.runtime.state = .running → e.runtime.restartTracker.totalRestarts = e.runtime.generation

theorem ChildEntry.inStep_of_ne {e : ChildEntry} (h : e.runtime.state ≠ .running) : e.InStep :=
  fun hs => absurd hs h

namespace SupervisorRuntime
variable {rt rt' : SupervisorRuntime} {key : ChildKey} {e e' : ChildEntry}

structure InStep (rt : SupervisorRuntime) : Prop where
  entry : ∀ key e, rt.children.get key = some e → e.InStep
  agree : rt.CountersAgree

theorem view_countersAgree (h : ∀ key e, rt.children.get key = some e → e.InStep) :
    rt.view.CountersAgree := by
  intro child hchild hs
  obtain ⟨key, e, hget, rfl⟩ := mem_view hchild
  refine h key e hget ?_
  cases hst : e.runtime.state with
  | running => rfl
  | _ => simp [ChildEntry.view, hst, RuntimeChildState.view] at hs

namespace InStep

theorem of (h : rt.InStep) (hget : ∀ key e, rt'.children.get key = some e → e.InStep)
    (hs : rt'.snapshots = rt.snapshots ∨ rt'.snapshots = rt'.view :: rt.snapshots) : rt'.InStep := by
  refine ⟨hget, fun s hm => ?_⟩
  rcases hs with hs | hs
  · rw [hs] at hm
    exact h.agree s hm
  · rw [hs] at hm
    rcases List.mem_cons.1 hm with rfl | hm
    · exact view_countersAgree hget
    · exact h.agree s hm

theorem setEntry (h : rt.InStep) (he : rt.children.get key = some e) (hc : e'.InStep)
    (hg : rt'.children = rt.children.set key e')
    (hs : rt'.snapshots = rt.snapshots ∨ rt'.snapshots = rt'.view :: rt.snapshots) : rt'.InStep := by
  refine h.of (fun k f hf => ?_) hs
  rw [hg, Slab.get_set he] at hf
  split at hf
  · cases hf
    exact hc
  · exact h.entry k f hf

theorem finalized (h : rt.InStep) (key : ChildKey) (e : ChildEntry) : (rt.finalized key e).InStep := by
  refine h.of (fun k f hf => ?_) (.inr rfl)
  have hf : (rt.children.remove key).get k = some f := hf
  rw [Slab.get_remove] at hf
  split at hf
  · cases hf
  · exact h.entry k f hf

theorem requested (h : rt.InStep) (reply : Nat) (he : rt.children.get key = some e) :
    (rt.requested reply key e).InStep := by
  have hne : e.requested.runtime.state ≠ .running := by
    cases hst : e.runtime.state <;> simp [ChildEntry.requested, hst, RuntimeChildState.isActive]
  exact h.setEntry he (ChildEntry.inStep_of_ne hne) rfl (.inr rfl)

theorem spawned (h : rt.InStep) (he : rt.children.get key = some e) (hr : e.recorded = true) :
    (rt.spawned key e).InStep := by
  have hcount : e.runtime.restartTracker.totalRestarts = e.nextGeneration := eq_of_beq hr
  exact h.setEntry he (fun _ => hcount) rfl (.inr rfl)

theorem restarted (h : rt.InStep) (he : rt.children.get key = some e) (hr : e.recorded = true) :
    (rt.restarted key e).InStep :=
  ⟨(h.spawned he hr).entry, (h.spawned he hr).agree⟩

theorem added (h : rt.InStep) (hv : rt.children.vacant key = true) (child : ChildSpec) :
    (rt.added key child).InStep := by
  have hins : (rt.inserted key child).InStep := by
    refine h.of (fun k f hf => ?_) (.inl rfl)
    have hf : (rt.children.insert key (rt.newEntry child)).get k = some f := hf
    rw [Slab.get_insert hv] at hf
    split at hf
    · cases hf
      exact ChildEntry.inStep_of_ne nofun
    · exact h.entry k f hf
  exact hins.spawned (inserted_get hv child) rfl

end InStep

end SupervisorRuntime

/-! ### Updates -/

section
variable {c : Config} {a : Act} {key : ChildKey} {e : ChildEntry}

theorem recorded_of_respawned (h : recordsRespawns c a = true) (he : e ∈ c.respawned a) :
    e.recorded = true :=
  List.all_eq_true.1 h e he

theorem mem_respawned_one {generation : Nat} {k : Stack .handleOneForOneRestart}
    (hc : c.ctrl = .ret (.push (.oneForOneDelay key generation) k) (.ok true))
    (he : c.rt.children.get key = some e) (hm : e.membership = .active) : e ∈ c.respawned .resume := by
  simp [Config.respawned, hc, he, hm]

theorem mem_respawned_group {k : Stack .handleOneForAllRestart} (hwf : c.rt.Wf)
    (hc : c.ctrl = .ret (.push .oneForAllDrain k) (.ok ())) (he : c.rt.children.get key = some e)
    (hr : e.respawns = true) : e ∈ c.respawned .resume := by
  have hkey : key ∈ c.rt.childOrder := (hwf.order key).2 ⟨e, he⟩
  simp only [Config.respawned, hc, List.mem_filter, List.mem_filterMap]
  exact ⟨⟨key, hkey, he⟩, hr⟩

theorem respawned_cases (he : e ∈ c.respawned a) :
    (∃ key generation k, c.ctrl = .ret (.push (.oneForOneDelay key generation) k) (.ok true) ∧
        a = .resume ∧ c.rt.children.get key = some e ∧ e.membership = .active) ∨
      ∃ key k, c.ctrl = .ret (.push .oneForAllDrain k) (.ok ()) ∧ a = .resume ∧
        key ∈ c.rt.childOrder ∧ c.rt.children.get key = some e ∧ e.respawns = true := by
  unfold Config.respawned at he
  split at he
  · rename_i key g k hctrl
    obtain ⟨he, hm⟩ := List.mem_filter.1 he
    exact .inl ⟨key, g, k, hctrl, rfl, Option.mem_toList.1 he, eq_of_beq hm⟩
  · rename_i k hctrl
    obtain ⟨he, hr⟩ := List.mem_filter.1 he
    obtain ⟨key, hk, he⟩ := List.mem_filterMap.1 he
    exact .inr ⟨key, k, hctrl, rfl, hk, he, hr⟩
  · cases he

end

/-- An update keeps the counters in step if the restart of every child it spawns has been recorded. -/
theorem Update.inStep {c c' : Config} {a : Act} {rt rt' : SupervisorRuntime} (h : Update c a c' rt rt')
    (hwf : rt.Wf) (hc : c.rt.Wf) (hok : recordsRespawns c a = true)
    (hnew : c.ctrl = .await .runStart .nil → ∀ key e, c.rt.children.get key = some e → e.recorded = true)
    (hI : rt.InStep) : rt'.InStep := by
  cases h with
  | aux x hx hp => exact hI.of hI.entry hp
  | entry he hs hn hr =>
    refine hI.setEntry he (fun hst => ?_) rfl (.inl rfl)
    rcases hr with hr | hr
    · rw [hr]
      exact hI.entry _ _ he (hr ▸ hst)
    · rw [hs.state, hr.stopped] at hst
      cases hst
  | terminated g he hl hs =>
    refine hI.setEntry he (fun hst => ?_) rfl (.inl rfl)
    rw [ChildEntry.terminated_runtime] at hst ⊢
    exact hI.entry _ _ he hst
  | exceeded => exact hI.of hI.entry (.inr rfl)
  | requested reply he => exact hI.requested reply he
  | removed reply he => exact (hI.requested reply he).finalized _ _
  | @cancelled key e he hm =>
    unfold cancelledChild
    split
    · exact hI
    · exact hI.of hI.entry (.inl rfl)
  | @aborted key e he hc =>
    unfold abortedChild
    split
    · exact hI
    · exact hI.of hI.entry (.inl rfl)
  | @exited t e outcome hrt ha hf hc =>
    have hstopped : (e.stopped outcome.status).runtime.state = .stopped := rfl
    exact hI.setEntry hc.get (ChildEntry.inStep_of_ne (by rw [hstopped]; exact nofun)) rfl (.inr rfl)
  | finalized he | detached he => exact hI.finalized _ _
  | @started key e k he he₀ hctrl =>
    cases k with
    | nil => exact hI.spawned he (hnew hctrl key e he₀)
    | push f k => cases f
  | added hv => exact hI.added hv _
  | @respawned key e generation k he hm hrt hctrl ha =>
    subst hrt ha
    exact hI.restarted he (recorded_of_respawned hok (mem_respawned_one hctrl he hm))
  | @groupRespawned key e k he he₀ hr hctrl ha =>
    subst ha
    exact hI.restarted he (recorded_of_respawned hok (mem_respawned_group hc hctrl he₀ hr))
  | cancelledAll hd =>
    obtain ⟨C, n, heq, hget, -⟩ := hwf.cancelRunningChildren
    rw [heq]
    refine hI.of (fun k f hf => ?_) (.inl rfl)
    have hf : C.get k = some f := hf
    rw [hget, Option.map_eq_some_iff] at hf
    obtain ⟨e, he, rfl⟩ := hf
    unfold ChildEntry.stopping
    split
    · exact ChildEntry.inStep_of_ne nofun
    · exact hI.entry k e he
  | halt state lastExit hs hc => exact hI.of hI.entry (.inl rfl)
  | _ => exact hI.of hI.entry (.inl rfl)

/-! ### Published snapshots -/

section
variable {rt rt' : SupervisorRuntime} {key : ChildKey} {e : ChildEntry}

theorem Update.snapshots {c c' : Config} {a : Act} (h : Update c a c' rt rt') (hwf : rt.Wf) :
    rt.snapshots <:+ rt'.snapshots := by
  cases h with
  | aux x hx hp =>
    rcases hp with hp | hp
    · exact ⟨[], hp.symm⟩
    · exact ⟨[_], hp.symm⟩
  | cancelled =>
    unfold cancelledChild
    split <;> exact List.suffix_refl _
  | aborted =>
    unfold abortedChild
    split <;> exact List.suffix_refl _
  | cancelledAll =>
    obtain ⟨C, n, heq, -⟩ := hwf.cancelRunningChildren
    rw [heq]
    exact List.suffix_refl _
  | removed => exact (List.suffix_cons ..).trans (List.suffix_cons ..)
  | exceeded | requested | exited | finalized | detached | started | added | respawned
  | groupRespawned => exact List.suffix_cons ..
  | _ => exact List.suffix_refl _

theorem step_snapshots {c c' : Config} {a : Act} (hs : c.Sane) (hstep : step c a = some c') :
    c.rt.snapshots <:+ c'.rt.snapshots :=
  (((step_rule hs hstep).updates hs.wf).invariant (I := fun rt => c.rt.snapshots <:+ rt.snapshots) hs.wf
    (List.suffix_refl _) fun _ _ hwf hI hu => hI.trans (hu.snapshots hwf)).2

namespace SupervisorRuntime

theorem CountersAgree.of_suffix (h : rt'.CountersAgree) (hs : rt.snapshots <:+ rt'.snapshots) :
    rt.CountersAgree :=
  fun s hm => h s (hs.subset hm)

theorem respawnedAll_snapshots (rt : SupervisorRuntime) (keys : List ChildKey) :
    rt.snapshots <:+ (rt.respawnedAll keys).snapshots := by
  induction keys generalizing rt with
  | nil => exact List.suffix_refl _
  | cons key rest ih =>
    simp only [respawnedAll]
    split
    · split
      · exact (List.suffix_cons ..).trans (ih (rt.restarted key _))
      · exact ih rt
    · exact ih rt

theorem recorded_of_spawned (hwf : rt.Wf) (he : rt.children.get key = some e)
    (h : (rt.spawned key e).CountersAgree) : e.recorded = true := by
  let e' := e.started (rt.tokens.childToken rt.groupToken).1 rt.nestedStates.length rt.joinSet.nextId
  have hkey : key ∈ (rt.spawned key e).childOrder := (hwf.order key).2 ⟨e, he⟩
  have hmem : e'.view rt.now ∈ (rt.spawned key e).view.children :=
    List.mem_map_of_mem (List.mem_filterMap.2 ⟨key, hkey, spawned_get he⟩)
  have hcount : e.runtime.restartTracker.totalRestarts = e.nextGeneration :=
    h _ List.mem_cons_self _ hmem rfl
  exact beq_iff_eq.2 hcount

theorem recorded_of_respawnedAll {keys : List ChildKey} (hwf : rt.Wf) (hk : key ∈ keys)
    (he : rt.children.get key = some e) (hr : e.respawns = true)
    (h : (rt.respawnedAll keys).CountersAgree) : e.recorded = true := by
  induction keys generalizing rt with
  | nil => cases hk
  | cons k rest ih =>
    rw [respawnedAll] at h
    by_cases hkk : key = k
    · subst hkk
      simp only [he, if_pos hr] at h
      exact recorded_of_spawned hwf he (h.of_suffix (respawnedAll_snapshots (rt.restarted key e) rest))
    · have hrest : key ∈ rest := (List.mem_cons.1 hk).resolve_left hkk
      cases hf : rt.children.get k with
      | none =>
        simp only [hf] at h
        exact ih hwf hrest he h
      | some f =>
        simp only [hf] at h
        split at h
        · exact @ih (rt.restarted k f) (hwf.restarted hf) hrest ((spawned_get_ne hf hkk).trans he) h
        · exact ih hwf hrest he h

end SupervisorRuntime

end

/-- A step that leaves the counters in agreement has only respawned children whose restart was
recorded. -/
theorem recordsRespawns_of_step {c c' : Config} {a : Act} (hs : c.Sane) (hstep : step c a = some c')
    (h : c'.rt.CountersAgree) : recordsRespawns c a = true := by
  refine List.all_eq_true.2 fun e he => ?_
  rcases respawned_cases he with ⟨key, g, k, hctrl, rfl, hget, hm⟩ | ⟨key, k, hctrl, rfl, hk, hget, hr⟩
  · obtain ⟨rt, ctrl⟩ := c
    obtain rfl : ctrl = _ := hctrl
    have hst : rt.Started := (hs.started.resolve_left (by simp)).resolve_left (by simp)
    simp only [step, resume_respawn hs.wf hst hget hm] at hstep
    cases hstep
    exact recorded_of_spawned hs.wf hget h
  · obtain ⟨rt, ctrl⟩ := c
    obtain rfl : ctrl = _ := hctrl
    have hst : rt.Started := (hs.started.resolve_left (by simp)).resolve_left (by simp)
    simp only [step, resume_groupRespawn hs.wf hst] at hstep
    cases hstep
    exact @recorded_of_respawnedAll rt.regrouped key e _ hs.wf hk hget hr h

/-! ### Runs -/

section
variable {config : SupervisorConfig} {env : StartEnv} {as : List Act} {c : Config}

theorem start_recorded (h : config.Accepted) {ok : Config → Act → Prop}
    (hrun : Run step ok (Config.start config env) as c) (hc : c.ctrl = .await .runStart .nil)
    (key : ChildKey) (e : ChildEntry) (he : c.rt.children.get key = some e) : e.recorded = true := by
  refine run_unstarted (I := fun rt => ∀ key e, rt.children.get key = some e → e.recorded = true) h hrun
    (new_forall config env fun _ _ _ _ _ => rfl).1 (fun rt rt' a hI henv => ?_) hc key e he
  rw [(envStep_frame henv).children]
  exact hI

theorem new_inStep (config : SupervisorConfig) (env : StartEnv) :
    (SupervisorRuntime.new config env).InStep := by
  obtain ⟨hentry, hsnap⟩ := new_forall (P := ChildEntry.InStep) config env
    fun _ _ _ _ _ => ChildEntry.inStep_of_ne nofun
  refine ⟨hentry, fun s hs => ?_⟩
  rw [hsnap, List.mem_singleton] at hs
  subst hs
  intro child hchild _
  obtain ⟨spec, -, rfl⟩ := List.mem_map.1 hchild
  rfl

/-- The counters stay in step in a run that records every respawn. -/
theorem run_inStep (h : config.Accepted) (hrun : Run step (fun c a => recordsRespawns c a = true)
    (Config.start config env) as c) : c.rt.InStep := by
  refine hrun.invariant_of (I := fun c => c.rt.InStep)
    (J := fun c => c.Sane ∧ (c.ctrl = .await .runStart .nil →
      ∀ key e, c.rt.children.get key = some e → e.recorded = true))
    (fun _ _ h' => ⟨run_sane h h', start_recorded h h'⟩) (new_inStep config env) ?_
  intro c a c' hJ hI hok hstep
  exact (((step_rule hJ.1 hstep).updates hJ.1.wf).invariant hJ.1.wf hI
    fun rt rt' hwf hI' hu => hu.inStep hwf hJ.1.wf hok hJ.2 hI').2

/-- The counters of running children agree in all snapshots of a run if and only if each of its steps
only respawns children whose restart was recorded. -/
theorem run_countersAgree (h : config.Accepted) (hrun : AnyRun step (Config.start config env) as c) :
    c.rt.CountersAgree ↔
      Run step (fun c a => recordsRespawns c a = true) (Config.start config env) as c := by
  refine ⟨fun hagree => ?_, fun hrec => (run_inStep h hrec).agree⟩
  induction hrun with
  | nil => exact .nil
  | snoc run _ hstep ih =>
    have hs := run_sane h run
    have hrec := ih (hagree.of_suffix (step_snapshots hs hstep))
    exact .snoc hrec (recordsRespawns_of_step hs hstep hagree) hstep

end

/-! ### A sibling that is not counted -/

/-- `b` fails, and the group restart starts `a` and `b` again. -/
def siblingActs : List Act :=
  [.run .go, .finish 1 (.returned (.error "failed")), .run (.join 1), .tick (2 * NANOS_PER_SEC) 0,
   .run .timer, .resume, .run .go, .finish 0 (.returned (.ok ())), .run (.join 0), .run .joinNone,
   .resume, .resume, .resume]

/-- What a snapshot shows of each child's state and counters. -/
def SupervisorSnapshot.counters (s : SupervisorSnapshot) : List (ChildStateView × Nat × Nat) :=
  s.children.map fun child => (child.state, child.restartCount, child.generation)

/-- `a` runs in its second generation, and its restart has not been counted. -/
theorem uncounted_sibling_reached : groupConfig.Accepted ∧ ∃ c,
    AnyRun step (Config.start groupConfig ⟨false, 0, 0⟩) siblingActs c ∧ ¬ c.rt.CountersAgree := by
  have hex : ∃ c, AnyRun step (Config.start groupConfig ⟨false, 0, 0⟩) siblingActs c ∧
      c.rt.snapshots.head?.map (·.counters) = some [(.running, 0, 1), (.running, 1, 1)] :=
    anyRun_of_exec (by decide +kernel)
  obtain ⟨c, hrun, hc⟩ := hex
  refine ⟨groupConfig_accepted, c, hrun, fun h => ?_⟩
  obtain ⟨s, hs, hcounters⟩ := Option.map_eq_some_iff.1 hc
  have hmem : (ChildStateView.running, 0, 1) ∈ s.counters := by
    rw [hcounters]
    exact List.mem_cons_self
  obtain ⟨child, hchild, heq⟩ := List.mem_map.1 hmem
  simp only [Prod.mk.injEq] at heq
  have hagree := h s (List.mem_of_mem_head? hs) child hchild heq.1
  rw [heq.2.1, heq.2.2] at hagree
  cases hagree

/-- A single restart of the child that failed is counted. -/
theorem run_countersAgree_single : ∃ c : Config,
    c.rt.snapshots.head?.map (·.counters) = some [(.running, 0, 0), (.running, 1, 1)] ∧
      c.rt.CountersAgree := by
  have hex : ∃ c, Run step (fun c a => recordsRespawns c a = true) (Config.start slotConfig ⟨false, 0, 0⟩)
      [.run .go, .finish 1 (.returned (.error "failed")), .run (.join 1),
        .tick (2 * NANOS_PER_SEC) 0, .run .timer, .resume, .resume] c ∧
      c.rt.snapshots.head?.map (·.counters) = some [(.running, 0, 0), (.running, 1, 1)] :=
    run_of_execIf_map (by decide +kernel)
  obtain ⟨c, hrun, hc⟩ := hex
  exact ⟨c, hc, (run_countersAgree slotConfig_accepted hrun.any).2 hrun⟩

end TokioSupervisor
