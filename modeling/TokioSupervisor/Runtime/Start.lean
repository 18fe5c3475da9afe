import TokioSupervisor.Runtime.Chains

/-!
# The start of a run, and sane configurations

`Fresh` describes the state that `SupervisorRuntime::new` builds from a configuration that
`SupervisorBuilder::build` accepts: the children are stored and none has run. From there every
configuration is sane.
-/

namespace TokioSupervisor
open Lib SupervisorRuntime

/-- `SupervisorBuilder::build` returns this configuration. -/
def SupervisorConfig.Accepted (config : SupervisorConfig) : Prop :=
  ∃ b : SupervisorBuilder, b.build = .ok config

/-- What the loop of `build` checks: the ids are not empty, distinct, and not in `seen`. -/
theorem SupervisorBuilder.checkChildren_ok {seen : List String} {children : List ChildSpec}
    (h : checkChildren seen children = .ok ()) :
    (∀ c ∈ children, c.id.isEmpty = false ∧ c.id ∉ seen) ∧ (children.map (·.id)).Nodup := by
  induction children generalizing seen with
  | nil => simp
  | cons child rest ih =>
    have hparts : child.id.isEmpty = false ∧ child.id ∉ seen ∧
        checkChildren (child.id :: seen) rest = .ok () := by
      by_cases hid : child.id = ""
      · simp [checkChildren, hid] at h
      by_cases hm : child.id ∈ seen
      · cases hi : child.restartIntensity with
        | none => simp [checkChildren, hid, hi, hm] at h
        | some intensity =>
          cases hv : intensity.validate <;> simp [checkChildren, hid, hi, hm, hv] at h
      refine ⟨by simpa using hid, hm, ?_⟩
      cases hi : child.restartIntensity with
      | none => simpa [checkChildren, hid, hi, hm] using h
      | some intensity =>
        cases hv : intensity.validate with
        | error e => simp [checkChildren, hid, hi, hv] at h
        | ok u => simpa [checkChildren, hid, hi, hm, hv] using h
    obtain ⟨hid, hm, hrest⟩ := hparts
    obtain ⟨hall, hnd⟩ := ih hrest
    refine ⟨?_, ?_⟩
    · intro c hc
      rcases List.mem_cons.1 hc with rfl | hc
      · exact ⟨hid, hm⟩
      · exact ⟨(hall c hc).1, fun hs => (hall c hc).2 (List.mem_cons_of_mem _ hs)⟩
    · rw [List.map_cons, List.nodup_cons]
      refine ⟨fun hmem => ?_, hnd⟩
      obtain ⟨c, hc, hcid⟩ := List.mem_map.1 hmem
      exact (hall c hc).2 (hcid ▸ List.mem_cons_self)

/-- What an accepted configuration has passed. -/
theorem SupervisorBuilder.build_ok {b : SupervisorBuilder} {config : SupervisorConfig}
    (h : b.build = .ok config) : config.children = b.children ∧ b.children.isEmpty = false ∧
      checkChildren [] b.children = .ok () := by
  cases he : b.children.isEmpty with
  | true => simp [SupervisorBuilder.build, he] at h
  | false =>
    cases hv : b.restartIntensity.validate with
    | error e => simp [SupervisorBuilder.build, he, hv] at h
    | ok u =>
      by_cases h₁ : b.controlChannelCapacity = 0
      · simp [SupervisorBuilder.build, he, hv, h₁] at h
      by_cases h₂ : b.eventChannelCapacity = 0
      · simp [SupervisorBuilder.build, he, hv, h₁, h₂] at h
      cases hc : SupervisorBuilder.checkChildren [] b.children with
      | error e => simp [SupervisorBuilder.build, he, hv, h₁, h₂, hc] at h
      | ok u =>
        simp only [SupervisorBuilder.build, he, hv, h₁, h₂, hc, Bool.false_eq_true, if_false, ok_bind,
          pure_eq_ok, Except.ok.injEq] at h
        subst h
        exact ⟨rfl, rfl, rfl⟩

theorem SupervisorConfig.Accepted.children {config : SupervisorConfig} (h : config.Accepted) :
    (∀ c ∈ config.children, c.id.isEmpty = false) ∧ (config.children.map (·.id)).Nodup := by
  obtain ⟨b, hb⟩ := h
  obtain ⟨heq, -, hc⟩ := SupervisorBuilder.build_ok hb
  obtain ⟨hall, hnd⟩ := SupervisorBuilder.checkChildren_ok hc
  rw [heq]
  exact ⟨fun c hmem => (hall c hmem).1, hnd⟩

theorem SupervisorConfig.Accepted.children_ne_nil {config : SupervisorConfig} (h : config.Accepted) :
    config.children ≠ [] := by
  obtain ⟨b, hb⟩ := h
  obtain ⟨heq, hne, -⟩ := SupervisorBuilder.build_ok hb
  rw [heq]
  simpa using hne

/-- A child that is stored and has not run. -/
structure ChildEntry.Unborn (e : ChildEntry) : Prop where
  hasStarted : e.runtime.hasStarted = false
  generation : e.runtime.generation = 0
  state : e.runtime.state = .stopped
  activeToken : e.runtime.activeToken = none
  abortHandle : e.runtime.abortHandle = none
  terminalStatus : e.terminalStatus = none
  lastExit : e.lastExit = none
  membership : e.membership = .active

namespace SupervisorRuntime

/-- The state before the first poll. -/
structure Fresh (rt : SupervisorRuntime) : Prop where
  wf : rt.Wf
  unborn : ∀ key e, rt.children.get key = some e → e.Unborn
  /-- Instances are numbered in order until the counter saturates. -/
  instLt : rt.nextChildInstance < U64_MAX →
    ∀ key e, rt.children.get key = some e → e.instanceId < rt.nextChildInstance
  instInj : rt.nextChildInstance < U64_MAX → ∀ k₁ e₁ k₂ e₂, rt.children.get k₁ = some e₁ →
    rt.children.get k₂ = some e₂ → e₁.instanceId = e₂.instanceId → k₁ = k₂
  nextLe : rt.nextChildInstance ≤ U64_MAX
  joinSet : rt.joinSet = .empty
  runningChildren : rt.runningChildren = 0
  liveTasks : rt.liveTasks = 0
  trace : rt.trace = []
  state : rt.state = .running
  pendingExit : rt.pendingExit = none
  shutdownRx : rt.shutdownRx = ⟨false, false, false⟩
  commands : rt.commandRx.closed = false ∧ rt.commandRx.queue = [] ∧ rt.commandsOpen = true
  tokens : rt.groupToken = ⟨0, none⟩ ∧ rt.tokens = ⟨1, []⟩

theorem vacant_length (s : Slab ChildEntry) : s.vacant s.slots.length = true := by
  simp [Slab.vacant, Slab.contains, Slab.get]

theorem Fresh.inserted {rt : SupervisorRuntime} (h : rt.Fresh) {spec : ChildSpec}
    (hid : spec.id.isEmpty = false) (hnew : rt.childrenById.lookup spec.id = none) :
    (rt.inserted rt.children.slots.length spec).Fresh := by
  have hv := vacant_length rt.children
  have hnext : (rt.inserted rt.children.slots.length spec).nextChildInstance < U64_MAX →
      rt.nextChildInstance < U64_MAX := fun hlt => by
    by_contra hge
    have : rt.nextChildInstance = U64_MAX := Nat.le_antisymm h.nextLe (Nat.le_of_not_lt hge)
    simp only [SupervisorRuntime.inserted, this] at hlt
    exact absurd hlt (by decide)
  have hget := fun k => Slab.get_insert hv (rt.newEntry spec) k
  have hsucc (hlt : rt.nextChildInstance < U64_MAX) :
      (rt.inserted rt.children.slots.length spec).nextChildInstance = rt.nextChildInstance + 1 :=
    saturatingSucc_of_lt hlt
  refine ⟨h.wf.inserted hv hid hnew, fun k e he => ?_, fun hlt k e he => ?_,
    fun hlt k₁ e₁ k₂ e₂ h₁ h₂ heq => ?_, saturatingSucc_le _, h.joinSet, h.runningChildren,
    h.liveTasks, h.trace, h.state, h.pendingExit, h.shutdownRx, h.commands, h.tokens⟩
  · simp only [SupervisorRuntime.inserted, hget] at he
    split at he
    · cases he; exact ⟨rfl, rfl, rfl, rfl, rfl, rfl, rfl, rfl⟩
    · exact h.unborn k e he
  · have hlt' := hnext hlt
    rw [hsucc hlt']
    simp only [SupervisorRuntime.inserted, hget] at he
    split at he
    · cases he; exact Nat.lt_succ_self _
    · exact Nat.lt_succ_of_lt (h.instLt hlt' k e he)
  · have hlt' := hnext hlt
    simp only [SupervisorRuntime.inserted, hget] at h₁ h₂
    split at h₁ <;> split at h₂
    · rename_i hk₁ hk₂; exact hk₁.symm.trans hk₂
    · cases h₁
      exact absurd heq.symm (Nat.ne_of_lt (h.instLt hlt' k₂ e₂ h₂))
    · cases h₂
      exact absurd heq (Nat.ne_of_lt (h.instLt hlt' k₁ e₁ h₁))
    · exact h.instInj hlt' k₁ e₁ k₂ e₂ h₁ h₂ heq

theorem insertInitial_cons (rt : SupervisorRuntime) (spec : ChildSpec) (rest : List ChildSpec) :
    rt.insertInitial (spec :: rest) =
      (rt.inserted rt.children.slots.length spec).insertInitial rest :=
  rfl

theorem insertInitial_info (rt : SupervisorRuntime) (specs : List ChildSpec) :
    (rt.insertInitial specs).info = rt.info := by
  induction specs generalizing rt with
  | nil => rfl
  | cons spec rest ih => rw [insertInitial_cons, ih]; rfl

theorem insertInitial_forall {P : ChildEntry → Prop} {rt : SupervisorRuntime} {specs : List ChildSpec}
    (hnew : ∀ id spec intensity instanceId nanos, P (.new id spec intensity instanceId nanos))
    (h : ∀ key e, rt.children.get key = some e → P e) :
    (∀ key e, (rt.insertInitial specs).children.get key = some e → P e) ∧
      (rt.insertInitial specs).snapshots = rt.snapshots := by
  induction specs generalizing rt with
  | nil => exact ⟨h, rfl⟩
  | cons spec rest ih =>
    rw [insertInitial_cons]
    refine ih fun key e he => ?_
    simp only [SupervisorRuntime.inserted, Slab.get_insert (vacant_length rt.children)] at he
    split at he
    · cases he
      exact hnew ..
    · exact h key e he

theorem Fresh.insertInitial {rt : SupervisorRuntime} (h : rt.Fresh) {specs : List ChildSpec}
    (hids : ∀ c ∈ specs, c.id.isEmpty = false ∧ rt.childrenById.lookup c.id = none)
    (hnd : (specs.map (·.id)).Nodup) : (rt.insertInitial specs).Fresh := by
  induction specs generalizing rt with
  | nil => exact h
  | cons spec rest ih =>
    rw [insertInitial_cons]
    rw [List.map_cons, List.nodup_cons] at hnd
    have hspec := hids spec List.mem_cons_self
    refine ih (h.inserted hspec.1 hspec.2) (fun c hc => ?_) hnd.2
    have hc' := hids c (List.mem_cons_of_mem _ hc)
    have hne : c.id ≠ spec.id := fun heq => hnd.1 (heq ▸ List.mem_map_of_mem hc)
    exact ⟨hc'.1, by simp only [SupervisorRuntime.inserted, AList.lookup_insert_ne hne, hc'.2]⟩

end SupervisorRuntime

theorem SupervisorConfig.Accepted.fresh {config : SupervisorConfig} (h : config.Accepted)
    (env : StartEnv) : (SupervisorRuntime.new config env).Fresh := by
  refine SupervisorRuntime.Fresh.insertInitial ?_ (fun c hc => ⟨h.children.1 c hc, rfl⟩) h.children.2
  refine ⟨⟨fun id key => ?_, fun key => ?_, List.nodup_nil, fun key e he => ?_, nofun, List.nodup_nil,
    fun id m => ?_⟩, fun key e he => ?_, fun _ key e he => ?_, fun _ k₁ e₁ k₂ e₂ h₁ => ?_,
    Nat.zero_le _, rfl, rfl, rfl, rfl, rfl, rfl, rfl, ⟨rfl, rfl, rfl⟩, rfl, rfl⟩
  · simp
  · simp
  · simp at he
  · simp [JoinSet.empty]
  · simp at he
  · simp at he
  · simp at h₁

theorem new_forall {P : ChildEntry → Prop} (config : SupervisorConfig) (env : StartEnv)
    (hnew : ∀ id spec intensity instanceId nanos, P (.new id spec intensity instanceId nanos)) :
    (∀ key e, (SupervisorRuntime.new config env).children.get key = some e → P e) ∧
      (SupervisorRuntime.new config env).snapshots = [initialSnapshot config] := by
  refine SupervisorRuntime.insertInitial_forall hnew fun key e he => ?_
  simp at he

/-! ### Sane configurations -/

/-- What one update in the step `a` from `c` to `c'` can make of the entry `e` at `key`; `trace` is the
trace after it. -/
inductive ChildEntry.Evolves (c : Config) (a : Act) (c' : Config) (trace : List Action)
    (key : ChildKey) (e : ChildEntry) : ChildEntry → Prop
  | same {e' : ChildEntry} (h : e.Same e') : Evolves c a c' trace key e e'
  | terminated (generation : Nat) {status : ExitStatus} (hl : e.lastExit = some status.view)
      (hs : e.runtime.state = .stopped) :
      Evolves c a c' trace key e (e.terminated generation status.isFailure)
  | requested {reply : Nat} (hm : e.membership = .active)
      (hr : .removalRequested reply e.instanceId ∈ trace) (hc : c'.ctrl.StartsRemoval key)
      (he : c.rt.children.get key = some e) (hh : Removes c a e.id reply) :
      Evolves c a c' trace key e e.requested
  | stopped {t : Task} {outcome : TaskOutcome} (ha : a = .run (.join t.id))
      (hf : c.rt.Finished t outcome) (hc : c.rt.Current t.info e) (hk : t.info.key = key) :
      Evolves c a c' trace key e (e.stopped outcome.status)
  | started (token : CancellationToken) (nested : Nat) (task : TaskId)
      (hm : e.membership = .active ∨
        c.ctrl = .await .runStart .nil ∧ c.rt.children.get key = some e) :
      Evolves c a c' trace key e (e.started token nested task)
  | stopping : Evolves c a c' trace key e e.stopping

theorem ChildEntry.Same.refl (e : ChildEntry) : e.Same e :=
  ⟨rfl, rfl, rfl, rfl, rfl, rfl, rfl, rfl, rfl, rfl, rfl⟩

theorem Update.entry_from {c c' : Config} {a : Act} {rt rt' : SupervisorRuntime} (h : Update c a c' rt rt')
    (hwf : rt.Wf) {key : ChildKey} {e' : ChildEntry} (he' : rt'.children.get key = some e') :
    (∃ e, rt.children.get key = some e ∧ e.Evolves c a c' rt'.trace key e') ∨
      ∃ child token nested task, e' = (rt.newEntry child).started token nested task := by
  have hsame (hg : rt'.children = rt.children) :
      ∃ e, rt.children.get key = some e ∧ e.Evolves c a c' rt'.trace key e' :=
    ⟨e', hg ▸ he', .same (.refl e')⟩
  have hset {k : ChildKey} {e f : ChildEntry} (he : rt.children.get k = some e)
      (hf : e.Evolves c a c' rt'.trace k f) (hg : rt'.children = rt.children.set k f) :
      ∃ e, rt.children.get key = some e ∧ e.Evolves c a c' rt'.trace key e' := by
    rw [hg, Slab.get_set he] at he'
    split at he'
    · rename_i hk; subst hk; cases he'; exact ⟨e, he, hf⟩
    · exact ⟨e', he', .same (.refl e')⟩
  have hrem {k : ChildKey} (hg : rt'.children = rt.children.remove k) :
      ∃ e, rt.children.get key = some e ∧ e.Evolves c a c' rt'.trace key e' := by
    rw [hg, Slab.get_remove] at he'
    split at he'
    · cases he'
    · exact ⟨e', he', .same (.refl e')⟩
  cases h with
  | entry he hs => exact .inl (hset he (.same hs) rfl)
  | terminated g he hl hs => exact .inl (hset he (.terminated g hl hs) rfl)
  | @requested k e reply he hm _ hc hrt hh =>
    have hlog : .removalRequested reply e.instanceId ∈ (rt.requested reply k e).trace :=
      List.mem_cons_of_mem _ List.mem_cons_self
    exact .inl (hset he (.requested hm hlog hc (hrt ▸ he) hh) rfl)
  | @removed k e reply he hm _ _ _ =>
    have hne : key ≠ k := by
      rintro rfl
      exact absurd (he'.symm.trans (Slab.get_remove_self _ _)) nofun
    have hg : rt.children.get key = some e' := by
      rw [← he', ← Slab.get_set_ne he e.requested hne]
      exact (Slab.get_remove_ne _ hne).symm
    exact .inl ⟨e', hg, .same (.refl e')⟩
  | cancelled he _ => exact .inl (hsame (cancelledChild_children _))
  | aborted he _ => exact .inl (hsame (abortedChild_children _))
  | exited hrt ha hf hc =>
    subst hrt
    exact .inl (hset hc.get (.stopped ha hf hc rfl) rfl)
  | finalized he _ _ => exact .inl (hrem rfl)
  | detached he _ _ => exact .inl (hrem rfl)
  | @started _ _ k he he₀ hc =>
    cases k with
    | push f k => cases f
    | nil => exact .inl (hset he (.started _ _ _ (.inr ⟨hc, he₀⟩)) rfl)
  | respawned he hm _ _ => exact .inl (hset he (.started _ _ _ (.inl hm)) rfl)
  | groupRespawned he _ hr _ =>
    have hm := hr
    simp only [ChildEntry.respawns, Bool.and_eq_true, beq_iff_eq] at hm
    exact .inl (hset he (.started _ _ _ (.inl hm.1)) rfl)
  | @added k child hv ha hn hc =>
    by_cases hk : key = k
    · subst hk
      have hg : (rt.added key child).children.get key = _ := spawned_get (inserted_get hv child)
      rw [hg] at he'
      cases he'
      exact .inr ⟨child, _, _, _, rfl⟩
    · have hg : (rt.added k child).children.get key = rt.children.get key :=
        (spawned_get_ne (inserted_get hv child) hk).trans (Slab.get_insert_ne hv _ hk)
      rw [hg] at he'
      exact .inl ⟨e', he', .same (.refl e')⟩
  | cancelledAll _ =>
    obtain ⟨C, n, heq, hget, -⟩ := hwf.cancelRunningChildren
    have hg : rt.cancelRunningChildren.children.get key = C.get key := by rw [heq]; rfl
    rw [hg, hget, Option.map_eq_some_iff] at he'
    obtain ⟨e, he, rfl⟩ := he'
    exact .inl ⟨e, he, .stopping⟩
  | _ => exact .inl (hsame rfl)

theorem ChildEntry.Evolves.hasStarted {c c' : Config} {a : Act} {trace : List Action} {key : ChildKey}
    {e e' : ChildEntry} (h : e.Evolves c a c' trace key e')
    (hst : e.runtime.hasStarted = true) : e'.runtime.hasStarted = true := by
  cases h with
  | same h => rw [h.hasStarted, hst]
  | terminated => simpa using hst
  | stopping => unfold ChildEntry.stopping; split <;> exact hst
  | started => rfl
  | _ => exact hst

theorem Update.isStarted {c c' : Config} {a : Act} {rt rt' : SupervisorRuntime} (h : Update c a c' rt rt')
    (hwf : rt.Wf) (hst : rt.Started) : rt'.Started := by
  intro key e' he'
  rcases h.entry_from hwf he' with ⟨e, he, hev⟩ | ⟨child, token, nested, task, rfl⟩
  · exact hev.hasStarted (hst key e he)
  · rfl

theorem spawnedAll_started {rt : SupervisorRuntime} {keys : List ChildKey}
    (hst : ∀ key e, rt.children.get key = some e → key ∈ keys ∨ e.runtime.hasStarted = true) :
    (rt.spawnedAll keys).Started := by
  induction keys generalizing rt with
  | nil => exact fun key e he => (hst key e he).resolve_left nofun
  | cons key rest ih =>
    simp only [spawnedAll]
    cases he : rt.children.get key with
    | none =>
      refine ih fun k f hf => ?_
      refine (hst k f hf).imp_left fun hk => (List.mem_cons.1 hk).resolve_left ?_
      rintro rfl
      rw [he] at hf
      cases hf
    | some e =>
      refine ih fun k f hf => ?_
      by_cases hk : k = key
      · subst hk; rw [spawned_get he] at hf; cases hf; exact .inr rfl
      · rw [spawned_get_ne he hk] at hf
        exact (hst k f hf).imp_left fun hm => (List.mem_cons.1 hm).resolve_left hk

theorem LoopHead.children {rt rt' : SupervisorRuntime} {ctrl' : Ctrl} (h : LoopHead rt rt' ctrl') :
    rt'.children = rt.children := by
  cases h <;> rfl

theorem LoopHead.ctrl {rt rt' : SupervisorRuntime} {ctrl' : Ctrl} (h : LoopHead rt rt' ctrl') :
    (∃ result, ctrl' = .finished result) ∨ ctrl' = .await .runSelect .nil := by
  cases h with
  | exit hp => exact .inl ⟨_, rfl⟩
  | natural hp hl hr => exact .inl ⟨_, rfl⟩
  | wait hp => exact .inr rfl

theorem Rule.removal {rt rt' : SupervisorRuntime} {ctrl : Ctrl} {a : Act} {l : Removal}
    {k : Stack .awaitChildRemoval} (h : Rule rt ctrl a rt' (.await (.removalSelect l) k))
    (hrm : ∀ l k, ctrl = .await (.removalSelect l) k → ∃ e, rt.children.get l.key = some e) :
    ∃ e, rt'.children.get l.key = some e := by
  cases h with
  | env h => rw [(envStep_frame h).children]; exact hrm l k rfl
  | move h =>
    cases h with
    | removalShutdownOk hr => cases hr with | wait he => exact ⟨_, he⟩
    | removalJoinOk hr => cases hr with | wait he => exact ⟨_, he⟩
  | loop hc hl => rcases hl.ctrl with ⟨_, hl⟩ | hl <;> cases hl
  | start hl => rcases hl.ctrl with ⟨_, hl⟩ | hl <;> cases hl
  | command hh hv hq ho =>
    cases ho with
    | removeWait he _ _ _ =>
      rw [cancelledChild_children]
      exact ⟨_, requested_get _ he⟩
  | join hh hf ho => cases ho
  | drainJoin hf hd hn => cases hn
  | drainNext hd hn => cases hn
  | removalSeen hr => cases hr with | wait he => exact ⟨_, he⟩

theorem Rule.to_start {rt rt' : SupervisorRuntime} {ctrl : Ctrl} {a : Act}
    (h : Rule rt ctrl a rt' (.await .runStart .nil)) : ctrl = .await .runStart .nil := by
  cases h with
  | env h => rfl
  | move h =>
    cases h with
    | removalShutdownOk hr => cases hr
    | removalJoinOk hr => cases hr
  | loop hc hl => rcases hl.ctrl with ⟨_, hl⟩ | hl <;> cases hl
  | start hl => rcases hl.ctrl with ⟨_, hl⟩ | hl <;> cases hl
  | command hh hv hq ho => cases ho
  | join hh hf ho => cases ho
  | drainJoin hf hd hn => cases hn
  | drainNext hd hn => cases hn
  | removalSeen hr => cases hr

/-- The first poll spawns the children and enters the main loop. -/
theorem Rule.from_start {rt rt' : SupervisorRuntime} {ctrl' : Ctrl} {a : Act}
    (h : Rule rt (.await .runStart .nil) a rt' ctrl') :
    (envStep rt a = some rt' ∧ ctrl' = .await .runStart .nil) ∨ (∃ p, ctrl' = .panicked p) ∨
      LoopHead ((rt.emitted none .supervisorStarted).spawnedAll rt.childOrder) rt' ctrl' := by
  cases h with
  | env h => exact .inl ⟨h, rfl⟩
  | move h => cases h
  | overflow => exact .inr (.inl ⟨_, rfl⟩)
  | start hl => exact .inr (.inr hl)
  | loop hc hl => cases hc
  | shutdown hb hrt hq => cases hb
  | command hh hv hq ho => cases hh
  | join hh hf ho => cases hh
  | drainNext hd hn => cases hd

theorem Config.Sane.step {c c' : Config} {a : Act} (h : c.Sane) (hs : step c a = some c') :
    c'.Sane := by
  have hr := step_rule h hs
  have hu := hr.updates h.wf
  obtain ⟨rt', ctrl'⟩ := c'
  refine ⟨(hu.invariant h.wf trivial fun _ _ _ _ _ => trivial).1, ?_, ?_⟩
  · obtain ⟨rt, ctrl⟩ := c
    have hkeep (hst : rt.Started) : rt'.Started :=
      (hu.invariant h.wf hst fun _ _ hwf hI hup => hup.isStarted hwf hI).2
    rcases h.started with hst | ⟨p, hp⟩ | hst
    · cases hst
      rcases hr.from_start with ⟨-, rfl⟩ | hp | hl
      · exact .inl rfl
      · exact .inr (.inl hp)
      · refine .inr (.inr ?_)
        intro key e he
        rw [hl.children] at he
        exact @spawnedAll_started (rt.emitted none .supervisorStarted) rt.childOrder
          (fun k f hf => .inl ((h.wf.order k).2 ⟨f, hf⟩)) key e he
    · cases hp
      cases hr with
      | env henv => exact .inr (.inl ⟨p, rfl⟩)
      | move hm => cases hm
      | overflow => exact .inr (.inl ⟨_, rfl⟩)
      | loop hc hl => cases hc
      | shutdown hb hrt hq => cases hb
      | command hh hv hq ho => cases hh
      | join hh hf ho => cases hh
      | drainNext hd hn => cases hd
    · exact .inr (.inr (hkeep hst))
  · rintro l k rfl
    exact hr.removal h.removal

theorem SupervisorConfig.Accepted.sane {config : SupervisorConfig} (h : config.Accepted)
    (env : StartEnv) : (Config.start config env).Sane :=
  ⟨(h.fresh env).wf, .inl rfl, nofun⟩

/-- Before the first poll nothing has run. -/
structure Config.Untouched (c : Config) : Prop where
  unborn : ∀ key e, c.rt.children.get key = some e → e.Unborn
  tasks : c.rt.joinSet.tasks = []

section
variable {config : SupervisorConfig} {env : StartEnv} {ok : Config → Act → Prop} {as : List Act}
  {c : Config}

theorem run_sane (h : config.Accepted) (hrun : Run step ok (Config.start config env) as c) : c.Sane :=
  hrun.invariant (h.sane env) fun _ _ _ hs _ hstep => hs.step hstep

theorem run_info (h : config.Accepted) (hrun : Run step ok (Config.start config env) as c) :
    c.rt.info = ⟨config.strategy, config.restartIntensity, env.debugEnabled⟩ := by
  refine hrun.invariant_of (I := fun c => c.rt.info = _) (fun _ _ h' => run_sane h h')
    (insertInitial_info _ _) ?_
  intro c a c' hs hI _ hstep
  exact (((step_rule hs hstep).updates hs.wf).invariant hs.wf hI
    fun rt rt' hwf hI hu => (hu.info hwf).trans hI).2

/-- Before the first poll the state is what the environment made of the initial one. -/
theorem run_unstarted {I : SupervisorRuntime → Prop} (h : config.Accepted)
    (hrun : Run step ok (Config.start config env) as c) (h₀ : I (SupervisorRuntime.new config env))
    (henv : ∀ rt rt' a, I rt → envStep rt a = some rt' → I rt') (hc : c.ctrl = .await .runStart .nil) :
    I c.rt := by
  refine hrun.invariant_of (I := fun c => c.ctrl = .await .runStart .nil → I c.rt)
    (fun _ _ h' => run_sane h h') (fun _ => h₀) ?_ hc
  rintro ⟨rt, ctrl⟩ a ⟨rt', ctrl'⟩ hs hI - hstep rfl
  have hr := step_rule hs hstep
  obtain rfl := hr.to_start
  rcases hr.from_start with ⟨hstep', -⟩ | ⟨p, hp⟩ | hl
  · exact henv _ _ a (hI rfl) hstep'
  · cases hp
  · rcases hl.ctrl with ⟨_, hl⟩ | hl <;> cases hl

theorem run_untouched (h : config.Accepted) (hrun : Run step ok (Config.start config env) as c)
    (hc : c.ctrl = .await .runStart .nil) : c.Untouched := by
  have hI := run_unstarted (I := fun rt => (∀ key e, rt.children.get key = some e → e.Unborn) ∧
    rt.joinSet.tasks = []) h hrun ⟨(h.fresh env).unborn, congrArg JoinSet.tasks (h.fresh env).joinSet⟩ ?_ hc
  · exact ⟨hI.1, hI.2⟩
  · intro rt rt' a hI henv
    have hframe := envStep_frame henv
    refine ⟨by rw [hframe.children]; exact hI.1, List.map_eq_nil_iff.1 (hframe.infos.trans ?_)⟩
    exact List.map_eq_nil_iff.2 hI.2

/-- An invariant of the state that the updates keep, where each step meets `ok`. -/
theorem run_invariant {I : SupervisorRuntime → Prop} (h : config.Accepted)
    (hrun : Run step ok (Config.start config env) as c)
    (h₀ : I (SupervisorRuntime.new config env))
    (hu : ∀ (c c' : Config) a rt rt', c.Sane → ok c a → I c.rt → rt.Wf → I rt → Update c a c' rt rt' → I rt') :
    I c.rt := by
  refine hrun.invariant_of (I := fun c => I c.rt) (fun _ _ h' => run_sane h h') h₀ ?_
  intro c a c' hs hI hok hstep
  exact ((step_rule hs hstep).updates hs.wf |>.invariant hs.wf hI
    fun rt rt' hwf hI' hup => hu c c' a rt rt' hs hok hI hwf hI' hup).2

end

end TokioSupervisor
