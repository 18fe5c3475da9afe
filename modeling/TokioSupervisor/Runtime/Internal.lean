import TokioSupervisor.Runtime.Returns

/-!
# Internal errors

The map of tasks has exactly the tasks that are spawned and not joined, and `spawn_child` finds its slot
once its key has passed the index before it. `await_child_removal` is what can go wrong: a group
restart consumes the exit of the child that is being removed, the restarted siblings end, and the join set
is empty while the removal goes on waiting (`internal_error_reached`).
-/

namespace TokioSupervisor
open Lib SupervisorRuntime

/-! ### Replies -/

/-- A caller is answered with an `Internal` error. -/
def Action.internal : Action → Bool
  | .replied _ (.error e) => e.isInternal
  | _ => false

/-- No caller is answered with an `Internal` error between the two states. -/
def Tame (rt rt' : SupervisorRuntime) : Prop := Grown (fun b => b.internal = false) rt.trace rt'.trace

section
variable {rt rt' rt'' : SupervisorRuntime} {ctrl ctrl' : Ctrl} {a : Act} {key : ChildKey} {e : ChildEntry}

theorem Action.internal_of_life {b : Action} (h : b.life = true) : b.internal = false := by
  cases b <;> first | rfl | cases h

namespace Tame

theorem refl (rt : SupervisorRuntime) : Tame rt rt := Grown.refl _ _

theorem trans (h : Tame rt rt') (h' : Tame rt' rt'') : Tame rt rt'' := Grown.trans h h'

theorem log {b : Action} (h : Tame rt rt') (hb : b.internal = false) : Tame rt (rt'.log b) :=
  Grown.cons h hb

theorem emitted (h : Tame rt rt') (owner : Option Nat) (event : SupervisorEvent) :
    Tame rt (rt'.emitted owner event) := Grown.cons h rfl

theorem finalized (h : Tame rt rt') (key : ChildKey) (e : ChildEntry) : Tame rt (rt'.finalized key e) :=
  finalized_grown key e h rfl rfl

theorem requested (h : Tame rt rt') (reply : Nat) (key : ChildKey) (e : ChildEntry) :
    Tame rt (rt'.requested reply key e) := requested_grown reply key e h rfl rfl rfl

theorem spawned (h : Tame rt rt') (key : ChildKey) (e : ChildEntry) : Tame rt (rt'.spawned key e) :=
  spawned_grown key e h rfl fun _ => Action.internal_of_life

theorem restarted (h : Tame rt rt') (key : ChildKey) (e : ChildEntry) : Tame rt (rt'.restarted key e) :=
  restarted_grown key e h rfl fun _ => Action.internal_of_life

theorem added (h : Tame rt rt') (key : ChildKey) (child : ChildSpec) :
    Tame rt (rt'.added key child) := by
  have hinserted : Tame rt (rt'.inserted key child) := h
  exact hinserted.spawned key (rt'.newEntry child)

theorem exited (h : Tame rt rt') (t : Task) (e : ChildEntry) (outcome : TaskOutcome) :
    Tame rt (rt'.exited t e outcome) :=
  exited_grown t e outcome h rfl rfl rfl fun _ => Action.internal_of_life

theorem setEntry (h : Tame rt rt') (key : ChildKey) (e : ChildEntry) : Tame rt (rt'.setEntry key e) := h

theorem overrun (h : Tame rt rt') (key : ChildKey) (e : ChildEntry) : Tame rt (rt'.overrun key e) :=
  (h.setEntry key _).emitted none .restartIntensityExceeded

theorem scheduled (h : Tame rt rt') (key : ChildKey) (e : ChildEntry) (deadline : Instant) :
    Tame rt (rt'.scheduled key e deadline) := h.setEntry key _

theorem dropped (h : Tame rt rt') : Tame rt rt'.dropReceiver :=
  h.trans (dropReceiver_grown rt' fun _ => rfl)

theorem spawnedAll (rt : SupervisorRuntime) (keys : List ChildKey) : Tame rt (rt.spawnedAll keys) := by
  induction keys generalizing rt with
  | nil => exact .refl rt
  | cons key rest ih =>
    rw [SupervisorRuntime.spawnedAll]
    cases rt.children.get key with
    | none => exact ih rt
    | some e => exact ((Tame.refl rt).spawned key e).trans (ih _)

theorem respawnedAll (rt : SupervisorRuntime) (keys : List ChildKey) : Tame rt (rt.respawnedAll keys) := by
  induction keys generalizing rt with
  | nil => exact .refl rt
  | cons key rest ih =>
    rw [SupervisorRuntime.respawnedAll]
    cases rt.children.get key with
    | none => exact ih rt
    | some e =>
      dsimp only
      split
      · exact ((Tame.refl rt).restarted key e).trans (ih _)
      · exact ih rt

theorem abortMatchingChildren (rt : SupervisorRuntime) (predicate : ChildEntry → Bool) :
    Tame rt (rt.abortMatchingChildren predicate) := by
  have hchain : Relation.ReflTransGen Tame rt (rt.abortMatchingChildren predicate) :=
    abortMatchingChildren_chain predicate fun rt' _ e _ _ _ _ => abortedChild_grown e (Grown.refl _ _) rfl
  exact rel_of_chain hchain .refl fun _ _ _ => .trans

theorem cancelRunningChildren (hwf : rt.Wf) : Tame rt rt.cancelRunningChildren :=
  hwf.cancelRunningChildren_grown rfl rfl

end Tame

theorem LoopHead.tame (h : LoopHead rt rt' ctrl) : Tame rt rt' := by
  cases h with
  | exit _ => exact (Tame.refl rt).dropped
  | natural => exact ((Tame.refl rt).emitted _ _).dropped
  | wait _ => exact .refl rt

theorem AtLoop.tame {rt₁ : SupervisorRuntime} (h : AtLoop rt ctrl a rt₁) : Tame rt rt₁ := by
  cases h <;> exact Tame.refl rt

theorem DrainedJoin.tame {t : Task} {outcome : TaskOutcome} {reason : DrainReason}
    (h : DrainedJoin rt t outcome reason rt') : Tame rt rt' := by
  cases h with
  | stale _ => exact (Tame.refl rt).log rfl
  | exited => exact (Tame.refl rt).exited t _ outcome
  | temporary => exact (Tame.refl rt).exited t _ outcome

theorem DrainNext.tame {reason : DrainReason} {k : Stack (.drainChildren reason)}
    (h : DrainNext rt reason k rt' ctrl) : Tame rt rt' := by
  cases h with
  | select | done _ => exact .refl rt
  | abort => exact .abortMatchingChildren rt _

theorem JoinOutcome.tame {t : Task} {outcome : TaskOutcome} {k : Stack .handleJoinedChild}
    (h : JoinOutcome rt t outcome k rt' ctrl) : Tame rt rt' := by
  have hexited (e : ChildEntry) : Tame rt (rt.exited t e outcome) := (Tame.refl rt).exited t e outcome
  cases h with
  | stale _ => exact (Tame.refl rt).log rfl
  | stopping => exact hexited _
  | removed => exact (hexited _).finalized _ _
  | settled => exact (hexited _).setEntry _ _
  | overrunOne | overrunAll => exact (hexited _).overrun _ _
  | scheduledOne | scheduledAll => exact ((hexited _).scheduled _ _ _).emitted _ _

theorem Rule.tame (h : Rule rt ctrl a rt' ctrl') (hwf : rt.Wf) (hc : ctrl.Contract)
    (hstep : step ⟨rt, ctrl⟩ a = some ⟨rt', ctrl'⟩) : Tame rt rt' := by
  have hrefl := Tame.refl rt
  cases h with
  | env henv =>
    rcases (envStep_frame henv).trace with ht | ⟨reply, ht⟩
    · rw [Tame, ht]
      exact .refl _ _
    · rw [Tame, ht]
      exact Grown.cons (.refl _ _) rfl
  | overflow | vacantOne | vacantAll | joinError | shutdownEnd | runEnd => exact hrefl.dropped
  | start hl =>
    have hspawned := Tame.spawnedAll (rt.emitted none .supervisorStarted) rt.childOrder
    exact ((hrefl.emitted _ _).trans hspawned).trans hl.tame
  | loop hat hl => exact hat.tame.trans hl.tame
  | natural _ => exact (hrefl.emitted _ _).dropped
  | @shutdown _ _ _ _ rt₁ _ hrt _ =>
    have hwf₁ : Wf { rt₁ with state := .stopping } := by
      rcases hrt with rfl | rfl <;> exact hwf
    have hcancelled : Tame rt { rt₁ with state := .stopping }.cancelRunningChildren := by
      rcases hrt with rfl | rfl <;> exact .cancelRunningChildren hwf₁
    exact (hcancelled.emitted _ _).trans (.abortMatchingChildren _ _)
  | shutdownDrained => exact hrefl.emitted _ _
  | @command _ _ k key cmd rest _ hh hv hq ho =>
    have hhandled (reply : Nat) : Tame rt ((rt.received rest).log (.handled reply)) := hrefl.log rfl
    cases cmd with
    | addChild child reply =>
      rcases step_addChild (c := ⟨rt, ctrl⟩) hwf hh hq hstep with ⟨e, he, hc'⟩ | ⟨-, hc'⟩
      · cases hc'
        exact (hhandled reply).log (addRefusal_isInternal he)
      · cases hc'
        exact ((hhandled reply).added key child).log rfl
    | removeChild id reply =>
      cases ho with
      | removeRefused _ => exact hhandled reply
      | removed => exact ((hhandled reply).requested _ _ _).finalized _ _
      | removeAbort => exact abortedChild_grown _ ((hhandled reply).requested _ _ _) rfl
      | removeWait => exact cancelledChild_grown _ ((hhandled reply).requested _ _ _) rfl
  | replied v =>
    refine hrefl.log ?_
    cases v with
    | ok u => rfl
    | error e => exact hc e rfl
  | join _ _ ho => exact ho.tame
  | readyJoin _ hd => exact hd.tame
  | drainJoin _ hd hn => exact hd.tame.trans hn.tame
  | drainNext _ hn => exact hn.tame
  | respawn _ _ => exact hrefl.restarted _ _
  | groupDrain =>
    have hcancelled : Tame rt rt.cancelRunningChildren := .cancelRunningChildren hwf
    exact hcancelled.trans (.abortMatchingChildren _ _)
  | groupRespawn =>
    have hregrouped : Tame rt rt.regrouped := .refl rt
    exact hregrouped.trans (.respawnedAll _ _)
  | removalTimer _ => exact abortedChild_grown _ hrefl rfl
  | detach _ => exact hrefl.finalized _ _
  | _ => exact hrefl

end

/-! ### Unjoined tasks were spawned -/

theorem Update.tasks_spawned {c c' : Config} {a : Act} {rt rt' : SupervisorRuntime}
    (h : Update c a c' rt rt') (hwf : rt.Wf)
    (hI : ∀ t ∈ rt.joinSet.tasks, (t.info, t.id) ∈ spawns rt.trace) :
    ∀ t ∈ rt'.joinSet.tasks, (t.info, t.id) ∈ spawns rt'.trace := by
  have hold {s : TaskMeta × TaskId} (hs : s ∈ spawns rt.trace) : s ∈ spawns rt'.trace := by
    rcases h.spawns_eq hwf with heq | ⟨key, e, hspawn⟩
    · exact heq ▸ hs
    · rw [hspawn.spawns_eq]
      exact List.mem_cons_of_mem _ hs
  intro t ht
  rcases h.numbers hwf with ⟨key, e, hspawn⟩ | hkeeps
  · rw [hspawn.joinSet] at ht
    rcases List.mem_append.1 ht with ht | ht
    · exact hold (hI t ht)
    · rw [List.mem_singleton.1 ht, hspawn.spawns_eq]
      exact List.mem_cons_self
  · obtain ⟨u, hu, hid, hinfo⟩ := hkeeps.tasks t ht
    rw [← hid, ← hinfo]
    exact hold (hI u hu)

/-- `spawn_child` panics on a vacant slot; otherwise it succeeds. -/
theorem SupervisorRuntime.Wf.spawnChild_ok {rt rt₁ : SupervisorRuntime} (h : rt.Wf) (key : ChildKey)
    (e : SupervisorError) : rt.spawnChild key ≠ .ok (rt₁, .error e) := by
  intro hok
  cases he : rt.children.get key with
  | none =>
    rw [SupervisorRuntime.spawnChild, clearTerminalStatus, index_vacant he] at hok
    cases hok
  | some entry =>
    rw [h.spawnChild he] at hok
    cases hok

/-! ### Runs -/

/-- The call has returned an `Internal` error. -/
def Fn.internal : (fn : Fn) → fn.Value → Bool
  | .run, .error e | .shutdownAll, .error e | .abortAndDetachChild, .error e
  | .drainReadyJoins _, .error e | .drainChildren _, .error e | .drainForGroupRestart, .error e
  | .handleJoinedChild, .error e | .handleOneForOneRestart, .error e
  | .handleOneForAllRestart, .error e | .waitForRestartDelay, .error e => e.isInternal
  | .removeChild, .error e | .awaitChildRemoval, .error e | .handleShutdownDuringControl, .error e
  | .handleJoinDuringControl, .error e => e.isInternal
  | _, _ => false

def Ctrl.internal : Ctrl → Bool
  | @Ctrl.ret fn _ v => fn.internal v
  | .finished (.error e) => e.isInternal
  | _ => false

theorem Fn.Contract.internal {fn : Fn} {v : fn.Value} (h : fn.Contract v) : fn.internal v = false := by
  cases fn with
  | queueShutdownExit | handleCommand => rfl
  | abortAndDetachChild | drainReadyJoins reason =>
    cases h
    rfl
  | handleShutdownDuringControl =>
    cases v with
    | ok u => rfl
    | error e =>
      cases h e rfl
      rfl
  | waitForRestartDelay =>
    cases v with
    | ok b => rfl
    | error e => exact absurd rfl (h e)
  | _ =>
    cases v with
    | ok u => rfl
    | error e => exact h e rfl

theorem Ctrl.Contract.internal {ctrl : Ctrl} (h : ctrl.Contract) : ctrl.internal = false := by
  cases ctrl with
  | ret k v => exact Fn.Contract.internal h
  | finished r =>
    cases r with
    | ok x => rfl
    | error e => exact h e rfl
  | _ => rfl

/-- No `Internal` error has come up: none has been returned, is held back for later, or was given as a
reply; joins find their metadata and spawns their slots (the slot that a restart indexes before it spawns is
`keepsSlot`'s matter), the map of tasks has the tasks that are spawned and not joined, and no removal waits
on an empty join set. -/
structure Config.NeverInternal (c : Config) : Prop where
  returned : c.ctrl.internal = false
  owed : ∀ e k, c.ctrl.Owes e k → e.isInternal = false
  pending : ∀ e, c.rt.pendingExit = some (.error e) → e.isInternal = false
  replied : ∀ b ∈ c.rt.trace, b.internal = false
  joined : ∀ id rt joined, c.rt.joinTask id = some (rt, joined) →
    ∃ v, (rt.consumeJoinedChild joined).2 = .ok v
  taskMap : ∀ id, (c.rt.taskMap.lookup id).isSome = true ↔
    (∃ info, (info, id) ∈ spawns c.rt.trace) ∧ id ∉ joins c.rt.trace
  spawned : ∀ key rt e, c.rt.spawnChild key ≠ .ok (rt, .error e)
  indexed : ∀ key a rt, TokioSupervisor.step c a = some ⟨rt, .panicked (.vacantSlot key)⟩ →
    c.ctrl = .panicked (.vacantSlot key) ∨ keepsSlot c = false
  awaited : ∀ l k, c.ctrl = .await (.removalSelect l) k → c.rt.joinSet.isEmpty = false

/-- What a step keeps so that no `Internal` error comes up. -/
structure Config.Contracted (c : Config) : Prop where
  contract : c.ctrl.Contract
  owed : ∀ e k, c.ctrl.Owes e k → e.isInternal = false
  pending : ∀ e, c.rt.pendingExit = some (.error e) → e.isInternal = false
  replied : ∀ b ∈ c.rt.trace, b.internal = false

theorem Config.Contracted.step {c c' : Config} {a : Act} (h : c.Contracted) (hs : c.Sane)
    (hjoin : ∀ l k, c.ctrl = .await (.removalSelect l) k → c.rt.joinSet.isEmpty = false)
    (hstep : TokioSupervisor.step c a = some c') : c'.Contracted := by
  have hr := step_rule hs hstep
  refine ⟨hr.contract h.contract h.owed h.pending hjoin hstep, fun e k ho => ?_, fun e he => ?_,
    fun b hb => ?_⟩
  · rcases hr.owes hstep ho with ho | ⟨l, -, hl⟩
    · exact h.owed e k ho
    · rw [hl.error]
      rfl
  · rcases step_pendingExit hs hstep with heq | ⟨hnone, -⟩ | ⟨k, v, hc, rfl⟩
    · exact h.pending e (heq ▸ he)
    · rw [hnone] at he
      cases he
    · cases he
      have hcontract := h.contract
      rw [hc] at hcontract
      exact hcontract e rfl
  · rcases (hr.tame hs.wf h.contract hstep).mem hb with hb | hb
    · exact h.replied b hb
    · exact hb

section
variable {config : SupervisorConfig} {env : StartEnv} {as : List Act} {c : Config}

/-- A removal that waits for its child finds a task in the join set. -/
theorem run_removal_joinSet {ok : Config → Act → Prop} (h : config.Accepted)
    (hok : ∀ c a, ok c a → keepsAwaited c a = true) (hrun : Run step ok (Config.start config env) as c)
    {l : Removal} {k : Stack .awaitChildRemoval} (hc : c.ctrl = .await (.removalSelect l) k) :
    c.rt.joinSet.isEmpty = false := by
  obtain ⟨e, -, -, -, t, ht, -⟩ := run_awaited h hok hrun hc
  rw [← Bool.not_eq_true]
  intro hempty
  rw [JoinSet.isEmpty, List.isEmpty_iff] at hempty
  rw [hempty] at ht
  cases ht

theorem run_contracted {ok : Config → Act → Prop} (h : config.Accepted)
    (hok : ∀ c a, ok c a → keepsAwaited c a = true)
    (hrun : Run step ok (Config.start config env) as c) : c.Contracted := by
  have hfresh := h.fresh env
  refine hrun.invariant_of (I := Config.Contracted)
    (J := fun c => c.Sane ∧ ∀ l k, c.ctrl = .await (.removalSelect l) k → c.rt.joinSet.isEmpty = false)
    (fun _ _ h' => ⟨run_sane h h', fun _ _ hc => run_removal_joinSet h hok h' hc⟩)
    ⟨trivial, fun e k ho => absurd ho id, fun e he => ?_, fun b hb => ?_⟩
    fun _ _ _ hJ hI _ hstep => hI.step hJ.1 hJ.2 hstep
  · have hnone : (SupervisorRuntime.new config env).pendingExit = none := hfresh.pendingExit
    exact absurd (hnone.symm.trans he) nofun
  · have hnil : (SupervisorRuntime.new config env).trace = [] := hfresh.trace
    have hb : b ∈ (SupervisorRuntime.new config env).trace := hb
    rw [hnil] at hb
    cases hb

theorem run_tasks_spawned {ok : Config → Act → Prop} (h : config.Accepted)
    (hrun : Run step ok (Config.start config env) as c) :
    ∀ t ∈ c.rt.joinSet.tasks, (t.info, t.id) ∈ spawns c.rt.trace := by
  refine run_invariant h hrun (I := fun rt => ∀ t ∈ rt.joinSet.tasks, (t.info, t.id) ∈ spawns rt.trace)
    (fun t ht => ?_) fun _ _ _ _ _ _ _ _ hwf hI hu => hu.tasks_spawned hwf hI
  rw [(h.fresh env).joinSet] at ht
  cases ht

/-- In every run in which no drain consumes an exit that a removal waits for, and no child is added in
the slot of one, no `Internal` error comes up. -/
theorem run_neverInternal (h : config.Accepted)
    (hrun : Run step (fun c a => keepsAwaited c a = true) (Config.start config env) as c) :
    c.NeverInternal := by
  have hkept := run_contracted h (fun _ _ => id) hrun
  have hs := run_sane h hrun
  have hwf := hs.wf
  refine ⟨hkept.contract.internal, hkept.owed, hkept.pending, hkept.replied, fun id rt joined hj => ?_,
    fun id => ⟨fun hm => ?_, fun hm => ?_⟩, fun key rt e => hwf.spawnChild_ok key e,
    fun key a rt hstep => ?_, fun l k hc => run_removal_joinSet h (fun _ _ => id) hrun hc⟩
  · obtain ⟨t, outcome, -, -, ⟨-, heq⟩ | ⟨e, -, heq⟩⟩ := hwf.consumeJoinedChild hj
    · rw [heq]
      exact ⟨_, rfl⟩
    · rw [heq]
      exact ⟨_, rfl⟩
  · obtain ⟨info, hinfo⟩ := Option.isSome_iff_exists.1 hm
    obtain ⟨t, ht, rfl, rfl⟩ := (hwf.taskMap id info).1 hinfo
    refine ⟨⟨t.info, run_tasks_spawned h hrun t ht⟩, fun hjoined => ?_⟩
    exact ((run_joinsOnce h hrun).gone t.id hjoined).2 t ht rfl
  · obtain ⟨⟨info, hspawned⟩, hjoined⟩ := hm
    obtain ⟨t, ht, hid⟩ := (run_accounted h hrun (info, id) hspawned).resolve_left hjoined
    rw [(hwf.taskMap id t.info).2 ⟨t, ht, hid, rfl⟩]
    rfl
  · rcases (step_rule hs hstep).panicked with hc | hp | hk
    · exact .inl hc
    · cases hp
    · exact .inr hk

end

/-! ### A drain that consumes an awaited exit -/

/-- Two cooperative children that are restarted together. -/
def togetherConfig : SupervisorConfig := { pairConfig with strategy := .oneForAll }

theorem togetherConfig_accepted : togetherConfig.Accepted :=
  ⟨⟨togetherConfig.strategy, togetherConfig.restartIntensity, togetherConfig.children, 8, 8⟩, rfl⟩

/-- `b` fails during the removal of `a`, and the drain of the group restart consumes the exit of `a`. -/
def consumedActs : List Act :=
  [.run .go, .send (.removeChild "a" 0), .run (.command 2), .finish 1 (.returned (.error "failed")),
    .run (.join 1), .tick NANOS_PER_SEC 0, .run .timer, .resume, .finish 0 (.returned (.ok ())),
    .run .go, .run (.join 0), .run .joinNone, .resume, .resume, .resume, .resume, .resume, .resume]

/-- Then `b` ends, and the removal of `a` waits on an empty join set. -/
theorem internal_error_reached : togetherConfig.Accepted ∧
    ∃ c, AnyRun step (Config.start togetherConfig ⟨false, 0, 0⟩)
      (consumedActs ++ [.finish 2 (.returned (.ok ())), .run (.join 2), .resume, .resume,
        .run .joinNone]) c ∧ ¬ c.NeverInternal := by
  have hex : ∃ c, AnyRun step (Config.start togetherConfig ⟨false, 0, 0⟩)
      (consumedActs ++ [.finish 2 (.returned (.ok ())), .run (.join 2), .resume, .resume,
        .run .joinNone]) c ∧ c.ctrl.internal = true := anyRun_of_exec (by decide +kernel)
  obtain ⟨c, hrun, hc⟩ := hex
  exact ⟨togetherConfig_accepted, c, hrun, fun h => absurd (h.returned.symm.trans hc) nofun⟩

/-- Where the children are restarted one by one the removal consumes the exit itself. -/
theorem run_neverInternal_removal : ∃ c : Config, c.rt.childOrder = [1] ∧ c.NeverInternal := by
  have hex : ∃ c, Run step (fun c a => keepsAwaited c a = true) (Config.start pairConfig ⟨false, 0, 0⟩)
      [.run .go, .send (.removeChild "a" 0), .run (.command 2),
        .finish 1 (.returned (.error "failed")), .run (.join 1), .tick NANOS_PER_SEC 0, .run .timer,
        .resume, .resume, .resume, .resume, .finish 0 (.returned (.ok ())), .run (.join 0), .resume,
        .resume, .resume, .resume, .resume] c ∧ c.rt.childOrder = [1] :=
    run_of_execIf_map (by decide +kernel)
  obtain ⟨c, hrun, hc⟩ := hex
  exact ⟨c, hc, run_neverInternal pairConfig_accepted hrun⟩

end TokioSupervisor
