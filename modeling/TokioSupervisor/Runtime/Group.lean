import TokioSupervisor.Runtime.Frames
import TokioSupervisor.Runtime.Tasks

/-!
# Group restarts

When the respawn loop of `handle_one_for_all_restart` starts, the old generation is gone: every child
is stopped, no task is counted, and the new group token is neither cancelled nor known to a child. The
loop then spawns the active children that are not temporary, in order. All this holds as long as the
instance numbers last.
-/

namespace TokioSupervisor
open Lib SupervisorRuntime

/-! ### Tokens -/

namespace SupervisorRuntime

/-- Every token in use was made before. -/
structure TokensMade (rt : SupervisorRuntime) : Prop where
  cancelled : ∀ i ∈ rt.tokens.cancelled, i < rt.tokens.next
  group : rt.groupToken.id < rt.tokens.next
  active : ∀ key e t, rt.children.get key = some e → e.runtime.activeToken = some t →
    t.id < rt.tokens.next ∧ ∀ p ∈ t.parent, p < rt.tokens.next

namespace TokensMade
variable {rt : SupervisorRuntime}

theorem replace (h : rt.TokensMade) {children : Slab ChildEntry}
    (hfrom : ∀ key e' t, children.get key = some e' → e'.runtime.activeToken = some t →
      ∃ k e, rt.children.get k = some e ∧ e.runtime.activeToken = some t) :
    ({ rt with children } : SupervisorRuntime).TokensMade := by
  refine ⟨h.cancelled, h.group, fun key e' t he' ht => ?_⟩
  obtain ⟨k, e, he, ht⟩ := hfrom key e' t he' ht
  exact h.active k e t he ht

theorem setEntry (h : rt.TokensMade) {key : ChildKey} {e e' : ChildEntry}
    (he : rt.children.get key = some e)
    (ht : ∀ t, e'.runtime.activeToken = some t → e.runtime.activeToken = some t) :
    (rt.setEntry key e').TokensMade := by
  refine h.replace fun k f t hf hft => ?_
  rw [Slab.get_set he] at hf
  split at hf
  · cases hf
    exact ⟨key, e, he, ht t hft⟩
  · exact ⟨k, f, hf, hft⟩

theorem cancel (h : rt.TokensMade) {t : CancellationToken} (ht : t.id < rt.tokens.next) :
    ({ rt with tokens := rt.tokens.cancel t } : SupervisorRuntime).TokensMade := by
  refine ⟨fun i hi => ?_, h.group, h.active⟩
  rcases List.mem_cons.1 hi with rfl | hi
  · exact ht
  · exact h.cancelled i hi

theorem requested (h : rt.TokensMade) (reply : Nat) {key : ChildKey} {e : ChildEntry}
    (he : rt.children.get key = some e) : (rt.requested reply key e).TokensMade := by
  have : (rt.setEntry key e.requested).TokensMade := h.setEntry he fun _ ht => ht
  exact ⟨this.cancelled, this.group, this.active⟩

theorem finalized (h : rt.TokensMade) (key : ChildKey) (e : ChildEntry) :
    (rt.finalized key e).TokensMade := by
  refine ⟨h.cancelled, h.group, fun k f t hf ht => ?_⟩
  have hrem : (rt.children.remove key).get k = some f := hf
  rw [Slab.get_remove] at hrem
  split at hrem
  · cases hrem
  · exact h.active k f t hrem ht

theorem spawned (h : rt.TokensMade) {key : ChildKey} {e : ChildEntry}
    (he : rt.children.get key = some e) : (rt.spawned key e).TokensMade := by
  refine ⟨fun i hi => Nat.lt_succ_of_lt (h.cancelled i hi), Nat.lt_succ_of_lt h.group,
    fun k f t hf ht => ?_⟩
  show t.id < rt.tokens.next + 1 ∧ ∀ p ∈ t.parent, p < rt.tokens.next + 1
  by_cases hk : k = key
  · subst hk
    rw [spawned_get he] at hf
    cases hf
    cases ht
    refine ⟨Nat.lt_succ_self _, fun p hp => ?_⟩
    cases hp
    exact Nat.lt_succ_of_lt h.group
  · rw [spawned_get_ne he hk] at hf
    obtain ⟨h₁, h₂⟩ := h.active k f t hf ht
    exact ⟨Nat.lt_succ_of_lt h₁, fun p hp => Nat.lt_succ_of_lt (h₂ p hp)⟩

theorem inserted (h : rt.TokensMade) {key : ChildKey} (hk : rt.children.vacant key = true)
    (child : ChildSpec) : (rt.inserted key child).TokensMade := by
  refine ⟨h.cancelled, h.group, fun k f t hf ht => ?_⟩
  have hget : (rt.children.insert key (rt.newEntry child)).get k = some f := hf
  rw [Slab.get_insert hk] at hget
  split at hget
  · cases hget; cases ht
  · exact h.active k f t hget ht

theorem regrouped (h : rt.TokensMade) : rt.regrouped.TokensMade := by
  refine ⟨fun i hi => Nat.lt_succ_of_lt (h.cancelled i hi), Nat.lt_succ_self _, fun k f t hf ht => ?_⟩
  obtain ⟨h₁, h₂⟩ := h.active k f t hf ht
  exact ⟨Nat.lt_succ_of_lt h₁, fun p hp => Nat.lt_succ_of_lt (h₂ p hp)⟩

theorem cancelRunningChildren (h : rt.TokensMade) (hwf : rt.Wf) :
    rt.cancelRunningChildren.TokensMade := by
  obtain ⟨C, n, heq, hget, -⟩ := hwf.cancelRunningChildren
  have hC : ({ rt with children := C } : SupervisorRuntime).TokensMade := by
    refine h.replace fun key e' t he' ht => ?_
    rw [hget, Option.map_eq_some_iff] at he'
    obtain ⟨e, he, rfl⟩ := he'
    refine ⟨key, e, he, ?_⟩
    unfold ChildEntry.stopping at ht
    split at ht <;> exact ht
  have := hC.cancel h.group
  rw [heq]
  exact ⟨this.cancelled, this.group, this.active⟩

end TokensMade

theorem Fresh.tokensMade {rt : SupervisorRuntime} (h : rt.Fresh) : rt.TokensMade := by
  obtain ⟨hg, ht⟩ := h.tokens
  refine ⟨by simp [ht], by simp [hg, ht], fun key e t he hact => ?_⟩
  rw [(h.unborn key e he).activeToken] at hact
  cases hact

end SupervisorRuntime

theorem Update.tokensMade {c c' : Config} {a : Act} {rt rt' : SupervisorRuntime} (h : Update c a c' rt rt')
    (hwf : rt.Wf) (hI : rt.TokensMade) : rt'.TokensMade := by
  cases h with
  | entry he hs => exact hI.setEntry he fun t ht => hs.activeToken ▸ ht
  | terminated g he _ _ => exact hI.setEntry he fun t ht => by simpa using ht
  | requested reply he _ _ _ _ _ => exact hI.requested reply he
  | removed reply he _ _ _ _ => exact (hI.requested reply he).finalized ..
  | @cancelled key e he _ =>
    unfold SupervisorRuntime.cancelledChild
    split
    · exact hI
    · rename_i t ht
      have := hI.cancel (hI.active key e t he ht).1
      exact ⟨this.cancelled, this.group, this.active⟩
  | aborted _ _ =>
    unfold SupervisorRuntime.abortedChild
    split <;> exact ⟨hI.cancelled, hI.group, hI.active⟩
  | @exited t e outcome _ _ hf hc =>
    have : (rt.setEntry t.info.key (e.stopped outcome.status)).TokensMade :=
      hI.setEntry hc.get fun t ht => nomatch ht
    exact ⟨this.cancelled, this.group, this.active⟩
  | finalized _ _ _ => exact hI.finalized ..
  | detached _ _ _ => exact hI.finalized ..
  | started he _ _ => exact hI.spawned he
  | added hv _ _ _ => exact (hI.inserted hv _).spawned (inserted_get hv _)
  | respawned he _ _ _ =>
    have := hI.spawned he
    exact ⟨this.cancelled, this.group, this.active⟩
  | groupRespawned he _ _ _ =>
    have := hI.spawned he
    exact ⟨this.cancelled, this.group, this.active⟩
  | cancelledAll _ => exact hI.cancelRunningChildren hwf
  | regrouped _ => exact hI.regrouped
  | _ => exact ⟨hI.cancelled, hI.group, hI.active⟩

/-! ### The respawn loop -/

namespace SupervisorRuntime

/-- The children that a group restart respawns, in order. -/
def respawnKeys (rt : SupervisorRuntime) : List ChildKey :=
  rt.childOrder.filter fun key => (rt.children.get key).any ChildEntry.respawns

theorem spawnedKeys_restarted (rt : SupervisorRuntime) (key : ChildKey) (e : ChildEntry) :
    spawnedKeys (rt.restarted key e).trace = spawnedKeys rt.trace ++ [key] := by
  simp [spawnedKeys, restarted, spawned, emitted, log, List.filterMap_cons, Action.spawnedKey]

/-- The loop spawns each of its keys that holds a respawning entry, once. -/
theorem spawnedKeys_respawnedAll {rt : SupervisorRuntime} {keys : List ChildKey} (hnd : keys.Nodup) :
    spawnedKeys (rt.respawnedAll keys).trace =
      spawnedKeys rt.trace ++ keys.filter fun key => (rt.children.get key).any ChildEntry.respawns := by
  induction keys generalizing rt with
  | nil => simp [respawnedAll]
  | cons key rest ih =>
    obtain ⟨hkey, hnd⟩ := List.nodup_cons.1 hnd
    rw [respawnedAll]
    cases he : rt.children.get key with
    | none => simp [he, ih hnd]
    | some e =>
      by_cases hr : e.respawns = true
      · have hrest : ∀ k ∈ rest, (rt.restarted key e).children.get k = rt.children.get k := by
          intro k hk
          exact spawned_get_ne he fun hkk => hkey (hkk ▸ hk)
        have hfilter : (rest.filter fun k => ((rt.restarted key e).children.get k).any
            ChildEntry.respawns) = rest.filter fun k => (rt.children.get k).any ChildEntry.respawns :=
          List.filter_congr fun k hk => by rw [hrest k hk]
        simp only [if_pos hr]
        rw [ih hnd, hfilter, spawnedKeys_restarted]
        simp [he, hr]
      · simp [he, hr, ih hnd]

theorem mem_respawnKeys {rt : SupervisorRuntime} (hwf : rt.Wf) {key : ChildKey} :
    key ∈ rt.respawnKeys ↔ ∃ e, rt.children.get key = some e ∧ e.membership = .active ∧
      e.runtime.spec.restart ≠ .temporary := by
  simp only [respawnKeys, List.mem_filter, hwf.order, Option.any_eq_true, ChildEntry.respawns,
    Bool.and_eq_true, beq_iff_eq, bne_iff_ne]
  constructor
  · rintro ⟨-, e, he, ha⟩
    exact ⟨e, he, ha⟩
  · rintro ⟨e, he, ha⟩
    exact ⟨⟨e, he⟩, e, he, ha⟩

end SupervisorRuntime

/-- The drain of a group restart has returned; the next step runs the respawn loop. -/
def Ctrl.startsRespawn : Ctrl → Bool
  | .ret (.push .oneForAllDrain _) (.ok ()) => true
  | _ => false

/-- The respawn loop starts, on the state `c.rt.regrouped`, after the old generation has gone. -/
structure Config.RespawnsGroup (c : Config) : Prop where
  stopped : ∀ key e, c.rt.regrouped.children.get key = some e →
    e.runtime.state = .stopped ∧ e.runtime.abortHandle = none
  live : c.rt.regrouped.liveTasks = 0
  /-- The group token is none of those made before. -/
  fresh : c.rt.groupToken.id < c.rt.regrouped.groupToken.id ∧
    ∀ key e t, c.rt.regrouped.children.get key = some e → e.runtime.activeToken = some t →
      t.id < c.rt.regrouped.groupToken.id ∧ ∀ p ∈ t.parent, p < c.rt.regrouped.groupToken.id
  uncancelled : c.rt.regrouped.tokens.isCancelled c.rt.regrouped.groupToken = false
  /-- The loop spawns `respawnKeys`, in this order. -/
  spawns : ∃ c', step c .resume = some c' ∧
    spawnedKeys c'.rt.trace = spawnedKeys c.rt.trace ++ c.rt.respawnKeys
  once : c.rt.respawnKeys.Nodup
  exactly : ∀ key, key ∈ c.rt.respawnKeys ↔ ∃ e, c.rt.children.get key = some e ∧
    e.membership = .active ∧ e.runtime.spec.restart ≠ .temporary

theorem SupervisorRuntime.TokensMade.uncancelled {rt : SupervisorRuntime} (h : rt.TokensMade) :
    rt.regrouped.tokens.isCancelled rt.regrouped.groupToken = false := by
  have hnot : rt.tokens.next ∉ rt.tokens.cancelled := fun hm =>
    absurd (h.cancelled _ hm) (Nat.lt_irrefl _)
  simp [SupervisorRuntime.regrouped, Tokens.fresh, Tokens.isCancelled, hnot]

/-- A supervisor of the other strategy restarts no single child. -/
theorem restartsStopped_of_suits {c : Config} (h : c.ctrl.Suits .oneForAll) :
    restartsStopped c = true := by
  unfold restartsStopped
  split
  · rename_i hc
    rw [hc] at h
    exact absurd (h.1 _ rfl) nofun
  · rfl

/-- A group restart never spawns over an old generation, as long as the instance numbers last. -/
theorem run_respawnsGroup {config : SupervisorConfig} {env : StartEnv} {as : List Act} {c : Config}
    (h : config.Accepted) (hst : config.strategy = .oneForAll)
    (hrun : Run step (fun c _ => instancesLeft c = true) (Config.start config env) as c)
    (hc : c.ctrl.startsRespawn = true) : c.RespawnsGroup := by
  have hs := run_sane h hrun
  have hlt : (SupervisorRuntime.new config env).nextChildInstance < U64_MAX := by
    rcases hrun.ok_start with rfl | ⟨a, hleft⟩
    · cases hc
    · exact of_decide_eq_true hleft
  have hrun' : Run step (fun c _ => restartsStopped c = true ∧ instancesLeft c = true)
      (Config.start config env) as c := by
    refine hrun.mono_of (fun _ _ h' => run_suits h h') fun c a hsuits hok => ⟨?_, hok⟩
    exact restartsStopped_of_suits (hst ▸ hsuits)
  obtain ⟨hI, hgroup⟩ := run_single h (fun _ _ hok => hok) hlt hrun'
  have htok : c.rt.TokensMade :=
    run_invariant h hrun (h.fresh env).tokensMade fun _ _ _ _ _ _ _ _ hwf hI hu => hu.tokensMade hwf hI
  obtain ⟨rt, ctrl⟩ := c
  unfold Ctrl.startsRespawn at hc
  split at hc
  · rename_i k hctrl
    obtain rfl : ctrl = .ret (.push .oneForAllDrain k) (.ok ()) := hctrl
    have hq : rt.Quiet := hgroup .group
    have hstarted : rt.Started := by
      rcases hs.started with hc | ⟨p, hc⟩ | hst
      · cases hc
      · cases hc
      · exact hst
    have hstep : step ⟨rt, .ret (.push .oneForAllDrain k) (.ok ())⟩ .resume =
        some ⟨rt.regrouped.respawnedAll rt.childOrder, .ret k (.ok ())⟩ := by
      simp only [step, resume_groupRespawn hs.wf hstarted]
      rfl
    have hspawns : spawnedKeys (rt.regrouped.respawnedAll rt.childOrder).trace =
        spawnedKeys rt.trace ++ rt.respawnKeys := spawnedKeys_respawnedAll hs.wf.nodup
    exact ⟨hq, hI.liveTasks_of_quiet hq, ⟨htok.group, fun key e t he ht => htok.active key e t he ht⟩,
      htok.uncancelled, ⟨_, hstep, hspawns⟩, hs.wf.nodup.filter _, fun key => mem_respawnKeys hs.wf⟩
  · cases hc

/-! ### A group restart -/

def groupConfig : SupervisorConfig := { slotConfig with strategy := .oneForAll }

theorem groupConfig_accepted : groupConfig.Accepted :=
  ⟨⟨.oneForAll, groupConfig.restartIntensity, groupConfig.children, 8, 8⟩, rfl⟩

/-- `b` fails, and `a` ends during the drain. -/
theorem run_respawnsGroup_drained : ∃ c : Config, c.rt.respawnKeys = [0, 1] ∧ c.RespawnsGroup := by
  have hex : ∃ c, Run step (fun c _ => instancesLeft c = true)
      (Config.start groupConfig ⟨false, 0, 0⟩) [.run .go, .finish 1 (.returned (.error "failed")),
        .run (.join 1), .tick (2 * NANOS_PER_SEC) 0, .run .timer, .resume, .run .go,
        .finish 0 (.returned (.ok ())), .run (.join 0), .run .joinNone, .resume, .resume] c ∧
      (c.ctrl.startsRespawn, c.rt.respawnKeys) = (true, [0, 1]) := run_of_execIf_map (by decide +kernel)
  obtain ⟨c, hrun, hc⟩ := hex
  exact ⟨c, (Prod.mk.inj hc).2,
    run_respawnsGroup groupConfig_accepted rfl hrun (Prod.mk.inj hc).1⟩

end TokioSupervisor
