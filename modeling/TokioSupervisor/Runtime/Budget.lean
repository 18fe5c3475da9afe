import TokioSupervisor.Intensity.Window
import TokioSupervisor.Runtime.Instances
import TokioSupervisor.Runtime.Progress

/-!
# The restart budget of a child

A tracker that is handed its calls keeps the window of its intensity. Here the calls are those of a run: the
tracker lies in an entry of the slab, whose key is reused, and is only touched when a join asks for a restart.
`Metered` records each restart that the supervisor schedules, with the instant. No child gets more of them
within its window than its intensity allows, whatever else happens in the run (`run_limits`).
-/

namespace TokioSupervisor
open Lib SupervisorRuntime

/-! ### Scheduled restarts -/

/-- A restart that was scheduled: the instance that failed, under which intensity, and when. -/
structure Admission where
  instanceId : Nat
  intensity : RestartIntensity
  instant : Instant

/-- The restart that the step schedules: a join after which the delay of a restart is waited for. -/
def Config.admits (a : Act) (c' : Config) : Option Admission :=
  match a, c'.ctrl with
  | .run (.join _), .await _ (.push (.oneForOneDelay key _) _)
  | .run (.join _), .await _ (.push (.oneForAllDelay key) _) =>
    (c'.rt.children.get key).map fun e => ⟨e.instanceId, e.runtime.restartTracker.intensity, c'.rt.now⟩
  | _, _ => none

/-- A configuration, with the restarts scheduled so far, newest first. -/
structure Metered where
  config : Config
  admissions : List Admission

namespace Metered

def start (config : SupervisorConfig) (env : StartEnv) : Metered := ⟨Config.start config env, []⟩

def step (s : Metered) (a : Act) : Option Metered :=
  (TokioSupervisor.step s.config a).map fun c =>
    { config := c, admissions := (Config.admits a c).toList ++ s.admissions }

/-- The instants at which the restarts of an instance were scheduled. -/
def instants (s : Metered) (instanceId : Nat) : List Instant :=
  (s.admissions.filter (·.instanceId == instanceId)).map (·.instant)

end Metered

/-! ### What a step makes of the trackers -/

/-- Each entry was there before, with the same tracker, and the clock does not go back. -/
structure Retains (rt rt' : SupervisorRuntime) : Prop where
  now : rt.now ≤ rt'.now
  entries : ∀ key e', rt'.children.get key = some e' → ∃ e, rt.children.get key = some e ∧
    e.instanceId = e'.instanceId ∧ e.runtime.restartTracker = e'.runtime.restartTracker

section
variable {rt rt' rt'' : SupervisorRuntime} {ctrl ctrl' : Ctrl} {a : Act} {key : ChildKey} {e e' : ChildEntry}

namespace Retains

theorem same (h : rt'.children = rt.children) (hnow : rt'.now = rt.now) : Retains rt rt' :=
  ⟨Nat.le_of_eq hnow.symm, fun _ e' he' => ⟨e', h ▸ he', rfl, rfl⟩⟩

theorem trans (h : Retains rt rt') (h' : Retains rt' rt'') : Retains rt rt'' := by
  refine ⟨Nat.le_trans h.now h'.now, fun key e'' he'' => ?_⟩
  obtain ⟨e', he', hi', ht'⟩ := h'.entries key e'' he''
  obtain ⟨e, he, hi, ht⟩ := h.entries key e' he'
  exact ⟨e, he, hi.trans hi', ht.trans ht'⟩

theorem set (he : rt.children.get key = some e) (hg : rt'.children = rt.children.set key e')
    (hnow : rt'.now = rt.now) (hi : e.instanceId = e'.instanceId)
    (ht : e.runtime.restartTracker = e'.runtime.restartTracker) : Retains rt rt' := by
  refine ⟨Nat.le_of_eq hnow.symm, fun k f hf => ?_⟩
  rw [hg, Slab.get_set he] at hf
  split at hf
  · rename_i hk
    cases hf
    exact ⟨e, hk ▸ he, hi, ht⟩
  · exact ⟨f, hf, rfl, rfl⟩

theorem spawned (he : rt.children.get key = some e) : Retains rt (rt.spawned key e) := set he rfl rfl rfl rfl

theorem spawnedAll (rt : SupervisorRuntime) (keys : List ChildKey) : Retains rt (rt.spawnedAll keys) := by
  induction keys generalizing rt with
  | nil => exact same rfl rfl
  | cons key rest ih =>
    rw [SupervisorRuntime.spawnedAll]
    cases he : rt.children.get key with
    | none => exact ih rt
    | some e => exact (spawned he).trans (ih _)

theorem restarted (he : rt.children.get key = some e) : Retains rt (rt.restarted key e) :=
  (spawned he).trans (same rfl rfl)

theorem respawnedAll (rt : SupervisorRuntime) (keys : List ChildKey) : Retains rt (rt.respawnedAll keys) := by
  induction keys generalizing rt with
  | nil => exact same rfl rfl
  | cons key rest ih =>
    rw [SupervisorRuntime.respawnedAll]
    cases he : rt.children.get key with
    | none => exact ih rt
    | some e =>
      dsimp only
      split
      · exact (restarted he).trans (ih _)
      · exact ih rt

theorem cancelRunningChildren (hwf : rt.Wf) : Retains rt rt.cancelRunningChildren := by
  obtain ⟨C, n, heq, hget, -⟩ := hwf.cancelRunningChildren
  refine ⟨Nat.le_of_eq (heq ▸ rfl), fun key e' he' => ?_⟩
  have hg : C.get key = some e' := by
    rw [heq] at he'
    exact he'
  rw [hget, Option.map_eq_some_iff] at hg
  obtain ⟨e, he, rfl⟩ := hg
  refine ⟨e, he, ?_⟩
  unfold ChildEntry.stopping
  split <;> exact ⟨rfl, rfl⟩

theorem abortedChild (rt : SupervisorRuntime) (e : ChildEntry) : Retains rt (rt.abortedChild e) := by
  refine same (abortedChild_children ..) ?_
  unfold SupervisorRuntime.abortedChild
  split <;> rfl

theorem abortMatchingChildren (rt : SupervisorRuntime) (predicate : ChildEntry → Bool) :
    Retains rt (rt.abortMatchingChildren predicate) := by
  refine same (abortMatchingChildren_children _) (abortMatchingChildren_field (·.now) (fun rt e => ?_) predicate)
  unfold SupervisorRuntime.abortedChild
  split <;> rfl

theorem swept (rt : SupervisorRuntime) : Retains rt rt.swept :=
  have h := abortMatchingChildren { rt with commandRx := { rt.commandRx with closed := true } } _
  ⟨h.now, h.entries⟩

theorem halted (hwf : rt.Wf) : Retains rt rt.halted := by
  have h := cancelRunningChildren (show Wf { rt with state := .stopping } from hwf)
  have hcancel : Retains rt ({ rt with state := .stopping }.cancelRunningChildren.emitted none .supervisorStopping) :=
    ⟨h.now, h.entries⟩
  exact hcancel.trans (swept _)

theorem cancelledChild (rt : SupervisorRuntime) (e : ChildEntry) : Retains rt (rt.cancelledChild e) := by
  unfold SupervisorRuntime.cancelledChild
  split <;> exact same rfl rfl

theorem exited {t : Task} (hc : rt.Current t.info e) (outcome : TaskOutcome) : Retains rt (rt.exited t e outcome) :=
  set hc.get rfl rfl rfl rfl

theorem requested (reply : Nat) (he : rt.children.get key = some e) : Retains rt (rt.requested reply key e) :=
  set he rfl rfl rfl rfl

theorem finalized (rt : SupervisorRuntime) (key : ChildKey) (e : ChildEntry) : Retains rt (rt.finalized key e) := by
  refine ⟨Nat.le_refl _, fun k f hf => ⟨f, ?_, rfl, rfl⟩⟩
  have hg : (rt.children.remove key).get k = some f := hf
  rw [Slab.get_remove] at hg
  split at hg
  · cases hg
  · exact hg

theorem terminated {t : Task} {generation : Nat} {failed : Bool} (hc : rt.Current t.info e)
    (outcome : TaskOutcome) : Retains rt ((rt.exited t e outcome).setEntry t.info.key
      ((e.stopped outcome.status).terminated generation failed)) := by
  refine (exited hc outcome).trans (set (exited_get hc outcome) rfl rfl ?_ ?_)
  · exact (ChildEntry.terminated_instanceId ..).symm
  · rw [ChildEntry.terminated_runtime]

theorem drainedJoin {t : Task} {outcome : TaskOutcome} {reason : DrainReason}
    (h : DrainedJoin rt t outcome reason rt') : Retains rt rt' := by
  cases h with
  | stale => exact same rfl rfl
  | exited hc => exact exited hc outcome
  | temporary hc => exact terminated hc outcome

theorem drainNext {reason : DrainReason} {k : Stack (.drainChildren reason)} (h : DrainNext rt reason k rt' ctrl) :
    Retains rt rt' := by
  cases h with
  | abort => exact abortMatchingChildren ..
  | _ => exact same rfl rfl

theorem loopHead (h : LoopHead rt rt' ctrl) : Retains rt rt' := by
  cases h <;> exact same rfl rfl

theorem handleNestedSnapshot (h : rt.Wf) {n : NestedSnapshotNotification}
    (hn : rt.handleNestedSnapshot n = .ok rt') : Retains rt rt' := by
  unfold SupervisorRuntime.handleNestedSnapshot at hn
  cases he : rt.children.get n.parentKey with
  | none =>
    rw [he] at hn
    cases hn
    exact same rfl rfl
  | some e =>
    simp only [he] at hn
    split at hn
    · cases hn
      exact same rfl rfl
    · cases hi : e.nestedSnapshotState with
      | none =>
        rw [hi] at hn
        cases hn
        exact same rfl rfl
      | some i =>
        simp only [hi] at hn
        have hwf (latest : Option SupervisorSnapshot) : ((rt.modifyNestedState i
            ({ · with queued := false })).setEntry n.parentKey { e with nestedSnapshot := latest }).Wf :=
          (show (rt.modifyNestedState i ({ · with queued := false })).Wf from h).setEntry he rfl
            ⟨(h.ok he).id, (h.ok he).membership, (h.ok he).handle⟩
        rw [@modifyEntry_eq (rt.modifyNestedState i ({ · with queued := false })) n.parentKey e he,
          (hwf _).publishSnapshot] at hn
        cases hn
        exact set he rfl rfl rfl rfl

theorem loop {c' : Config} (hwf : rt.Wf) (hc : AtLoop rt ctrl a rt') (hl : LoopHead rt' c'.rt c'.ctrl)
    (hstep : step ⟨rt, ctrl⟩ a = some c') : Retains rt c'.rt := by
  cases hc with
  | ignored x | nested x =>
    obtain ⟨n, rest, rt₁, -, -, heq, hloop⟩ := step_nested hwf hstep
    have hwf₀ : Wf { rt with nestedSnapshotRx := { rt.nestedSnapshotRx with queue := rest } } := hwf
    have hsame : Retains rt { rt with nestedSnapshotRx := { rt.nestedSnapshotRx with queue := rest } } := same rfl rfl
    exact (hsame.trans (handleNestedSnapshot hwf₀ heq)).trans (loopHead hloop)
  | seen | closed =>
    have h := loopHead hl
    exact ⟨h.now, h.entries⟩
  | _ => exact loopHead hl

end Retains

/-- What a step does to the trackers: nothing, a new one for a child that is added, or one restart is recorded,
and scheduled exactly where the intensity allows it. -/
inductive Tracks (rt : SupervisorRuntime) (a : Act) (c' : Config) : Prop
  | retains (h : Retains rt c'.rt) (hn : Config.admits a c' = none)
  | adds {key : ChildKey} (hnow : rt.now ≤ c'.rt.now)
      (hnew : ∀ e', c'.rt.children.get key = some e' → e'.instanceId = rt.nextChildInstance)
      (hrest : ∀ k, k ≠ key → c'.rt.children.get k = rt.children.get k) (hn : Config.admits a c' = none)
  | records {key : ChildKey} {e e' : ChildEntry} (hnow : rt.now ≤ c'.rt.now) (he : rt.children.get key = some e)
      (he' : c'.rt.children.get key = some e') (hi : e'.instanceId = e.instanceId)
      (ht : e'.runtime.restartTracker.times = (e.runtime.restartTracker.record rt.now).times)
      (hintensity : e'.runtime.restartTracker.intensity = e.runtime.restartTracker.intensity)
      (hrest : ∀ k, k ≠ key → c'.rt.children.get k = rt.children.get k)
      (hadmits : Config.admits a c' = none ∨ (e.runtime.restartTracker.record rt.now).exceeded = false ∧
        Config.admits a c' = some ⟨e.instanceId, e.runtime.restartTracker.intensity, rt.now⟩)

theorem admits_panicked (p : Panic) : Config.admits a ⟨rt, .panicked p⟩ = none := by
  cases a with
  | run w => cases w <;> rfl
  | _ => rfl

theorem admits_ret {fn : Fn} (k : Stack fn) (v : fn.Value) : Config.admits a ⟨rt, .ret k v⟩ = none := by
  cases a with
  | run w => cases w <;> rfl
  | _ => rfl

theorem admits_finished (r : Except SupervisorError SupervisorExit) :
    Config.admits a ⟨rt, .finished r⟩ = none := by
  cases a with
  | run w => cases w <;> rfl
  | _ => rfl

theorem tracks_scheduled {t : Task} {outcome : TaskOutcome} (hc : rt.Current t.info e)
    {e' : ChildEntry} {tracker : RestartTracker} {deadline : Option Instant}
    (htimes : tracker.times = (e.runtime.restartTracker.record rt.now).times)
    (hintensity : tracker.intensity = e.runtime.restartTracker.intensity)
    (he' : e' = (e.stopped outcome.status).scheduled tracker deadline) {c' : Config}
    (hg : c'.rt.children = (rt.exited t e outcome).children.set t.info.key e') (hnow : rt.now ≤ c'.rt.now)
    (hadmits : Config.admits a c' = none ∨ (e.runtime.restartTracker.record rt.now).exceeded = false ∧
      Config.admits a c' = some ⟨e.instanceId, e.runtime.restartTracker.intensity, rt.now⟩) :
    Tracks rt a c' := by
  have hget := exited_get hc outcome
  subst he'
  have hself : c'.rt.children.get t.info.key = some ((e.stopped outcome.status).scheduled tracker deadline) :=
    hg ▸ Slab.get_set_self hget _
  refine .records hnow hc.get hself rfl htimes hintensity (fun k hk => ?_) hadmits
  rw [hg, Slab.get_set_ne hget _ hk]
  exact Slab.get_set_ne hc.get _ hk

theorem tracks_delayed {t : Task} {outcome : TaskOutcome} (hc : rt.Current t.info e)
    (hx : (e.runtime.restartTracker.record rt.now).exceeded = false) {deadline : Instant} {child : Option Nat}
    {kind : SupervisorEvent} {delay : Duration} {k : Stack .waitForRestartDelay}
    (hk : ∀ {rt'} p, Config.admits a ⟨rt', .await p k⟩ = (rt'.children.get t.info.key).map fun e =>
      ⟨e.instanceId, e.runtime.restartTracker.intensity, rt'.now⟩) :
    Tracks rt a (settle rt ((((rt.exited t e outcome).scheduled t.info.key (e.stopped outcome.status)
      deadline).emitted child kind).waitForRestartDelay delay k)) := by
  generalize hr : ((rt.exited t e outcome).scheduled t.info.key (e.stopped outcome.status) deadline).emitted child
    kind = rt'
  have hg : rt'.children = ((rt.exited t e outcome).scheduled t.info.key (e.stopped outcome.status)
    deadline).children := hr ▸ rfl
  have hnow : rt'.now = rt.now := hr ▸ rfl
  have hstart := @waitForRestartDelay_start rt' delay k
  cases hcall : rt'.waitForRestartDelay delay k with
  | error p => exact .retains (.same rfl rfl) (admits_panicked p)
  | ok c =>
    rw [hcall] at hstart
    obtain ⟨c', ctrl⟩ := c
    obtain ⟨rfl, p, -, rfl⟩ := hstart
    refine tracks_scheduled hc ?_ ?_ rfl hg (Nat.le_of_eq hnow.symm) (.inr ⟨hx, ?_⟩)
    · rw [RestartTracker.backoff_eq]
      rfl
    · rw [RestartTracker.backoff_eq]
      rfl
    · refine (hk p).trans ?_
      rw [hg, scheduled_get (exited_get hc outcome), hnow, Option.map_some, RestartTracker.backoff_eq]
      rfl

theorem SupervisorRuntime.Wf.handleJoinedChild_tracks (h : rt.Wf) {id : TaskId} {rt₁ : SupervisorRuntime}
    {joined : Joined} (hj : rt.joinTask id = some (rt₁, joined)) (k : Stack .handleJoinedChild) :
    Tracks rt (.run (.join id)) (settle rt (rt₁.handleJoinedChild joined k)) := by
  have hpanic (p : Panic) : Tracks rt (.run (.join id)) (settle rt (.error p)) :=
    .retains (.same rfl rfl) (admits_panicked p)
  obtain ⟨t, outcome, rfl, hfin, ⟨hstale, heq⟩ | ⟨e, hc, heq⟩⟩ := h.consumeJoinedChild hj
  · simp only [SupervisorRuntime.handleJoinedChild, heq]
    exact .retains (.same rfl rfl) (admits_ret _ _)
  have hrec := (h.consumed t).recordExit hc.get t.info.generation outcome.status
  rw [← SupervisorRuntime.exited] at hrec
  have hget := exited_get hc outcome
  have hwf := h.exited hc outcome
  have hexited : Retains rt (rt.exited t e outcome) := .exited hc outcome
  simp only [SupervisorRuntime.handleJoinedChild, heq, hrec, ok_bind]
  split
  · exact .retains hexited (admits_ret _ _)
  rw [index_eq hget, ok_bind]
  split
  · rw [hwf.finalizeRemovedChild hget]
    exact .retains (hexited.trans (.finalized ..)) (admits_ret _ _)
  split
  · have hrefused {f : SupervisorRuntime × Except SupervisorError Duration → Except Panic Config}
        (hover : ∀ rt', ∃ fn, ∃ k : Stack fn, ∃ v, f (rt', .error .restartIntensityExceeded) = .ok ⟨rt', .ret k v⟩)
        (hdelay : ∀ deadline delay, (e.runtime.restartTracker.record rt.now).exceeded = false →
          Tracks rt (.run (.join t.id)) (settle rt (f ((rt.exited t e outcome).scheduled t.info.key
            (e.stopped outcome.status) deadline, .ok delay)))) :
        Tracks rt (.run (.join t.id)) (settle rt ((rt.exited t e outcome).scheduleRestart t.info.key >>= f)) := by
      rw [hwf.scheduleRestart hget]
      split
      · obtain ⟨fn, k, v, hf⟩ := hover ((rt.exited t e outcome).overrun t.info.key (e.stopped outcome.status))
        rw [ok_bind, hf]
        exact tracks_scheduled hc rfl rfl rfl rfl (Nat.le_refl _) (.inl (admits_ret k v))
      · rename_i hx
        split
        · exact hpanic _
        · exact hdelay _ _ (Bool.not_eq_true _ ▸ hx)
    split
    · refine hrefused (fun rt' => ⟨_, _, _, rfl⟩) fun deadline delay hx => ?_
      simp only [ok_bind, index_eq (scheduled_get hget deadline), (hwf.scheduled hget deadline).sendEvent]
      exact tracks_delayed hc hx fun p => rfl
    · refine hrefused (fun rt' => ⟨_, _, _, rfl⟩) fun deadline delay hx => ?_
      simp only [ok_bind, (hwf.scheduled hget deadline).sendEvent]
      exact tracks_delayed hc hx fun p => rfl
  · rw [recordTerminalStatus_eq hget]
    exact .retains (.terminated hc outcome) (admits_ret _ _)

theorem admits_await {fn : Fn} (p : Await fn) (k : Stack fn) (hfn : fn ≠ .waitForRestartDelay) :
    Config.admits a ⟨rt, .await p k⟩ = none := by
  cases a with
  | run w =>
    cases w with
    | join id =>
      cases k with
      | nil => rfl
      | push f k => cases f <;> first | rfl | exact absurd rfl hfn
    | _ => rfl
  | _ => rfl

theorem admits_drainNext {reason : DrainReason} {k : Stack (.drainChildren reason)}
    (h : DrainNext rt reason k rt' ctrl) : Config.admits a ⟨rt', ctrl⟩ = none := by
  cases h with
  | done => exact admits_ret k _
  | _ => exact admits_await _ k nofun

theorem CommandOutcome.tracks {k : Stack .handleCommand} {cmd : SupervisorCommand} {rest : List SupervisorCommand}
    (h : CommandOutcome (rt.received rest) key k cmd rt' ctrl') (hv : rt.children.vacant key = true) :
    Tracks rt (.run (.command key)) ⟨rt', ctrl'⟩ := by
  have hlogged (reply : Nat) : Retains rt ((rt.received rest).log (.handled reply)) := .same rfl rfl
  cases h with
  | addRefused | removeRefused => exact .retains (.same rfl rfl) rfl
  | @added child reply _ =>
    have hget := @inserted_get rt key hv child
    refine @Tracks.adds _ _ _ key (Nat.le_refl _) (fun e' he' => ?_) (fun k hk => ?_) rfl
    · cases (spawned_get hget).symm.trans he'
      rfl
    · exact (spawned_get_ne hget hk).trans (Slab.get_insert_ne hv _ hk)
  | removed he => exact .retains (((hlogged _).trans (.requested _ he)).trans (.finalized ..)) rfl
  | removeAbort he => exact .retains (((hlogged _).trans (.requested _ he)).trans (.abortedChild ..)) rfl
  | removeWait he => exact .retains (((hlogged _).trans (.requested _ he)).trans (.cancelledChild ..)) rfl

theorem step_tracks {c c' : Config} (hs : c.Sane) (hstep : step c a = some c') : Tracks c.rt a c' := by
  have hr := step_rule hs hstep
  obtain ⟨hwf, -, -⟩ := hs
  obtain ⟨rt, ctrl⟩ := c
  obtain ⟨rt', ctrl'⟩ := c'
  dsimp only at hr hwf ⊢
  cases hr with
  | env henv =>
    have hframe := envStep_frame henv
    refine .retains ⟨hframe.now, fun key e' he' => ⟨e', hframe.children ▸ he', rfl, rfl⟩⟩ ?_
    cases a with
    | run w => cases henv
    | _ => rfl
  | move hm => exact .retains (.same rfl rfl) (by cases hm <;> rfl)
  | overflow => exact .retains (.same rfl rfl) (admits_panicked _)
  | vacantOne | vacantAll | natural | joinError | shutdownEnd | runEnd | queued | shutdownDrained | replied |
    tryRecvClosed | delaySeen | delayClosed | delayClosedPending | removalSeen | detachGone =>
    exact .retains (.same rfl rfl) rfl
  | start hl =>
    have hemitted : Retains rt (rt.emitted none .supervisorStarted) := .same rfl rfl
    exact .retains ((hemitted.trans (.spawnedAll ..)).trans (.loopHead hl)) rfl
  | loop hc hl =>
    refine .retains (.loop hwf hc hl hstep) ?_
    cases hl with
    | wait => exact admits_await _ _ nofun
    | _ => exact admits_finished _
  | shutdown hb hrt =>
    refine .retains ?_ (admits_await _ _ nofun)
    rcases hrt with rfl | rfl
    · exact .halted hwf
    · exact (show Retains rt rt.seen from .same rfl rfl).trans (.halted hwf)
  | command hh hv hq ho => exact ho.tracks hv
  | @join _ _ k t outcome _ hh hf ho =>
    obtain ⟨rt₁, joined, hj, heq⟩ := step_join (c := ⟨rt, ctrl⟩) hh hstep
    rw [heq]
    exact hwf.handleJoinedChild_tracks hj k
  | readyJoin hf hd => exact .retains (.drainedJoin hd) (admits_await _ _ nofun)
  | drainJoin hf hd hn =>
    exact .retains ((Retains.drainedJoin hd).trans (.drainNext hn)) (admits_drainNext hn)
  | drainNext hd hn => exact .retains (.drainNext hn) (admits_drainNext hn)
  | respawn he hm => exact .retains (.restarted he) rfl
  | groupDrain => exact .retains ((Retains.cancelRunningChildren hwf).trans (.swept _)) rfl
  | groupRespawn =>
    have hregrouped : Retains rt rt.regrouped := .same rfl rfl
    exact .retains (hregrouped.trans (.respawnedAll ..)) rfl
  | removalTimer he => exact .retains (.abortedChild ..) rfl
  | detach he => exact .retains (.finalized ..) rfl

end

/-! ### Every run -/

theorem step_next_le {c c' : Config} {a : Act} (hs : c.Sane) (hi : c.rt.Instances) (hstep : step c a = some c') :
    c.rt.nextChildInstance ≤ c'.rt.nextChildInstance := by
  have hupdates := (step_rule hs hstep).updates hs.wf
  refine (hupdates.invariant (I := fun rt => rt.Instances ∧ c.rt.nextChildInstance ≤ rt.nextChildInstance) hs.wf
    ⟨hi, Nat.le_refl _⟩ ?_).2.2
  rintro rt rt' hwf ⟨hI, hle⟩ hu
  have hr := hu.renumbers hwf
  exact ⟨hr.instances hI, Nat.le_trans hle (hr.next_le hI)⟩

namespace Metered
variable {s s' : Metered} {a : Act}

/-- The tracker `t` of an instance agrees with the restarts that were scheduled for it. -/
structure Agrees (s : Metered) (instanceId : Nat) (t : RestartTracker) : Prop where
  intensity : ∀ r ∈ s.admissions, r.instanceId = instanceId → r.intensity = t.intensity
  covers : t.intensity.window.Covers t.times (s.instants instanceId) s.config.rt.now

/-- The restarts scheduled so far are those of known instances, their trackers know of them, and they are
within the limits. -/
structure Kept (s : Metered) : Prop where
  known : ∀ r ∈ s.admissions, r.instanceId < s.config.rt.nextChildInstance
  agrees : ∀ key e, s.config.rt.children.get key = some e → s.Agrees e.instanceId e.runtime.restartTracker
  limits : ∀ r ∈ s.admissions, r.intensity.window.Limits r.intensity.maxRestarts (s.instants r.instanceId)

theorem step_some (h : s.step a = some s') : TokioSupervisor.step s.config a = some s'.config ∧
    s'.admissions = (Config.admits a s'.config).toList ++ s.admissions := by
  obtain ⟨c, hc, rfl⟩ := Option.map_eq_some_iff.1 h
  exact ⟨hc, rfl⟩

theorem instants_eq (h : s'.admissions = s.admissions) (i : Nat) : s'.instants i = s.instants i := by
  rw [instants, h]
  rfl

theorem instants_self {r : Admission} (h : s'.admissions = r :: s.admissions) :
    s'.instants r.instanceId = r.instant :: s.instants r.instanceId := by
  rw [instants, h, List.filter_cons_of_pos (by simp)]
  rfl

theorem instants_ne {r : Admission} (h : s'.admissions = r :: s.admissions) {i : Nat} (hi : r.instanceId ≠ i) :
    s'.instants i = s.instants i := by
  rw [instants, h, List.filter_cons_of_neg (by simpa using hi)]
  rfl

theorem instants_nil {i : Nat} (h : ∀ r ∈ s.admissions, r.instanceId ≠ i) : s.instants i = [] := by
  rw [instants, List.filter_eq_nil_iff.2 fun r hr => by simpa using h r hr]
  rfl

theorem Agrees.later {i : Nat} {t : RestartTracker} (h : s.Agrees i t) (hnow : s.config.rt.now ≤ s'.config.rt.now)
    (hi : s'.instants i = s.instants i) (ha : ∀ r ∈ s'.admissions, r.instanceId = i → r ∈ s.admissions) :
    s'.Agrees i t := by
  refine ⟨fun r hr heq => h.intensity r (ha r hr heq) heq, ?_⟩
  rw [hi]
  exact h.covers.later hnow

/-- The instance that a scheduled restart belongs to stays within its limit. -/
theorem Kept.admit (h : s.Kept) {r : Admission} {t : RestartTracker} (ha : s'.admissions = r :: s.admissions)
    (hagrees : s.Agrees r.instanceId t) (hr : r.intensity = t.intensity) (hnow : r.instant = s.config.rt.now)
    (hx : (t.record s.config.rt.now).exceeded = false) :
    ∀ r' ∈ s'.admissions, r'.intensity.window.Limits r'.intensity.maxRestarts (s'.instants r'.instanceId) := by
  have hlength : (t.intensity.window.slide t.times s.config.rt.now).length ≤ t.intensity.maxRestarts := by
    rw [← RestartTracker.record_times]
    exact Nat.le_of_not_lt (of_decide_eq_false hx)
  have hbefore : t.intensity.window.Limits t.intensity.maxRestarts (s.instants r.instanceId) := by
    by_cases hnil : ∀ r' ∈ s.admissions, r'.instanceId ≠ r.instanceId
    · rw [instants_nil hnil]
      exact Window.limits_nil
    · push Not at hnil
      obtain ⟨r', hr', heq⟩ := hnil
      have hlimits := h.limits r' hr'
      rwa [heq, hagrees.intensity r' hr' heq] at hlimits
  have hself : t.intensity.window.Limits t.intensity.maxRestarts (s'.instants r.instanceId) := by
    rw [instants_self ha, hnow]
    exact hbefore.admit hagrees.covers.admit hlength
  intro r' hr'
  rw [ha, List.mem_cons] at hr'
  rcases hr' with rfl | hr'
  · rwa [hr]
  · by_cases heq : r.instanceId = r'.instanceId
    · rw [← heq, hagrees.intensity r' hr' heq.symm]
      exact hself
    · rw [instants_ne ha heq]
      exact h.limits r' hr'

theorem Kept.step (h : s.Kept) (hs : s.config.Sane) (hi : s.config.rt.Instances)
    (hlt : s.config.rt.nextChildInstance < U64_MAX) (hstep : s.step a = some s') : s'.Kept := by
  obtain ⟨hc, ha⟩ := step_some hstep
  have hnext := step_next_le hs hi hc
  have hknown : ∀ r ∈ s.admissions, r.instanceId < s'.config.rt.nextChildInstance := fun r hr =>
    Nat.lt_of_lt_of_le (h.known r hr) hnext
  have hquiet (hn : Config.admits a s'.config = none) : s'.admissions = s.admissions := by
    rw [ha, hn]
    rfl
  have hstays (hn : s'.admissions = s.admissions)
      (hagrees : ∀ key e, s'.config.rt.children.get key = some e →
        s'.Agrees e.instanceId e.runtime.restartTracker) : s'.Kept := by
    refine ⟨hn ▸ hknown, hagrees, fun r hr => ?_⟩
    rw [instants_eq hn]
    exact h.limits r (hn ▸ hr)
  have hlater (hnow : s.config.rt.now ≤ s'.config.rt.now) (hn : s'.admissions = s.admissions) {i : Nat}
      {t : RestartTracker} (hagrees : s.Agrees i t) : s'.Agrees i t :=
    hagrees.later hnow (instants_eq hn i) fun r hr _ => hn ▸ hr
  cases step_tracks hs hc with
  | retains hr hn =>
    refine hstays (hquiet hn) fun key e' he' => ?_
    obtain ⟨e, he, hid, ht⟩ := hr.entries key e' he'
    rw [← hid, ← ht]
    exact hlater hr.now (hquiet hn) (h.agrees key e he)
  | @adds new hnow hnew hrest hn =>
    refine hstays (hquiet hn) fun key e' he' => ?_
    by_cases hk : key = new
    · subst hk
      have hnone : ∀ r ∈ s'.admissions, r.instanceId ≠ e'.instanceId := by
        rw [hquiet hn, hnew e' he']
        exact fun r hr => Nat.ne_of_lt (h.known r hr)
      refine ⟨fun r hr heq => absurd heq (hnone r hr), ?_⟩
      rw [instants_nil hnone]
      exact fun p _ => Nat.zero_le _
    · exact hlater hnow (hquiet hn) (h.agrees key e' (hrest key hk ▸ he'))
  | @records failed e e' hnow he he' hid ht hintensity hrest hadmits =>
    have hagrees := h.agrees failed e he
    have hwindow : e'.runtime.restartTracker.times = e.runtime.restartTracker.intensity.window.slide
        e.runtime.restartTracker.times s.config.rt.now := ht.trans (RestartTracker.record_times ..)
    rcases hadmits with hn | ⟨hx, hn⟩
    · refine hstays (hquiet hn) fun key f hf => ?_
      by_cases hk : key = failed
      · subst hk
        cases he'.symm.trans hf
        rw [hid]
        refine ⟨fun r hr heq => hintensity ▸ hagrees.intensity r (hquiet hn ▸ hr) heq, ?_⟩
        rw [hintensity, hwindow, instants_eq (hquiet hn)]
        exact hagrees.covers.refuse.later hnow
      · exact hlater hnow (hquiet hn) (h.agrees key f (hrest key hk ▸ hf))
    · rw [hn] at ha
      refine ⟨?_, fun key f hf => ?_, h.admit ha hagrees rfl rfl hx⟩
      · intro r hr
        rw [ha] at hr
        rcases List.mem_cons.1 hr with rfl | hr
        · exact Nat.lt_of_lt_of_le (hi.lt hlt failed e he) hnext
        · exact hknown r hr
      · by_cases hk : key = failed
        · subst hk
          cases he'.symm.trans hf
          rw [hid]
          refine ⟨fun r hr heq => ?_, ?_⟩
          · rw [ha] at hr
            rw [hintensity]
            rcases List.mem_cons.1 hr with rfl | hr
            · rfl
            · exact hagrees.intensity r hr heq
          · rw [hintensity, hwindow, instants_self ha]
            exact hagrees.covers.admit.later hnow
        · have hf₀ : s.config.rt.children.get key = some f := hrest key hk ▸ hf
          have hne : e.instanceId ≠ f.instanceId := fun heq => hk (hi.inj hlt key f failed e hf₀ he heq.symm)
          refine (h.agrees key f hf₀).later hnow (instants_ne ha hne) fun r hr heq => ?_
          rw [ha] at hr
          rcases List.mem_cons.1 hr with rfl | hr
          · exact absurd heq hne
          · exact hr

end Metered

variable {config : SupervisorConfig} {env : StartEnv} {as : List Act} {s : Metered}

theorem Metered.run_config (hrun : AnyRun Metered.step (Metered.start config env) as s) :
    AnyRun TokioSupervisor.step (Config.start config env) as s.config :=
  hrun.map (f := Metered.config) (fun _ _ h => h) fun _ _ _ hstep => (Metered.step_some hstep).1

theorem Metered.start_kept (config : SupervisorConfig) (env : StartEnv) : (Metered.start config env).Kept := by
  refine ⟨fun r hr => ?_, fun key e _ => ⟨fun r hr => ?_, fun p _ => Nat.zero_le _⟩, fun r hr => ?_⟩
  · cases hr
  · cases hr
  · cases hr

/-- No more restarts of a child are scheduled than its intensity allows: at any instant, those scheduled up to
there that are still within the window are at most `max_restarts`. -/
theorem run_limits (h : config.Accepted) (hrun : AnyRun Metered.step (Metered.start config env) as s)
    (hlt : s.config.rt.nextChildInstance < U64_MAX) :
    ∀ r ∈ s.admissions, r.intensity.window.Limits r.intensity.maxRestarts (s.instants r.instanceId) := by
  have hkept : s.config.rt.nextChildInstance < U64_MAX → s.Kept := by
    refine hrun.invariant_of (I := fun s => s.config.rt.nextChildInstance < U64_MAX → s.Kept)
      (J := fun s => s.config.Sane ∧ s.config.rt.Instances) (fun as s hrun' => ?_)
      (fun _ => Metered.start_kept config env) ?_
    · have hconfig := Metered.run_config hrun'
      exact ⟨run_sane h hconfig, run_instances h hconfig⟩
    · rintro s a s' ⟨hs, hi⟩ ih - hstep hlt'
      have hnext := step_next_le hs hi (Metered.step_some hstep).1
      have hlt₀ := Nat.lt_of_le_of_lt hnext hlt'
      exact (ih hlt₀).step hs hi hlt₀ hstep
  exact (hkept hlt).limits

/-- `a` fails twice, three seconds apart; its intensity allows three restarts in five seconds. -/
theorem run_limits_twice : ∃ s : Metered, s.admissions.length = 2 ∧
    ∀ r ∈ s.admissions, r.intensity.window.Limits r.intensity.maxRestarts (s.instants r.instanceId) := by
  have hex : ∃ s : Metered, AnyRun Metered.step (Metered.start promptConfig ⟨false, 0, 0⟩)
      [.run .go, .finish 0 (.returned (.error "failed")), .run (.join 0), .run .go, .run .go, .run (.command 2),
        .resume, .resume, .resume, .tick 3000000000 0, .finish 2 (.returned (.error "failed")), .run (.join 2)] s ∧
      (s.admissions.length, s.config.rt.nextChildInstance) = (2, 2) :=
    anyRun_of_exec (f := fun s : Metered => (s.admissions.length, s.config.rt.nextChildInstance)) (by decide +kernel)
  obtain ⟨s, hrun, heq⟩ := hex
  obtain ⟨htwo, hnext⟩ := Prod.mk.inj heq
  refine ⟨s, htwo, run_limits promptConfig_accepted hrun ?_⟩
  rw [hnext]
  decide

end TokioSupervisor
