import TokioSupervisor.Runtime.Start

/-!
# The redundant structures of the runtime

`children_by_id`, `child_order` and `running_children` all repeat what the slab says. The first two
always agree with it. The counter agrees as long as no removal detaches a child that still counts as
running (`detachIdle`): `await_child_removal` keeps a slab key across its wait, and when the key was
freed and reused meanwhile, the detached child is the new one (`detached_running_reached`).
-/

namespace TokioSupervisor
open Lib SupervisorRuntime

theorem ChildEntry.requested_counts (e : ChildEntry) : e.requested.counts = false := by
  cases hs : e.runtime.state <;>
    simp [ChildEntry.counts, ChildEntry.requested, countsAsRunning, RuntimeChildState.isActive, hs]

namespace SupervisorRuntime

/-- The counter is exact, and no subtraction from it has truncated. -/
structure Counted (rt : SupervisorRuntime) : Prop where
  running : rt.runningChildren = rt.children.count ChildEntry.counts
  exact : Action.truncated ∉ rt.trace

/-- The representation invariant. -/
structure Represented (rt : SupervisorRuntime) : Prop extends Counted rt where
  byId : ∀ id key, rt.childrenById.lookup id = some key ↔
    ∃ e, rt.children.get key = some e ∧ e.id = id
  id : ∀ key e, rt.children.get key = some e → e.id.isEmpty = false
  idInj : ∀ k₁ e₁ k₂ e₂, rt.children.get k₁ = some e₁ → rt.children.get k₂ = some e₂ →
    e₁.id = e₂.id → k₁ = k₂
  order : ∀ key, key ∈ rt.childOrder ↔ ∃ e, rt.children.get key = some e
  nodup : rt.childOrder.Nodup

theorem Counted.represented {rt : SupervisorRuntime} (h : rt.Counted) (hwf : rt.Wf) :
    rt.Represented :=
  ⟨h, hwf.byId, fun _ _ he => (hwf.ok he).id, fun _ _ _ _ h₁ h₂ => hwf.key_inj h₁ h₂, hwf.order,
    hwf.nodup⟩

namespace Counted
variable {rt : SupervisorRuntime}

theorem pos (h : rt.Counted) {key : ChildKey} {e : ChildEntry} (he : rt.children.get key = some e)
    (hc : e.counts = true) : 0 < rt.runningChildren := by
  rw [h.running]
  by_contra hz
  have := Slab.count_eq_zero.1 (Nat.eq_zero_of_not_pos hz) key e he
  rw [hc] at this
  cases this

theorem share_le (h : rt.Counted) {key : ChildKey} {e : ChildEntry}
    (he : rt.children.get key = some e) : (if e.counts then 1 else 0) ≤ rt.runningChildren := by
  split
  · rename_i hc; exact h.pos he hc
  · exact Nat.zero_le _

theorem subRunning_exact (rt : SupervisorRuntime) {n : Nat} (hn : n ≤ rt.runningChildren)
    (hx : Action.truncated ∉ rt.trace) : Action.truncated ∉ (rt.subRunning n).trace := by
  simpa [subRunning, Nat.not_lt.2 hn] using hx

theorem setEntry (h : rt.Counted) {key : ChildKey} {e e' : ChildEntry}
    (he : rt.children.get key = some e) (hc : e'.counts = e.counts) : (rt.setEntry key e').Counted := by
  refine ⟨?_, h.exact⟩
  have := Slab.count_set ChildEntry.counts he e'
  rw [hc] at this
  simp only [SupervisorRuntime.setEntry, h.running]
  omega

theorem requested (h : rt.Counted) (reply : Nat) {key : ChildKey} {e : ChildEntry}
    (he : rt.children.get key = some e) : (rt.requested reply key e).Counted := by
  have hcount := Slab.count_set ChildEntry.counts he e.requested
  have hnot := e.requested_counts
  have hle := h.share_le he
  refine ⟨?_, ?_⟩
  · simp only [SupervisorRuntime.requested, emitted, log, subRunning, SupervisorRuntime.setEntry]
    rw [hnot] at hcount
    rw [h.running] at hle ⊢
    simp only [Bool.false_eq_true, if_false] at hcount
    omega
  · have := subRunning_exact (rt.setEntry key e.requested) hle h.exact
    simpa [SupervisorRuntime.requested, emitted, log] using this

theorem exited (h : rt.Counted) {t : Task} {e : ChildEntry} (hc : rt.Current t.info e)
    (outcome : TaskOutcome) : (rt.exited t e outcome).Counted := by
  have hcount := Slab.count_set ChildEntry.counts hc.get (e.stopped outcome.status)
  have hnot : (e.stopped outcome.status).counts = false := by
    simp [ChildEntry.counts, ChildEntry.stopped, countsAsRunning]
  have hle := h.share_le hc.get
  refine ⟨?_, ?_⟩
  · simp only [SupervisorRuntime.exited, recorded, emitted, log, subRunning, consumed, taken,
      SupervisorRuntime.setEntry]
    rw [hnot] at hcount
    rw [h.running] at hle ⊢
    simp only [Bool.false_eq_true, if_false] at hcount
    omega
  · have := subRunning_exact ((rt.consumed t).log (.exited t.info.key e.instanceId
      t.info.generation outcome.status ((rt.consumed t).demandsRestart e outcome.status))) hle
      (by simpa [log, consumed, taken] using h.exact)
    simpa [SupervisorRuntime.exited, recorded, emitted, log, SupervisorRuntime.setEntry] using this

theorem finalized (h : rt.Counted) {key : ChildKey} {e : ChildEntry}
    (he : rt.children.get key = some e) (hc : e.counts = false) : (rt.finalized key e).Counted := by
  have hcount := Slab.count_remove ChildEntry.counts he
  refine ⟨?_, by simpa [SupervisorRuntime.finalized, deleted, emitted, log] using h.exact⟩
  simp only [SupervisorRuntime.finalized, deleted, emitted, log]
  rw [hc] at hcount
  rw [h.running]
  simp only [Bool.false_eq_true, if_false] at hcount
  omega

theorem spawned (h : rt.Counted) (hwf : rt.Wf) {key : ChildKey} {e : ChildEntry}
    (he : rt.children.get key = some e) : (rt.spawned key e).Counted := by
  refine ⟨?_, by simpa [SupervisorRuntime.spawned, emitted, log] using h.exact⟩
  have hstarted : ∀ token nested task, (e.started token nested task).counts = true := by
    intro token nested task
    have := (hwf.ok he).membership
    simp [ChildEntry.counts, ChildEntry.started, countsAsRunning, this]
  have hcount := Slab.count_set ChildEntry.counts he
    (e.started (rt.tokens.childToken rt.groupToken).1 rt.nestedStates.length rt.joinSet.nextId)
  rw [hstarted] at hcount
  simp only [SupervisorRuntime.spawned, emitted, log, h.running]
  cases hc : e.counts <;> simp only [hc, if_true, if_false, Bool.false_eq_true] at hcount ⊢ <;> omega

theorem inserted (h : rt.Counted) {key : ChildKey} (hk : rt.children.vacant key = true)
    (child : ChildSpec) : (rt.inserted key child).Counted := by
  refine ⟨?_, h.exact⟩
  have hcount := Slab.count_insert ChildEntry.counts hk (rt.newEntry child)
  have hnot : (rt.newEntry child).counts = false := rfl
  rw [hnot] at hcount
  simp only [SupervisorRuntime.inserted, h.running]
  simpa using hcount.symm

theorem cancelRunningChildren (h : rt.Counted) (hwf : rt.Wf) : rt.cancelRunningChildren.Counted := by
  obtain ⟨C, n, heq, -, hcount, -, -⟩ := hwf.cancelRunningChildren
  have hle : n ≤ rt.runningChildren := by rw [h.running]; omega
  rw [heq]
  refine ⟨?_, ?_⟩
  · simp only [log, subRunning, h.running]
    omega
  · have := subRunning_exact { rt with children := C } hle h.exact
    simpa [log] using this

end Counted
end SupervisorRuntime

theorem ChildEntry.Same.counts {e e' : ChildEntry} (h : e.Same e') : e'.counts = e.counts := by
  simp [ChildEntry.counts, h.membership, h.state]

/-- The key of the child that `abort_and_detach_child` goes on to finalize. -/
def Frame.detaches {callee caller : Fn} : Frame callee caller → Option ChildKey
  | .detachDrain key _ => some key
  | _ => none

def Ctrl.detaches : Ctrl → Option ChildKey
  | .ret (.push f _) _ => f.detaches
  | _ => none

/-- A removal that detaches a child finds one that is not counted as running any more. -/
def detachIdle (c : Config) : Bool :=
  (c.ctrl.detaches.bind c.rt.children.get).all (!·.counts)

/-- The update lemma: only a detachment can break the count. -/
theorem Update.counted {c c' : Config} {a : Act} {rt rt' : SupervisorRuntime} (h : Update c a c' rt rt')
    (hok : detachIdle c = true) (hwf : rt.Wf) (hI : rt.Counted) : rt'.Counted := by
  cases h with
  | notes l hl =>
    refine ⟨hI.running, fun hm => ?_⟩
    rcases List.mem_append.1 hm with hm | hm
    · exact absurd (hl _ hm) nofun
    · exact hI.exact hm
  | dropped _ => exact ⟨hI.running, by simpa [SupervisorRuntime.dropReceiver] using hI.exact⟩
  | refused _ _ => exact ⟨hI.running, by simpa [log] using hI.exact⟩
  | received _ => exact ⟨hI.running, by simpa [log, SupervisorRuntime.received] using hI.exact⟩
  | entry he hs => exact hI.setEntry he hs.counts
  | exceeded _ => exact ⟨hI.running, by simpa [emitted] using hI.exact⟩
  | terminated g he _ _ => exact hI.setEntry he (by simp [ChildEntry.counts])
  | requested reply he _ _ _ _ _ => exact hI.requested reply he
  | removed reply he _ _ _ _ =>
    exact (hI.requested reply he).finalized (requested_get reply he) (ChildEntry.requested_counts _)
  | cancelled he _ =>
    refine ⟨?_, ?_⟩ <;> unfold SupervisorRuntime.cancelledChild <;> split
    · exact hI.running
    · exact hI.running
    · exact hI.exact
    · simpa [log] using hI.exact
  | aborted he _ =>
    refine ⟨?_, ?_⟩ <;> unfold SupervisorRuntime.abortedChild <;> split
    · exact hI.running
    · exact hI.running
    · exact hI.exact
    · simpa [log] using hI.exact
  | ignored _ _ => exact ⟨hI.running, by simpa [SupervisorRuntime.ignored, taken, log] using hI.exact⟩
  | exited _ _ _ hc => exact hI.exited hc _
  | finalized he _ hs => exact hI.finalized he (by simp [ChildEntry.counts, countsAsRunning, hs])
  | detached he hrt hc =>
    subst hrt
    exact hI.finalized he (by simpa [detachIdle, hc, Ctrl.detaches, Frame.detaches, he] using hok)
  | started he _ _ => exact hI.spawned hwf he
  | added hv ha _ _ => exact (hI.inserted hv _).spawned (hwf.inserted hv ha.id ha.new) (inserted_get hv _)
  | respawned he _ _ _ =>
    have := hI.spawned hwf he
    exact ⟨this.running, by simpa [restarted, emitted] using this.exact⟩
  | groupRespawned he _ _ _ =>
    have := hI.spawned hwf he
    exact ⟨this.running, by simpa [restarted, emitted] using this.exact⟩
  | cancelledAll _ => exact hI.cancelRunningChildren hwf
  | _ => exact ⟨hI.running, hI.exact⟩

theorem SupervisorRuntime.Fresh.counted {rt : SupervisorRuntime} (h : rt.Fresh) : rt.Counted := by
  refine ⟨?_, by simp [h.trace]⟩
  rw [h.runningChildren, eq_comm, Slab.count_eq_zero]
  intro key e he
  simp [ChildEntry.counts, countsAsRunning, (h.unborn key e he).state]

/-- The representation invariant holds in every configuration of a run in which removals detach idle
children only. -/
theorem run_represented {config : SupervisorConfig} {env : StartEnv} {as : List Act} {c : Config}
    (h : config.Accepted) (hrun : Run step (fun c _ => detachIdle c) (Config.start config env) as c) :
    c.rt.Represented :=
  (run_invariant h hrun (h.fresh env).counted
    fun _ _ _ _ _ _ hok _ hwf hI hu => hu.counted hok hwf hI).represented (run_sane h hrun).wf

/-! ### A key that is reused under a waiting removal -/

/-- A child that stops cooperatively within five seconds. -/
def cooperativeChild (id : String) : ChildSpec :=
  ⟨id, .transient, none, ⟨.fromSecs 5, .cooperative⟩⟩

def reuseConfig : SupervisorConfig where
  strategy := .oneForOne
  restartIntensity := ⟨3, .fromSecs 30, .fixed (.fromSecs 1)⟩
  children := [cooperativeChild "a", cooperativeChild "b", cooperativeChild "c"]
  controlChannelCapacity := 8
  eventChannelCapacity := 8

theorem reuseConfig_accepted : reuseConfig.Accepted :=
  ⟨⟨reuseConfig.strategy, reuseConfig.restartIntensity, reuseConfig.children, 8, 8⟩, rfl⟩

/-- While `a` is being removed, `b` fails and waits for its restart; the removal of `c`, handled
during that wait, consumes the exit of `a` as well. The slab hands out the key of `c` first, to `d`, and
then that of `a`, to `e`. -/
def reuseActs : List Act :=
  [.run .go, .send (.removeChild "a" 0), .run (.command 3),
   .finish 1 (.returned (.error "failed")), .run (.join 1),
   .send (.removeChild "c" 1), .run (.command 3),
   .finish 0 (.returned (.ok ())), .run (.join 0), .resume, .resume,
   .finish 2 (.returned (.ok ())), .run (.join 2), .resume, .resume, .resume, .resume, .resume,
   .send (.addChild (cooperativeChild "d") 2), .run (.command 2), .resume,
   .send (.addChild (cooperativeChild "e") 3), .run (.command 0), .resume,
   .tick NANOS_PER_SEC 0, .run .timer, .resume, .resume, .resume, .resume]

/-- The grace of the first removal then runs out on `e`, which is running and does not end at its abort. -/
def detachActs : List Act :=
  reuseActs ++ [.tick (5 * NANOS_PER_SEC) 0, .run .timer, .run .go, .run .timer, .resume]

theorem detached_running_reached :
    reuseConfig.Accepted ∧
      ∃ c, AnyRun step (Config.start reuseConfig ⟨false, 0, 0⟩) detachActs c ∧ ¬ c.rt.Represented := by
  have hex : ∃ c, AnyRun step (Config.start reuseConfig ⟨false, 0, 0⟩) detachActs c ∧
      (c.rt.runningChildren, c.rt.children.count ChildEntry.counts) = (3, 2) :=
    anyRun_of_exec (by decide +kernel)
  obtain ⟨c, hrun, hc⟩ := hex
  refine ⟨reuseConfig_accepted, c, hrun, fun h => ?_⟩
  have hrunning := h.running
  rw [(Prod.mk.inj hc).1, (Prod.mk.inj hc).2] at hrunning
  exact absurd hrunning (by decide)

/-- Up to that timeout the structures agree, through a removal, an addition and a restart. -/
theorem run_represented_reuse : ∃ c : Config, c.rt.childOrder = [1, 2, 0] ∧ c.rt.Represented := by
  have hex : ∃ c, Run step (fun c _ => detachIdle c) (Config.start reuseConfig ⟨false, 0, 0⟩)
      reuseActs c ∧ c.rt.childOrder = [1, 2, 0] := run_of_execIf_map (by decide +kernel)
  obtain ⟨c, hrun, hc⟩ := hex
  exact ⟨c, hc, run_represented reuseConfig_accepted hrun⟩

end TokioSupervisor
