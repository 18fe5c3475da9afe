import TokioSupervisor.Runtime.Traces
import TokioSupervisor.Runtime.Errors

/-!
# What observers see of a step

Subscribers read the last published snapshot and the events. A step of the runtime that changes what a
snapshot shows publishes it by one of its events (`Steady`); the steps apart are those that begin a
drain or end the run (`Effect`). `snapshot_view` reads the clock for the time until a restart, so
snapshots are compared without it.
-/

namespace TokioSupervisor
open Lib SupervisorRuntime

/-! ### Snapshots -/

/-- The snapshot says of a pending restart only that there is one. -/
def ChildSnapshotOf.timeless {Nested : Type} (s : ChildSnapshotOf Nested) : ChildSnapshotOf Nested :=
  { s with nextRestartIn := s.nextRestartIn.map fun _ => 0 }

def SupervisorSnapshot.timeless (s : SupervisorSnapshot) : SupervisorSnapshot :=
  { s with children := s.children.map (·.timeless) }

/-- What a snapshot shows of an entry, without the clock. -/
def ChildEntry.face (e : ChildEntry) : ChildSnapshot := (e.view 0).timeless

theorem ChildEntry.view_timeless (e : ChildEntry) (now : Instant) : (e.view now).timeless = e.face := by
  simp only [ChildEntry.face, ChildSnapshotOf.timeless, ChildEntry.view, Option.map_map,
    Function.comp_def]

/-- The broadcast of the supervisor's own events, nested ones left out. -/
def Action.own : Action → Option SupervisorEvent
  | .event _ (.nested ..) => none
  | .event _ e => some e
  | _ => none

/-- The own events, newest first. -/
def events (trace : List Action) : List SupervisorEvent := trace.filterMap Action.own

def Action.stopping : Action → Bool
  | .event _ .supervisorStopping => true
  | _ => false

theorem Action.stopping_of_life {b : Action} (h : b.life = true) : b.stopping = false := by
  cases b with
  | event owner event => cases event <;> first | rfl | cases h
  | _ => cases h

namespace SupervisorRuntime
variable {rt rt' rt'' : SupervisorRuntime} {key : ChildKey} {e e' : ChildEntry}

theorem view_timeless (rt : SupervisorRuntime) : rt.view.timeless =
    ⟨rt.state.view, rt.lastExit, rt.info.strategy,
      rt.childOrder.filterMap fun key => (rt.children.get key).map ChildEntry.face⟩ := by
  simp only [SupervisorSnapshot.timeless, view, List.map_filterMap, Option.map_map, Function.comp_def,
    ChildEntry.view_timeless]

/-- The last snapshot on the watch channel is the present one. -/
def Shown (rt : SupervisorRuntime) : Prop :=
  rt.snapshots.head?.map (·.timeless) = some rt.view.timeless

/-- An event that publishes leaves nothing unshown. -/
theorem emitted_shown (rt : SupervisorRuntime) (owner : Option Nat) {event : SupervisorEvent}
    (hu : event.updatesSnapshot = true) : (rt.emitted owner event).Shown := by
  simp only [Shown, emitted, hu, if_true, List.head?_cons, Option.map_some]
  rfl

/-- What is shown stays so, and no shutdown begins. -/
structure Steady (rt rt' : SupervisorRuntime) : Prop where
  state : rt'.state = rt.state
  shown : rt.Shown → rt'.Shown
  trace : Grown (fun b => b.stopping = false) rt.trace rt'.trace

namespace Steady

theorem refl (rt : SupervisorRuntime) : Steady rt rt := ⟨rfl, id, .refl _ _⟩

theorem trans (h : Steady rt rt') (h' : Steady rt' rt'') : Steady rt rt'' :=
  ⟨h'.state.trans h.state, h'.shown ∘ h.shown, h.trace.trans h'.trace⟩

theorem same (hs : rt'.state = rt.state) (hl : rt'.lastExit = rt.lastExit) (hi : rt'.info = rt.info)
    (ho : rt'.childOrder = rt.childOrder) (hc : rt'.children = rt.children)
    (hsn : rt'.snapshots = rt.snapshots)
    (ht : Grown (fun b => b.stopping = false) rt.trace rt'.trace) : Steady rt rt' := by
  refine ⟨hs, fun h => ?_, ht⟩
  rw [Shown, view_timeless] at h ⊢
  rwa [hs, hl, hi, ho, hc, hsn]

theorem setEntry (he : rt.children.get key = some e) (hf : e'.face = e.face) :
    Steady rt (rt.setEntry key e') := by
  refine ⟨rfl, fun h => ?_, .refl _ _⟩
  have hget (k : ChildKey) : ((rt.setEntry key e').children.get k).map ChildEntry.face =
      (rt.children.get k).map ChildEntry.face := by
    show ((rt.children.set key e').get k).map ChildEntry.face = _
    rw [Slab.get_set he]
    split
    · rename_i hk
      subst hk
      rw [he]
      exact congrArg some hf
    · rfl
  rw [Shown, view_timeless] at h ⊢
  rw [show (fun k => ((rt.setEntry key e').children.get k).map ChildEntry.face) =
    fun k => (rt.children.get k).map ChildEntry.face from funext hget]
  exact h

theorem emitted {owner : Option Nat} {event : SupervisorEvent} (hu : event.updatesSnapshot = true)
    (hs : rt'.state = rt.state)
    (ht : Grown (fun b => b.stopping = false) rt.trace (rt'.emitted owner event).trace) :
    Steady rt (rt'.emitted owner event) :=
  ⟨hs, fun _ => emitted_shown rt' owner hu, ht⟩

theorem log {b : Action} (hb : b.stopping = false) : Steady rt (rt.log b) :=
  .same rfl rfl rfl rfl rfl rfl (.cons (.refl _ _) hb)

end Steady

/-! ### The updates -/

theorem ignored_steady (rt : SupervisorRuntime) (t : Task) : Steady rt (rt.ignored t) :=
  .same rfl rfl rfl rfl rfl rfl (.cons (.refl _ _) rfl)

theorem exited_steady (rt : SupervisorRuntime) (t : Task) (e : ChildEntry) (outcome : TaskOutcome) :
    Steady rt (rt.exited t e outcome) :=
  .emitted rfl rfl (exited_grown t e outcome (.refl _ _) rfl rfl rfl fun _ => Action.stopping_of_life)

theorem terminated_face (e : ChildEntry) (generation : Nat) (isFailure : Bool) :
    (e.terminated generation isFailure).face = e.face := by
  unfold ChildEntry.terminated
  split
  · split <;> rfl
  · rfl

theorem spawned_steady (rt : SupervisorRuntime) (key : ChildKey) (e : ChildEntry) :
    Steady rt (rt.spawned key e) :=
  .emitted rfl rfl (spawned_grown key e (.refl _ _) rfl fun _ => Action.stopping_of_life)

theorem restarted_shown (rt : SupervisorRuntime) (key : ChildKey) (e : ChildEntry) :
    (rt.restarted key e).Shown :=
  -- `ChildRestarted` does not publish; the `ChildStarted` before it does
  have hspawned : (rt.spawned key e).Shown := emitted_shown _ _ rfl
  hspawned

theorem restarted_steady (rt : SupervisorRuntime) (key : ChildKey) (e : ChildEntry) :
    Steady rt (rt.restarted key e) :=
  ⟨rfl, fun _ => restarted_shown rt key e,
    restarted_grown key e (.refl _ _) rfl fun _ => Action.stopping_of_life⟩

theorem added_steady (rt : SupervisorRuntime) (key : ChildKey) (child : ChildSpec) :
    Steady rt (rt.added key child) := by
  have htrace : Grown (fun b => b.stopping = false) rt.trace
      ((rt.inserted key child).spawned key (rt.newEntry child)).trace :=
    spawned_grown key (rt.newEntry child) (.refl _ _) rfl fun _ => Action.stopping_of_life
  exact .emitted rfl rfl htrace

theorem finalized_steady (rt : SupervisorRuntime) (key : ChildKey) (e : ChildEntry) :
    Steady rt (rt.finalized key e) :=
  .emitted rfl rfl (finalized_grown key e (.refl _ _) rfl rfl)

theorem requested_steady (rt : SupervisorRuntime) (reply : Nat) (key : ChildKey) (e : ChildEntry) :
    Steady rt (rt.requested reply key e) :=
  .emitted rfl rfl (requested_grown reply key e (.refl _ _) rfl rfl rfl)

theorem cancelledChild_steady (rt : SupervisorRuntime) (e : ChildEntry) :
    Steady rt (rt.cancelledChild e) := by
  unfold cancelledChild
  split
  · exact .refl rt
  · exact .same rfl rfl rfl rfl rfl rfl (.cons (.refl _ _) rfl)

theorem abortedChild_steady (rt : SupervisorRuntime) (e : ChildEntry) :
    Steady rt (rt.abortedChild e) := by
  unfold abortedChild
  split
  · exact .refl rt
  · exact .same rfl rfl rfl rfl rfl rfl (.cons (.refl _ _) rfl)

theorem abortMatchingChildren_steady (rt : SupervisorRuntime) (predicate : ChildEntry → Bool) :
    Steady rt (rt.abortMatchingChildren predicate) := by
  have hchain : Relation.ReflTransGen Steady rt (rt.abortMatchingChildren predicate) :=
    abortMatchingChildren_chain predicate fun rt' _ e _ _ _ _ => abortedChild_steady rt' e
  exact rel_of_chain hchain .refl fun _ _ _ => .trans

theorem swept_steady (rt : SupervisorRuntime) : Steady rt rt.swept := by
  have hclosed : Steady rt { rt with commandRx := { rt.commandRx with closed := true } } :=
    .same rfl rfl rfl rfl rfl rfl (.refl _ _)
  exact hclosed.trans (abortMatchingChildren_steady _ _)

theorem overrun_steady (rt : SupervisorRuntime) (key : ChildKey) (e : ChildEntry) :
    Steady rt (rt.overrun key e) :=
  .emitted rfl rfl (.cons (.refl _ _) rfl)

theorem dropReceiver_steady (rt : SupervisorRuntime) : Steady rt rt.dropReceiver :=
  .same rfl rfl rfl rfl rfl rfl (dropReceiver_grown rt fun _ => rfl)

theorem exit_steady (rt : SupervisorRuntime) : Steady rt { rt with pendingExit := none }.dropReceiver :=
  .same rfl rfl rfl rfl rfl rfl (dropReceiver_grown rt fun _ => rfl)

theorem spawnedAll_steady (rt : SupervisorRuntime) (keys : List ChildKey) :
    Steady rt (rt.spawnedAll keys) := by
  induction keys generalizing rt with
  | nil => exact .refl rt
  | cons key rest ih =>
    simp only [spawnedAll]
    split
    · exact (spawned_steady rt key _).trans (ih _)
    · exact ih rt

theorem spawnedAll_shown {keys : List ChildKey} (h : ∃ key ∈ keys, ∃ e, rt.children.get key = some e) :
    (rt.spawnedAll keys).Shown := by
  induction keys with
  | nil =>
    obtain ⟨key, hkey, -⟩ := h
    cases hkey
  | cons key rest ih =>
    simp only [spawnedAll]
    split
    · exact (spawnedAll_steady _ rest).shown (emitted_shown _ _ rfl)
    · rename_i hnone
      obtain ⟨k, hk, e, he⟩ := h
      rcases List.mem_cons.1 hk with rfl | hk
      · rw [hnone] at he
        cases he
      · exact ih ⟨k, hk, e, he⟩

theorem respawnedAll_steady (rt : SupervisorRuntime) (keys : List ChildKey) :
    Steady rt (rt.respawnedAll keys) := by
  induction keys generalizing rt with
  | nil => exact .refl rt
  | cons key rest ih =>
    simp only [respawnedAll]
    split
    · split
      · exact (restarted_steady rt key _).trans (ih _)
      · exact ih rt
    · exact ih rt

theorem envStep_steady {a : Act} (h : envStep rt a = some rt') : Steady rt rt' := by
  have hframe := envStep_frame h
  refine .same hframe.state hframe.lastExit hframe.info hframe.childOrder hframe.children hframe.snapshots ?_
  rcases hframe.trace with ht | ⟨reply, ht⟩
  · rw [ht]
    exact .refl _ _
  · rw [ht]
    exact .cons (.refl _ _) rfl

end SupervisorRuntime

/-! ### Outcomes -/

section
variable {rt rt' : SupervisorRuntime} {ctrl : Ctrl}

theorem CommandOutcome.steady {key : ChildKey} {k : Stack .handleCommand} {cmd : SupervisorCommand}
    (h : CommandOutcome rt key k cmd rt' ctrl) : Steady rt rt' := by
  have hlog (reply : Nat) : Steady rt (rt.log (.handled reply)) := .log rfl
  cases h with
  | addRefused e => exact (hlog _).trans (.log rfl)
  | added ha => exact ((hlog _).trans (added_steady _ _ _)).trans (.log rfl)
  | removeRefused hr => exact hlog _
  | removed he hm hs hr => exact ((hlog _).trans (requested_steady _ _ _ _)).trans (finalized_steady _ _ _)
  | removeAbort he hm hs hr =>
    exact ((hlog _).trans (requested_steady _ _ _ _)).trans (abortedChild_steady _ _)
  | removeWait he hm hs hr =>
    exact ((hlog _).trans (requested_steady _ _ _ _)).trans (cancelledChild_steady _ _)

theorem JoinOutcome.steady {t : Task} {outcome : TaskOutcome} {k : Stack .handleJoinedChild}
    (h : JoinOutcome rt t outcome k rt' ctrl) : Steady rt rt' := by
  have hexit (e : ChildEntry) : Steady rt (rt.exited t e outcome) := exited_steady rt t e outcome
  have hscheduled {e : ChildEntry} {deadline : Instant} {owner : Option Nat} {event : SupervisorEvent}
      (hu : event.updatesSnapshot = true) (hb : (Action.event owner event).stopping = false) :
      Steady rt (((rt.exited t e outcome).scheduled t.info.key (e.stopped outcome.status) deadline).emitted
        owner event) :=
    .emitted hu rfl ((hexit e).trace.cons hb)
  cases h with
  | stale hc => exact ignored_steady rt t
  | stopping hc hs => exact hexit _
  | removed hc hs hm => exact (hexit _).trans (finalized_steady _ _ _)
  | settled hc hs hm hr => exact (hexit _).trans (.setEntry (exited_get hc outcome) (terminated_face _ _ _))
  | overrunOne hc | overrunAll hc => exact (hexit _).trans (overrun_steady _ _ _)
  | scheduledOne hc hs hm hr hst hp | scheduledAll hc hs hm hr hst hp => exact hscheduled rfl rfl

theorem DrainedJoin.steady {t : Task} {outcome : TaskOutcome} {reason : DrainReason}
    (h : DrainedJoin rt t outcome reason rt') : Steady rt rt' := by
  cases h with
  | stale hc => exact ignored_steady rt t
  | exited hc hr => exact exited_steady rt t _ outcome
  | temporary hc hr ht =>
    exact (exited_steady rt t _ outcome).trans (.setEntry (exited_get hc outcome) (terminated_face _ _ _))

theorem DrainNext.steady {reason : DrainReason} {k : Stack (.drainChildren reason)}
    (h : DrainNext rt reason k rt' ctrl) : Steady rt rt' := by
  cases h with
  | abort => exact abortMatchingChildren_steady rt _
  | _ => exact .refl rt

/-- The end of the supervisor is published. -/
structure SupervisorRuntime.Over (rt : SupervisorRuntime) : Prop where
  snapshot : rt.snapshots.head?.map (·.state) = some .stopped
  event : (events rt.trace).head? = some .supervisorStopped

theorem finishedWith_over (rt : SupervisorRuntime) (exit : SupervisorExit) : (rt.finishedWith exit).Over :=
  ⟨rfl, rfl⟩

theorem events_dropReceiver (rt : SupervisorRuntime) : events rt.dropReceiver.trace = events rt.trace := by
  refine (dropReceiver_grown (P := fun b => b.own = none) rt fun _ => rfl).filterMap_eq fun b hb => hb

theorem SupervisorRuntime.Over.dropReceiver (h : rt.Over) : rt.dropReceiver.Over :=
  ⟨h.snapshot, by rw [events_dropReceiver, h.event]⟩

end

/-! ### Steps -/

/-- What observers see of the step `a` from `c` to `c'`. -/
inductive Effect (c : Config) (a : Act) (c' : Config) : Prop
  | steady (h : Steady c.rt c'.rt)
  | drains (hc : c.ctrl.startsDrain = true) (ha : a = .resume)
      (hrt : c'.rt = c.rt.cancelRunningChildren.swept)
  | begins {k : Stack .shutdownAll} (hb : BeginsShutdown c.ctrl a k)
      (hq : c.rt.shutdownRx.value = true ∨ c.rt.shutdownRx.closed = true) (hs : c'.rt.Shown)
  | ends {rt₁ : SupervisorRuntime} {exit : SupervisorExit} (h : Steady c.rt rt₁)
      (hrt : c'.rt = rt₁.finishedWith exit ∨ c'.rt = (rt₁.finishedWith exit).dropReceiver)

section
variable {c c' : Config} {a : Act} {rt₁ : SupervisorRuntime}

theorem LoopHead.effect (hs : Steady c.rt rt₁) (h : LoopHead rt₁ c'.rt c'.ctrl) : Effect c a c' := by
  obtain ⟨rt', ctrl'⟩ := c'
  cases h with
  | exit hp => exact .steady (hs.trans (exit_steady rt₁))
  | natural hp hl hr => exact .ends hs (.inr rfl)
  | wait hp => exact .steady hs

theorem step_effect (hs : c.Sane) (hstep : step c a = some c') : Effect c a c' := by
  have hr := step_rule hs hstep
  obtain ⟨rt, ctrl⟩ := c
  obtain ⟨rt', ctrl'⟩ := c'
  cases hr with
  | env h => exact .steady (envStep_steady h)
  | move h | detachGone he => exact .steady (.refl rt)
  | overflow | vacantOne | vacantAll | joinError | shutdownEnd | runEnd =>
    exact .steady (dropReceiver_steady rt)
  | start hl =>
    have hstarted : Steady rt (rt.emitted none .supervisorStarted) :=
      .same rfl rfl rfl rfl rfl rfl (.cons (.refl _ _) rfl)
    exact LoopHead.effect (hstarted.trans (spawnedAll_steady _ rt.childOrder)) hl
  | loop hc hl =>
    refine LoopHead.effect ?_ hl
    cases hc with
    | command | join => exact .refl rt
    | seen | closed => exact .same rfl rfl rfl rfl rfl rfl (.refl _ _)
    | ignored x hsn => exact .same rfl rfl rfl rfl rfl hsn (.refl _ _)
    | nested x he nestedSnapshot hsn =>
      -- A nested snapshot is published as soon as it is stored.
      refine ⟨rfl, fun _ => ?_, .refl _ _⟩
      have hhead := congrArg List.head? hsn
      exact congrArg (Option.map SupervisorSnapshot.timeless) hhead
  | natural hj => exact .ends (.refl rt) (.inr rfl)
  | shutdown hb hrt hq => exact .begins hb hq ((swept_steady _).shown (emitted_shown _ _ rfl))
  | shutdownDrained => exact .ends (.refl rt) (.inl rfl)
  | command hh hv hq ho =>
    have hreceived (rest : List SupervisorCommand) : Steady rt (rt.received rest) :=
      .same rfl rfl rfl rfl rfl rfl (.refl _ _)
    exact .steady ((hreceived _).trans ho.steady)
  | replied v => exact .steady (.log rfl)
  | join hh hf ho => exact .steady ho.steady
  | readyJoin hf hd => exact .steady hd.steady
  | drainJoin hf hd hn => exact .steady (hd.steady.trans hn.steady)
  | drainNext hd hn => exact .steady hn.steady
  | respawn he hm => exact .steady (restarted_steady rt _ _)
  | groupDrain => exact .drains rfl rfl rfl
  | groupRespawn =>
    have hregrouped : Steady rt rt.regrouped := .same rfl rfl rfl rfl rfl rfl (.refl _ _)
    exact .steady (hregrouped.trans (respawnedAll_steady _ _))
  | removalTimer he => exact .steady (abortedChild_steady rt _)
  | detach he => exact .steady (finalized_steady rt _ _)
  | queued | tryRecvClosed | delaySeen | delayClosed | delayClosedPending | removalSeen =>
    exact .steady (.same rfl rfl rfl rfl rfl rfl (.refl _ _))

end

end TokioSupervisor
