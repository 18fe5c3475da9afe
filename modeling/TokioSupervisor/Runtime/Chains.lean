import TokioSupervisor.Runtime.Steps

/-!
# A step as a chain of updates

`Update c a c' rt rt'` is one update of the state in the step `a` from the configuration `c` to `c'`;
it keeps what the step knows about `c` and `c'` where a property needs it. `Rule.updates`: every step is a chain of
updates, so an invariant of the state is proved by cases on `Update`.
-/

namespace TokioSupervisor
open Lib SupervisorRuntime Relation

/-- Actions that no property of a run turns on. -/
def Action.plain : Action → Bool
  | .event _ (.childStarted ..) | .event _ (.childExited ..) | .event _ (.childRestarted ..)
  | .event _ (.childRemoved ..) | .event _ .restartIntensityExceeded => false
  | .event .. | .replied .. => true
  | _ => false

def Action.spawnedKey : Action → Option ChildKey
  | .spawned key .. => some key
  | _ => none

/-- The keys spawned in the trace, oldest first. -/
def spawnedKeys (trace : List Action) : List ChildKey := (trace.filterMap Action.spawnedKey).reverse

/-- The entries differ in restart bookkeeping and nested snapshots only. -/
structure ChildEntry.Same (e e' : ChildEntry) : Prop where
  id : e'.id = e.id
  instanceId : e'.instanceId = e.instanceId
  spec : e'.runtime.spec = e.runtime.spec
  generation : e'.runtime.generation = e.runtime.generation
  state : e'.runtime.state = e.runtime.state
  activeToken : e'.runtime.activeToken = e.runtime.activeToken
  abortHandle : e'.runtime.abortHandle = e.runtime.abortHandle
  hasStarted : e'.runtime.hasStarted = e.runtime.hasStarted
  terminalStatus : e'.terminalStatus = e.terminalStatus
  lastExit : e'.lastExit = e.lastExit
  membership : e'.membership = e.membership

theorem ChildEntry.Same.nested (e : ChildEntry) (nestedSnapshot : Option SupervisorSnapshot) :
    e.Same { e with nestedSnapshot } :=
  ⟨rfl, rfl, rfl, rfl, rfl, rfl, rfl, rfl, rfl, rfl, rfl⟩

theorem ChildEntry.Same.scheduled (e : ChildEntry) (tracker : RestartTracker)
    (deadline : Option Instant) : e.Same (e.scheduled tracker deadline) :=
  ⟨rfl, rfl, rfl, rfl, rfl, rfl, rfl, rfl, rfl, rfl, rfl⟩

theorem ChildEntry.Same.ok {e e' : ChildEntry} (h : e.Same e') (hok : e.Ok) : e'.Ok :=
  ⟨h.id ▸ hok.id, h.membership ▸ hok.membership, by rw [h.abortHandle, h.state]; exact hok.handle⟩

/-- Why a step sweeps the children: it begins or goes on with a drain. -/
inductive DrainCause (c : Config) (a : Act) : Prop
  | shutdown {k : Stack .shutdownAll} (hb : BeginsShutdown c.ctrl a k)
      (hq : c.rt.shutdownRx.value = true ∨ c.rt.shutdownRx.closed = true)
  | group {key : ChildKey} {k : Stack .handleOneForAllRestart}
      (hc : c.ctrl = .ret (.push (.oneForAllDelay key) k) (.ok true))
  | select {reason : DrainReason} {deadline : Instant} {k : Stack (.drainChildren reason)}
      (hc : c.ctrl = .await (.drainSelect reason deadline) k)
  | goesOn {reason : DrainReason} {k : Stack (.drainChildren reason)}
      (hd : DrainGoesOn c.ctrl a reason k)

/-- Why a step aborts the task of the entry `e` at `key`. -/
inductive AbortCause (c : Config) (a : Act) (key : ChildKey) (e : ChildEntry) : Prop
  | removal (hm : e.membership = .removing)
  | timer {l : Removal} {k : Stack .awaitChildRemoval} (hc : c.ctrl = .await (.removalSelect l) k)
      (ha : a = .run .timer) (hk : l.key = key) (he : c.rt.children.get key = some e)
  | drain (hd : DrainCause c a)

/-- The error of a method that runs on behalf of `handle_joined_child`. -/
def Fn.error : (fn : Fn) → fn.Value → Option SupervisorError
  | .handleJoinedChild, .error e | .handleOneForOneRestart, .error e
  | .handleOneForAllRestart, .error e | .drainForGroupRestart, .error e
  | .drainChildren .groupRestart, .error e => some e
  | _, _ => none

/-- The handling of a joined child has failed with this error, which is on its way up. -/
def Ctrl.erring : Ctrl → Option SupervisorError
  | @Ctrl.ret fn _ v => fn.error v
  | _ => none

/-- `run` has returned or panicked. -/
def Ctrl.ended : Ctrl → Bool
  | .finished _ | .panicked _ => true
  | _ => false

/-- The main loop waits. -/
def Ctrl.atSelect : Ctrl → Bool
  | .await .runSelect _ => true
  | _ => false

/-- The step `resume` begins the drain of a group restart. -/
def Ctrl.startsDrain : Ctrl → Bool
  | .ret (.push (.oneForAllDelay _) _) (.ok true) => true
  | _ => false

/-- The removal of the child at `key` has begun, and waits. -/
inductive Ctrl.StartsRemoval (key : ChildKey) : Ctrl → Prop
  | abort {reason : DrainReason} {k : Stack .abortAndDetachChild} :
      StartsRemoval key (.await (.detachYield key reason) k)
  | wait {l : Removal} {k : Stack .awaitChildRemoval} (hl : l.key = key) :
      StartsRemoval key (.await (.removalSelect l) k)

/-- The step asks for a shutdown, or drops every handle that could. -/
def Act.asksShutdown : Act → Bool
  | .requestShutdown | .dropShutdownSenders => true
  | _ => false

/-- The step is one of the exchange of nested snapshots. -/
def Act.nests : Act → Bool
  | .storeSnapshot .. | .queueSnapshot .. | .notify _ | .run .nested => true
  | _ => false

/-- The step handles the command `cmd`. -/
structure Handles (c : Config) (cmd : SupervisorCommand) : Prop where
  ctrl : ∃ k, HandlesCommand c.ctrl k
  queue : ∃ rest, c.rt.commandRx.queue = cmd :: rest

/-- The step handles a removal of the child `id` that is not refused. -/
structure Removes (c : Config) (a : Act) (id : String) (reply : Nat) : Prop
    extends Handles c (.removeChild id reply) where
  act : ∃ key, a = .run (.command key)
  accepted : c.rt.removeRefusal id = none

/-- The step comes to the head of the main loop. -/
inductive Ctrl.AtHead : Ctrl → Prop
  | start {k : Stack .run} : AtHead (.await .runStart k)
  | select {k : Stack .run} : AtHead (.await .runSelect k)
  | command {k : Stack .run} : AtHead (.ret (.push .runCommand k) ())
  | join {k : Stack .run} : AtHead (.ret (.push .runJoin k) (.ok ()))

theorem AtLoop.atHead {rt rt₁ : SupervisorRuntime} {ctrl : Ctrl} {a : Act} (h : AtLoop rt ctrl a rt₁) :
    ctrl.AtHead := by
  cases h with
  | command => exact .command
  | join => exact .join
  | _ => exact .select

/-- The wait for the restart of the child at `key`, or of its group, begins. -/
inductive Ctrl.Delays (key : ChildKey) : Ctrl → Prop
  | one {p : Await .waitForRestartDelay} {generation : Nat} {k : Stack .handleOneForOneRestart} :
      Delays key (.await p (.push (.oneForOneDelay key generation) k))
  | group {p : Await .waitForRestartDelay} {k : Stack .handleOneForAllRestart} :
      Delays key (.await p (.push (.oneForAllDelay key) k))

/-- In the step from `c` to `c'`, `schedule_restart` makes `e'` of the stopped entry `e` at `key`. -/
structure Schedules (c c' : Config) (rt : SupervisorRuntime) (key : ChildKey) (e e' : ChildEntry) :
    Prop where
  handles : ∃ k, HandlesJoin c.ctrl k
  state : rt.state = c.rt.state
  stopped : e.runtime.state = .stopped
  deadline : e.runtime.nextRestartDeadline = none
  respawns : e.respawns = true
  count : e'.runtime.restartTracker.totalRestarts =
    saturatingSucc e.runtime.restartTracker.totalRestarts
  delays : e'.runtime.nextRestartDeadline = none ∨ c'.ctrl.Delays key

namespace Schedules
variable {c c' : Config} {t : Task} {e : ChildEntry} {outcome : TaskOutcome} {k : Stack .handleJoinedChild}

theorem delay {deadline : Instant} (hh : HandlesJoin c.ctrl k) (hm : e.membership = .active)
    (hr : e.runtime.spec.restart.shouldRestart outcome.status.isFailure = true)
    (hd : c'.ctrl.Delays t.info.key) :
    Schedules c c' (c.rt.exited t e outcome) t.info.key (e.stopped outcome.status)
      ((e.stopped outcome.status).scheduled
        (e.runtime.restartTracker.record c.rt.now).backoff.2 (some deadline)) :=
  ⟨⟨k, hh⟩, rfl, rfl, rfl, ChildEntry.respawns_of_shouldRestart hm hr, RestartTracker.backoff_totalRestarts _, .inr hd⟩

theorem overrun (hh : HandlesJoin c.ctrl k) (hm : e.membership = .active)
    (hr : e.runtime.spec.restart.shouldRestart outcome.status.isFailure = true) :
    Schedules c c' (c.rt.exited t e outcome) t.info.key (e.stopped outcome.status)
      ((e.stopped outcome.status).scheduled (e.runtime.restartTracker.record c.rt.now) none) :=
  ⟨⟨k, hh⟩, rfl, rfl, rfl, ChildEntry.respawns_of_shouldRestart hm hr, rfl, .inl rfl⟩

end Schedules

/-- Why a step takes the state out of `running`, or stops it. -/
inductive HaltCause (c : Config) (a : Act) (c' : Config) : Prop
  | ended (hc : c'.ctrl.ended = true) (hl : c.ctrl.AtHead)
  | begins {k : Stack .shutdownAll} {maxGrace : Option Duration} (hb : BeginsShutdown c.ctrl a k)
      (hq : c.rt.shutdownRx.value = true ∨ c.rt.shutdownRx.closed = true)
      (hc : c'.ctrl = .await (.drainYield .shutdown maxGrace) (.push .shutdownDrain k))
  | drained {k : Stack .shutdownAll} (hc : c.ctrl = .ret (.push .shutdownDrain k) (.ok ()))

/-- One update of the state in the step `a` from `c` to `c'`. -/
inductive Update (c : Config) (a : Act) (c' : Config) (rt : SupervisorRuntime) :
    SupervisorRuntime → Prop
  | aux (x : Aux) (hx : x.nestedSnapshotRx = rt.nestedSnapshotRx ∧ x.nestedStates = rt.nestedStates ∨
      a.nests = true)
      (hp : x.snapshots = rt.snapshots ∨ x.snapshots = (rt.withAux x).view :: rt.snapshots) :
      Update c a c' rt (rt.withAux x)
  | sent {cmd : SupervisorCommand} (ha : a = .send cmd) :
      Update c a c' rt (rt.received (rt.commandRx.queue ++ [cmd]))
  | received {cmd : SupervisorCommand} {rest : List SupervisorCommand}
      (hq : rt.commandRx.queue = cmd :: rest) :
      Update c a c' rt ((rt.received rest).log (.handled cmd.reply))
  | abandoned : Update c a c' rt { rt with commandRx := { rt.commandRx with senders := false } }
  | noneLeft (ho : rt.CommandsOver) : Update c a c' rt rt.commandsClosed
  | watch (w : ShutdownWatch) (hw : w.value = rt.shutdownRx.value ∧ w.closed = rt.shutdownRx.closed ∨
      a.asksShutdown = true) : Update c a c' rt { rt with shutdownRx := w }
  | pending (p : Option (Except SupervisorError SupervisorExit))
      (hp : (∃ k v, c.ctrl = .ret (.push .queueShutdown k) v ∧ p = some v) ∨
        p = none ∧ c'.ctrl.ended = true) :
      Update c a c' rt { rt with pendingExit := p }
  | close (hd : DrainCause c a)
      (hc : c'.rt.state ≠ .running ∨ c.ctrl.startsDrain = true ∧ a = .resume) :
      Update c a c' rt { rt with commandRx := { rt.commandRx with closed := true } }
  | dropped (hc : c'.ctrl.ended = true) : Update c a c' rt rt.dropReceiver
  | refused (reply : Nat) (hc : rt.commandRx.closed = true) :
      Update c a c' rt (rt.log (.unavailable reply))
  | notes (l : List Action) (hl : ∀ b ∈ l, b.plain = true) :
      Update c a c' rt { rt with trace := l ++ rt.trace }
  | halt (state : SupervisorState) (lastExit : Option SupervisorExit) (hs : state ≠ .running)
      (hc : HaltCause c a c') :
      Update c a c' rt { rt with state, lastExit }
  | tasks (f : Task → Task) (hid : ∀ t, (f t).id = t.id) (hinfo : ∀ t, (f t).info = t.info)
      (hout : ∀ t, (f t).outcome = t.outcome ∨ ∃ o, a = .finish t.id o)
      (habort : ∀ t, (f t).abortRequested = t.abortRequested) :
      Update c a c' rt { rt with joinSet := { rt.joinSet with tasks := rt.joinSet.tasks.map f } }
  | entry {key : ChildKey} {e e' : ChildEntry} (he : rt.children.get key = some e)
      (hs : e.Same e') (hn : e'.nestedSnapshot = e.nestedSnapshot ∧
        e'.nestedSnapshotState = e.nestedSnapshotState ∨ a.nests = true)
      (hr : e'.runtime = e.runtime ∨ Schedules c c' rt key e e') : Update c a c' rt (rt.setEntry key e')
  | terminated {key : ChildKey} {e : ChildEntry} {status : ExitStatus} (generation : Nat)
      (he : rt.children.get key = some e) (hl : e.lastExit = some status.view)
      (hs : e.runtime.state = .stopped) :
      Update c a c' rt (rt.setEntry key (e.terminated generation status.isFailure))
  | exceeded (hc : c'.ctrl.erring = some .restartIntensityExceeded) :
      Update c a c' rt (rt.emitted none .restartIntensityExceeded)
  | requested {key : ChildKey} {e : ChildEntry} (reply : Nat) (he : rt.children.get key = some e)
      (hm : e.membership = .active) (hs : e.runtime.state ≠ .stopped)
      (hc : c'.ctrl.StartsRemoval key) (hrt : rt.children = c.rt.children)
      (hh : Removes c a e.id reply) : Update c a c' rt (rt.requested reply key e)
  | removed {key : ChildKey} {e : ChildEntry} (reply : Nat) (he : rt.children.get key = some e)
      (hm : e.membership = .active) (hs : e.runtime.state = .stopped)
      (hrt : rt.children = c.rt.children) (hh : Removes c a e.id reply) :
      Update c a c' rt ((rt.requested reply key e).finalized key e.requested)
  | cancelled {key : ChildKey} {e : ChildEntry} (he : rt.children.get key = some e)
      (hm : e.membership = .removing) : Update c a c' rt (rt.cancelledChild e)
  | aborted {key : ChildKey} {e : ChildEntry} (he : rt.children.get key = some e)
      (hc : AbortCause c a key e) : Update c a c' rt (rt.abortedChild e)
  | ignored {t : Task} {outcome : TaskOutcome} (hf : rt.Finished t outcome)
      (hn : ¬ ∃ e, rt.Current t.info e) : Update c a c' rt (rt.ignored t)
  | exited {t : Task} {e : ChildEntry} {outcome : TaskOutcome} (hrt : rt = c.rt)
      (ha : a = .run (.join t.id)) (hf : rt.Finished t outcome) (hc : rt.Current t.info e) :
      Update c a c' rt (rt.exited t e outcome)
  | finalized {key : ChildKey} {e : ChildEntry} (he : rt.children.get key = some e)
      (hm : e.membership = .removing) (hs : e.runtime.state = .stopped) :
      Update c a c' rt (rt.finalized key e)
  | detached {key : ChildKey} {e : ChildEntry} {reason : DrainReason}
      {k : Stack .abortAndDetachChild} (he : rt.children.get key = some e) (hrt : rt = c.rt)
      (hc : c.ctrl = .ret (.push (.detachDrain key reason) k) (.ok ())) :
      Update c a c' rt (rt.finalized key e)
  | started {key : ChildKey} {e : ChildEntry} {k : Stack .run} (he : rt.children.get key = some e)
      (he₀ : c.rt.children.get key = some e) (hc : c.ctrl = .await .runStart k) :
      Update c a c' rt (rt.spawned key e)
  | added {key : ChildKey} {child : ChildSpec} (hv : rt.children.vacant key = true)
      (ha : rt.Addable child) (hn : rt.nextChildInstance = c.rt.nextChildInstance)
      (hh : ∃ reply, Handles c (.addChild child reply)) : Update c a c' rt (rt.added key child)
  | respawned {key : ChildKey} {e : ChildEntry} {generation : Nat}
      {k : Stack .handleOneForOneRestart} (he : rt.children.get key = some e)
      (hm : e.membership = .active) (hrt : rt = c.rt)
      (hc : c.ctrl = .ret (.push (.oneForOneDelay key generation) k) (.ok true)) (ha : a = .resume) :
      Update c a c' rt (rt.restarted key e)
  | groupRespawned {key : ChildKey} {e : ChildEntry} {k : Stack .handleOneForAllRestart}
      (he : rt.children.get key = some e) (he₀ : c.rt.children.get key = some e)
      (hr : e.respawns = true) (hc : c.ctrl = .ret (.push .oneForAllDrain k) (.ok ()))
      (ha : a = .resume) : Update c a c' rt (rt.restarted key e)
  | cancelledAll (hd : DrainCause c a) : Update c a c' rt rt.cancelRunningChildren
  | regrouped {k : Stack .handleOneForAllRestart}
      (hc : c.ctrl = .ret (.push .oneForAllDrain k) (.ok ())) : Update c a c' rt rt.regrouped

theorem Update.tracked {c c' : Config} {a : Act} {rt : SupervisorRuntime} {key : ChildKey} {e : ChildEntry}
    (he : rt.children.get key = some e) {tracker : RestartTracker} {deadline : Option Instant}
    (hr : Schedules c c' rt key e (e.scheduled tracker deadline)) :
    Update c a c' rt (rt.setEntry key (e.scheduled tracker deadline)) :=
  .entry he (.scheduled ..) (.inl ⟨rfl, rfl⟩) (.inr hr)

/-- The updates of the step `a` from `c` to `c'`, in order. -/
abbrev Updates (c : Config) (a : Act) (c' : Config) : SupervisorRuntime → SupervisorRuntime → Prop :=
  ReflTransGen (Update c a c')

theorem Update.wf {c c' : Config} {a : Act} {rt rt' : SupervisorRuntime} (h : Update c a c' rt rt')
    (hwf : rt.Wf) : rt'.Wf := by
  cases h with
  | tasks f hid hinfo => exact WfOf.mapTasks hwf hid hinfo
  | entry he hs => exact hwf.setEntry he hs.id (hs.ok (hwf.ok he))
  | terminated g he _ _ => exact hwf.terminated he ..
  | requested reply he _ _ _ _ _ => exact hwf.requested reply he
  | removed reply he _ _ _ _ => exact (hwf.requested reply he).finalized (requested_get reply he)
  | cancelled he _ => exact hwf.cancelledChild _
  | aborted he _ => exact hwf.abortedChild _
  | ignored _ _ => exact hwf.ignored _
  | exited _ _ _ hc => exact hwf.exited hc _
  | finalized he _ _ => exact hwf.finalized he
  | detached he _ _ => exact hwf.finalized he
  | started he _ _ => exact hwf.spawned he
  | added hv ha _ _ => exact hwf.added hv ha
  | respawned he _ _ _ => exact hwf.restarted he
  | groupRespawned he _ _ _ => exact hwf.restarted he
  | cancelledAll _ => exact hwf.cancelRunningChildren.choose_spec.choose_spec.2.2.2.2
  | _ => exact hwf

theorem Update.info {c c' : Config} {a : Act} {rt rt' : SupervisorRuntime} (h : Update c a c' rt rt')
    (hwf : rt.Wf) : rt'.info = rt.info := by
  cases h with
  | cancelled _ _ => unfold SupervisorRuntime.cancelledChild; split <;> rfl
  | aborted _ _ => unfold SupervisorRuntime.abortedChild; split <;> rfl
  | cancelledAll _ =>
    obtain ⟨C, n, heq, -⟩ := hwf.cancelRunningChildren
    rw [heq]
    rfl
  | _ => rfl

theorem Update.shutdownRx {c c' : Config} {a : Act} {rt rt' : SupervisorRuntime}
    (h : Update c a c' rt rt') (hwf : rt.Wf) (ha : a.asksShutdown = false) :
    rt'.shutdownRx.value = rt.shutdownRx.value ∧ rt'.shutdownRx.closed = rt.shutdownRx.closed := by
  cases h with
  | watch w hw => exact hw.resolve_right (by rw [ha]; exact nofun)
  | cancelled _ _ => unfold SupervisorRuntime.cancelledChild; split <;> exact ⟨rfl, rfl⟩
  | aborted _ _ => unfold SupervisorRuntime.abortedChild; split <;> exact ⟨rfl, rfl⟩
  | cancelledAll _ =>
    obtain ⟨C, n, heq, -⟩ := hwf.cancelRunningChildren
    rw [heq]
    exact ⟨rfl, rfl⟩
  | _ => exact ⟨rfl, rfl⟩

theorem Update.state {c c' : Config} {a : Act} {rt rt' : SupervisorRuntime} (h : Update c a c' rt rt')
    (hwf : rt.Wf) (hs : rt.state ≠ .running) : rt'.state ≠ .running := by
  cases h with
  | halt state _ hs' _ => exact hs'
  | cancelled _ _ => unfold SupervisorRuntime.cancelledChild; split <;> exact hs
  | aborted _ _ => unfold SupervisorRuntime.abortedChild; split <;> exact hs
  | cancelledAll _ =>
    obtain ⟨C, n, heq, -⟩ := hwf.cancelRunningChildren
    rw [heq]
    exact hs
  | _ => exact hs

/-- An invariant of well-formed states that every update keeps is kept by the chain. -/
theorem Updates.invariant {c c' : Config} {a : Act} {rt rt' : SupervisorRuntime}
    {I : SupervisorRuntime → Prop} (h : Updates c a c' rt rt') (hwf : rt.Wf) (hI : I rt)
    (hu : ∀ rt rt', rt.Wf → I rt → Update c a c' rt rt' → I rt') : rt'.Wf ∧ I rt' := by
  induction h with
  | refl => exact ⟨hwf, hI⟩
  | tail _ hstep ih => exact ⟨hstep.wf ih.1, hu _ _ ih.1 ih.2 hstep⟩

namespace Updates
variable {c c' : Config} {a : Act} {rt₀ rt : SupervisorRuntime}

theorem snoc {rt' : SupervisorRuntime} (h : Updates c a c' rt₀ rt) (hu : Update c a c' rt rt') :
    Updates c a c' rt₀ rt' :=
  .tail h hu

theorem log (h : Updates c a c' rt₀ rt) {b : Action} (hb : b.plain = true) :
    Updates c a c' rt₀ (rt.log b) :=
  h.snoc (.notes [b] (by simpa using hb))

theorem emitted (h : Updates c a c' rt₀ rt) {owner : Option Nat} {event : SupervisorEvent}
    (hb : (Action.event owner event).plain = true) : Updates c a c' rt₀ (rt.emitted owner event) :=
  (h.snoc (.aux ⟨rt.nestedSnapshotRx, rt.now, rt.wallClock, rt.nestedStates,
    if event.updatesSnapshot then rt.view :: rt.snapshots else rt.snapshots⟩ (.inl ⟨rfl, rfl⟩)
    (by dsimp only; split <;> [exact .inr rfl; exact .inl rfl]))).log hb

theorem aborts (h : Updates c a c' rt₀ rt) (predicate : ChildEntry → Bool) (hd : DrainCause c a) :
    Updates c a c' rt₀ (rt.abortMatchingChildren predicate) := by
  refine h.trans (abortMatchingChildren_chain predicate fun rt' key e he _ _ hsame => ?_)
  exact @Update.aborted c a c' rt' key e (by rw [hsame]; exact he) (.drain hd)

theorem swept (h : Updates c a c' rt₀ rt) (hd : DrainCause c a)
    (hc : c'.rt.state ≠ .running ∨ c.ctrl.startsDrain = true ∧ a = .resume) :
    Updates c a c' rt₀ rt.swept :=
  (h.snoc (.close hd hc)).aborts _ hd

theorem finishedWith (h : Updates c a c' rt₀ rt) (exit : SupervisorExit) (hc : HaltCause c a c') :
    Updates c a c' rt₀ (rt.finishedWith exit) :=
  (h.snoc (.halt .stopped (some exit) nofun hc)).emitted rfl

theorem loopHead (h : Updates c a c' rt₀ rt) (hc : c.ctrl.AtHead) (hl : LoopHead rt c'.rt c'.ctrl) :
    Updates c a c' rt₀ c'.rt := by
  obtain ⟨rt', ctrl'⟩ := c'
  cases hl with
  | exit hp => exact (h.snoc (.pending none (.inr ⟨rfl, rfl⟩))).snoc (.dropped rfl)
  | natural hp hl hr => exact (h.finishedWith _ (.ended rfl hc)).snoc (.dropped rfl)
  | wait hp => exact h

theorem drainNext (h : Updates c a c' rt₀ rt) {reason : DrainReason} {k : Stack (.drainChildren reason)}
    {rt' : SupervisorRuntime} {ctrl' : Ctrl} (hd : DrainCause c a)
    (hn : DrainNext rt reason k rt' ctrl') : Updates c a c' rt₀ rt' := by
  cases hn with
  | abort => exact h.aborts _ hd
  | _ => exact h

theorem drainedJoin {t : Task} {outcome : TaskOutcome} {reason : DrainReason} {rt' : SupervisorRuntime}
    (ha : a = .run (.join t.id)) (hf : c.rt.Finished t outcome)
    (hd : DrainedJoin c.rt t outcome reason rt') : Updates c a c' c.rt rt' := by
  have hrefl : Updates c a c' c.rt c.rt := .refl
  cases hd with
  | stale hn => exact hrefl.snoc (.ignored hf hn)
  | exited hc _ => exact hrefl.snoc (.exited rfl ha hf hc)
  | temporary hc _ _ =>
    exact (hrefl.snoc (.exited rfl ha hf hc)).snoc (.terminated _ (exited_get hc _) rfl rfl)

theorem joinOutcome {t : Task} {outcome : TaskOutcome} {k : Stack .handleJoinedChild}
    (ha : a = .run (.join t.id)) (hh : HandlesJoin c.ctrl k) (hf : c.rt.Finished t outcome)
    (ho : JoinOutcome c.rt t outcome k c'.rt c'.ctrl) : Updates c a c' c.rt c'.rt := by
  have hrefl : Updates c a c' c.rt c.rt := .refl
  have hexit {e : ChildEntry} (hc : c.rt.Current t.info e) :
      Updates c a c' c.rt (c.rt.exited t e outcome) :=
    hrefl.snoc (.exited rfl ha hf hc)
  obtain ⟨rt', ctrl'⟩ := c'
  cases ho with
  | stale hn => exact hrefl.snoc (.ignored hf hn)
  | stopping hc _ => exact hexit hc
  | removed hc _ hm => exact (hexit hc).snoc (.finalized (exited_get hc _) hm rfl)
  | settled hc _ _ _ => exact (hexit hc).snoc (.terminated _ (exited_get hc _) rfl rfl)
  | overrunOne hc _ hm hr | overrunAll hc _ hm hr =>
    exact ((hexit hc).snoc (.tracked (exited_get hc _) (.overrun hh hm hr))).snoc (.exceeded rfl)
  | scheduledOne hc _ hm hr =>
    exact ((hexit hc).snoc (.tracked (exited_get hc _) (.delay hh hm hr .one))).emitted rfl
  | scheduledAll hc _ hm hr =>
    exact ((hexit hc).snoc (.tracked (exited_get hc _) (.delay hh hm hr .group))).emitted rfl

theorem commandOutcome {key : ChildKey} {k : Stack .handleCommand} {cmd : SupervisorCommand}
    {rest : List SupervisorCommand} (ha : a = .run (.command key)) (hh : HandlesCommand c.ctrl k)
    (hv : c.rt.children.vacant key = true) (hq : c.rt.commandRx.queue = cmd :: rest)
    (ho : CommandOutcome (c.rt.received rest) key k cmd c'.rt c'.ctrl) :
    Updates c a c' ((c.rt.received rest).log (.handled cmd.reply)) c'.rt := by
  obtain ⟨rt', ctrl'⟩ := c'
  have h : Updates c a ⟨rt', ctrl'⟩ ((c.rt.received rest).log (.handled cmd.reply)) _ := .refl
  have hh : Handles c cmd := ⟨⟨_, hh⟩, _, hq⟩
  cases ho with
  | addRefused e => exact h.log rfl
  | added hadd => exact (h.snoc (.added hv ⟨hadd.state, hadd.id, hadd.new⟩ rfl ⟨_, hh⟩)).log rfl
  | removeRefused hr => exact h
  | removed he hm hs hr => exact h.snoc (.removed _ he hm hs rfl ⟨hh, ⟨_, ha⟩, hr⟩)
  | removeAbort he hm hs hr =>
    exact (h.snoc (.requested _ he hm hs .abort rfl ⟨hh, ⟨_, ha⟩, hr⟩)).snoc
      (.aborted (requested_get _ he) (.removal rfl))
  | removeWait he hm hs hr =>
    exact (h.snoc (.requested _ he hm hs (.wait rfl) rfl ⟨hh, ⟨_, ha⟩, hr⟩)).snoc
      (.cancelled (requested_get _ he) rfl)

end Updates

/-- What the environment leaves alone. -/
structure EnvFrame (rt rt' : SupervisorRuntime) : Prop where
  info : rt'.info = rt.info
  state : rt'.state = rt.state
  children : rt'.children = rt.children
  childOrder : rt'.childOrder = rt.childOrder
  runningChildren : rt'.runningChildren = rt.runningChildren
  liveTasks : rt'.liveTasks = rt.liveTasks
  nextChildInstance : rt'.nextChildInstance = rt.nextChildInstance
  pendingExit : rt'.pendingExit = rt.pendingExit
  lastExit : rt'.lastExit = rt.lastExit
  snapshots : rt'.snapshots = rt.snapshots
  closed : rt'.commandRx.closed = rt.commandRx.closed
  now : rt.now ≤ rt'.now
  trace : rt'.trace = rt.trace ∨ ∃ reply, rt'.trace = .unavailable reply :: rt.trace
  tasks : ∃ f : Task → Task, rt'.joinSet.tasks = rt.joinSet.tasks.map f ∧
    ∀ t, (f t).id = t.id ∧ (f t).info = t.info ∧ (f t).abortRequested = t.abortRequested

theorem EnvFrame.infos {rt rt' : SupervisorRuntime} (h : EnvFrame rt rt') :
    rt'.joinSet.tasks.map (·.info) = rt.joinSet.tasks.map (·.info) := by
  obtain ⟨f, hf, hsame⟩ := h.tasks
  rw [hf, List.map_map]
  exact List.map_congr_left fun t _ => (hsame t).2.1

theorem envStep_frame {rt rt' : SupervisorRuntime} {a : Act} (h : envStep rt a = some rt') :
    EnvFrame rt rt' := by
  have htasks : ∃ f : Task → Task, rt.joinSet.tasks = rt.joinSet.tasks.map f ∧
      ∀ t, (f t).id = t.id ∧ (f t).info = t.info ∧ (f t).abortRequested = t.abortRequested :=
    ⟨id, (List.map_id _).symm, fun _ => ⟨rfl, rfl, rfl⟩⟩
  cases a with
  | tick nanos wallClock =>
    simp only [envStep, Option.ite_none_right_eq_some, Option.some.injEq] at h
    obtain ⟨-, rfl⟩ := h
    exact ⟨rfl, rfl, rfl, rfl, rfl, rfl, rfl, rfl, rfl, rfl, rfl, Nat.le_add_right _ _, .inl rfl, htasks⟩
  | requestShutdown =>
    simp only [envStep, Option.ite_none_left_eq_some, Option.some.injEq] at h
    obtain ⟨-, rfl⟩ := h
    exact ⟨rfl, rfl, rfl, rfl, rfl, rfl, rfl, rfl, rfl, rfl, rfl, Nat.le_refl _, .inl rfl, htasks⟩
  | send command =>
    simp only [envStep, Option.ite_none_left_eq_some] at h
    obtain ⟨-, h⟩ := h
    split at h
    · cases h
      exact ⟨rfl, rfl, rfl, rfl, rfl, rfl, rfl, rfl, rfl, rfl, rfl, Nat.le_refl _, .inr ⟨_, rfl⟩, htasks⟩
    · simp only [Option.ite_none_right_eq_some, Option.some.injEq] at h
      obtain ⟨-, rfl⟩ := h
      exact ⟨rfl, rfl, rfl, rfl, rfl, rfl, rfl, rfl, rfl, rfl, rfl, Nat.le_refl _, .inl rfl, htasks⟩
  | finish task outcome =>
    obtain ⟨js, hjs, rfl⟩ := Option.map_eq_some_iff.1 h
    refine ⟨rfl, rfl, rfl, rfl, rfl, rfl, rfl, rfl, rfl, rfl, rfl, Nat.le_refl _, .inl rfl, ?_⟩
    unfold JoinSet.finish at hjs
    split at hjs
    · split at hjs
      · cases hjs
      · cases hjs
        refine ⟨_, rfl, fun t => ?_⟩
        split <;> exact ⟨rfl, rfl, rfl⟩
    · cases hjs
  | notify n =>
    simp only [envStep, Option.ite_none_right_eq_some, Option.some.injEq] at h
    obtain ⟨-, rfl⟩ := h
    exact ⟨rfl, rfl, rfl, rfl, rfl, rfl, rfl, rfl, rfl, rfl, rfl, Nat.le_refl _, .inl rfl, htasks⟩
  | _ =>
    cases h <;>
      exact ⟨rfl, rfl, rfl, rfl, rfl, rfl, rfl, rfl, rfl, rfl, rfl, Nat.le_refl _, .inl rfl, htasks⟩

/-- The environment only changes channels, the clock and the progress of tasks. -/
theorem envStep_updates {c c' : Config} {a : Act} {rt' : SupervisorRuntime}
    (h : envStep c.rt a = some rt') : Updates c a c' c.rt rt' := by
  have hrefl : Updates c a c' c.rt c.rt := .refl
  cases a with
  | tick nanos wallClock =>
    simp only [envStep, Option.ite_none_right_eq_some, Option.some.injEq] at h
    obtain ⟨-, rfl⟩ := h
    exact hrefl.snoc (.aux ⟨_, _, _, _, _⟩ (.inl ⟨rfl, rfl⟩) (.inl rfl))
  | requestShutdown =>
    simp only [envStep, Option.ite_none_left_eq_some, Option.some.injEq] at h
    obtain ⟨-, rfl⟩ := h
    exact hrefl.snoc (.watch _ (.inr rfl))
  | dropShutdownSenders => cases h; exact hrefl.snoc (.watch _ (.inr rfl))
  | dropCommandSenders => cases h; exact hrefl.snoc .abandoned
  | send command =>
    simp only [envStep, Option.ite_none_left_eq_some] at h
    obtain ⟨-, h⟩ := h
    split at h
    · rename_i hc
      cases h
      exact hrefl.snoc (.refused _ hc)
    · simp only [Option.ite_none_right_eq_some, Option.some.injEq] at h
      obtain ⟨-, rfl⟩ := h
      exact hrefl.snoc (.sent rfl)
  | finish task outcome =>
    obtain ⟨js, hjs, rfl⟩ := Option.map_eq_some_iff.1 h
    unfold JoinSet.finish at hjs
    split at hjs
    · split at hjs
      · cases hjs
      · cases hjs
        refine hrefl.snoc (.tasks _ (fun t => by split <;> rfl) (fun t => by split <;> rfl) (fun t => ?_)
          fun t => by split <;> rfl)
        split
        · rename_i ht
          exact .inr ⟨_, by rw [ht]⟩
        · exact .inl rfl
    · cases hjs
  | storeSnapshot i snapshot => cases h; exact hrefl.snoc (.aux ⟨_, _, _, _, _⟩ (.inr rfl) (.inl rfl))
  | queueSnapshot i queued => cases h; exact hrefl.snoc (.aux ⟨_, _, _, _, _⟩ (.inr rfl) (.inl rfl))
  | notify n =>
    simp only [envStep, Option.ite_none_right_eq_some, Option.some.injEq] at h
    obtain ⟨-, rfl⟩ := h
    exact hrefl.snoc (.aux ⟨_, _, _, _, _⟩ (.inr rfl) (.inl rfl))
  | run w => cases h
  | resume => cases h

theorem HandlesCommand.ne_start {ctrl : Ctrl} {k : Stack .handleCommand} (h : HandlesCommand ctrl k) :
    ctrl ≠ .await .runStart .nil := by
  cases h <;> exact nofun

theorem SupervisorRuntime.Wf.halted_state {rt : SupervisorRuntime} (h : rt.Wf) :
    rt.halted.state = .stopping := by
  obtain ⟨C, n, heq, -⟩ :=
    (show Wf { rt with state := .stopping } from h).cancelRunningChildren
  have habort (rt : SupervisorRuntime) (e : ChildEntry) : (rt.abortedChild e).state = rt.state := by
    unfold SupervisorRuntime.abortedChild; split <;> rfl
  unfold SupervisorRuntime.halted SupervisorRuntime.swept
  rw [abortMatchingChildren_field (·.state) habort, heq]
  rfl

/-- Every step is a chain of updates. -/
theorem Rule.updates {c : Config} {a : Act} {rt' : SupervisorRuntime} {ctrl' : Ctrl} (hwf : c.rt.Wf)
    (h : Rule c.rt c.ctrl a rt' ctrl') : Updates c a ⟨rt', ctrl'⟩ c.rt rt' := by
  obtain ⟨rt, ctrl⟩ := c
  have hrefl : Updates ⟨rt, ctrl⟩ a ⟨rt', ctrl'⟩ rt rt := .refl
  cases h with
  | env h => exact envStep_updates h
  | move h => exact hrefl
  | overflow => exact hrefl.snoc (.dropped rfl)
  | vacantOne he => exact hrefl.snoc (.dropped rfl)
  | vacantAll hd he => exact hrefl.snoc (.dropped rfl)
  | start hl =>
    refine Updates.loopHead ((hrefl.emitted rfl).trans
      (spawnedAll_chain hwf.nodup fun rt' key e he₀ he => ?_)) .start hl
    exact .started he he₀ rfl
  | loop hc hl =>
    refine Updates.loopHead ?_ hc.atHead hl
    cases hc with
    | command => exact hrefl
    | join => exact hrefl
    | seen hs hv => exact hrefl.snoc (.watch _ (.inl ⟨rfl, rfl⟩))
    | closed ho => exact hrefl.snoc (.noneLeft ho)
    | ignored x hs => exact hrefl.snoc (.aux x (.inr rfl) (.inl hs))
    | nested x he s hs =>
      have hstored := (hrefl.snoc (.aux { x with snapshots := rt.snapshots } (.inr rfl) (.inl rfl))).snoc
        (.entry he (.nested _ s) (.inr rfl) (.inl rfl))
      exact hstored.snoc (.aux x (.inr rfl) (.inr hs))
  | natural hj => exact (hrefl.finishedWith _ (.ended rfl .select)).snoc (.dropped rfl)
  | joinError e => exact hrefl.snoc (.dropped rfl)
  | shutdownEnd v => exact hrefl.snoc (.dropped rfl)
  | runEnd v => exact hrefl.snoc (.dropped rfl)
  | @shutdown _ _ k maxGrace rt₁ hb hrt hq =>
    have hseen : Updates ⟨rt, ctrl⟩ a ⟨rt₁.halted, .await (.drainYield .shutdown maxGrace)
        (.push .shutdownDrain k)⟩ rt rt₁ := by
      rcases hrt with rfl | rfl
      · exact hrefl
      · exact hrefl.snoc (.watch _ (.inl ⟨rfl, rfl⟩))
    have hd : DrainCause ⟨rt, ctrl⟩ a := .shutdown hb hq
    have hwf₁ : rt₁.Wf := by rcases hrt with rfl | rfl <;> exact hwf
    exact (((hseen.snoc (.halt .stopping rt₁.lastExit nofun (.begins hb hq rfl))).snoc
      (.cancelledAll hd)).emitted rfl).swept hd (.inl (by rw [hwf₁.halted_state]; exact nofun))
  | queued v => exact hrefl.snoc (.pending _ (.inl ⟨_, _, rfl, rfl⟩))
  | shutdownDrained => exact hrefl.finishedWith _ (.drained rfl)
  | command hh hv hq ho =>
    exact (hrefl.snoc (.received hq)).trans (Updates.commandOutcome rfl hh hv hq ho)
  | replied v => exact hrefl.log rfl
  | join hh hf ho => exact Updates.joinOutcome rfl hh hf ho
  | readyJoin hf hd => exact Updates.drainedJoin rfl hf hd
  | drainJoin hf hd hn => exact (Updates.drainedJoin rfl hf hd).drainNext (.select rfl) hn
  | drainNext hd hn => exact hrefl.drainNext (.goesOn hd) hn
  | respawn he hm => exact hrefl.snoc (.respawned he hm rfl rfl rfl)
  | groupDrain => exact (hrefl.snoc (.cancelledAll (.group rfl))).swept (.group rfl) (.inr ⟨rfl, rfl⟩)
  | groupRespawn =>
    refine (hrefl.snoc (.regrouped rfl)).trans
      (respawnedAll_chain hwf.nodup fun rt' key e he₀ he hr => ?_)
    exact .groupRespawned he he₀ hr rfl rfl
  | tryRecvClosed ho => exact hrefl.snoc (.noneLeft ho)
  | delaySeen => exact hrefl.snoc (.watch _ (.inl ⟨rfl, rfl⟩))
  | delayClosed ho => exact hrefl.snoc (.noneLeft ho)
  | delayClosedPending ho hp => exact hrefl.snoc (.noneLeft ho)
  | removalSeen hr => exact hrefl.snoc (.watch _ (.inl ⟨rfl, rfl⟩))
  | removalTimer he => exact hrefl.snoc (.aborted he (.timer rfl rfl rfl he))
  | detachGone he => exact hrefl
  | detach he => exact hrefl.snoc (.detached he rfl rfl)

theorem Rule.state {rt rt' : SupervisorRuntime} {ctrl ctrl' : Ctrl} {a : Act}
    (h : Rule rt ctrl a rt' ctrl') (hwf : rt.Wf) (hs : rt.state ≠ .running) : rt'.state ≠ .running :=
  ((@Rule.updates ⟨rt, ctrl⟩ a rt' ctrl' hwf h).invariant hwf hs fun _ _ hwf hs hu => hu.state hwf hs).2

end TokioSupervisor
