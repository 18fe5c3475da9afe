import TokioSupervisor.Runtime.Machine

/-!
# A supervisor that runs as a child

`Supervisor::run_as_child` is the body of a child task. It spawns the nested supervisor as a task of
its own and waits for it behind a `SupervisorHandle`; it passes the cancellation of its token on. The
state holds the parent's run and, for each child task whose body has been polled, the run of the nested
supervisor. The parent may be nested itself: its environment is not restricted.

Forwarded events and snapshots are left out here (the parent's environment stores and announces any
snapshot), and so is the registry of control endpoints: commands reach a nested supervisor at any time.
-/

namespace TokioSupervisor

/-- What `run_as_child` reads of `ChildContext`. -/
structure ChildContext where
  id : String
  token : CancellationToken

/-- A `run_as_child` that has been polled: the supervisor that it spawned, and its local. -/
structure NestedRun where
  inner : Config
  shutdownRequested : Bool

def SupervisorError.display : SupervisorError → String
  | .restartIntensityExceeded => "restart intensity exceeded"
  | .shutdownTimedOut ids => s!"shutdown timed out: {ids}"
  | .internal message => s!"internal supervisor error: {message}"

def mapNestedSupervisorResult (childId : String) :
    Except SupervisorError SupervisorExit → Except String Unit
  | .ok .completed | .ok .shutdown => .ok ()
  | .ok .failed => .error s!"nested supervisor `{childId}` failed"
  | .error err => .error err.display

namespace NestedRun

/-- What `SupervisorHandle::wait` returns; `display` is the text of the `JoinError` of a panic. -/
def wait (n : NestedRun) (display : String) : Option (Except SupervisorError SupervisorExit) :=
  match n.inner.ctrl with
  | .finished result => some result
  | .panicked _ => some (.error (.internal s!"supervisor task failed to join: {display}"))
  | _ => none

def step (n : NestedRun) (a : Act) : Option NestedRun :=
  (TokioSupervisor.step n.inner a).map fun inner => { n with inner }

def tick (n : NestedRun) (nanos wallClock : Nat) : NestedRun :=
  (n.step (.tick nanos wallClock)).getD n

/-- The handle goes, and with it the only sender of the shutdown request. The task of the supervisor
is detached. -/
def detach (n : NestedRun) : NestedRun := (n.step .dropShutdownSenders).getD n

end NestedRun

/-- The context that `spawn_child` made for the current task `t` of an entry. -/
def SupervisorRuntime.context (rt : SupervisorRuntime) (t : TaskId) : Option ChildContext :=
  (rt.children.iter.find? (·.runtime.abortHandle == some t)).bind fun entry =>
    entry.runtime.activeToken.map (⟨entry.id, ·⟩)

/-- A supervisor with the supervisors that run as its children, by their child's task. -/
structure SupervisorTree where
  parent : Config
  contexts : TaskId → Option ChildContext
  nested : TaskId → Option NestedRun

inductive TreeAct
  /-- Time passes for all. -/
  | tick (nanos wallClock : Nat)
  /-- A step of the parent's run or environment. -/
  | parent (a : Act)
  /-- The first poll of `run_as_child`. -/
  | spawn (t : TaskId)
  /-- The token is cancelled, and the wrapper asks for a shutdown. -/
  | cancelled (t : TaskId)
  /-- The wrapper returns. -/
  | waited (t : TaskId) (display : String)
  /-- The aborted wrapper is dropped. -/
  | dropped (t : TaskId)
  /-- A step of the nested supervisor's run or environment. -/
  | inner (t : TaskId) (a : Act)

namespace SupervisorTree

def start (config : SupervisorConfig) (env : StartEnv) : SupervisorTree :=
  ⟨Config.start config env, fun _ => none, fun _ => none⟩

def setParent (s : SupervisorTree) (parent : Config) : SupervisorTree :=
  { s with parent, contexts := fun t => (s.contexts t).or (parent.rt.context t) }

def setNested (s : SupervisorTree) (t : TaskId) (n : NestedRun) : SupervisorTree :=
  { s with nested := Function.update s.nested t (some n) }

/-- The unfinished task `t` of the parent. -/
def running (s : SupervisorTree) (t : TaskId) : Option Task :=
  (s.parent.rt.joinSet.find t).filter (·.outcome.isNone)

/-- The child task `t` ends, and its wrapper drops the handle. -/
def finish (s : SupervisorTree) (t : TaskId) (outcome : TaskOutcome) : Option SupervisorTree :=
  (TokioSupervisor.step s.parent (.finish t outcome)).map fun parent =>
    { s with parent, nested := Function.update s.nested t ((s.nested t).map NestedRun.detach) }

/-- `supervisors` says which instances of children were made by `into_child_spec`, from what. -/
def step (supervisors : Nat → Option SupervisorConfig) (s : SupervisorTree) :
    TreeAct → Option SupervisorTree
  | .tick nanos wallClock =>
    (TokioSupervisor.step s.parent (.tick nanos wallClock)).map fun parent =>
      { s with parent, nested := fun t => (s.nested t).map (·.tick nanos wallClock) }
  | .parent (.tick ..) => none
  | .parent (.finish t outcome) =>
    match s.running t with
    | some task =>
      -- other children end as they please
      if (supervisors task.info.instanceId).isNone then
        (TokioSupervisor.step s.parent (.finish t outcome)).map s.setParent
      else none
    | none => none
  | .parent a => (TokioSupervisor.step s.parent a).map s.setParent
  | .spawn t =>
    match s.running t, s.nested t with
    | some task, none =>
      (supervisors task.info.instanceId).map fun config =>
        let env := ⟨s.parent.rt.info.debugEnabled, s.parent.rt.now, s.parent.rt.wallClock⟩
        s.setNested t ⟨Config.start config env, false⟩
    | _, _ => none
  | .cancelled t =>
    match s.running t, s.nested t, s.contexts t with
    | some _, some n, some ctx =>
      if !n.shutdownRequested && s.parent.rt.tokens.isCancelled ctx.token then
        (n.step .requestShutdown).map fun n => s.setNested t { n with shutdownRequested := true }
      else none
    | _, _, _ => none
  | .waited t display =>
    match s.nested t, s.contexts t with
    | some n, some ctx =>
      (n.wait display).bind fun result =>
        s.finish t (.returned (mapNestedSupervisorResult ctx.id result))
    | _, _ => none
  | .dropped t =>
    match s.running t with
    | some task =>
      if (supervisors task.info.instanceId).isSome then s.finish t .cancelled else none
    | none => none
  -- these come from the wrapper or with the clock
  | .inner _ (.tick ..) | .inner _ .requestShutdown | .inner _ .dropShutdownSenders => none
  | .inner t .dropCommandSenders =>
    if (s.running t).isSome then none
    else (s.nested t).bind fun n => (n.step .dropCommandSenders).map (s.setNested t)
  | .inner t a => (s.nested t).bind fun n => (n.step a).map (s.setNested t)

end SupervisorTree

end TokioSupervisor
