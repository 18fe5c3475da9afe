import TokioSupervisor.Runtime.Removals
import TokioSupervisor.Runtime.Returns
import TokioSupervisor.Otp.Handle

/-!
# The supervisor as its callers see it

Of a supervisor that is running its callers see the ids of the children, the commands that wait in the
channel, the removals that are under way and the answers given (`View`). `ViewStep` lists what one step
can do to them, and `step_view` says that there is nothing else.
-/

namespace TokioSupervisor
open Lib SupervisorRuntime

/-! ### The removals under way -/

/-- The call of `remove_child` that an `await_child_removal` runs for. -/
def Stack.reply : Stack .awaitChildRemoval → Nat
  | .push .removeAwait (.push (.commandReply n) _) => n

/-- The call of `remove_child` that an `abort_and_detach_child` runs for, and the error it has to
return. -/
def Stack.detachment : Stack .abortAndDetachChild → Nat × Option ControlError
  | .push .removeDetach (.push (.commandReply n) _) => (n, none)
  | .push (.removalDetach removalError) k => (k.reply, removalError)

/-- The removals that suspended calls wait for, innermost first. -/
def Stack.waiting : {fn : Fn} → Stack fn → List (Nat × Removal)
  | _, .nil => []
  | _, .push (.removalJoin l) k | _, .push (.removalShutdown l) k => (k.reply, l) :: k.waiting
  | _, .push _ k => k.waiting

/-- A child at `key` is aborted for call `reply`, which then returns `removalError` if there is one. -/
structure Detachment where
  reply : Nat
  key : ChildKey
  removalError : Option ControlError

def Stack.detaching (k : Stack .abortAndDetachChild) (key : ChildKey) : Detachment :=
  ⟨k.detachment.1, key, k.detachment.2⟩

/-- The removals under way: those that wait for their child, one that aborts it, and one whose result
is on its way to the caller. -/
structure Removals where
  waiting : List (Nat × Removal)
  detaching : Option Detachment
  answering : Option (Nat × Except ControlError Unit)

def Ctrl.removals : Ctrl → Removals
  | .await (.removalSelect l) k => ⟨(k.reply, l) :: k.waiting, none, none⟩
  | .await (.detachYield key _) k => ⟨k.waiting, some (k.detaching key), none⟩
  | .await (.readyJoins _) (.push (.detachDrain key _) k) => ⟨k.waiting, some (k.detaching key), none⟩
  | .await _ k => ⟨k.waiting, none, none⟩
  | .ret (.push (.detachDrain key _) k) (.ok ()) => ⟨k.waiting, some (k.detaching key), none⟩
  | .ret (.push (.detachDrain _ _) k) (.error e) =>
    ⟨k.waiting, none, some (k.detachment.1, .error (mapSupervisorErrorToControl e))⟩
  | .ret (.push (.commandReply n) k) v => ⟨k.waiting, none, some (n, v)⟩
  | .ret (.push .removeAwait (.push (.commandReply n) k)) v => ⟨k.waiting, none, some (n, v)⟩
  | .ret (.push .removeDetach (.push (.commandReply n) k)) v =>
    ⟨k.waiting, none, some (n, v.mapError mapSupervisorErrorToControl)⟩
  | .ret (.push (.removalDetach removalError) k) v =>
    ⟨k.waiting, none, some (k.reply,
      (v.mapError mapSupervisorErrorToControl).bind fun _ => removalError.elim (.ok ()) .error)⟩
  | .ret (.push (.removalJoin _) k) (.error e) => ⟨k.waiting, none, some (k.reply, .error e)⟩
  | .ret (.push (.removalShutdown _) k) (.error e) => ⟨k.waiting, none, some (k.reply, .error e)⟩
  | .ret k _ => ⟨k.waiting, none, none⟩
  | _ => ⟨[], none, none⟩

/-- What the callers see of the state. -/
structure Shown where
  child : ChildKey → Option String
  queue : List SupervisorCommand
  answer : Nat → Option (Except ControlError Unit)

def SupervisorRuntime.shown (rt : SupervisorRuntime) : TokioSupervisor.Shown where
  child := rt.childId
  queue := rt.commandRx.queue
  answer := rt.answer

/-- What the callers see. -/
structure View extends Shown where
  removals : Removals

def Config.view (c : Config) : View := ⟨c.rt.shown, c.ctrl.removals⟩

/-! ### Updates of the state -/

namespace SupervisorRuntime
variable {rt : SupervisorRuntime} {key : ChildKey} {e : ChildEntry}

theorem childId_eq (he : rt.children.get key = some e) : rt.childId key = some e.id := by
  rw [childId, he, Option.map_some]

theorem childId_setEntry (he : rt.children.get key = some e) {e' : ChildEntry} (hid : e'.id = e.id) :
    (rt.setEntry key e').childId = rt.childId := by
  funext k
  by_cases hk : k = key
  · subst hk
    rw [childId_eq he, childId_eq (Slab.get_set_self he e'), hid]
  · exact congrArg _ (Slab.get_set_ne he e' hk)

theorem childId_remove (rt : SupervisorRuntime) (key : ChildKey) :
    (fun k => ((rt.children.remove key).get k).map (·.id)) = Function.update rt.childId key none := by
  funext k
  by_cases hk : k = key
  · subst hk
    rw [Slab.get_remove_self, Function.update_self, Option.map_none]
  · rw [Slab.get_remove_ne _ hk, Function.update_of_ne hk, childId]

theorem answer_log (a : Action) (ha : ∀ n, a.answer n = none) : (rt.log a).answer = rt.answer := by
  funext n
  simp only [answer, log, List.findSome?_cons, ha]

theorem shown_log (a : Action) (ha : ∀ n, a.answer n = none) : (rt.log a).shown = rt.shown := by
  simp only [shown, answer_log a ha]
  rfl

@[simp] theorem shown_emitted (owner : Option Nat) (event : SupervisorEvent) :
    (rt.emitted owner event).shown = rt.shown := rfl

theorem shown_setEntry (he : rt.children.get key = some e) (e' : ChildEntry) (hid : e'.id = e.id) :
    (rt.setEntry key e').shown = rt.shown := by
  simp only [shown, childId_setEntry he hid]
  rfl

@[simp] theorem shown_subRunning (n : Nat) : (rt.subRunning n).shown = rt.shown := by
  simp only [shown, Shown.mk.injEq]
  refine ⟨rfl, rfl, funext fun m => ?_⟩
  unfold subRunning answer
  dsimp only
  split <;> rfl

theorem shown_spawned (he : rt.children.get key = some e) : (rt.spawned key e).shown = rt.shown :=
  shown_setEntry he (e.started _ _ _) rfl

theorem shown_restarted (he : rt.children.get key = some e) :
    (rt.restarted key e).shown = rt.shown :=
  shown_spawned he

theorem shown_exited {t : Task} (hc : rt.Current t.info e) (outcome : TaskOutcome) :
    (rt.exited t e outcome).shown = rt.shown := by
  unfold exited recorded
  rw [shown_emitted]
  refine (@shown_setEntry (((rt.consumed t).log _).subRunning _) t.info.key e hc.get
    (e.stopped outcome.status) rfl).trans ?_
  rw [shown_subRunning]
  rfl

@[simp] theorem shown_cancelledChild (e : ChildEntry) : (rt.cancelledChild e).shown = rt.shown := by
  unfold cancelledChild; split <;> rfl

@[simp] theorem shown_abortedChild (e : ChildEntry) : (rt.abortedChild e).shown = rt.shown := by
  unfold abortedChild; split <;> rfl

theorem shown_requested (reply : Nat) (he : rt.children.get key = some e) :
    (rt.requested reply key e).shown = rt.shown := by
  unfold requested
  rw [shown_emitted, shown_log _ fun _ => rfl, shown_subRunning, shown_setEntry he e.requested rfl]

theorem shown_finalized (rt : SupervisorRuntime) (key : ChildKey) (e : ChildEntry) :
    (rt.finalized key e).shown = { rt.shown with child := Function.update rt.shown.child key none } := by
  simp only [shown, Shown.mk.injEq]
  exact ⟨childId_remove rt key, rfl, rfl⟩

theorem shown_added {child : ChildSpec} (hv : rt.children.vacant key = true) :
    (rt.added key child).shown =
      { rt.shown with child := Function.update rt.shown.child key (some child.id) } := by
  rw [added, shown_spawned (inserted_get hv child)]
  simp only [shown, Shown.mk.injEq]
  refine ⟨funext fun k => ?_, rfl, rfl⟩
  by_cases hk : k = key
  · subst hk
    rw [childId_eq (inserted_get hv child), Function.update_self]
    rfl
  · rw [Function.update_of_ne hk]
    exact congrArg _ (Slab.get_insert_ne hv _ hk)

theorem shown_overrun (he : rt.children.get key = some e) : (rt.overrun key e).shown = rt.shown := by
  unfold overrun
  exact shown_setEntry he (e.scheduled _ e.runtime.nextRestartDeadline) (by rfl)

theorem shown_scheduled (he : rt.children.get key = some e) (deadline : Instant) :
    (rt.scheduled key e deadline).shown = rt.shown :=
  shown_setEntry he (e.scheduled _ _) rfl

theorem shown_chain {rt' : SupervisorRuntime}
    (h : Relation.ReflTransGen (fun rt₁ rt₂ => rt₂.shown = rt₁.shown) rt rt') : rt'.shown = rt.shown :=
  rel_of_chain h (fun _ => rfl) fun _ _ _ h h' => h'.trans h

theorem Wf.shown_spawnedAll (h : rt.Wf) : (rt.spawnedAll rt.childOrder).shown = rt.shown :=
  shown_chain (spawnedAll_chain h.nodup fun _ _ _ _ he => shown_spawned he)

theorem Wf.shown_respawnedAll (h : rt.Wf) : (rt.respawnedAll rt.childOrder).shown = rt.shown :=
  shown_chain (respawnedAll_chain h.nodup fun _ _ _ _ he _ => shown_restarted he)

@[simp] theorem shown_abortMatchingChildren (predicate : ChildEntry → Bool) :
    (rt.abortMatchingChildren predicate).shown = rt.shown :=
  abortMatchingChildren_field shown (fun _ e => shown_abortedChild e) predicate

theorem Wf.shown_cancelRunningChildren (h : rt.Wf) : rt.cancelRunningChildren.shown = rt.shown := by
  obtain ⟨children, n, heq, hget, -⟩ := h.cancelRunningChildren
  have hid : ({ rt with children } : SupervisorRuntime).childId = rt.childId := by
    funext k
    simp only [childId, hget, Option.map_map]
    congr 1
    funext e
    simp only [Function.comp_apply, ChildEntry.stopping]
    split <;> rfl
  rw [heq]
  show (({ rt with children } : SupervisorRuntime).subRunning n).shown = _
  rw [shown_subRunning]
  simp only [shown, hid]
  rfl

@[simp] theorem shown_swept : rt.swept.shown = rt.shown := by
  rw [swept, shown_abortMatchingChildren]
  rfl

theorem shown_answered {n : Nat} {result : Except ControlError Unit} {a : Action}
    (ha : ∀ m, a.answer m = if n = m then some result else none) : (rt.log a).shown =
      { rt.shown with answer := Function.update rt.shown.answer n (some result) } := by
  simp only [shown, Shown.mk.injEq]
  refine ⟨rfl, rfl, funext fun m => ?_⟩
  by_cases hm : m = n
  · subst hm
    rw [Function.update_self]
    simp [answer, log, ha]
  · rw [Function.update_of_ne hm]
    simp [answer, log, ha, Ne.symm hm]

theorem shown_replied (n : Nat) (result : Except ControlError Unit) :
    (rt.log (.replied n result)).shown =
      { rt.shown with answer := Function.update rt.shown.answer n (some result) } :=
  shown_answered fun _ => rfl

end SupervisorRuntime

/-! ### Where control shows no removal but the suspended ones -/

/-- The method neither removes a child nor returns to one that does. -/
def Fn.quiet : Fn → Bool
  | .removeChild | .awaitChildRemoval | .handleShutdownDuringControl | .handleJoinDuringControl
  | .abortAndDetachChild | .drainReadyJoins _ => false
  | _ => true

theorem Ctrl.removals_ret {fn : Fn} (hf : fn.quiet = true) (k : Stack fn) (v : fn.Value) :
    (Ctrl.ret k v).removals = ⟨k.waiting, none, none⟩ := by
  cases k with
  | nil => rfl
  | push f k => cases f <;> first | rfl | cases hf

theorem Ctrl.removals_await {fn : Fn} (hf : fn.quiet = true) (p : Await fn) (k : Stack fn) :
    (Ctrl.await p k).removals = ⟨k.waiting, none, none⟩ := by
  cases p <;> first | rfl | cases hf

theorem HandlesCommand.removals {ctrl : Ctrl} {k : Stack .handleCommand} (h : HandlesCommand ctrl k) :
    ctrl.removals = ⟨k.waiting, none, none⟩ := by
  cases h <;> rfl

theorem HandlesJoin.removals {ctrl : Ctrl} {k : Stack .handleJoinedChild} (h : HandlesJoin ctrl k) :
    ctrl.removals = ⟨k.waiting, none, none⟩ := by
  cases h <;> rfl

theorem JoinOutcome.removals {rt rt' : SupervisorRuntime} {t : Task} {outcome : TaskOutcome}
    {k : Stack .handleJoinedChild} {ctrl' : Ctrl} (h : JoinOutcome rt t outcome k rt' ctrl') :
    ctrl'.removals = ⟨k.waiting, none, none⟩ := by
  cases h <;> first | exact Ctrl.removals_ret rfl .. | exact Ctrl.removals_await rfl ..

theorem DrainNext.removals {rt rt' : SupervisorRuntime} {reason : DrainReason}
    {k : Stack (.drainChildren reason)} {ctrl' : Ctrl} (h : DrainNext rt reason k rt' ctrl') :
    ctrl'.removals = ⟨k.waiting, none, none⟩ := by
  cases h <;> first | exact Ctrl.removals_ret rfl .. | rfl

theorem DrainGoesOn.removals {ctrl : Ctrl} {a : Act} {reason : DrainReason}
    {k : Stack (.drainChildren reason)} (h : DrainGoesOn ctrl a reason k) :
    ctrl.removals = ⟨k.waiting, none, none⟩ := by
  cases h <;> rfl

/-! ### Steps -/

/-- The removal that the step gives up with an error. -/
def abandonedRemoval (c : Config) : Act → Option Removal
  | .resume =>
    match c.ctrl with
    | .ret (.push .controlJoin (.push (.removalJoin l) _)) (.error _) => some l
    | _ => none
  | .run .joinNone =>
    match c.ctrl with
    | .await (.removalSelect l) _ => some l
    | _ => none
  | _ => none

/-- The removal whose grace is over in the step. -/
def timedOutRemoval (c : Config) : Act → Option Removal
  | .run .timer =>
    match c.ctrl with
    | .await (.removalSelect l) _ => some l
    | _ => none
  | _ => none

/-- The id of the marked child whose exit the step handles. -/
def departingChild (c : Config) : Act → Option String
  | .run (.join id) =>
    match c.ctrl with
    | .await .runSelect _ | .await (.removalSelect _) _ =>
      (c.rt.joinSet.find id).bind fun t => (c.rt.children.get t.info.key).bind fun e =>
        if e.membership = .removing ∧ e.instanceId = t.info.instanceId ∧
            e.runtime.generation = t.info.generation then some e.id
        else none
    | _ => none
  | _ => none

/-- What one step of a supervisor that keeps running does to what its callers see. -/
inductive ViewStep (c : Config) (a : Act) (v v' : View) : Prop
  | same (hs : v'.toShown = v.toShown) (hr : v'.removals = v.removals)
  /-- `add_child` answers. -/
  | added {child : ChildSpec} {n : Nat} {rest : List SupervisorCommand} {key : ChildKey}
      (hq : v.queue = .addChild child n :: rest) (hv : v.child key = none)
      (hn : ∀ k, v.child k ≠ some child.id)
      (hs : v'.toShown = ⟨Function.update v.child key (some child.id), rest,
        Function.update v.answer n (some (.ok ()))⟩)
      (hr : v'.removals = v.removals)
  | addRefused {child : ChildSpec} {n : Nat} {rest : List SupervisorCommand}
      (hq : v.queue = .addChild child n :: rest) (e : ControlError)
      (hs : v'.toShown = ⟨v.child, rest, Function.update v.answer n (some (.error e))⟩)
      (hr : v'.removals = v.removals)
  /-- `remove_child` refuses, deletes the child at once, aborts it or waits for it. -/
  | removeRefused {id : String} {n : Nat} {rest : List SupervisorCommand} {ws : List (Nat × Removal)}
      (hq : v.queue = .removeChild id n :: rest) (e : ControlError)
      (hs : v'.toShown = ⟨v.child, rest, v.answer⟩) (hr₀ : v.removals = ⟨ws, none, none⟩)
      (hr : v'.removals = ⟨ws, none, some (n, .error e)⟩)
  | removed {id : String} {n : Nat} {rest : List SupervisorCommand} {ws : List (Nat × Removal)}
      {key : ChildKey} (hq : v.queue = .removeChild id n :: rest) (hk : v.child key = some id)
      (hs : v'.toShown = ⟨Function.update v.child key none, rest, v.answer⟩)
      (hr₀ : v.removals = ⟨ws, none, none⟩) (hr : v'.removals = ⟨ws, none, some (n, .ok ())⟩)
  | aborts {id : String} {n : Nat} {rest : List SupervisorCommand} {ws : List (Nat × Removal)}
      {key : ChildKey} (hq : v.queue = .removeChild id n :: rest) (hk : v.child key = some id)
      (hs : v'.toShown = ⟨v.child, rest, v.answer⟩) (hr₀ : v.removals = ⟨ws, none, none⟩)
      (hr : v'.removals = ⟨ws, some ⟨n, key, none⟩, none⟩)
  | waits {n : Nat} {rest : List SupervisorCommand} {ws : List (Nat × Removal)} {l : Removal}
      (hq : v.queue = .removeChild l.childId n :: rest) (hk : v.child l.key = some l.childId)
      (hs : v'.toShown = ⟨v.child, rest, v.answer⟩) (hr₀ : v.removals = ⟨ws, none, none⟩)
      (hr : v'.removals = ⟨(n, l) :: ws, none, none⟩)
  /-- The innermost wait ends: its child is gone, the grace is over, or it is given up. -/
  | gone {n : Nat} {l : Removal} {ws : List (Nat × Removal)} (hs : v'.toShown = v.toShown)
      (hr₀ : v.removals = ⟨(n, l) :: ws, none, none⟩) (hr : v'.removals = ⟨ws, none, some (n, .ok ())⟩)
  | timer {n : Nat} {l : Removal} {ws : List (Nat × Removal)} {id : String}
      (ht : timedOutRemoval c a = some l) (hk : v.child l.key = some id)
      (hs : v'.toShown = v.toShown) (hr₀ : v.removals = ⟨(n, l) :: ws, none, none⟩)
      (hr : v'.removals = ⟨ws, some ⟨n, l.key,
        if l.timeoutIsError then some (.shutdownTimedOut l.childId) else none⟩, none⟩)
  | abandoned {n : Nat} {l : Removal} {ws : List (Nat × Removal)} (ha : abandonedRemoval c a = some l)
      (e : ControlError) (hs : v'.toShown = v.toShown)
      (hr₀ : v.removals = ⟨(n, l) :: ws, none, none⟩)
      (hr : v'.removals = ⟨ws, none, some (n, .error e)⟩)
  /-- The aborted child is deleted. -/
  | detached {d : Detachment} {ws : List (Nat × Removal)}
      (hs : v'.toShown = ⟨Function.update v.child d.key none, v.queue, v.answer⟩)
      (hr₀ : v.removals = ⟨ws, some d, none⟩)
      (hr : v'.removals = ⟨ws, none, some (d.reply, d.removalError.elim (.ok ()) .error)⟩)
  | departed {key : ChildKey} {id : String} (hd : departingChild c a = some id)
      (hk : v.child key = some id)
      (hs : v'.toShown = ⟨Function.update v.child key none, v.queue, v.answer⟩)
      (hr₀ : v.removals.detaching = none) (hr : v'.removals = v.removals)
  /-- `remove_child` answers. -/
  | replied {n : Nat} {result : Except ControlError Unit} {ws : List (Nat × Removal)}
      (hs : v'.toShown = ⟨v.child, v.queue, Function.update v.answer n (some result)⟩)
      (hr₀ : v.removals = ⟨ws, none, some (n, result)⟩) (hr : v'.removals = ⟨ws, none, none⟩)

section
variable {rt rt' : SupervisorRuntime} {ctrl ctrl' : Ctrl} {a : Act}

theorem RemovalHead.view {l : Removal} {k : Stack .awaitChildRemoval} (h : RemovalHead rt l k ctrl')
    (hs : rt'.shown = rt.shown) (hr : ctrl.removals = ⟨(k.reply, l) :: k.waiting, none, none⟩) :
    ViewStep ⟨rt, ctrl⟩ a (Config.view ⟨rt, ctrl⟩) (Config.view ⟨rt', ctrl'⟩) := by
  cases h with
  | gone he =>
    refine .gone hs hr ?_
    cases k with
    | push f k => cases f with
      | removeAwait => cases k with
        | push f k => cases f with
          | commandReply n => rfl
  | wait he => exact .same hs hr.symm

theorem Move.view (h : Move rt ctrl a ctrl') (hs : rt.state = .running)
    (hh : (Config.mk rt ctrl).Halting) (hstep : step ⟨rt, ctrl⟩ a = some ⟨rt, ctrl'⟩) :
    ViewStep ⟨rt, ctrl⟩ a (Config.view ⟨rt, ctrl⟩) (Config.view ⟨rt, ctrl'⟩) := by
  have hn : ¬ ctrl.Halts := fun hn => hh.frames hn hs
  cases h with
  | removeDetachErr e | removeDetachOk | removeAwait v =>
    rename_i k
    cases k with
    | push f k => cases f; exact .same rfl rfl
  | removalShutdownErr e => exact absurd (.inl (.inl rfl)) hn
  | removalShutdownOk hr => exact absurd (.inl (.inl rfl)) hn
  | controlShutdown => exact absurd (.inl (.inl rfl)) hn
  | controlJoinPending hp => exact absurd hs (hh.pending hp)
  | @removalJoinErr l k e | @removalDetachErr error k e =>
    cases k with
    | push f k => cases f with
      | removeAwait => cases k with
        | push f k => cases f; exact .same rfl rfl
  | removalJoinOk hr => exact hr.view rfl rfl
  | removalJoinNone hj e => exact .abandoned rfl e rfl rfl rfl
  | @removalDetachOk error k v =>
    cases k with
    | push f k => cases f with
      | removeAwait => cases k with
        | push f k => cases f with
          | commandReply n =>
            cases error <;> (cases hstep; exact .same rfl rfl)
  | @controlJoinErr k e =>
    cases k with
    | push f k => cases f with
      | removalJoin l => exact .abandoned rfl _ rfl rfl rfl
  | @controlJoinOk k hp =>
    cases k with
    | push f k => cases f; exact .same rfl rfl
  | @detachErr key reason k e =>
    cases k with
    | push f k => cases f with
      | removeDetach => cases k with
        | push f k => cases f; exact .same rfl rfl
      | removalDetach error => exact .same rfl rfl
  | @readyEmpty reason k | @readyTimer reason k =>
    cases k with
    | push f k => cases f <;> exact .same rfl rfl
  | _ => first | exact .same rfl (Ctrl.removals_ret rfl ..) | exact .same rfl rfl

theorem CommandOutcome.view {key : ChildKey} {k : Stack .handleCommand} {cmd : SupervisorCommand}
    {rest : List SupervisorCommand} (h : CommandOutcome (rt.received rest) key k cmd rt' ctrl')
    (hwf : rt.Wf) (hh : HandlesCommand ctrl k) (hv : rt.children.vacant key = true)
    (hq : rt.commandRx.queue = cmd :: rest) :
    ViewStep ⟨rt, ctrl⟩ a (Config.view ⟨rt, ctrl⟩) (Config.view ⟨rt', ctrl'⟩) := by
  have hr₀ : (Config.view ⟨rt, ctrl⟩).removals = ⟨k.waiting, none, none⟩ := hh.removals
  have hk : (Ctrl.ret k ()).removals = (Config.view ⟨rt, ctrl⟩).removals :=
    (Ctrl.removals_ret rfl k ()).trans hr₀.symm
  cases h with
  | addRefused e => exact .addRefused hq e (shown_replied ..) hk
  | @added child n ha =>
    have hnew : ∀ k, rt.childId k ≠ some child.id := by
      intro k hk
      obtain ⟨e, he, hid⟩ := Option.map_eq_some_iff.1 hk
      exact absurd (ha.new.symm.trans ((hwf.byId child.id k).2 ⟨e, he, hid⟩)) nofun
    have hv' : ((rt.received rest).log (.handled n)).children.vacant key = true := hv
    have hnone : rt.childId key = none := by rw [childId, Slab.get_of_vacant hv, Option.map_none]
    refine .added hq hnone hnew ?_ hk
    show (SupervisorRuntime.log _ _).shown = _
    rw [shown_replied, shown_added hv']
    rfl
  | removeRefused hr => exact .removeRefused hq _ rfl hr₀ rfl
  | @removed n target e he hm hs hr =>
    have he' : ((rt.received rest).log (.handled n)).children.get target = some e := he
    refine .removed hq (childId_eq he) ?_ hr₀ rfl
    show (SupervisorRuntime.finalized _ _ _).shown = _
    rw [shown_finalized, shown_requested n he']
    rfl
  | @removeAbort n target e he hm hs hr =>
    have he' : ((rt.received rest).log (.handled n)).children.get target = some e := he
    refine .aborts hq (childId_eq he) ?_ hr₀ rfl
    show (SupervisorRuntime.abortedChild _ _).shown = _
    rw [shown_abortedChild, shown_requested n he']
    rfl
  | @removeWait n target e deadline timeoutIsError he hm hs hr =>
    have he' : ((rt.received rest).log (.handled n)).children.get target = some e := he
    refine .waits (l := ⟨target, deadline, timeoutIsError, e.id, e.instanceId⟩) hq (childId_eq he) ?_
      hr₀ rfl
    show (SupervisorRuntime.cancelledChild _ _).shown = _
    rw [shown_cancelledChild, shown_requested n he']
    rfl

theorem JoinOutcome.view {k : Stack .handleJoinedChild} {t : Task} {outcome : TaskOutcome}
    (h : JoinOutcome rt t outcome k rt' ctrl') (hwf : rt.Wf) (hh : HandlesJoin ctrl k)
    (hf : rt.Finished t outcome) :
    ViewStep ⟨rt, ctrl⟩ (.run (.join t.id)) (Config.view ⟨rt, ctrl⟩) (Config.view ⟨rt', ctrl'⟩) := by
  have hr : (Config.view ⟨rt', ctrl'⟩).removals = (Config.view ⟨rt, ctrl⟩).removals :=
    h.removals.trans hh.removals.symm
  cases h with
  | stale hc => exact .same rfl hr
  | stopping hc hs => exact .same (shown_exited hc outcome) hr
  | @removed e hc hs hm =>
    have hdep : departingChild ⟨rt, ctrl⟩ (.run (.join t.id)) = some e.id := by
      have hfind := (find_iff hwf).2 ⟨hf.mem, rfl⟩
      cases hh <;> simp [departingChild, hfind, hc.get, hm, hc.instanceId, hc.generation]
    have hr₀ : (Config.view ⟨rt, ctrl⟩).removals.detaching = none := by rw [Config.view, hh.removals]
    refine .departed hdep (childId_eq hc.get) ?_ hr₀ hr
    show (SupervisorRuntime.finalized _ _ _).shown = _
    rw [shown_finalized, shown_exited hc]
    rfl
  | settled hc hs hm hrs =>
    refine .same ?_ hr
    exact (shown_setEntry (exited_get hc outcome) _ (by simp)).trans (shown_exited hc outcome)
  | overrunOne hc hs hm hrs hst | overrunAll hc hs hm hrs hst =>
    exact .same ((shown_overrun (exited_get hc outcome)).trans (shown_exited hc outcome)) hr
  | @scheduledOne e deadline delay p hc hs hm hrs hst hp
  | @scheduledAll e deadline delay p hc hs hm hrs hst hp =>
    refine .same ?_ hr
    exact (shown_scheduled (exited_get hc outcome) deadline).trans (shown_exited hc outcome)

theorem DrainedJoin.shown {t : Task} {outcome : TaskOutcome} {reason : DrainReason}
    (h : DrainedJoin rt t outcome reason rt') : rt'.shown = rt.shown := by
  cases h with
  | stale hc => rfl
  | exited hc hr => exact shown_exited hc outcome
  | temporary hc hr ht =>
    exact (shown_setEntry (exited_get hc outcome) _ (by simp)).trans (shown_exited hc outcome)

theorem DrainNext.shown {reason : DrainReason} {k : Stack (.drainChildren reason)}
    (h : DrainNext rt reason k rt' ctrl') : rt'.shown = rt.shown := by
  cases h with
  | abort => exact shown_abortMatchingChildren _
  | _ => rfl

theorem AtLoop.shown (h : AtLoop rt ctrl a rt') : rt'.shown = rt.shown := by
  cases h with
  | nested x he nestedSnapshot => exact @shown_setEntry (rt.withAux x) _ _ he _ rfl
  | _ => rfl

theorem Stack.waiting_run (k : Stack .run) : k.waiting = [] := by
  cases k with
  | nil => rfl
  | push f k => cases f

theorem AtLoop.removals (h : AtLoop rt ctrl a rt') : ctrl.removals = ⟨[], none, none⟩ := by
  have hk (k : Stack .run) : Removals.mk k.waiting none none = ⟨[], none, none⟩ := by
    rw [k.waiting_run]
  cases h <;> exact hk _

theorem envStep_shown (h : envStep rt a = some rt') (ha : ∀ cmd, a ≠ .send cmd) :
    rt'.shown = rt.shown := by
  cases a with
  | tick nanos wallClock =>
    simp only [envStep, Option.ite_none_right_eq_some, Option.some.injEq] at h
    obtain ⟨-, rfl⟩ := h
    rfl
  | requestShutdown =>
    simp only [envStep, Option.ite_none_left_eq_some, Option.some.injEq] at h
    obtain ⟨-, rfl⟩ := h
    rfl
  | send cmd => exact absurd rfl (ha cmd)
  | finish task outcome =>
    obtain ⟨js, -, rfl⟩ := Option.map_eq_some_iff.1 h
    rfl
  | notify n =>
    simp only [envStep, Option.ite_none_right_eq_some, Option.some.injEq] at h
    obtain ⟨-, rfl⟩ := h
    rfl
  | _ => cases h <;> rfl

theorem Stack.removals_detached (k : Stack .abortAndDetachChild) : (Ctrl.ret k (.ok ())).removals =
    ⟨k.waiting, none, some (k.detachment.1, k.detachment.2.elim (.ok ()) .error)⟩ := by
  cases k with
  | push f k => cases f with
    | removeDetach => cases k with
      | push f k => cases f; rfl
    | removalDetach error => rfl

/-- Every step of a supervisor that keeps running is one of the view. -/
theorem Rule.view (h : Rule rt ctrl a rt' ctrl') (hs : (Config.mk rt ctrl).Sane)
    (hh : (Config.mk rt ctrl).Halting) (hstep : step ⟨rt, ctrl⟩ a = some ⟨rt', ctrl'⟩)
    (ha : ∀ cmd, a ≠ .send cmd) (hrun : rt'.state = .running) (hend : ctrl'.ended = false) :
    ViewStep ⟨rt, ctrl⟩ a (Config.view ⟨rt, ctrl⟩) (Config.view ⟨rt', ctrl'⟩) := by
  have hwf := hs.wf
  have hrun₀ : rt.state = .running := by
    by_contra hc
    exact h.state hwf hc hrun
  cases h with
  | env h => exact .same (envStep_shown h ha) rfl
  | move h => exact h.view hrun₀ hh hstep
  | overflow | vacantOne | vacantAll | natural | joinError | shutdownEnd | runEnd => cases hend
  | @start k _ _ hl =>
    cases hl with
    | exit | natural => cases hend
    | wait =>
      have hemitted : (rt.emitted none .supervisorStarted).Wf := hwf
      refine .same (hemitted.shown_spawnedAll.trans (shown_emitted ..)) ?_
      show Removals.mk [] none none = ⟨k.waiting, none, none⟩
      rw [k.waiting_run]
  | loop hc hl =>
    cases hl with
    | exit | natural => cases hend
    | wait => exact .same hc.shown hc.removals.symm
  | shutdown hb hrt hq =>
    rcases hrt with rfl | rfl
    · rw [hwf.halted_state] at hrun
      cases hrun
    · rw [(show rt.seen.Wf from hwf).halted_state] at hrun
      cases hrun
  | @queued k v => exact .same rfl (Ctrl.removals_ret rfl k ())
  | shutdownDrained => cases hrun
  | command hk hv hq ho => exact ho.view hwf hk hv hq
  | @replied k reply v => exact .replied (shown_replied ..) rfl (Ctrl.removals_ret rfl k ())
  | join hk hf ho => exact ho.view hwf hk hf
  | @readyJoin reason k t outcome _ hf hd => exact .same hd.shown rfl
  | drainJoin hf hd hn => exact .same (hn.shown.trans hd.shown) (hn.removals)
  | drainNext hd hn => exact .same hn.shown (hn.removals.trans hd.removals.symm)
  | @respawn key generation k e he hm =>
    exact .same (shown_restarted he) (Ctrl.removals_ret rfl k (.ok ()))
  | groupDrain => exact .same (shown_swept.trans hwf.shown_cancelRunningChildren) rfl
  | @groupRespawn k =>
    have hregrouped : rt.regrouped.Wf := hwf
    exact .same hregrouped.shown_respawnedAll (Ctrl.removals_ret rfl k (.ok ()))
  | @tryRecvClosed key k ho => exact .same rfl (Ctrl.removals_ret rfl k (.ok true))
  | @delayClosedPending deadline key k ho hp => exact .same rfl (Ctrl.removals_ret rfl k (.ok false))
  | delaySeen | delayClosed => exact .same rfl rfl
  | removalSeen hr => exact hr.view rfl rfl
  | @removalTimer l k e error he =>
    refine .timer rfl (childId_eq he) (shown_abortedChild e) rfl ?_
    rw [← (removalTimer_error he hstep).1]
    rfl
  | @detachGone key reason k he =>
    refine .detached (d := k.detaching key) ?_ rfl k.removals_detached
    have hnone : rt.childId key = none := by rw [childId, he, Option.map_none]
    show rt.shown = ⟨Function.update rt.childId key none, _, _⟩
    rw [← hnone, Function.update_eq_self]
    rfl
  | @detach key reason k e he =>
    exact .detached (d := k.detaching key) (shown_finalized rt key e) rfl k.removals_detached

end

theorem step_view {c c' : Config} {a : Act} (hs : c.Sane) (hh : c.Halting) (hstep : step c a = some c')
    (ha : ∀ cmd, a ≠ .send cmd) (hrun : c'.rt.state = .running) (hend : c'.ctrl.ended = false) :
    ViewStep c a c.view c'.view :=
  (step_rule hs hstep).view hs hh hstep ha hrun hend

/-- A command that is sent joins the queue, or is answered at once. -/
theorem step_send {c c' : Config} {cmd : SupervisorCommand} (h : step c (.send cmd) = some c') :
    (c'.rt.state = c.rt.state ∧ c'.ctrl = c.ctrl) ∧
      (c'.rt.shown = { c.rt.shown with queue := c.rt.commandRx.queue ++ [cmd] } ∨
        c'.rt.shown = { c.rt.shown with
          answer := Function.update c.rt.shown.answer cmd.reply (some (.error .unavailable)) }) := by
  obtain ⟨rt', henv, rfl⟩ := Option.map_eq_some_iff.1 h
  simp only [envStep, Option.ite_none_left_eq_some] at henv
  obtain ⟨-, henv⟩ := henv
  split at henv
  · cases henv
    exact ⟨⟨rfl, rfl⟩, .inr (shown_answered fun _ => rfl)⟩
  · simp only [Option.ite_none_right_eq_some, Option.some.injEq] at henv
    obtain ⟨-, rfl⟩ := henv
    exact ⟨⟨rfl, rfl⟩, .inl rfl⟩

end TokioSupervisor
