import TokioSupervisor.Runtime.Preemption
import TokioSupervisor.Runtime.Restarts
import TokioSupervisor.Runtime.Timeouts

/-!
# Pending restarts

`next_restart_in` is there while the entry has a restart deadline. `schedule_restart` sets the deadline,
a spawn and an exit clear it; a restart that is abandoned passes through neither. A shutdown that begins
during a restart delay is published with the deadline (`stale_deadline_reached`), and so are the snapshots
after the drain of a group restart that has failed inside a removal. Where neither happens
(`keepsPending`), a restart is shown only while a suspended call is going to carry it out.
-/

namespace TokioSupervisor
open Lib SupervisorRuntime

/-! ### Restarts on the stack -/

/-- The suspended call will spawn the child at `key`, or its group. -/
def Frame.restarts (key : ChildKey) {callee caller : Fn} : Frame callee caller → Bool
  | .oneForOneDelay k _ => k == key
  | .oneForAllDelay _ | .oneForAllDrain => true
  | _ => false

def Stack.restarts (key : ChildKey) : {fn : Fn} → Stack fn → Bool
  | _, .nil => false
  | _, .push f k => f.restarts key || k.restarts key

/-- The stack below the innermost suspended call. -/
def Stack.restartsBelow (key : ChildKey) : {fn : Fn} → Stack fn → Bool
  | _, .nil => false
  | _, .push _ k => k.restarts key

/-- What is left of the stack once an error has gone up to `handle_join_during_control`; an error that
gets past the main loop ends the run. -/
def Stack.recovers (key : ChildKey) : {fn : Fn} → Stack fn → Bool
  | _, .nil => true
  | _, .push f k => if f.inControl then k.restarts key else k.recovers key

/-- A suspended call is going to restart the child at `key`, or its group. -/
def Ctrl.restarts (key : ChildKey) : Ctrl → Bool
  | .await _ k => k.restarts key
  | @Ctrl.ret fn k v =>
    if (fn.error v).isSome then k.recovers key
    else if fn.goesOn v then k.restarts key else k.restartsBelow key
  | _ => false

/-- The waits that never return an error. -/
def Ctrl.sound : Ctrl → Bool
  | @Ctrl.ret .waitForRestartDelay _ (.error _) | @Ctrl.ret (.drainReadyJoins _) _ (.error _) => false
  | _ => true

/-! ### What is published -/

/-- The restart of the child has a deadline. -/
def ChildEntry.pending (e : ChildEntry) : Bool := e.runtime.nextRestartDeadline.isSome

def SupervisorRuntime.pendingKeys (rt : SupervisorRuntime) : List ChildKey :=
  rt.childOrder.filter fun key => (rt.children.get key).any (·.pending)

/-- The snapshot shows no pending restart. -/
def SupervisorSnapshot.Quiet (s : SupervisorSnapshot) : Prop :=
  ∀ child ∈ s.children, child.nextRestartIn = none

/-- `next_restart_in` is published only while the restart is pending. -/
structure Config.ShowsPending (c : Config) : Prop where
  /-- No snapshot of a supervisor that is stopping or stopped shows a pending restart. -/
  halted : ∀ s ∈ c.rt.snapshots, s.state ≠ .running → s.Quiet
  /-- Nor does the published one when the main loop waits. -/
  select : c.ctrl.atSelect = true → ∀ s ∈ c.rt.snapshots.head?, s.Quiet
  /-- In every wait, a child shown so is stopped, and a suspended call is going to restart it. -/
  waiting : ∀ {fn : Fn} (p : Await fn) (k : Stack fn), c.ctrl = .await p k →
    ∀ s ∈ c.rt.snapshots.head?, ∀ child ∈ s.children, child.nextRestartIn ≠ none →
      ∃ key e, c.rt.children.get key = some e ∧ e.id = child.id ∧ e.runtime.state = .stopped ∧
        k.restarts key = true

/-- The step begins a shutdown. -/
def Config.beginsShutdown (c : Config) (a : Act) : Bool :=
  match c.ctrl, a with
  | .await .runSelect _, .run .shutdown | .await (.removalSelect _) _, .run .shutdown
  | .await (.delaySelect _) _, .run .shutdown => c.rt.shutdownRx.value || c.rt.shutdownRx.closed
  | .await .delayCheck _, .run .go | .await .delayYield _, .run .go => c.rt.shutdownRx.value
  | _, _ => false

/-- The stack on which the drain of a group restart fails. -/
def Config.failsDrain (c : Config) (a : Act) : Option (Stack (.drainChildren .groupRestart)) :=
  match c.ctrl, a with
  | .ret (.push (.drainSecond .groupRestart timedOut) k) (.ok ()), .resume =>
    if timedOut.isEmpty && c.rt.activeTaskNames.isEmpty then none else some k
  | _, _ => none

/-- No shutdown begins while a restart is pending, and where the drain of a group restart fails, the
pending restarts are still those of calls that the error does not reach, or the error ends the run. -/
def keepsPending (c : Config) (a : Act) : Bool :=
  (!c.beginsShutdown a || c.rt.pendingKeys.isEmpty) &&
    (c.failsDrain a).all fun k => c.rt.pendingKeys.all k.recovers

section
variable {rt rt' : SupervisorRuntime} {ctrl ctrl' : Ctrl} {a : Act} {key : ChildKey} {e : ChildEntry}

@[simp] theorem Stack.restarts_push {callee caller : Fn} {f : Frame callee caller} {k : Stack caller} :
    (Stack.push f k).restarts key = (f.restarts key || k.restarts key) := rfl

@[simp] theorem Stack.restartsBelow_push {callee caller : Fn} {f : Frame callee caller}
    {k : Stack caller} : (Stack.push f k).restartsBelow key = k.restarts key := rfl

@[simp] theorem Stack.recovers_push {callee caller : Fn} {f : Frame callee caller} {k : Stack caller} :
    (Stack.push f k).recovers key = if f.inControl then k.restarts key else k.recovers key := rfl

@[simp] theorem Ctrl.restarts_await {fn : Fn} {p : Await fn} {k : Stack fn} :
    (Ctrl.await p k).restarts key = k.restarts key := rfl

@[simp] theorem Ctrl.restarts_ret {fn : Fn} {k : Stack fn} {v : fn.Value} :
    (Ctrl.ret k v).restarts key = if (fn.error v).isSome then k.recovers key
      else if fn.goesOn v then k.restarts key else k.restartsBelow key := rfl

theorem Stack.restarts_run (k : Stack .run) : k.restarts key = false := by
  cases k with
  | nil => rfl
  | push f k => cases f

/-! ### Steps of control -/

theorem RemovalHead.sound {l : Removal} {k : Stack .awaitChildRemoval} (h : RemovalHead rt l k ctrl) :
    ctrl.sound = true := by
  cases h <;> rfl

theorem DrainNext.sound {reason : DrainReason} {k : Stack (.drainChildren reason)}
    (h : DrainNext rt reason k rt' ctrl) : ctrl.sound = true := by
  cases h <;> rfl

theorem Rule.sound (h : Rule rt ctrl a rt' ctrl') (hs : ctrl.sound = true) : ctrl'.sound = true := by
  cases h with
  | env => exact hs
  | move h =>
    cases h with
    | removalShutdownOk hr | removalJoinOk hr => exact hr.sound
    | _ => rfl
  | start hl | loop _ hl => cases hl <;> rfl
  | command _ _ _ ho => cases ho <;> rfl
  | join _ _ ho => cases ho <;> rfl
  | drainJoin _ _ hn | drainNext _ hn => exact hn.sound
  | removalSeen hr => exact hr.sound
  | _ => rfl

theorem failsDrain_eq {timedOut : String} {k : Stack (.drainChildren .groupRestart)}
    (hf : timedOut.isEmpty = false ∨ rt.activeTaskNames.isEmpty = false) :
    Config.failsDrain ⟨rt, .ret (.push (.drainSecond .groupRestart timedOut) k) (.ok ())⟩ .resume =
      some k := by
  show (if timedOut.isEmpty && rt.activeTaskNames.isEmpty then none else some k) = some k
  rcases hf with hf | hf <;> simp [hf]

/-- Of the moves of a running supervisor, only the failure of a group drain can give up a restart. -/
theorem Move.restarts (h : Move rt ctrl a ctrl') (he : rt.children.get key = some e)
    (hr : e.respawns = true) (hs : rt.state = .running) (hh : (Config.mk rt ctrl).Halting)
    (hsound : ctrl.sound = true)
    (hok : ∀ k, (Config.mk rt ctrl).failsDrain a = some k → k.recovers key = true)
    (hc : ctrl.restarts key = true) : ctrl'.restarts key = true := by
  have hp : rt.pendingExit.isSome = false := by
    rw [← Bool.not_eq_true]
    exact fun hp => hh.pending hp hs
  have hn : ¬ ctrl.Halts := fun hn => hh.frames hn hs
  cases h with
  | removalShutdownOk hr => exact absurd (.inl (.inl rfl)) hn
  | removalJoinOk hr => cases hr <;> simpa [Frame.restarts, Fn.error, Fn.goesOn] using hc
  | drainFirstErr e | drainSecondErr e | detachErr e | oneDelayErr e | allDelayErr e => cases hsound
  | @drainFailed reason timedOut k hf e =>
    cases reason with
    | shutdown =>
      cases k with
      | push f k => cases f with
        | shutdownDrain => exact absurd (.inl (.inr (.inl rfl))) hn
    | groupRestart =>
      have hk := hok k (failsDrain_eq (hf.imp_right And.right))
      simpa [Fn.error] using hk
  | @groupDrain k v => cases v <;> simpa [Frame.restarts, Frame.inControl, Fn.error, Fn.goesOn] using hc
  | joinedOneForOne v | joinedOneForAll v =>
    cases v <;> simpa [Frame.restarts, Frame.inControl, Fn.error, Fn.goesOn] using hc
  | @controlJoinErr k e =>
    cases k with
    | push f k => cases f with
      | removalJoin l => simpa [Frame.restarts, Frame.inControl, Fn.error, Fn.goesOn] using hc
  | @oneDelayInactive k₁ g k e₁ he₁ hm =>
    have hne : k₁ ≠ key := by
      rintro rfl
      cases he.symm.trans he₁
      exact hm (ChildEntry.active_of_respawns hr)
    simpa [Frame.restarts, Fn.error, Fn.goesOn, hne] using hc
  | _ => simp_all [Frame.restarts, Frame.inControl, Fn.error, Fn.goesOn, Frame.halts, Fn.givesUp]

theorem DrainNext.restarts {reason : DrainReason} {k : Stack (.drainChildren reason)}
    (h : DrainNext rt reason k rt' ctrl) : ctrl.restarts key = k.restarts key := by
  cases h with
  | done => cases reason <;> rfl
  | _ => rfl

theorem CommandOutcome.restarts {k₁ : ChildKey} {k : Stack .handleCommand} {cmd : SupervisorCommand}
    (h : CommandOutcome rt k₁ k cmd rt' ctrl) : ctrl.restarts key = k.restarts key := by
  cases h <;> simp [Frame.restarts, Fn.error, Fn.goesOn]

theorem JoinOutcome.restarts {t : Task} {outcome : TaskOutcome} {k : Stack .handleJoinedChild}
    (h : JoinOutcome rt t outcome k rt' ctrl) (hk : k.restarts key = true) (hr : k.recovers key = true) :
    ctrl.restarts key = true := by
  cases h <;> simp [Frame.restarts, Frame.inControl, Fn.error, Fn.goesOn, hk, hr]

/-- A restart that was on the stack before a step, in the configuration after it. -/
inductive RestartKept (key : ChildKey) (c : Config) : Prop
  | restarts (h : c.ctrl.restarts key = true)
  | done (h : ∀ e, c.rt.children.get key = some e → e.runtime.state = .running)
  | halted (h : c.rt.state ≠ .running)
  | ended (h : c.ctrl.ended = true)

theorem Rule.restarts (h : Rule rt ctrl a rt' ctrl') (hwf : rt.Wf) (he : rt.children.get key = some e)
    (hr : e.respawns = true) (hs : rt.state = .running) (hh : (Config.mk rt ctrl).Halting)
    (hsound : ctrl.sound = true)
    (hok : ∀ k, (Config.mk rt ctrl).failsDrain a = some k → k.recovers key = true)
    (hc : ctrl.restarts key = true) : RestartKept key ⟨rt', ctrl'⟩ := by
  have hp : rt.pendingExit.isSome = false := by
    rw [← Bool.not_eq_true]
    exact fun hp => hh.pending hp hs
  have hn : ¬ ctrl.Halts := fun hn => hh.frames hn hs
  cases h with
  | env => exact .restarts hc
  | move h => exact .restarts (h.restarts he hr hs hh hsound hok hc)
  | start hl => simp [Stack.restarts_run] at hc
  | loop hl _ => cases hl <;> simp [Stack.restarts_run, Frame.restarts, Fn.error, Fn.goesOn] at hc
  | natural | joinError | shutdownEnd | runEnd | overflow | vacantOne | vacantAll => exact .ended rfl
  | shutdown hb hrt hq =>
    have hwf₁ : ∀ rt₁ : SupervisorRuntime, rt₁ = rt ∨ rt₁ = rt.seen → rt₁.Wf := by
      rintro rt₁ (rfl | rfl) <;> exact hwf
    exact .halted (by rw [(hwf₁ _ hrt).halted_state]; simp)
  | command hk _ _ ho =>
    refine .restarts (ho.restarts.trans ?_)
    cases hk <;> simpa [Frame.restarts] using hc
  | join hk _ ho =>
    cases hk with
    | run => simp [Stack.restarts_run] at hc
    | removal =>
      refine .restarts (ho.restarts ?_ ?_)
      · simpa [Frame.restarts] using hc
      · simpa [Frame.restarts, Frame.inControl] using hc
  | drainJoin _ _ hd => exact .restarts (hd.restarts.trans hc)
  | drainNext hd hnext =>
    refine .restarts (hnext.restarts.trans ?_)
    cases hd <;> simpa [Frame.restarts, Fn.error, Fn.goesOn] using hc
  | @respawn k₁ g k e₁ he₁ hm =>
    by_cases hk : key = k₁
    · subst hk
      refine .done fun e' he' => ?_
      have hget : (rt.restarted key e₁).children.get key = _ := spawned_get he₁
      rw [hget] at he'
      cases he'
      rfl
    · refine .restarts ?_
      simpa [Frame.restarts, Fn.error, Fn.goesOn, Ne.symm hk] using hc
  | groupRespawn =>
    exact .done fun e' he' => (@respawnedAll_running key e rt.regrouped _ hwf.nodup
      ((hwf.order key).2 ⟨e, he⟩) he hr _ he').1
  | delayClosedPending _ hp' =>
    rw [hp] at hp'
    cases hp'
  | removalSeen hr => cases hr <;> exact .restarts (by simpa [Fn.error, Fn.goesOn] using hc)
  | _ => exact .restarts (by simp_all [Frame.restarts, Fn.error, Fn.goesOn, Frame.halts])

end

/-! ### Updates -/

theorem ChildEntry.view_pending (e : ChildEntry) (now : Instant) :
    (e.view now).nextRestartIn = none ↔ e.pending = false := by
  simp [ChildEntry.view, ChildEntry.pending]

namespace SupervisorRuntime
variable {rt rt' : SupervisorRuntime} {key : ChildKey} {e e' : ChildEntry} {Q : ChildKey → Prop}

/-- A restart is pending at the keys in `Q` only, of a stopped child that a running supervisor is going
to respawn, and the snapshots show so. -/
structure Pends (Q : ChildKey → Prop) (rt : SupervisorRuntime) : Prop where
  entry : ∀ key e, rt.children.get key = some e → e.pending = true →
    Q key ∧ e.runtime.state = .stopped ∧ e.respawns = true ∧ rt.state = .running
  halted : ∀ s ∈ rt.snapshots, s.state ≠ .running → s.Quiet
  shown : ∀ s ∈ rt.snapshots.head?, ∀ child ∈ s.children, child.nextRestartIn ≠ none →
    ∃ key e, rt.children.get key = some e ∧ e.id = child.id ∧ e.pending = true

namespace Pends

theorem publish {old : List SupervisorSnapshot} (h : ∀ s ∈ old, s.state ≠ .running → s.Quiet)
    (hentry : ∀ key e, rt.children.get key = some e → e.pending = true →
      Q key ∧ e.runtime.state = .stopped ∧ e.respawns = true ∧ rt.state = .running)
    (hs : rt.snapshots = rt.view :: old) : rt.Pends Q := by
  have hquiet : rt.view.state ≠ .running → rt.view.Quiet := by
    intro hst child hchild
    obtain ⟨key, e, he, rfl⟩ := mem_view hchild
    rw [ChildEntry.view_pending, ← Bool.not_eq_true]
    intro hp
    have hrun : rt.state = .running := (hentry key e he hp).2.2.2
    exact hst (by simp [view, hrun, SupervisorState.view])
  refine ⟨hentry, fun s hm hst => ?_, fun s hm child hchild hp => ?_⟩
  · rw [hs] at hm
    rcases List.mem_cons.1 hm with rfl | hm
    · exact hquiet hst
    · exact h s hm hst
  · rw [hs] at hm
    obtain rfl : rt.view = s := by simpa using hm
    obtain ⟨key, e, he, rfl⟩ := mem_view hchild
    rw [Ne, ChildEntry.view_pending, Bool.not_eq_false] at hp
    exact ⟨key, e, he, rfl, hp⟩

theorem hold (h : rt.Pends Q) (hs : rt'.snapshots = rt.snapshots)
    (hentry : ∀ key e, rt'.children.get key = some e → e.pending = true →
      Q key ∧ e.runtime.state = .stopped ∧ e.respawns = true ∧ rt'.state = .running)
    (hkeep : ∀ key e, rt.children.get key = some e → e.pending = true →
      ∃ e', rt'.children.get key = some e' ∧ e'.id = e.id ∧ e'.pending = true) : rt'.Pends Q := by
  refine ⟨hentry, by rw [hs]; exact h.halted, fun s hm child hchild hp => ?_⟩
  rw [hs] at hm
  obtain ⟨key, e, he, hid, hpend⟩ := h.shown s hm child hchild hp
  obtain ⟨e', he', hid', hpend'⟩ := hkeep key e he hpend
  exact ⟨key, e', he', hid'.trans hid, hpend'⟩

theorem same (h : rt.Pends Q) (hst : rt'.state = rt.state) (hc : rt'.children = rt.children)
    (hs : rt'.snapshots = rt.snapshots ∨ rt'.snapshots = rt'.view :: rt.snapshots) : rt'.Pends Q := by
  have hentry : ∀ key e, rt'.children.get key = some e → e.pending = true →
      Q key ∧ e.runtime.state = .stopped ∧ e.respawns = true ∧ rt'.state = .running := by
    rw [hc, hst]
    exact h.entry
  rcases hs with hs | hs
  · exact h.hold hs hentry fun key e he hp => ⟨e, hc ▸ he, rfl, hp⟩
  · exact publish h.halted hentry hs

theorem setEntry (h : rt.Pends Q) (he : rt.children.get key = some e) (hp : e'.pending = false)
    (hg : rt'.children = rt.children.set key e') (hst : rt'.state = rt.state)
    (hs : rt'.snapshots = rt'.view :: rt.snapshots) : rt'.Pends Q := by
  refine publish h.halted (fun k f hf hpf => ?_) hs
  rw [hg, Slab.get_set he] at hf
  split at hf
  · cases hf
    rw [hp] at hpf
    cases hpf
  · rw [hst]
    exact h.entry k f hf hpf

theorem finalized (h : rt.Pends Q) (key : ChildKey) (e : ChildEntry) : (rt.finalized key e).Pends Q := by
  refine publish h.halted (fun k f hf hpf => ?_) rfl
  have hf : (rt.children.remove key).get k = some f := hf
  rw [Slab.get_remove] at hf
  split at hf
  · cases hf
  · exact h.entry k f hf hpf

theorem spawned (h : rt.Pends Q) (he : rt.children.get key = some e) : (rt.spawned key e).Pends Q :=
  h.setEntry he rfl rfl rfl rfl

theorem added (h : rt.Pends Q) (hv : rt.children.vacant key = true) (child : ChildSpec) :
    (rt.added key child).Pends Q := by
  have hins : (rt.inserted key child).Pends Q := by
    refine h.hold rfl (fun k f hf hpf => ?_) fun k f hf hpf => ?_
    · have hf : (rt.children.insert key (rt.newEntry child)).get k = some f := hf
      rw [Slab.get_insert hv] at hf
      split at hf
      · cases hf
        cases hpf
      · exact h.entry k f hf hpf
    · have hne : k ≠ key := by
        rintro rfl
        rw [Slab.get_of_vacant hv] at hf
        cases hf
      exact ⟨f, (Slab.get_insert_ne hv _ hne).trans hf, rfl, hpf⟩
  exact hins.spawned (inserted_get hv child)

theorem replace (h : rt.Pends Q) (he : rt.children.get key = some e) (hid : e'.id = e.id)
    (hr : e'.runtime = e.runtime) (hm : e'.membership = e.membership) : (rt.setEntry key e').Pends Q := by
  have hpend : e'.pending = e.pending := by rw [ChildEntry.pending, hr, ChildEntry.pending]
  have hresp : e'.respawns = e.respawns := by rw [ChildEntry.respawns, hr, hm, ChildEntry.respawns]
  refine h.hold rfl (fun k f hf hpf => ?_) fun k f hf hpf => ?_
  · have hf : (rt.children.set key e').get k = some f := hf
    rw [Slab.get_set he] at hf
    split at hf
    · rename_i hk
      cases hf
      rw [hr, hresp, ← hk]
      exact h.entry key e he (hpend ▸ hpf)
    · exact h.entry k f hf hpf
  · by_cases hk : key = k
    · subst hk
      cases he.symm.trans hf
      exact ⟨e', Slab.get_set_self he _, hid, hpend.trans hpf⟩
    · exact ⟨f, (Slab.get_set_ne he _ (Ne.symm hk)).trans hf, rfl, hpf⟩

theorem removed (h : rt.Pends Q) (reply : Nat) (he : rt.children.get key = some e) :
    ((rt.requested reply key e).finalized key e.requested).Pends Q := by
  have hset (k : ChildKey) (f : ChildEntry) (hf : (rt.children.set key e.requested).get k = some f)
      (hpf : f.pending = true) : rt.state = .running := by
    rw [Slab.get_set he] at hf
    split at hf
    · cases hf
      exact (h.entry key e he hpf).2.2.2
    · exact (h.entry k f hf hpf).2.2.2
  have hold : ∀ s ∈ (rt.requested reply key e).snapshots, s.state ≠ .running → s.Quiet := by
    intro s hs hst child hchild
    rcases List.mem_cons.1 hs with rfl | hs
    · obtain ⟨k, f, hf, rfl⟩ := mem_view hchild
      rw [ChildEntry.view_pending, ← Bool.not_eq_true]
      intro hpf
      exact hst (congrArg SupervisorState.view (hset k f hf hpf))
    · exact h.halted s hs hst child hchild
  refine publish hold (fun k f hf hpf => ?_) rfl
  have hf : ((rt.children.set key e.requested).remove key).get k = some f := hf
  rw [Slab.get_remove] at hf
  split at hf
  · cases hf
  · rename_i hk
    rw [Slab.get_set_ne he _ (Ne.symm hk)] at hf
    exact h.entry k f hf hpf

theorem scheduled {c c' : Config} (h : rt.Pends Q) (he : rt.children.get key = some e) (hs : e.Same e')
    (hr : Schedules c c' rt key e e')
    (hnew : c'.ctrl.Delays key → Q key ∧ c.rt.state = .running) : (rt.setEntry key e').Pends Q := by
  refine h.hold rfl (fun k f hf hpf => ?_) fun k f hf hpf => ?_
  · have hf : (rt.children.set key e').get k = some f := hf
    rw [Slab.get_set he] at hf
    split at hf
    · rename_i hk
      cases hf
      rcases hr.delays with hnone | hd
      · rw [ChildEntry.pending, hnone] at hpf
        cases hpf
      · obtain ⟨hq, hrun⟩ := hnew hd
        exact ⟨hk ▸ hq, hs.state.trans hr.stopped, hs.respawns.trans hr.respawns, hr.state.trans hrun⟩
    · exact h.entry k f hf hpf
  · have hne : key ≠ k := by
      rintro rfl
      cases he.symm.trans hf
      rw [ChildEntry.pending, hr.deadline] at hpf
      cases hpf
    exact ⟨f, (Slab.get_set_ne he _ (Ne.symm hne)).trans hf, rfl, hpf⟩

/-- A child whose restart is pending is not running, so it is not cancelled. -/
theorem cancelRunningChildren (h : rt.Pends Q) (hwf : rt.Wf) : rt.cancelRunningChildren.Pends Q := by
  obtain ⟨C, n, heq, hget, -⟩ := hwf.cancelRunningChildren
  have hstopping {e : ChildEntry} (hs : e.runtime.state = .stopped) : e.stopping = e := by
    simp [ChildEntry.stopping, ChildEntry.counts, countsAsRunning, hs]
  have hpend (e : ChildEntry) : e.stopping.pending = e.pending := by
    unfold ChildEntry.stopping
    split <;> rfl
  rw [heq]
  refine h.hold rfl (fun k f hf hpf => ?_) fun k f hf hpf => ?_
  · have hf : C.get k = some f := hf
    rw [hget, Option.map_eq_some_iff] at hf
    obtain ⟨e, he, rfl⟩ := hf
    have hentry := h.entry k e he (hpend e ▸ hpf)
    rwa [hstopping hentry.2.1]
  · refine ⟨f, ?_, rfl, hpf⟩
    show C.get k = some f
    rw [hget, hf, Option.map_some, hstopping (h.entry k f hf hpf).2.1]

end Pends
end SupervisorRuntime

theorem Update.pends {c c' : Config} {a : Act} {rt rt' : SupervisorRuntime} {Q : ChildKey → Prop}
    (h : Update c a c' rt rt') (hwf : rt.Wf)
    (hnew : ∀ key, c'.ctrl.Delays key → (∃ k, HandlesJoin c.ctrl k) → Q key ∧ c.rt.state = .running)
    (hhalt : HaltCause c a c' → ∀ key, ¬ Q key) (hI : rt.Pends Q) : rt'.Pends Q := by
  cases h with
  | aux x hx hp => exact hI.same rfl rfl hp
  | @entry key e e' he hs hn hr =>
    rcases hr with hr | hr
    · exact hI.replace he hs.id hr hs.membership
    · exact hI.scheduled he hs hr fun hd => hnew key hd hr.handles
  | terminated g he hl hs => exact hI.replace he (by simp) (by simp) (by simp)
  | exceeded => exact hI.same rfl rfl (.inr rfl)
  | @requested key e reply he hm hs =>
    have hnone : e.requested.pending = false := by
      rw [← Bool.not_eq_true]
      exact fun hp => hs (hI.entry key e he hp).2.1
    exact hI.setEntry he hnone rfl rfl rfl
  | removed reply he => exact hI.removed reply he
  | @cancelled key e he hm =>
    unfold cancelledChild
    split
    · exact hI
    · exact hI.same rfl rfl (.inl rfl)
  | @aborted key e he hc =>
    unfold abortedChild
    split
    · exact hI
    · exact hI.same rfl rfl (.inl rfl)
  | @exited t e outcome hrt ha hf hc => exact hI.setEntry hc.get rfl rfl rfl rfl
  | finalized he | detached he => exact hI.finalized _ _
  | started he => exact hI.spawned he
  | added hv => exact hI.added hv _
  | respawned he | groupRespawned he => exact (hI.spawned he).same rfl rfl (.inl rfl)
  | cancelledAll hd => exact hI.cancelRunningChildren hwf
  | halt state lastExit hs hc =>
    refine hI.hold rfl (fun key e he hp => ?_) fun key e he hp => ⟨e, he, rfl, hp⟩
    exact absurd (hI.entry key e he hp).1 (hhalt hc key)
  | _ => exact hI.same rfl rfl (.inl rfl)

/-! ### Runs -/

/-- Every restart that is pending is going to be carried out, or the run is over. -/
structure Config.Pending (c : Config) : Prop where
  pends : c.rt.Pends fun key => c.ctrl.restarts key = true ∨ c.ctrl.ended = true
  sound : c.ctrl.sound = true

section
variable {c c' : Config} {a : Act} {key : ChildKey} {e : ChildEntry}

theorem mem_pendingKeys (hwf : c.rt.Wf) (he : c.rt.children.get key = some e) (hp : e.pending = true) :
    key ∈ c.rt.pendingKeys :=
  List.mem_filter.2 ⟨(hwf.order key).2 ⟨e, he⟩, by rw [he]; exact hp⟩

theorem beginsShutdown_of_step {k : Stack .shutdownAll} {maxGrace : Option Duration}
    (hb : BeginsShutdown c.ctrl a k)
    (hq : c.rt.shutdownRx.value = true ∨ c.rt.shutdownRx.closed = true)
    (hc : c'.ctrl = .await (.drainYield .shutdown maxGrace) (.push .shutdownDrain k))
    (hstep : step c a = some c') : c.beginsShutdown a = true := by
  obtain ⟨rt, ctrl⟩ := c
  cases hb with
  | run | removal | delay => exact Bool.or_eq_true_iff.2 hq
  | check =>
    cases hv : rt.shutdownRx.value with
    | true => exact hv
    | false =>
      simp only [step, wake, hv] at hstep
      cases hstep
      cases hc
  | yield =>
    cases hv : rt.shutdownRx.value with
    | true => exact hv
    | false =>
      simp only [step, wake, hv, Bool.false_eq_true, if_false, delayZeroLoop] at hstep
      cases ho : rt.commandsOpen <;> simp only [ho, if_true, Bool.false_eq_true, if_false] at hstep <;>
        cases hstep <;> cases hc

theorem HandlesJoin.running {k : Stack .handleJoinedChild} (h : HandlesJoin c.ctrl k) (hend : c.Ending)
    (hheard : c.Heard) : c.rt.state = .running := by
  by_contra hs
  obtain ⟨rt, ctrl⟩ := c
  rcases hend.begun hs with hc | hp | hc
  · cases h <;> cases hc
  · have hu := hheard.unwinds hp
    cases h <;> cases hu
  · cases h with
    | run => rw [Ctrl.shutsDown_await, Stack.shutsDown_run] at hc; cases hc
    | removal => rw [Ctrl.shutsDown_await, Stack.shutsDown_of_settled _ rfl] at hc; cases hc

theorem Ctrl.Delays.restarts {ctrl : Ctrl} (h : ctrl.Delays key) : ctrl.restarts key = true := by
  cases h <;> simp [Frame.restarts]

theorem Ctrl.AtHead.restarts {ctrl : Ctrl} (h : ctrl.AtHead) : ctrl.restarts key = false := by
  cases h <;> simp [Stack.restarts_run, Frame.restarts, Fn.error, Fn.goesOn]

theorem Ctrl.Delays.ended {ctrl : Ctrl} (h : ctrl.Delays key) : ctrl.ended = false := by
  cases h <;> rfl

theorem Ctrl.AtHead.ended {ctrl : Ctrl} (h : ctrl.AtHead) : ctrl.ended = false := by
  cases h <;> rfl

theorem Config.Pending.step (h : c.Pending) (hs : c.Sane) (hh : c.Halting) (hend : c.Ending)
    (hheard : c.Heard) (hok : keepsPending c a = true) (hstep : TokioSupervisor.step c a = some c') :
    c'.Pending := by
  have hrule := step_rule hs hstep
  have hu := hrule.updates hs.wf
  simp only [keepsPending, Bool.and_eq_true, Bool.or_eq_true, Bool.not_eq_true'] at hok
  obtain ⟨hshut, hdrain⟩ := hok
  let Q (key : ChildKey) : Prop := (∃ e, c.rt.children.get key = some e ∧ e.pending = true) ∨
    c'.ctrl.Delays key ∧ ∃ k, HandlesJoin c.ctrl k
  have hhalt (hcause : HaltCause c a c') (key : ChildKey) : ¬ Q key := by
    rintro (⟨e, he, hp⟩ | ⟨hd, k, hk⟩)
    · cases hcause with
      | ended _ hl =>
        rcases (h.pends.entry key e he hp).1 with hc | hc
        · rw [hl.restarts] at hc; cases hc
        · rw [hl.ended] at hc; cases hc
      | begins hb hq hc =>
        have hbegins := beginsShutdown_of_step hb hq hc hstep
        have hempty : c.rt.pendingKeys = [] := by simpa [hbegins] using hshut
        have hmem := mem_pendingKeys hs.wf he hp
        rw [hempty] at hmem
        cases hmem
      | drained hc =>
        exact hh.frames (by rw [hc]; exact .inl (.inl rfl)) (h.pends.entry key e he hp).2.2.2
    · cases hcause with
      | ended hc _ => rw [hd.ended] at hc; cases hc
      | begins _ _ hc => rw [hc] at hd; cases hd
      | drained hc => rw [hc] at hk; cases hk
  have hnew (key : ChildKey) (hd : c'.ctrl.Delays key) (hj : ∃ k, HandlesJoin c.ctrl k) :
      Q key ∧ c.rt.state = .running := by
    obtain ⟨k, hk⟩ := hj
    exact ⟨.inr ⟨hd, k, hk⟩, hk.running hend hheard⟩
  have hstart : c.rt.Pends Q :=
    ⟨fun key e he hp => ⟨.inl ⟨e, he, hp⟩, (h.pends.entry key e he hp).2⟩, h.pends.halted, h.pends.shown⟩
  have hpends := (hu.invariant hs.wf hstart fun rt rt' hwf hI hup => hup.pends hwf hnew hhalt hI).2
  refine ⟨⟨fun key e' he' hp' => ?_, hpends.halted, hpends.shown⟩, hrule.sound h.sound⟩
  obtain ⟨hq, hstop, hresp, hrun⟩ := hpends.entry key e' he' hp'
  refine ⟨?_, hstop, hresp, hrun⟩
  rcases hq with ⟨e, he, hp⟩ | ⟨hd, -⟩
  · obtain ⟨hc, -, hresp₀, hrun₀⟩ := h.pends.entry key e he hp
    rcases hc with hc | hc
    · have hrecovers (k : Stack (.drainChildren .groupRestart)) (hk : c.failsDrain a = some k) :
          k.recovers key = true := by
        rw [hk] at hdrain
        exact List.all_eq_true.1 hdrain key (mem_pendingKeys hs.wf he hp)
      cases hrule.restarts hs.wf he hresp₀ hrun₀ hh h.sound hrecovers hc with
      | restarts h => exact .inl h
      | done h => exact absurd (hstop.symm.trans (h e' he')) nofun
      | halted h => exact absurd hrun h
      | ended h => exact .inr h
    · exact .inr (by rw [(ended_step hc hstep).1]; exact hc)
  · exact .inl hd.restarts

theorem Config.Pending.showsPending (h : c.Pending) : c.ShowsPending := by
  obtain ⟨rt, ctrl⟩ := c
  have hwaiting {fn : Fn} (p : Await fn) (k : Stack fn) (hc : ctrl = .await p k) (s : SupervisorSnapshot)
      (hs : s ∈ rt.snapshots.head?) (child : ChildSnapshot) (hchild : child ∈ s.children)
      (hp : child.nextRestartIn ≠ none) : ∃ key e, rt.children.get key = some e ∧ e.id = child.id ∧
        e.runtime.state = .stopped ∧ k.restarts key = true := by
    subst hc
    obtain ⟨key, e, he, hid, hpend⟩ := h.pends.shown s hs child hchild hp
    obtain ⟨hc, hstop, -⟩ := h.pends.entry key e he hpend
    exact ⟨key, e, he, hid, hstop, hc.resolve_right nofun⟩
  refine ⟨h.pends.halted, fun hc s hs child hchild => ?_, hwaiting⟩
  unfold Ctrl.atSelect at hc
  split at hc
  · rename_i k hctrl
    by_contra hp
    obtain ⟨key, e, -, -, -, hk⟩ := hwaiting _ k hctrl s hs child hchild hp
    rw [Stack.restarts_run] at hk
    cases hk
  · cases hc

end

/-- In every run in which no shutdown begins while a restart is pending, and no failure of a group drain is
caught while a restart is pending that nobody is left to carry out, `next_restart_in` is published only for
restarts that are pending. -/
theorem run_showsPending {config : SupervisorConfig} {env : StartEnv} {as : List Act} {c : Config}
    (h : config.Accepted)
    (hrun : Run step (fun c a => keepsPending c a = true) (Config.start config env) as c) :
    c.ShowsPending := by
  refine (hrun.invariant_of (I := Config.Pending) (J := fun c => c.Sane ∧ c.Halting ∧ c.Ending ∧ c.Heard)
    (fun _ _ h' => ⟨run_sane h h', run_halting h h', run_ending h h', run_heard h h'⟩) ⟨?_, rfl⟩
    fun c a c' hJ hI hok hstep => hI.step hJ.1 hJ.2.1 hJ.2.2.1 hJ.2.2.2 hok hstep).showsPending
  obtain ⟨hentry, hsnap⟩ := new_forall (P := fun e => e.pending = false) config env fun _ _ _ _ _ => rfl
  have hquiet : (initialSnapshot config).Quiet := by
    intro child hchild
    obtain ⟨spec, -, rfl⟩ := List.mem_map.1 hchild
    rfl
  refine ⟨fun key e he hp => ?_, fun s hs _ => ?_, fun s hs child hchild hp => ?_⟩
  · rw [hentry key e he] at hp
    cases hp
  · rw [Config.start, hsnap, List.mem_singleton] at hs
    exact hs ▸ hquiet
  · rw [Config.start, hsnap] at hs
    cases hs
    exact absurd (hquiet child hchild) hp

/-! ### A shutdown during a restart delay -/

/-- What a snapshot shows of the supervisor's state and its pending restarts. -/
def SupervisorSnapshot.restartsShown (s : SupervisorSnapshot) : SupervisorStateView × List Bool :=
  (s.state, s.children.map (·.nextRestartIn.isSome))

/-- The supervisor is stopping, and the restart that it has given up is shown as pending. -/
theorem stale_deadline_reached : slotConfig.Accepted ∧ ∃ c,
    AnyRun step (Config.start slotConfig ⟨false, 0, 0⟩) [.run .go, .finish 1 (.returned (.error "failed")),
      .run (.join 1), .requestShutdown, .run .shutdown] c ∧ ¬ c.ShowsPending := by
  have hex : ∃ c, AnyRun step (Config.start slotConfig ⟨false, 0, 0⟩) [.run .go,
      .finish 1 (.returned (.error "failed")), .run (.join 1), .requestShutdown, .run .shutdown] c ∧
      c.rt.snapshots.head?.map (·.restartsShown) = some (.stopping, [false, true]) :=
    anyRun_of_exec (by decide +kernel)
  obtain ⟨c, hrun, hc⟩ := hex
  refine ⟨slotConfig_accepted, c, hrun, fun h => ?_⟩
  obtain ⟨s, hs, hshown⟩ := Option.map_eq_some_iff.1 hc
  obtain ⟨hstate, hchildren⟩ := Prod.mk.inj hshown
  have hquiet : s.Quiet := h.halted s (List.mem_of_mem_head? hs) (by rw [hstate]; exact nofun)
  have hmem : true ∈ s.children.map (·.nextRestartIn.isSome) := by
    rw [hchildren]
    exact List.mem_cons_of_mem _ List.mem_cons_self
  obtain ⟨child, hchild, hp⟩ := List.mem_map.1 hmem
  rw [hquiet child hchild] at hp
  cases hp

/-- A restart is shown during its delay. -/
theorem run_showsPending_delay : ∃ c : Config,
    c.rt.snapshots.head?.map (·.restartsShown) = some (.running, [false, true]) ∧ c.ShowsPending := by
  have hex : ∃ c, Run step (fun c a => keepsPending c a = true) (Config.start slotConfig ⟨false, 0, 0⟩)
      [.run .go, .finish 1 (.returned (.error "failed")), .run (.join 1)] c ∧
      c.rt.snapshots.head?.map (·.restartsShown) = some (.running, [false, true]) :=
    run_of_execIf_map (by decide +kernel)
  obtain ⟨c, hrun, hc⟩ := hex
  exact ⟨c, hc, run_showsPending slotConfig_accepted hrun⟩

end TokioSupervisor
