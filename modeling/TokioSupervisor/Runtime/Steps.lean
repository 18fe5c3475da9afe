import TokioSupervisor.Runtime.Rules

/-!
# Every step is a rule

`Woken` and `Resumed` list what is left to run when a wait is over and when a call has returned, with what
the wait or the call has found; there is a lemma for each wait and each frame with a choice. What they
list ends in a rule, or in the panic of an instant out of range.
-/

namespace TokioSupervisor
open Lib SupervisorRuntime

/-- A panic out of range ends the run; any other result is the configuration it leads to. -/
theorem Leads.rule {rt : SupervisorRuntime} {ctrl : Ctrl} {a : Act}
    {P : SupervisorRuntime → Ctrl → Prop} {x : Except Panic Config} (h : Leads P x)
    (hP : ∀ rt' ctrl', P rt' ctrl' → Rule rt ctrl a rt' ctrl') :
    Rule rt ctrl a (settle rt x).rt (settle rt x).ctrl := by
  cases x with
  | error p => cases h; exact .overflow
  | ok c => exact hP _ _ h

theorem shutdownAll_leads {rt rt₁ : SupervisorRuntime} {ctrl : Ctrl} {a : Act} {k : Stack .shutdownAll}
    (h : rt.Wf) (hb : BeginsShutdown ctrl a k) (hrt : rt₁ = rt ∨ rt₁ = rt.seen)
    (hq : rt.shutdownRx.value = true ∨ rt.shutdownRx.closed = true) :
    Rule rt ctrl a (settle rt (rt₁.shutdownAll k)).rt (settle rt (rt₁.shutdownAll k)).ctrl := by
  have hwf₁ : rt₁.Wf := by rcases hrt with rfl | rfl <;> exact h
  have hwf : ({ rt₁ with state := .stopping } : SupervisorRuntime).cancelRunningChildren.Wf :=
    (show Wf { rt₁ with state := .stopping } from hwf₁).cancelRunningChildren.choose_spec.choose_spec.2.2.2.2
  simp only [SupervisorRuntime.shutdownAll, hwf.sendEvent, ok_bind]
  exact .shutdown hb hrt hq

section
variable {rt : SupervisorRuntime}

theorem runLoop_rule {rt₁ : SupervisorRuntime} {ctrl : Ctrl} {a : Act} (h : rt₁.Wf)
    (hc : AtLoop rt ctrl a rt₁) :
    Rule rt ctrl a (settle rt rt₁.runLoop).rt (settle rt rt₁.runLoop).ctrl :=
  h.runLoop.rule fun _ _ hl => .loop hc hl

theorem handleNestedSnapshot_cases (h : rt.Wf) (n : NestedSnapshotNotification) :
    ∃ rt₁, rt.handleNestedSnapshot n = .ok rt₁ ∧ rt₁.Wf ∧
      ((∃ x : Aux, x.snapshots = rt.snapshots ∧ rt₁ = rt.withAux x) ∨
        ∃ key e, ∃ x : Aux, ∃ nestedSnapshot, rt.children.get key = some e ∧
          x.snapshots = rt₁.view :: rt.snapshots ∧
          rt₁ = (rt.withAux x).setEntry key { e with nestedSnapshot }) := by
  have hself : rt = rt.withAux ⟨rt.nestedSnapshotRx, rt.now, rt.wallClock, rt.nestedStates,
      rt.snapshots⟩ := rfl
  unfold SupervisorRuntime.handleNestedSnapshot
  cases he : rt.children.get n.parentKey with
  | none => exact ⟨rt, rfl, h, .inl ⟨_, rfl, hself⟩⟩
  | some e =>
    simp only
    split
    · exact ⟨rt, rfl, h, .inl ⟨_, rfl, hself⟩⟩
    · cases e.nestedSnapshotState with
      | none => exact ⟨rt, rfl, h, .inl ⟨_, rfl, hself⟩⟩
      | some i =>
        simp only
        let rt₀ := rt.modifyNestedState i ({ · with queued := false })
        let latest := (rt₀.nestedStates[i]?).bind (·.latest)
        have hwf : (rt₀.setEntry n.parentKey { e with nestedSnapshot := latest }).Wf :=
          (show rt₀.Wf from h).setEntry he rfl ⟨(h.ok he).id, (h.ok he).membership, (h.ok he).handle⟩
        rw [@modifyEntry_eq rt₀ n.parentKey e he, hwf.publishSnapshot]
        exact ⟨_, rfl, hwf, .inr ⟨n.parentKey, e, ⟨rt.nestedSnapshotRx, rt.now, rt.wallClock,
          rt₀.nestedStates, (rt₀.setEntry n.parentKey { e with nestedSnapshot := latest }).published.snapshots⟩,
          latest, he, rfl, rfl⟩⟩

theorem shutdownChanged_cases (hr : rt.shutdownRx.ready = true) :
    (∃ rt₁, rt.shutdownChanged = (rt₁, true) ∧ (rt₁ = rt ∨ rt₁ = rt.seen) ∧
        (rt.shutdownRx.value = true ∨ rt.shutdownRx.closed = true)) ∨
      rt.shutdownChanged = (rt.seen, false) ∧ rt.shutdownRx.unseen = true ∧
        rt.shutdownRx.value = false := by
  unfold SupervisorRuntime.shutdownChanged
  cases hu : rt.shutdownRx.unseen with
  | false => exact .inl ⟨rt, rfl, .inl rfl, .inr (by simpa [ShutdownWatch.ready, hu] using hr)⟩
  | true =>
    cases hv : rt.shutdownRx.value with
    | false => exact .inr ⟨by simp [seen], rfl, rfl⟩
    | true => exact .inl ⟨rt.seen, by simp [seen], .inr rfl, .inl rfl⟩

theorem recvCommand_cases :
    (∃ cmd rest, rt.commandRx.queue = cmd :: rest ∧ rt.recvCommand = (rt.received rest, some cmd)) ∨
      rt.recvCommand = (rt, none) ∧ rt.commandRx.queue = [] := by
  unfold SupervisorRuntime.recvCommand
  cases rt.commandRx.queue with
  | nil => exact .inr ⟨rfl, rfl⟩
  | cons cmd rest => exact .inl ⟨cmd, rest, rfl, rfl⟩

theorem commandsOver_of_ready (hr : rt.commandReady = true) (hq : rt.commandRx.queue = []) :
    rt.CommandsOver := by
  have hready : rt.commandRx.ready = true := by
    simp only [commandReady, Bool.and_eq_true] at hr
    exact hr.2
  exact ⟨hq, by simpa [CommandChannel.ready, hq] using hready⟩

theorem handleCommand_rule {ctrl : Ctrl} {k : Stack .handleCommand} {key : ChildKey}
    {cmd : SupervisorCommand} {rest : List SupervisorCommand} (h : rt.Wf) (hh : HandlesCommand ctrl k)
    (hv : rt.children.vacant key = true) (hq : rt.commandRx.queue = cmd :: rest) :
    Rule rt ctrl (.run (.command key)) (settle rt ((rt.received rest).handleCommand key cmd k)).rt
      (settle rt ((rt.received rest).handleCommand key cmd k)).ctrl :=
  ((show (rt.received rest).Wf from h).handleCommand hv cmd k).rule fun _ _ ho => .command hh hv hq ho

theorem handleJoinedChild_rule {ctrl : Ctrl} {k : Stack .handleJoinedChild} {id : TaskId}
    {rt₁ : SupervisorRuntime} {joined : Joined} (h : rt.Wf) (hh : HandlesJoin ctrl k)
    (hj : rt.joinTask id = some (rt₁, joined)) :
    Rule rt ctrl (.run (.join id)) (settle rt (rt₁.handleJoinedChild joined k)).rt
      (settle rt (rt₁.handleJoinedChild joined k)).ctrl := by
  obtain ⟨t, outcome, rfl, hf, hl⟩ := h.handleJoinedChild hj k
  exact hl.rule fun _ _ ho => .join hh hf ho

/-! ### Out of a wait -/

/-- What is left to run once a branch of a wait fires. -/
inductive Woken (rt : SupervisorRuntime) :
    {fn : Fn} → Await fn → Wake → Stack fn → Except Panic Config → Prop
  | move {fn : Fn} {p : Await fn} {w : Wake} {k : Stack fn} {ctrl' : Ctrl}
      (hw : ∀ key, w ≠ .command key) (hm : Move rt (.await p k) (.run w) ctrl') :
      Woken rt p w k (.ok ⟨rt, ctrl'⟩)
  | shutdown {fn : Fn} {p : Await fn} {w : Wake} {k : Stack fn} {k' : Stack .shutdownAll}
      {rt₁ : SupervisorRuntime} (hb : BeginsShutdown (.await p k) (.run w) k')
      (hrt : rt₁ = rt ∨ rt₁ = rt.seen) (hq : rt.shutdownRx.value = true ∨ rt.shutdownRx.closed = true) :
      Woken rt p w k (rt₁.shutdownAll k')
  | command {fn : Fn} {p : Await fn} {k : Stack fn} {k' : Stack .handleCommand} {key : ChildKey}
      {cmd : SupervisorCommand} {rest : List SupervisorCommand} (hh : HandlesCommand (.await p k) k')
      (hv : rt.children.vacant key = true) (hq : rt.commandRx.queue = cmd :: rest) :
      Woken rt p (.command key) k ((rt.received rest).handleCommand key cmd k')
  | join {fn : Fn} {p : Await fn} {k : Stack fn} {k' : Stack .handleJoinedChild} {id : TaskId}
      {rt₁ : SupervisorRuntime} {joined : Joined} (hh : HandlesJoin (.await p k) k')
      (hj : rt.joinTask id = some (rt₁, joined)) :
      Woken rt p (.join id) k (rt₁.handleJoinedChild joined k')
  -- the main loop
  | start {k : Stack .run} : Woken rt .runStart .go k rt.runStart
  | loop {w : Wake} {k : Stack .run} {rt₁ : SupervisorRuntime}
      (hc : AtLoop rt (.await .runSelect k) (.run w) rt₁) (hwf : rt₁.Wf) :
      Woken rt .runSelect w k rt₁.runLoop
  | natural {k : Stack .run} (hj : rt.joinSet.isEmpty = true) :
      Woken rt .runSelect .joinNone k
        (.ok ⟨(rt.finishedWith rt.naturalExit).dropReceiver, .finished (.ok rt.naturalExit)⟩)
  -- removals
  | removalSeen {l : Removal} {k : Stack .awaitChildRemoval} :
      Woken rt (.removalSelect l) .shutdown k (.ok (rt.seen.removalLoop l k))
  | removalTimer {l : Removal} {k : Stack .awaitChildRemoval} (error : Option ControlError) :
      Woken rt (.removalSelect l) .timer k
        (rt.abortAndDetachChild l.key .shutdown (.push (.removalDetach error) k))
  -- drains
  | readyJoin {reason : DrainReason} {k : Stack (.drainReadyJoins reason)} {t : Task}
      {outcome : TaskOutcome} {rt' : SupervisorRuntime} (hf : rt.Finished t outcome)
      (hd : DrainedJoin rt t outcome reason rt') :
      Woken rt (.readyJoins reason) (.join t.id) k (.ok ⟨rt', .await (.readyJoins reason) k⟩)
  | drainJoin {reason : DrainReason} {deadline : Instant} {k : Stack (.drainChildren reason)} {t : Task}
      {outcome : TaskOutcome} {rt₁ : SupervisorRuntime} (hf : rt.Finished t outcome)
      (hd : DrainedJoin rt t outcome reason rt₁) (hwf : rt₁.Wf) :
      Woken rt (.drainSelect reason deadline) (.join t.id) k (.ok (rt₁.drainLoop reason deadline k))
  | drainNext {reason : DrainReason} {deadline : Instant} {w : Wake} {k : Stack (.drainChildren reason)}
      (hd : DrainGoesOn (.await (.drainSelect reason deadline) k) (.run w) reason k) :
      Woken rt (.drainSelect reason deadline) w k (.ok (rt.drainAfterGrace reason k))
  -- delays
  | tryRecvEmpty {key : ChildKey} {k : Stack .waitForRestartDelay} (hq : rt.commandRx.queue = []) :
      Woken rt .delayTryRecv (.command key) k (.ok ⟨rt, .ret k (.ok true)⟩)
  | tryRecvClosed {key : ChildKey} {k : Stack .waitForRestartDelay} (ho : rt.CommandsOver) :
      Woken rt .delayTryRecv (.command key) k (.ok ⟨rt.commandsClosed, .ret k (.ok true)⟩)
  | delaySeen {deadline : Instant} {k : Stack .waitForRestartDelay} :
      Woken rt (.delaySelect deadline) .shutdown k (.ok ⟨rt.seen, .await (.delaySelect deadline) k⟩)
  | delayClosed {deadline : Instant} {key : ChildKey} {k : Stack .waitForRestartDelay}
      (ho : rt.CommandsOver) :
      Woken rt (.delaySelect deadline) (.command key) k
        (.ok ⟨rt.commandsClosed, .await (.delaySelect deadline) k⟩)
  | delayClosedPending {deadline : Instant} {key : ChildKey} {k : Stack .waitForRestartDelay}
      (ho : rt.CommandsOver) (hp : rt.pendingExit.isSome = true) :
      Woken rt (.delaySelect deadline) (.command key) k (.ok ⟨rt.commandsClosed, .ret k (.ok false)⟩)

section
variable {w : Wake} {x : Except Panic Config}

theorem wake_runSelect {k : Stack .run} (h : rt.Wf) (hx : wake .runSelect w rt k = some x) :
    Woken rt .runSelect w k x := by
  cases w <;> dsimp only [wake] at hx <;> try contradiction
  · split at hx
    · rename_i hready
      rcases shutdownChanged_cases hready with ⟨rt₁, heq, hrt, hq⟩ | ⟨heq, hu, hv⟩
      · rw [heq] at hx; cases hx
        exact .shutdown .run hrt hq
      · rw [heq] at hx; cases hx
        exact .loop (.seen hu hv) h
    · cases hx
  · split at hx
    · rename_i hready
      simp only [Bool.and_eq_true] at hready
      rcases @recvCommand_cases rt with ⟨cmd, rest, hq, heq⟩ | ⟨heq, hq⟩
      · rw [heq] at hx; cases hx
        exact .command .run hready.2 hq
      · rw [heq] at hx; cases hx
        exact .loop (.closed (commandsOver_of_ready hready.1.2 hq)) h
    · cases hx
  · split at hx
    · split at hx
      · cases hx
      · rename_i n rest _
        cases hx
        obtain ⟨rt₁, heq, hwf, hcases⟩ := handleNestedSnapshot_cases
          (show Wf { rt with nestedSnapshotRx := { rt.nestedSnapshotRx with queue := rest } } from h) n
        rw [heq, ok_bind]
        rcases hcases with ⟨x, hs, rfl⟩ | ⟨key, e, x, nestedSnapshot, he, hs, rfl⟩
        · exact .loop (.ignored x hs) hwf
        · exact .loop (@AtLoop.nested rt _ _ _ x he nestedSnapshot hs) hwf
    · cases hx
  · split at hx
    · obtain ⟨⟨rt₁, joined⟩, hj, rfl⟩ := Option.map_eq_some_iff.1 hx
      exact .join .run hj
    · cases hx
  · split at hx
    · rename_i hready
      simp only [Bool.and_eq_true] at hready
      cases hx
      rw [h.finishNaturalExit]
      exact .natural hready.2
    · cases hx

theorem wake_removalSelect {l : Removal} {k : Stack .awaitChildRemoval}
    (hx : wake (.removalSelect l) w rt k = some x) : Woken rt (.removalSelect l) w k x := by
  cases w <;> dsimp only [wake] at hx <;> try contradiction
  · split at hx
    · rename_i hready
      rcases shutdownChanged_cases hready with ⟨rt₁, heq, hrt, hq⟩ | ⟨heq, -, -⟩
      · rw [heq] at hx; cases hx
        exact .shutdown .removal hrt hq
      · rw [heq] at hx; cases hx
        exact .removalSeen
    · cases hx
  · split at hx
    · obtain ⟨⟨rt₁, joined⟩, hj, rfl⟩ := Option.map_eq_some_iff.1 hx
      exact .join .removal hj
    · cases hx
  · split at hx
    · rename_i hready
      simp only [Bool.and_eq_true] at hready
      cases hx
      exact .move nofun (.removalJoinNone hready.2 _)
    · cases hx
  · split at hx
    · cases hx
      exact .removalTimer _
    · cases hx

theorem wake_readyJoins {reason : DrainReason} {k : Stack (.drainReadyJoins reason)} (h : rt.Wf)
    (hx : wake (.readyJoins reason) w rt k = some x) : Woken rt (.readyJoins reason) w k x := by
  cases w <;> dsimp only [wake] at hx <;> try contradiction
  · obtain ⟨⟨rt₁, joined⟩, hj, rfl⟩ := Option.map_eq_some_iff.1 hx
    obtain ⟨t, outcome, rt', rfl, hf, hd, heq⟩ := h.handleDrainedJoin hj reason
    simp only [heq, ok_bind]
    exact .readyJoin hf hd
  · split at hx <;> cases hx
    exact .move nofun .readyEmpty
  · split at hx <;> cases hx
    exact .move nofun .readyTimer

theorem wake_delayCheck {k : Stack .waitForRestartDelay} (hx : wake .delayCheck w rt k = some x) :
    Woken rt .delayCheck w k x := by
  cases w <;> dsimp only [wake] at hx <;> try contradiction
  split at hx
  · rename_i hv
    cases hx
    exact .shutdown .check (.inl rfl) (.inl hv)
  · cases hx
    exact .move nofun .delayCheck

theorem wake_delayYield {k : Stack .waitForRestartDelay} (hx : wake .delayYield w rt k = some x) :
    Woken rt .delayYield w k x := by
  cases w <;> dsimp only [wake] at hx <;> try contradiction
  split at hx
  · rename_i hv
    cases hx
    exact .shutdown .yield (.inl rfl) (.inl hv)
  · cases hx
    unfold delayZeroLoop
    split
    · exact .move nofun .delayYield
    · exact .move nofun .delayYieldEnd

theorem wake_delayTryRecv {k : Stack .waitForRestartDelay} (hx : wake .delayTryRecv w rt k = some x) :
    Woken rt .delayTryRecv w k x := by
  cases w <;> dsimp only [wake] at hx <;> try contradiction
  split at hx
  · rename_i hv
    rcases @recvCommand_cases rt with ⟨cmd, rest, hq, heq⟩ | ⟨heq, hq⟩
    · rw [heq] at hx; cases hx
      exact .command .zero hv hq
    · rw [heq] at hx
      dsimp only at hx
      split at hx
      · rename_i hover
        cases hx
        exact .tryRecvClosed ⟨hq, by simpa using hover⟩
      · cases hx
        exact .tryRecvEmpty hq
  · cases hx

theorem wake_delaySelect {deadline : Instant} {k : Stack .waitForRestartDelay}
    (hx : wake (.delaySelect deadline) w rt k = some x) : Woken rt (.delaySelect deadline) w k x := by
  cases w <;> dsimp only [wake] at hx <;> try contradiction
  · split at hx
    · rename_i hready
      rcases shutdownChanged_cases hready with ⟨rt₁, heq, hrt, hq⟩ | ⟨heq, -, -⟩
      · rw [heq] at hx; cases hx
        exact .shutdown .delay hrt hq
      · rw [heq] at hx; cases hx
        exact .delaySeen
    · cases hx
  · split at hx
    · rename_i hready
      simp only [Bool.and_eq_true] at hready
      rcases @recvCommand_cases rt with ⟨cmd, rest, hq, heq⟩ | ⟨heq, hq⟩
      · rw [heq] at hx; cases hx
        exact .command .delay hready.2 hq
      · rw [heq] at hx
        have hover := commandsOver_of_ready hready.1.2 hq
        dsimp only at hx
        split at hx
        · rename_i hp
          cases hx
          exact .delayClosedPending hover hp
        · cases hx
          exact .delayClosed hover
    · cases hx
  · split at hx <;> cases hx
    exact .move nofun .delayTimer

theorem wake_drainSelect {reason : DrainReason} {deadline : Instant} {k : Stack (.drainChildren reason)}
    (h : rt.Wf) (hx : wake (.drainSelect reason deadline) w rt k = some x) :
    Woken rt (.drainSelect reason deadline) w k x := by
  cases w <;> dsimp only [wake] at hx <;> try contradiction
  · obtain ⟨⟨rt₁, joined⟩, hj, rfl⟩ := Option.map_eq_some_iff.1 hx
    obtain ⟨t, outcome, rt', rfl, hf, hd, heq⟩ := h.handleDrainedJoin hj reason
    simp only [heq, ok_bind]
    exact .drainJoin hf hd (h.drainedJoin hd)
  · split at hx <;> cases hx
    exact .drainNext .empty
  · split at hx <;> cases hx
    exact .drainNext .timer

theorem wake_cases {fn : Fn} {p : Await fn} {k : Stack fn} (h : rt.Wf) (hx : wake p w rt k = some x) :
    Woken rt p w k x := by
  cases p with
  | runStart =>
    cases w <;> dsimp only [wake] at hx <;> cases hx
    exact .start
  | runSelect => exact wake_runSelect h hx
  | removalSelect l => exact wake_removalSelect hx
  | detachYield key reason =>
    cases w <;> dsimp only [wake] at hx <;> cases hx
    exact .move nofun .detachYield
  | readyJoins reason => exact wake_readyJoins h hx
  | delayCheck => exact wake_delayCheck hx
  | delayYield => exact wake_delayYield hx
  | delayTryRecv => exact wake_delayTryRecv hx
  | delaySelect deadline => exact wake_delaySelect hx
  | drainYield reason maxGrace =>
    cases w <;> dsimp only [wake] at hx <;> cases hx
    exact .move nofun .drainYield
  | drainSelect reason deadline => exact wake_drainSelect h hx
  | drainAbortYield reason timedOut =>
    cases w <;> dsimp only [wake] at hx <;> cases hx
    exact .move nofun .drainAbortYield

end

theorem SupervisorRuntime.Wf.runStart (h : rt.Wf) :
    ((rt.emitted none .supervisorStarted).spawnedAll rt.childOrder).Wf ∧
      rt.runStart = ((rt.emitted none .supervisorStarted).spawnedAll rt.childOrder).runLoop := by
  have hkeys : ∀ key ∈ rt.childOrder, ∃ e, rt.children.get key = some e :=
    fun key hk => (h.order key).1 hk
  have hemit : (rt.emitted none .supervisorStarted).Wf := h
  refine ⟨hemit.spawnedAll rt.childOrder, ?_⟩
  simp only [SupervisorRuntime.runStart, h.sendEvent, ok_bind]
  show (SupervisorRuntime.spawnInitial _ rt.childOrder >>= _) = _
  rw [hemit.spawnInitial hkeys]
  rfl

theorem Woken.rule {fn : Fn} {p : Await fn} {w : Wake} {k : Stack fn} {x : Except Panic Config}
    (hx : Woken rt p w k x) (h : rt.Wf)
    (hrm : ∀ l k', Ctrl.await p k = .await (.removalSelect l) k' → ∃ e, rt.children.get l.key = some e) :
    Rule rt (.await p k) (.run w) (settle rt x).rt (settle rt x).ctrl := by
  cases hx with
  | move _ hm => exact .move hm
  | shutdown hb hrt hq => exact shutdownAll_leads h hb hrt hq
  | command hh hv hq => exact handleCommand_rule h hh hv hq
  | join hh hj => exact handleJoinedChild_rule h hh hj
  | start =>
    obtain ⟨hwf, hrun⟩ := h.runStart
    rw [hrun]
    exact hwf.runLoop.rule fun _ _ hl => .start hl
  | loop hc hwf => exact runLoop_rule hwf hc
  | natural hj => exact .natural hj
  | @removalSeen l k =>
    obtain ⟨ctrl, heq, hr⟩ := (show rt.seen.Wf from h).removalLoop l k
    rw [heq]
    refine .removalSeen ?_
    cases hr with
    | gone he => exact .gone he
    | wait he => exact .wait he
  | @removalTimer l k =>
    obtain ⟨e, he⟩ := hrm l k rfl
    simp only [abortAndDetachChild, abortChild_eq he, ok_bind]
    exact .removalTimer he
  | readyJoin hf hd => exact .readyJoin hf hd
  | drainJoin hf hd hwf => exact .drainJoin hf hd (hwf.drainLoop_next ..)
  | drainNext hd => exact .drainNext hd (h.drainAfterGrace_next ..)
  | tryRecvEmpty => exact .move .tryRecvEmpty
  | tryRecvClosed ho => exact .tryRecvClosed ho
  | delaySeen => exact .delaySeen
  | delayClosed ho => exact .delayClosed ho
  | delayClosedPending ho hp => exact .delayClosedPending ho hp

/-! ### After a call -/

/-- What is left to run once a call has returned. -/
inductive Resumed (rt : SupervisorRuntime) : {callee caller : Fn} → Frame callee caller →
    callee.Value → Stack caller → Except Panic Config → Prop
  | move {callee caller : Fn} {f : Frame callee caller} {v : callee.Value} {k : Stack caller}
      {ctrl' : Ctrl} (hm : Move rt (.ret (.push f k) v) .resume ctrl') :
      Resumed rt f v k (.ok ⟨rt, ctrl'⟩)
  -- the main loop
  | loop {callee : Fn} {f : Frame callee .run} {v : callee.Value} {k : Stack .run}
      (hc : AtLoop rt (.ret (.push f k) v) .resume rt) : Resumed rt f v k rt.runLoop
  | joinError {k : Stack .run} (e : SupervisorError) :
      Resumed rt .runJoin (.error e) k (.ok (rt.finishRun (.error e)))
  | shutdownEnd {k : Stack .run} (v : Except SupervisorError SupervisorExit) :
      Resumed rt .runShutdown v k (.ok (rt.finishRun v))
  | replied {reply : Nat} {k : Stack .handleCommand} (v : Except ControlError Unit) :
      Resumed rt (.commandReply reply) v k (.ok ⟨rt.log (.replied reply v), .ret k ()⟩)
  -- shutdown
  | queued {k : Stack .queueShutdownExit} (v : Except SupervisorError SupervisorExit) :
      Resumed rt .queueShutdown v k (.ok ⟨{ rt with pendingExit := some v }, .ret k ()⟩)
  | shutdownDrained {k : Stack .shutdownAll} :
      Resumed rt .shutdownDrain (.ok ()) k (.ok ⟨rt.finishedWith .shutdown, .ret k (.ok .shutdown)⟩)
  -- drains
  | drainEmpty {reason : DrainReason} {maxGrace : Option Duration} {k : Stack (.drainChildren reason)}
      (hl : rt.liveTasks = 0) :
      Resumed rt (.drainFirst reason maxGrace) (.ok ()) k (.ok ⟨rt, .ret k (.ok ())⟩)
  | graceless {reason : DrainReason} {k : Stack (.drainChildren reason)} :
      Resumed rt (.drainFirst reason none) (.ok ()) k (.ok (rt.drainAfterGrace reason k))
  | grace {reason : DrainReason} {grace : Duration} {k : Stack (.drainChildren reason)}
      (hl : rt.liveTasks ≠ 0) :
      Resumed rt (.drainFirst reason (some grace)) (.ok ()) k
        (instantAdd rt.now grace >>= fun deadline => .ok (rt.drainLoop reason deadline k))
  | swept {reason : DrainReason} {timedOut : String} {k : Stack (.drainChildren reason)}
      (hn : rt.activeTaskNames.isEmpty = true) :
      Resumed rt (.drainSecond reason timedOut) (.ok ()) k (.ok ⟨rt, .ret k (.ok ())⟩)
  | detachGone {key : ChildKey} {reason : DrainReason} {k : Stack .abortAndDetachChild}
      (he : rt.children.get key = none) :
      Resumed rt (.detachDrain key reason) (.ok ()) k (.ok ⟨rt, .ret k (.ok ())⟩)
  | detach {key : ChildKey} {reason : DrainReason} {k : Stack .abortAndDetachChild} {e : ChildEntry}
      (he : rt.children.get key = some e) :
      Resumed rt (.detachDrain key reason) (.ok ()) k (.ok ⟨rt.finalized key e, .ret k (.ok ())⟩)
  -- restarts
  | vacantOne {key : ChildKey} {generation : Nat} {k : Stack .handleOneForOneRestart}
      (he : rt.children.get key = none) :
      Resumed rt (.oneForOneDelay key generation) (.ok true) k (.error (.vacantSlot key))
  | vacantAll {key : ChildKey} {k : Stack .handleOneForAllRestart} (hd : rt.info.debugEnabled = true)
      (he : rt.children.get key = none) :
      Resumed rt (.oneForAllDelay key) (.ok true) k (.error (.vacantSlot key))
  | respawn {key : ChildKey} {generation : Nat} {k : Stack .handleOneForOneRestart} {e : ChildEntry}
      (he : rt.children.get key = some e) (hm : e.membership = .active) :
      Resumed rt (.oneForOneDelay key generation) (.ok true) k
        (.ok ⟨rt.restarted key e, .ret k (.ok ())⟩)
  | groupDrain {key : ChildKey} {k : Stack .handleOneForAllRestart} :
      Resumed rt (.oneForAllDelay key) (.ok true) k
        (.ok (rt.drainForGroupRestart (k.push .oneForAllDrain)))
  | groupRespawn {k : Stack .handleOneForAllRestart} :
      Resumed rt .oneForAllDrain (.ok ()) k
        (.ok ⟨rt.regrouped.respawnedAll rt.childOrder, .ret k (.ok ())⟩)

theorem resume_removalLoop {l : Removal} {k : Stack .awaitChildRemoval} (h : rt.Wf) :
    Resumed rt (.removalShutdown l) (.ok ()) k (.ok (rt.removalLoop l k)) ∧
      Resumed rt (.removalJoin l) (.ok ()) k (.ok (rt.removalLoop l k)) := by
  obtain ⟨ctrl, heq, hr⟩ := h.removalLoop l k
  rw [heq]
  exact ⟨.move (.removalShutdownOk hr), .move (.removalJoinOk hr)⟩

theorem resume_controlJoin {k : Stack .handleJoinDuringControl} :
    Resumed rt .controlJoin (.ok ()) k (resume .controlJoin (.ok ()) rt k) := by
  dsimp only [resume]
  split
  · rename_i hp
    exact .move (.controlJoinPending hp)
  · rename_i hp
    exact .move (.controlJoinOk (by simpa using hp))

theorem resume_drainFirst {reason : DrainReason} {maxGrace : Option Duration}
    {k : Stack (.drainChildren reason)} :
    Resumed rt (.drainFirst reason maxGrace) (.ok ()) k
      (resume (.drainFirst reason maxGrace) (.ok ()) rt k) := by
  dsimp only [resume]
  split
  · rename_i hl
    exact .drainEmpty hl
  · rename_i hl
    cases maxGrace with
    | none => exact .graceless
    | some grace => exact .grace hl

theorem resume_drainSecond {reason : DrainReason} {timedOut : String}
    {k : Stack (.drainChildren reason)} :
    Resumed rt (.drainSecond reason timedOut) (.ok ()) k
      (resume (.drainSecond reason timedOut) (.ok ()) rt k) := by
  rcases @drainReturn_cases rt reason timedOut k with
    ⟨hf, heq⟩ | ⟨ht, ⟨hn, heq⟩ | ⟨hn, rfl, heq⟩ | ⟨hn, rfl, heq⟩⟩
  · simp only [resume, heq]
    exact .move (.drainFailed (.inl hf) _)
  · simp only [resume, heq]
    exact .swept hn
  · simp only [resume, heq]
    exact .move (.drainGivenUp ht hn)
  · simp only [resume, heq]
    exact .move (.drainFailed (.inr ⟨rfl, hn⟩) _)

theorem resume_detachDrain {key : ChildKey} {reason : DrainReason} {k : Stack .abortAndDetachChild}
    (h : rt.Wf) : Resumed rt (.detachDrain key reason) (.ok ()) k
      (resume (.detachDrain key reason) (.ok ()) rt k) := by
  rcases h.finalizeRemovedChildIfPresent key with ⟨he, heq⟩ | ⟨e, he, heq⟩
  · simp only [resume, heq, ok_bind]
    exact .detachGone he
  · simp only [resume, heq, ok_bind]
    exact .detach he

theorem resume_respawn {key : ChildKey} {generation : Nat} {k : Stack .handleOneForOneRestart}
    {e : ChildEntry} (h : rt.Wf) (hst : rt.Started) (he : rt.children.get key = some e)
    (hm : e.membership = .active) :
    resume (.oneForOneDelay key generation) (.ok true) rt k = .ok ⟨rt.restarted key e, .ret k (.ok ())⟩ := by
  have hold : e.oldGeneration = some e.runtime.generation := by
    simp [ChildEntry.oldGeneration, hst key e he]
  dsimp only [resume]
  rw [index_eq he, ok_bind, if_neg (not_not.2 hm)]
  simp only [h.spawnChild he, ok_bind, hold, Option.getD_some, h.sendRestartEvent he]
  rfl

theorem resume_oneForOneDelay {key : ChildKey} {generation : Nat} {k : Stack .handleOneForOneRestart}
    (h : rt.Wf) (hst : rt.Started) : Resumed rt (.oneForOneDelay key generation) (.ok true) k
      (resume (.oneForOneDelay key generation) (.ok true) rt k) := by
  cases he : rt.children.get key with
  | none =>
    dsimp only [resume]
    rw [index_vacant he]
    exact .vacantOne he
  | some e =>
    by_cases hm : e.membership = .active
    · rw [resume_respawn h hst he hm]
      exact .respawn he hm
    · dsimp only [resume]
      rw [index_eq he, ok_bind, if_pos hm]
      exact .move (.oneDelayInactive he hm)

theorem resume_oneForAllDelay {key : ChildKey} {k : Stack .handleOneForAllRestart} :
    Resumed rt (.oneForAllDelay key) (.ok true) k (resume (.oneForAllDelay key) (.ok true) rt k) := by
  dsimp only [resume]
  by_cases hd : rt.info.debugEnabled = true
  · cases he : rt.children.get key with
    | none =>
      rw [if_pos hd, index_vacant he]
      exact .vacantAll hd he
    | some e =>
      rw [if_pos hd, index_eq he]
      exact .groupDrain
  · rw [if_neg hd]
    exact .groupDrain

theorem resume_groupRespawn {k : Stack .handleOneForAllRestart} (h : rt.Wf) (hst : rt.Started) :
    resume .oneForAllDrain (.ok ()) rt k =
      .ok ⟨rt.regrouped.respawnedAll rt.childOrder, .ret k (.ok ())⟩ := by
  have hkeys : ∀ key ∈ rt.childOrder, ∃ e, rt.children.get key = some e :=
    fun key hk => (h.order key).1 hk
  have hloop := (show rt.regrouped.Wf from h).respawnLoop hst hkeys
  simp only [SupervisorRuntime.regrouped] at hloop
  simp only [resume, hloop, ok_bind]
  rfl

theorem resume_delayZeroCommand {k : Stack .waitForRestartDelay} :
    Resumed rt .delayZeroCommand () k (resume .delayZeroCommand () rt k) := by
  dsimp only [resume]
  split
  · rename_i hp
    exact .move (.zeroPending hp)
  · rename_i hp
    have hp : rt.pendingExit = none := by simpa using hp
    unfold delayZeroLoop
    split
    · exact .move (.zeroLoop hp)
    · exact .move (.zeroEnd hp)

theorem resume_delayCommand {deadline : Instant} {k : Stack .waitForRestartDelay} :
    Resumed rt (.delayCommand deadline) () k (resume (.delayCommand deadline) () rt k) := by
  dsimp only [resume]
  split
  · rename_i hp
    exact .move (.delayPending hp)
  · rename_i hp
    exact .move (.delayLoop (by simpa using hp))

theorem resume_cases {callee caller : Fn} (f : Frame callee caller) (v : callee.Value)
    (k : Stack caller) (h : rt.Wf) (hst : rt.Started) : Resumed rt f v k (resume f v rt k) := by
  cases f with
  | runCommand => exact .loop .command
  | runJoin =>
    cases v with
    | error e => exact .joinError e
    | ok u => exact .loop .join
  | runShutdown => exact .shutdownEnd v
  | commandReply reply => exact .replied v
  | removeDetach =>
    cases v with
    | error e => exact .move (.removeDetachErr e)
    | ok u => exact .move .removeDetachOk
  | removeAwait => exact .move (.removeAwait v)
  | removalShutdown l =>
    cases v with
    | error e => exact .move (.removalShutdownErr e)
    | ok u => exact (resume_removalLoop h).1
  | removalJoin l =>
    cases v with
    | error e => exact .move (.removalJoinErr e)
    | ok u => exact (resume_removalLoop h).2
  | removalDetach error =>
    cases v with
    | error e => exact .move (.removalDetachErr e)
    | ok u => cases error <;> exact .move (.removalDetachOk _)
  | controlShutdown => exact .move .controlShutdown
  | controlJoin =>
    cases v with
    | error e => exact .move (.controlJoinErr e)
    | ok u => exact resume_controlJoin
  | queueShutdown => exact .queued v
  | shutdownDrain =>
    cases v with
    | error e => exact .move (.shutdownDrainErr e)
    | ok u =>
      simp only [resume, h.finishWithExit, ok_bind]
      exact .shutdownDrained
  | groupDrain => exact .move (.groupDrain v)
  | drainFirst reason maxGrace =>
    cases v with
    | error e => exact .move (.drainFirstErr e)
    | ok u => exact resume_drainFirst
  | drainSecond reason timedOut =>
    cases v with
    | error e => exact .move (.drainSecondErr e)
    | ok u => exact resume_drainSecond
  | detachDrain key reason =>
    cases v with
    | error e => exact .move (.detachErr e)
    | ok u => exact resume_detachDrain h
  | joinedOneForOne => exact .move (.joinedOneForOne v)
  | joinedOneForAll => exact .move (.joinedOneForAll v)
  | oneForOneDelay key generation =>
    match v with
    | .error e => exact .move (.oneDelayErr e)
    | .ok false => exact .move .oneDelayFalse
    | .ok true => exact resume_oneForOneDelay h hst
  | oneForAllDelay key =>
    match v with
    | .error e => exact .move (.allDelayErr e)
    | .ok false => exact .move .allDelayFalse
    | .ok true => exact resume_oneForAllDelay
  | oneForAllDrain =>
    cases v with
    | error e => exact .move (.allDrainErr e)
    | ok u =>
      rw [resume_groupRespawn h hst]
      exact .groupRespawn
  | delayShutdown => exact .move .delayShutdown
  | delayZeroCommand => exact resume_delayZeroCommand
  | delayCommand deadline => exact resume_delayCommand

theorem Resumed.rule {callee caller : Fn} {f : Frame callee caller} {v : callee.Value} {k : Stack caller}
    {x : Except Panic Config} (hx : Resumed rt f v k x) (h : rt.Wf) :
    Rule rt (.ret (.push f k) v) .resume (settle rt x).rt (settle rt x).ctrl := by
  cases hx with
  | move hm => exact .move hm
  | loop hc => exact runLoop_rule h hc
  | joinError e => exact .joinError e
  | shutdownEnd v => exact .shutdownEnd v
  | replied v => exact .replied v
  | queued v => exact .queued v
  | shutdownDrained => exact .shutdownDrained
  | drainEmpty hl => exact .drainNext .first (.done (.inl hl))
  | graceless => exact .drainNext .first (h.drainAfterGrace_next ..)
  | @grace reason grace _ _ =>
    unfold instantAdd
    cases rt.now.checkedAdd grace with
    | none => exact .overflow
    | some deadline => exact .drainNext .first (h.drainLoop_next ..)
  | swept hn => exact .drainNext .second (.done (.inr hn))
  | detachGone he => exact .detachGone he
  | detach he => exact .detach he
  | vacantOne he => exact .vacantOne he
  | vacantAll hd he => exact .vacantAll hd he
  | respawn he hm => exact .respawn he hm
  | groupDrain => exact .groupDrain
  | groupRespawn => exact .groupRespawn

end

/-- Every step from a sane configuration is one of the rules. -/
theorem step_rule {c c' : Config} {a : Act} (h : c.Sane) (hs : step c a = some c') :
    Rule c.rt c.ctrl a c'.rt c'.ctrl := by
  obtain ⟨rt, ctrl⟩ := c
  cases a with
  | run w =>
    cases ctrl with
    | await p k =>
      obtain ⟨x, hx, rfl⟩ := Option.map_eq_some_iff.1 hs
      exact (wake_cases h.wf hx).rule h.wf h.removal
    | _ => cases hs
  | resume =>
    cases ctrl with
    | ret k v =>
      have hst : rt.Started := (h.started.resolve_left nofun).resolve_left nofun
      cases k with
      | nil => cases hs; exact .runEnd v
      | push f k => cases hs; exact (resume_cases f v k h.wf hst).rule h.wf
    | _ => cases hs
  | _ =>
    simp only [step, Option.map_eq_some_iff] at hs
    obtain ⟨rt', henv, rfl⟩ := hs
    exact .env henv

end TokioSupervisor
