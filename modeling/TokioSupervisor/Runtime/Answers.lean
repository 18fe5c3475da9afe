import TokioSupervisor.Runtime.Commands
import TokioSupervisor.Runtime.Progress

/-!
# Every call is answered once

A call of `add_child` or `remove_child` is in the channel, or with the runtime, or its caller has an answer.
`remove_child` runs under a `commandReply` frame that answers its caller, and while it waits, or while a restart
is delayed, other commands are served. No command is lost or answered twice, whatever happens meanwhile
(`run_answered`), and the supervisor never keeps a caller waiting for good (`run_answers_all`).
-/

namespace TokioSupervisor
open Lib SupervisorRuntime

/-! ### Where a call is -/

def Action.answeredReply : Action → Option Nat
  | .replied reply _ | .unavailable reply => some reply
  | _ => none

/-- The calls that have been answered, newest first. -/
def answeredReplies (trace : List Action) : List Nat := trace.filterMap Action.answeredReply

def Frame.serving : {callee caller : Fn} → Frame callee caller → Option Nat
  | _, _, .commandReply reply => some reply
  | _, _, _ => none

/-- The calls that suspended calls of `handle_command` will answer, innermost first. -/
def Stack.serving : {fn : Fn} → Stack fn → List Nat
  | _, .nil => []
  | _, .push f k => f.serving.toList ++ k.serving

def Ctrl.serving : Ctrl → List Nat
  | .await _ k | .ret k _ => k.serving
  | .finished _ | .panicked _ => []

namespace SupervisorRuntime

/-- The calls that wait in the channel or have been answered. -/
def settled (rt : SupervisorRuntime) : List Nat := rt.commandRx.queue.map (·.reply) ++ answeredReplies rt.trace

end SupervisorRuntime

/-- All the calls that are known of. -/
def Config.calls (c : Config) : List Nat := c.ctrl.serving ++ c.rt.settled

/-! ### What keeps the calls -/

namespace SupervisorRuntime
variable {rt rt' : SupervisorRuntime} {ctrl : Ctrl} {a : Act} {key : ChildKey} {e : ChildEntry}

theorem dropReceiver_settled (rt : SupervisorRuntime) : rt.dropReceiver.settled.Perm rt.settled := by
  have hdropped : answeredReplies (rt.commandRx.queue.reverse.map fun c => Action.unavailable c.reply) =
      (rt.commandRx.queue.map (·.reply)).reverse := by
    rw [answeredReplies, List.filterMap_map, ← List.map_reverse, ← List.filterMap_eq_map]
    rfl
  have heq : rt.dropReceiver.settled = (rt.commandRx.queue.map (·.reply)).reverse ++ answeredReplies rt.trace := by
    rw [← hdropped]
    exact List.filterMap_append
  rw [heq]
  exact (List.reverse_perm _).append_right _

theorem subRunning_settled (rt : SupervisorRuntime) (n : Nat) : (rt.subRunning n).settled = rt.settled := by
  unfold subRunning
  split <;> rfl

theorem cancelledChild_settled (rt : SupervisorRuntime) (e : ChildEntry) :
    (rt.cancelledChild e).settled = rt.settled := by
  unfold cancelledChild
  split <;> rfl

theorem abortedChild_settled (rt : SupervisorRuntime) (e : ChildEntry) :
    (rt.abortedChild e).settled = rt.settled := by
  unfold abortedChild
  split <;> rfl

theorem abortMatchingChildren_settled (rt : SupervisorRuntime) (predicate : ChildEntry → Bool) :
    (rt.abortMatchingChildren predicate).settled = rt.settled :=
  abortMatchingChildren_field (·.settled) abortedChild_settled predicate

theorem swept_settled (rt : SupervisorRuntime) : rt.swept.settled = rt.settled :=
  abortMatchingChildren_settled ..

theorem Wf.cancelRunningChildren_settled (h : rt.Wf) : rt.cancelRunningChildren.settled = rt.settled := by
  obtain ⟨C, n, heq, -⟩ := h.cancelRunningChildren
  rw [heq]
  exact subRunning_settled { rt with children := C } n

theorem Wf.halted_settled (h : rt.Wf) : rt.halted.settled = rt.settled := by
  have hcancel := (show Wf { rt with state := .stopping } from h).cancelRunningChildren_settled
  exact (swept_settled _).trans hcancel

theorem spawnedAll_settled (rt : SupervisorRuntime) (keys : List ChildKey) :
    (rt.spawnedAll keys).settled = rt.settled := by
  induction keys generalizing rt with
  | nil => rfl
  | cons key rest ih =>
    rw [spawnedAll]
    cases rt.children.get key with
    | none => exact ih rt
    | some e => exact ih (rt.spawned key e)

theorem respawnedAll_settled (rt : SupervisorRuntime) (keys : List ChildKey) :
    (rt.respawnedAll keys).settled = rt.settled := by
  induction keys generalizing rt with
  | nil => rfl
  | cons key rest ih =>
    rw [respawnedAll]
    cases rt.children.get key with
    | none => exact ih rt
    | some e =>
      dsimp only
      split
      · exact ih (rt.restarted key e)
      · exact ih rt

theorem exited_settled (rt : SupervisorRuntime) (t : Task) (e : ChildEntry) (outcome : TaskOutcome) :
    (rt.exited t e outcome).settled = rt.settled :=
  subRunning_settled ((rt.consumed t).log (.exited t.info.key e.instanceId t.info.generation outcome.status
    ((rt.consumed t).demandsRestart e outcome.status))) (if e.counts then 1 else 0)

theorem requested_settled (rt : SupervisorRuntime) (reply : Nat) (key : ChildKey) (e : ChildEntry) :
    (rt.requested reply key e).settled = rt.settled :=
  subRunning_settled (rt.setEntry key e.requested) (if e.counts then 1 else 0)

theorem drainedJoin_settled {t : Task} {outcome : TaskOutcome} {reason : DrainReason}
    (h : DrainedJoin rt t outcome reason rt') : rt'.settled = rt.settled := by
  cases h with
  | stale => rfl
  | @exited e | @temporary e => exact exited_settled rt t e outcome

theorem joinOutcome_settled {t : Task} {outcome : TaskOutcome} {k : Stack .handleJoinedChild}
    (h : JoinOutcome rt t outcome k rt' ctrl) : rt'.settled = rt.settled := by
  cases h with
  | stale => rfl
  | @stopping e | @removed e | @settled e | @overrunOne e | @overrunAll e | @scheduledOne e | @scheduledAll e =>
    exact exited_settled rt t e outcome

theorem drainNext_settled {reason : DrainReason} {k : Stack (.drainChildren reason)}
    (h : DrainNext rt reason k rt' ctrl) : rt'.settled = rt.settled := by
  cases h with
  | abort => exact abortMatchingChildren_settled ..
  | _ => rfl

theorem atLoop_settled (h : AtLoop rt ctrl a rt') : rt'.settled = rt.settled := by
  cases h <;> rfl

theorem loopHead_settled (h : LoopHead rt rt' ctrl) : rt'.settled.Perm rt.settled := by
  cases h with
  | exit => exact dropReceiver_settled { rt with pendingExit := none }
  | natural => exact dropReceiver_settled (rt.finishedWith rt.naturalExit)
  | wait => rfl

end SupervisorRuntime

section
variable {rt rt' : SupervisorRuntime} {ctrl ctrl' : Ctrl} {a : Act} {c c' : Config}

theorem Stack.serving_run (k : Stack .run) : k.serving = [] := by
  cases k with
  | nil => rfl
  | push f k => cases f

theorem RemovalHead.serving {l : Removal} {k : Stack .awaitChildRemoval} (h : RemovalHead rt l k ctrl) :
    ctrl.serving = k.serving := by
  cases h <;> rfl

theorem LoopHead.serving (h : LoopHead rt rt' ctrl) : ctrl.serving = [] := by
  cases h <;> rfl

theorem AtLoop.serving (h : AtLoop rt ctrl a rt') : ctrl.serving = [] := by
  cases h <;> exact Stack.serving_run _

theorem BeginsShutdown.serving {k : Stack .shutdownAll} (h : BeginsShutdown ctrl a k) :
    ctrl.serving = k.serving := by
  cases h <;> rfl

theorem HandlesCommand.serving {k : Stack .handleCommand} (h : HandlesCommand ctrl k) :
    ctrl.serving = k.serving := by
  cases h <;> rfl

theorem HandlesJoin.serving {k : Stack .handleJoinedChild} (h : HandlesJoin ctrl k) :
    ctrl.serving = k.serving := by
  cases h <;> rfl

theorem DrainGoesOn.serving {reason : DrainReason} {k : Stack (.drainChildren reason)}
    (h : DrainGoesOn ctrl a reason k) : ctrl.serving = k.serving := by
  cases h <;> rfl

theorem DrainNext.serving {reason : DrainReason} {k : Stack (.drainChildren reason)}
    (h : DrainNext rt reason k rt' ctrl) : ctrl.serving = k.serving := by
  cases h <;> rfl

theorem JoinOutcome.serving {t : Task} {outcome : TaskOutcome} {k : Stack .handleJoinedChild}
    (h : JoinOutcome rt t outcome k rt' ctrl) : ctrl.serving = k.serving := by
  cases h <;> rfl

theorem Move.serving (h : Move rt ctrl a ctrl') : ctrl'.serving = ctrl.serving := by
  cases h with
  | removalShutdownOk hr | removalJoinOk hr => exact hr.serving
  | _ => rfl

/-! ### Steps -/

theorem calls_perm (hserving : ctrl'.serving = ctrl.serving) (hsettled : rt'.settled.Perm rt.settled) :
    (Config.mk rt' ctrl').calls.Perm (Config.mk rt ctrl).calls := by
  rw [Config.calls, Config.calls, hserving]
  exact hsettled.append_left _

theorem calls_eq (hserving : ctrl'.serving = ctrl.serving) (hsettled : rt'.settled = rt.settled) :
    (Config.mk rt' ctrl').calls.Perm (Config.mk rt ctrl).calls :=
  calls_perm hserving (hsettled ▸ .refl _)

theorem answered_calls (rt : SupervisorRuntime) (serving : List Nat) (reply : Nat) :
    (serving ++ (rt.commandRx.queue.map (·.reply) ++ reply :: answeredReplies rt.trace)).Perm
      (reply :: (serving ++ rt.settled)) :=
  (List.perm_middle.append_left _).trans List.perm_middle

theorem CommandOutcome.calls {key : ChildKey} {k : Stack .handleCommand} {cmd : SupervisorCommand}
    (h : CommandOutcome rt key k cmd rt' ctrl') :
    (Config.mk rt' ctrl').calls.Perm (cmd.reply :: (k.serving ++ rt.settled)) := by
  have hserved {reply : Nat} {rt' : SupervisorRuntime} {ctrl' : Ctrl} (hs : ctrl'.serving = reply :: k.serving)
      (hr : rt'.settled = rt.settled) :
      (Config.mk rt' ctrl').calls.Perm (reply :: (k.serving ++ rt.settled)) := by
    rw [Config.calls, hs, hr]
    exact .refl _
  cases h with
  | @addRefused child reply | @added child reply => exact answered_calls rt k.serving reply
  | removeRefused => exact hserved rfl rfl
  | @removed reply target e => exact hserved rfl (requested_settled (rt.log (.handled reply)) reply target e)
  | @removeAbort reply target e =>
    exact hserved rfl ((abortedChild_settled _ e.requested).trans
      (requested_settled (rt.log (.handled reply)) reply target e))
  | @removeWait reply target e =>
    exact hserved rfl ((cancelledChild_settled _ e.requested).trans
      (requested_settled (rt.log (.handled reply)) reply target e))

theorem envStep_settled (h : envStep rt a = some rt') :
    rt'.settled.Perm (rt.settled ++ a.sentReply.toList) := by
  cases a with
  | send cmd =>
    obtain ⟨-, h⟩ := (Option.ite_none_left_eq_some ..).1 h
    split at h
    · cases h
      exact (List.perm_middle.trans (List.perm_append_singleton _ _).symm)
    · obtain ⟨-, h⟩ := (Option.ite_none_right_eq_some ..).1 h
      cases h
      have hqueue : (rt.commandRx.queue ++ [cmd]).map (·.reply) = rt.commandRx.queue.map (·.reply) ++ [cmd.reply] :=
        List.map_append
      rw [SupervisorRuntime.settled, SupervisorRuntime.settled, hqueue, List.append_assoc, List.append_assoc]
      exact List.perm_append_comm.append_left _
  | tick nanos wallClock =>
    obtain ⟨-, h⟩ := (Option.ite_none_right_eq_some ..).1 h
    cases h
    exact .of_eq (List.append_nil _).symm
  | requestShutdown =>
    obtain ⟨-, h⟩ := (Option.ite_none_left_eq_some ..).1 h
    cases h
    exact .of_eq (List.append_nil _).symm
  | finish task outcome =>
    obtain ⟨js, -, rfl⟩ := Option.map_eq_some_iff.1 h
    exact .of_eq (List.append_nil _).symm
  | notify n =>
    obtain ⟨-, h⟩ := (Option.ite_none_right_eq_some ..).1 h
    cases h
    exact .of_eq (List.append_nil _).symm
  | run w | resume => cases h
  | _ =>
    cases h
    exact .of_eq (List.append_nil _).symm

/-- What the runtime does moves a call on, unless it panics. -/
theorem Rule.calls (h : Rule rt ctrl a rt' ctrl') (hwf : rt.Wf) (ha : envStep rt a = none) :
    (Config.mk rt' ctrl').calls.Perm (Config.mk rt ctrl).calls ∨
      (∃ p, ctrl' = .panicked p) ∧ rt'.settled.Perm rt.settled := by
  cases h with
  | env henv =>
    rw [ha] at henv
    cases henv
  | overflow | vacantOne | vacantAll => exact .inr ⟨⟨_, rfl⟩, dropReceiver_settled rt⟩
  | move hm => exact .inl (calls_eq hm.serving rfl)
  | start hl =>
    have hspawned : ((rt.emitted none .supervisorStarted).spawnedAll rt.childOrder).settled = rt.settled :=
      spawnedAll_settled ..
    exact .inl (calls_perm (hl.serving.trans (Stack.serving_run _).symm) (hspawned ▸ loopHead_settled hl))
  | loop hc hl =>
    exact .inl (calls_perm (hl.serving.trans hc.serving.symm) ((loopHead_settled hl).trans (.of_eq (atLoop_settled hc))))
  | natural => exact .inl (calls_perm (Stack.serving_run _).symm (dropReceiver_settled (rt.finishedWith rt.naturalExit)))
  | joinError | shutdownEnd => exact .inl (calls_perm (Stack.serving_run _).symm (dropReceiver_settled rt))
  | runEnd => exact .inl (calls_perm rfl (dropReceiver_settled rt))
  | shutdown hb hrt =>
    rcases hrt with rfl | rfl
    · exact .inl (calls_eq hb.serving.symm hwf.halted_settled)
    · exact .inl (calls_eq hb.serving.symm (show Wf rt.seen from hwf).halted_settled)
  | @command _ _ k key cmd rest _ hh hv hq ho =>
    refine .inl (ho.calls.trans ?_)
    rw [Config.calls, hh.serving, SupervisorRuntime.settled, SupervisorRuntime.settled, hq]
    exact List.perm_middle.symm
  | @replied k reply v => exact .inl (answered_calls rt k.serving reply)
  | join hh hf ho => exact .inl (calls_eq (ho.serving.trans hh.serving.symm) (joinOutcome_settled ho))
  | readyJoin hf hd => exact .inl (calls_eq rfl (drainedJoin_settled hd))
  | drainJoin hf hd hn => exact .inl (calls_eq hn.serving ((drainNext_settled hn).trans (drainedJoin_settled hd)))
  | drainNext hd hn => exact .inl (calls_eq (hn.serving.trans hd.serving.symm) (drainNext_settled hn))
  | groupDrain =>
    exact .inl (calls_eq rfl ((swept_settled _).trans hwf.cancelRunningChildren_settled))
  | groupRespawn => exact .inl (calls_eq rfl (respawnedAll_settled ..))
  | removalSeen hr => exact .inl (calls_eq hr.serving rfl)
  | removalTimer he => exact .inl (calls_eq rfl (abortedChild_settled ..))
  | _ => exact .inl (calls_eq rfl rfl)

theorem step_calls (hs : c.Sane) (hstep : step c a = some c') :
    c'.calls.Perm (c.calls ++ a.sentReply.toList) ∨
      (∃ p, c'.ctrl = .panicked p) ∧ c'.rt.settled.Perm c.rt.settled ∧ a.sentReply = none := by
  have hr := step_rule hs hstep
  rcases step_cases hstep with ⟨w, rfl⟩ | rfl | ⟨hctrl, henv⟩
  · rw [show (Act.run w).sentReply.toList = [] from rfl, List.append_nil]
    exact (hr.calls hs.wf rfl).imp id fun h => ⟨h.1, h.2, rfl⟩
  · rw [show Act.resume.sentReply.toList = [] from rfl, List.append_nil]
    exact (hr.calls hs.wf rfl).imp id fun h => ⟨h.1, h.2, rfl⟩
  · left
    rw [Config.calls, Config.calls, hctrl, List.append_assoc]
    exact (envStep_settled henv).append_left _

/-! ### The channel at the end of its use -/

/-- The channel is empty and stays so once nobody receives from it. -/
structure Config.Deserted (c : Config) : Prop where
  unheard : c.rt.commandsOpen = false → c.rt.CommandsOver
  ended : c.ctrl.ended = true → c.rt.commandRx.queue = [] ∧ c.rt.commandRx.closed = true

theorem Update.commandsOver {rt₁ rt₂ : SupervisorRuntime} (h : Update c a c' rt₁ rt₂) (hwf : rt₁.Wf)
    (ha : a.sentReply = none) (hI : rt₁.commandsOpen = false → rt₁.CommandsOver) :
    rt₂.commandsOpen = false → rt₂.CommandsOver := by
  have hsame (hq : rt₂.commandRx = rt₁.commandRx ∧ rt₂.commandsOpen = rt₁.commandsOpen) :
      rt₂.commandsOpen = false → rt₂.CommandsOver := by
    intro ho
    obtain ⟨hqueue, hleft⟩ := hI (hq.2 ▸ ho)
    exact ⟨hq.1 ▸ hqueue, hq.1 ▸ hleft⟩
  cases h with
  | sent hsend =>
    rw [hsend] at ha
    cases ha
  | received hq =>
    intro ho
    have hover := hI ho
    rw [hover.queue] at hq
    cases hq
  | abandoned => exact fun ho => ⟨(hI ho).queue, .inr rfl⟩
  | noneLeft ho => exact fun _ => ⟨ho.queue, ho.noneLeft⟩
  | close => exact fun ho => ⟨(hI ho).queue, .inl rfl⟩
  | dropped => exact fun _ => ⟨rfl, .inl rfl⟩
  | @removed key e reply =>
    have hrequested := requested_commands rt₁ reply key e
    have hfinalized := finalized_commands (rt₁.requested reply key e) key e.requested
    exact hsame ⟨hfinalized.1.trans hrequested.1, hfinalized.2.trans hrequested.2⟩
  | @exited t e outcome => exact hsame (exited_commands rt₁ t e outcome)
  | cancelled =>
    refine hsame ?_
    unfold SupervisorRuntime.cancelledChild
    split <;> exact ⟨rfl, rfl⟩
  | aborted =>
    refine hsame ?_
    unfold SupervisorRuntime.abortedChild
    split <;> exact ⟨rfl, rfl⟩
  | cancelledAll =>
    obtain ⟨C, n, heq, -⟩ := hwf.cancelRunningChildren
    refine hsame ?_
    rw [heq]
    exact ⟨rfl, rfl⟩
  | _ => exact hsame ⟨rfl, rfl⟩

theorem LoopHead.ended (h : LoopHead rt rt' ctrl) (hend : ctrl.ended = true) :
    rt'.commandRx.queue = [] ∧ rt'.commandRx.closed = true := by
  cases h with
  | wait => cases hend
  | _ => exact ⟨rfl, rfl⟩

theorem Rule.deserts (h : Rule rt ctrl a rt' ctrl') (ha : envStep rt a = none) (hend : ctrl'.ended = true) :
    rt'.commandRx.queue = [] ∧ rt'.commandRx.closed = true := by
  cases h with
  | env henv =>
    rw [ha] at henv
    cases henv
  | overflow | vacantOne | vacantAll | natural | joinError | shutdownEnd | runEnd => exact ⟨rfl, rfl⟩
  | start hl | loop _ hl => exact hl.ended hend
  | move hm =>
    cases hm with
    | removalShutdownOk hr | removalJoinOk hr => cases hr <;> cases hend
    | _ => cases hend
  | removalSeen hr => cases hr <;> cases hend
  | drainNext _ hn | drainJoin _ _ hn => cases hn <;> cases hend
  | command _ _ _ ho => cases ho <;> cases hend
  | join _ _ ho => cases ho <;> cases hend
  | _ => cases hend

/-- Nothing is sent to a channel that is closed or has no senders. -/
theorem envStep_queue (h : envStep rt a = some rt') : rt'.commandsOpen = rt.commandsOpen ∧
    (rt.commandRx.closed = true ∨ rt.commandRx.senders = false → rt'.commandRx.queue = rt.commandRx.queue ∧
      (rt'.commandRx.closed = true ∨ rt'.commandRx.senders = false)) := by
  cases a with
  | send cmd =>
    obtain ⟨hsenders, h⟩ := (Option.ite_none_left_eq_some ..).1 h
    split at h
    · cases h
      exact ⟨rfl, fun hleft => ⟨rfl, hleft⟩⟩
    · rename_i hclosed
      obtain ⟨-, h⟩ := (Option.ite_none_right_eq_some ..).1 h
      cases h
      refine ⟨rfl, fun hleft => ?_⟩
      rcases hleft with hleft | hleft
      · exact absurd hleft hclosed
      · rw [hleft] at hsenders
        exact absurd rfl hsenders
  | tick nanos wallClock =>
    obtain ⟨-, h⟩ := (Option.ite_none_right_eq_some ..).1 h
    cases h
    exact ⟨rfl, fun hleft => ⟨rfl, hleft⟩⟩
  | requestShutdown =>
    obtain ⟨-, h⟩ := (Option.ite_none_left_eq_some ..).1 h
    cases h
    exact ⟨rfl, fun hleft => ⟨rfl, hleft⟩⟩
  | finish task outcome =>
    obtain ⟨js, -, rfl⟩ := Option.map_eq_some_iff.1 h
    exact ⟨rfl, fun hleft => ⟨rfl, hleft⟩⟩
  | notify n =>
    obtain ⟨-, h⟩ := (Option.ite_none_right_eq_some ..).1 h
    cases h
    exact ⟨rfl, fun hleft => ⟨rfl, hleft⟩⟩
  | dropCommandSenders =>
    cases h
    exact ⟨rfl, fun _ => ⟨rfl, .inr rfl⟩⟩
  | run w | resume => cases h
  | _ =>
    cases h
    exact ⟨rfl, fun hleft => ⟨rfl, hleft⟩⟩

theorem step_deserted (hs : c.Sane) (hI : c.Deserted) (hstep : step c a = some c') : c'.Deserted := by
  have hr := step_rule hs hstep
  have hown (henv : envStep c.rt a = none) (ha : a.sentReply = none) : c'.Deserted :=
    ⟨((hr.updates hs.wf).invariant hs.wf hI.unheard fun rt rt' hwf hI hu => hu.commandsOver hwf ha hI).2,
      hr.deserts henv⟩
  rcases step_cases hstep with ⟨w, rfl⟩ | rfl | ⟨hctrl, henv⟩
  · exact hown rfl rfl
  · exact hown rfl rfl
  · refine ⟨fun ho => ?_, fun hend => ?_⟩
    · obtain ⟨hopen, hkeeps⟩ := envStep_queue henv
      obtain ⟨hqueue, hleft⟩ := hI.unheard (hopen ▸ ho)
      exact ⟨(hkeeps hleft).1.trans hqueue, (hkeeps hleft).2⟩
    · rw [hctrl] at hend
      obtain ⟨hqueue, hclosed⟩ := hI.ended hend
      exact ⟨((envStep_queue henv).2 (.inl hclosed)).1.trans hqueue, (envStep_frame henv).closed.trans hclosed⟩

end

/-! ### Every run -/

section
variable {config : SupervisorConfig} {env : StartEnv} {as : List Act} {c : Config}

theorem run_deserted (h : config.Accepted) (hrun : AnyRun step (Config.start config env) as c) : c.Deserted := by
  refine hrun.invariant_of (I := Config.Deserted) (fun _ _ h' => run_sane h h') ?_
    fun c a c' hs hI _ hstep => step_deserted hs hI hstep
  obtain ⟨hclosed, hqueue, hopen⟩ := (h.fresh env).commands
  refine ⟨fun ho => ?_, fun hend => ?_⟩
  · have ho : (SupervisorRuntime.new config env).commandsOpen = false := ho
    rw [hopen] at ho
    cases ho
  · cases hend

/-- The calls are those whose commands were sent; a panic of the supervisor may lose what it is serving. -/
theorem run_calls (h : config.Accepted) (hrun : AnyRun step (Config.start config env) as c) :
    c.calls.Subperm (sentReplies as) ∧
      ((∀ p, c.ctrl ≠ .panicked p) → c.calls.Perm (sentReplies as)) := by
  induction hrun with
  | nil =>
    obtain ⟨-, hqueue, -⟩ := (h.fresh env).commands
    have htrace := (h.fresh env).trace
    have hnil : (Config.start config env).calls = [] := by
      show (SupervisorRuntime.new config env).settled = []
      rw [SupervisorRuntime.settled, hqueue, htrace]
      rfl
    rw [hnil]
    exact ⟨.refl _, fun _ => .refl _⟩
  | @snoc as a c c' run _ hstep ih =>
    rw [sentReplies_snoc]
    rcases step_calls (run_sane h run) hstep with hperm | ⟨⟨p, hp⟩, hsettled, hnone⟩
    · refine ⟨hperm.subperm.trans ((List.subperm_append_right _).2 ih.1), fun hp => ?_⟩
      have hbefore : ∀ p, c.ctrl ≠ .panicked p := by
        intro p hc
        refine hp p ?_
        rw [(ended_step (by rw [hc]; rfl) hstep).1, hc]
      exact hperm.trans ((ih.2 hbefore).append_right _)
    · refine ⟨?_, fun hp' => absurd hp (hp' p)⟩
      rw [hnone, Option.toList_none, List.append_nil, Config.calls, hp]
      refine List.Subperm.trans ?_ ih.1
      exact hsettled.subperm.trans (List.sublist_append_right _ _).subperm

/-- No call is answered twice or without having been made, none is lost while the supervisor runs, and when it
has returned every one has its answer. -/
theorem run_answered (h : config.Accepted) (hrun : AnyRun step (Config.start config env) as c) :
    (answeredReplies c.rt.trace).Subperm (sentReplies as) ∧
      ((∀ p, c.ctrl ≠ .panicked p) → (c.ctrl.serving ++ (c.rt.commandRx.queue.map (·.reply) ++
        answeredReplies c.rt.trace)).Perm (sentReplies as)) ∧
      ∀ r, c.ctrl = .finished r → (answeredReplies c.rt.trace).Perm (sentReplies as) := by
  obtain ⟨hsub, hperm⟩ := run_calls h hrun
  refine ⟨?_, hperm, fun r hr => ?_⟩
  · have hpart : (answeredReplies c.rt.trace).Sublist c.calls :=
      (List.sublist_append_right _ _).trans (List.sublist_append_right _ _)
    exact hpart.subperm.trans hsub
  · have hall := hperm (by rw [hr]; exact nofun)
    rw [Config.calls, SupervisorRuntime.settled, ((run_deserted h hrun).ended (by rw [hr]; rfl)).1, hr] at hall
    exact hall

/-- One call is answered while `a` waits for its restart, one is served and one is queued. -/
theorem run_answered_delay : ∃ c : Config, (c.ctrl.serving, answeredReplies c.rt.trace) = ([0], [1]) ∧
    (c.ctrl.serving ++ (c.rt.commandRx.queue.map (·.reply) ++ answeredReplies c.rt.trace)).Perm [1, 0, 2] := by
  have hex : ∃ c, AnyRun step (Config.start promptConfig ⟨false, 0, 0⟩)
      [.run .go, .finish 0 (.returned (.error "failed")), .run (.join 0), .run .go, .send (.removeChild "z" 1),
        .send (.removeChild "b" 0), .run .go, .run (.command 2), .resume, .resume, .run (.command 2),
        .send (.removeChild "a" 2)] c ∧
      (c.ctrl.serving, answeredReplies c.rt.trace) = ([0], [1]) :=
    anyRun_of_exec (f := fun c : Config => (c.ctrl.serving, answeredReplies c.rt.trace)) (by decide +kernel)
  obtain ⟨c, hrun, heq⟩ := hex
  refine ⟨c, heq, (run_answered promptConfig_accepted hrun).2.1 fun p hp => ?_⟩
  rw [hp] at heq
  cases heq

theorem sentReplies_unaided {c c' : Config} {as : List Act} (hrun : Run step (fun _ a => a.unaided = true) c as c') :
    sentReplies as = [] := by
  induction hrun with
  | nil => rfl
  | @snoc as a _ _ _ ha _ ih =>
    rw [sentReplies_snoc, ih]
    cases a <;> first | rfl | cases ha

/-- At a main loop that waits for something, no call is left. -/
theorem calls_of_idle (hd : c.Deserted) (hsel : c.ctrl.atSelect = true) (hidle : c.idle = true) :
    c.calls = answeredReplies c.rt.trace := by
  obtain ⟨rt, ctrl⟩ := c
  cases ctrl with
  | await p k =>
    cases p with
    | runSelect =>
      have hqueue : rt.commandRx.queue = [] := by
        simp only [Config.idle, Bool.and_eq_true, Bool.not_eq_true'] at hidle
        have hready := hidle.1.1.2
        unfold commandReady at hready
        cases hopen : rt.commandsOpen with
        | false => exact (hd.unheard hopen).queue
        | true =>
          rw [hopen, Bool.true_and] at hready
          simp only [CommandChannel.ready, Bool.or_eq_false_iff, Bool.not_eq_false', List.isEmpty_iff] at hready
          exact hready.1.1
      rw [Config.calls, SupervisorRuntime.settled, hqueue]
      exact congrArg (· ++ _) (Stack.serving_run k)
    | _ => cases hsel
  | _ => cases hsel

/-- Wherever a run has got to, the supervisor's own steps and the clock lead to where every call made so far has
been answered exactly once, unless the supervisor panics. -/
theorem run_answers_all (h : config.Accepted) (hrun : AnyRun step (Config.start config env) as c) :
    ∃ as' c', Run step (fun _ a => a.unaided = true) c as' c' ∧
      ((∃ p, c'.ctrl = .panicked p) ∨ (answeredReplies c'.rt.trace).Perm (sentReplies as)) := by
  obtain ⟨as', c', hrun', hends⟩ := run_returns h hrun
  have hboth := hrun.trans hrun'.any
  have hsent : sentReplies (as ++ as') = sentReplies as := by
    have happend : sentReplies (as ++ as') = sentReplies as ++ sentReplies as' := List.filterMap_append
    rw [happend, sentReplies_unaided hrun', List.append_nil]
  have hanswered := run_answered h hboth
  rw [hsent] at hanswered
  refine ⟨as', c', hrun', ?_⟩
  rcases hends with hend | ⟨hsel, hidle, -⟩
  · cases hc : c'.ctrl with
    | finished r => exact .inr (hanswered.2.2 r hc)
    | panicked p => exact .inl ⟨p, rfl⟩
    | await p k | ret k v =>
      rw [hc] at hend
      cases hend
  · have hcalls := calls_of_idle (run_deserted h hboth) hsel hidle
    have hall := (run_calls h hboth).2 fun p hp => by
      rw [hp] at hsel
      cases hsel
    rw [hcalls, hsent] at hall
    exact .inr hall

/-- A call waits for the removal of `b`, which does not end, and another one waits for that. -/
theorem run_answers_all_removal : ∃ c : Config, c.ctrl.serving = [0] ∧ ∃ as' c',
    Run step (fun _ a => a.unaided = true) c as' c' ∧
      ((∃ p, c'.ctrl = .panicked p) ∨ (answeredReplies c'.rt.trace).Perm [0, 1]) := by
  have hex : ∃ c, AnyRun step (Config.start promptConfig ⟨false, 0, 0⟩)
      [.run .go, .send (.removeChild "b" 0), .send (.removeChild "a" 1), .run (.command 2)] c ∧
      c.ctrl.serving = [0] :=
    anyRun_of_exec (f := fun c : Config => c.ctrl.serving) (by decide +kernel)
  obtain ⟨c, hrun, hserving⟩ := hex
  exact ⟨c, hserving, run_answers_all promptConfig_accepted hrun⟩

end

end TokioSupervisor
