import TokioSupervisor.Runtime.Traces
import TokioSupervisor.Runtime.Errors
import TokioSupervisor.Runtime.Group

/-!
# The command channel

The runtime receives every command that was sent, in order, as long as it keeps its receiver open. A
drain closes the receiver, and the drain of a group restart does so in a supervisor that goes on
running (`closed_receiver_reached`); `keepsReceiver` says that no such drain begins.
-/

namespace TokioSupervisor
open Lib SupervisorRuntime

/-! ### Commands sent and handled -/

def Act.sentReply : Act → Option Nat
  | .send cmd => some cmd.reply
  | _ => none

/-- The calls whose commands were sent, oldest first. -/
def sentReplies (as : List Act) : List Nat := as.filterMap Act.sentReply

def Action.handledReply : Action → Option Nat
  | .handled reply => some reply
  | _ => none

/-- The calls whose commands `handle_command` has received, oldest first. -/
def handledReplies (trace : List Action) : List Nat := (trace.filterMap Action.handledReply).reverse

theorem Grown.handledReplies {P : Action → Prop} {old new : List Action} (h : Grown P old new)
    (hP : ∀ b, P b → b.handledReply = none) : handledReplies new = handledReplies old := by
  unfold TokioSupervisor.handledReplies
  rw [h.filterMap_eq hP]

/-- The step is not the start of a group restart's drain. -/
def keepsReceiver (c : Config) (a : Act) : Bool :=
  !(c.ctrl.startsDrain && a matches .resume)

/-! ### The channel -/

/-- The receiver is open and has lost nothing of what was sent. -/
structure SupervisorRuntime.Receiving (rt : SupervisorRuntime) (sent : List Nat) : Prop where
  closed : rt.commandRx.closed = false
  answered : ∀ reply, .unavailable reply ∉ rt.trace
  /-- Every command sent was handled, in order, or is still queued. -/
  accounted : sent = handledReplies rt.trace ++ rt.commandRx.queue.map (·.reply)
  /-- The runtime only stops listening when nothing can come. -/
  listening : rt.commandsOpen = false → rt.commandRx.queue = [] ∧ rt.commandRx.senders = false

theorem SupervisorRuntime.Receiving.env {rt rt' : SupervisorRuntime} {a : Act} {sent : List Nat}
    (h : rt.Receiving sent) (hs : envStep rt a = some rt') :
    rt'.Receiving (sent ++ (a.sentReply).toList) := by
  have hframe := envStep_frame hs
  have hsame (hq : rt'.commandRx = rt.commandRx) (ho : rt'.commandsOpen = rt.commandsOpen)
      (ht : rt'.trace = rt.trace) (ha : a.sentReply = none) :
      rt'.Receiving (sent ++ (a.sentReply).toList) := by
    refine ⟨by rw [hq]; exact h.closed, by rw [ht]; exact h.answered, ?_, by rw [ho, hq]; exact h.listening⟩
    rw [ha, ht, hq, Option.toList_none, List.append_nil]
    exact h.accounted
  cases a with
  | send cmd =>
    simp only [envStep, Option.ite_none_left_eq_some] at hs
    obtain ⟨hsenders, hs⟩ := hs
    rw [if_neg (by simp [h.closed])] at hs
    simp only [Option.ite_none_right_eq_some, Option.some.injEq] at hs
    obtain ⟨-, rfl⟩ := hs
    refine ⟨h.closed, h.answered, ?_, fun ho => ?_⟩
    · simp [h.accounted, Act.sentReply]
    · exact absurd (h.listening ho).2 (by simpa using hsenders)
  | dropCommandSenders =>
    cases hs
    refine ⟨h.closed, h.answered, ?_, fun ho => ⟨(h.listening ho).1, rfl⟩⟩
    rw [show (Act.dropCommandSenders.sentReply).toList = [] from rfl, List.append_nil]
    exact h.accounted
  | tick nanos wallClock =>
    simp only [envStep, Option.ite_none_right_eq_some, Option.some.injEq] at hs
    obtain ⟨-, rfl⟩ := hs
    exact hsame rfl rfl rfl rfl
  | requestShutdown =>
    simp only [envStep, Option.ite_none_left_eq_some, Option.some.injEq] at hs
    obtain ⟨-, rfl⟩ := hs
    exact hsame rfl rfl rfl rfl
  | finish task outcome =>
    obtain ⟨js, -, rfl⟩ := Option.map_eq_some_iff.1 hs
    exact hsame rfl rfl rfl rfl
  | notify n =>
    simp only [envStep, Option.ite_none_right_eq_some, Option.some.injEq] at hs
    obtain ⟨-, rfl⟩ := hs
    exact hsame rfl rfl rfl rfl
  | run w => cases hs
  | resume => cases hs
  | _ => cases hs; exact hsame rfl rfl rfl rfl

theorem Update.handledReplies {c c' : Config} {a : Act} {rt rt' : SupervisorRuntime}
    (h : Update c a c' rt rt') (hwf : rt.Wf) :
    (∃ cmd rest, rt.commandRx.queue = cmd :: rest ∧ rt' = (rt.received rest).log (.handled cmd.reply)) ∨
      handledReplies rt'.trace = handledReplies rt.trace := by
  by_cases hrec : ∃ cmd rest, rt.commandRx.queue = cmd :: rest ∧
      rt' = (rt.received rest).log (.handled cmd.reply)
  · exact .inl hrec
  · refine .inr ((h.logs hwf).handledReplies fun b hl => ?_)
    cases hl with
    | handled hq hrt => exact absurd ⟨_, _, hq, hrt⟩ hrec
    | plain hb | life hb => cases b <;> first | rfl | cases hb
    | _ => rfl

theorem requested_commands (rt : SupervisorRuntime) (reply : Nat) (key : ChildKey) (e : ChildEntry) :
    (rt.requested reply key e).commandRx = rt.commandRx ∧
      (rt.requested reply key e).commandsOpen = rt.commandsOpen := ⟨rfl, rfl⟩

theorem finalized_commands (rt : SupervisorRuntime) (key : ChildKey) (e : ChildEntry) :
    (rt.finalized key e).commandRx = rt.commandRx ∧
      (rt.finalized key e).commandsOpen = rt.commandsOpen := ⟨rfl, rfl⟩

theorem exited_commands (rt : SupervisorRuntime) (t : Task) (e : ChildEntry) (outcome : TaskOutcome) :
    (rt.exited t e outcome).commandRx = rt.commandRx ∧
      (rt.exited t e outcome).commandsOpen = rt.commandsOpen := ⟨rfl, rfl⟩

theorem Update.commandRx {c c' : Config} {a : Act} {rt rt' : SupervisorRuntime}
    (h : Update c a c' rt rt') (hwf : rt.Wf) (ha : a.sentReply = none) (hok : keepsReceiver c a = true)
    (hs : c'.rt.state = .running) (hend : c'.ctrl.ended = false) :
    rt'.commandRx = rt.commandRx ∧ rt'.commandsOpen = rt.commandsOpen ∨
      (∃ cmd rest, rt.commandRx.queue = cmd :: rest ∧ rt' = (rt.received rest).log (.handled cmd.reply)) ∨
      rt' = { rt with commandRx := { rt.commandRx with senders := false } } ∨
      rt.CommandsOver ∧ rt' = rt.commandsClosed := by
  cases h with
  | sent hsend => rw [hsend] at ha; cases ha
  | received hq => exact .inr (.inl ⟨_, _, hq, rfl⟩)
  | abandoned => exact .inr (.inr (.inl rfl))
  | noneLeft ho => exact .inr (.inr (.inr ⟨ho, rfl⟩))
  | close hd hc =>
    rcases hc with hc | ⟨hc, rfl⟩
    · exact absurd hs hc
    · simp [keepsReceiver, hc] at hok
  | dropped hc => rw [hend] at hc; cases hc
  | @removed key e reply =>
    have hrequested := requested_commands rt reply key e
    have hfinalized := finalized_commands (rt.requested reply key e) key e.requested
    exact .inl ⟨hfinalized.1.trans hrequested.1, hfinalized.2.trans hrequested.2⟩
  | @exited t e outcome => exact .inl (exited_commands rt t e outcome)
  | cancelled _ _ => unfold SupervisorRuntime.cancelledChild; split <;> exact .inl ⟨rfl, rfl⟩
  | aborted _ _ => unfold SupervisorRuntime.abortedChild; split <;> exact .inl ⟨rfl, rfl⟩
  | cancelledAll _ =>
    obtain ⟨C, n, heq, -⟩ := hwf.cancelRunningChildren
    rw [heq]
    exact .inl ⟨rfl, rfl⟩
  | _ => exact .inl ⟨rfl, rfl⟩

/-- The runtime's own steps lose no command either, unless they end the run or close the receiver. -/
theorem Update.receiving {c c' : Config} {a : Act} {rt rt' : SupervisorRuntime} {sent : List Nat}
    (h : Update c a c' rt rt') (hwf : rt.Wf) (ha : a.sentReply = none) (hok : keepsReceiver c a = true)
    (hs : c'.rt.state = .running) (hend : c'.ctrl.ended = false) (hI : rt.Receiving sent) :
    rt'.Receiving sent := by
  have hanswered : ∀ reply, .unavailable reply ∉ rt'.trace := by
    intro reply hb
    rcases (h.logs hwf).mem hb with hb | hl
    · exact hI.answered reply hb
    · cases hl with
      | plain hb | life hb => cases hb
      | dropped hc => rw [hend] at hc; cases hc
      | refused hc => rw [hI.closed] at hc; cases hc
  have hreceived {cmd : SupervisorCommand} {rest : List SupervisorCommand}
      (hq : rt.commandRx.queue = cmd :: rest) (hrt : rt' = (rt.received rest).log (.handled cmd.reply)) :
      rt'.Receiving sent := by
    subst hrt
    refine ⟨hI.closed, hanswered, ?_, fun ho => absurd (hI.listening ho).1 (by rw [hq]; exact List.cons_ne_nil _ _)⟩
    have hacc := hI.accounted
    rw [hq] at hacc
    simpa [TokioSupervisor.handledReplies, log, SupervisorRuntime.received, List.filterMap_cons,
      Action.handledReply] using hacc
  rcases h.handledReplies hwf with ⟨cmd, rest, hq, hrt⟩ | hhandled
  · exact hreceived hq hrt
  rcases h.commandRx hwf ha hok hs hend with ⟨hq, ho⟩ | ⟨cmd, rest, hq, hrt⟩ | rfl | ⟨ho, rfl⟩
  · refine ⟨by rw [hq]; exact hI.closed, hanswered, ?_, by rw [hq, ho]; exact hI.listening⟩
    rw [hhandled, hq]
    exact hI.accounted
  · exact hreceived hq hrt
  · exact ⟨hI.closed, hanswered, hI.accounted, fun ho => ⟨(hI.listening ho).1, rfl⟩⟩
  · refine ⟨hI.closed, hanswered, hI.accounted, fun _ => ⟨ho.queue, ?_⟩⟩
    exact ho.noneLeft.resolve_left (by rw [hI.closed]; exact Bool.false_ne_true)

/-! ### Runs -/

/-- What a caller can rely on, the commands `sent` so far. -/
structure Config.ServesCommands (c : Config) (sent : List Nat) : Prop where
  receiving : c.rt.Receiving sent
  /-- With a command in its queue and no word of a shutdown, all that the main loop does next is to
  handle the command, which only an instant out of range ends. -/
  served : ∀ k cmd rest, c.ctrl = .await .runSelect k → c.rt.shutdownRx.ready = false →
    c.rt.commandRx.queue = cmd :: rest → (∃ w c', step c (.run w) = some c') ∧
      ∀ w c', step c (.run w) = some c' →
        .handled cmd.reply ∈ c'.rt.trace ∨ c'.ctrl = .panicked .instantOverflow

theorem Updates.mem_trace {c c' : Config} {a : Act} {rt rt' : SupervisorRuntime}
    (h : Updates c a c' rt rt') (hwf : rt.Wf) {b : Action} (hb : b ∈ rt.trace) : b ∈ rt'.trace := by
  refine (h.invariant (I := fun rt => b ∈ rt.trace) hwf hb fun rt rt' hwf hI hu => ?_).2
  obtain ⟨l, hl, -⟩ := hu.logs hwf
  rw [hl]
  exact List.mem_append_right l hI

/-- The main loop takes a command before anything but a shutdown. -/
theorem SupervisorRuntime.Receiving.served {c : Config} {sent : List Nat} (h : c.rt.Receiving sent)
    (hs : c.Sane) {k : Stack .run} {cmd : SupervisorCommand} {rest : List SupervisorCommand}
    (hc : c.ctrl = .await .runSelect k) (hr : c.rt.shutdownRx.ready = false)
    (hq : c.rt.commandRx.queue = cmd :: rest) : (∃ w c', step c (.run w) = some c') ∧
      ∀ w c', step c (.run w) = some c' →
        .handled cmd.reply ∈ c'.rt.trace ∨ c'.ctrl = .panicked .instantOverflow := by
  obtain ⟨rt, ctrl⟩ := c
  obtain rfl : ctrl = .await .runSelect k := hc
  have hopen : rt.commandsOpen = true := by
    cases ho : rt.commandsOpen with
    | true => rfl
    | false => exact absurd (h.listening ho).1 (by rw [hq]; exact nofun)
  have hready : rt.commandReady = true := by
    simp [commandReady, hopen, CommandChannel.ready, show rt.commandRx.queue = cmd :: rest from hq]
  have hrx : rt.shutdownRx.ready = false := hr
  refine ⟨⟨.command rt.children.slots.length, ?_⟩, fun w c' hstep => ?_⟩
  · dsimp only [step, wake]
    simp only [hrx, hready, vacant_length, Bool.not_false, Bool.and_self, if_true, recvCommand,
      show rt.commandRx.queue = cmd :: rest from hq]
    exact ⟨_, rfl⟩
  · have hrule := step_rule hs hstep
    obtain ⟨rt', ctrl'⟩ := c'
    cases w with
    | command key =>
      cases hrule with
      | env henv => cases henv
      | move hm => cases hm
      | overflow => exact .inr rfl
      | loop hl _ => cases hl with | closed ho => rw [ho.queue] at hq; cases hq
      | shutdown hb _ _ => cases hb
      | drainNext hd _ => cases hd
      | command hh hv hq' ho =>
        obtain ⟨rfl, rfl⟩ := List.cons.inj (hq.symm.trans hq')
        have hchain := @Updates.commandOutcome ⟨rt, .await .runSelect k⟩ ⟨rt', ctrl'⟩
          (.run (.command key)) key _ cmd rest rfl hh hv hq ho
        exact .inl (hchain.mem_trace (show (rt.received rest).Wf from hs.wf) List.mem_cons_self)
    | _ =>
      dsimp only [step, wake] at hstep
      simp [hrx, hready] at hstep

theorem sentReplies_snoc (as : List Act) (a : Act) :
    sentReplies (as ++ [a]) = sentReplies as ++ a.sentReply.toList := by
  cases h : a.sentReply <;> simp [sentReplies, h]

theorem run_receiving {config : SupervisorConfig} {env : StartEnv} {as : List Act} {c : Config}
    (h : config.Accepted)
    (hrun : Run step (fun c a => keepsReceiver c a = true) (Config.start config env) as c)
    (hs : c.rt.state = .running) (hend : c.ctrl.ended = false) : c.rt.Receiving (sentReplies as) := by
  induction hrun with
  | nil =>
    obtain ⟨hclosed, hqueue, hopen⟩ := (h.fresh env).commands
    have htrace := (h.fresh env).trace
    simp only [Config.start] at hs hend ⊢
    refine ⟨hclosed, by simp [htrace], ?_, fun ho => by rw [hopen] at ho; cases ho⟩
    simp [htrace, hqueue, sentReplies, handledReplies]
  | @snoc as a c c' run hok hstep ih =>
    have hsane := run_sane h run
    have hrule := step_rule hsane hstep
    have hs₀ : c.rt.state = .running := by
      by_contra hc
      exact hrule.state hsane.wf hc hs
    have hend₀ : c.ctrl.ended = false := by
      cases hc : c.ctrl.ended with
      | false => rfl
      | true => rw [(ended_step hc hstep).1, hc] at hend; cases hend
    have hI := ih hs₀ hend₀
    rw [sentReplies_snoc]
    rcases step_cases hstep with ⟨w, rfl⟩ | rfl | ⟨-, henv⟩
    · rw [show (Act.run w).sentReply.toList = [] from rfl, List.append_nil]
      exact ((hrule.updates hsane.wf).invariant hsane.wf hI fun rt rt' hwf hI hu =>
        hu.receiving hwf rfl hok hs hend hI).2
    · rw [show Act.resume.sentReply.toList = [] from rfl, List.append_nil]
      exact ((hrule.updates hsane.wf).invariant hsane.wf hI fun rt rt' hwf hI hu =>
        hu.receiving hwf rfl hok hs hend hI).2
    · exact hI.env henv

/-- As long as no drain of a group restart has begun, a running supervisor accepts every command and
loses none. -/
theorem run_servesCommands {config : SupervisorConfig} {env : StartEnv} {as : List Act} {c : Config}
    (h : config.Accepted)
    (hrun : Run step (fun c a => keepsReceiver c a = true) (Config.start config env) as c)
    (hs : c.rt.state = .running) (hend : c.ctrl.ended = false) : c.ServesCommands (sentReplies as) := by
  have hI := run_receiving h hrun hs hend
  exact ⟨hI, fun k cmd rest hc hr hq => hI.served (run_sane h hrun) hc hr hq⟩

/-! ### A command after a group restart -/

/-- `b` fails, the group restarts, and a command is sent. -/
def closedActs : List Act :=
  [.run .go, .finish 1 (.returned (.error "failed")), .run (.join 1), .tick (2 * NANOS_PER_SEC) 0,
   .run .timer, .resume, .run .go, .finish 0 (.returned (.ok ())), .run (.join 0), .run .joinNone,
   .resume, .resume, .resume, .resume, .resume, .send (.removeChild "a" 7)]

/-- The group has restarted and the supervisor runs, but the caller gets `Unavailable`. -/
theorem closed_receiver_reached : groupConfig.Accepted ∧ ∃ c,
    AnyRun step (Config.start groupConfig ⟨false, 0, 0⟩) closedActs c ∧
      c.rt.state = .running ∧ c.ctrl.ended = false ∧ ¬ c.ServesCommands (sentReplies closedActs) := by
  have hex : ∃ c, AnyRun step (Config.start groupConfig ⟨false, 0, 0⟩) closedActs c ∧
      (c.rt.state, c.ctrl.ended, c.rt.commandRx.closed, c.rt.runningChildren) =
        (.running, false, true, 2) := anyRun_of_exec (by decide +kernel)
  obtain ⟨c, hrun, hc⟩ := hex
  simp only [Prod.mk.injEq] at hc
  refine ⟨groupConfig_accepted, c, hrun, hc.1, hc.2.1, fun h => ?_⟩
  rw [h.receiving.closed] at hc
  exact absurd hc.2.2.1 nofun

/-- A command sent during the delay of a group restart is still served. -/
theorem run_servesCommands_delay : ∃ c : Config, sentReplies [Act.send (.removeChild "a" 7)] = [7] ∧
    c.ServesCommands [7] := by
  have hex : ∃ c, Run step (fun c a => keepsReceiver c a = true)
      (Config.start groupConfig ⟨false, 0, 0⟩) [.run .go, .finish 1 (.returned (.error "failed")),
        .run (.join 1), .send (.removeChild "a" 7)] c ∧
      (c.rt.state, c.ctrl.ended) = (.running, false) := run_of_execIf_map (by decide +kernel)
  obtain ⟨c, hrun, hc⟩ := hex
  exact ⟨c, rfl, run_servesCommands groupConfig_accepted hrun (Prod.mk.inj hc).1 (Prod.mk.inj hc).2⟩

end TokioSupervisor
