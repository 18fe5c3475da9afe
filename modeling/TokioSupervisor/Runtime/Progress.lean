import TokioSupervisor.Runtime.LastChild
import TokioSupervisor.Runtime.Work

/-!
# The supervisor makes progress

`Config.idle` says what the runtime waits for when none of its steps is enabled, and it is idle exactly
then. Every wait beside that of the main loop has a deadline that the clock can reach (`Dated`), so as time
passes the calls that are suspended return, whatever the children do. Once a shutdown is requested the main
loop does not wait either, and the run ends.
-/

namespace TokioSupervisor
open Lib SupervisorRuntime

/-! ### Idle waits -/

/-- The supervisor waits, and nothing it waits for has come; or its run is over. -/
def Config.idle (c : Config) : Bool :=
  match c.ctrl with
  | .await .runSelect _ =>
    !c.rt.shutdownRx.ready && !c.rt.commandReady && c.rt.nestedSnapshotRx.queue.isEmpty && c.rt.joinPending
  | .await (.removalSelect l) _ =>
    !c.rt.shutdownRx.ready && c.rt.joinPending && decide (c.rt.now < l.deadline)
  | .await (.delaySelect deadline) _ =>
    !c.rt.shutdownRx.ready && !c.rt.commandReady && decide (c.rt.now < deadline)
  | .await (.drainSelect _ deadline) _ => c.rt.joinPending && decide (c.rt.now < deadline)
  | .finished _ | .panicked _ => true
  | _ => false

/-- A step of the runtime is enabled. -/
def Config.Enabled (c : Config) : Prop := ∃ a c', a.own = true ∧ step c a = some c'

theorem not_enabled_iff {c : Config} : ¬ c.Enabled ↔ AtRest step Act.own c := by
  constructor
  · intro h a ha
    by_contra hne
    obtain ⟨c', hstep⟩ := Option.ne_none_iff_exists'.1 hne
    exact h ⟨a, c', ha, hstep⟩
  · rintro h ⟨a, c', ha, hstep⟩
    rw [h a ha] at hstep
    cases hstep

section
variable {rt rt' : SupervisorRuntime} {ctrl ctrl' : Ctrl} {a : Act} {c c' : Config}

theorem enabled_wake {fn : Fn} {p : Await fn} {k : Stack fn} (w : Wake)
    (h : (wake p w rt k).isSome = true) : (Config.mk rt (.await p k)).Enabled := by
  obtain ⟨x, hx⟩ := Option.isSome_iff_exists.1 h
  exact ⟨.run w, settle rt x, rfl, by simp [step, hx]⟩

theorem enabled_ret {fn : Fn} (rt : SupervisorRuntime) (k : Stack fn) (v : fn.Value) :
    (Config.mk rt (.ret k v)).Enabled := by
  cases k with
  | nil => exact ⟨.resume, _, rfl, rfl⟩
  | push f k => exact ⟨.resume, _, rfl, rfl⟩

theorem Slab.exists_vacant {α : Type} (s : Slab α) : ∃ key, s.vacant key = true :=
  ⟨s.slots.length, by simp [Slab.vacant, Slab.contains, Slab.get]⟩

theorem joinTask_none (h : rt.joinSet.anyFinished = false) (id : TaskId) : rt.joinTask id = none := by
  unfold joinTask JoinSet.joinNext
  cases hf : rt.joinSet.find id with
  | none => rfl
  | some t =>
    have hout := List.any_eq_false.1 h t (List.mem_of_find?_eq_some hf)
    obtain ⟨tid, info, flag, outcome⟩ := t
    cases outcome with
    | none => rfl
    | some outcome => exact absurd rfl hout

theorem joinPending_eq_true : rt.joinPending = true ↔
    rt.joinSet.anyFinished = false ∧ rt.joinSet.isEmpty = false := by
  simp [joinPending]

theorem joinPending_eq_false : rt.joinPending = false ↔
    rt.joinSet.anyFinished = true ∨ rt.joinSet.isEmpty = true := by
  cases h₁ : rt.joinSet.anyFinished <;> cases h₂ : rt.joinSet.isEmpty <;> simp [joinPending, h₁, h₂]

theorem enabled_join {fn : Fn} {p : Await fn} {k : Stack fn} (hwf : rt.Wf) (hj : rt.joinPending = false)
    (hsome : ∀ id x, rt.joinTask id = some x → (wake p (.join id) rt k).isSome = true)
    (hnone : rt.joinSet.isEmpty = true → (wake p .joinNone rt k).isSome = true) :
    (Config.mk rt (.await p k)).Enabled := by
  rcases joinPending_eq_false.1 hj with hf | he
  · obtain ⟨id, x, hx⟩ := hwf.exists_joinTask hf
    exact enabled_wake (.join id) (hsome id x hx)
  · exact enabled_wake .joinNone (hnone he)

theorem enabled_runSelect {k : Stack .run} (hwf : rt.Wf)
    (h : Config.idle ⟨rt, .await .runSelect k⟩ = false) : Config.Enabled ⟨rt, .await .runSelect k⟩ := by
  cases hr : rt.shutdownRx.ready with
  | true =>
    refine enabled_wake .shutdown ?_
    simp only [wake, hr, if_true]
    split <;> rfl
  | false =>
    cases hc : rt.commandReady with
    | true =>
      obtain ⟨key, hkey⟩ := Slab.exists_vacant rt.children
      refine enabled_wake (.command key) ?_
      simp only [wake, hr, hc, hkey, Bool.not_false, Bool.and_self, if_true]
      split <;> rfl
    | false =>
      cases hq : rt.nestedSnapshotRx.queue with
      | cons n rest =>
        refine enabled_wake .nested ?_
        simp [wake, hr, hc, hq]
      | nil =>
        have hj : rt.joinPending = false := by simpa [Config.idle, hr, hc, hq] using h
        refine enabled_join hwf hj (fun id x hx => ?_) fun he => ?_
        · simp [wake, hr, hc, hq, hx]
        · simp [wake, hr, hc, hq, he]

theorem enabled_removalSelect {l : Removal} {k : Stack .awaitChildRemoval} (hwf : rt.Wf)
    (h : Config.idle ⟨rt, .await (.removalSelect l) k⟩ = false) :
    Config.Enabled ⟨rt, .await (.removalSelect l) k⟩ := by
  cases hr : rt.shutdownRx.ready with
  | true =>
    refine enabled_wake .shutdown ?_
    simp only [wake, hr, if_true]
    split <;> rfl
  | false =>
    cases hj : rt.joinPending with
    | true =>
      have hle : l.deadline ≤ rt.now := by simpa [Config.idle, hr, hj] using h
      refine enabled_wake .timer ?_
      simp [wake, hr, hj, hle]
    | false =>
      refine enabled_join hwf hj (fun id x hx => ?_) fun he => ?_
      · simp [wake, hr, hx]
      · simp [wake, hr, he]

theorem enabled_readyJoins {reason : DrainReason} {k : Stack (.drainReadyJoins reason)} (hwf : rt.Wf) :
    Config.Enabled ⟨rt, .await (.readyJoins reason) k⟩ := by
  cases hj : rt.joinPending with
  | true =>
    refine enabled_wake .timer ?_
    simp [wake, hj]
  | false =>
    refine enabled_join hwf hj (fun id x hx => ?_) fun he => ?_
    · simp [wake, hx]
    · simp [wake, he]

theorem enabled_delaySelect {deadline : Instant} {k : Stack .waitForRestartDelay}
    (h : Config.idle ⟨rt, .await (.delaySelect deadline) k⟩ = false) :
    Config.Enabled ⟨rt, .await (.delaySelect deadline) k⟩ := by
  cases hr : rt.shutdownRx.ready with
  | true =>
    refine enabled_wake .shutdown ?_
    simp only [wake, hr, if_true]
    split <;> rfl
  | false =>
    cases hc : rt.commandReady with
    | true =>
      obtain ⟨key, hkey⟩ := Slab.exists_vacant rt.children
      refine enabled_wake (.command key) ?_
      simp only [wake, hr, hc, hkey, Bool.not_false, Bool.and_self, if_true]
      split
      · rfl
      · split <;> rfl
    | false =>
      have hle : deadline ≤ rt.now := by simpa [Config.idle, hr, hc] using h
      refine enabled_wake .timer ?_
      simp [wake, hr, hc, hle]

theorem enabled_drainSelect {reason : DrainReason} {deadline : Instant}
    {k : Stack (.drainChildren reason)} (hwf : rt.Wf)
    (h : Config.idle ⟨rt, .await (.drainSelect reason deadline) k⟩ = false) :
    Config.Enabled ⟨rt, .await (.drainSelect reason deadline) k⟩ := by
  cases hj : rt.joinPending with
  | true =>
    have hle : deadline ≤ rt.now := by simpa [Config.idle, hj] using h
    refine enabled_wake .timer ?_
    simp [wake, hle]
  | false =>
    refine enabled_join hwf hj (fun id x hx => ?_) fun he => ?_
    · simp [wake, hx]
    · simp [wake, he]

theorem Config.idle_of_not_enabled (hwf : c.rt.Wf) (h : ¬ c.Enabled) : c.idle = true := by
  obtain ⟨rt, ctrl⟩ := c
  cases ctrl with
  | finished r | panicked p => rfl
  | ret k v => exact absurd (enabled_ret rt k v) h
  | await p k =>
    by_contra hidle
    have hidle := Bool.eq_false_iff.2 hidle
    refine h ?_
    cases p with
    | runSelect => exact enabled_runSelect hwf hidle
    | removalSelect l => exact enabled_removalSelect hwf hidle
    | readyJoins reason => exact enabled_readyJoins hwf
    | delaySelect deadline => exact enabled_delaySelect hidle
    | drainSelect reason deadline => exact enabled_drainSelect hwf hidle
    | runStart | detachYield | drainYield | drainAbortYield =>
      refine enabled_wake .go ?_
      simp [wake]
    | delayCheck | delayYield =>
      refine enabled_wake .go ?_
      simp only [wake]
      split <;> rfl
    | delayTryRecv =>
      obtain ⟨key, hkey⟩ := Slab.exists_vacant rt.children
      refine enabled_wake (.command key) ?_
      simp only [wake, hkey, if_true]
      split
      · rfl
      · split <;> rfl

theorem Config.not_enabled_of_idle (h : c.idle = true) : ¬ c.Enabled := by
  obtain ⟨rt, ctrl⟩ := c
  rintro ⟨a, c', ha, hstep⟩
  cases ctrl with
  | finished r | panicked p =>
    cases a with
    | run w | resume => cases hstep
    | _ => cases ha
  | ret k v => cases h
  | await p k =>
    cases a with
    | run w =>
      obtain ⟨x, hx, -⟩ := Option.map_eq_some_iff.1 hstep
      cases p with
      | runSelect =>
        simp only [idle, Bool.and_eq_true, Bool.not_eq_true', joinPending_eq_true, List.isEmpty_iff] at h
        obtain ⟨⟨⟨hr, hc⟩, hq⟩, hf, he⟩ := h
        have hnone := joinTask_none hf
        cases w <;> simp [wake, hr, hc, hq, he, hnone] at hx
      | removalSelect l =>
        simp only [idle, Bool.and_eq_true, Bool.not_eq_true', joinPending_eq_true, decide_eq_true_eq] at h
        obtain ⟨⟨hr, hf, he⟩, hlt⟩ := h
        have hnone := joinTask_none hf
        cases w <;> simp [wake, hr, he, hnone, Nat.not_le.2 hlt] at hx
      | delaySelect deadline =>
        simp only [idle, Bool.and_eq_true, Bool.not_eq_true', decide_eq_true_eq] at h
        obtain ⟨⟨hr, hc⟩, hlt⟩ := h
        cases w <;> simp [wake, hr, hc, Nat.not_le.2 hlt] at hx
      | drainSelect reason deadline =>
        simp only [idle, Bool.and_eq_true, joinPending_eq_true, decide_eq_true_eq] at h
        obtain ⟨⟨hf, he⟩, hlt⟩ := h
        have hnone := joinTask_none hf
        cases w <;> simp [wake, he, hnone, Nat.not_le.2 hlt] at hx
      | _ => cases h
    | resume => cases hstep
    | _ => cases ha

/-- The supervisor is idle exactly where none of its steps is enabled. -/
theorem Config.idle_iff (hwf : c.rt.Wf) : c.idle = true ↔ AtRest step Act.own c := by
  rw [← not_enabled_iff]
  exact ⟨not_enabled_of_idle, idle_of_not_enabled hwf⟩

/-! ### Deadlines -/

/-- The instant at which the wait is over. -/
def Await.deadline : {fn : Fn} → Await fn → Option Instant
  | _, .removalSelect l => some l.deadline
  | _, .delaySelect deadline | _, .drainSelect _ deadline => some deadline
  | _, _ => none

def Frame.deadline : {callee caller : Fn} → Frame callee caller → Option Instant
  | _, _, .removalShutdown l | _, _, .removalJoin l => some l.deadline
  | _, _, .delayCommand deadline => some deadline
  | _, _, _ => none

/-- The deadlines that the suspended calls hold are instants. -/
def Stack.Dated : {fn : Fn} → Stack fn → Prop
  | _, .nil => True
  | _, .push f k => (∀ d, f.deadline = some d → d ≤ Instant.MAX) ∧ k.Dated

def Ctrl.Dated : Ctrl → Prop
  | .await p k => (∀ d, p.deadline = some d → d ≤ Instant.MAX) ∧ k.Dated
  | .ret k _ => k.Dated
  | _ => True

/-- Where the method leads, deadlines are instants. -/
def Dates (x : Except Panic Config) : Prop := ∀ c, x = .ok c → c.ctrl.Dated

@[simp] theorem Stack.dated_nil : Stack.nil.Dated := trivial

@[simp] theorem Stack.dated_push {callee caller : Fn} {f : Frame callee caller} {k : Stack caller} :
    (Stack.push f k).Dated ↔ (∀ d, f.deadline = some d → d ≤ Instant.MAX) ∧ k.Dated := Iff.rfl

theorem Stack.Dated.push {callee caller : Fn} {f : Frame callee caller} {k : Stack caller} (hk : k.Dated)
    (hf : f.deadline = none) : (Stack.push f k).Dated := by
  refine ⟨fun d hd => ?_, hk⟩
  rw [hf] at hd
  cases hd

@[simp] theorem Ctrl.dated_await {fn : Fn} {p : Await fn} {k : Stack fn} :
    (Ctrl.await p k).Dated ↔ (∀ d, p.deadline = some d → d ≤ Instant.MAX) ∧ k.Dated := Iff.rfl

@[simp] theorem Ctrl.dated_ret {fn : Fn} {k : Stack fn} {v : fn.Value} :
    (Ctrl.ret k v).Dated ↔ k.Dated := Iff.rfl

theorem Dates.settle {x : Except Panic Config} (h : Dates x) (rt : SupervisorRuntime) :
    (settle rt x).ctrl.Dated := by
  cases x with
  | error p => trivial
  | ok c => exact h c rfl

theorem dates_error (p : Panic) : Dates (.error p) := by
  intro c hc
  cases hc

theorem dates_ret {fn : Fn} (rt : SupervisorRuntime) {k : Stack fn} (v : fn.Value) (hk : k.Dated) :
    Dates (.ok (rt.ret k v)) := by
  intro c hc
  cases hc
  exact hk

theorem dates_await {fn : Fn} (rt : SupervisorRuntime) {p : Await fn} {k : Stack fn}
    (hp : ∀ d, p.deadline = some d → d ≤ Instant.MAX) (hk : k.Dated) : Dates (.ok ⟨rt, .await p k⟩) := by
  intro c hc
  cases hc
  exact ⟨hp, hk⟩

theorem dates_timeless {fn : Fn} (rt : SupervisorRuntime) {p : Await fn} {k : Stack fn}
    (hp : p.deadline = none) (hk : k.Dated) : Dates (.ok ⟨rt, .await p k⟩) := by
  refine dates_await rt (fun d hd => ?_) hk
  rw [hp] at hd
  cases hd

theorem dates_instantAdd {now : Instant} {delay : Duration} {f : Instant → Except Panic Config}
    (hf : ∀ d, d ≤ Instant.MAX → Dates (f d)) : Dates (instantAdd now delay >>= f) := by
  unfold instantAdd
  cases hd : Instant.checkedAdd now delay with
  | none => exact dates_error _
  | some d =>
    simp only [Instant.checkedAdd, Option.ite_none_right_eq_some, Option.some.injEq] at hd
    rw [hd.2] at hd
    exact hf d hd.1

namespace SupervisorRuntime

theorem waitForRestartDelay_dates (delay : Duration) {k : Stack .waitForRestartDelay} (hk : k.Dated) :
    Dates (rt.waitForRestartDelay delay k) := by
  unfold SupervisorRuntime.waitForRestartDelay
  split
  · exact dates_timeless rt rfl hk
  · refine dates_instantAdd fun d hd => dates_await rt ?_ hk
    rintro _ ⟨⟩
    exact hd

theorem Wf.scheduleRestart_dates (h : rt.Wf) {key : ChildKey} {e : ChildEntry}
    (he : rt.children.get key = some e)
    {f : SupervisorRuntime × Except SupervisorError Duration → Except Panic Config}
    (hover : Dates (f (rt.overrun key e, .error .restartIntensityExceeded)))
    (hdelay : ∀ deadline delay, Dates (f (rt.scheduled key e deadline, .ok delay))) :
    Dates (rt.scheduleRestart key >>= f) := by
  rw [h.scheduleRestart he]
  split
  · exact hover
  · split
    · exact dates_error _
    · exact hdelay _ _

theorem Wf.handleJoinedChild_dates (h : rt.Wf) {id : TaskId} {rt₁ : SupervisorRuntime}
    {joined : Joined} (hj : rt.joinTask id = some (rt₁, joined)) {k : Stack .handleJoinedChild}
    (hk : k.Dated) : Dates (rt₁.handleJoinedChild joined k) := by
  obtain ⟨t, outcome, rfl, hfin, ⟨hstale, heq⟩ | ⟨e, hc, heq⟩⟩ := h.consumeJoinedChild hj
  · simp only [SupervisorRuntime.handleJoinedChild, heq]
    exact dates_ret _ _ hk
  have hrec := (h.consumed t).recordExit hc.get t.info.generation outcome.status
  rw [← SupervisorRuntime.exited] at hrec
  have hget := exited_get hc outcome
  have hwf := h.exited hc outcome
  simp only [SupervisorRuntime.handleJoinedChild, heq, hrec, ok_bind]
  split
  · exact dates_ret _ _ hk
  rw [index_eq hget, ok_bind]
  split
  · rw [hwf.finalizeRemovedChild hget]
    exact dates_ret _ _ hk
  split
  · split
    · refine hwf.scheduleRestart_dates hget (dates_ret _ _ (hk.push rfl)) fun deadline delay => ?_
      simp only [ok_bind, index_eq (scheduled_get hget deadline), (hwf.scheduled hget deadline).sendEvent]
      exact waitForRestartDelay_dates delay ((hk.push rfl).push rfl)
    · refine hwf.scheduleRestart_dates hget (dates_ret _ _ (hk.push rfl)) fun deadline delay => ?_
      simp only [ok_bind, (hwf.scheduled hget deadline).sendEvent]
      exact waitForRestartDelay_dates delay ((hk.push rfl).push rfl)
  · rw [recordTerminalStatus_eq hget]
    exact dates_ret _ _ hk

theorem Wf.handleCommand_dates (h : rt.Wf) {key : ChildKey} (hv : rt.children.vacant key = true)
    (command : SupervisorCommand) {k : Stack .handleCommand} (hk : k.Dated) :
    Dates (rt.handleCommand key command k) := by
  unfold SupervisorRuntime.handleCommand
  have hwf (reply : Nat) : (rt.log (.handled reply)).Wf := h
  cases command with
  | addChild child reply =>
    simp only [SupervisorCommand.reply]
    rcases (hwf reply).addChild hv child with ⟨e, -, heq⟩ | ⟨-, -, heq⟩
    · rw [heq]
      exact dates_ret _ _ hk
    · rw [heq]
      exact dates_ret _ _ hk
  | removeChild id reply =>
    show Dates ((rt.log (.handled reply)).removeChild reply id (.push (.commandReply reply) k))
    cases hr : (rt.log (.handled reply)).removeRefusal id with
    | some e =>
      rw [removeChild_refused hr]
      exact dates_ret _ _ (hk.push rfl)
    | none =>
      obtain ⟨target, e, -, -, -, -, ⟨-, heq⟩ | ⟨-, ⟨-, heq⟩ | ⟨-, heq⟩⟩⟩ :=
        (hwf reply).removeChild_accepted reply (.push (.commandReply reply) k) hr
      · rw [heq]
        exact dates_ret _ _ (hk.push rfl)
      · rw [heq]
        exact dates_timeless _ rfl ((hk.push rfl).push rfl)
      · rw [heq]
        refine dates_instantAdd fun d hd => dates_await _ ?_ ((hk.push rfl).push rfl)
        rintro _ ⟨⟩
        exact hd

end SupervisorRuntime

theorem RemovalHead.dated {l : Removal} {k : Stack .awaitChildRemoval} (h : RemovalHead rt l k ctrl)
    (hl : l.deadline ≤ Instant.MAX) (hk : k.Dated) : ctrl.Dated := by
  cases h with
  | gone he => exact hk
  | wait he =>
    refine ⟨?_, hk⟩
    rintro _ ⟨⟩
    exact hl

theorem LoopHead.dated (h : LoopHead rt rt' ctrl) : ctrl.Dated := by
  cases h with
  | wait hp => exact ⟨nofun, trivial⟩
  | exit | natural => trivial

theorem DrainNext.dated {reason : DrainReason} {k : Stack (.drainChildren reason)}
    (h : DrainNext rt reason k rt' ctrl) (hk : k.Dated)
    (hsel : ∀ d, ctrl = .await (.drainSelect reason d) k → d ≤ Instant.MAX) : ctrl.Dated := by
  cases h with
  | select =>
    refine ⟨?_, hk⟩
    rintro _ ⟨⟩
    exact hsel _ rfl
  | abort => exact ⟨nofun, hk⟩
  | done hd => exact hk

theorem Move.dated (h : Move rt ctrl a ctrl') (hd : ctrl.Dated) : ctrl'.Dated := by
  cases h with
  | removalShutdownOk hr | removalJoinOk hr => exact hr.dated (hd.1 _ rfl) hd.2
  | delayLoop hp =>
    refine ⟨?_, hd.2⟩
    rintro _ ⟨⟩
    exact hd.1 _ rfl
  | _ => simp_all [Frame.deadline, Await.deadline]

theorem step_join {k : Stack .handleJoinedChild} {id : TaskId} (hh : HandlesJoin c.ctrl k)
    (hstep : step c (.run (.join id)) = some c') :
    ∃ rt₁ joined, c.rt.joinTask id = some (rt₁, joined) ∧
      c' = settle c.rt (rt₁.handleJoinedChild joined k) := by
  obtain ⟨rt, ctrl⟩ := c
  dsimp only at hh
  cases hh with
  | run | removal =>
    obtain ⟨x, hx, rfl⟩ := Option.map_eq_some_iff.1 hstep
    dsimp only [wake] at hx
    rw [Option.ite_none_right_eq_some] at hx
    obtain ⟨⟨rt₁, joined⟩, hj, rfl⟩ := Option.map_eq_some_iff.1 hx.2
    exact ⟨rt₁, joined, hj, rfl⟩

theorem step_drainJoin_deadline {reason : DrainReason} {deadline d : Instant}
    {k : Stack (.drainChildren reason)} {id : TaskId} (hwf : rt.Wf)
    (hstep : step ⟨rt, .await (.drainSelect reason deadline) k⟩ (.run (.join id)) =
      some ⟨rt', .await (.drainSelect reason d) k⟩) : d = deadline := by
  obtain ⟨x, hx, hsettle⟩ := Option.map_eq_some_iff.1 hstep
  dsimp only [wake] at hx
  obtain ⟨⟨rt₁, joined⟩, hj, rfl⟩ := Option.map_eq_some_iff.1 hx
  obtain ⟨t, outcome, rt₂, -, -, hd, heq⟩ := hwf.handleDrainedJoin hj reason
  have hwf₂ := hwf.drainedJoin hd
  simp only [heq, ok_bind] at hsettle
  have hloop : rt₂.drainLoop reason deadline k = ⟨rt', .await (.drainSelect reason d) k⟩ := hsettle
  unfold drainLoop at hloop
  split at hloop
  · rcases hwf₂.drainAfterGrace_cases reason k with ⟨-, heq⟩ | ⟨-, heq⟩
    · rw [heq] at hloop
      cases hloop
    · rw [heq] at hloop
      cases hloop
  · cases hloop
    rfl

theorem step_drainFirst_deadline {reason : DrainReason} {maxGrace : Option Duration} {d : Instant}
    {k : Stack (.drainChildren reason)} (hwf : rt.Wf)
    (hstep : step ⟨rt, .ret (.push (.drainFirst reason maxGrace) k) (.ok ())⟩ .resume =
      some ⟨rt', .await (.drainSelect reason d) k⟩) : d ≤ Instant.MAX := by
  have hgrace : rt.drainAfterGrace reason k ≠ ⟨rt', .await (.drainSelect reason d) k⟩ := by
    intro hgrace
    rcases hwf.drainAfterGrace_cases reason k with ⟨-, heq⟩ | ⟨-, heq⟩
    · rw [heq] at hgrace
      cases hgrace
    · rw [heq] at hgrace
      cases hgrace
  have hsettle := Option.some.inj hstep
  dsimp only [resume] at hsettle
  split at hsettle
  · cases hsettle
  · rename_i hl
    cases maxGrace with
    | none => exact absurd hsettle hgrace
    | some grace =>
      dsimp only [instantAdd] at hsettle
      cases hd : Instant.checkedAdd rt.now grace with
      | none =>
        rw [hd] at hsettle
        cases hsettle
      | some deadline =>
        rw [hd] at hsettle
        have hloop : rt.drainLoop reason deadline k = ⟨rt', .await (.drainSelect reason d) k⟩ := hsettle
        rw [drainLoop, if_neg hl] at hloop
        cases hloop
        simp only [Instant.checkedAdd, Option.ite_none_right_eq_some, Option.some.injEq] at hd
        rw [hd.2] at hd
        exact hd.1

theorem step_dated (hs : c.Sane) (h : c.ctrl.Dated) (hstep : step c a = some c') : c'.ctrl.Dated := by
  have hr := step_rule hs hstep
  obtain ⟨hwf, -, -⟩ := hs
  obtain ⟨rt, ctrl⟩ := c
  obtain ⟨rt', ctrl'⟩ := c'
  dsimp only at hr h ⊢
  cases hr with
  | env _ => exact h
  | move hm => exact hm.dated h
  | overflow | vacantOne | vacantAll | natural | joinError | shutdownEnd | runEnd => trivial
  | start hl | loop _ hl => exact hl.dated
  | shutdown hb => cases hb <;> simp_all [Frame.deadline, Await.deadline]
  | @command _ _ k key cmd rest _ hh hv hq ho =>
    have hk : k.Dated := by cases hh <;> simp_all [Frame.deadline, Await.deadline]
    obtain ⟨-, heq⟩ := step_command (c := ⟨rt, ctrl⟩) hh hq hstep
    have hdated := ((show (rt.received rest).Wf from hwf).handleCommand_dates hv cmd hk).settle rt
    rwa [← heq] at hdated
  | @join _ _ k t outcome _ hh hf ho =>
    have hk : k.Dated := by cases hh <;> simp_all [Frame.deadline, Await.deadline]
    obtain ⟨rt₁, joined, hj, heq⟩ := step_join (c := ⟨rt, ctrl⟩) hh hstep
    have hdated := (hwf.handleJoinedChild_dates hj hk).settle rt
    rwa [← heq] at hdated
  | drainJoin hf hd hn =>
    refine hn.dated h.2 fun d hc => ?_
    subst hc
    rw [step_drainJoin_deadline hwf hstep]
    exact h.1 _ rfl
  | drainNext hd hn =>
    cases hd with
    | @first _ maxGrace k =>
      refine hn.dated h.2 fun d hc => ?_
      subst hc
      exact step_drainFirst_deadline hwf hstep
    | @empty _ _ k | @timer _ _ k =>
      refine hn.dated h.2 fun d hc => ?_
      subst hc
      have hlt := hn.weight_lt hwf (by constructor) hstep
      exact absurd hlt (Nat.lt_irrefl _)
    | @second _ _ k =>
      refine hn.dated h.2 fun d hc => ?_
      subst hc
      have hlt := hn.weight_lt hwf .second hstep
      simp [Frame.weight, Await.weight] at hlt
  | removalSeen hr => exact hr.dated (h.1 _ rfl) h.2
  | _ => simp_all [Frame.deadline, Await.deadline]

theorem step_tick_to (ctrl : Ctrl) {d : Instant} (hlt : rt.now < d) (hmax : d ≤ Instant.MAX) :
    step ⟨rt, ctrl⟩ (.tick (d - rt.now) rt.wallClock) = some ⟨{ rt with now := d }, ctrl⟩ := by
  have hsum : rt.now + (d - rt.now) = d := Nat.add_sub_cancel' (Nat.le_of_lt hlt)
  simp only [step, envStep, hsum, if_pos hmax, Option.map_some]

/-- A call that waits under a deadline goes on, at the latest when the deadline has come. -/
theorem Config.idle_deadline (hd : c.ctrl.Dated) (hidle : c.idle = true) :
    c.ctrl.ended = true ∨ c.ctrl.atSelect = true ∨ ∃ d, c.rt.now < d ∧ d ≤ Instant.MAX ∧
      ¬ (Config.mk { c.rt with now := d } c.ctrl).idle = true := by
  obtain ⟨rt, ctrl⟩ := c
  cases ctrl with
  | finished r | panicked p => exact .inl rfl
  | ret k v => cases hidle
  | await p k =>
    cases p with
    | runSelect => exact .inr (.inl rfl)
    | removalSelect l =>
      simp only [idle, Bool.and_eq_true, decide_eq_true_eq] at hidle
      refine .inr (.inr ⟨l.deadline, hidle.2, hd.1 _ rfl, ?_⟩)
      simp [idle]
    | delaySelect d | drainSelect reason d =>
      simp only [idle, Bool.and_eq_true, decide_eq_true_eq] at hidle
      refine .inr (.inr ⟨d, hidle.2, hd.1 _ rfl, ?_⟩)
      simp [idle]
    | _ => cases hidle

end

/-! ### Runs -/

/-- The supervisor is to shut down: it was asked to, or nobody is left to ask. -/
def SupervisorRuntime.shutdownDue (rt : SupervisorRuntime) : Bool := rt.shutdownRx.value || rt.shutdownRx.closed

section
variable {config : SupervisorConfig} {env : StartEnv} {as : List Act} {c : Config}

theorem run_dated {ok : Config → Act → Prop} (h : config.Accepted)
    (hrun : Run step ok (Config.start config env) as c) : c.ctrl.Dated :=
  hrun.invariant_of (I := fun c => c.ctrl.Dated) (fun _ _ h' => run_sane h h') ⟨nofun, trivial⟩
    fun _ _ _ hs hI _ hstep => step_dated hs hI hstep

/-- What is due stays due, while the supervisor and the clock go on. -/
theorem step_shutdownDue {c c' : Config} {a : Act} (hs : c.Sane) (ha : a.unaided = true)
    (hstep : step c a = some c') (hd : c.rt.shutdownDue = true) : c'.rt.shutdownDue = true := by
  have hask : a.asksShutdown = false := by cases a <;> first | rfl | cases ha
  refine (((step_rule hs hstep).updates hs.wf).invariant (I := fun rt => rt.shutdownDue = true)
    hs.wf hd fun rt rt' hwf hI hu => ?_).2
  have hsame := hu.shutdownRx hwf hask
  rw [shutdownDue, hsame.1, hsame.2]
  exact hI

/-- One step, or the clock and one step, leave less work, unless the main loop is idle or the run is over. -/
theorem run_progress (h : config.Accepted) (hrun : AnyRun step (Config.start config env) as c)
    (hend : c.ctrl.ended = false) (hsel : ¬ (c.ctrl.atSelect = true ∧ c.idle = true)) :
    ∃ as' c', Run step (fun _ a => a.unaided = true) c as' c' ∧ c'.work < c.work := by
  have hunaided {a : Act} (ha : a.own = true) : a.unaided = true := by cases a <;> first | rfl | cases ha
  have hs := run_sane h hrun
  by_cases hidle : c.idle = true
  · rcases Config.idle_deadline (run_dated h hrun) hidle with hend' | hsel' | ⟨d, hlt, hmax, hnot⟩
    · rw [hend'] at hend
      cases hend
    · exact absurd ⟨hsel', hidle⟩ hsel
    · have htick := step_tick_to c.ctrl hlt hmax
      have hs₁ := run_sane h (hrun.snoc trivial htick)
      obtain ⟨a, c', ha, hstep⟩ : (Config.mk { c.rt with now := d } c.ctrl).Enabled := by
        by_contra hne
        exact hnot (Config.idle_of_not_enabled hs₁.wf hne)
      have hfirst : Run step (fun _ a => a.unaided = true) c [.tick (d - c.rt.now) c.rt.wallClock]
          ⟨{ c.rt with now := d }, c.ctrl⟩ := .single rfl htick
      refine ⟨_, c', hfirst.snoc (hunaided ha) hstep, ?_⟩
      have hlt : c'.work < (Config.mk { c.rt with now := d } c.ctrl).work := step_work_lt hs₁ ha hstep
      exact hlt
  · obtain ⟨a, c', ha, hstep⟩ : c.Enabled := by
      by_contra hne
      exact hidle (Config.idle_of_not_enabled hs.wf hne)
    exact ⟨[a], c', .single (hunaided ha) hstep, step_work_lt hs ha hstep⟩

/-- A supervisor that is to shut down does not stay in its main loop. -/
theorem idle_loop_of_due (h : config.Accepted) (hrun : AnyRun step (Config.start config env) as c)
    (hd : c.rt.shutdownDue = true) (hsel : c.ctrl.atSelect = true) : c.idle = false := by
  have hheard := run_heard h hrun
  obtain ⟨rt, ctrl⟩ := c
  cases ctrl with
  | await p k =>
    cases p with
    | runSelect =>
      have hready : rt.shutdownRx.ready = true := by
        rw [shutdownDue, Bool.or_eq_true] at hd
        rw [ShutdownWatch.ready, Bool.or_eq_true]
        exact hd.imp_left fun hv => hheard.unseen hv rfl rfl
      simp [Config.idle, hready]
    | _ => cases hsel
  | _ => cases hsel

/-- The runtime takes no more steps of its own than the work that is left, it comes to rest by them, and it
rests exactly where it is idle. -/
theorem run_rests (h : config.Accepted) (hrun : AnyRun step (Config.start config env) as c) :
    (c.idle = true ↔ AtRest step Act.own c) ∧
      (∀ as' c', Run step (fun _ a => a.own = true) c as' c' → as'.length + c'.work ≤ c.work) ∧
      ∃ as' c', Run step (fun _ a => a.own = true) c as' c' ∧ c'.idle = true := by
  refine ⟨Config.idle_iff (run_sane h hrun).wf, fun as' c' => (paid h env).length_add_le ⟨as, hrun⟩, ?_⟩
  obtain ⟨as', c', hrun', hrest⟩ := (paid h env).settles ⟨as, hrun⟩
  exact ⟨as', c', hrun', (Config.idle_iff (run_sane h (hrun.trans hrun'.any)).wf).2 hrest⟩

/-- A child has failed; its join is not taken. -/
theorem run_rests_failed : ∃ c, c.idle = false ∧ ∃ as' c', Run step (fun _ a => a.own = true) c as' c' ∧
    c'.idle = true ∧ as'.length + c'.work ≤ c.work := by
  have hex : ∃ c, AnyRun step (Config.start promptConfig ⟨false, 0, 0⟩)
      [.run .go, .finish 0 (.returned (.error "failed"))] c ∧ c.idle = false :=
    anyRun_of_exec (by decide +kernel)
  obtain ⟨c, hrun, hbusy⟩ := hex
  obtain ⟨-, hbound, as', c', hrun', hidle⟩ := run_rests promptConfig_accepted hrun
  exact ⟨c, hbusy, as', c', hrun', hidle, hbound as' c' hrun'⟩

/-- Wherever a run has got to, the supervisor's own steps and the clock lead back to its main loop, or to
the end: no suspended call depends on a child that does not end, or on a caller. A supervisor that is to
shut down comes to its end. -/
theorem run_returns (h : config.Accepted) (hrun : AnyRun step (Config.start config env) as c) :
    ∃ as' c', Run step (fun _ a => a.unaided = true) c as' c' ∧ (c'.ctrl.ended = true ∨
      c'.ctrl.atSelect = true ∧ c'.idle = true ∧ c.rt.shutdownDue = false) := by
  have hprogress : ∀ c₁, Config.Reached config env c₁ →
      (c₁.ctrl.ended = true ∨ c₁.ctrl.atSelect = true ∧ c₁.idle = true) ∨
        ∃ as' c', Run step (fun _ a => a.unaided = true) c₁ as' c' ∧ Config.Reached config env c' ∧
          c'.work < c₁.work := by
    rintro c₁ ⟨as₁, hrun₁⟩
    by_cases hgoal : c₁.ctrl.ended = true ∨ c₁.ctrl.atSelect = true ∧ c₁.idle = true
    · exact .inl hgoal
    · rw [not_or, Bool.not_eq_true] at hgoal
      obtain ⟨as', c', hrun', hlt⟩ := run_progress h hrun₁ hgoal.1 hgoal.2
      exact .inr ⟨as', c', hrun', ⟨_, hrun₁.trans hrun'.any⟩, hlt⟩
  obtain ⟨as', c', hrun', -, hend | ⟨hsel, hidle⟩⟩ := Run.reaches hprogress ⟨as, hrun⟩
  · exact ⟨as', c', hrun', .inl hend⟩
  · refine ⟨as', c', hrun', .inr ⟨hsel, hidle, ?_⟩⟩
    rw [← Bool.not_eq_true]
    intro hd
    have hdue : c'.rt.shutdownDue = true :=
      hrun'.invariant_of (I := fun c => c.rt.shutdownDue = true)
        (fun _ _ h' => run_sane h (hrun.trans h'.any)) hd
        fun _ _ _ hs hI ha hstep => step_shutdownDue hs ha hstep hI
    rw [idle_loop_of_due h (hrun.trans hrun'.any) hdue hsel] at hidle
    cases hidle

/-- A shutdown is requested while both children run. -/
theorem run_returns_shutdown : ∃ c, c.idle = false ∧ ∃ as' c',
    Run step (fun _ a => a.unaided = true) c as' c' ∧ c'.ctrl.ended = true := by
  have hex : ∃ c, AnyRun step (Config.start promptConfig ⟨false, 0, 0⟩) [.run .go, .requestShutdown] c ∧
      (c.idle, c.rt.shutdownDue) = (false, true) := anyRun_of_exec (by decide +kernel)
  obtain ⟨c, hrun, hlook⟩ := hex
  rw [Prod.mk.injEq] at hlook
  obtain ⟨as', c', hrun', hend | ⟨-, -, hdue⟩⟩ := run_returns promptConfig_accepted hrun
  · exact ⟨c, hlook.1, as', c', hrun', hend⟩
  · rw [hlook.2] at hdue
    cases hdue

end

end TokioSupervisor
