import Mathlib.Algebra.BigOperators.Ring.List
import Mathlib.Algebra.Ring.Nat
import TokioSupervisor.Lib.Potential
import TokioSupervisor.Runtime.Deadlines
import TokioSupervisor.Runtime.DrainEnds
import TokioSupervisor.Runtime.Preemption

/-!
# The work that is left

Between two steps of the environment the supervisor takes only so many steps. What it has been given and
not taken (`inputs`) is finite: finished tasks, queued commands and notifications, an unseen request. Each
suspended call and each wait has a weight that covers the steps it takes until the next input is due, so
that every step of the runtime lowers `Config.work`.
-/

namespace TokioSupervisor
open Lib SupervisorRuntime

/-! ### Weights -/

/-- The steps that the runtime takes itself. -/
def Act.own : Act → Bool
  | .run _ | .resume => true
  | _ => false

/-- What a step of the environment gives the runtime to take. -/
def Act.brings : Act → Nat
  | .requestShutdown | .send _ | .finish .. | .notify _ => 1
  | _ => 0

/-- What the runtime has been given and not taken; that the command channel is over counts as well. -/
def SupervisorRuntime.inputs (rt : SupervisorRuntime) : Nat :=
  rt.joinSet.tasks.countP (·.outcome.isSome) + rt.commandRx.queue.length +
    rt.nestedSnapshotRx.queue.length + rt.shutdownRx.unseen.toNat + rt.commandsOpen.toNat

/-- More than the steps from this wait to the next one that takes an input. -/
def Await.weight : {fn : Fn} → Await fn → Nat
  | _, .runStart => 11
  | _, .runSelect => 10
  | _, .removalSelect _ => 12
  | _, .detachYield .. => 3
  | _, .readyJoins _ => 1
  | _, .delayCheck => 12
  | _, .delayYield => 11
  | _, .delayTryRecv => 1
  | _, .delaySelect _ => 11
  | _, .drainYield .. => 7
  | _, .drainSelect .. => 4
  | _, .drainAbortYield .. => 3

def Frame.weight : {callee caller : Fn} → Frame callee caller → Nat
  | _, _, .runCommand | _, _, .runJoin => 11
  | _, _, .removalJoin _ => 13
  | _, _, .drainFirst .. => 5
  | _, _, .oneForAllDelay _ => 10
  | _, _, .delayZeroCommand => 2
  | _, _, .delayCommand _ => 12
  | _, _, _ => 1

def Stack.weight : {fn : Fn} → Stack fn → Nat
  | _, .nil => 1
  | _, .push f k => f.weight + k.weight

/-- A removal goes back to its wait when a call within it returns `Ok`, and ends when it returns an error. -/
def Stack.returnWeight : {fn : Fn} → Stack fn → fn.Value → Nat
  | _, .push (.removalShutdown _) k, .ok () => 13 + k.weight
  | _, .push (.removalJoin _) k, .error _ => 1 + k.weight
  | _, k, _ => k.weight

def Ctrl.weight : Ctrl → Nat
  | .await p k => p.weight + k.weight
  | .ret k v => k.returnWeight v
  | .finished _ | .panicked _ => 0

/-- A bound on the steps the runtime takes by itself. -/
def Config.work (c : Config) : Nat := 32 * c.rt.inputs + c.ctrl.weight

section
variable {rt rt' : SupervisorRuntime} {ctrl ctrl' : Ctrl} {a : Act}

@[simp] theorem Stack.weight_push {callee caller : Fn} (f : Frame callee caller) (k : Stack caller) :
    (Stack.push f k).weight = f.weight + k.weight := rfl

@[simp] theorem Ctrl.weight_await {fn : Fn} (p : Await fn) (k : Stack fn) :
    (Ctrl.await p k).weight = p.weight + k.weight := rfl

@[simp] theorem Ctrl.weight_ret {fn : Fn} (k : Stack fn) (v : fn.Value) :
    (Ctrl.ret k v).weight = k.returnWeight v := rfl

@[simp] theorem Ctrl.weight_finished (r : Except SupervisorError SupervisorExit) :
    (Ctrl.finished r).weight = 0 := rfl

@[simp] theorem Ctrl.weight_panicked (p : Panic) : (Ctrl.panicked p).weight = 0 := rfl

@[simp] theorem Stack.returnWeight_eq {fn : Fn} (k : Stack fn) (v : fn.Value)
    (hs : fn ≠ .handleShutdownDuringControl) (hj : fn ≠ .handleJoinDuringControl) :
    k.returnWeight v = k.weight := by
  cases k with
  | nil => rfl
  | push f k => cases f <;> first | rfl | exact absurd rfl hs | exact absurd rfl hj

@[simp] theorem Stack.returnWeight_shutdown_ok (l : Removal) (k : Stack .awaitChildRemoval) :
    (Stack.push (.removalShutdown l) k).returnWeight (.ok ()) = 13 + k.weight := rfl

@[simp] theorem Stack.returnWeight_shutdown_error (k : Stack .handleShutdownDuringControl)
    (e : ControlError) : k.returnWeight (.error e) = k.weight := by
  cases k with
  | push f k => cases f; rfl

@[simp] theorem Stack.returnWeight_join_ok (k : Stack .handleJoinDuringControl) :
    k.returnWeight (.ok ()) = k.weight := by
  cases k with
  | push f k => cases f; rfl

@[simp] theorem Stack.returnWeight_join_error (l : Removal) (k : Stack .awaitChildRemoval)
    (e : ControlError) : (Stack.push (.removalJoin l) k).returnWeight (.error e) = 1 + k.weight := rfl

theorem Stack.returnWeight_join_le (k : Stack .handleJoinDuringControl) (v : Except ControlError Unit) :
    k.returnWeight v ≤ k.weight := by
  cases k with
  | push f k =>
    cases f with
    | removalJoin l =>
      cases v with
      | ok u => exact Nat.le_refl _
      | error e =>
        simp only [returnWeight_join_error, weight_push, Frame.weight]
        omega

/-! ### Control -/

theorem RemovalHead.weight_le {l : Removal} {k : Stack .awaitChildRemoval} (h : RemovalHead rt l k ctrl) :
    ctrl.weight ≤ 12 + k.weight := by
  cases h with
  | gone he => simp
  | wait he => exact Nat.le_refl _

theorem LoopHead.weight_le (h : LoopHead rt rt' ctrl) : ctrl.weight ≤ 11 := by
  cases h with
  | wait hp => exact Nat.le_refl _
  | exit | natural => exact Nat.zero_le _

theorem DrainNext.weight_le {reason : DrainReason} {k : Stack (.drainChildren reason)}
    (h : DrainNext rt reason k rt' ctrl) : ctrl.weight ≤ 4 + k.weight := by
  cases h with
  | done hd => simp
  | select | abort => simp [Await.weight]

theorem Move.weight_lt (h : Move rt ctrl a ctrl') : ctrl'.weight < ctrl.weight := by
  cases h with
  | removalShutdownOk hr | removalJoinOk hr =>
    have hle := hr.weight_le
    simp [Frame.weight]
    omega
  | @controlJoinErr k e | @controlJoinPending k =>
    have hle := k.returnWeight_join_le
    simp [Frame.weight]
    exact Nat.lt_of_le_of_lt (hle _) (by omega)
  | detachYield | drainYield | drainAbortYield =>
    simp [Frame.weight, Await.weight]
    omega
  | _ => simp [Frame.weight, Await.weight]

/-! ### Inputs -/

namespace SupervisorRuntime

@[simp] theorem log_inputs (rt : SupervisorRuntime) (b : Action) : (rt.log b).inputs = rt.inputs := rfl

@[simp] theorem emitted_inputs (rt : SupervisorRuntime) (owner : Option Nat) (event : SupervisorEvent) :
    (rt.emitted owner event).inputs = rt.inputs := rfl

@[simp] theorem setEntry_inputs (rt : SupervisorRuntime) (key : ChildKey) (e : ChildEntry) :
    (rt.setEntry key e).inputs = rt.inputs := rfl

theorem dropReceiver_inputs_le (rt : SupervisorRuntime) : rt.dropReceiver.inputs ≤ rt.inputs := by
  simp only [inputs, dropReceiver, List.length_nil]
  omega

theorem spawned_inputs (rt : SupervisorRuntime) (key : ChildKey) (e : ChildEntry) :
    (rt.spawned key e).inputs = rt.inputs := by
  simp [inputs, SupervisorRuntime.spawned, emitted, log, JoinSet.spawn]

theorem abortedChild_inputs (rt : SupervisorRuntime) (e : ChildEntry) :
    (rt.abortedChild e).inputs = rt.inputs := by
  unfold SupervisorRuntime.abortedChild
  split
  · rfl
  · rename_i task _
    have hcount : ((rt.joinSet.abort task).tasks.countP (·.outcome.isSome)) =
        rt.joinSet.tasks.countP (·.outcome.isSome) := by
      rw [JoinSet.abort, List.countP_map]
      refine List.countP_congr fun t _ => ?_
      dsimp only [Function.comp]
      split <;> rfl
    simp only [inputs, log, hcount]

theorem cancelledChild_inputs (rt : SupervisorRuntime) (e : ChildEntry) :
    (rt.cancelledChild e).inputs = rt.inputs := by
  unfold SupervisorRuntime.cancelledChild
  split <;> rfl

theorem taken_inputs_lt {t : Task} {outcome : TaskOutcome} (h : rt.Finished t outcome) :
    (rt.taken t).inputs < rt.inputs := by
  have hlt : (rt.joinSet.tasks.filter (·.id != t.id)).countP (·.outcome.isSome) <
      rt.joinSet.tasks.countP (·.outcome.isSome) := by
    rw [List.countP_eq_length_filter, List.countP_eq_length_filter, List.filter_comm]
    refine List.length_filter_lt_length_iff_exists.2 ⟨t, List.mem_filter.2 ⟨h.mem, ?_⟩, by simp⟩
    rw [h.outcome]
    rfl
  simp only [inputs, SupervisorRuntime.taken]
  omega

theorem exited_inputs (rt : SupervisorRuntime) (t : Task) (e : ChildEntry) (outcome : TaskOutcome) :
    (rt.exited t e outcome).inputs = (rt.taken t).inputs := rfl

theorem finalized_inputs (rt : SupervisorRuntime) (key : ChildKey) (e : ChildEntry) :
    (rt.finalized key e).inputs = rt.inputs := rfl

theorem requested_inputs (rt : SupervisorRuntime) (reply : Nat) (key : ChildKey) (e : ChildEntry) :
    (rt.requested reply key e).inputs = rt.inputs := rfl

theorem spawnedAll_inputs (rt : SupervisorRuntime) (keys : List ChildKey) :
    (rt.spawnedAll keys).inputs = rt.inputs := by
  induction keys generalizing rt with
  | nil => rfl
  | cons key rest ih =>
    rw [spawnedAll]
    cases rt.children.get key with
    | none => exact ih rt
    | some e => exact (ih (rt.spawned key e)).trans (spawned_inputs ..)

theorem respawnedAll_inputs (rt : SupervisorRuntime) (keys : List ChildKey) :
    (rt.respawnedAll keys).inputs = rt.inputs := by
  induction keys generalizing rt with
  | nil => rfl
  | cons key rest ih =>
    rw [respawnedAll]
    cases rt.children.get key with
    | none => exact ih rt
    | some e =>
      dsimp only
      split
      · exact (ih (rt.restarted key e)).trans (spawned_inputs ..)
      · exact ih rt

theorem added_inputs (rt : SupervisorRuntime) (key : ChildKey) (child : ChildSpec) :
    (rt.added key child).inputs = rt.inputs := spawned_inputs ..

theorem Wf.cancelRunningChildren_inputs (h : rt.Wf) : rt.cancelRunningChildren.inputs = rt.inputs := by
  obtain ⟨C, n, heq, -⟩ := h.cancelRunningChildren
  rw [heq]
  rfl

theorem abortMatchingChildren_inputs (rt : SupervisorRuntime) (predicate : ChildEntry → Bool) :
    (rt.abortMatchingChildren predicate).inputs = rt.inputs :=
  abortMatchingChildren_field (·.inputs) abortedChild_inputs predicate

theorem swept_inputs (rt : SupervisorRuntime) : rt.swept.inputs = rt.inputs :=
  abortMatchingChildren_inputs ..

theorem Wf.halted_inputs (h : rt.Wf) : rt.halted.inputs = rt.inputs := by
  have hcancel := (show Wf { rt with state := .stopping } from h).cancelRunningChildren_inputs
  exact (swept_inputs _).trans hcancel

theorem seen_inputs_le (rt : SupervisorRuntime) : rt.seen.inputs ≤ rt.inputs := by
  simp only [inputs, seen, Bool.toNat_false]
  omega

theorem seen_inputs_lt (h : rt.shutdownRx.unseen = true) : rt.seen.inputs < rt.inputs := by
  simp only [inputs, seen, h, Bool.toNat_false, Bool.toNat_true]
  omega

theorem commandsClosed_inputs_le (rt : SupervisorRuntime) : rt.commandsClosed.inputs ≤ rt.inputs := by
  simp only [inputs, commandsClosed, Bool.toNat_false]
  omega

theorem commandsClosed_inputs_lt (h : rt.commandsOpen = true) : rt.commandsClosed.inputs < rt.inputs := by
  simp only [inputs, commandsClosed, h, Bool.toNat_false, Bool.toNat_true]
  omega

theorem received_inputs_lt {cmd : SupervisorCommand} {rest : List SupervisorCommand}
    (h : rt.commandRx.queue = cmd :: rest) : (rt.received rest).inputs < rt.inputs := by
  simp only [inputs, received, h, List.length_cons]
  omega

end SupervisorRuntime

/-! ### The methods -/

theorem LoopHead.inputs_le (h : LoopHead rt rt' ctrl) : rt'.inputs ≤ rt.inputs := by
  cases h with
  | exit | natural => exact dropReceiver_inputs_le _
  | wait _ => exact Nat.le_refl _

theorem CommandOutcome.inputs_eq {key : ChildKey} {k : Stack .handleCommand} {cmd : SupervisorCommand}
    (h : CommandOutcome rt key k cmd rt' ctrl) : rt'.inputs = rt.inputs := by
  cases h with
  | addRefused e => rfl
  | @added child reply => exact added_inputs (rt.log (.handled reply)) key child
  | removeRefused => rfl
  | @removed reply target e =>
    exact (finalized_inputs _ target e.requested).trans (requested_inputs _ reply target e)
  | @removeAbort reply target e =>
    exact (abortedChild_inputs _ e.requested).trans (requested_inputs _ reply target e)
  | @removeWait reply target e =>
    exact (cancelledChild_inputs _ e.requested).trans (requested_inputs _ reply target e)

/-- A command suspends at most in the wait of a removal. -/
theorem CommandOutcome.weight_le {key : ChildKey} {k : Stack .handleCommand} {cmd : SupervisorCommand}
    (h : CommandOutcome rt key k cmd rt' ctrl) : ctrl.weight ≤ 14 + k.weight := by
  cases h <;> simp [Frame.weight, Await.weight] <;> omega

theorem JoinOutcome.inputs_lt {t : Task} {outcome : TaskOutcome} {k : Stack .handleJoinedChild}
    (h : JoinOutcome rt t outcome k rt' ctrl) (hf : rt.Finished t outcome) : rt'.inputs < rt.inputs := by
  have hlt := taken_inputs_lt hf
  cases h with
  | stale => exact hlt
  | @stopping e =>
    rw [exited_inputs]
    exact hlt
  | @removed e =>
    rw [finalized_inputs, exited_inputs]
    exact hlt
  | @settled e =>
    rw [setEntry_inputs, exited_inputs]
    exact hlt
  | @overrunOne e | @overrunAll e =>
    rw [overrun, emitted_inputs, setEntry_inputs, exited_inputs]
    exact hlt
  | @scheduledOne e | @scheduledAll e =>
    rw [emitted_inputs, scheduled, setEntry_inputs, exited_inputs]
    exact hlt

/-- A join suspends at most in the delay of a group restart. -/
theorem JoinOutcome.weight_le {t : Task} {outcome : TaskOutcome} {k : Stack .handleJoinedChild}
    (h : JoinOutcome rt t outcome k rt' ctrl) : ctrl.weight ≤ 23 + k.weight := by
  cases h with
  | scheduledOne _ _ _ _ _ hp | scheduledAll _ _ _ _ _ hp =>
    cases hp <;> simp [Frame.weight, Await.weight] <;> omega
  | _ =>
    simp [Frame.weight]
    try omega

theorem DrainedJoin.inputs_lt {t : Task} {outcome : TaskOutcome} {reason : DrainReason}
    (h : DrainedJoin rt t outcome reason rt') (hf : rt.Finished t outcome) : rt'.inputs < rt.inputs := by
  have hlt := taken_inputs_lt hf
  cases h with
  | stale => exact hlt
  | @exited e =>
    rw [exited_inputs]
    exact hlt
  | @temporary e =>
    rw [setEntry_inputs, exited_inputs]
    exact hlt

theorem DrainNext.inputs_eq {reason : DrainReason} {k : Stack (.drainChildren reason)}
    (h : DrainNext rt reason k rt' ctrl) : rt'.inputs = rt.inputs := by
  cases h with
  | abort => exact abortMatchingChildren_inputs ..
  | _ => rfl

/-! ### What the rules leave open -/

/-- A `select!` that sees a change and starts no shutdown had not seen it. -/
theorem step_seen {c c' : Config} (hwf : c.rt.Wf) (hstep : step c (.run .shutdown) = some c')
    (hs : c'.ctrl.shutsDown = false) : c.rt.shutdownRx.unseen = true := by
  obtain ⟨rt, ctrl⟩ := c
  cases ctrl with
  | await p k =>
    obtain ⟨x, hx, rfl⟩ := Option.map_eq_some_iff.1 hstep
    have hbegun {rt₁ : SupervisorRuntime} (hrt : rt₁ = rt ∨ rt₁ = rt.seen) {k : Stack .shutdownAll}
        (hk : k.shutsDown = true) : (settle rt (rt₁.shutdownAll k)).ctrl.shutsDown = true := by
      have hwf₁ : rt₁.Wf := by rcases hrt with rfl | rfl <;> exact hwf
      exact hwf₁.shutdownAll_shutsDown hk rt
    cases p with
    | runSelect | removalSelect l | delaySelect deadline =>
      dsimp only [wake] at hx
      split at hx
      · rename_i hready
        rcases shutdownChanged_cases hready with ⟨rt₁, heq, hrt, -⟩ | ⟨-, hu, -⟩
        · rw [heq] at hx
          cases hx
          refine absurd (hs.symm.trans (hbegun hrt ?_)) Bool.false_ne_true
          simp [Frame.shutsDown]
        · exact hu
      · cases hx
    | _ => cases hx
  | _ => cases hstep

theorem wake_command_open {fn : Fn} {p : Await fn} {k : Stack fn} {key : ChildKey} {x : Except Panic Config}
    (hp : p.looks = false) (h : wake p (.command key) rt k = some x) : rt.commandsOpen = true := by
  cases p with
  | runSelect | delaySelect deadline =>
    dsimp only [wake] at h
    split at h
    · rename_i hready
      simp only [commandReady, Bool.and_eq_true] at hready
      exact hready.1.2.1
    · cases h
  | delayTryRecv => cases hp
  | _ => cases h

theorem SupervisorRuntime.Wf.handleNestedSnapshot_inputs (h : rt.Wf) (n : NestedSnapshotNotification)
    (hn : rt.handleNestedSnapshot n = .ok rt') : rt'.inputs = rt.inputs := by
  unfold SupervisorRuntime.handleNestedSnapshot at hn
  cases he : rt.children.get n.parentKey with
  | none =>
    rw [he] at hn
    cases hn
    rfl
  | some e =>
    simp only [he] at hn
    split at hn
    · cases hn
      rfl
    · cases hi : e.nestedSnapshotState with
      | none =>
        rw [hi] at hn
        cases hn
        rfl
      | some i =>
        simp only [hi] at hn
        have hwf (latest : Option SupervisorSnapshot) : ((rt.modifyNestedState i
            ({ · with queued := false })).setEntry n.parentKey { e with nestedSnapshot := latest }).Wf :=
          (show (rt.modifyNestedState i ({ · with queued := false })).Wf from h).setEntry he rfl
            ⟨(h.ok he).id, (h.ok he).membership, (h.ok he).handle⟩
        rw [@modifyEntry_eq (rt.modifyNestedState i ({ · with queued := false })) n.parentKey e he,
          (hwf _).publishSnapshot] at hn
        cases hn
        rfl

theorem step_nested {c : Config} {k : Stack .run} (hwf : rt.Wf)
    (hstep : step ⟨rt, .await .runSelect k⟩ (.run .nested) = some c) :
    ∃ n rest rt₁, rt.nestedSnapshotRx.queue = n :: rest ∧ rt₁.Wf ∧
      SupervisorRuntime.handleNestedSnapshot
        { rt with nestedSnapshotRx := { rt.nestedSnapshotRx with queue := rest } } n = .ok rt₁ ∧
      LoopHead rt₁ c.rt c.ctrl := by
  obtain ⟨x, hx, rfl⟩ := Option.map_eq_some_iff.1 hstep
  dsimp only [wake] at hx
  split at hx
  · split at hx
    · cases hx
    · rename_i n rest hq
      cases hx
      have hwf₀ : Wf { rt with nestedSnapshotRx := { rt.nestedSnapshotRx with queue := rest } } := hwf
      obtain ⟨rt₁, heq, hwf₁, -⟩ := handleNestedSnapshot_cases hwf₀ n
      refine ⟨n, rest, rt₁, hq, hwf₁, heq, ?_⟩
      rw [heq, ok_bind]
      have hloop := hwf₁.runLoop
      obtain ⟨c, hrun, -⟩ := hwf₁.runLoop_settles
      rw [hrun] at hloop ⊢
      exact hloop
  · cases hx

theorem step_nested_inputs {c : Config} {k : Stack .run} (hwf : rt.Wf)
    (hstep : step ⟨rt, .await .runSelect k⟩ (.run .nested) = some c) : c.rt.inputs < rt.inputs := by
  obtain ⟨n, rest, rt₁, hq, -, heq, hl⟩ := step_nested hwf hstep
  have hwf₀ : Wf { rt with nestedSnapshotRx := { rt.nestedSnapshotRx with queue := rest } } := hwf
  have hsame := hwf₀.handleNestedSnapshot_inputs n heq
  have hle := hl.inputs_le
  rw [hsame] at hle
  simp only [inputs, hq, List.length_cons] at hle ⊢
  omega

/-- Past its grace period, or at its end, a drain does not wait for it again. -/
theorem DrainNext.weight_lt {reason : DrainReason} {k : Stack (.drainChildren reason)}
    (hn : DrainNext rt reason k rt' ctrl') (hwf : rt.Wf) (hd : DrainGoesOn ctrl a reason k)
    (hstep : step ⟨rt, ctrl⟩ a = some ⟨rt', ctrl'⟩) : ctrl'.weight < ctrl.weight := by
  have hgrace : (rt.drainAfterGrace reason k).ctrl.weight < 4 + k.weight := by
    rcases hwf.drainAfterGrace_cases reason k with ⟨-, heq⟩ | ⟨-, heq⟩
    · rw [heq]
      simp
    · rw [heq]
      simp [Await.weight]
  cases hd with
  | empty | timer =>
    obtain ⟨x, hx, hsettle⟩ := Option.map_eq_some_iff.1 hstep
    dsimp only [wake] at hx
    rw [Option.ite_none_right_eq_some] at hx
    obtain ⟨-, hx⟩ := hx
    cases hx
    rw [settle] at hsettle
    rw [hsettle] at hgrace
    exact hgrace
  | first =>
    have hle := hn.weight_le
    simp [Frame.weight]
    omega
  | @second _ timedOut =>
    obtain ⟨v, hv⟩ := drainReturn_ret rt timedOut k
    have heq : rt.drainReturn reason timedOut k = ⟨rt', ctrl'⟩ := Option.some.inj hstep
    rw [hv] at heq
    cases heq
    simp [Frame.weight]

/-! ### The steps of the runtime -/

theorem BeginsShutdown.weight_lt {k : Stack .shutdownAll} (h : BeginsShutdown ctrl a k) :
    8 + k.weight < ctrl.weight := by
  cases h <;> simp [Frame.weight, Await.weight] <;> omega

theorem HandlesCommand.weight_le {k : Stack .handleCommand} (h : HandlesCommand ctrl k) :
    k.weight ≤ 1 + ctrl.weight := by
  cases h <;> simp [Frame.weight, Await.weight] <;> omega

theorem HandlesJoin.weight_le {k : Stack .handleJoinedChild} (h : HandlesJoin ctrl k) :
    k.weight ≤ 2 + ctrl.weight := by
  cases h <;> simp [Frame.weight, Await.weight] <;> omega

theorem Stack.weight_pos {fn : Fn} (k : Stack fn) : 0 < k.weight := by
  induction k with
  | nil => exact Nat.one_pos
  | push f k ih => exact Nat.add_pos_right _ ih

theorem Ctrl.weight_pos {c c' : Config} (ha : a.own = true) (hstep : step c a = some c') :
    0 < c.ctrl.weight := by
  obtain ⟨rt, ctrl⟩ := c
  cases ctrl with
  | await p k => exact Nat.add_pos_right _ k.weight_pos
  | ret k v =>
    show 0 < k.returnWeight v
    unfold Stack.returnWeight
    split
    · omega
    · omega
    · exact Stack.weight_pos _
  | finished r | panicked p =>
    cases a with
    | run w | resume => cases hstep
    | _ => cases ha

/-- Every step of the runtime lowers the work that is left. -/
theorem step_work_lt {c c' : Config} (hs : c.Sane) (ha : a.own = true) (hstep : step c a = some c') :
    c'.work < c.work := by
  have hpos := Ctrl.weight_pos ha hstep
  have hr := step_rule hs hstep
  obtain ⟨hwf, -, -⟩ := hs
  obtain ⟨rt, ctrl⟩ := c
  obtain ⟨rt', ctrl'⟩ := c'
  have hdrop := dropReceiver_inputs_le rt
  have hseen := seen_inputs_le rt
  have hclosed := commandsClosed_inputs_le rt
  unfold Config.work
  dsimp only at hr hwf hpos ⊢
  cases hr with
  | env henv =>
    cases a with
    | run w | resume => cases henv
    | _ => cases ha
  | move hm =>
    have hlt := hm.weight_lt
    omega
  | overflow | vacantOne | vacantAll | joinError | shutdownEnd | runEnd =>
    simp only [Ctrl.weight_panicked, Ctrl.weight_finished]
    omega
  | natural _ =>
    have hle := dropReceiver_inputs_le (rt.finishedWith rt.naturalExit)
    rw [show (rt.finishedWith rt.naturalExit).inputs = rt.inputs from rfl] at hle
    simp only [Ctrl.weight_finished]
    omega
  | @start k _ _ hl =>
    have hle := hl.inputs_le
    have hweight := hl.weight_le
    have hk := k.weight_pos
    rw [spawnedAll_inputs, emitted_inputs] at hle
    simp only [Ctrl.weight_await, Await.weight]
    omega
  | loop hat hl =>
    have hle := hl.inputs_le
    have hweight := hl.weight_le
    cases hat with
    | @command k | @join k =>
      have hk := k.weight_pos
      simp [Frame.weight]
      omega
    | @seen k hu hv =>
      have hlt := seen_inputs_lt hu
      omega
    | closed ho =>
      obtain ⟨x, hx, -⟩ := Option.map_eq_some_iff.1 hstep
      have hlt : rt.commandsClosed.inputs < rt.inputs := commandsClosed_inputs_lt (wake_command_open rfl hx)
      omega
    | ignored | nested =>
      have hlt := step_nested_inputs hwf hstep
      dsimp only at hlt
      omega
  | shutdown hb hrt hq =>
    have hlt := hb.weight_lt
    rcases hrt with rfl | rfl
    · rw [hwf.halted_inputs]
      simp [Frame.weight, Await.weight]
      omega
    · rw [(show rt.seen.Wf from hwf).halted_inputs]
      simp [Frame.weight, Await.weight]
      omega
  | queued v =>
    show 32 * rt.inputs + _ < _
    simp [Frame.weight]
  | shutdownDrained =>
    rw [show (rt.finishedWith .shutdown).inputs = rt.inputs from rfl]
    simp [Frame.weight]
  | command hh hv hq ho =>
    have hlt := received_inputs_lt hq
    have hk := hh.weight_le
    have hweight := ho.weight_le
    rw [ho.inputs_eq]
    omega
  | replied v =>
    rw [log_inputs]
    simp [Frame.weight]
  | join hh hf ho =>
    have hlt := ho.inputs_lt hf
    have hk := hh.weight_le
    have hweight := ho.weight_le
    omega
  | readyJoin hf hd =>
    have hlt := hd.inputs_lt hf
    omega
  | drainJoin hf hd hn =>
    have hlt := hd.inputs_lt hf
    have hweight := hn.weight_le
    rw [hn.inputs_eq]
    simp only [Ctrl.weight_await, Await.weight]
    omega
  | drainNext hd hn =>
    have hlt := hn.weight_lt hwf hd hstep
    rw [hn.inputs_eq]
    omega
  | @respawn key generation k e he hm =>
    rw [show (rt.restarted key e).inputs = (rt.spawned key e).inputs from rfl, spawned_inputs]
    simp [Frame.weight]
  | groupDrain =>
    rw [swept_inputs, hwf.cancelRunningChildren_inputs]
    simp [Frame.weight, Await.weight]
    omega
  | groupRespawn =>
    rw [respawnedAll_inputs, show rt.regrouped.inputs = rt.inputs from rfl]
    simp [Frame.weight]
  | tryRecvClosed =>
    simp [Await.weight]
    omega
  | delaySeen =>
    have hunseen := step_seen hwf hstep (Stack.shutsDown_of_settled _ rfl)
    have hlt : rt.seen.inputs < rt.inputs := seen_inputs_lt hunseen
    omega
  | delayClosed ho =>
    obtain ⟨x, hx, -⟩ := Option.map_eq_some_iff.1 hstep
    have hlt : rt.commandsClosed.inputs < rt.inputs := commandsClosed_inputs_lt (wake_command_open rfl hx)
    omega
  | delayClosedPending =>
    simp [Await.weight]
    omega
  | removalSeen hr =>
    have hweight := hr.weight_le
    have hunseen := step_seen hwf hstep (hr.shutsDown.trans (Stack.shutsDown_of_settled _ rfl))
    have hlt : rt.seen.inputs < rt.inputs := seen_inputs_lt hunseen
    simp only [Ctrl.weight_await, Await.weight]
    omega
  | removalTimer he =>
    rw [abortedChild_inputs]
    simp [Frame.weight, Await.weight]
    omega
  | detachGone he => simp [Frame.weight]
  | detach he =>
    rw [finalized_inputs]
    simp [Frame.weight]

/-! ### The steps of the environment -/

theorem countP_finish {l : List Task} (hl : (l.map (·.id)).Nodup) (id : TaskId) (outcome : TaskOutcome) :
    (l.map fun t => if t.id = id then { t with outcome := some outcome } else t).countP
        (·.outcome.isSome) ≤ l.countP (·.outcome.isSome) + if id ∈ l.map (·.id) then 1 else 0 := by
  induction l with
  | nil => simp
  | cons t l ih =>
    simp only [List.map_cons, List.nodup_cons] at hl
    have hle := ih hl.2
    by_cases hid : t.id = id
    · subst hid
      rw [if_neg hl.1] at hle
      simp only [List.map_cons, List.countP_cons, if_true, Option.isSome_some, List.mem_cons, true_or]
      omega
    · have hmem : (id ∈ (t :: l).map (·.id)) ↔ id ∈ l.map (·.id) := by
        simp [Ne.symm hid]
      simp only [hmem]
      simp only [List.map_cons, List.countP_cons, if_neg hid]
      omega

theorem SupervisorRuntime.Wf.envStep_inputs_le (h : rt.Wf) (henv : envStep rt a = some rt') :
    rt'.inputs ≤ rt.inputs + a.brings := by
  cases a with
  | run w | resume => cases henv
  | tick nanos wallClock =>
    obtain ⟨-, heq⟩ := (Option.ite_none_right_eq_some ..).1 henv
    cases heq
    exact Nat.le_refl _
  | requestShutdown =>
    obtain ⟨-, heq⟩ := (Option.ite_none_left_eq_some ..).1 henv
    cases heq
    simp only [inputs, Act.brings, Bool.toNat_true]
    omega
  | dropShutdownSenders | dropCommandSenders | storeSnapshot | queueSnapshot =>
    cases henv
    exact Nat.le_refl _
  | send command =>
    obtain ⟨-, heq⟩ := (Option.ite_none_left_eq_some ..).1 henv
    split at heq
    · cases heq
      exact Nat.le_succ _
    · obtain ⟨-, heq⟩ := (Option.ite_none_right_eq_some ..).1 heq
      cases heq
      simp only [inputs, Act.brings, List.length_append, List.length_singleton]
      omega
  | notify n =>
    obtain ⟨-, heq⟩ := (Option.ite_none_right_eq_some ..).1 henv
    cases heq
    simp only [inputs, Act.brings, List.length_append, List.length_singleton]
    omega
  | finish task outcome =>
    obtain ⟨js, hjs, rfl⟩ := Option.map_eq_some_iff.1 henv
    have hle : js.tasks.countP (·.outcome.isSome) ≤ rt.joinSet.tasks.countP (·.outcome.isSome) + 1 := by
      have hcount := countP_finish h.taskNodup task outcome
      unfold JoinSet.finish at hjs
      split at hjs
      · split at hjs
        · cases hjs
        · cases hjs
          refine hcount.trans (Nat.add_le_add_left ?_ _)
          split <;> omega
      · cases hjs
    simp only [inputs, Act.brings]
    omega

end

/-! ### Runs -/

/-- The configurations of a run. -/
def Config.Reached (config : SupervisorConfig) (env : StartEnv) (c : Config) : Prop :=
  ∃ as, AnyRun step (Config.start config env) as c

section
variable {config : SupervisorConfig} {env : StartEnv}

theorem paid (h : config.Accepted) (env : StartEnv) :
    Paid step (Config.Reached config env) Config.work Act.own (fun a => 32 * a.brings) where
  keeps := fun _ _ _ ⟨_, hrun⟩ hstep => ⟨_, hrun.snoc trivial hstep⟩
  lowers := fun _ _ _ ⟨_, hrun⟩ ha hstep => step_work_lt (run_sane h hrun) ha hstep
  raises := fun c a c' ⟨_, hrun⟩ ha hstep => by
    have hwf := (run_sane h hrun).wf
    have hmap : (envStep c.rt a).map (fun rt => ⟨rt, c.ctrl⟩) = some c' := by
      cases a with
      | run w | resume => cases ha
      | _ => exact hstep
    obtain ⟨rt', henv, rfl⟩ := Option.map_eq_some_iff.1 hmap
    have hle := hwf.envStep_inputs_le henv
    simp only [Config.work]
    omega

theorem SupervisorRuntime.insertInitial_inputs (rt : SupervisorRuntime) (specs : List ChildSpec) :
    (rt.insertInitial specs).inputs = rt.inputs := by
  induction specs generalizing rt with
  | nil => rfl
  | cons spec rest ih => exact ih _

theorem Config.start_work (config : SupervisorConfig) (env : StartEnv) :
    (Config.start config env).work = 44 := by
  have hinputs : (SupervisorRuntime.new config env).inputs = 1 := insertInitial_inputs _ _
  simp [Config.work, Config.start, hinputs, Await.weight, Stack.weight]

/-- The supervisor never spins. Wherever a run has got to, the steps that the runtime takes from there on
are bounded by the work that is left and what the environment brings meanwhile. -/
theorem run_own_le (h : config.Accepted) :
    (∀ as c, AnyRun step (Config.start config env) as c →
      as.countP Act.own ≤ 44 + 32 * (as.map Act.brings).sum) ∧
    ∀ as c as' c', AnyRun step (Config.start config env) as c → AnyRun step c as' c' →
      as'.countP Act.own + c'.work ≤ c.work + 32 * (as'.map Act.brings).sum := by
  have hbound {as c as' c'} (hrun : AnyRun step (Config.start config env) as c) (hrun' : AnyRun step c as' c') :
      as'.countP Act.own + c'.work ≤ c.work + 32 * (as'.map Act.brings).sum := by
    have hle := (paid h env).count_add_le ⟨as, hrun⟩ hrun'
    rwa [List.sum_map_mul_left] at hle
  refine ⟨fun as c hrun => ?_, fun as c as' c' => hbound⟩
  have hle := hbound .nil hrun
  rw [Config.start_work] at hle
  omega

/-- A child fails and is restarted at once. -/
theorem run_own_le_restart : ∃ c, AnyRun step (Config.start promptConfig ⟨false, 0, 0⟩)
    [.run .go, .finish 0 (.returned (.error "failed")), .run (.join 0), .run .go, .run .go,
      .run (.command 2), .resume] c ∧ 6 ≤ 44 + 32 * 1 := by
  have hex : ∃ c, AnyRun step (Config.start promptConfig ⟨false, 0, 0⟩)
      [.run .go, .finish 0 (.returned (.error "failed")), .run (.join 0), .run .go, .run .go,
        .run (.command 2), .resume] c ∧ c.rt.liveTasks = 2 := anyRun_of_exec (by decide +kernel)
  obtain ⟨c, hrun, -⟩ := hex
  exact ⟨c, hrun, (run_own_le promptConfig_accepted).1 _ c hrun⟩

end

end TokioSupervisor
