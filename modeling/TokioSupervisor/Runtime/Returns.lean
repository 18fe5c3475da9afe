import TokioSupervisor.Runtime.Awaited

/-!
# What the methods return

`Fn.Contract` says which errors a method returns. A join always finds its metadata and a spawn its slot,
so an `Internal` error is left to one place, an `await_child_removal` that finds the join set empty. A
timeout is owed to the caller of `await_child_removal` from the moment its grace is over until the child
is detached (`Ctrl.Owes`).
-/

namespace TokioSupervisor
open Lib SupervisorRuntime

def SupervisorError.isInternal : SupervisorError → Bool
  | .internal _ => true
  | _ => false

def ControlError.isInternal : ControlError → Bool
  | .internal _ => true
  | _ => false

/-- What a call of the method may return. -/
def Fn.Contract : (fn : Fn) → fn.Value → Prop
  | .run, v | .shutdownAll, v => ∀ e, v = .error e → e.isInternal = false
  | .queueShutdownExit, _ | .handleCommand, _ => True
  | .removeChild, v | .awaitChildRemoval, v | .handleJoinDuringControl, v =>
    ∀ e, v = .error e → e.isInternal = false
  | .handleShutdownDuringControl, v => ∀ e, v = .error e → e = .supervisorStopping
  | .abortAndDetachChild, v | .drainReadyJoins _, v => v = .ok ()
  | .drainChildren _, v | .drainForGroupRestart, v | .handleJoinedChild, v
  | .handleOneForOneRestart, v | .handleOneForAllRestart, v => ∀ e, v = .error e → e.isInternal = false
  | .waitForRestartDelay, v => ∀ e, v ≠ .error e

def Ctrl.Contract : Ctrl → Prop
  | @Ctrl.ret fn _ v => fn.Contract v
  | .finished r => ∀ e, r = .error e → e.isInternal = false
  | .await .. | .panicked _ => True

/-- Once the frame is resumed, the caller `k₀` gets the error `e`. -/
def Frame.Owes (e : ControlError) : {callee caller : Fn} → Frame callee caller → Stack caller →
    Stack .awaitChildRemoval → Prop
  | _, _, .removalDetach removalError, k, k₀ => removalError = some e ∧ k = k₀
  | _, _, _, _, _ => False

def Stack.Owes (e : ControlError) : {fn : Fn} → Stack fn → Stack .awaitChildRemoval → Prop
  | _, .nil, _ => False
  | _, .push f k, k₀ => f.Owes e k k₀ ∨ k.Owes e k₀

/-- A removal whose grace is over owes the error `e` to its caller, the stack `k₀`. -/
def Ctrl.Owes (e : ControlError) (k₀ : Stack .awaitChildRemoval) : Ctrl → Prop
  | .await _ k | .ret k _ => k.Owes e k₀
  | .finished _ | .panicked _ => False

/-- The grace of the removal is over, with its error `e`; no task has ended. -/
structure TimesOut (rt : SupervisorRuntime) (l : Removal) (e : ControlError) : Prop where
  isError : l.timeoutIsError = true
  error : e = .shutdownTimedOut l.childId
  late : l.deadline ≤ rt.now
  pending : rt.joinPending = true

section
variable {rt rt' : SupervisorRuntime} {ctrl ctrl' : Ctrl} {a : Act} {e : ControlError}
  {k₀ : Stack .awaitChildRemoval}

@[simp] theorem Stack.owes_nil : ¬ Stack.nil.Owes e k₀ := id

@[simp] theorem Stack.owes_push {callee caller : Fn} {f : Frame callee caller} {k : Stack caller} :
    (Stack.push f k).Owes e k₀ ↔ f.Owes e k k₀ ∨ k.Owes e k₀ := Iff.rfl

@[simp] theorem Ctrl.owes_await {fn : Fn} {p : Await fn} {k : Stack fn} :
    (Ctrl.await p k).Owes e k₀ ↔ k.Owes e k₀ := Iff.rfl

@[simp] theorem Ctrl.owes_ret {fn : Fn} {k : Stack fn} {v : fn.Value} :
    (Ctrl.ret k v).Owes e k₀ ↔ k.Owes e k₀ := Iff.rfl

@[simp] theorem Ctrl.owes_finished {r : Except SupervisorError SupervisorExit} :
    ¬ (Ctrl.finished r).Owes e k₀ := id

@[simp] theorem Ctrl.owes_panicked {p : Panic} : ¬ (Ctrl.panicked p).Owes e k₀ := id

/-! ### Timeouts -/

theorem removalTimer_error {l : Removal} {k : Stack .awaitChildRemoval} {entry : ChildEntry}
    {error : Option ControlError} (he : rt.children.get l.key = some entry)
    (hstep : step ⟨rt, .await (.removalSelect l) k⟩ (.run .timer) =
      some ⟨rt', .await (.detachYield l.key .shutdown) (.push (.removalDetach error) k)⟩) :
    (error = if l.timeoutIsError then some (.shutdownTimedOut l.childId) else none) ∧
      l.deadline ≤ rt.now ∧ rt.joinPending = true := by
  obtain ⟨x, hx, hset⟩ := Option.map_eq_some_iff.1 hstep
  dsimp only [wake] at hx
  split at hx
  · rename_i hready
    simp only [Bool.and_eq_true, decide_eq_true_eq] at hready
    cases hx
    simp only [abortAndDetachChild, abortChild_eq he, ok_bind, pure_eq_ok, settle,
      Config.mk.injEq] at hset
    obtain ⟨-, hc⟩ := hset
    cases hc
    exact ⟨rfl, hready.2, hready.1.2⟩
  · cases hx

theorem RemovalHead.owes {l : Removal} {k : Stack .awaitChildRemoval} (h : RemovalHead rt l k ctrl)
    (ho : ctrl.Owes e k₀) : k.Owes e k₀ := by
  cases h <;> simpa using ho

theorem LoopHead.owes (h : LoopHead rt rt' ctrl) : ¬ ctrl.Owes e k₀ := by
  cases h <;> simp

theorem DrainNext.owes {reason : DrainReason} {k : Stack (.drainChildren reason)}
    (h : DrainNext rt reason k rt' ctrl) (ho : ctrl.Owes e k₀) : k.Owes e k₀ := by
  cases h <;> simpa using ho

theorem Move.owes (h : Move rt ctrl a ctrl') (ho : ctrl'.Owes e k₀) : ctrl.Owes e k₀ := by
  cases h with
  | removalShutdownOk hr | removalJoinOk hr => exact .inr (hr.owes ho)
  | _ => simp_all [Frame.Owes]

theorem Rule.owes (h : Rule rt ctrl a rt' ctrl') (hstep : step ⟨rt, ctrl⟩ a = some ⟨rt', ctrl'⟩)
    (ho : ctrl'.Owes e k₀) :
    ctrl.Owes e k₀ ∨ ∃ l, ctrl = .await (.removalSelect l) k₀ ∧ TimesOut rt l e := by
  cases h with
  | env _ => exact .inl ho
  | move h => exact .inl (h.owes ho)
  | start hl => exact absurd ho hl.owes
  | loop _ hl => exact absurd ho hl.owes
  | shutdown hb _ _ => cases hb <;> simp_all [Frame.Owes]
  | command hk _ _ hout => cases hk <;> cases hout <;> simp_all [Frame.Owes]
  | join hk _ hout => cases hk <;> cases hout <;> simp_all [Frame.Owes]
  | drainJoin _ _ hn => exact .inl (hn.owes ho)
  | drainNext hd hn => cases hd <;> simp_all [hn.owes, Frame.Owes]
  | removalSeen hr => exact .inl (hr.owes ho)
  | @removalTimer l k entry error he =>
    obtain ⟨herror, hlate, hpending⟩ := removalTimer_error he hstep
    rcases ho with ⟨hsome, rfl⟩ | hk
    · rw [hsome] at herror
      split at herror
      · rename_i hl
        cases herror
        exact .inr ⟨l, rfl, hl, rfl, hlate, hpending⟩
      · cases herror
    · exact .inl hk
  | _ => simp_all [Frame.Owes]

/-! ### Results -/

theorem mapSupervisorErrorToControl_isInternal {e : SupervisorError} (h : e.isInternal = false) :
    (mapSupervisorErrorToControl e).isInternal = false := by
  cases e with
  | internal m => cases h
  | _ => rfl

theorem SupervisorRuntime.removeRefusal_mem {id : String} (h : rt.removeRefusal id = some e) :
    e ∈ [.supervisorStopping, .unknownChildId id, .childRemovalInProgress id,
      .lastChildRemovalUnsupported] := by
  unfold removeRefusal at h
  split at h
  · cases h
    simp
  · split at h
    · cases h
      simp
    · obtain ⟨entry, -, h⟩ := Option.bind_eq_some_iff.1 h
      split at h
      · cases h
        simp
      · split at h
        · cases h
          simp
        · cases h

theorem SupervisorRuntime.removeRefusal_isInternal {id : String} (h : rt.removeRefusal id = some e) :
    e.isInternal = false := by
  have hmem := removeRefusal_mem h
  simp only [List.mem_cons, List.not_mem_nil, or_false] at hmem
  rcases hmem with rfl | rfl | rfl | rfl <;> rfl

theorem SupervisorRuntime.addRefusal_isInternal {child : ChildSpec} (h : rt.addRefusal child = some e) :
    e.isInternal = false := by
  unfold addRefusal at h
  split at h
  · cases h
    rfl
  · split at h
    · cases h
      rfl
    · split at h
      · rename_i err _
        cases h
        cases err <;> rfl
      · split at h
        · cases h
          rfl
        · cases h

theorem drainFailed_error {reason : DrainReason} {timedOut : String} {k : Stack (.drainChildren reason)}
    {e : SupervisorError}
    (hstep : step ⟨rt, .ret (.push (.drainSecond reason timedOut) k) (.ok ())⟩ .resume =
      some ⟨rt', .ret k (.error e)⟩) : ∃ ids, e = .shutdownTimedOut ids := by
  have hresume : rt.drainReturn reason timedOut k = ⟨rt', .ret k (.error e)⟩ := by
    simpa [step, resume, settle] using hstep
  rcases @drainReturn_cases rt reason timedOut k with
    ⟨-, heq⟩ | ⟨-, ⟨-, heq⟩ | ⟨-, -, heq⟩ | ⟨-, -, heq⟩⟩
  all_goals
    rw [heq] at hresume
    cases hresume
  · exact ⟨_, rfl⟩
  · exact ⟨_, rfl⟩

theorem Move.contract (h : Move rt ctrl a ctrl') (hc : ctrl.Contract)
    (howes : ∀ e k, ctrl.Owes e k → e.isInternal = false)
    (hjoin : ∀ l k, ctrl = .await (.removalSelect l) k → rt.joinSet.isEmpty = false)
    (hstep : step ⟨rt, ctrl⟩ a = some ⟨rt, ctrl'⟩) : ctrl'.Contract := by
  cases h with
  | removeDetachErr e | removalDetachErr e | detachErr e | drainFirstErr e | drainSecondErr e => cases hc
  | removeAwait v | groupDrain v | joinedOneForOne v | joinedOneForAll v => exact hc
  | removalShutdownErr e =>
    cases hc e rfl
    exact fun e he => by cases he; rfl
  | removalShutdownOk hr | removalJoinOk hr =>
    cases hr with
    | gone _ => exact nofun
    | wait _ => trivial
  | removalJoinErr e | allDrainErr e => exact hc
  | shutdownDrainErr e => exact fun e' he' => by cases he'; exact hc e rfl
  | removalJoinNone hj e =>
    rw [hjoin _ _ rfl] at hj
    cases hj
  | @removalDetachOk error k v =>
    cases error with
    | none =>
      cases hstep
      exact nofun
    | some e =>
      cases hstep
      exact fun e' he' => by cases he'; exact howes e k (.inl ⟨rfl, rfl⟩)
  | controlShutdown => exact fun e he => by cases he; rfl
  | controlJoinErr e =>
    exact fun e' he' => by cases he'; exact mapSupervisorErrorToControl_isInternal (hc e rfl)
  | controlJoinPending _ => exact fun e he => by cases he; rfl
  | drainFailed _ e =>
    obtain ⟨ids, rfl⟩ := drainFailed_error hstep
    exact fun e he => by cases he; rfl
  | oneDelayErr e | allDelayErr e => exact absurd rfl (hc e)
  | _ => first | trivial | exact nofun

theorem JoinOutcome.contract {t : Task} {outcome : TaskOutcome} {k : Stack .handleJoinedChild}
    (h : JoinOutcome rt t outcome k rt' ctrl') : ctrl'.Contract := by
  cases h with
  | overrunOne | overrunAll => exact fun e he => by cases he; rfl
  | scheduledOne | scheduledAll => trivial
  | _ => exact nofun

theorem CommandOutcome.contract {key : ChildKey} {k : Stack .handleCommand} {cmd : SupervisorCommand}
    (h : CommandOutcome rt key k cmd rt' ctrl') : ctrl'.Contract := by
  cases h with
  | removeRefused hr => exact fun e he => by cases he; exact removeRefusal_isInternal hr
  | removed => exact nofun
  | _ => trivial

theorem DrainNext.contract {reason : DrainReason} {k : Stack (.drainChildren reason)}
    (h : DrainNext rt reason k rt' ctrl') : ctrl'.Contract := by
  cases h with
  | done _ => exact nofun
  | _ => trivial

theorem LoopHead.contract (h : LoopHead rt rt' ctrl')
    (hp : ∀ e, rt.pendingExit = some (.error e) → e.isInternal = false) : ctrl'.Contract := by
  cases h with
  | exit hresult => exact fun e he => hp e (he ▸ hresult)
  | natural => exact nofun
  | wait _ => trivial

/-- Every method keeps its contract, unless a removal that waits finds the join set empty. -/
theorem Rule.contract (h : Rule rt ctrl a rt' ctrl') (hc : ctrl.Contract)
    (howes : ∀ e k, ctrl.Owes e k → e.isInternal = false)
    (hp : ∀ e, rt.pendingExit = some (.error e) → e.isInternal = false)
    (hjoin : ∀ l k, ctrl = .await (.removalSelect l) k → rt.joinSet.isEmpty = false)
    (hstep : step ⟨rt, ctrl⟩ a = some ⟨rt', ctrl'⟩) : ctrl'.Contract := by
  cases h with
  | env _ => exact hc
  | move h => exact h.contract hc howes hjoin hstep
  | start hl =>
    refine hl.contract fun e he => hp e ?_
    rwa [spawnedAll_pendingExit] at he
  | loop hat hl => exact hl.contract fun e he => hp e (hat.pendingExit ▸ he)
  | joinError e => exact fun e' he' => by cases he'; exact hc e rfl
  | shutdownEnd v | runEnd v => exact hc
  | command _ _ _ hout => exact hout.contract
  | join _ _ hout => exact hout.contract
  | drainJoin _ _ hn => exact hn.contract
  | drainNext _ hn => exact hn.contract
  | removalSeen hr =>
    cases hr with
    | gone _ => exact nofun
    | wait _ => trivial
  | detachGone _ | detach _ => rfl
  | _ => first | trivial | exact nofun

end

end TokioSupervisor
