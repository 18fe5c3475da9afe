import TokioSupervisor.Runtime.Internal

/-!
# Timeouts of removals

`await_child_removal` may return `ShutdownTimedOut` for two reasons: its own grace is over, or
`handle_join_during_control` hands on the timeout of a group restart. Where the second does not happen
(`groupDrainsInTime`), and the exits that are waited for are consumed by `handle_joined_child`
(`keepsAwaited`), a timeout is owed to a child whose task was unjoined when its grace was over. A drain
that consumes the exit of an awaited child makes the removal wait on, and time out, for a child that has
exited (`late_timeout_reached`).
-/

namespace TokioSupervisor
open Lib SupervisorRuntime

/-! ### Timeouts of group restarts -/

def SupervisorError.isTimeout : SupervisorError → Bool
  | .shutdownTimedOut _ => true
  | _ => false

def ControlError.isTimeout : ControlError → Bool
  | .shutdownTimedOut _ => true
  | _ => false

/-- The drain of a group restart that is part of a `handle_join_during_control` ends with every child
stopped in time. -/
def groupDrainsInTime (c : Config) (a : Act) : Bool :=
  match c.ctrl, a with
  | .ret (.push (.drainSecond .groupRestart timedOut) k) (.ok ()), .resume =>
    !k.inControl || timedOut.isEmpty && c.rt.activeTaskNames.isEmpty
  | _, _ => true

def Fn.blames : (fn : Fn) → fn.Value → Bool
  | .handleJoinDuringControl, .error e => e.isTimeout
  | _, _ => false

/-- The timeout of a group restart is on its way to a removal. -/
def Ctrl.blames : Ctrl → Bool
  | @Ctrl.ret fn k v => fn.blames v || (fn.error v).any SupervisorError.isTimeout && k.inControl
  | _ => false

section
variable {rt rt' : SupervisorRuntime} {ctrl ctrl' : Ctrl} {a : Act}

theorem mapSupervisorErrorToControl_isTimeout (e : SupervisorError) :
    (mapSupervisorErrorToControl e).isTimeout = e.isTimeout := by
  cases e <;> rfl

theorem SupervisorRuntime.removeRefusal_isTimeout {id : String} {e : ControlError}
    (h : rt.removeRefusal id = some e) : e.isTimeout = false := by
  have hmem := removeRefusal_mem h
  simp only [List.mem_cons, List.not_mem_nil, or_false] at hmem
  rcases hmem with rfl | rfl | rfl | rfl <;> rfl

theorem LoopHead.blames (h : LoopHead rt rt' ctrl') : ctrl'.blames = false := by
  cases h <;> rfl

theorem DrainNext.blames {reason : DrainReason} {k : Stack (.drainChildren reason)}
    (h : DrainNext rt reason k rt' ctrl') : ctrl'.blames = false := by
  cases h with
  | done => cases reason <;> rfl
  | _ => rfl

theorem Move.blames (h : Move rt ctrl a ctrl') (hc : ctrl.Contract)
    (hjoin : ∀ l k, ctrl = .await (.removalSelect l) k → rt.joinSet.isEmpty = false)
    (hok : groupDrainsInTime ⟨rt, ctrl⟩ a = true) (hb : ctrl.blames = false) : ctrl'.blames = false := by
  cases h with
  | removalJoinNone hj e =>
    rw [hjoin _ _ rfl] at hj
    cases hj
  | @drainFailed reason timedOut k hf e =>
    cases reason with
    | shutdown => rfl
    | groupRestart =>
      have hok : (!k.inControl || timedOut.isEmpty && rt.activeTaskNames.isEmpty) = true := hok
      have hin : k.inControl = false := by
        rcases hf with hf | ⟨-, hf⟩ <;> simpa [hf] using hok
      show (e.isTimeout && k.inControl) = false
      rw [hin, Bool.and_false]
  | @controlJoinErr k e =>
    have hb : (e.isTimeout && true) = false := hb
    show ((mapSupervisorErrorToControl e).isTimeout || false) = false
    rwa [mapSupervisorErrorToControl_isTimeout, Bool.or_false, ← Bool.and_true e.isTimeout]
  | drainFirstErr e | drainSecondErr e => cases hc
  | oneDelayErr e | allDelayErr e => exact absurd rfl (hc e)
  | groupDrain v | joinedOneForOne v | joinedOneForAll v =>
    cases v with
    | ok u => rfl
    | error e => exact hb
  | removalShutdownOk hr | removalJoinOk hr => cases hr <;> rfl
  | _ => first | rfl | exact hb

/-- Such a timeout comes from a drain that has not stopped every child. -/
theorem Rule.blames (h : Rule rt ctrl a rt' ctrl') (hc : ctrl.Contract)
    (hjoin : ∀ l k, ctrl = .await (.removalSelect l) k → rt.joinSet.isEmpty = false)
    (hok : groupDrainsInTime ⟨rt, ctrl⟩ a = true) (hb : ctrl.blames = false) : ctrl'.blames = false := by
  cases h with
  | env _ => exact hb
  | move h => exact h.blames hc hjoin hok hb
  | start hl => exact hl.blames
  | loop _ hl => exact hl.blames
  | command _ _ _ ho => cases ho <;> rfl
  | join _ _ ho => cases ho <;> rfl
  | drainJoin _ _ hn => exact hn.blames
  | drainNext _ hn => exact hn.blames
  | removalSeen hr => cases hr <;> rfl
  | _ => rfl

end

/-! ### Where a removal's timeout comes from -/

/-- `await_child_removal` has returned the error `e` to the caller `k₀`, or this caller has handed it on. -/
def Ctrl.Returned (e : ControlError) (k₀ : Stack .awaitChildRemoval) : Ctrl → Prop
  | @Ctrl.ret .awaitChildRemoval k v => k = k₀ ∧ v = .error e
  | @Ctrl.ret .removeChild k v => .push .removeAwait k = k₀ ∧ v = .error e
  | _ => False

section
variable {rt rt' : SupervisorRuntime} {ctrl ctrl' : Ctrl} {a : Act} {e : ControlError}
  {k₀ : Stack .awaitChildRemoval}

theorem LoopHead.returned (h : LoopHead rt rt' ctrl') : ¬ ctrl'.Returned e k₀ := by
  cases h <;> exact id

theorem DrainNext.returned {reason : DrainReason} {k : Stack (.drainChildren reason)}
    (h : DrainNext rt reason k rt' ctrl') : ¬ ctrl'.Returned e k₀ := by
  cases h <;> exact id

theorem RemovalHead.returned {l : Removal} {k : Stack .awaitChildRemoval} (h : RemovalHead rt l k ctrl') :
    ¬ ctrl'.Returned e k₀ := by
  cases h with
  | gone _ => exact fun hr => nomatch hr.2
  | wait _ => exact id

theorem Move.returned (h : Move rt ctrl a ctrl') (he : e.isTimeout = true) (hc : ctrl.Contract)
    (hb : ctrl.blames = false) (hstep : step ⟨rt, ctrl⟩ a = some ⟨rt, ctrl'⟩)
    (hr : ctrl'.Returned e k₀) : ctrl.Owes e k₀ ∨ ctrl.Returned e k₀ := by
  cases h with
  | removeDetachErr e' | removalDetachErr e' => cases hc
  | removeDetachOk => cases hr.2
  | removeAwait v => exact .inr hr
  | removalShutdownErr e' =>
    cases hr.2
    rw [hc e rfl] at he
    cases he
  | removalShutdownOk hh | removalJoinOk hh => exact absurd hr hh.returned
  | removalJoinErr e' =>
    cases hr.2
    have hb : (e.isTimeout || false) = false := hb
    rw [he] at hb
    cases hb
  | @removalDetachOk error k v =>
    cases error with
    | none =>
      cases hstep
      cases hr.2
    | some e' =>
      cases hstep
      obtain ⟨rfl, hv⟩ := hr
      cases hv
      exact .inl (.inl ⟨rfl, rfl⟩)
  | _ => cases hr

/-- A timeout that a removal returns was owed before. -/
theorem Rule.returned (h : Rule rt ctrl a rt' ctrl') (he : e.isTimeout = true) (hc : ctrl.Contract)
    (hb : ctrl.blames = false) (hstep : step ⟨rt, ctrl⟩ a = some ⟨rt', ctrl'⟩)
    (hr : ctrl'.Returned e k₀) : ctrl.Owes e k₀ ∨ ctrl.Returned e k₀ := by
  cases h with
  | env _ => exact .inr hr
  | move h => exact h.returned he hc hb hstep hr
  | start hl => exact absurd hr hl.returned
  | loop _ hl => exact absurd hr hl.returned
  | command _ _ _ ho =>
    cases ho with
    | removeRefused href =>
      cases hr.2
      rw [removeRefusal_isTimeout href] at he
      cases he
    | removed => cases hr.2
    | _ => cases hr
  | join _ _ ho => cases ho <;> cases hr
  | drainJoin _ _ hn => exact absurd hr hn.returned
  | drainNext _ hn => exact absurd hr hn.returned
  | removalSeen hh => exact absurd hr hh.returned
  | _ => cases hr

end

/-! ### Where a removal comes from -/

/-- In the state `c` the command of call `reply` is handled that begins the removal `l`: the child is
cancelled, and its grace begins. -/
structure Config.Cancels (c : Config) (l : Removal) (reply : Nat) : Prop where
  handles : Handles c (.removeChild l.childId reply)
  child : ∃ e, c.rt.children.get l.key = some e ∧ e.id = l.childId ∧ e.instanceId = l.target ∧
    e.membership = .active ∧ instantAdd c.rt.now e.runtime.spec.shutdownPolicy.grace = .ok l.deadline ∧
      l.timeoutIsError = (e.runtime.spec.shutdownPolicy.mode == .cooperative)

theorem BeginsRemoval.cancels {rt rt' : SupervisorRuntime} {ctrl ctrl' : Ctrl} {a : Act} {l : Removal}
    (h : BeginsRemoval rt ctrl l a rt' ctrl') (hwf : rt.Wf)
    (hstep : step ⟨rt, ctrl⟩ a = some ⟨rt', ctrl'⟩) : ∃ reply k,
      ctrl' = .await (.removalSelect l) (.push .removeAwait (.push (.commandReply reply) k)) ∧
        Config.Cancels ⟨rt, ctrl⟩ l reply := by
  cases h with
  | @intro k key reply rest e hh hq he hm hs hr hid ht =>
    refine ⟨reply, k, rfl, ⟨⟨k, hh⟩, rest, hid ▸ hq⟩, e, he, hid.symm, ht.symm, hm, ?_⟩
    obtain ⟨-, hc⟩ := step_command (c := ⟨rt, ctrl⟩) hh hq hstep
    have hwf' : ((rt.received rest).log (.handled reply)).Wf := hwf
    obtain ⟨key', e', -, he', -, -, hcases⟩ :=
      hwf'.removeChild_accepted reply (.push (.commandReply reply) k) hr
    have hhandle : (rt.received rest).handleCommand key (.removeChild e.id reply) k =
        ((rt.received rest).log (.handled reply)).removeChild reply e.id (.push (.commandReply reply) k) :=
      rfl
    have hctrl := congrArg Config.ctrl hc
    rw [hhandle] at hctrl
    rcases hcases with ⟨-, heq⟩ | ⟨-, ⟨-, heq⟩ | ⟨-, heq⟩⟩
    · rw [heq] at hctrl
      cases hctrl
    · rw [heq] at hctrl
      cases hctrl
    · rw [heq] at hctrl
      cases hd : instantAdd ((rt.received rest).log (.handled reply)).now
          e'.runtime.spec.shutdownPolicy.grace with
      | error p =>
        rw [hd] at hctrl
        cases hctrl
      | ok deadline =>
        rw [hd] at hctrl
        cases hctrl
        cases he.symm.trans he'
        exact ⟨hd, rfl⟩

/-! ### Runs -/

/-- The removal that waits for its child. -/
def Ctrl.waitsFor : Ctrl → Option Removal
  | .await (.removalSelect l) _ => some l
  | _ => none

theorem Ctrl.waitsFor_eq {ctrl : Ctrl} {l : Removal} (h : ctrl.waitsFor = some l) :
    ∃ k, ctrl = .await (.removalSelect l) k := by
  unfold Ctrl.waitsFor at h
  split at h
  · cases h
    exact ⟨_, rfl⟩
  · cases h

/-- The timeout that `remove_child` returns, with its call. -/
def Ctrl.timeout : Ctrl → Option (Nat × String)
  | .ret (.push (.commandReply reply) _) (.error (.shutdownTimedOut ids)) => some (reply, ids)
  | _ => none

theorem Ctrl.timeout_eq {ctrl : Ctrl} {reply : Nat} {ids : String} (h : ctrl.timeout = some (reply, ids)) :
    ∃ k, ctrl = .ret (.push (.commandReply reply) k) (.error (.shutdownTimedOut ids)) := by
  unfold Ctrl.timeout at h
  split at h
  · cases h
    exact ⟨_, rfl⟩
  · cases h

/-- The task of the removal's child is unjoined. -/
def SupervisorRuntime.Unjoined (rt : SupervisorRuntime) (l : Removal) : Prop :=
  ∃ t ∈ rt.joinSet.tasks, t.info.key = l.key ∧ t.info.instanceId = l.target

/-- The grace of the removal is over, and its child's task has not exited. -/
structure Config.Overdue (c : Config) (l : Removal) : Prop where
  late : l.deadline ≤ c.rt.now
  unfinished : ∃ t ∈ c.rt.joinSet.tasks, t.outcome = none ∧ t.info.key = l.key ∧
    t.info.instanceId = l.target

/-- A removal waits only while its child's task is unjoined, and its loop ends the next time it is at its
head once the task is joined; a timeout it returns was preceded by the end of its grace, at which the task had
not exited, and this by the command, which set the deadline. -/
structure GenuineTimeouts (start : Config) (as : List Act) (c : Config) : Prop where
  waits : ∀ l, c.ctrl.waitsFor = some l → c.rt.Unjoined l
  ends : ∀ l, c.ctrl.Removing l → c.rt.state = .running →
    c.rt.Unjoined l ∨ ∀ k, c.rt.removalLoop l k = c.rt.ret k (.ok ())
  timeouts : ∀ reply id, c.ctrl.timeout = some (reply, id) →
    ∃ l : Removal, l.childId = id ∧ l.timeoutIsError = true ∧ Passed step start as fun as₁ c₁ =>
      c₁.Overdue l ∧ Passed step start as₁ fun _ c₀ => c₀.Cancels l reply

/-- The drains consume no exit that a removal waits for, no child is added in the slot of one, and no group
restart blames it for a timeout. -/
def keepsTimeouts (c : Config) (a : Act) : Bool := keepsAwaited c a && groupDrainsInTime c a

theorem keepsTimeouts_awaited {c : Config} {a : Act} (h : keepsTimeouts c a = true) :
    keepsAwaited c a = true := (Bool.and_eq_true_iff.1 h).1

theorem keepsTimeouts_drains {c : Config} {a : Act} (h : keepsTimeouts c a = true) :
    groupDrainsInTime c a = true := (Bool.and_eq_true_iff.1 h).2

section
variable {config : SupervisorConfig} {env : StartEnv} {as : List Act} {c : Config} {l : Removal}
  {k₀ : Stack .awaitChildRemoval}

theorem run_blames (h : config.Accepted)
    (hrun : Run step (fun c a => keepsTimeouts c a = true) (Config.start config env) as c) :
    c.ctrl.blames = false := by
  refine hrun.invariant_of (I := fun c => c.ctrl.blames = false)
    (J := fun c => c.Sane ∧ c.ctrl.Contract ∧
      ∀ l k, c.ctrl = .await (.removalSelect l) k → c.rt.joinSet.isEmpty = false)
    (fun _ _ h' => ⟨run_sane h h', (run_contracted h (fun _ _ => keepsTimeouts_awaited) h').contract,
      fun _ _ hc => run_removal_joinSet h (fun _ _ => keepsTimeouts_awaited) h' hc⟩) rfl ?_
  intro c a c' ⟨hs, hc, hjoin⟩ hI hok hstep
  exact (step_rule hs hstep).blames hc hjoin (keepsTimeouts_drains hok) hI

theorem run_cancels {ok : Config → Act → Prop} {reply : Nat} {k : Stack .handleCommand}
    (h : config.Accepted) (hrun : Run step ok (Config.start config env) as c)
    (hr : c.ctrl.RemovingFor l (.push .removeAwait (.push (.commandReply reply) k))) :
    Passed step (Config.start config env) as fun _ c₀ => c₀.Cancels l reply := by
  refine hrun.passed (Q := fun c => c.ctrl.RemovingFor l
    (.push .removeAwait (.push (.commandReply reply) k))) (fun h => ?_) ?_ hr
  · rcases h with h | h <;> exact h
  · intro as c a c' run _ hstep hr
    have hs := run_sane h run
    rcases (step_rule hs hstep).removingFor hr with hr | ⟨hbegins, hc'⟩
    · exact .inl hr
    · obtain ⟨reply', k', hctrl, hcancels⟩ := hbegins.cancels hs.wf hstep
      cases hc'.symm.trans hctrl
      exact .inr hcancels

/-- Where the timer of a removal fires its child has not exited. -/
theorem run_overdue {ok : Config → Act → Prop} {e : ControlError} {k : Stack .awaitChildRemoval}
    (h : config.Accepted) (hok : ∀ c a, ok c a → keepsAwaited c a = true)
    (hrun : Run step ok (Config.start config env) as c) (hc : c.ctrl = .await (.removalSelect l) k)
    (ht : TimesOut c.rt l e) : c.Overdue l := by
  obtain ⟨e, -, -, -, t, hmem, -, hinfo⟩ := run_awaited h hok hrun hc
  refine ⟨ht.late, t, hmem, ?_, by rw [hinfo], by rw [hinfo]⟩
  have hpending := ht.pending
  simp only [SupervisorRuntime.joinPending, JoinSet.anyFinished, Bool.and_eq_true, Bool.not_eq_true',
    List.any_eq_false] at hpending
  simpa using hpending.1 t hmem

/-- In every run whose steps all meet the condition the timeouts of removals are genuine. -/
theorem run_genuineTimeouts (h : config.Accepted)
    (hrun : Run step (fun c a => keepsTimeouts c a = true) (Config.start config env) as c) :
    GenuineTimeouts (Config.start config env) as c := by
  refine ⟨fun l hl => ?_, fun l hl hstate => ?_, fun reply id ht => ?_⟩
  · obtain ⟨k, hc⟩ := Ctrl.waitsFor_eq hl
    obtain ⟨e, -, -, -, t, ht, -, hinfo⟩ := run_awaited h (fun _ _ => keepsTimeouts_awaited) hrun hc
    exact ⟨t, ht, by rw [hinfo], by rw [hinfo]⟩
  · have hawaits := run_awaiting h (fun _ _ => keepsTimeouts_awaited) hrun l hl hstate
    cases he : c.rt.children.get l.key with
    | none =>
      refine .inr fun k => ?_
      rw [SupervisorRuntime.removalLoop, he]
    | some e =>
      obtain ⟨t, ht, -, hinfo⟩ := hawaits.unjoined (run_sane h hrun).wf (run_attached h hrun) he
      exact .inl ⟨t, ht, by rw [hinfo], by rw [hinfo]⟩
  · -- back from the reply to the timer, and from there to the command
    obtain ⟨k, hc⟩ := Ctrl.timeout_eq ht
    let k₀ : Stack .awaitChildRemoval := .push .removeAwait (.push (.commandReply reply) k)
    have hpassed : Passed step (Config.start config env) as fun as₁ c₁ => ∃ l : Removal,
        (l.childId = id ∧ l.timeoutIsError = true) ∧ c₁.Overdue l ∧
          Passed step (Config.start config env) as₁ fun _ c₀ => c₀.Cancels l reply := by
      refine hrun.passed (Q := fun c => c.ctrl.Owes (.shutdownTimedOut id) k₀ ∨
        c.ctrl.Returned (.shutdownTimedOut id) k₀) ?_ ?_ (.inr ?_)
      · rintro (ho | hr)
        · exact ho
        · exact hr
      · intro as c a c' run hok hstep hq
        have hr := step_rule (run_sane h run) hstep
        have hcontract := run_contracted h (fun _ _ => keepsTimeouts_awaited) run
        rcases hq with ho | hret
        · rcases hr.owes hstep ho with ho | ⟨l, hctrl, ht⟩
          · exact .inl (.inl ho)
          · obtain rfl : id = l.childId := ControlError.shutdownTimedOut.inj ht.error
            refine .inr ⟨l, ⟨rfl, ht.isError⟩,
              run_overdue h (fun _ _ => keepsTimeouts_awaited) run hctrl ht, ?_⟩
            exact run_cancels h run (by rw [hctrl]; exact .inl ⟨rfl, rfl⟩)
        · exact .inl (hr.returned rfl hcontract.contract (run_blames h run) hstep hret)
      · rw [hc]
        exact ⟨rfl, rfl⟩
    obtain ⟨as₁, c₁, hpre, hrun₁, l, ⟨hid, herr⟩, hl⟩ := hpassed
    exact ⟨l, hid, herr, as₁, c₁, hpre, hrun₁, hl⟩

end

/-! ### A timeout of a child that has exited -/

/-- The drain has consumed the exit of `a`, and the removal of `a` still waits; it times out. -/
theorem late_timeout_reached : togetherConfig.Accepted ∧
    (∃ c, AnyRun step (Config.start togetherConfig ⟨false, 0, 0⟩) consumedActs c ∧
      ¬ GenuineTimeouts (Config.start togetherConfig ⟨false, 0, 0⟩) consumedActs c) ∧
    ∃ c, AnyRun step (Config.start togetherConfig ⟨false, 0, 0⟩)
      (consumedActs ++ [.tick (4 * NANOS_PER_SEC) 0, .run .timer, .run .go, .run .timer, .resume, .resume,
        .resume]) c ∧ c.ctrl.timeout = some (0, "a") := by
  have hex : ∃ c, AnyRun step (Config.start togetherConfig ⟨false, 0, 0⟩) consumedActs c ∧
      (c.ctrl.waitsFor.map (·.key), c.rt.joinSet.tasks.map (·.info.key)) = (some 0, [1]) :=
    anyRun_of_exec (by decide +kernel)
  obtain ⟨c, hrun, hc⟩ := hex
  simp only [Prod.mk.injEq, Option.map_eq_some_iff] at hc
  obtain ⟨⟨l, hl, hkey⟩, htasks⟩ := hc
  refine ⟨togetherConfig_accepted, ⟨c, hrun, fun h => ?_⟩, anyRun_of_exec (by decide +kernel)⟩
  obtain ⟨t, ht, htkey, -⟩ := h.waits l hl
  have hmem : t.info.key ∈ c.rt.joinSet.tasks.map (·.info.key) := List.mem_map_of_mem ht
  rw [htasks, htkey, hkey] at hmem
  cases List.mem_singleton.1 hmem

/-- A child that ignores its cancellation. -/
theorem run_genuineTimeouts_cooperative : ∃ as, ∃ c : Config, c.ctrl.timeout = some (0, "a") ∧
    GenuineTimeouts (Config.start pairConfig ⟨false, 0, 0⟩) as c := by
  have hex : ∃ c, Run step (fun c a => keepsTimeouts c a = true) (Config.start pairConfig ⟨false, 0, 0⟩)
      [.run .go, .send (.removeChild "a" 0), .run (.command 2), .tick (5 * NANOS_PER_SEC) 0, .run .timer,
        .run .go, .run .timer, .resume, .resume, .resume] c ∧ c.ctrl.timeout = some (0, "a") :=
    run_of_execIf_map (by decide +kernel)
  obtain ⟨c, hrun, hc⟩ := hex
  exact ⟨_, c, hc, run_genuineTimeouts pairConfig_accepted hrun⟩

end TokioSupervisor
