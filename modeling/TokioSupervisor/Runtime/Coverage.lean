import TokioSupervisor.Runtime.Errors

/-!
# What the suspended calls will do to a child

A suspended restart handler will spawn the child at its key, or the whole group; a suspended removal
will see to it that the slot at its key is freed. The stack `covers` an entry when one of the calls on
it will do so. A step of a running supervisor keeps an entry covered, or does what covered it
(`Rule.covered`); a removal is given up only where the join set is empty.
-/

namespace TokioSupervisor
open Lib SupervisorRuntime

/-! ### Coverage -/

/-- What a suspended call will do. -/
inductive Cover
  | respawn (key : ChildKey)
  | group
  | removal (key : ChildKey)

/-- It concerns the entry `e` at `key`. -/
def Cover.meets (key : ChildKey) (e : ChildEntry) : Cover → Bool
  | .respawn k => k == key && e.membership == .active
  | .group => e.respawns
  | .removal k => k == key

def Frame.cover {callee caller : Fn} : Frame callee caller → Option Cover
  | .oneForOneDelay key _ => some (.respawn key)
  | .oneForAllDelay _ | .oneForAllDrain => some .group
  | .removalShutdown l | .removalJoin l => some (.removal l.key)
  | .detachDrain key _ => some (.removal key)
  | _ => none

def Await.cover {fn : Fn} : Await fn → Option Cover
  | .removalSelect l => some (.removal l.key)
  | .detachYield key _ => some (.removal key)
  | _ => none

/-- The suspended caller goes on with this result, rather than return it. -/
def Fn.goesOn : (fn : Fn) → fn.Value → Bool
  | .waitForRestartDelay, .ok true => true
  | .waitForRestartDelay, _ => false
  | .drainForGroupRestart, .error _ | .handleShutdownDuringControl, .error _
  | .handleJoinDuringControl, .error _ | .drainReadyJoins _, .error _ => false
  | _, _ => true

def Stack.covers (key : ChildKey) (e : ChildEntry) : {fn : Fn} → Stack fn → Bool
  | _, .nil => false
  | _, .push f k => f.cover.any (·.meets key e) || k.covers key e

/-- The stack below the innermost suspended call. -/
def Stack.coversBelow (key : ChildKey) (e : ChildEntry) : {fn : Fn} → Stack fn → Bool
  | _, .nil => false
  | _, .push _ k => k.covers key e

def Ctrl.covers (key : ChildKey) (e : ChildEntry) : Ctrl → Bool
  | .await p k => p.cover.any (·.meets key e) || k.covers key e
  | @Ctrl.ret fn k v => if fn.goesOn v then k.covers key e else k.coversBelow key e
  | _ => false

section
variable {key : ChildKey} {e : ChildEntry}

@[simp] theorem Stack.covers_nil : Stack.nil.covers key e = false := rfl

@[simp] theorem Stack.covers_push {callee caller : Fn} {f : Frame callee caller} {k : Stack caller} :
    (Stack.push f k).covers key e = (f.cover.any (·.meets key e) || k.covers key e) := rfl

@[simp] theorem Stack.coversBelow_push {callee caller : Fn} {f : Frame callee caller}
    {k : Stack caller} : (Stack.push f k).coversBelow key e = k.covers key e := rfl

@[simp] theorem Ctrl.covers_await {fn : Fn} {p : Await fn} {k : Stack fn} :
    (Ctrl.await p k).covers key e = (p.cover.any (·.meets key e) || k.covers key e) := rfl

@[simp] theorem Ctrl.covers_ret {fn : Fn} {k : Stack fn} {v : fn.Value} :
    (Ctrl.ret k v).covers key e = if fn.goesOn v then k.covers key e else k.coversBelow key e := rfl

@[simp] theorem Ctrl.covers_finished {r : Except SupervisorError SupervisorExit} :
    (Ctrl.finished r).covers key e = false := rfl

@[simp] theorem Ctrl.covers_panicked {p : Panic} : (Ctrl.panicked p).covers key e = false := rfl

theorem Stack.covers_run (k : Stack .run) : k.covers key e = false := by
  cases k with
  | nil => rfl
  | push f k => cases f

/-- Two entries with the same membership and policy are covered alike. -/
theorem Cover.meets_congr {e' : ChildEntry} (hm : e'.membership = e.membership)
    (hr : e'.respawns = e.respawns) (cover : Cover) : cover.meets key e' = cover.meets key e := by
  cases cover <;> simp [Cover.meets, hm, hr]

theorem Stack.covers_congr {e' : ChildEntry} (hm : e'.membership = e.membership)
    (hr : e'.respawns = e.respawns) {fn : Fn} (k : Stack fn) : k.covers key e' = k.covers key e := by
  induction k with
  | nil => rfl
  | push f k ih => simp [ih, Cover.meets_congr hm hr]

theorem Ctrl.covers_congr {e' : ChildEntry} (hm : e'.membership = e.membership)
    (hr : e'.respawns = e.respawns) (ctrl : Ctrl) : ctrl.covers key e' = ctrl.covers key e := by
  cases ctrl with
  | await p k => simp [Cover.meets_congr hm hr, Stack.covers_congr hm hr k]
  | ret k v =>
    have hbelow : k.coversBelow key e' = k.coversBelow key e := by
      cases k with
      | nil => rfl
      | push f k => exact Stack.covers_congr hm hr k
    simp [Stack.covers_congr hm hr k, hbelow]
  | _ => rfl

theorem ChildEntry.active_of_respawns (h : e.respawns = true) : e.membership = .active := by
  simp only [ChildEntry.respawns, Bool.and_eq_true, beq_iff_eq] at h
  exact h.1

/-- The entry was covered at `key`, and still is, or it has been dealt with, or the run is over. -/
inductive Covered (key : ChildKey) (e : ChildEntry) (c : Config) : Prop
  | covers (h : c.ctrl.covers key e = true)
  | dealt (h : ∀ e', c.rt.children.get key = some e' →
      e'.runtime.state = .running ∧ e'.membership = .active)
  | halted (h : c.rt.state ≠ .running)
  | erring (h : c.ctrl.erring ≠ none)
  | ended (h : c.ctrl.ended = true)

theorem RemovalHead.covered {rt : SupervisorRuntime} {l : Removal} {k : Stack .awaitChildRemoval}
    {ctrl : Ctrl} (h : RemovalHead rt l k ctrl)
    (hc : (Cover.removal l.key).meets key e = true ∨ k.covers key e = true) :
    Covered key e ⟨rt, ctrl⟩ := by
  cases h with
  | gone he =>
    rcases hc with hc | hc
    · have hk : l.key = key := by simpa [Cover.meets] using hc
      exact .dealt fun e' he' => by rw [← hk] at he'; exact absurd (he.symm.trans he') nofun
    · exact .covers (by simpa [Fn.goesOn] using hc)
  | wait he => exact .covers (by simpa [Await.cover] using hc)

theorem Move.covered {rt : SupervisorRuntime} {ctrl ctrl' : Ctrl} {a : Act} (h : Move rt ctrl a ctrl')
    (he : rt.children.get key = some e) (hx : ctrl.erring = none) (hs : rt.state = .running)
    (hh : (Config.mk rt ctrl).Halting)
    (hj : ∀ l k, ctrl = .await (.removalSelect l) k → a = .run .joinNone →
      rt.joinSet.isEmpty = true → l.key = key → k.covers key e = true) (hc : ctrl.covers key e = true) : Covered key e ⟨rt, ctrl'⟩ := by
  have hp : rt.pendingExit.isSome = false := by
    rw [← Bool.not_eq_true]; exact fun hp => hh.pending hp hs
  have hn : ¬ ctrl.Halts := fun hn => hh.frames hn hs
  cases h with
  | removalShutdownOk hr => exact hr.covered (by simpa [Frame.cover, Fn.goesOn] using hc)
  | removalJoinOk hr => exact hr.covered (by simpa [Frame.cover, Fn.goesOn] using hc)
  | @removalJoinNone l k hempty =>
    refine .covers ?_
    have hk : k.covers key e = true := by
      rcases (by simpa [Await.cover, Cover.meets] using hc : l.key = key ∨ k.covers key e = true) with
        hk | hk
      · exact hj l k rfl rfl hempty hk
      · exact hk
    simpa [Fn.goesOn] using hk
  | controlJoinErr => cases hx
  | @groupDrain k v =>
    cases v with
    | error e => cases hx
    | ok u => exact .covers (by simpa [Frame.cover, Fn.goesOn] using hc)
  | @oneDelayInactive k₁ g k e₁ he₁ hm =>
    refine .covers ?_
    have hk : (k₁ = key ∧ e.membership = .active) ∨ k.covers key e = true := by
      simpa [Frame.cover, Fn.goesOn, Cover.meets] using hc
    rcases hk with ⟨rfl, hact⟩ | hk
    · cases he.symm.trans he₁
      exact absurd hact hm
    · simpa [Fn.goesOn] using hk
  | _ =>
    refine .covers ?_
    simp_all [Frame.cover, Await.cover, Fn.goesOn, Cover.meets, Frame.halts, Fn.givesUp]

/-- The drain of a group restart leaves the group covered. -/
theorem DrainNext.covered {rt rt' : SupervisorRuntime} {reason : DrainReason}
    {k : Stack (.drainChildren reason)} {ctrl : Ctrl} (h : DrainNext rt reason k rt' ctrl)
    (hn : ¬ k.Halts) (hc : k.covers key e = true) : Covered key e ⟨rt', ctrl⟩ := by
  have hreason : reason = .groupRestart := by
    cases k with
    | push f k => cases f with
      | shutdownDrain => exact absurd (.inl rfl) hn
      | groupDrain => rfl
  subst hreason
  cases h with
  | select | abort => exact .covers (by simpa [Await.cover] using hc)
  | done _ => exact .covers (by simpa [Fn.goesOn] using hc)

theorem respawnedAll_get_ne {rt : SupervisorRuntime} {keys : List ChildKey} (hk : key ∉ keys) :
    (rt.respawnedAll keys).children.get key = rt.children.get key := by
  induction keys generalizing rt with
  | nil => rfl
  | cons k rest ih =>
    obtain ⟨hne, hrest⟩ := not_or.1 (mt List.mem_cons.2 hk)
    rw [respawnedAll]
    cases hf : rt.children.get k with
    | none => exact ih hrest
    | some f =>
      simp only
      split
      · exact (ih hrest).trans (spawned_get_ne hf hne)
      · exact ih hrest

theorem respawnedAll_running {rt : SupervisorRuntime} {keys : List ChildKey} (hnd : keys.Nodup)
    (hk : key ∈ keys) (he : rt.children.get key = some e) (hr : e.respawns = true) {e' : ChildEntry}
    (he' : (rt.respawnedAll keys).children.get key = some e') :
    e'.runtime.state = .running ∧ e'.membership = .active := by
  induction keys generalizing rt with
  | nil => cases hk
  | cons k rest ih =>
    obtain ⟨hnot, hnd⟩ := List.nodup_cons.1 hnd
    rw [respawnedAll] at he'
    by_cases hkk : key = k
    · subst hkk
      simp only [he, if_pos hr] at he'
      rw [respawnedAll_get_ne hnot] at he'
      have hget : (rt.restarted key e).children.get key = _ := spawned_get he
      rw [hget] at he'
      cases he'
      exact ⟨rfl, ChildEntry.active_of_respawns hr⟩
    · have hrest : key ∈ rest := (List.mem_cons.1 hk).resolve_left hkk
      cases hf : rt.children.get k with
      | none => simp only [hf] at he'; exact ih hnd hrest he he'
      | some f =>
        simp only [hf] at he'
        split at he'
        · exact @ih (rt.restarted k f) hnd hrest ((spawned_get_ne hf hkk).trans he) he'
        · exact ih hnd hrest he he'

theorem CommandOutcome.covered {rt rt' : SupervisorRuntime} {k₁ : ChildKey} {k : Stack .handleCommand}
    {cmd : SupervisorCommand} {ctrl' : Ctrl} (h : CommandOutcome rt k₁ k cmd rt' ctrl')
    (hc : k.covers key e = true) : ctrl'.covers key e = true := by
  cases h <;> simp_all [Fn.goesOn, Frame.cover, Await.cover]

theorem JoinOutcome.covered {rt rt' : SupervisorRuntime} {t : Task} {outcome : TaskOutcome}
    {k : Stack .handleJoinedChild} {ctrl' : Ctrl} (h : JoinOutcome rt t outcome k rt' ctrl')
    (hc : k.covers key e = true) : Covered key e ⟨rt', ctrl'⟩ := by
  cases h with
  | overrunOne | overrunAll => exact .erring nofun
  | scheduledOne _ _ _ _ _ hp => exact .covers (by simp [hc])
  | scheduledAll _ _ _ _ _ hp => exact .covers (by simp [hc])
  | _ => exact .covers (by simp [Fn.goesOn, hc])

/-- A step of a running supervisor does not give up what it owes to an entry. -/
theorem Rule.covered {rt rt' : SupervisorRuntime} {ctrl ctrl' : Ctrl} {a : Act}
    (h : Rule rt ctrl a rt' ctrl') (hwf : rt.Wf) (he : rt.children.get key = some e)
    (hx : ctrl.erring = none) (hs : rt.state = .running) (hh : (Config.mk rt ctrl).Halting)
    (hj : ∀ l k, ctrl = .await (.removalSelect l) k → a = .run .joinNone →
      rt.joinSet.isEmpty = true → l.key = key → k.covers key e = true) (hc : ctrl.covers key e = true) : Covered key e ⟨rt', ctrl'⟩ := by
  have hn : ¬ ctrl.Halts := fun hn => hh.frames hn hs
  cases h with
  | env h => exact .covers hc
  | move h => exact h.covered he hx hs hh hj hc
  | start hl => simp [Stack.covers_run, Await.cover] at hc
  | loop hl _ => cases hl <;> simp [Stack.covers_run, Await.cover, Frame.cover, Fn.goesOn] at hc
  | natural | joinError | shutdownEnd | runEnd | overflow | vacantOne | vacantAll => exact .ended rfl
  | shutdown hb hrt hq =>
    have hwf₁ : ∀ rt₁ : SupervisorRuntime, rt₁ = rt ∨ rt₁ = rt.seen → rt₁.Wf := by
      rintro rt₁ (rfl | rfl) <;> exact hwf
    exact .halted (by rw [(hwf₁ _ hrt).halted_state]; exact nofun)
  | command hk _ _ ho =>
    refine .covers (ho.covered ?_)
    cases hk <;> simpa [Await.cover, Frame.cover] using hc
  | join hk _ ho =>
    refine ho.covered ?_
    cases hk <;> simpa [Await.cover, Frame.cover] using hc
  | drainJoin _ _ hd => exact hd.covered hn (by simpa [Await.cover] using hc)
  | drainNext hd hnext =>
    refine hnext.covered ?_ ?_
    · cases hd with
      | empty | timer => exact hn
      | first | second => exact fun hk => hn (.inl (.inr hk))
    · cases hd <;> simpa [Await.cover, Frame.cover, Fn.goesOn] using hc
  | @respawn k₁ g k e₁ he₁ hm =>
    have hk : (k₁ = key ∧ e.membership = .active) ∨ k.covers key e = true := by
      simpa [Frame.cover, Fn.goesOn, Cover.meets] using hc
    rcases hk with ⟨rfl, -⟩ | hk
    · refine .dealt fun e' he' => ?_
      have hget : (rt.restarted k₁ e₁).children.get k₁ = _ := spawned_get he₁
      rw [hget] at he'
      cases he'
      exact ⟨rfl, hm⟩
    · exact .covers (by simpa [Fn.goesOn] using hk)
  | @groupRespawn k =>
    have hk : e.respawns = true ∨ k.covers key e = true := by
      simpa [Frame.cover, Fn.goesOn, Cover.meets] using hc
    rcases hk with hk | hk
    · exact .dealt fun e' he' => @respawnedAll_running key e rt.regrouped _ hwf.nodup
        ((hwf.order key).2 ⟨e, he⟩) he hk _ he'
    · exact .covers (by simpa [Fn.goesOn] using hk)
  | delayClosedPending _ hp => exact absurd hs (hh.pending hp)
  | removalSeen hr =>
    have hcov := @RemovalHead.covered key e _ _ _ _ hr (by simpa [Await.cover] using hc)
    cases hcov with
    | covers h => exact .covers h
    | dealt h => exact .dealt h
    | halted h => exact absurd hs h
    | erring h => exact .erring h
    | ended h => exact .ended h
  | @detachGone k₁ reason k hnone =>
    have hk : k₁ = key ∨ k.covers key e = true := by
      simpa [Frame.cover, Fn.goesOn, Cover.meets] using hc
    rcases hk with rfl | hk
    · exact absurd (hnone.symm.trans he) nofun
    · exact .covers (by simpa [Fn.goesOn] using hk)
  | @detach k₁ reason k e₁ he₁ =>
    have hk : k₁ = key ∨ k.covers key e = true := by
      simpa [Frame.cover, Fn.goesOn, Cover.meets] using hc
    rcases hk with rfl | hk
    · refine .dealt fun e' he' => ?_
      exact absurd ((Slab.get_remove_self rt.children k₁).symm.trans he') nofun
    · exact .covers (by simpa [Fn.goesOn] using hk)
  | _ => refine .covers ?_; simp_all [Frame.cover, Await.cover, Fn.goesOn, Cover.meets]

/-! ### Exits -/

/-- Where the exit of the task `t` can be consumed. -/
inductive ExitStep (rt : SupervisorRuntime) (t : Task) (outcome : TaskOutcome) :
    Ctrl → SupervisorRuntime → Ctrl → Prop
  | join {ctrl ctrl' : Ctrl} {k : Stack .handleJoinedChild} {rt' : SupervisorRuntime}
      (hh : HandlesJoin ctrl k) (ho : JoinOutcome rt t outcome k rt' ctrl') :
      ExitStep rt t outcome ctrl rt' ctrl'
  | ready {reason : DrainReason} {k : Stack (.drainReadyJoins reason)} {rt' : SupervisorRuntime}
      (hd : DrainedJoin rt t outcome reason rt') :
      ExitStep rt t outcome (.await (.readyJoins reason) k) rt' (.await (.readyJoins reason) k)
  | drain {reason : DrainReason} {deadline : Instant} {k : Stack (.drainChildren reason)}
      {rt₁ rt' : SupervisorRuntime} {ctrl' : Ctrl} (hd : DrainedJoin rt t outcome reason rt₁)
      (hn : DrainNext rt₁ reason k rt' ctrl') :
      ExitStep rt t outcome (.await (.drainSelect reason deadline) k) rt' ctrl'

theorem Rule.exitStep {rt rt' : SupervisorRuntime} {ctrl ctrl' : Ctrl} {a : Act} {t : Task}
    {outcome : TaskOutcome} (h : Rule rt ctrl a rt' ctrl') (hwf : rt.Wf) (ha : a = .run (.join t.id))
    (hf : rt.Finished t outcome) (hp : ctrl'.ended = false) : ExitStep rt t outcome ctrl rt' ctrl' := by
  have huniq {t' : Task} {outcome' : TaskOutcome} (hf' : rt.Finished t' outcome')
      (hid : Act.run (.join t'.id) = .run (.join t.id)) : t' = t ∧ outcome' = outcome := by
    injection hid with hid
    injection hid with hid
    have ht := List.inj_on_of_nodup_map hwf.taskNodup hf'.mem hf.mem hid
    subst ht
    exact ⟨rfl, Option.some.inj (hf'.outcome.symm.trans hf.outcome)⟩
  cases h with
  | env henv => subst ha; cases henv
  | move hm => subst ha; cases hm
  | loop hl _ => subst ha; cases hl
  | shutdown hb _ _ => subst ha; cases hb
  | drainNext hd _ => subst ha; cases hd
  | join hh hf' ho =>
    obtain ⟨rfl, rfl⟩ := huniq hf' ha
    exact .join hh ho
  | readyJoin hf' hd =>
    obtain ⟨rfl, rfl⟩ := huniq hf' ha
    exact .ready hd
  | drainJoin hf' hd hn =>
    obtain ⟨rfl, rfl⟩ := huniq hf' ha
    exact .drain hd hn
  | overflow => cases hp
  | _ => cases ha

/-- The exit of an active child that asks for a restart leaves its entry covered, unless
`drain_ready_joins` consumes it. -/
theorem ExitStep.covered {rt rt' : SupervisorRuntime} {ctrl ctrl' : Ctrl} {t : Task}
    {outcome : TaskOutcome} (h : ExitStep rt t outcome ctrl rt' ctrl') (hn : ¬ ctrl.Halts)
    (hc : rt.Current t.info e) (hm : e.membership = .active)
    (hr : e.runtime.spec.restart.shouldRestart outcome.status.isFailure = true) :
    Covered t.info.key e ⟨rt', ctrl'⟩ ∨
      ∃ reason k, ctrl = .await (.readyJoins reason) k ∧ ctrl' = .await (.readyJoins reason) k := by
  have hrespawns := ChildEntry.respawns_of_shouldRestart hm hr
  cases h with
  | join hh ho =>
    refine .inl ?_
    cases ho with
    | stale hno => exact absurd ⟨e, hc⟩ hno
    | stopping _ hs => exact .halted (by rw [exited_state, hs]; simp)
    | removed hc' _ hm' =>
      cases hc.get.symm.trans hc'.get
      rw [hm] at hm'
      cases hm'
    | settled hc' _ _ hr' =>
      cases hc.get.symm.trans hc'.get
      rw [hr] at hr'
      cases hr'
    | overrunOne | overrunAll => exact .erring fun he => by cases he
    | scheduledOne => exact .covers (by simp [Frame.cover, Cover.meets, hm])
    | scheduledAll => exact .covers (by simp [Frame.cover, Cover.meets, hrespawns])
  | ready hd => exact .inr ⟨_, _, rfl, rfl⟩
  | @drain reason deadline k rt₁ _ _ hd hnext =>
    refine .inl (hnext.covered hn ?_)
    cases k with
    | push f k => cases f with
      | shutdownDrain => exact absurd (.inl rfl) hn
      | groupDrain => cases k with
        | push f k => cases f with
          | oneForAllDrain => simp [Frame.cover, Cover.meets, hrespawns]

end

end TokioSupervisor
