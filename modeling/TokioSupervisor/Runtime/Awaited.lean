import TokioSupervisor.Runtime.Isolation
import TokioSupervisor.Runtime.LastChild
import TokioSupervisor.Runtime.Preemption

/-!
# Removals and the tasks they wait for

`await_child_removal` leaves its loop when its slot is vacant or its grace is over. Of the handlers that
consume an exit only `handle_joined_child` makes the slot of a marked child vacant: a drain leaves the
entry behind, and a child that is added meanwhile may get the slot. `keepsAwaited` rules both out; then
the task of a child whose removal is awaited is unjoined as long as the slot is occupied.
-/

namespace TokioSupervisor
open Lib SupervisorRuntime

/-! ### Handles -/

theorem Update.attached {c c' : Config} {a : Act} {rt rt' : SupervisorRuntime}
    (h : Update c a c' rt rt') (hwf : rt.Wf) (hI : rt.Attached) : rt'.Attached := by
  cases h with
  | tasks f hid hinfo => exact hI.mapTasks hid hinfo rfl rfl
  | entry he hs _ => exact hI.set rfl he rfl hs.instanceId hs.generation hs.abortHandle
  | terminated g he _ _ => exact hI.set rfl he rfl (by simp) (by simp) (by simp)
  | requested reply he _ _ _ _ _ => exact hI.set rfl he rfl rfl rfl rfl
  | @removed key e reply he _ _ _ _ =>
    have hreq : (rt.requested reply key e).Attached := hI.set rfl he rfl rfl rfl rfl
    exact hreq.remove rfl rfl
  | cancelled =>
    unfold SupervisorRuntime.cancelledChild
    split
    · exact hI
    · exact hI
  | @aborted key e _ _ =>
    unfold SupervisorRuntime.abortedChild
    split
    · exact hI
    · rename_i id _
      refine hI.mapTasks (f := fun t => if t.id = id then { t with abortRequested := true } else t) ?_ ?_
        rfl rfl
      · intro t
        split <;> rfl
      · intro t
        split <;> rfl
  | ignored hf hn => exact hI.ignored hwf hf.mem hn
  | exited _ _ hf hc => exact hI.exited hwf hf.mem hc _
  | finalized | detached => exact hI.remove rfl rfl
  | started he _ _ | respawned he _ _ _ | groupRespawned he _ _ _ => exact hI.spawned he
  | added hv _ _ _ => exact (hI.inserted hv).spawned (inserted_get hv _)
  | cancelledAll _ => exact hI.cancelRunningChildren hwf
  | _ => exact hI

theorem run_attached {config : SupervisorConfig} {env : StartEnv} {ok : Config → Act → Prop}
    {as : List Act} {c : Config} (h : config.Accepted)
    (hrun : Run step ok (Config.start config env) as c) : c.rt.Attached := by
  refine run_invariant h hrun (fun key e id he hid => ?_)
    fun _ _ _ _ _ _ _ _ hwf hI hu => hu.attached hwf hI
  rw [((h.fresh env).unborn key e he).abortHandle] at hid
  cases hid

/-! ### Who is awaited -/

/-- A call of `await_child_removal` for the slot `key` is suspended. -/
def Stack.awaits (key : ChildKey) : {fn : Fn} → Stack fn → Bool
  | _, .nil => false
  | _, .push f k => f.removal.any (·.key == key) || k.awaits key

def Ctrl.awaits (key : ChildKey) : Ctrl → Bool
  | .await p k => p.removal.any (·.key == key) || k.awaits key
  | .ret k _ => k.awaits key
  | .finished _ | .panicked _ => false

/-- A drain may consume an exit. -/
def Ctrl.drains : Ctrl → Bool
  | .await (.readyJoins _) _ | .await (.drainSelect _ _) _ => true
  | _ => false

/-- The join of task `id` would be accepted, and a removal waits for it. -/
def Config.joinsAwaited (c : Config) (id : TaskId) : Bool :=
  (c.rt.joinSet.find id).any fun t => c.ctrl.awaits t.info.key &&
    c.rt.currentChildMatches t.info.key t.info.instanceId t.info.generation

/-- The next command adds a child. -/
def Config.addsChild (c : Config) : Bool :=
  match c.rt.commandRx.queue with
  | .addChild child _ :: _ => (c.rt.addRefusal child).isNone
  | _ => false

/-- While the supervisor is running no drain consumes an exit that a removal waits for, and no child is
added in the slot of one. -/
def keepsAwaited (c : Config) : Act → Bool
  | .run (.join id) => !(c.ctrl.drains && decide (c.rt.state = .running) && c.joinsAwaited id)
  | .run (.command key) => !(c.ctrl.awaits key && c.addsChild)
  | _ => true

/-- The slot of the removal is vacant, or its child is still to exit. -/
def SupervisorRuntime.Awaits (rt : SupervisorRuntime) (l : Removal) : Prop :=
  ∀ e, rt.children.get l.key = some e →
    e.instanceId = l.target ∧ e.membership = .removing ∧ e.runtime.state ≠ .stopped

section
variable {rt rt' : SupervisorRuntime} {ctrl ctrl' : Ctrl} {a : Act} {l : Removal} {key : ChildKey}
  {e : ChildEntry}

theorem Stack.awaits_of_removing {fn : Fn} {k : Stack fn} (h : k.Removing l) : k.awaits l.key = true := by
  induction k with
  | nil => cases h
  | push f k ih =>
    rw [Stack.awaits, Bool.or_eq_true]
    rcases h with hf | hk
    · exact .inl (by simp [hf])
    · exact .inr (ih hk)

theorem Ctrl.awaits_of_removing (h : ctrl.Removing l) : ctrl.awaits l.key = true := by
  cases ctrl with
  | await p k =>
    rw [Ctrl.awaits, Bool.or_eq_true]
    rcases h with hp | hk
    · exact .inl (by simp [hp])
    · exact .inr (Stack.awaits_of_removing hk)
  | ret k v => exact Stack.awaits_of_removing h
  | _ => cases h

theorem Stack.not_removing_run (k : Stack .run) : ¬ k.Removing l := by
  cases k with
  | nil => exact id
  | push f k => cases f

theorem AtLoop.not_removing {rt₁ : SupervisorRuntime} (h : AtLoop rt ctrl a rt₁) : ¬ ctrl.Removing l := by
  cases h <;> simp [Stack.not_removing_run, Frame.removal, Await.removal]

namespace SupervisorRuntime.Awaits

theorem same (h : rt.Awaits l) (hg : rt'.children.get l.key = rt.children.get l.key) : rt'.Awaits l :=
  fun e he => h e (hg ▸ he)

theorem vacant (hg : rt.children.get l.key = none) : rt.Awaits l := by
  intro e he
  rw [hg] at he
  cases he

theorem ne_of_active (h : rt.Awaits l) (he : rt.children.get key = some e)
    (hm : e.membership = .active) : l.key ≠ key := by
  rintro rfl
  rw [(h e he).2.1] at hm
  cases hm

theorem set_of_active {e' : ChildEntry} (h : rt.Awaits l) (he : rt.children.get key = some e)
    (hm : e.membership = .active) (hc : rt'.children = rt.children.set key e') : rt'.Awaits l := by
  refine h.same ?_
  rw [hc]
  exact Slab.get_set_ne he e' (h.ne_of_active he hm)

theorem remove (h : rt.Awaits l) (hc : rt'.children = rt.children.remove key) : rt'.Awaits l := by
  by_cases hk : l.key = key
  · exact .vacant (by rw [hc, hk, Slab.get_remove_self])
  · exact h.same (by rw [hc, Slab.get_remove_ne _ hk])

theorem respawnedAll (h : rt.Awaits l) (keys : List ChildKey) : (rt.respawnedAll keys).Awaits l := by
  induction keys generalizing rt with
  | nil => exact h
  | cons key rest ih =>
    rw [SupervisorRuntime.respawnedAll]
    cases he : rt.children.get key with
    | none => exact ih h
    | some e =>
      dsimp only
      split
      · rename_i hr
        simp only [ChildEntry.respawns, Bool.and_eq_true, beq_iff_eq] at hr
        exact ih (h.set_of_active he hr.1 rfl)
      · exact ih h

theorem cancelRunningChildren (h : rt.Awaits l) (hwf : rt.Wf) : rt.cancelRunningChildren.Awaits l := by
  obtain ⟨C, n, heq, hget, -⟩ := hwf.cancelRunningChildren
  intro e' he'
  rw [heq] at he'
  have he' : C.get l.key = some e' := he'
  rw [hget, Option.map_eq_some_iff] at he'
  obtain ⟨e, he, rfl⟩ := he'
  obtain ⟨hi, hm, hs⟩ := h e he
  unfold ChildEntry.stopping
  split
  · exact ⟨hi, hm, nofun⟩
  · exact ⟨hi, hm, hs⟩

theorem unjoined (h : rt.Awaits l) (hwf : rt.Wf) (hh : rt.Attached)
    (he : rt.children.get l.key = some e) : ∃ t ∈ rt.joinSet.tasks,
      e.runtime.abortHandle = some t.id ∧ t.info = ⟨l.key, l.target, e.runtime.generation⟩ := by
  obtain ⟨hi, -, hs⟩ := h e he
  obtain ⟨id, hid⟩ := Option.isSome_iff_exists.1 ((hwf.ok he).handle.2 hs)
  obtain ⟨t, ht, rfl, hinfo⟩ := hh _ e id he hid
  exact ⟨t, ht, hid, hi ▸ hinfo⟩

end SupervisorRuntime.Awaits

/-! ### Steps -/

theorem step_addChild {c c' : Config} {child : ChildSpec} {reply : Nat} {rest : List SupervisorCommand}
    {k : Stack .handleCommand} (hwf : c.rt.Wf) (hk : HandlesCommand c.ctrl k)
    (hq : c.rt.commandRx.queue = .addChild child reply :: rest)
    (hstep : step c (.run (.command key)) = some c') :
    (∃ e, c.rt.addRefusal child = some e ∧
      c' = ⟨((c.rt.received rest).log (.handled reply)).log (.replied reply (.error e)), .ret k ()⟩) ∨
      c.rt.addRefusal child = none ∧ c' = ⟨(((c.rt.received rest).log (.handled reply)).added key
        child).log (.replied reply (.ok ())), .ret k ()⟩ := by
  obtain ⟨hv, rfl⟩ := step_command hk hq hstep
  rcases (show ((c.rt.received rest).log (.handled reply)).Wf from hwf).addChild hv child with
    ⟨e, he, heq⟩ | ⟨hnone, -, heq⟩
  · refine .inl ⟨e, he, ?_⟩
    simp only [SupervisorRuntime.handleCommand, SupervisorCommand.reply, heq, ok_bind, pure_eq_ok, settle]
    rfl
  · refine .inr ⟨hnone, ?_⟩
    simp only [SupervisorRuntime.handleCommand, SupervisorCommand.reply, heq, ok_bind, pure_eq_ok, settle]
    rfl

theorem DrainedJoin.awaits {t : Task} {outcome : TaskOutcome} {reason : DrainReason}
    (h : DrainedJoin rt t outcome reason rt') (hI : rt.Awaits l)
    (hne : (∃ e, rt.Current t.info e) → l.key ≠ t.info.key) : rt'.Awaits l := by
  cases h with
  | stale _ => exact hI
  | exited hc _ => exact hI.same (Slab.get_set_ne hc.get _ (hne ⟨_, hc⟩))
  | @temporary e hc _ _ =>
    refine hI.same (.trans ?_ (Slab.get_set_ne hc.get (e.stopped outcome.status) (hne ⟨_, hc⟩)))
    exact Slab.get_set_ne (Slab.get_set_self hc.get _) _ (hne ⟨_, hc⟩)

theorem JoinOutcome.awaits {t : Task} {outcome : TaskOutcome} {k : Stack .handleJoinedChild}
    (h : JoinOutcome rt t outcome k rt' ctrl') (hI : rt.Awaits l) (hrun : rt.state = .running) :
    rt'.Awaits l := by
  have hne {e : ChildEntry} (hc : rt.Current t.info e) (hm : e.membership = .active) :
      l.key ≠ t.info.key := hI.ne_of_active hc.get hm
  have hset {e : ChildEntry} (hc : rt.Current t.info e) (hm : e.membership = .active) (f : ChildEntry) :
      ((rt.children.set t.info.key (e.stopped outcome.status)).set t.info.key f).get l.key =
        rt.children.get l.key := by
    rw [Slab.set_set]
    exact Slab.get_set_ne hc.get f (hne hc hm)
  cases h with
  | stale _ => exact hI
  | stopping _ hs =>
    rw [hrun] at hs
    cases hs
  | @removed e hc _ hm =>
    by_cases hk : l.key = t.info.key
    · refine .vacant ?_
      rw [hk]
      exact Slab.get_remove_self _ _
    · exact hI.same ((Slab.get_remove_ne _ hk).trans (Slab.get_set_ne hc.get _ hk))
  | settled hc _ hm _ => exact hI.same (hset hc hm _)
  | overrunOne hc _ hm | overrunAll hc _ hm | scheduledOne hc _ hm | scheduledAll hc _ hm =>
    exact hI.same (hset hc hm _)

theorem CommandOutcome.awaits {k : Stack .handleCommand} {cmd : SupervisorCommand}
    (h : CommandOutcome rt key k cmd rt' ctrl') (hI : rt.Awaits l)
    (hadd : ∀ child reply, cmd = .addChild child reply → rt.children.vacant key = true →
      rt'.children ≠ rt.children → l.key ≠ key)
    (hv : rt.children.vacant key = true) : rt'.Awaits l := by
  cases h with
  | addRefused | removeRefused => exact hI
  | @added child reply ha =>
    have hget : (rt.added key child).children.get key ≠ none := by
      rw [show (rt.added key child).children.get key = _ from spawned_get (inserted_get hv child)]
      exact nofun
    have hne : l.key ≠ key := by
      refine hadd child reply rfl hv fun heq => hget ?_
      rw [show (rt.added key child).children = rt.children from heq]
      exact Slab.get_of_vacant hv
    refine hI.same ?_
    exact (spawned_get_ne (inserted_get hv child) hne).trans (Slab.get_insert_ne hv _ hne)
  | @removed reply target e he hm _ _ =>
    have hreq : (rt.requested reply target e).Awaits l := hI.set_of_active he hm rfl
    exact hreq.remove rfl
  | removeAbort he hm _ _ =>
    exact hI.set_of_active he hm (abortedChild_children _)
  | removeWait he hm _ _ =>
    exact hI.set_of_active he hm (cancelledChild_children _)

/-- A removal that goes on waiting finds its slot vacant or its child still to exit. -/
theorem Rule.awaits (h : Rule rt ctrl a rt' ctrl') (hwf : rt.Wf) (hI : rt.Awaits l)
    (hl : ctrl.Removing l) (hok : keepsAwaited ⟨rt, ctrl⟩ a = true) (hrun : rt.state = .running)
    (hrun' : rt'.state = .running) (hstep : step ⟨rt, ctrl⟩ a = some ⟨rt', ctrl'⟩) : rt'.Awaits l := by
  have hdrained {t : Task} {outcome : TaskOutcome} {reason : DrainReason} {rt₁ : SupervisorRuntime}
      (hd : DrainedJoin rt t outcome reason rt₁) (hf : rt.Finished t outcome)
      (hc : ctrl.drains = true) (ha : a = .run (.join t.id)) : rt₁.Awaits l := by
    refine hd.awaits hI fun hcur hk => ?_
    have hfind : rt.joinSet.find t.id = some t := (find_iff hwf).2 ⟨hf.mem, rfl⟩
    have hmatch := currentChildMatches_iff.2 hcur
    have haw := Ctrl.awaits_of_removing hl
    rw [hk] at haw
    subst ha
    simp [keepsAwaited, hc, hrun, Config.joinsAwaited, hfind, haw, hmatch] at hok
  cases h with
  | env henv => exact hI.same (by rw [(envStep_frame henv).children])
  | start hs => exact absurd hl (by simp [Stack.not_removing_run, Await.removal])
  | loop hc _ => exact absurd hl hc.not_removing
  | @shutdown _ _ _ _ rt₁ hb hrt _ =>
    have hwf₁ : rt₁.Wf := by rcases hrt with rfl | rfl <;> exact hwf
    rw [hwf₁.halted_state] at hrun'
    cases hrun'
  | @command _ _ k key cmd rest _ hh hv hq ho =>
    refine CommandOutcome.awaits ho (show (rt.received rest).Awaits l from hI) ?_ hv
    rintro child reply rfl - hne rfl
    refine hne ?_
    have haw := Ctrl.awaits_of_removing hl
    rcases step_addChild (c := ⟨rt, ctrl⟩) hwf hh hq hstep with ⟨e, -, hc⟩ | ⟨hnone, -⟩
    · cases hc
      rfl
    · simp [keepsAwaited, haw, Config.addsChild, hq, hnone] at hok
  | join _ _ ho => exact ho.awaits hI hrun
  | readyJoin hf hd => exact hdrained hd hf rfl rfl
  | drainJoin hf hd hn =>
    have hI₁ := hdrained hd hf rfl rfl
    exact hI₁.same (by rw [hn.children])
  | drainNext _ hn => exact hI.same (by rw [hn.children])
  | respawn he hm => exact hI.set_of_active he hm rfl
  | groupDrain =>
    refine (hI.cancelRunningChildren hwf).same ?_
    rw [SupervisorRuntime.swept, abortMatchingChildren_children]
  | groupRespawn =>
    have hregrouped : rt.regrouped.Awaits l := hI
    exact hregrouped.respawnedAll rt.childOrder
  | removalTimer _ => exact hI.same (by rw [abortedChild_children])
  | detach he => exact hI.remove rfl
  | _ => exact hI

theorem BeginsRemoval.awaits (h : BeginsRemoval rt ctrl l a rt' ctrl') : rt'.Awaits l := by
  cases h with
  | @intro _ _ reply rest e _ _ he hm hs _ _ ht =>
    intro e' he'
    rw [cancelledChild_children] at he'
    have hreceived : ((rt.received rest).log (.handled reply)).children.get l.key = some e := he
    have hget := requested_get reply hreceived
    cases hget.symm.trans he'
    refine ⟨ht.symm, rfl, ?_⟩
    have hactive : e.runtime.state.isActive = true := by simpa [RuntimeChildState.isActive] using hs
    simp [ChildEntry.requested, hactive]

end

/-! ### Runs -/

/-- While the supervisor is running every removal that waits has a child that is still to exit. -/
def Config.Awaiting (c : Config) : Prop :=
  ∀ l, c.ctrl.Removing l → c.rt.state = .running → c.rt.Awaits l

theorem Config.Awaiting.step {c c' : Config} {a : Act} (h : c.Awaiting) (hs : c.Sane)
    (hok : keepsAwaited c a = true) (hstep : TokioSupervisor.step c a = some c') : c'.Awaiting := by
  have hr := step_rule hs hstep
  intro l hl' hrun'
  have hrun : c.rt.state = .running := by
    by_contra hc
    exact hr.state hs.wf hc hrun'
  rcases hr.removing_from hl' with hl | hbegins
  · exact hr.awaits hs.wf (h l hl hrun) hl hok hrun hrun' hstep
  · exact hbegins.awaits

section
variable {config : SupervisorConfig} {env : StartEnv} {as : List Act} {c : Config}

theorem run_awaiting {ok : Config → Act → Prop} (h : config.Accepted)
    (hok : ∀ c a, ok c a → keepsAwaited c a = true) (hrun : Run step ok (Config.start config env) as c) :
    c.Awaiting := by
  refine hrun.invariant_of (I := Config.Awaiting) (fun _ _ h' => run_sane h h') ?_
    fun c a c' hs hI ha hstep => hI.step hs (hok c a ha) hstep
  intro l hl
  exact absurd hl (by simp [Config.start, Await.removal])

theorem run_removalSelect {ok : Config → Act → Prop} {l : Removal} {k : Stack .awaitChildRemoval}
    (h : config.Accepted) (hrun : Run step ok (Config.start config env) as c)
    (hc : c.ctrl = .await (.removalSelect l) k) : c.rt.state = .running := by
  by_contra hstate
  rcases (run_ending h hrun).begun hstate with hend | hp | hs
  · rw [hc] at hend
    cases hend
  · have hunwinds := (run_heard h hrun).unwinds hp
    rw [hc] at hunwinds
    cases hunwinds
  · rw [hc, Ctrl.shutsDown_await, k.shutsDown_of_settled rfl] at hs
    cases hs

/-- Where a removal waits for its child, the child's task is unjoined. -/
theorem run_awaited {ok : Config → Act → Prop} {l : Removal} {k : Stack .awaitChildRemoval}
    (h : config.Accepted) (hok : ∀ c a, ok c a → keepsAwaited c a = true)
    (hrun : Run step ok (Config.start config env) as c) (hc : c.ctrl = .await (.removalSelect l) k) :
    ∃ e, c.rt.children.get l.key = some e ∧ e.instanceId = l.target ∧ e.membership = .removing ∧
      ∃ t ∈ c.rt.joinSet.tasks, e.runtime.abortHandle = some t.id ∧
        t.info = ⟨l.key, l.target, e.runtime.generation⟩ := by
  have hs := run_sane h hrun
  have hawaits := run_awaiting h hok hrun l (by rw [hc]; exact .inl rfl) (run_removalSelect h hrun hc)
  obtain ⟨e, he⟩ := hs.removal l k hc
  obtain ⟨hi, hm, -⟩ := hawaits e he
  exact ⟨e, he, hi, hm, hawaits.unjoined hs.wf (run_attached h hrun) he⟩

end

end TokioSupervisor
