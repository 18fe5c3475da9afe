import TokioSupervisor.Lib.Replay
import TokioSupervisor.Runtime.Observed
import TokioSupervisor.Runtime.Preemption

/-!
# The events tell what the snapshots show

A subscriber of the events can keep an account of the children: who there is, in which generation, whether it
has a task, whether it is being removed and how it exited last. The account is always that of the supervisor,
and a snapshot with it is on the watch channel before the event is broadcast (`run_reflects`): what the runtime
changes without an event shows in none of this.
-/

namespace TokioSupervisor
open Lib SupervisorRuntime

/-! ### The account of a subscriber -/

/-- What the events tell of a child. -/
structure ChildRow where
  id : String
  generation : Nat
  live : Bool
  membership : ChildMembershipView
  lastExit : Option ExitStatusView
deriving DecidableEq

/-- What the events tell of a supervisor. -/
structure Account where
  state : SupervisorStateView
  rows : List ChildRow
deriving DecidableEq

namespace Account

def update (t : Account) (id : String) (f : ChildRow → ChildRow) : Account :=
  { t with rows := t.rows.map fun r => if r.id = id then f r else r }

/-- What an event changes. -/
def apply (t : Account) : SupervisorEvent → Account
  | .supervisorStopping => { t with state := .stopping }
  | .supervisorStopped => { t with state := .stopped }
  | .childStarted id generation =>
    if t.rows.any (·.id == id) then t.update id fun r => { r with generation, live := true }
    else { t with rows := t.rows ++ [⟨id, generation, true, .active, none⟩] }
  | .childRemoveRequested id => t.update id fun r => { r with membership := .removing }
  | .childRemoved id => { t with rows := t.rows.filter (·.id != id) }
  | .childExited id _ status => t.update id fun r => { r with live := false, lastExit := some status }
  | _ => t

theorem apply_silent (t : Account) (e : SupervisorEvent) (he : e.updatesSnapshot = false) : t.apply e = t := by
  cases e <;> first | rfl | cases he

end Account

def ChildSnapshotOf.row {Nested : Type} (s : ChildSnapshotOf Nested) : ChildRow :=
  ⟨s.id, s.generation, s.state == .running || s.state == .stopping, s.membership, s.lastExit⟩

def SupervisorSnapshot.account (s : SupervisorSnapshot) : Account := ⟨s.state, s.children.map (·.row)⟩

def ChildEntry.row (e : ChildEntry) : ChildRow := (e.view 0).row

namespace SupervisorRuntime
variable {rt rt' : SupervisorRuntime} {key : ChildKey} {e e' : ChildEntry}

def account (rt : SupervisorRuntime) : Account := rt.view.account

theorem account_eq (rt : SupervisorRuntime) : rt.account =
    ⟨rt.state.view, rt.childOrder.filterMap fun key => (rt.children.get key).map ChildEntry.row⟩ := by
  simp only [account, SupervisorSnapshot.account, view, List.map_filterMap, Option.map_map]
  rfl

theorem Wf.account_set (h : rt.Wf) (he : rt.children.get key = some e) (e' : ChildEntry)
    (f : ChildRow → ChildRow) (hf : e'.row = f e.row) : (rt.setEntry key e').account = rt.account.update e.id f := by
  rw [account_eq, account_eq, Account.update, List.map_filterMap]
  congr 1
  refine List.filterMap_congr fun k _ => ?_
  show ((rt.children.set key e').get k).map ChildEntry.row = _
  rw [Slab.get_set he, Option.map_map]
  split
  · rename_i hk
    subst hk
    rw [he, Option.map_some, Option.map_some, hf]
    exact congrArg some (if_pos rfl).symm
  · rename_i hk
    cases hg : rt.children.get k with
    | none => rfl
    | some g =>
      have hid : g.id ≠ e.id := fun hid => hk (WfOf.key_inj h he hg hid.symm)
      exact congrArg some (if_neg hid).symm

theorem Wf.account_same (h : rt.Wf) (he : rt.children.get key = some e) (e' : ChildEntry) (hf : e'.row = e.row) :
    (rt.setEntry key e').account = rt.account := by
  rw [h.account_set he e' id hf, Account.update]
  simp

theorem mem_rows {r : ChildRow} (hr : r ∈ rt.account.rows) :
    ∃ key e, rt.children.get key = some e ∧ r = e.row := by
  rw [account_eq] at hr
  obtain ⟨key, -, hkey⟩ := List.mem_filterMap.1 hr
  obtain ⟨e, he, rfl⟩ := Option.map_eq_some_iff.1 hkey
  exact ⟨key, e, he, rfl⟩

theorem Wf.row_mem (h : rt.Wf) (he : rt.children.get key = some e) : e.row ∈ rt.account.rows := by
  rw [account_eq]
  exact List.mem_filterMap.2 ⟨key, (h.order key).2 ⟨e, he⟩, by rw [he]; rfl⟩

theorem Wf.account_remove (h : rt.Wf) (he : rt.children.get key = some e) :
    (rt.deleted key e).account = { rt.account with rows := rt.account.rows.filter (·.id != e.id) } := by
  rw [account_eq, account_eq]
  congr 1
  show (rt.childOrder.filter (· != key)).filterMap (fun k => ((rt.children.remove key).get k).map ChildEntry.row) = _
  rw [List.filter_filterMap, List.filterMap_filter]
  refine List.filterMap_congr fun k _ => ?_
  by_cases hk : k = key
  · subst hk
    rw [he]
    simp [ChildEntry.row, ChildSnapshotOf.row, ChildEntry.view, Option.filter]
  · rw [if_pos (by simpa using hk), Slab.get_remove_ne _ hk]
    cases hg : rt.children.get k with
    | none => rfl
    | some g =>
      have hid : g.id ≠ e.id := fun hid => hk (WfOf.key_inj h hg he hid)
      simpa [ChildEntry.row, ChildSnapshotOf.row, ChildEntry.view, Option.filter] using hid

theorem account_inserted (hord : ∀ k ∈ rt.childOrder, ∃ e, rt.children.get k = some e)
    (hv : rt.children.vacant key = true) (child : ChildSpec) : (rt.inserted key child).account =
      { rt.account with rows := rt.account.rows ++ [⟨child.id, 0, false, .active, none⟩] } := by
  rw [account_eq, account_eq]
  congr 1
  show (rt.childOrder ++ [key]).filterMap (fun k =>
    ((rt.inserted key child).children.get k).map ChildEntry.row) = _
  rw [List.filterMap_append]
  congr 1
  · refine List.filterMap_congr fun k hk => ?_
    have hne : k ≠ key := by
      rintro rfl
      obtain ⟨f, hf⟩ := hord k hk
      rw [Slab.get_of_vacant hv] at hf
      cases hf
    exact congrArg _ (Slab.get_insert_ne hv _ hne)
  · rw [List.filterMap_cons_some (by rw [inserted_get hv child]; rfl)]
    rfl

theorem account_insertInitial (hord : ∀ k ∈ rt.childOrder, ∃ e, rt.children.get k = some e)
    (specs : List ChildSpec) : (rt.insertInitial specs).account =
      { rt.account with rows := rt.account.rows ++ specs.map fun spec => ⟨spec.id, 0, false, .active, none⟩ } := by
  induction specs generalizing rt with
  | nil => simp [insertInitial]
  | cons spec rest ih =>
    have hv := vacant_length rt.children
    rw [insertInitial_cons, ih, account_inserted hord hv]
    · simp
    · intro k hk
      rcases List.mem_append.1 hk with hk | hk
      · obtain ⟨e, he⟩ := hord k hk
        have hne : k ≠ rt.children.slots.length := by
          rintro rfl
          rw [Slab.get_of_vacant hv] at he
          cases he
        exact ⟨e, (Slab.get_insert_ne hv _ hne).trans he⟩
      · cases List.mem_singleton.1 hk
        exact ⟨_, inserted_get hv spec⟩

theorem events_subRunning (rt : SupervisorRuntime) (n : Nat) : events (rt.subRunning n).trace = events rt.trace := by
  unfold subRunning
  dsimp only
  split <;> rfl

/-- No child is between its spawn and its start. -/
def Begun (rt : SupervisorRuntime) : Prop :=
  ∀ key e, rt.children.get key = some e → e.runtime.state ≠ .starting

/-- The children that are marked as stopping keep their tasks. -/
theorem Wf.cancelRunningChildren_account (h : rt.Wf) (hb : rt.Begun) : rt.cancelRunningChildren.account = rt.account ∧
    rt.cancelRunningChildren.snapshots = rt.snapshots ∧
      events rt.cancelRunningChildren.trace = events rt.trace := by
  obtain ⟨C, n, heq, hget, -⟩ := h.cancelRunningChildren
  have hrow (e : ChildEntry) (hok : e.Ok) (hs : e.runtime.state ≠ .starting) : e.stopping.row = e.row := by
    unfold ChildEntry.stopping
    split
    · rename_i hcounts
      have hrun : e.runtime.state = .running := (hok.counts_iff.1 hcounts).resolve_right hs
      simp only [ChildEntry.row, ChildSnapshotOf.row, ChildEntry.view, hrun]
      rfl
    · rfl
  refine ⟨?_, heq ▸ rfl, heq ▸ events_subRunning { rt with children := C } n⟩
  rw [account_eq, account_eq, heq]
  congr 1
  refine List.filterMap_congr fun k _ => ?_
  show (C.get k).map ChildEntry.row = _
  rw [hget, Option.map_map]
  cases he : rt.children.get k with
  | none => rfl
  | some e => exact congrArg some (hrow e (h.ok he) (hb k e he))

/-! ### Supervisors whose events tell -/

/-- The account is what the events have told since `t₀`, and the snapshots come with the events. -/
structure Tells (t₀ : Account) (rt : SupervisorRuntime) : Prop where
  account : rt.account = replay Account.apply t₀ (events rt.trace)
  reflects : Reflects Account.apply SupervisorSnapshot.account SupervisorEvent.updatesSnapshot t₀ rt.snapshots
    (events rt.trace)

variable {t₀ : Account}

namespace Tells

theorem same (h : Tells t₀ rt) (ha : rt'.account = rt.account) (hs : rt'.snapshots = rt.snapshots)
    (ht : events rt'.trace = events rt.trace) : Tells t₀ rt' := by
  refine ⟨?_, ?_⟩
  · rw [ha, ht]
    exact h.account
  · rw [hs, ht]
    exact h.reflects

theorem emit (h : Tells t₀ rt) {owner : Option Nat} (event : SupervisorEvent)
    (hown : ∀ id generation e, event ≠ .nested id generation e) (ha : rt'.account = rt.account.apply event)
    (hs : rt'.snapshots = rt.snapshots) (ht : events rt'.trace = events rt.trace) :
    Tells t₀ (rt'.emitted owner event) := by
  have hevents : events (rt'.emitted owner event).trace = event :: events rt.trace := by
    rw [← ht]
    cases event <;> first | rfl | exact absurd rfl (hown _ _ _)
  have haccount : rt'.account = replay Account.apply t₀ (event :: events rt.trace) := by
    rw [replay_cons, ← h.account, ha]
  refine ⟨hevents ▸ haccount, ?_⟩
  rw [hevents]
  show Reflects _ _ _ _ (if event.updatesSnapshot then rt'.view :: rt'.snapshots else rt'.snapshots) _
  rw [hs]
  cases hu : event.updatesSnapshot with
  | true => exact .event h.reflects hu haccount
  | false => exact .silent h.reflects hu

theorem log (h : Tells t₀ rt) {b : Action} (hb : b.own = none) : Tells t₀ (rt.log b) :=
  h.same rfl rfl (List.filterMap_cons_none hb)

theorem note (h : Tells t₀ rt) {owner : Option Nat} {event : SupervisorEvent}
    (hown : ∀ id generation e, event ≠ .nested id generation e)
    (happly : rt.account.apply event = rt.account) : Tells t₀ (rt.emitted owner event) :=
  h.emit event hown happly.symm rfl rfl

theorem setEntry (h : Tells t₀ rt) (hwf : rt.Wf) (he : rt.children.get key = some e) (e' : ChildEntry)
    (hf : e'.row = e.row) : Tells t₀ (rt.setEntry key e') :=
  h.same (hwf.account_same he e' hf) rfl rfl

theorem spawned (h : Tells t₀ rt) (hwf : rt.Wf) (he : rt.children.get key = some e) :
    Tells t₀ (rt.spawned key e) := by
  refine h.emit _ nofun ?_ rfl rfl
  have hany : rt.account.rows.any (·.id == e.id) = true :=
    List.any_eq_true.2 ⟨e.row, hwf.row_mem he, beq_self_eq_true _⟩
  rw [Account.apply, if_pos hany]
  exact hwf.account_set he (e.started _ _ _) _ rfl

theorem restarted (h : Tells t₀ rt) (hwf : rt.Wf) (he : rt.children.get key = some e) :
    Tells t₀ (rt.restarted key e) :=
  (h.spawned hwf he).note nofun rfl

theorem finalized (h : Tells t₀ rt) (hwf : rt.Wf) (he : rt.children.get key = some e) :
    Tells t₀ (rt.finalized key e) :=
  h.emit _ nofun (hwf.account_remove he) rfl rfl

theorem ignored (h : Tells t₀ rt) (t : Task) : Tells t₀ (rt.ignored t) := h.same rfl rfl rfl

theorem dropReceiver (h : Tells t₀ rt) : Tells t₀ rt.dropReceiver := h.same rfl rfl (events_dropReceiver rt)

theorem abortedChild (h : Tells t₀ rt) (e : ChildEntry) : Tells t₀ (rt.abortedChild e) := by
  unfold SupervisorRuntime.abortedChild
  split
  · exact h
  · exact h.same rfl rfl rfl

theorem cancelledChild (h : Tells t₀ rt) (e : ChildEntry) : Tells t₀ (rt.cancelledChild e) := by
  unfold SupervisorRuntime.cancelledChild
  split
  · exact h
  · exact h.same rfl rfl rfl

theorem abortMatchingChildren (h : Tells t₀ rt) (predicate : ChildEntry → Bool) :
    Tells t₀ (rt.abortMatchingChildren predicate) := by
  have hchain : Relation.ReflTransGen (fun rt rt' => Tells t₀ rt → Tells t₀ rt') rt
      (rt.abortMatchingChildren predicate) :=
    abortMatchingChildren_chain predicate fun rt' _ e _ _ _ _ h => h.abortedChild e
  exact rel_of_chain hchain (fun _ => id) (fun _ _ _ h h' => h' ∘ h) h

theorem swept (h : Tells t₀ rt) : Tells t₀ rt.swept :=
  abortMatchingChildren (show Tells t₀ { rt with commandRx := { rt.commandRx with closed := true } } from
    h.same rfl rfl rfl) _

theorem exited (h : Tells t₀ rt) (hwf : rt.Wf) {t : Task} (hc : rt.Current t.info e) (outcome : TaskOutcome) :
    Tells t₀ (rt.exited t e outcome) := by
  refine h.emit _ nofun ?_ rfl (events_subRunning ..)
  exact hwf.account_set hc.get (e.stopped outcome.status) _ rfl

theorem terminated (h : Tells t₀ rt) (hwf : rt.Wf) (he : rt.children.get key = some e) (generation : Nat)
    (failed : Bool) : Tells t₀ (rt.setEntry key (e.terminated generation failed)) := by
  refine h.setEntry hwf he _ ?_
  unfold ChildEntry.terminated
  split
  · split <;> rfl
  · rfl

theorem requested (h : Tells t₀ rt) (hwf : rt.Wf) (reply : Nat) (he : rt.children.get key = some e)
    (hs : e.runtime.state ≠ .starting) : Tells t₀ (rt.requested reply key e) := by
  refine h.emit _ nofun ?_ rfl (events_subRunning ..)
  refine hwf.account_set he e.requested _ ?_
  simp only [ChildEntry.row, ChildSnapshotOf.row, ChildEntry.view, ChildEntry.requested]
  cases hstate : e.runtime.state with
  | starting => exact absurd hstate hs
  | _ => rfl

theorem added (h : Tells t₀ rt) (hwf : rt.Wf) (hv : rt.children.vacant key = true) {child : ChildSpec}
    (ha : rt.Addable child) : Tells t₀ (rt.added key child) := by
  have hwf' : (rt.inserted key child).Wf := hwf.inserted hv ha.id ha.new
  refine h.emit (.childStarted child.id 0) nofun ?_ rfl rfl
  have hnew : ∀ r ∈ rt.account.rows, r.id ≠ child.id := by
    rintro r hr hid
    obtain ⟨k, f, hf, rfl⟩ := mem_rows hr
    have hlookup : rt.childrenById.lookup child.id = some k := (hwf.byId child.id k).2 ⟨f, hf, hid⟩
    rw [ha.new] at hlookup
    cases hlookup
  have hany : ¬ rt.account.rows.any (·.id == child.id) = true := by
    intro hany
    obtain ⟨r, hr, hid⟩ := List.any_eq_true.1 hany
    exact hnew r hr (eq_of_beq hid)
  have hstarted := hwf'.account_set (inserted_get hv child) ((rt.newEntry child).started
    (rt.tokens.childToken rt.groupToken).1 rt.nestedStates.length rt.joinSet.nextId)
    (fun r => { r with live := true }) rfl
  refine hstarted.trans ?_
  rw [account_inserted (fun k => (hwf.order k).1) hv child, Account.apply, if_neg hany, Account.update]
  have hold : rt.account.rows.map (fun r => if r.id = child.id then { r with live := true } else r) =
      rt.account.rows := by
    conv_rhs => rw [← List.map_id rt.account.rows]
    exact List.map_congr_left fun r hr => if_neg (hnew r hr)
  simp only [List.map_append, List.map_cons, List.map_nil]
  rw [show (rt.newEntry child).id = child.id from rfl, hold, if_pos rfl]

theorem spawnedAll (h : Tells t₀ rt) (hwf : rt.Wf) (keys : List ChildKey) : Tells t₀ (rt.spawnedAll keys) := by
  induction keys generalizing rt with
  | nil => exact h
  | cons key rest ih =>
    rw [SupervisorRuntime.spawnedAll]
    cases he : rt.children.get key with
    | none => exact ih h hwf
    | some e => exact ih (h.spawned hwf he) (hwf.spawned he)

theorem respawnedAll (h : Tells t₀ rt) (hwf : rt.Wf) (keys : List ChildKey) :
    Tells t₀ (rt.respawnedAll keys) := by
  induction keys generalizing rt with
  | nil => exact h
  | cons key rest ih =>
    rw [SupervisorRuntime.respawnedAll]
    cases he : rt.children.get key with
    | none => exact ih h hwf
    | some e =>
      dsimp only
      split
      · exact ih (h.restarted hwf he) (hwf.restarted he)
      · exact ih h hwf

theorem cancelRunningChildren (h : Tells t₀ rt) (hwf : rt.Wf) (hb : rt.Begun) :
    Tells t₀ rt.cancelRunningChildren := by
  obtain ⟨ha, hs, ht⟩ := hwf.cancelRunningChildren_account hb
  exact h.same ha hs ht

theorem halted (h : Tells t₀ rt) (hwf : rt.Wf) (hb : rt.Begun) : Tells t₀ rt.halted := by
  obtain ⟨ha, hs, ht⟩ := (show Wf { rt with state := .stopping } from hwf).cancelRunningChildren_account hb
  exact (h.emit .supervisorStopping nofun ha hs ht).swept

theorem republished (h : Tells t₀ rt) (ha : rt'.account = rt.account) (hs : rt'.snapshots = rt'.view :: rt.snapshots)
    (ht : events rt'.trace = events rt.trace) : Tells t₀ rt' := by
  have haccount : rt'.account = replay Account.apply t₀ (events rt.trace) := ha.trans h.account
  refine ⟨ht ▸ haccount, ?_⟩
  rw [hs, ht]
  exact .again h.reflects haccount

theorem finishedWith (h : Tells t₀ rt) (exit : SupervisorExit) : Tells t₀ (rt.finishedWith exit) :=
  h.emit .supervisorStopped nofun rfl rfl rfl

end Tells

end SupervisorRuntime

/-! ### Steps -/

section
variable {t₀ : Account} {rt rt' : SupervisorRuntime} {ctrl ctrl' : Ctrl} {a : Act}

theorem ChildEntry.Evolves.begun {c c' : Config} {trace : List Action} {key : ChildKey} {e e' : ChildEntry}
    (h : e.Evolves c a c' trace key e') (hs : e.runtime.state ≠ .starting) : e'.runtime.state ≠ .starting := by
  cases h with
  | same hsame => rwa [hsame.state]
  | terminated => rwa [ChildEntry.terminated_runtime]
  | requested =>
    show (if e.runtime.state.isActive then _ else e.runtime.state) ≠ _
    split
    · exact nofun
    · exact hs
  | stopping =>
    unfold ChildEntry.stopping
    split
    · exact nofun
    · exact hs
  | _ => exact nofun

theorem SupervisorRuntime.account_withAux (x : Aux) : (rt.withAux x).account = rt.account := by
  rw [account_eq, account_eq]
  rfl

theorem SupervisorRuntime.Tells.env (h : Tells t₀ rt) (henv : envStep rt a = some rt') : Tells t₀ rt' := by
  have hframe := envStep_frame henv
  refine h.same ?_ hframe.snapshots ?_
  · rw [account_eq, account_eq, hframe.state, hframe.childOrder, hframe.children]
  · rcases hframe.trace with ht | ⟨reply, ht⟩
    · rw [ht]
    · rw [ht]
      rfl

theorem LoopHead.tells (hl : LoopHead rt rt' ctrl) (h : Tells t₀ rt) : Tells t₀ rt' := by
  cases hl with
  | exit => exact (show Tells t₀ { rt with pendingExit := none } from h.same rfl rfl rfl).dropReceiver
  | natural => exact (h.finishedWith _).dropReceiver
  | wait => exact h

theorem AtLoop.tells (hc : AtLoop rt ctrl a rt') (hwf : rt.Wf) (h : Tells t₀ rt) : Tells t₀ rt' := by
  cases hc with
  | command | join => exact h
  | seen | closed => exact h.same rfl rfl rfl
  | ignored x hs => exact h.same (account_withAux x) hs rfl
  | @nested _ key e x he nestedSnapshot hs =>
    have haccount := (show (rt.withAux x).Wf from hwf).account_same he { e with nestedSnapshot } rfl
    exact h.republished (haccount.trans (account_withAux x)) hs rfl

theorem CommandOutcome.tells {key : ChildKey} {k : Stack .handleCommand} {cmd : SupervisorCommand}
    (ho : CommandOutcome rt key k cmd rt' ctrl') (hwf : rt.Wf) (hb : rt.Begun)
    (hv : rt.children.vacant key = true) (h : Tells t₀ rt) : Tells t₀ rt' := by
  have hlogged (reply : Nat) : Tells t₀ (rt.log (.handled reply)) := h.log rfl
  have hwf' (reply : Nat) : (rt.log (.handled reply)).Wf := hwf
  cases ho with
  | addRefused => exact (hlogged _).log rfl
  | added ha => exact ((hlogged _).added hwf hv ⟨ha.state, ha.id, ha.new⟩).log rfl
  | removeRefused => exact hlogged _
  | removed he =>
    exact ((hlogged _).requested (hwf' _) _ he (hb _ _ he)).finalized ((hwf' _).requested _ he) (requested_get _ he)
  | removeAbort he => exact ((hlogged _).requested (hwf' _) _ he (hb _ _ he)).abortedChild _
  | removeWait he => exact ((hlogged _).requested (hwf' _) _ he (hb _ _ he)).cancelledChild _

theorem JoinOutcome.tells {t : Task} {outcome : TaskOutcome} {k : Stack .handleJoinedChild}
    (ho : JoinOutcome rt t outcome k rt' ctrl') (hwf : rt.Wf) (h : Tells t₀ rt) : Tells t₀ rt' := by
  have hscheduled {e : ChildEntry} (hc : rt.Current t.info e) (tracker : RestartTracker) (deadline : Option Instant)
      {owner : Option Nat} {event : SupervisorEvent}
      (hown : ∀ id generation e, event ≠ .nested id generation e) (happly : ∀ t : Account, t.apply event = t) :
      Tells t₀ (((rt.exited t e outcome).setEntry t.info.key
        ((e.stopped outcome.status).scheduled tracker deadline)).emitted owner event) :=
    ((h.exited hwf hc outcome).setEntry (hwf.exited hc outcome) (exited_get hc outcome)
      ((e.stopped outcome.status).scheduled tracker deadline) rfl).note hown (happly _)
  cases ho with
  | stale => exact h.ignored t
  | stopping hc => exact h.exited hwf hc outcome
  | removed hc => exact (h.exited hwf hc outcome).finalized (hwf.exited hc outcome) (exited_get hc outcome)
  | settled hc => exact (h.exited hwf hc outcome).terminated (hwf.exited hc outcome) (exited_get hc outcome) _ _
  | overrunOne hc | overrunAll hc => exact hscheduled hc _ _ nofun fun _ => rfl
  | scheduledOne hc | scheduledAll hc => exact hscheduled hc _ _ nofun fun _ => rfl

theorem DrainedJoin.tells {t : Task} {outcome : TaskOutcome} {reason : DrainReason}
    (hd : DrainedJoin rt t outcome reason rt') (hwf : rt.Wf) (h : Tells t₀ rt) : Tells t₀ rt' := by
  cases hd with
  | stale => exact h.ignored t
  | exited hc => exact h.exited hwf hc outcome
  | temporary hc => exact (h.exited hwf hc outcome).terminated (hwf.exited hc outcome) (exited_get hc outcome) _ _

theorem DrainNext.tells {reason : DrainReason} {k : Stack (.drainChildren reason)}
    (hn : DrainNext rt reason k rt' ctrl') (h : Tells t₀ rt) : Tells t₀ rt' := by
  cases hn with
  | abort => exact h.abortMatchingChildren _
  | _ => exact h

theorem Rule.tells (hr : Rule rt ctrl a rt' ctrl') (hwf : rt.Wf) (hb : rt.Begun) (h : Tells t₀ rt) :
    Tells t₀ rt' := by
  cases hr with
  | env henv => exact h.env henv
  | move | detachGone => exact h
  | overflow | vacantOne | vacantAll | joinError | shutdownEnd | runEnd => exact h.dropReceiver
  | start hl =>
    have hstarted : Tells t₀ (rt.emitted none .supervisorStarted) := h.note nofun rfl
    exact hl.tells (hstarted.spawnedAll hwf _)
  | loop hc hl => exact hl.tells (hc.tells hwf h)
  | natural => exact (h.finishedWith _).dropReceiver
  | shutdown _ hrt =>
    rcases hrt with rfl | rfl
    · exact h.halted hwf hb
    · exact (show Tells t₀ rt.seen from h.same rfl rfl rfl).halted hwf hb
  | shutdownDrained => exact h.finishedWith _
  | @command _ _ k key cmd rest _ _ hv _ ho =>
    have hreceived : Tells t₀ (rt.received rest) := h.same rfl rfl rfl
    exact ho.tells hwf hb hv hreceived
  | replied => exact h.log rfl
  | join _ _ ho => exact ho.tells hwf h
  | readyJoin _ hd => exact hd.tells hwf h
  | drainJoin _ hd hn => exact hn.tells (hd.tells hwf h)
  | drainNext _ hn => exact hn.tells h
  | respawn he => exact h.restarted hwf he
  | groupDrain => exact (h.cancelRunningChildren hwf hb).swept
  | groupRespawn =>
    have hregrouped : Tells t₀ rt.regrouped := h.same rfl rfl rfl
    exact hregrouped.respawnedAll hwf _
  | removalTimer => exact h.abortedChild _
  | detach he => exact h.finalized hwf he
  | queued | tryRecvClosed | delaySeen | delayClosed | delayClosedPending | removalSeen => exact h.same rfl rfl rfl

end

/-! ### Every run -/

section
variable {config : SupervisorConfig} {env : StartEnv} {as : List Act} {c : Config}

theorem run_begun (h : config.Accepted) (hrun : AnyRun step (Config.start config env) as c) : c.rt.Begun := by
  refine run_invariant h hrun (new_forall config env fun _ _ _ _ _ => nofun).1 ?_
  intro _ _ _ rt rt' _ _ _ hwf hI hu key e' he'
  rcases hu.entry_from hwf he' with ⟨e, he, hev⟩ | ⟨child, token, nested, task, rfl⟩
  · exact hev.begun (hI key e he)
  · exact nofun

/-- At any moment of a run the children are as the events broadcast so far tell, from the initial snapshot on;
the snapshot for an event is published before the event, and the last snapshot is up to date in what they tell. -/
theorem run_reflects (h : config.Accepted) (hrun : AnyRun step (Config.start config env) as c) :
    c.rt.view.account = replay Account.apply (initialSnapshot config).account (events c.rt.trace) ∧
      Reflects Account.apply SupervisorSnapshot.account SupervisorEvent.updatesSnapshot
        (initialSnapshot config).account c.rt.snapshots (events c.rt.trace) ∧
      c.rt.snapshots.head?.map SupervisorSnapshot.account = some c.rt.view.account := by
  have hstart : Tells (initialSnapshot config).account (SupervisorRuntime.new config env) := by
    have hinitial : (initialSnapshot config).account =
        ⟨.running, config.children.map fun spec => ⟨spec.id, 0, false, .active, none⟩⟩ := by
      simp only [initialSnapshot, SupervisorSnapshot.account, List.map_map]
      rfl
    have hnew : (SupervisorRuntime.new config env).account = (initialSnapshot config).account := by
      rw [hinitial, SupervisorRuntime.new, account_insertInitial (fun k hk => by cases hk)]
      rfl
    have hsnapshots : (SupervisorRuntime.new config env).snapshots = [initialSnapshot config] :=
      (insertInitial_forall (P := fun _ => True) (fun _ _ _ _ _ => trivial) fun _ _ _ => trivial).2
    refine ⟨?_, ?_⟩
    · rw [(h.fresh env).trace]
      exact hnew
    · rw [(h.fresh env).trace, hsnapshots]
      exact .start rfl
  have htells : Tells (initialSnapshot config).account c.rt :=
    hrun.invariant_of (I := fun c => Tells (initialSnapshot config).account c.rt)
      (J := fun c => c.Sane ∧ c.rt.Begun) (fun _ _ h' => ⟨run_sane h h', run_begun h h'⟩)
      hstart fun c a c' hs hI _ hstep => (step_rule hs.1 hstep).tells hs.1.wf hs.2 hI
  exact ⟨htells.account, htells.reflects, (htells.reflects.head Account.apply_silent).trans
    (congrArg some htells.account.symm)⟩

/-- `a` fails and restarts at once, then `b` is removed. -/
theorem run_reflects_removal : ∃ c : Config, c.rt.view.account = ⟨.running, [⟨"a", 1, true, .active,
      some (.failed "failed")⟩, ⟨"b", 0, true, .removing, none⟩]⟩ ∧
    c.rt.view.account = replay Account.apply (initialSnapshot promptConfig).account (events c.rt.trace) := by
  have hex : ∃ c, AnyRun step (Config.start promptConfig ⟨false, 0, 0⟩)
      [.run .go, .finish 0 (.returned (.error "failed")), .run (.join 0), .run .go, .run .go, .run (.command 2),
        .resume, .resume, .resume, .send (.removeChild "b" 0), .run (.command 2)] c ∧
      c.rt.view.account = ⟨.running, [⟨"a", 1, true, .active, some (.failed "failed")⟩,
        ⟨"b", 0, true, .removing, none⟩]⟩ :=
    anyRun_of_exec (f := fun c : Config => c.rt.view.account) (by decide +kernel)
  obtain ⟨c, hrun, haccount⟩ := hex
  exact ⟨c, haccount, (run_reflects promptConfig_accepted hrun).1⟩

end

end TokioSupervisor
