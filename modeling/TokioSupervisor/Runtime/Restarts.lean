import TokioSupervisor.Runtime.Coverage

/-!
# No lost restart

`restartsDue` lists the exits that asked for a restart and have not got one: their child has been
neither spawned again nor deleted since. Each of them is the last exit of an entry, and the entry is
covered by a suspended call, as long as `drain_ready_joins` only consumes such an exit where a call
covers it (`keepsDemands`). The main loop covers nothing, so it waits with no restart due. The drain of
`abort_and_detach_child` does consume the exits of other children (`lost_restart_reached`).
-/

namespace TokioSupervisor
open Lib SupervisorRuntime

/-! ### Restarts due -/

/-- The spawn of the generation that follows `d`, or the end of its instance. -/
def TaskMeta.settledBy (d : TaskMeta) : Action → Bool
  | .spawned key i g _ => d.key == key && d.instanceId == i && saturatingSucc d.generation == g
  | .deleted key i => d.key == key && d.instanceId == i
  | _ => false

def Action.demand : Action → Option TaskMeta
  | .exited key i g _ true => some ⟨key, i, g⟩
  | _ => none

/-- The exits that asked for a restart which they have not got, newest first. -/
def restartsDue : List Action → List TaskMeta
  | [] => []
  | b :: trace => b.demand.toList ++ (restartsDue trace).filter (!·.settledBy b)

/-- The action neither makes a restart due nor settles one. -/
def Action.restartFree : Action → Bool
  | .spawned .. | .deleted .. | .exited .. => false
  | _ => true

theorem restartsDue_cons {b : Action} (hb : b.restartFree = true) (trace : List Action) :
    restartsDue (b :: trace) = restartsDue trace := by
  cases b <;> first | simp [restartsDue, Action.demand, TaskMeta.settledBy]; done | cases hb

theorem Grown.restartsDue {P : Action → Prop} {old new : List Action} (h : Grown P old new)
    (hP : ∀ b, P b → b.restartFree = true) : restartsDue new = restartsDue old := by
  obtain ⟨l, rfl, hl⟩ := h
  induction l with
  | nil => rfl
  | cons b l ih =>
    rw [List.cons_append, restartsDue_cons (hP b (hl b List.mem_cons_self))]
    exact ih fun b hb => hl b (List.mem_cons_of_mem _ hb)

/-- Only an exit makes a restart due. -/
theorem Grown.due {P : Action → Prop} {old new : List Action} (h : Grown P old new) {d : TaskMeta}
    (hd : d ∈ TokioSupervisor.restartsDue new) :
    d ∈ TokioSupervisor.restartsDue old ∨ ∃ b, P b ∧ b.demand = some d := by
  obtain ⟨l, rfl, hl⟩ := h
  induction l with
  | nil => exact .inl hd
  | cons b l ih =>
    rw [List.cons_append, TokioSupervisor.restartsDue, List.mem_append] at hd
    rcases hd with hd | hd
    · exact .inr ⟨b, hl b List.mem_cons_self, by simpa using hd⟩
    · exact ih (fun b hb => hl b (List.mem_cons_of_mem _ hb)) (List.mem_of_mem_filter hd)

/-- The restart due after `d` is that of the entry `e`. -/
structure SupervisorRuntime.Owes (rt : SupervisorRuntime) (d : TaskMeta) (e : ChildEntry) : Prop
    extends rt.Current d e where
  started : e.runtime.hasStarted = true
  stopped : e.runtime.state = .stopped
  respawns : e.respawns = true

/-- Every restart due is that of an entry. -/
def SupervisorRuntime.Owing (rt : SupervisorRuntime) : Prop :=
  ∀ d ∈ restartsDue rt.trace, ∃ e, rt.Owes d e

namespace SupervisorRuntime.Owing
variable {rt rt' : SupervisorRuntime}

theorem keep (h : rt.Owing) (hdue : restartsDue rt'.trace = restartsDue rt.trace)
    (hget : ∀ key e, rt.children.get key = some e → e.runtime.state = .stopped → e.respawns = true →
      ∃ e', rt'.children.get key = some e' ∧ e'.instanceId = e.instanceId ∧
        e'.runtime.generation = e.runtime.generation ∧ e'.runtime.hasStarted = e.runtime.hasStarted ∧
        e'.runtime.state = e.runtime.state ∧ e'.respawns = e.respawns) : rt'.Owing := by
  intro d hd
  rw [hdue] at hd
  obtain ⟨e, he⟩ := h d hd
  obtain ⟨e', hg, hi, hgen, hst, hs, hr⟩ := hget d.key e he.get he.stopped he.respawns
  exact ⟨e', ⟨hg, hi.trans he.instanceId, hgen.trans he.generation⟩, hst.trans he.started,
    hs.trans he.stopped, hr.trans he.respawns⟩

theorem same (h : rt.Owing) (hdue : restartsDue rt'.trace = restartsDue rt.trace)
    (hc : rt'.children = rt.children) : rt'.Owing :=
  h.keep hdue fun _ e he _ _ => ⟨e, hc ▸ he, rfl, rfl, rfl, rfl, rfl⟩

theorem setEntry (h : rt.Owing) {key : ChildKey} {e e' : ChildEntry}
    (he : rt.children.get key = some e) (hi : e'.instanceId = e.instanceId)
    (hg : e'.runtime.generation = e.runtime.generation)
    (hst : e'.runtime.hasStarted = e.runtime.hasStarted)
    (hs : e.runtime.state = .stopped → e'.runtime.state = .stopped)
    (hr : e'.respawns = e.respawns) : (rt.setEntry key e').Owing := by
  refine h.keep rfl fun k f hf hstop _ => ?_
  by_cases hk : k = key
  · subst hk
    cases he.symm.trans hf
    exact ⟨e', Slab.get_set_self he e', hi, hg, hst, (hs hstop).trans hstop.symm, hr⟩
  · exact ⟨f, (Slab.get_set_ne he e' hk).trans hf, rfl, rfl, rfl, rfl, rfl⟩

theorem logged (h : rt.Owing) {b : Action} (hb : b.restartFree = true) : (rt.log b).Owing :=
  h.same (restartsDue_cons hb _) rfl

theorem emitted (h : rt.Owing) {owner : Option Nat} {event : SupervisorEvent} :
    (rt.emitted owner event).Owing :=
  h.same (restartsDue_cons rfl _) rfl

theorem grown (h : rt.Owing) {P : Action → Prop} (hg : Grown P rt.trace rt'.trace)
    (hP : ∀ b, P b → b.restartFree = true) (hc : rt'.children = rt.children) : rt'.Owing :=
  h.same (hg.restartsDue hP) hc

/-- Deleting an entry settles what was due to it. The entry may have been marked before. -/
theorem deleted (h : rt.Owing) {key : ChildKey} {e f : ChildEntry}
    (he : rt.children.get key = some e) (hi : f.instanceId = e.instanceId)
    (hdue : restartsDue rt'.trace = restartsDue rt.trace)
    (hget : ∀ k, k ≠ key → rt'.children.get k = rt.children.get k) : (rt'.finalized key f).Owing := by
  have hdel : restartsDue (rt'.finalized key f).trace =
      (restartsDue rt.trace).filter (!·.settledBy (.deleted key e.instanceId)) := by
    rw [← hdue, ← hi]
    exact restartsDue_cons rfl _
  intro d hd
  rw [hdel, List.mem_filter] at hd
  obtain ⟨g, hg⟩ := h d hd.1
  have hne : d.key ≠ key := by
    rintro rfl
    cases he.symm.trans hg.get
    simp [TaskMeta.settledBy, hg.instanceId] at hd
  have hrem := (Slab.get_remove_ne rt'.children hne).trans ((hget _ hne).trans hg.get)
  exact ⟨g, ⟨hrem, hg.instanceId, hg.generation⟩, hg.started, hg.stopped, hg.respawns⟩

theorem finalized (h : rt.Owing) {key : ChildKey} {e : ChildEntry}
    (he : rt.children.get key = some e) : (rt.finalized key e).Owing :=
  h.deleted he rfl rfl fun _ _ => rfl

theorem spawned (h : rt.Owing) {key : ChildKey} {e : ChildEntry}
    (he : rt.children.get key = some e) : (rt.spawned key e).Owing := by
  have hdue : restartsDue (rt.spawned key e).trace = (restartsDue rt.trace).filter
      (!·.settledBy (.spawned key e.instanceId e.nextGeneration rt.joinSet.nextId)) := by
    simp [SupervisorRuntime.spawned, SupervisorRuntime.emitted, log, restartsDue, Action.demand,
      TaskMeta.settledBy]
  intro d hd
  rw [hdue, List.mem_filter] at hd
  obtain ⟨f, hf⟩ := h d hd.1
  have hne : d.key ≠ key := by
    rintro rfl
    cases he.symm.trans hf.get
    simp [TaskMeta.settledBy, hf.instanceId, ← hf.generation, ChildEntry.nextGeneration, hf.started] at hd
  exact ⟨f, ⟨(spawned_get_ne he hne).trans hf.get, hf.instanceId, hf.generation⟩, hf.started,
    hf.stopped, hf.respawns⟩

theorem inserted (h : rt.Owing) {key : ChildKey} (hk : rt.children.vacant key = true)
    (child : ChildSpec) : (rt.inserted key child).Owing := by
  refine h.keep rfl fun k f hf _ _ => ⟨f, ?_, rfl, rfl, rfl, rfl, rfl⟩
  have hne : k ≠ key := by
    rintro rfl
    rw [Slab.get_of_vacant hk] at hf
    cases hf
  exact (Slab.get_insert_ne hk _ hne).trans hf

theorem restartsDue_subRunning (rt : SupervisorRuntime) (n : Nat) :
    restartsDue (rt.subRunning n).trace = restartsDue rt.trace := by
  refine Grown.restartsDue (P := fun b => b = .truncated) (subRunning_grown n (.refl _ _) rfl) ?_
  rintro b rfl
  rfl

theorem restartsDue_requested (rt : SupervisorRuntime) (reply : Nat) (key : ChildKey)
    (e : ChildEntry) : restartsDue (rt.requested reply key e).trace = restartsDue rt.trace :=
  Grown.restartsDue (P := fun b => b.restartFree = true)
    (requested_grown reply key e (.refl _ _) rfl rfl rfl) fun _ hb => hb

theorem requested (h : rt.Owing) (reply : Nat) {key : ChildKey} {e : ChildEntry}
    (he : rt.children.get key = some e) (hs : e.runtime.state ≠ .stopped) :
    (rt.requested reply key e).Owing := by
  refine h.keep (restartsDue_requested ..) fun k f hf hstop _ => ⟨f, ?_, rfl, rfl, rfl, rfl, rfl⟩
  have hne : k ≠ key := by
    rintro rfl
    cases he.symm.trans hf
    exact hs hstop
  exact (Slab.get_set_ne he _ hne).trans hf

theorem removed (h : rt.Owing) (reply : Nat) {key : ChildKey} {e : ChildEntry}
    (he : rt.children.get key = some e) :
    ((rt.requested reply key e).finalized key e.requested).Owing :=
  h.deleted he rfl (restartsDue_requested ..) fun _ hk => Slab.get_set_ne he _ hk

theorem cancelRunningChildren (h : rt.Owing) (hwf : rt.Wf) : rt.cancelRunningChildren.Owing := by
  have hg := hwf.cancelRunningChildren_grown (P := fun b => b.restartFree = true) rfl rfl
  refine h.keep (hg.restartsDue fun _ hb => hb) fun key e he hstop _ => ⟨e, ?_, rfl, rfl, rfl, rfl, rfl⟩
  obtain ⟨C, n, heq, hget, -⟩ := hwf.cancelRunningChildren
  have hstopping : e.stopping = e := by simp [ChildEntry.stopping, ChildEntry.counts, countsAsRunning, hstop]
  rw [heq]
  show C.get key = _
  rw [hget, he, Option.map_some, hstopping]

/-- An exit that asks for a restart makes one due, and no other does. -/
theorem restartsDue_exited (t : Task) (e : ChildEntry) (outcome : TaskOutcome) {d : TaskMeta}
    (hd : d ∈ restartsDue (rt.exited t e outcome).trace) :
    d ∈ restartsDue rt.trace ∨ d = ⟨t.info.key, e.instanceId, t.info.generation⟩ ∧
      rt.demandsRestart e outcome.status = true := by
  have hdemand : (rt.consumed t).demandsRestart e outcome.status = rt.demandsRestart e outcome.status :=
    rfl
  have hdue := restartsDue_subRunning ((rt.consumed t).log (.exited t.info.key e.instanceId
    t.info.generation outcome.status ((rt.consumed t).demandsRestart e outcome.status)))
      (if e.counts then 1 else 0)
  have hmem : d ∈ restartsDue ((rt.consumed t).log (.exited t.info.key e.instanceId
      t.info.generation outcome.status ((rt.consumed t).demandsRestart e outcome.status))).trace := by
    rw [← hdue]
    simpa [SupervisorRuntime.exited, recorded, SupervisorRuntime.emitted, SupervisorRuntime.setEntry,
      restartsDue, Action.demand, TaskMeta.settledBy] using hd
  rw [hdemand] at hmem
  cases hr : rt.demandsRestart e outcome.status <;>
    simp_all [log, consumed, taken, restartsDue, Action.demand, TaskMeta.settledBy]
  exact hmem.symm

theorem respawns_of_demand {e : ChildEntry} {status : ExitStatus}
    (h : rt.demandsRestart e status = true) : e.respawns = true := by
  simp only [demandsRestart, Bool.and_eq_true, beq_iff_eq] at h
  exact ChildEntry.respawns_of_shouldRestart h.1.2 h.2

theorem exited (h : rt.Owing) {t : Task} {e : ChildEntry} (hc : rt.Current t.info e)
    (hst : e.runtime.hasStarted = true) (outcome : TaskOutcome) : (rt.exited t e outcome).Owing := by
  have hset : (rt.setEntry t.info.key (e.stopped outcome.status)).Owing :=
    h.setEntry hc.get rfl rfl rfl (fun _ => rfl) rfl
  intro d hd
  rcases restartsDue_exited t e outcome hd with hd | ⟨rfl, hr⟩
  · obtain ⟨f, hf⟩ := hset d hd
    exact ⟨f, ⟨hf.get, hf.instanceId, hf.generation⟩, hf.started, hf.stopped, hf.respawns⟩
  · exact ⟨e.stopped outcome.status, ⟨exited_get hc outcome, rfl, hc.generation⟩, hst, rfl,
      respawns_of_demand hr⟩

end SupervisorRuntime.Owing

theorem ChildEntry.Same.respawns {e e' : ChildEntry} (h : e.Same e') : e'.respawns = e.respawns := by
  simp [ChildEntry.respawns, h.membership, h.spec]

theorem Update.owing {c c' : Config} {a : Act} {rt rt' : SupervisorRuntime} (h : Update c a c' rt rt')
    (hwf : rt.Wf) (hst : ∀ id, a = .run (.join id) → c.rt.Started) (hI : rt.Owing) : rt'.Owing := by
  cases h with
  | @received cmd rest _ =>
    have hrec : (rt.received rest).Owing := hI.same rfl rfl
    exact hrec.logged (b := .handled cmd.reply) rfl
  | dropped _ =>
    exact hI.grown (dropReceiver_grown (P := fun b => b.restartFree = true) rt fun _ => rfl)
      (fun _ hb => hb) rfl
  | refused _ _ => exact hI.logged rfl
  | notes l hl =>
    refine hI.grown (Grown.append (P := fun b => b.plain = true) l hl) (fun b hb => ?_) rfl
    cases b <;> first | rfl | cases hb
  | exceeded _ => exact hI.emitted
  | entry he hs =>
    exact hI.setEntry he hs.instanceId hs.generation hs.hasStarted (fun hstop => hs.state.trans hstop)
      hs.respawns
  | terminated g he _ _ =>
    exact hI.setEntry he (by simp) (by simp) (by simp) (by simp) (by simp [ChildEntry.respawns])
  | requested reply he _ hs _ _ _ => exact hI.requested reply he hs
  | removed reply he _ _ _ _ => exact hI.removed reply he
  | cancelled _ _ =>
    unfold SupervisorRuntime.cancelledChild
    split
    · exact hI
    · rename_i token _
      have hcancel : SupervisorRuntime.Owing { rt with tokens := rt.tokens.cancel token } :=
        hI.same rfl rfl
      exact hcancel.logged rfl
  | aborted _ _ =>
    unfold SupervisorRuntime.abortedChild
    split
    · exact hI
    · rename_i task _
      have habort : SupervisorRuntime.Owing { rt with joinSet := rt.joinSet.abort task } :=
        hI.same rfl rfl
      exact habort.logged rfl
  | @ignored t _ _ =>
    have htaken : (rt.taken t).Owing := hI.same rfl rfl
    exact htaken.logged rfl
  | exited hrt ha _ hc =>
    subst hrt
    exact hI.exited hc (hst _ ha _ _ hc.get) _
  | finalized he _ _ | detached he _ _ => exact hI.finalized he
  | started he _ _ => exact hI.spawned he
  | added hv _ _ _ => exact (hI.inserted hv _).spawned (inserted_get hv _)
  | respawned he _ _ _ | groupRespawned he _ _ _ => exact (hI.spawned he).emitted
  | cancelledAll _ => exact hI.cancelRunningChildren hwf
  | _ => exact hI.same rfl rfl

/-! ### Runs -/

/-- The exit of this task, if it is current and asks for a restart, is that of a child that the calls
on the stack will see to. -/
def SupervisorRuntime.demandMet (rt : SupervisorRuntime) (id : TaskId) {fn : Fn} (k : Stack fn) : Bool :=
  (rt.joinSet.find id).all fun t => (rt.children.get t.info.key).all fun e =>
    !(e.instanceId == t.info.instanceId && e.runtime.generation == t.info.generation &&
      t.outcome.any (rt.demandsRestart e ·.status)) || k.covers t.info.key e

/-- `drain_ready_joins` only consumes the exit of a child that asks for a restart where a suspended
call will see to that child, and no removal gives up on a child that waits for its restart. -/
def keepsDemands (c : Config) (a : Act) : Bool :=
  match c.ctrl, a with
  | .await (.readyJoins _) k, .run (.join id) => c.rt.demandMet id k
  | .await (.removalSelect l) k, .run .joinNone =>
    (c.rt.children.get l.key).all fun e =>
      !(e.respawns && e.runtime.state == .stopped) || k.covers l.key e
  | _, _ => true

/-- While the supervisor runs, a suspended call will see to every restart that is due. -/
structure Config.Keeping (c : Config) : Prop where
  owing : c.rt.Owing
  covered : ∀ d ∈ restartsDue c.rt.trace, ∀ e, c.rt.children.get d.key = some e →
    c.rt.state = .running → c.ctrl.erring = none → c.ctrl.ended = false → c.ctrl.covers d.key e = true

/-- When the main loop of a running supervisor waits, every exit that asked for a restart has been
followed by a respawn with the next generation or by the removal of the child. -/
def Config.LosesNoRestart (c : Config) : Prop :=
  c.ctrl.atSelect = true → c.rt.state = .running → restartsDue c.rt.trace = []

/-- A step only makes due the restart of the child whose exit it consumes. -/
theorem Updates.due {c c' : Config} {a : Act} {rt : SupervisorRuntime} (h : Updates c a c' c.rt rt)
    (hwf : c.rt.Wf) {d : TaskMeta} (hd : d ∈ restartsDue rt.trace) :
    d ∈ restartsDue c.rt.trace ∨ ∃ t e outcome, a = .run (.join t.id) ∧ c.rt.Finished t outcome ∧
      c.rt.Current t.info e ∧ c.rt.demandsRestart e outcome.status = true ∧ d.key = t.info.key := by
  refine (h.invariant (I := fun rt => ∀ d ∈ restartsDue rt.trace, d ∈ restartsDue c.rt.trace ∨
    ∃ t e outcome, a = .run (.join t.id) ∧ c.rt.Finished t outcome ∧ c.rt.Current t.info e ∧
      c.rt.demandsRestart e outcome.status = true ∧ d.key = t.info.key) hwf (fun _ => .inl) ?_).2 d hd
  intro rt rt' hwf hI hu d hd
  rcases (hu.logs hwf).due hd with hd | ⟨b, hl, hb⟩
  · exact hI d hd
  · cases hl with
    | plain hp => cases b <;> first | cases hb | cases hp
    | life hp => cases b <;> first | cases hb | cases hp
    | @exited t e outcome hrt ha hf hc =>
      subst hrt
      cases hr : c.rt.demandsRestart e outcome.status with
      | false => rw [hr] at hb; cases hb
      | true => rw [hr] at hb; cases hb; exact .inr ⟨t, e, outcome, ha, hf, hc, hr, rfl⟩
    | _ => cases hb

/-- A due restart that was covered before the step is covered after it. -/
theorem Covered.due {c : Config} {key : ChildKey} {e e' : ChildEntry} (h : Covered key e c)
    (hr : e.respawns = true) (he' : c.rt.children.get key = some e') (hstop : e'.runtime.state = .stopped)
    (hr' : e'.respawns = true) (hs : c.rt.state = .running) (hx : c.ctrl.erring = none)
    (hn : c.ctrl.ended = false) : c.ctrl.covers key e' = true := by
  cases h with
  | covers h =>
    have hm := (ChildEntry.active_of_respawns hr').trans (ChildEntry.active_of_respawns hr).symm
    rw [Ctrl.covers_congr hm (hr'.trans hr.symm)]
    exact h
  | dealt h => exact absurd (hstop.symm.trans (h e' he').1) nofun
  | halted h => exact absurd hs h
  | erring h => exact absurd hx h
  | ended h => rw [hn] at h; cases h

/-- Joins are only taken once every child has run. -/
theorem Config.Sane.join_started {c c' : Config} {id : TaskId} (h : c.Sane)
    (hstep : TokioSupervisor.step c (.run (.join id)) = some c') : c.rt.Started := by
  rcases h.started with hc | ⟨p, hc⟩ | hst
  · obtain ⟨rt, ctrl⟩ := c; cases hc; cases hstep
  · obtain ⟨rt, ctrl⟩ := c; cases hc; cases hstep
  · exact hst

theorem Config.Keeping.step {c c' : Config} {a : Act} (h : c.Keeping) (hs : c.Sane)
    (hhalt : c.Halting) (herr : errorsSurface c = true) (hok : keepsDemands c a = true)
    (hstep : TokioSupervisor.step c a = some c') : c'.Keeping := by
  have hrule := step_rule hs hstep
  have hu := hrule.updates hs.wf
  have howing : c'.rt.Owing :=
    (hu.invariant hs.wf h.owing fun rt rt' hwf hI hup => hup.owing hwf (fun id ha => ?_) hI).2
  · refine ⟨howing, fun d hd e' he' hrun hx hn => ?_⟩
    obtain ⟨f, hf⟩ := howing d hd
    obtain rfl : f = e' := Option.some.inj (hf.get.symm.trans he')
    have hrun₀ : c.rt.state = .running := by
      by_contra hne
      exact hrule.state hs.wf hne hrun
    have hn₀ : c.ctrl.ended = false := ended_of_step hstep hn
    have hx₀ : c.ctrl.erring = none := erring_of_step herr hstep hx hn
    rcases hu.due hs.wf hd with hd₀ | ⟨t, e, outcome, rfl, hfin, hc, hdem, hkey⟩
    · obtain ⟨e, he⟩ := h.owing d hd₀
      have hcov := h.covered d hd₀ e he.get hrun₀ hx₀ hn₀
      refine (hrule.covered hs.wf he.get hx₀ hrun₀ hhalt ?_ hcov).due he.respawns he' hf.stopped
        hf.respawns hrun hx hn
      rintro l k hc rfl _ hl
      have hkeep : ((c.rt.children.get l.key).all fun e =>
          !(e.respawns && e.runtime.state == .stopped) || k.covers l.key e) = true := by
        obtain ⟨rt, ctrl⟩ := c
        cases hc
        exact hok
      simpa [hl, he.get, he.respawns, he.stopped] using hkeep
    · have hact : e.membership = .active ∧
          e.runtime.spec.restart.shouldRestart outcome.status.isFailure = true := by
        simp only [demandsRestart, Bool.and_eq_true, beq_iff_eq] at hdem
        exact ⟨hdem.1.2, hdem.2⟩
      have hr := SupervisorRuntime.Owing.respawns_of_demand hdem
      have hnh : ¬ c.ctrl.Halts := fun hh => hhalt.frames hh hrun₀
      rw [hkey] at he' ⊢
      rcases (hrule.exitStep hs.wf rfl hfin hn).covered hnh hc hact.1 hact.2 with
        hcov | ⟨reason, k, hk, hk'⟩
      · exact hcov.due hr he' hf.stopped hf.respawns hrun hx hn
      · have hfind : c.rt.joinSet.find t.id = some t := (find_iff hs.wf).2 ⟨hfin.mem, rfl⟩
        have hmet : c.rt.demandMet t.id k = true := by
          obtain ⟨rt, ctrl⟩ := c
          cases hk
          exact hok
        have hcov : k.covers t.info.key e = true := by
          simpa [demandMet, hfind, hc.get, hc.instanceId, hc.generation, hfin.outcome, hdem] using hmet
        have hm := (ChildEntry.active_of_respawns hf.respawns).trans hact.1.symm
        rw [hk', Ctrl.covers_congr hm (hf.respawns.trans hr.symm)]
        simp [hcov]
  · subst ha
    exact hs.join_started hstep

theorem Config.Keeping.losesNoRestart {c : Config} (h : c.Keeping) : c.LosesNoRestart := by
  obtain ⟨rt, ctrl⟩ := c
  intro hc hs
  rw [List.eq_nil_iff_forall_not_mem]
  intro d hd
  obtain ⟨e, he⟩ := h.owing d hd
  unfold Ctrl.atSelect at hc
  split at hc
  · rename_i k hctrl
    cases hctrl
    have hcov := h.covered d hd e he.get hs rfl rfl
    simp [Await.cover, Stack.covers_run] at hcov
  · cases hc

/-- No restart is lost in a run in which no error is swallowed and no drain consumes the exit of a
child that nobody will see to. -/
theorem run_losesNoRestart {config : SupervisorConfig} {env : StartEnv} {as : List Act} {c : Config}
    (h : config.Accepted) (hrun : Run step (fun c a => errorsSurface c = true ∧ keepsDemands c a = true)
      (Config.start config env) as c) : c.LosesNoRestart := by
  have htrace : (SupervisorRuntime.new config env).trace = [] := (h.fresh env).trace
  refine (hrun.invariant_of (I := Config.Keeping) (J := fun c => c.Sane ∧ c.Halting)
    (fun _ _ h' => ⟨run_sane h h', run_halting h h'⟩) ⟨?_, ?_⟩
    fun c a c' hJ hI hok hstep => hI.step hJ.1 hJ.2 hok.1 hok.2 hstep).losesNoRestart
  · simp [Config.start, SupervisorRuntime.Owing, htrace, restartsDue]
  · simp [Config.start, htrace, restartsDue]

/-! ### An exit consumed by a detachment -/

/-- The removal of `a` times out, and its detachment consumes the failure of `b`. -/
def lostActs : List Act :=
  [.run .go, .send (.removeChild "a" 0), .run (.command 3), .tick (5 * NANOS_PER_SEC) 0, .run .timer,
   .finish 1 (.returned (.error "failed")), .run .go, .run (.join 1), .run .timer, .resume, .resume,
   .resume, .resume, .resume]

/-- The main loop waits again, and nothing will restart `b`. -/
theorem lost_restart_reached : reuseConfig.Accepted ∧
    ∃ c, AnyRun step (Config.start reuseConfig ⟨false, 0, 0⟩) lostActs c ∧ ¬ c.LosesNoRestart := by
  have hex : ∃ c, AnyRun step (Config.start reuseConfig ⟨false, 0, 0⟩) lostActs c ∧
      (c.ctrl.atSelect, c.rt.state, restartsDue c.rt.trace) = (true, .running, [⟨1, 1, 0⟩]) :=
    anyRun_of_exec (by decide +kernel)
  obtain ⟨c, hrun, hc⟩ := hex
  simp only [Prod.mk.injEq] at hc
  refine ⟨reuseConfig_accepted, c, hrun, fun h => ?_⟩
  have hnil := h hc.1 hc.2.1
  rw [hc.2.2] at hnil
  cases hnil

/-- A failure of `b` that the removal of `a` consumes itself is followed by its restart. -/
theorem run_losesNoRestart_removal : ∃ c : Config, spawnedKeys c.rt.trace = [0, 1, 2, 1] ∧
    c.LosesNoRestart := by
  have hex : ∃ c, Run step (fun c a => (errorsSurface c && keepsDemands c a) = true)
      (Config.start reuseConfig ⟨false, 0, 0⟩)
      [.run .go, .send (.removeChild "a" 0), .run (.command 3), .finish 1 (.returned (.error "failed")),
        .run (.join 1), .tick (5 * NANOS_PER_SEC) 0, .run .timer, .resume, .resume, .resume, .resume,
        .run .timer, .run .go, .run .timer, .resume, .resume, .resume, .resume, .resume] c ∧
      spawnedKeys c.rt.trace = [0, 1, 2, 1] := run_of_execIf_map (by decide +kernel)
  obtain ⟨c, hrun, hc⟩ := hex
  refine ⟨c, hc, run_losesNoRestart reuseConfig_accepted (hrun.mono fun c a hok => ?_)⟩
  exact (Bool.and_eq_true _ _).mp hok

end TokioSupervisor
