import TokioSupervisor.Runtime.Start

/-!
# What an update logs

`Logs c a c' rt rt' b` says why an update from `rt` to `rt'` in the step from `c` to `c'` may log the
action `b`; `Update.logs` says that the trace grows by such actions only. The properties about single
actions go by cases on `Logs`.
-/

namespace TokioSupervisor
open Lib SupervisorRuntime

/-! ### Growing traces -/

/-- `new` is `old` with actions in `P` in front. -/
def Grown (P : Action → Prop) (old new : List Action) : Prop :=
  ∃ l, new = l ++ old ∧ ∀ b ∈ l, P b

namespace Grown
variable {P Q : Action → Prop} {old mid new : List Action}

theorem refl (P : Action → Prop) (l : List Action) : Grown P l l := ⟨[], rfl, nofun⟩

theorem cons {b : Action} (h : Grown P old new) (hb : P b) : Grown P old (b :: new) := by
  obtain ⟨l, rfl, hl⟩ := h
  exact ⟨b :: l, rfl, by simpa using ⟨hb, hl⟩⟩

theorem append (l : List Action) (hl : ∀ b ∈ l, P b) : Grown P old (l ++ old) := ⟨l, rfl, hl⟩

theorem trans (h₁ : Grown P old mid) (h₂ : Grown P mid new) : Grown P old new := by
  obtain ⟨l₁, rfl, hP₁⟩ := h₁
  obtain ⟨l₂, rfl, hP₂⟩ := h₂
  refine ⟨l₂ ++ l₁, (List.append_assoc ..).symm, fun b hb => ?_⟩
  rcases List.mem_append.1 hb with hb | hb
  · exact hP₂ b hb
  · exact hP₁ b hb

theorem mem {b : Action} (h : Grown P old new) (hb : b ∈ new) : b ∈ old ∨ P b := by
  obtain ⟨l, rfl, hP⟩ := h
  exact (List.mem_append.1 hb).symm.imp_right (hP b)

/-- A projection that the new actions do not have is unchanged. -/
theorem filterMap_eq {β : Type} {f : Action → Option β} (h : Grown P old new)
    (hf : ∀ b, P b → f b = none) : new.filterMap f = old.filterMap f := by
  obtain ⟨l, rfl, hP⟩ := h
  rw [List.filterMap_append, List.filterMap_eq_nil_iff.2 fun b hb => hf b (hP b hb), List.nil_append]

end Grown

/-! ### Why an action is logged -/

/-- The events about the life of a child. -/
def Action.life : Action → Bool
  | .event _ (.childStarted ..) | .event _ (.childExited ..) | .event _ (.childRestarted ..)
  | .event _ (.childRemoved ..) => true
  | _ => false

/-- An update of `rt` that spawns a task for the entry `e` at `key`. -/
inductive Spawns (c : Config) (rt : SupervisorRuntime) (key : ChildKey) :
    ChildEntry → SupervisorRuntime → Prop
  | started {e : ChildEntry} {k : Stack .run} (he : rt.children.get key = some e)
      (he₀ : c.rt.children.get key = some e) (hc : c.ctrl = .await .runStart k) :
      Spawns c rt key e (rt.spawned key e)
  | restarted {e : ChildEntry} (he : rt.children.get key = some e) (hm : e.membership = .active)
      (hc : c.ctrl ≠ .await .runStart .nil) : Spawns c rt key e (rt.restarted key e)
  | added {child : ChildSpec} (hv : rt.children.vacant key = true)
      (hh : ∃ reply, Handles c (.addChild child reply)) :
      Spawns c rt key (rt.newEntry child) (rt.added key child)

/-- An update of `rt` that consumes the join of `t`, and whether it accepts it. -/
inductive Joins (rt : SupervisorRuntime) (t : Task) : Bool → SupervisorRuntime → Prop
  | ignored : Joins rt t false (rt.ignored t)
  | exited {e : ChildEntry} {outcome : TaskOutcome} : Joins rt t true (rt.exited t e outcome)

inductive Logs (c : Config) (a : Act) (c' : Config) (rt rt' : SupervisorRuntime) : Action → Prop
  | plain {b : Action} (hb : b.plain = true) : Logs c a c' rt rt' b
  | life {b : Action} (hb : b.life = true) : Logs c a c' rt rt' b
  | spawned {key : ChildKey} {e : ChildEntry} (h : Spawns c rt key e rt') :
      Logs c a c' rt rt' (.spawned key e.instanceId e.nextGeneration rt.joinSet.nextId)
  | joined {t : Task} {accepted : Bool} (ht : t ∈ rt.joinSet.tasks) (h : Joins rt t accepted rt') :
      Logs c a c' rt rt' (.joined t.id t.info accepted)
  | exited {t : Task} {e : ChildEntry} {outcome : TaskOutcome} (hrt : rt = c.rt)
      (ha : a = .run (.join t.id)) (hf : rt.Finished t outcome) (hc : rt.Current t.info e) :
      Logs c a c' rt rt' (.exited t.info.key e.instanceId t.info.generation outcome.status
        (rt.demandsRestart e outcome.status))
  | truncated : Logs c a c' rt rt' .truncated
  | handled {cmd : SupervisorCommand} {rest : List SupervisorCommand}
      (hq : rt.commandRx.queue = cmd :: rest)
      (hrt : rt' = (rt.received rest).log (.handled cmd.reply)) :
      Logs c a c' rt rt' (.handled cmd.reply)
  | exceeded (hc : c'.ctrl.erring = some .restartIntensityExceeded) :
      Logs c a c' rt rt' (.event none .restartIntensityExceeded)
  | dropped {reply : Nat} (hc : c'.ctrl.ended = true) : Logs c a c' rt rt' (.unavailable reply)
  | refused {reply : Nat} (hc : rt.commandRx.closed = true) : Logs c a c' rt rt' (.unavailable reply)
  | requested (reply : Nat) {key : ChildKey} {e : ChildEntry} (he : rt.children.get key = some e)
      (hm : e.membership = .active) : Logs c a c' rt rt' (.removalRequested reply e.instanceId)
  | tokenCancelled {key : ChildKey} {e : ChildEntry} (he : rt.children.get key = some e)
      (hm : e.membership = .removing) : Logs c a c' rt rt' (.tokenCancelled e.instanceId)
  | groupCancelled (hd : DrainCause c a) : Logs c a c' rt rt' .groupCancelled
  | aborted {key : ChildKey} {e : ChildEntry} (he : rt.children.get key = some e)
      (hc : AbortCause c a key e) : Logs c a c' rt rt' (.aborted e.instanceId)
  /-- A stopped child goes in the very step that asks for it. -/
  | removed (reply : Nat) {key : ChildKey} {e : ChildEntry}
      (hrt : rt' = (rt.requested reply key e).finalized key e.requested) :
      Logs c a c' rt rt' (.deleted key e.instanceId)
  | deleted {key : ChildKey} {e : ChildEntry} (he : rt.children.get key = some e)
      (hm : e.membership = .removing) : Logs c a c' rt rt' (.deleted key e.instanceId)
  | detached {key : ChildKey} {e : ChildEntry} {reason : DrainReason} {k : Stack .abortAndDetachChild}
      (he : c.rt.children.get key = some e)
      (hc : c.ctrl = .ret (.push (.detachDrain key reason) k) (.ok ())) :
      Logs c a c' rt rt' (.deleted key e.instanceId)

namespace SupervisorRuntime
variable {rt : SupervisorRuntime} {P : Action → Prop} {old : List Action}

theorem subRunning_grown (n : Nat) (h : Grown P old rt.trace) (ht : P .truncated) :
    Grown P old (rt.subRunning n).trace := by
  unfold subRunning
  dsimp only
  split
  · exact h.cons ht
  · exact h

theorem requested_grown (reply : Nat) (key : ChildKey) (e : ChildEntry) (h : Grown P old rt.trace)
    (ht : P .truncated) (hr : P (.removalRequested reply e.instanceId))
    (he : P (.event (some e.instanceId) (.childRemoveRequested e.id))) :
    Grown P old (rt.requested reply key e).trace := by
  have hset : Grown P old (rt.setEntry key e.requested).trace := h
  exact ((subRunning_grown _ hset ht).cons hr).cons he

theorem finalized_grown (key : ChildKey) (e : ChildEntry) (h : Grown P old rt.trace)
    (hd : P (.deleted key e.instanceId))
    (hr : P (.event (some e.instanceId) (.childRemoved e.id))) :
    Grown P old (rt.finalized key e).trace :=
  (h.cons hd).cons hr

theorem spawned_grown (key : ChildKey) (e : ChildEntry) (h : Grown P old rt.trace)
    (hs : P (.spawned key e.instanceId e.nextGeneration rt.joinSet.nextId))
    (hl : ∀ b : Action, b.life = true → P b) : Grown P old (rt.spawned key e).trace :=
  (h.cons hs).cons (hl _ rfl)

theorem restarted_grown (key : ChildKey) (e : ChildEntry) (h : Grown P old rt.trace)
    (hs : P (.spawned key e.instanceId e.nextGeneration rt.joinSet.nextId))
    (hl : ∀ b : Action, b.life = true → P b) : Grown P old (rt.restarted key e).trace :=
  (spawned_grown key e h hs hl).cons (hl _ rfl)

theorem exited_grown (t : Task) (e : ChildEntry) (outcome : TaskOutcome) (h : Grown P old rt.trace)
    (ht : P .truncated) (hj : P (.joined t.id t.info true))
    (hx : P (.exited t.info.key e.instanceId t.info.generation outcome.status
      (rt.demandsRestart e outcome.status)))
    (hl : ∀ b : Action, b.life = true → P b) : Grown P old (rt.exited t e outcome).trace := by
  have hlog : Grown P old ((rt.consumed t).log (.exited t.info.key e.instanceId t.info.generation
      outcome.status ((rt.consumed t).demandsRestart e outcome.status))).trace :=
    (h.cons hj).cons hx
  exact (subRunning_grown _ hlog ht).cons (hl _ rfl)

theorem cancelledChild_grown (e : ChildEntry) (h : Grown P old rt.trace)
    (hc : P (.tokenCancelled e.instanceId)) : Grown P old (rt.cancelledChild e).trace := by
  unfold cancelledChild
  split
  · exact h
  · exact h.cons hc

theorem abortedChild_grown (e : ChildEntry) (h : Grown P old rt.trace)
    (ha : P (.aborted e.instanceId)) : Grown P old (rt.abortedChild e).trace := by
  unfold abortedChild
  split
  · exact h
  · exact h.cons ha

theorem dropReceiver_grown (rt : SupervisorRuntime) (hu : ∀ reply, P (.unavailable reply)) :
    Grown P rt.trace rt.dropReceiver.trace := by
  refine .append _ fun b hb => ?_
  obtain ⟨cmd, -, rfl⟩ := List.mem_map.1 hb
  exact hu _

theorem Wf.cancelRunningChildren_grown (h : rt.Wf) (ht : P .truncated) (hg : P .groupCancelled) :
    Grown P rt.trace rt.cancelRunningChildren.trace := by
  obtain ⟨C, n, heq, -⟩ := h.cancelRunningChildren
  rw [heq]
  have hchildren : Grown P rt.trace ({ rt with children := C } : SupervisorRuntime).trace := .refl P _
  exact (subRunning_grown n hchildren ht).cons hg

end SupervisorRuntime

theorem Update.logs {c c' : Config} {a : Act} {rt rt' : SupervisorRuntime} (h : Update c a c' rt rt')
    (hwf : rt.Wf) : Grown (Logs c a c' rt rt') rt.trace rt'.trace := by
  have hrefl := Grown.refl (Logs c a c' rt rt') rt.trace
  cases h with
  | notes l hl => exact .append l fun b hb => .plain (hl b hb)
  | dropped hc => exact dropReceiver_grown rt fun _ => .dropped hc
  | received hq => exact hrefl.cons (.handled hq rfl)
  | refused reply hc => exact hrefl.cons (.refused hc)
  | exceeded hc => exact hrefl.cons (.exceeded hc)
  | requested reply he hm _ _ _ _ =>
    exact requested_grown _ _ _ hrefl .truncated (.requested reply he hm) (.plain rfl)
  | @removed key e reply he hm _ _ _ =>
    exact finalized_grown _ _ (requested_grown _ _ _ hrefl .truncated (.requested reply he hm)
      (.plain rfl)) (@Logs.removed c a c' rt _ reply key e rfl) (.life rfl)
  | cancelled he hm => exact cancelledChild_grown _ hrefl (.tokenCancelled he hm)
  | aborted he hc => exact abortedChild_grown _ hrefl (.aborted he hc)
  | ignored hf _ => exact hrefl.cons (.joined hf.mem .ignored)
  | exited hrt ha hf hc =>
    exact exited_grown _ _ _ hrefl .truncated (.joined hf.mem .exited) (.exited hrt ha hf hc)
      fun _ => .life
  | finalized he hm _ => exact finalized_grown _ _ hrefl (.deleted he hm) (.life rfl)
  | detached he hrt hc => exact finalized_grown _ _ hrefl (.detached (hrt ▸ he) hc) (.life rfl)
  | started he he₀ hc => exact spawned_grown _ _ hrefl (.spawned (.started he he₀ hc)) fun _ => .life
  | @added key child hv _ _ hh =>
    have hins : Grown (Logs c a c' rt (rt.added key child)) rt.trace (rt.inserted key child).trace := hrefl
    exact spawned_grown _ _ hins (.spawned (.added hv hh)) fun _ => .life
  | respawned he hm _ hc =>
    have hne : c.ctrl ≠ .await .runStart .nil := by rw [hc]; exact nofun
    exact restarted_grown _ _ hrefl (.spawned (.restarted he hm hne)) fun _ => .life
  | @groupRespawned key e _ he _ hr hc =>
    have hne : c.ctrl ≠ .await .runStart .nil := by rw [hc]; exact nofun
    have hm : e.membership = .active := by
      simp only [ChildEntry.respawns, Bool.and_eq_true, beq_iff_eq] at hr
      exact hr.1
    exact restarted_grown _ _ hrefl (.spawned (.restarted he hm hne)) fun _ => .life
  | cancelledAll hd => exact hwf.cancelRunningChildren_grown .truncated (.groupCancelled hd)
  | _ => exact hrefl

/-! ### Spawned tasks -/

def Action.spawn : Action → Option (TaskMeta × TaskId)
  | .spawned key i g task => some (⟨key, i, g⟩, task)
  | _ => none

/-- The tasks spawned so far with their metadata, newest first. -/
def spawns (trace : List Action) : List (TaskMeta × TaskId) := trace.filterMap Action.spawn

theorem Spawns.spawns_eq {c : Config} {rt rt' : SupervisorRuntime} {key : ChildKey} {e : ChildEntry}
    (h : Spawns c rt key e rt') : spawns rt'.trace =
      (⟨key, e.instanceId, e.nextGeneration⟩, rt.joinSet.nextId) :: spawns rt.trace := by
  cases h <;> rfl

theorem Update.spawns_eq {c c' : Config} {a : Act} {rt rt' : SupervisorRuntime}
    (h : Update c a c' rt rt') (hwf : rt.Wf) :
    spawns rt'.trace = spawns rt.trace ∨ ∃ key e, Spawns c rt key e rt' := by
  by_cases hspawn : ∃ key e, Spawns c rt key e rt'
  · exact .inr hspawn
  · refine .inl ((h.logs hwf).filterMap_eq fun b hl => ?_)
    cases hl with
    | spawned hs => exact absurd ⟨_, _, hs⟩ hspawn
    | plain hb | life hb => cases b <;> first | rfl | cases hb
    | _ => rfl

/-! ### Joined tasks -/

def Action.join : Action → Option TaskId
  | .joined task _ _ => some task
  | _ => none

/-- The tasks whose joins were consumed, newest first. -/
def joins (trace : List Action) : List TaskId := trace.filterMap Action.join

theorem Joins.joinSet {rt rt' : SupervisorRuntime} {t : Task} {accepted : Bool}
    (h : Joins rt t accepted rt') : rt'.joinSet = (rt.taken t).joinSet := by
  cases h <;> rfl

theorem Joins.joins_eq {rt rt' : SupervisorRuntime} {t : Task} {accepted : Bool}
    (h : Joins rt t accepted rt') : joins rt'.trace = t.id :: joins rt.trace := by
  cases h with
  | ignored => rfl
  | @exited e outcome =>
    have hlog : joins ((rt.consumed t).log (.exited t.info.key e.instanceId t.info.generation
        outcome.status ((rt.consumed t).demandsRestart e outcome.status))).trace =
        t.id :: joins rt.trace := rfl
    have hgrown := subRunning_grown (P := fun b => b.join = none) (if e.counts then 1 else 0)
      (.refl _ ((rt.consumed t).log (.exited t.info.key e.instanceId t.info.generation outcome.status
        ((rt.consumed t).demandsRestart e outcome.status))).trace) rfl
    rw [← hlog]
    exact (hgrown.cons (b := .event (some e.instanceId) (.childExited e.id t.info.generation
      outcome.status.view)) rfl).filterMap_eq fun _ hb => hb

theorem Update.joins_eq {c c' : Config} {a : Act} {rt rt' : SupervisorRuntime}
    (h : Update c a c' rt rt') (hwf : rt.Wf) :
    joins rt'.trace = joins rt.trace ∨ ∃ t ∈ rt.joinSet.tasks, ∃ accepted, Joins rt t accepted rt' := by
  by_cases hjoin : ∃ t ∈ rt.joinSet.tasks, ∃ accepted, Joins rt t accepted rt'
  · exact .inr hjoin
  · refine .inl ((h.logs hwf).filterMap_eq fun b hl => ?_)
    cases hl with
    | joined ht hj => exact absurd ⟨_, ht, _, hj⟩ hjoin
    | plain hb | life hb => cases b <;> first | rfl | cases hb
    | _ => rfl

end TokioSupervisor
