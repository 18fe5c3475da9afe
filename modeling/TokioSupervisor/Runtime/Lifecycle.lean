import TokioSupervisor.Runtime.Removing
import TokioSupervisor.Runtime.Instances

/-!
# The life of a child in the event stream

The events about one instance, from its insertion to its removal, come in turn: started, exited,
started in the next generation, restarted, exited, and so on. Of a present child they tell its
generation and whether it is stopped (`ChildEntry.lived`), which each update keeps true. What breaks
this is a restart that finds another child at its key, one that runs or may not be restarted.
-/

namespace TokioSupervisor
open Lib SupervisorRuntime

/-! ### Lives -/

/-- The events about one child, without its id. -/
inductive LifeEvent
  | started (generation : Nat)
  | exited (generation : Nat)
  | restarted (oldGeneration newGeneration : Nat)
  | removed
deriving DecidableEq, Repr

def LifeEvent.starts : LifeEvent → Bool
  | .started _ => true
  | _ => false

def SupervisorEvent.lifeEvent : SupervisorEvent → Option LifeEvent
  | .childStarted _ generation => some (.started generation)
  | .childExited _ generation _ => some (.exited generation)
  | .childRestarted _ oldGeneration newGeneration => some (.restarted oldGeneration newGeneration)
  | .childRemoved _ => some .removed
  | _ => none

def Action.lifeEvent (i : Nat) : Action → Option LifeEvent
  | .event (some j) ev => if j = i then ev.lifeEvent else none
  | _ => none

/-- The life of instance `i`, oldest event first. -/
def life (i : Nat) (trace : List Action) : List LifeEvent :=
  (trace.filterMap (Action.lifeEvent i)).reverse

/-- The life of a child that runs in this generation. -/
def lifeUpTo : Nat → List LifeEvent
  | 0 => [.started 0]
  | g + 1 => lifeUpTo g ++ [.exited g, .started (g + 1), .restarted g (g + 1)]

/-- The events come in turn, up to some point, after which the child may be removed. -/
def InTurn (l : List LifeEvent) : Prop :=
  ∃ g w, w <+: lifeUpTo g ∧ (l = w ∨ l = w ++ [.removed])

/-- What the events about a present child are. -/
def ChildEntry.lived (e : ChildEntry) : List LifeEvent :=
  if e.runtime.hasStarted then
    lifeUpTo e.runtime.generation ++
      if e.runtime.state = .stopped then [.exited e.runtime.generation] else []
  else []

theorem ChildEntry.lived_prefix (e : ChildEntry) : ∃ g, e.lived <+: lifeUpTo g := by
  refine ⟨e.runtime.generation + 1, ?_⟩
  unfold lived
  split
  · rw [lifeUpTo, List.prefix_append_right_inj]
    split
    · exact ⟨_, rfl⟩
    · exact List.nil_prefix
  · exact List.nil_prefix

theorem ChildEntry.lived_inTurn (e : ChildEntry) : InTurn e.lived := by
  obtain ⟨g, hg⟩ := e.lived_prefix
  exact ⟨g, _, hg, .inl rfl⟩

theorem ChildEntry.lived_removed (e : ChildEntry) : InTurn (e.lived ++ [.removed]) := by
  obtain ⟨g, hg⟩ := e.lived_prefix
  exact ⟨g, _, hg, .inr rfl⟩

theorem lifeUpTo_head (g : Nat) : ∃ l, lifeUpTo (g + 1) = .started 0 :: .exited 0 :: l := by
  induction g with
  | zero => exact ⟨_, rfl⟩
  | succ g ih =>
    obtain ⟨l, hl⟩ := ih
    exact ⟨l ++ [.exited (g + 1), .started (g + 2), .restarted (g + 1) (g + 2)], by
      rw [lifeUpTo, hl, List.cons_append, List.cons_append]⟩

/-- The second event of a life is an exit, or the removal. -/
theorem InTurn.second {l : List LifeEvent} {x y : LifeEvent} (h : InTurn (x :: y :: l)) :
    y = .exited 0 ∨ y = .removed := by
  obtain ⟨g, w, hw, heq⟩ := h
  have hlong {w : List LifeEvent} {x y : LifeEvent} {l : List LifeEvent} (hw : w <+: lifeUpTo g)
      (heq : w = x :: y :: l) : y = .exited 0 := by
    subst heq
    cases g with
    | zero => exact absurd hw.length_le (by simp [lifeUpTo])
    | succ g =>
      obtain ⟨l', hl'⟩ := lifeUpTo_head g
      rw [hl', List.cons_prefix_cons, List.cons_prefix_cons] at hw
      exact hw.2.1
  rcases heq with heq | heq
  · exact .inl (hlong hw heq.symm)
  · cases w with
    | nil => cases heq
    | cons z w =>
      cases w with
      | nil =>
        cases heq
        exact .inr rfl
      | cons z' w =>
        cases heq
        exact .inl (hlong hw rfl)

/-! ### Conditions -/

/-- A restart spawns a child that may be restarted, in a new generation. -/
def restartsInTurn (c : Config) : Bool :=
  match c.ctrl with
  | .ret (.push (.oneForOneDelay key _) _) (.ok true) =>
    (c.rt.children.get key).all fun e => e.membership != .active ||
      e.runtime.spec.restart != .temporary && decide (e.runtime.generation < U64_MAX)
  | .ret (.push .oneForAllDrain _) (.ok ()) =>
    c.rt.children.iter.all fun e => !e.respawns || decide (e.runtime.generation < U64_MAX)
  | _ => true

/-- What the run relies on so that the events about each child come in turn. -/
def keepsLives (c : Config) : Bool := restartsStopped c && instancesLeft c && restartsInTurn c

theorem keepsLives_iff {c : Config} : keepsLives c = true ↔
    restartsStopped c = true ∧ instancesLeft c = true ∧ restartsInTurn c = true := by
  simp only [keepsLives, Bool.and_eq_true, and_assoc]

/-! ### What an update adds to the lives -/

theorem Action.lifeEvent_of_plain {b : Action} (h : b.plain = true) (i : Nat) :
    b.lifeEvent i = none := by
  cases b with
  | event owner ev =>
    have hev : ev.lifeEvent = none := by
      cases ev <;> first | rfl | cases h
    cases owner with
    | none => rfl
    | some j => simp only [lifeEvent, hev, ite_self]
  | _ => rfl

theorem life_cons (i : Nat) (b : Action) (trace : List Action) :
    life i (b :: trace) = life i trace ++ (b.lifeEvent i).toList := by
  unfold life
  cases hb : b.lifeEvent i with
  | none => rw [List.filterMap_cons_none hb, Option.toList_none, List.append_nil]
  | some x => rw [List.filterMap_cons_some hb, List.reverse_cons, Option.toList_some]

theorem life_of_grown {i : Nat} {old new : List Action}
    (h : Grown (fun b => b.lifeEvent i = none) old new) : life i new = life i old := by
  unfold life
  rw [h.filterMap_eq fun _ hb => hb]

/-- The entry `e'` is `e` later on, with nothing new in its life. -/
structure ChildEntry.Alike (e e' : ChildEntry) : Prop where
  instanceId : e'.instanceId = e.instanceId
  restart : e'.runtime.spec.restart = e.runtime.spec.restart
  generation : e'.runtime.generation = e.runtime.generation
  hasStarted : e'.runtime.hasStarted = e.runtime.hasStarted
  stopped : e'.runtime.state = .stopped ↔ e.runtime.state = .stopped

namespace ChildEntry.Alike
variable {e e' : ChildEntry}

theorem refl (e : ChildEntry) : e.Alike e := ⟨rfl, rfl, rfl, rfl, .rfl⟩

theorem of_same (h : e.Same e') : e.Alike e' :=
  ⟨h.instanceId, by rw [h.spec], h.generation, h.hasStarted, by rw [h.state]⟩

theorem terminated (e : ChildEntry) (g : Nat) (b : Bool) : e.Alike (e.terminated g b) :=
  ⟨by simp, by simp, by simp, by simp, by simp⟩

theorem requested (e : ChildEntry) : e.Alike e.requested := by
  refine ⟨rfl, rfl, rfl, rfl, ?_⟩
  cases hs : e.runtime.state <;> simp [ChildEntry.requested, RuntimeChildState.isActive, hs]

theorem stopping (h : e.Ok) : e.Alike e.stopping := by
  unfold ChildEntry.stopping
  split
  · rename_i hc
    refine ⟨rfl, rfl, rfl, rfl, ⟨nofun, fun hs => ?_⟩⟩
    rw [h.counts_iff, hs] at hc
    rcases hc with hc | hc <;> cases hc
  · exact .refl e

theorem lived (h : e.Alike e') : e'.lived = e.lived := by
  simp only [ChildEntry.lived, h.generation, h.hasStarted, h.stopped]

end ChildEntry.Alike

/-! ### The invariant -/

/-- The events about each child are in turn, and tell where it is. -/
structure SupervisorRuntime.Lives (rt : SupervisorRuntime) : Prop where
  entryLt : ∀ key e, rt.children.get key = some e → e.instanceId < rt.nextChildInstance
  entryInj : ∀ k₁ e₁ k₂ e₂, rt.children.get k₁ = some e₁ → rt.children.get k₂ = some e₂ →
    e₁.instanceId = e₂.instanceId → k₁ = k₂
  unborn : ∀ i, rt.nextChildInstance ≤ i → life i rt.trace = []
  inTurn : ∀ i, InTurn (life i rt.trace)
  lived : ∀ key e, rt.children.get key = some e → life e.instanceId rt.trace = e.lived
  temporary : ∀ key e, rt.children.get key = some e → e.runtime.spec.restart = .temporary →
    e.runtime.generation = 0
  fresh : ∀ key e, rt.children.get key = some e → e.runtime.hasStarted = false →
    e.runtime.generation = 0 ∧ e.runtime.state = .stopped

namespace SupervisorRuntime.Lives
variable {rt rt' : SupervisorRuntime} {key : ChildKey} {e : ChildEntry}

theorem keep (h : rt.Lives) (hl : ∀ i, life i rt'.trace = life i rt.trace)
    (hn : rt'.nextChildInstance = rt.nextChildInstance)
    (hfrom : ∀ key e', rt'.children.get key = some e' →
      ∃ e, rt.children.get key = some e ∧ e.Alike e') : rt'.Lives := by
  refine ⟨fun key e' he' => ?_, fun k₁ e₁' k₂ e₂' h₁ h₂ heq => ?_, fun i hi => ?_, fun i => ?_,
    fun key e' he' => ?_, fun key e' he' ht => ?_, fun key e' he' hst => ?_⟩
  · obtain ⟨e, he, ha⟩ := hfrom key e' he'
    rw [ha.instanceId, hn]
    exact h.entryLt key e he
  · obtain ⟨e₁, he₁, ha₁⟩ := hfrom k₁ e₁' h₁
    obtain ⟨e₂, he₂, ha₂⟩ := hfrom k₂ e₂' h₂
    exact h.entryInj k₁ e₁ k₂ e₂ he₁ he₂ (ha₁.instanceId.symm.trans (heq.trans ha₂.instanceId))
  · rw [hl]
    exact h.unborn i (hn ▸ hi)
  · rw [hl]
    exact h.inTurn i
  · obtain ⟨e, he, ha⟩ := hfrom key e' he'
    rw [hl, ha.instanceId, ha.lived]
    exact h.lived key e he
  · obtain ⟨e, he, ha⟩ := hfrom key e' he'
    rw [ha.generation]
    exact h.temporary key e he (ha.restart ▸ ht)
  · obtain ⟨e, he, ha⟩ := hfrom key e' he'
    rw [ha.generation, ha.stopped]
    exact h.fresh key e he (ha.hasStarted ▸ hst)

theorem set (h : rt.Lives) {e' : ChildEntry} {w : List LifeEvent} (he : rt.children.get key = some e)
    (hl : ∀ i, life i rt'.trace = life i rt.trace ++ if e.instanceId = i then w else [])
    (hn : rt'.nextChildInstance = rt.nextChildInstance) (hget : rt'.children.get key = some e')
    (hne : ∀ k, k ≠ key → rt'.children.get k = rt.children.get k)
    (hi : e'.instanceId = e.instanceId) (hw : e'.lived = e.lived ++ w)
    (ht : e'.runtime.spec.restart = .temporary → e'.runtime.generation = 0)
    (hz : e'.runtime.hasStarted = false → e'.runtime.generation = 0 ∧ e'.runtime.state = .stopped) :
    rt'.Lives := by
  have hfrom {k : ChildKey} {f : ChildEntry} (hf : rt'.children.get k = some f) :
      k = key ∧ f = e' ∨ k ≠ key ∧ rt.children.get k = some f := by
    by_cases hk : k = key
    · subst hk
      exact .inl ⟨rfl, Option.some.inj (hf.symm.trans hget)⟩
    · exact .inr ⟨hk, hne k hk ▸ hf⟩
  have hnum {k : ChildKey} {f : ChildEntry} (hf : rt'.children.get k = some f) :
      ∃ g, rt.children.get k = some g ∧ f.instanceId = g.instanceId := by
    rcases hfrom hf with ⟨rfl, rfl⟩ | ⟨-, hf⟩
    · exact ⟨e, he, hi⟩
    · exact ⟨f, hf, rfl⟩
  refine ⟨fun k f hf => ?_, fun k₁ f₁ k₂ f₂ h₁ h₂ heq => ?_, fun i hle => ?_, fun i => ?_,
    fun k f hf => ?_, fun k f hf hr => ?_, fun k f hf hst => ?_⟩
  · obtain ⟨g, hg, heq⟩ := hnum hf
    rw [heq, hn]
    exact h.entryLt k g hg
  · obtain ⟨g₁, hg₁, heq₁⟩ := hnum h₁
    obtain ⟨g₂, hg₂, heq₂⟩ := hnum h₂
    exact h.entryInj k₁ g₁ k₂ g₂ hg₁ hg₂ (heq₁.symm.trans (heq.trans heq₂))
  · have hne' : e.instanceId ≠ i := fun heq => by
      have := h.entryLt key e he
      omega
    rw [hl, if_neg hne', List.append_nil]
    exact h.unborn i (hn ▸ hle)
  · rw [hl]
    by_cases heq : e.instanceId = i
    · subst heq
      rw [if_pos rfl, h.lived key e he, ← hw]
      exact e'.lived_inTurn
    · rw [if_neg heq, List.append_nil]
      exact h.inTurn i
  · rw [hl]
    rcases hfrom hf with ⟨rfl, rfl⟩ | ⟨hk, hf⟩
    · rw [hi, if_pos rfl, h.lived k e he, hw]
    · have hne' : e.instanceId ≠ f.instanceId := fun heq => hk (h.entryInj k f key e hf he heq.symm)
      rw [if_neg hne', List.append_nil]
      exact h.lived k f hf
  · rcases hfrom hf with ⟨rfl, rfl⟩ | ⟨-, hf⟩
    · exact ht hr
    · exact h.temporary k f hf hr
  · rcases hfrom hf with ⟨rfl, rfl⟩ | ⟨-, hf⟩
    · exact hz hst
    · exact h.fresh k f hf hst

theorem inserted (h : rt.Lives) (hk : rt.children.vacant key = true)
    (hlt : rt.nextChildInstance < U64_MAX) (child : ChildSpec) : (rt.inserted key child).Lives := by
  have hnext : (rt.inserted key child).nextChildInstance = rt.nextChildInstance + 1 :=
    saturatingSucc_of_lt hlt
  have hget : ∀ k, (rt.inserted key child).children.get k =
      if key = k then some (rt.newEntry child) else rt.children.get k := Slab.get_insert hk _
  have hnew : (rt.newEntry child).instanceId = rt.nextChildInstance := rfl
  have hfrom {k : ChildKey} {f : ChildEntry} (hf : (rt.inserted key child).children.get k = some f) :
      k = key ∧ f = rt.newEntry child ∨ rt.children.get k = some f := by
    rw [hget] at hf
    split at hf
    · rename_i hkk
      exact .inl ⟨hkk.symm, (Option.some.inj hf).symm⟩
    · exact .inr hf
  refine ⟨fun k f hf => ?_, fun k₁ f₁ k₂ f₂ h₁ h₂ heq => ?_, fun i hle => ?_, h.inTurn,
    fun k f hf => ?_, fun k f hf hr => ?_, fun k f hf hst => ?_⟩
  · rw [hnext]
    rcases hfrom hf with ⟨rfl, rfl⟩ | hf
    · exact Nat.lt_succ_self _
    · exact Nat.lt_succ_of_lt (h.entryLt k f hf)
  · rcases hfrom h₁ with ⟨rfl, rfl⟩ | h₁' <;> rcases hfrom h₂ with ⟨rfl, rfl⟩ | h₂'
    · rfl
    · have := h.entryLt k₂ f₂ h₂'
      omega
    · have := h.entryLt k₁ f₁ h₁'
      omega
    · exact h.entryInj k₁ f₁ k₂ f₂ h₁' h₂' heq
  · exact h.unborn i (by omega)
  · rcases hfrom hf with ⟨rfl, rfl⟩ | hf
    · exact h.unborn _ le_rfl
    · exact h.lived k f hf
  · rcases hfrom hf with ⟨rfl, rfl⟩ | hf
    · rfl
    · exact h.temporary k f hf hr
  · rcases hfrom hf with ⟨rfl, rfl⟩ | hf
    · exact ⟨rfl, rfl⟩
    · exact h.fresh k f hf hst

theorem deleted (h : rt.Lives) (he : rt.children.get key = some e) : (rt.finalized key e).Lives := by
  have hl (i : Nat) : life i (rt.finalized key e).trace =
      life i rt.trace ++ if e.instanceId = i then [.removed] else [] := by
    have htrace : (rt.finalized key e).trace = .event (some e.instanceId) (.childRemoved e.id) ::
        .deleted key e.instanceId :: rt.trace := rfl
    rw [htrace, life_cons, life_cons]
    by_cases heq : e.instanceId = i <;>
      simp [Action.lifeEvent, SupervisorEvent.lifeEvent, heq]
  have hfrom {k : ChildKey} {f : ChildEntry} (hf : (rt.finalized key e).children.get k = some f) :
      k ≠ key ∧ rt.children.get k = some f := by
    have hf : (rt.children.remove key).get k = some f := hf
    rw [Slab.get_remove] at hf
    split at hf
    · cases hf
    · rename_i hk
      exact ⟨Ne.symm hk, hf⟩
  refine ⟨fun k f hf => h.entryLt k f (hfrom hf).2,
    fun k₁ f₁ k₂ f₂ h₁ h₂ => h.entryInj k₁ f₁ k₂ f₂ (hfrom h₁).2 (hfrom h₂).2,
    fun i hle => ?_, fun i => ?_, fun k f hf => ?_, fun k f hf => h.temporary k f (hfrom hf).2,
    fun k f hf => h.fresh k f (hfrom hf).2⟩
  · have hlt := h.entryLt key e he
    have hle : rt.nextChildInstance ≤ i := hle
    rw [hl, if_neg (by omega), List.append_nil]
    exact h.unborn i hle
  · rw [hl]
    by_cases heq : e.instanceId = i
    · subst heq
      rw [if_pos rfl, h.lived key e he]
      exact e.lived_removed
    · rw [if_neg heq, List.append_nil]
      exact h.inTurn i
  · obtain ⟨hk, hf⟩ := hfrom hf
    rw [hl, if_neg fun heq => hk (h.entryInj k f key e hf he heq.symm), List.append_nil]
    exact h.lived k f hf

theorem requested (h : rt.Lives) (reply : Nat) (he : rt.children.get key = some e) :
    (rt.requested reply key e).Lives := by
  refine h.keep (fun i => life_of_grown ?_) rfl fun k f hf => ?_
  · refine requested_grown reply key e (.refl _ rt.trace) rfl rfl ?_
    simp [Action.lifeEvent, SupervisorEvent.lifeEvent]
  · have hset : (rt.children.set key e.requested).get k = some f := hf
    rw [Slab.get_set he] at hset
    split at hset
    · rename_i hk
      cases hset
      exact ⟨e, hk ▸ he, .requested e⟩
    · exact ⟨f, hset, .refl f⟩

end SupervisorRuntime.Lives

theorem spawned_life (i : Nat) (rt : SupervisorRuntime) (key : ChildKey) (e : ChildEntry) :
    life i (rt.spawned key e).trace =
      life i rt.trace ++ if e.instanceId = i then [.started e.nextGeneration] else [] := by
  have htrace : (rt.spawned key e).trace = .event (some e.instanceId) (.childStarted e.id e.nextGeneration) ::
      .spawned key e.instanceId e.nextGeneration rt.joinSet.nextId :: rt.trace := rfl
  rw [htrace, life_cons, life_cons]
  by_cases heq : e.instanceId = i <;> simp [Action.lifeEvent, SupervisorEvent.lifeEvent, heq]

theorem restarted_life (i : Nat) (rt : SupervisorRuntime) (key : ChildKey) (e : ChildEntry) :
    life i (rt.restarted key e).trace = life i rt.trace ++ if e.instanceId = i then
      [.started e.nextGeneration, .restarted e.runtime.generation e.nextGeneration] else [] := by
  have htrace : (rt.restarted key e).trace = .event (some e.instanceId)
      (.childRestarted e.id e.runtime.generation e.nextGeneration) :: (rt.spawned key e).trace := rfl
  rw [htrace, life_cons, spawned_life]
  by_cases heq : e.instanceId = i <;> simp [Action.lifeEvent, SupervisorEvent.lifeEvent, heq]

theorem exited_life (i : Nat) (rt : SupervisorRuntime) (t : Task) (e : ChildEntry)
    (outcome : TaskOutcome) : life i (rt.exited t e outcome).trace =
      life i rt.trace ++ if e.instanceId = i then [.exited t.info.generation] else [] := by
  have hgrown : Grown (fun b => b.lifeEvent i = none) rt.trace
      (((rt.consumed t).log (.exited t.info.key e.instanceId t.info.generation outcome.status
        ((rt.consumed t).demandsRestart e outcome.status))).subRunning (if e.counts then 1 else 0)).trace :=
    subRunning_grown _
      (((Grown.refl (fun b => Action.lifeEvent i b = none) rt.trace).cons rfl).cons rfl) rfl
  have htrace : (rt.exited t e outcome).trace = .event (some e.instanceId)
      (.childExited e.id t.info.generation outcome.status.view) ::
      (((rt.consumed t).log (.exited t.info.key e.instanceId t.info.generation outcome.status
        ((rt.consumed t).demandsRestart e outcome.status))).subRunning (if e.counts then 1 else 0)).trace := rfl
  rw [htrace, life_cons, life_of_grown hgrown]
  by_cases heq : e.instanceId = i <;> simp [Action.lifeEvent, SupervisorEvent.lifeEvent, heq]

theorem SupervisorRuntime.Lives.spawned {rt : SupervisorRuntime} {key : ChildKey} {e : ChildEntry}
    (h : rt.Lives) (he : rt.children.get key = some e) (hst : e.runtime.hasStarted = false) :
    (rt.spawned key e).Lives := by
  have hzero := (h.fresh key e he hst).1
  have hnext : e.nextGeneration = 0 := by rw [ChildEntry.nextGeneration, hst, if_neg Bool.false_ne_true, hzero]
  refine h.set he (fun i => spawned_life i rt key e) rfl (spawned_get he)
    (fun k hk => spawned_get_ne he hk) rfl ?_ (fun _ => hnext) fun hf => by cases hf
  simp [ChildEntry.lived, ChildEntry.started, hst, hnext, lifeUpTo]

theorem SupervisorRuntime.Lives.restarted {rt : SupervisorRuntime} {key : ChildKey} {e : ChildEntry}
    (h : rt.Lives) (he : rt.children.get key = some e) (hst : e.runtime.hasStarted = true)
    (hs : e.runtime.state = .stopped) (ht : e.runtime.spec.restart ≠ .temporary)
    (hg : e.runtime.generation < U64_MAX) : (rt.restarted key e).Lives := by
  have hnext : e.nextGeneration = e.runtime.generation + 1 := by
    rw [ChildEntry.nextGeneration, hst, if_pos rfl, saturatingSucc_of_lt hg]
  refine h.set he (fun i => restarted_life i rt key e) rfl (spawned_get he)
    (fun k hk => spawned_get_ne he hk) rfl ?_ (fun hr => absurd hr ht) fun hf => by cases hf
  simp [ChildEntry.lived, ChildEntry.started, hst, hs, hnext, lifeUpTo]

theorem SupervisorRuntime.Lives.exited {rt : SupervisorRuntime} {t : Task} {e : ChildEntry}
    (h : rt.Lives) (hc : rt.Current t.info e) (hs : e.runtime.state ≠ .stopped)
    (outcome : TaskOutcome) : (rt.exited t e outcome).Lives := by
  have hst : e.runtime.hasStarted = true := by
    by_contra hno
    exact hs (h.fresh _ e hc.get (by simpa using hno)).2
  refine h.set hc.get (fun i => exited_life i rt t e outcome) rfl (exited_get hc outcome)
    (fun k hk => Slab.get_set_ne hc.get _ hk) rfl ?_ (h.temporary _ e hc.get)
    fun hno => absurd (hst.symm.trans hno) nofun
  simp [ChildEntry.lived, ChildEntry.stopped, hst, hs, hc.generation]

theorem Update.lives {c c' : Config} {a : Act} {rt rt' : SupervisorRuntime}
    (h : Update c a c' rt rt') (hs : c.Sane) (hok : keepsLives c = true)
    (hstart : c.ctrl = .await .runStart .nil → c.Untouched)
    (hgroup : c.ctrl.GroupDrained → c.rt.Quiet) (hown : c.rt.Owned True) (hwf : rt.Wf)
    (hI : rt.Lives) : rt'.Lives := by
  obtain ⟨hstopped, hleft, hturn⟩ := keepsLives_iff.1 hok
  have hsame (hl : ∀ i, Grown (fun b => b.lifeEvent i = none) rt.trace rt'.trace)
      (hn : rt'.nextChildInstance = rt.nextChildInstance) (hc : rt'.children = rt.children) :
      rt'.Lives :=
    hI.keep (fun i => life_of_grown (hl i)) hn fun key e he => ⟨e, hc ▸ he, .refl e⟩
  have hrefl (i : Nat) : Grown (fun b => b.lifeEvent i = none) rt.trace rt.trace := .refl _ _
  have hset {key : ChildKey} {e e' : ChildEntry} (he : rt.children.get key = some e) (ha : e.Alike e')
      (hg : rt' = rt.setEntry key e') : rt'.Lives := by
    subst hg
    refine hI.keep (fun _ => rfl) rfl fun k f hf => ?_
    have hf' : (rt.children.set key e').get k = some f := hf
    rw [Slab.get_set he] at hf'
    split at hf'
    · rename_i hk
      cases hf'
      exact ⟨e, hk ▸ he, ha⟩
    · exact ⟨f, hf', .refl f⟩
  cases h with
  | notes l hl =>
    exact hsame (fun i => .append l fun b hb => Action.lifeEvent_of_plain (hl b hb) i) rfl rfl
  | dropped hc => exact hsame (fun i => dropReceiver_grown rt fun _ => rfl) rfl rfl
  | received hq => exact hsame (fun i => (hrefl i).cons rfl) rfl rfl
  | refused reply hc => exact hsame (fun i => (hrefl i).cons rfl) rfl rfl
  | exceeded hc => exact hsame (fun i => (hrefl i).cons rfl) rfl rfl
  | entry he hs' => exact hset he (.of_same hs') rfl
  | terminated g he _ _ => exact hset he (.terminated _ _ _) rfl
  | requested reply he _ _ _ _ _ => exact hI.requested reply he
  | removed reply he _ _ _ _ =>
    exact (hI.requested reply he).deleted (requested_get reply he)
  | cancelled =>
    refine hsame (fun i => cancelledChild_grown _ (hrefl i) rfl) ?_ (cancelledChild_children _)
    unfold SupervisorRuntime.cancelledChild
    split <;> rfl
  | aborted =>
    refine hsame (fun i => abortedChild_grown _ (hrefl i) rfl) ?_ (abortedChild_children _)
    unfold SupervisorRuntime.abortedChild
    split <;> rfl
  | ignored _ _ => exact hsame (fun i => (hrefl i).cons rfl) rfl rfl
  | @exited t e outcome hrt ha hf hc =>
    subst hrt
    have hh := hown.handle_of_current hf.mem hc
    exact hI.exited hc ((hwf.ok hc.get).handle.1 (by rw [hh]; rfl)) outcome
  | finalized he _ _ => exact hI.deleted he
  | detached he _ _ => exact hI.deleted he
  | @started key e k he he₀ hc =>
    cases k with
    | push f k => cases f
    | nil => exact hI.spawned he ((hstart hc).unborn key e he₀).hasStarted
  | @added key child hv _ hn hh =>
    have hins := hI.inserted hv (by rw [hn]; simpa [instancesLeft] using hleft) child
    exact hins.spawned (inserted_get hv child) rfl
  | @respawned key e _ _ he hm hrt hc =>
    subst hrt
    have hstop : e.runtime.state = .stopped := by simpa [restartsStopped, hc, he, hm] using hstopped
    have hturn : e.runtime.spec.restart ≠ .temporary ∧ e.runtime.generation < U64_MAX := by
      simpa [restartsInTurn, hc, he, hm] using hturn
    exact hI.restarted he (hs.started_ret hc key e he) hstop hturn.1 hturn.2
  | @groupRespawned key e _ he he₀ hr hc =>
    have hstop := (hgroup (by rw [hc]; exact .group) _ _ he₀).1
    have hlt : e.runtime.generation < U64_MAX := by
      simp only [restartsInTurn, hc] at hturn
      have hall := List.all_eq_true.1 hturn e (Slab.mem_iter.2 ⟨key, he₀⟩)
      simpa [hr] using hall
    have ht : e.runtime.spec.restart ≠ .temporary := by
      simp only [ChildEntry.respawns, Bool.and_eq_true, bne_iff_ne] at hr
      exact hr.2
    exact hI.restarted he (hs.started_ret hc key e he₀) hstop ht hlt
  | cancelledAll hd =>
    obtain ⟨C, n, heq, hget, -⟩ := hwf.cancelRunningChildren
    refine hI.keep (fun i => life_of_grown (hwf.cancelRunningChildren_grown rfl rfl)) (by rw [heq]; rfl)
      fun key e' he' => ?_
    rw [heq] at he'
    have he' : C.get key = some e' := he'
    rw [hget, Option.map_eq_some_iff] at he'
    obtain ⟨e, he, rfl⟩ := he'
    exact ⟨e, he, .stopping (hwf.ok he)⟩
  | _ => exact hsame hrefl rfl rfl

/-! ### Runs -/

/-- The events about each child are in turn, and a temporary child is started once at most. No event
follows a removal, so this stays true of a child that is gone. -/
structure Config.LivesInTurn (c : Config) : Prop where
  inTurn : ∀ i, InTurn (life i c.rt.trace)
  temporary : ∀ key e, c.rt.children.get key = some e → e.runtime.spec.restart = .temporary →
    (life e.instanceId c.rt.trace).countP LifeEvent.starts ≤ 1

theorem SupervisorRuntime.Lives.livesInTurn {rt : SupervisorRuntime} (h : rt.Lives) (ctrl : Ctrl) :
    Config.LivesInTurn ⟨rt, ctrl⟩ := by
  refine ⟨h.inTurn, fun key e he ht => ?_⟩
  have hl : life e.instanceId rt.trace = e.lived := h.lived key e he
  show (life e.instanceId rt.trace).countP LifeEvent.starts ≤ 1
  rw [hl, ChildEntry.lived, h.temporary key e he ht]
  split
  · split <;> decide
  · exact Nat.zero_le 1

/-- In every run whose restarts find their child stopped, not temporary and its generations not used up,
the events about each child come in turn. -/
theorem run_livesInTurn {config : SupervisorConfig} {env : StartEnv} {as : List Act} {c : Config}
    (h : config.Accepted)
    (hrun : Run step (fun c _ => keepsLives c = true) (Config.start config env) as c) :
    c.LivesInTurn := by
  have hfresh := h.fresh env
  have hnil (i : Nat) : life i (SupervisorRuntime.new config env).trace = [] := by
    rw [hfresh.trace]
    rfl
  have hinTurn (i : Nat) : InTurn (life i (SupervisorRuntime.new config env).trace) := by
    rw [hnil]
    exact ⟨0, [], List.nil_prefix, .inl rfl⟩
  rcases hrun.ok_start with rfl | ⟨-, hok⟩
  · refine ⟨hinTurn, fun key e _ _ => ?_⟩
    show (life e.instanceId (SupervisorRuntime.new config env).trace).countP _ ≤ 1
    rw [hnil]
    exact Nat.zero_le 1
  · have hlt : (SupervisorRuntime.new config env).nextChildInstance < U64_MAX :=
      of_decide_eq_true (keepsLives_iff.1 hok).2.1
    have hlives : c.rt.Lives := by
      refine hrun.invariant_of (I := fun c => c.rt.Lives)
        (J := fun c => (c.Sane ∧ (c.ctrl = .await .runStart .nil → c.Untouched)) ∧
          c.rt.Owned True ∧ (c.ctrl.GroupDrained → c.rt.Quiet))
        (fun _ _ h' => ⟨⟨run_sane h h', run_untouched h h'⟩, run_single h (fun c a hok =>
          ⟨(keepsLives_iff.1 hok).1, (keepsLives_iff.1 hok).2.1⟩) hlt h'⟩) ?_ ?_
      · refine ⟨hfresh.instLt hlt, hfresh.instInj hlt, fun i _ => hnil i, hinTurn, fun key e he => ?_,
          fun key e he _ => (hfresh.unborn key e he).generation,
          fun key e he _ => ⟨(hfresh.unborn key e he).generation, (hfresh.unborn key e he).state⟩⟩
        have hst := (hfresh.unborn key e he).hasStarted
        rw [ChildEntry.lived, hst, if_neg nofun]
        exact hnil _
      · rintro c a c' ⟨⟨hs, hstart⟩, hown, hgroup⟩ hI hok hstep
        exact (((step_rule hs hstep).updates hs.wf).invariant (I := SupervisorRuntime.Lives) hs.wf hI
          fun _ _ hwf hI hu => hu.lives hs hok hstart hgroup hown hwf hI).2
    exact hlives.livesInTurn c.ctrl

/-! ### Events out of turn -/

/-- `d`, which took the key of `a`, is started a second time while it runs. -/
theorem unended_generation_reached : slotConfig.Accepted ∧ ∃ c,
    AnyRun step (Config.start slotConfig ⟨false, 0, 0⟩) respawnActs c ∧ ¬ c.LivesInTurn := by
  have hex : ∃ c, AnyRun step (Config.start slotConfig ⟨false, 0, 0⟩) respawnActs c ∧
      life 2 c.rt.trace = [.started 0, .started 1, .restarted 0 1] := anyRun_of_exec (by decide +kernel)
  obtain ⟨c, hrun, hc⟩ := hex
  refine ⟨slotConfig_accepted, c, hrun, fun h => ?_⟩
  have hturn := h.inTurn 2
  rw [hc] at hturn
  rcases hturn.second with h | h <;> cases h

/-- A child that is restarted in turn. -/
theorem run_livesInTurn_restart : ∃ c : Config, c.LivesInTurn ∧
    life 0 c.rt.trace = [.started 0, .exited 0, .started 1, .restarted 0 1] := by
  have hex : ∃ c, Run step (fun c _ => keepsLives c = true) (Config.start slotConfig ⟨false, 0, 0⟩)
      [.run .go, .finish 0 (.returned (.error "failed")), .run (.join 0),
        .tick (2 * NANOS_PER_SEC) 0, .run .timer, .resume] c ∧
      life 0 c.rt.trace = [.started 0, .exited 0, .started 1, .restarted 0 1] :=
    run_of_execIf_map (by decide +kernel)
  obtain ⟨c, hrun, hc⟩ := hex
  exact ⟨c, run_livesInTurn slotConfig_accepted hrun, hc⟩

end TokioSupervisor
