import TokioSupervisor.Runtime.Incarnations

/-!
# Instance numbers

Entries are numbered in the order of their insertion until `next_child_instance` saturates. Up to then
no two entries of the slab share a number, and the number of a deleted entry does not come back.
-/

namespace TokioSupervisor
open Lib SupervisorRuntime

namespace SupervisorRuntime

/-- The numbers of the entries, until the counter saturates. -/
structure Instances (rt : SupervisorRuntime) : Prop where
  le : rt.nextChildInstance ≤ U64_MAX
  lt : rt.nextChildInstance < U64_MAX →
    ∀ key e, rt.children.get key = some e → e.instanceId < rt.nextChildInstance
  inj : rt.nextChildInstance < U64_MAX → ∀ k₁ e₁ k₂ e₂, rt.children.get k₁ = some e₁ →
    rt.children.get k₂ = some e₂ → e₁.instanceId = e₂.instanceId → k₁ = k₂

theorem Fresh.instances {rt : SupervisorRuntime} (h : rt.Fresh) : rt.Instances :=
  ⟨h.nextLe, h.instLt, h.instInj⟩

/-- No entry has this number, unless numbers were given out twice. -/
def Absent (rt : SupervisorRuntime) (instanceId : Nat) : Prop :=
  rt.nextChildInstance < U64_MAX →
    instanceId < rt.nextChildInstance ∧ ∀ key e, rt.children.get key = some e → e.instanceId ≠ instanceId

end SupervisorRuntime

/-- An update keeps the number of every entry, or adds one entry with the next number. -/
inductive Renumbers (rt rt' : SupervisorRuntime) : Prop
  | keeps (hn : rt'.nextChildInstance = rt.nextChildInstance)
      (he : ∀ key e', rt'.children.get key = some e' →
        ∃ e, rt.children.get key = some e ∧ e'.instanceId = e.instanceId)
  | adds (key : ChildKey) (hn : rt'.nextChildInstance = saturatingSucc rt.nextChildInstance)
      (hnew : ∀ e', rt'.children.get key = some e' → e'.instanceId = rt.nextChildInstance)
      (he : ∀ k, k ≠ key → rt'.children.get k = rt.children.get k)

theorem Renumbers.set {rt rt' : SupervisorRuntime} {key : ChildKey} {e f : ChildEntry}
    (he : rt.children.get key = some e) (hf : rt'.children.get key = some f)
    (hi : f.instanceId = e.instanceId) (hne : ∀ k, k ≠ key → rt'.children.get k = rt.children.get k)
    (hn : rt'.nextChildInstance = rt.nextChildInstance) : Renumbers rt rt' := by
  refine .keeps hn fun k g hg => ?_
  by_cases hk : k = key
  · subst hk
    cases hf.symm.trans hg
    exact ⟨e, he, hi⟩
  · exact ⟨g, hne k hk ▸ hg, rfl⟩

theorem Update.renumbers {c c' : Config} {a : Act} {rt rt' : SupervisorRuntime}
    (h : Update c a c' rt rt') (hwf : rt.Wf) : Renumbers rt rt' := by
  rcases h.numbers hwf with ⟨key, e, hs⟩ | hk
  · cases hs with
    | started he _ _ => exact Renumbers.set he (spawned_get he) rfl (fun _ hk => spawned_get_ne he hk) rfl
    | restarted he _ _ => exact Renumbers.set he (spawned_get he) rfl (fun _ hk => spawned_get_ne he hk) rfl
    | @added child hv _ =>
      have hget := inserted_get hv child
      refine .adds key rfl (fun e' he' => ?_) fun k hk => ?_
      · cases (spawned_get hget).symm.trans he'
        rfl
      · exact (spawned_get_ne hget hk).trans (Slab.get_insert_ne hv _ hk)
  · refine .keeps hk.nextChildInstance fun key e' he' => ?_
    obtain ⟨e, he, hi, -⟩ := hk.entries key e' he'
    exact ⟨e, he, hi⟩

namespace Renumbers
variable {rt rt' : SupervisorRuntime}

theorem next_le (h : Renumbers rt rt') (hI : rt.Instances) :
    rt.nextChildInstance ≤ rt'.nextChildInstance := by
  cases h with
  | keeps hn _ => exact Nat.le_of_eq hn.symm
  | adds _ hn _ _ => rw [hn]; exact le_saturatingSucc hI.le

theorem next_succ (h : rt.Instances) (hn : rt'.nextChildInstance = saturatingSucc rt.nextChildInstance)
    (hlt : rt'.nextChildInstance < U64_MAX) : rt.nextChildInstance < U64_MAX ∧
      rt'.nextChildInstance = rt.nextChildInstance + 1 := by
  have hlt₀ : rt.nextChildInstance < U64_MAX := Nat.lt_of_le_of_lt (hn ▸ le_saturatingSucc h.le) hlt
  exact ⟨hlt₀, hn.trans (saturatingSucc_of_lt hlt₀)⟩

theorem instances (h : Renumbers rt rt') (hI : rt.Instances) : rt'.Instances := by
  cases h with
  | keeps hn he =>
    refine ⟨hn ▸ hI.le, fun hlt key e' he' => ?_, fun hlt k₁ e₁ k₂ e₂ h₁ h₂ heq => ?_⟩
    · obtain ⟨e, hg, hi⟩ := he key e' he'
      rw [hi, hn]
      exact hI.lt (hn ▸ hlt) key e hg
    · obtain ⟨f₁, hf₁, hi₁⟩ := he k₁ e₁ h₁
      obtain ⟨f₂, hf₂, hi₂⟩ := he k₂ e₂ h₂
      exact hI.inj (hn ▸ hlt) k₁ f₁ k₂ f₂ hf₁ hf₂ (hi₁.symm.trans (heq.trans hi₂))
  | adds key hn hnew he =>
    have hold (hlt : rt'.nextChildInstance < U64_MAX) {k : ChildKey} {e : ChildEntry} (hk : k ≠ key)
        (hg : rt'.children.get k = some e) : e.instanceId < rt.nextChildInstance :=
      hI.lt (next_succ hI hn hlt).1 k e (he k hk ▸ hg)
    refine ⟨hn ▸ saturatingSucc_le _, fun hlt k e hg => ?_, fun hlt k₁ e₁ k₂ e₂ h₁ h₂ heq => ?_⟩
    · rw [(next_succ hI hn hlt).2]
      by_cases hk : k = key
      · subst hk
        rw [hnew e hg]
        exact Nat.lt_succ_self _
      · exact Nat.lt_succ_of_lt (hold hlt hk hg)
    · by_cases hk₁ : k₁ = key <;> by_cases hk₂ : k₂ = key
      · exact hk₁.trans hk₂.symm
      · subst hk₁
        exact absurd (heq.symm.trans (hnew e₁ h₁)) (Nat.ne_of_lt (hold hlt hk₂ h₂))
      · subst hk₂
        exact absurd (heq.trans (hnew e₂ h₂)) (Nat.ne_of_lt (hold hlt hk₁ h₁))
      · exact hI.inj (next_succ hI hn hlt).1 k₁ e₁ k₂ e₂ (he k₁ hk₁ ▸ h₁) (he k₂ hk₂ ▸ h₂) heq

/-- The number of a deleted entry does not come back. -/
theorem absent (h : Renumbers rt rt') (hI : rt.Instances) {i : Nat} (ha : rt.Absent i) :
    rt'.Absent i := by
  intro hlt
  obtain ⟨hi, hall⟩ := ha (Nat.lt_of_le_of_lt (h.next_le hI) hlt)
  refine ⟨Nat.lt_of_lt_of_le hi (h.next_le hI), fun key e' he' => ?_⟩
  cases h with
  | keeps _ he =>
    obtain ⟨e, hg, heq⟩ := he key e' he'
    rw [heq]
    exact hall key e hg
  | adds k _ hnew he =>
    by_cases hk : key = k
    · subst hk
      rw [hnew e' he']
      exact Nat.ne_of_gt hi
    · exact hall key e' (he key hk ▸ he')

theorem absent_of_vacant (h : Renumbers rt rt') (hI : rt.Instances) {key : ChildKey} {e : ChildEntry}
    (he : rt.children.get key = some e) (hv : rt'.children.get key = none) :
    rt'.Absent e.instanceId := by
  intro hlt
  have hlt₀ := Nat.lt_of_le_of_lt (h.next_le hI) hlt
  refine ⟨Nat.lt_of_lt_of_le (hI.lt hlt₀ key e he) (h.next_le hI), fun k f hf heq => ?_⟩
  have hne : k ≠ key := by
    rintro rfl
    rw [hv] at hf
    cases hf
  cases h with
  | keeps _ hold =>
    obtain ⟨g, hg, hi⟩ := hold k f hf
    exact hne (hI.inj hlt₀ k g key e hg he (hi.symm.trans heq))
  | adds k' _ hnew hold =>
    by_cases hk : k = k'
    · subst hk
      exact absurd (heq.symm.trans (hnew f hf)) (Nat.ne_of_lt (hI.lt hlt₀ key e he))
    · exact hne (hI.inj hlt₀ k f key e (hold k hk ▸ hf) he heq)

end Renumbers

/-- Instance numbers are unique in every configuration of a run, until the counter saturates. -/
theorem run_instances {config : SupervisorConfig} {env : StartEnv} {ok : Config → Act → Prop}
    {as : List Act} {c : Config} (h : config.Accepted)
    (hrun : Run step ok (Config.start config env) as c) : c.rt.Instances :=
  run_invariant h hrun (h.fresh env).instances
    fun _ _ _ _ _ _ _ _ hwf hI hu => (hu.renumbers hwf).instances hI

end TokioSupervisor
