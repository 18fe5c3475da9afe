import TokioSupervisor.Runtime.Slots
import TokioSupervisor.Runtime.Traces

/-!
# Children under removal

`Update.entry_to` says where an entry goes in an update: it stays at its key and evolves, or it is
deleted. An entry marked `Removing` stays so until then, and nothing is spawned at its key
(`run_removing`): the four call sites of `spawn_child` ask for an active entry or for a new one. The
removal itself need not come to an end for this.
-/

namespace TokioSupervisor
open Lib SupervisorRuntime

/-! ### Where an entry goes -/

/-- Why a step deletes the entry `e` at `key`: it was marked, it is removed while stopped, or it is
detached. -/
inductive DeleteCause (c : Config) (a : Act) (rt : SupervisorRuntime) (key : ChildKey)
    (e : ChildEntry) : Prop
  | removing (hm : e.membership = .removing) (hs : e.runtime.state = .stopped)
  | removed {reply : Nat} (hm : e.membership = .active) (hs : e.runtime.state = .stopped)
      (he : c.rt.children.get key = some e) (hh : Removes c a e.id reply)
  | detached {reason : DrainReason} {k : Stack .abortAndDetachChild} (hrt : rt = c.rt)
      (hc : c.ctrl = .ret (.push (.detachDrain key reason) k) (.ok ()))

/-- The update deletes the entry `e` at `key`, and logs it. -/
structure Deletes (c : Config) (a : Act) (rt : SupervisorRuntime) (key : ChildKey) (e : ChildEntry)
    (rt' : SupervisorRuntime) : Prop where
  cause : DeleteCause c a rt key e
  vacant : rt'.children.get key = none
  logged : ∃ b t, rt'.trace = b :: .deleted key e.instanceId :: t ∧ rt.trace <:+ t

theorem Deletes.finalized {c : Config} {a : Act} {rt : SupervisorRuntime} {key : ChildKey} {e : ChildEntry}
    (hc : DeleteCause c a rt key e) : Deletes c a rt key e (rt.finalized key e) :=
  ⟨hc, Slab.get_remove_self _ _, _, rt.trace, rfl, List.suffix_rfl⟩

theorem Deletes.requested {c : Config} {a : Act} {rt : SupervisorRuntime} {key : ChildKey} {e : ChildEntry}
    (hc : DeleteCause c a rt key e) (reply : Nat) :
    Deletes c a rt key e ((rt.requested reply key e).finalized key e.requested) := by
  obtain ⟨l, hl, -⟩ := requested_grown (P := fun _ => True) reply key e (.refl _ rt.trace) trivial
    trivial trivial
  exact ⟨hc, Slab.get_remove_self _ _, _, _, rfl, l, hl.symm⟩

theorem Update.entry_to {c c' : Config} {a : Act} {rt rt' : SupervisorRuntime}
    (h : Update c a c' rt rt') (hwf : rt.Wf) {key : ChildKey} {e : ChildEntry}
    (he : rt.children.get key = some e) :
    (∃ e', rt'.children.get key = some e' ∧ e.Evolves c a c' rt'.trace key e') ∨
      Deletes c a rt key e rt' := by
  have hsame (hg : rt'.children = rt.children) :
      ∃ e', rt'.children.get key = some e' ∧ e.Evolves c a c' rt'.trace key e' :=
    ⟨e, hg ▸ he, .same (.refl e)⟩
  have hset {k : ChildKey} {f f' : ChildEntry} (hf : rt.children.get k = some f)
      (hev : f.Evolves c a c' rt'.trace k f') (hg : rt'.children = rt.children.set k f') :
      ∃ e', rt'.children.get key = some e' ∧ e.Evolves c a c' rt'.trace key e' := by
    by_cases hk : key = k
    · subst hk
      cases he.symm.trans hf
      exact ⟨f', by rw [hg]; exact Slab.get_set_self hf f', hev⟩
    · exact ⟨e, by rw [hg, Slab.get_set_ne hf f' hk, he], .same (.refl e)⟩
  have hrem {k : ChildKey} {f : ChildEntry} (hf : rt.children.get k = some f)
      (hdel : Deletes c a rt k f rt')
      (hg : ∀ k', k' ≠ k → rt'.children.get k' = rt.children.get k') :
      (∃ e', rt'.children.get key = some e' ∧ e.Evolves c a c' rt'.trace key e') ∨
        Deletes c a rt key e rt' := by
    by_cases hk : key = k
    · subst hk
      cases he.symm.trans hf
      exact .inr hdel
    · exact .inl ⟨e, (hg key hk).trans he, .same (.refl e)⟩
  cases h with
  | entry hf hs => exact .inl (hset hf (.same hs) rfl)
  | terminated g hf hl hs => exact .inl (hset hf (.terminated g hl hs) rfl)
  | @requested k f reply hf hm _ hc hrt hh =>
    have hlog : .removalRequested reply f.instanceId ∈ (rt.requested reply k f).trace :=
      List.mem_cons_of_mem _ List.mem_cons_self
    exact .inl (hset hf (.requested hm hlog hc (hrt ▸ hf) hh) rfl)
  | @removed k f reply hf hm hs hrt hh =>
    refine hrem hf (.requested (.removed hm hs (hrt ▸ hf) hh) reply) fun k' hk => ?_
    exact (Slab.get_remove_ne _ hk).trans (Slab.get_set_ne hf _ hk)
  | cancelled _ _ => exact .inl (hsame (cancelledChild_children _))
  | aborted _ _ => exact .inl (hsame (abortedChild_children _))
  | exited hrt ha hf hc =>
    subst hrt
    exact .inl (hset hc.get (.stopped ha hf hc rfl) rfl)
  | finalized hf hm hs =>
    exact hrem hf (.finalized (.removing hm hs)) fun _ hk => Slab.get_remove_ne _ hk
  | detached hf hrt hc =>
    exact hrem hf (.finalized (.detached hrt hc)) fun _ hk => Slab.get_remove_ne _ hk
  | @started _ _ k hf hf₀ hc =>
    cases k with
    | push f k => cases f
    | nil => exact .inl (hset hf (.started _ _ _ (.inr ⟨hc, hf₀⟩)) rfl)
  | respawned hf hm _ _ => exact .inl (hset hf (.started _ _ _ (.inl hm)) rfl)
  | groupRespawned hf _ hr _ =>
    have hm := hr
    simp only [ChildEntry.respawns, Bool.and_eq_true, beq_iff_eq] at hm
    exact .inl (hset hf (.started _ _ _ (.inl hm.1)) rfl)
  | @added k child hv _ _ _ =>
    have hk : key ≠ k := by
      rintro rfl
      rw [Slab.get_of_vacant hv] at he
      cases he
    have hg : (rt.added k child).children.get key = rt.children.get key :=
      (spawned_get_ne (inserted_get hv child) hk).trans (Slab.get_insert_ne hv _ hk)
    exact .inl ⟨e, hg.trans he, .same (.refl e)⟩
  | cancelledAll _ =>
    obtain ⟨C, n, heq, hget, -⟩ := hwf.cancelRunningChildren
    refine .inl ⟨e.stopping, ?_, .stopping⟩
    rw [heq]
    show C.get key = _
    rw [hget, he, Option.map_some]
  | _ => exact .inl (hsame rfl)

section
variable {c c' : Config} {a : Act} {trace : List Action} {key : ChildKey} {e e' : ChildEntry}

theorem ChildEntry.Evolves.instanceId (h : e.Evolves c a c' trace key e') :
    e'.instanceId = e.instanceId := by
  cases h with
  | same h => exact h.instanceId
  | terminated => simp
  | stopping => unfold ChildEntry.stopping; split <;> rfl
  | _ => rfl

theorem ChildEntry.Evolves.removing (h : e.Evolves c a c' trace key e')
    (hm : e.membership = .removing) : e'.membership = .removing := by
  cases h with
  | same h => rw [h.membership, hm]
  | terminated => simpa using hm
  | requested => rfl
  | stopping => unfold ChildEntry.stopping; split <;> exact hm
  | _ => exact hm

end

/-! ### No task for a marked entry -/

/-- No task was spawned at `key` before the instance there was deleted; the trace starts with it. -/
def Retired (key : ChildKey) (instanceId : Nat) : List Action → Prop
  | [] => True
  | b :: l => (b.spawnedKey = some key → .deleted key instanceId ∈ l) ∧ Retired key instanceId l

theorem Retired.append {key : ChildKey} {instanceId : Nat} {l l' : List Action}
    (h : Retired key instanceId l)
    (hl : ∀ b ∈ l', b.spawnedKey = some key → .deleted key instanceId ∈ l) :
    Retired key instanceId (l' ++ l) := by
  induction l' with
  | nil => exact h
  | cons b l' ih =>
    refine ⟨fun hb => ?_, ih fun b hb => hl b (List.mem_cons_of_mem _ hb)⟩
    exact List.mem_append_right _ (hl b List.mem_cons_self hb)

/-- Since the trace was `old`, the entry `e` at `key` has stayed marked until it was deleted, and no
task was spawned for it. -/
def SupervisorRuntime.Retires (rt : SupervisorRuntime) (old : List Action) (key : ChildKey)
    (e : ChildEntry) : Prop :=
  ∃ l, rt.trace = l ++ old ∧ Retired key e.instanceId l ∧
    (.deleted key e.instanceId ∈ l ∨ ∃ e', rt.children.get key = some e' ∧
      e'.instanceId = e.instanceId ∧ e'.membership = .removing)

/-- A spawn is for an active entry or a new one, or it is one of the first. -/
theorem Spawns.key_ne {c : Config} {rt rt' : SupervisorRuntime} {k key : ChildKey} {f e : ChildEntry}
    (h : Spawns c rt k f rt') (hstart : c.ctrl = .await .runStart .nil → c.Untouched)
    (he : rt.children.get key = some e) (hm : e.membership = .removing) : k ≠ key := by
  rintro rfl
  cases h with
  | @started _ k hf hf₀ hc =>
    cases k with
    | push f k => cases f
    | nil =>
      cases he.symm.trans hf
      rw [((hstart hc).unborn _ _ hf₀).membership] at hm
      cases hm
  | restarted hf hact _ =>
    cases he.symm.trans hf
    rw [hact] at hm
    cases hm
  | added hv _ =>
    rw [Slab.get_of_vacant hv] at he
    cases he

theorem Update.retires {c c' : Config} {a : Act} {rt rt' : SupervisorRuntime} {old : List Action}
    {key : ChildKey} {e : ChildEntry} (h : Update c a c' rt rt') (hwf : rt.Wf)
    (hstart : c.ctrl = .await .runStart .nil → c.Untouched) (hI : rt.Retires old key e) :
    rt'.Retires old key e := by
  obtain ⟨l, hl, hret, hgone⟩ := hI
  obtain ⟨l', hl', hlogs⟩ := h.logs hwf
  refine ⟨l' ++ l, by rw [hl', hl, List.append_assoc], ?_, ?_⟩
  · refine hret.append fun b hb hspawn => ?_
    rcases hgone with hdel | ⟨e', he', -, hm⟩
    · exact hdel
    · exfalso
      cases hlogs b hb with
      | spawned hs => exact hs.key_ne hstart he' hm (Option.some.inj hspawn)
      | plain hp | life hp =>
        cases b <;> simp_all [Action.plain, Action.life, Action.spawnedKey]
      | _ => cases hspawn
  · rcases hgone with hdel | ⟨e', he', hinst, hm⟩
    · exact .inl (List.mem_append_right _ hdel)
    · rcases h.entry_to hwf he' with ⟨f, hf, hev⟩ | hdel
      · exact .inr ⟨f, hf, hev.instanceId.trans hinst, hev.removing hm⟩
      · obtain ⟨b, t, ht, l₀, rfl⟩ := hdel.logged
        have hsplit : l' = b :: .deleted key e'.instanceId :: l₀ := by
          have happ : l' ++ rt.trace = (b :: .deleted key e'.instanceId :: l₀) ++ rt.trace := by
            rw [← hl', ht]
            rfl
          exact List.append_cancel_right happ
        rw [hsplit, hinst]
        exact .inl (by simp)

/-- Once a child is marked `Removing` no task is spawned for it again: in every continuation of the
run the entry stays marked until it is deleted, and a task spawned at its key comes after that. -/
theorem run_removing {config : SupervisorConfig} {env : StartEnv} {as as' : List Act} {c c' : Config}
    {key : ChildKey} {e : ChildEntry} (h : config.Accepted)
    (hrun : AnyRun step (Config.start config env) as c) (he : c.rt.children.get key = some e)
    (hm : e.membership = .removing) (hrun' : AnyRun step c as' c') :
    c'.rt.Retires c.rt.trace key e := by
  refine hrun'.invariant_of (I := fun c' => c'.rt.Retires c.rt.trace key e)
    (J := fun c => c.Sane ∧ (c.ctrl = .await .runStart .nil → c.Untouched))
    (fun _ _ h' => ⟨run_sane h (hrun.trans h'), run_untouched h (hrun.trans h')⟩)
    ⟨[], rfl, trivial, .inr ⟨e, he, rfl, hm⟩⟩ ?_
  rintro c₁ a c₂ ⟨hs, hstart⟩ hI - hstep
  exact (((step_rule hs hstep).updates hs.wf).invariant hs.wf hI
    fun rt rt' hwf hI hu => hu.retires hwf hstart hI).2

/-- `a` is marked, aborted, and deleted while its task is still there. -/
theorem run_removing_detached : ∃ (c c' : Config) (e : ChildEntry),
    e.membership = .removing ∧ c'.rt.children.get 0 = none ∧ c'.rt.Retires c.rt.trace 0 e := by
  have hex : ((exec step (Config.start slotConfig ⟨false, 0, 0⟩)
      [.run .go, .send (.removeChild "a" 0), .run (.command 2)]).bind fun c =>
        (exec step c [.run .go, .run .timer, .resume]).map fun c' =>
          ((c.rt.children.get 0).map (·.membership), (c'.rt.children.get 0).isNone)) =
      some (some .removing, true) := by decide +kernel
  obtain ⟨c, hc, hex⟩ := Option.bind_eq_some_iff.1 hex
  obtain ⟨c', hc', hex⟩ := Option.map_eq_some_iff.1 hex
  obtain ⟨hm, hnone⟩ := Prod.mk.inj hex
  obtain ⟨e, he, hm⟩ := Option.map_eq_some_iff.1 hm
  exact ⟨c, c', e, hm, by simpa using hnone,
    run_removing slotConfig_accepted (anyRun_iff_exec.2 hc) he hm (anyRun_iff_exec.2 hc')⟩

end TokioSupervisor
