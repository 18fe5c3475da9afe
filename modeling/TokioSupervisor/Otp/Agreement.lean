import TokioSupervisor.Otp.Callers

/-!
# The registry agrees with the children

`add_actor` and `remove_actor` change two stores, one after the other. An id on which no call is in
progress should be in the registry exactly if the supervisor has a child for that actor. `remove_actor`
breaks this where the supervisor answers with an error although the child is gone, or where nobody is
left to take the id out (`stale_actor_reached`). `keepsAgreement` says that neither happens.
-/

namespace TokioSupervisor
open Lib SupervisorRuntime

/-! ### Calls that wait for an answer -/

def Removals.replies (r : Removals) : List Nat :=
  (r.answering.map Prod.fst).toList ++ (r.detaching.map Detachment.reply).toList ++
    r.waiting.map Prod.fst

namespace View

/-- The calls that wait for an answer. -/
def pending (v : View) : List Nat := v.queue.map SupervisorCommand.reply ++ v.removals.replies

def HasChild (v : View) (id : String) : Prop := ∃ key, v.child key = some id

/-- The removal of call `n` is under way, and no error has come of it. -/
def Serves (v : View) (n : Nat) : Prop :=
  n ∈ v.removals.waiting.map Prod.fst ∨
    (∃ d, v.removals.detaching = some d ∧ d.reply = n ∧ d.removalError = none) ∨
    v.removals.answering = some (n, .ok ()) ∨ v.answer n = some (.ok ())

theorem eq_of {v : View} {s : Shown} {r : Removals} (hs : v.toShown = s) (hr : v.removals = r) :
    v = ⟨s, r⟩ := by
  cases v
  subst hs hr
  rfl

end View

section
variable {c : Config} {a : Act} {v v' : View}

theorem ViewStep.pending (h : ViewStep c a v v') :
    v'.pending.Perm v.pending ∧ v'.answer = v.answer ∨ ∃ n result, v.pending.Perm (n :: v'.pending) ∧
      v'.answer = Function.update v.answer n (some result) := by
  cases h with
  | same hs hr =>
    obtain rfl := View.eq_of hs hr
    exact .inl ⟨.refl _, rfl⟩
  | added hq hv hn hs hr | addRefused hq e hs hr =>
    obtain rfl := View.eq_of hs hr
    exact .inr ⟨_, _, by simp [View.pending, hq, SupervisorCommand.reply], rfl⟩
  | removeRefused hq e hs hr₀ hr | removed hq hk hs hr₀ hr | aborts hq hk hs hr₀ hr
  | waits hq hk hs hr₀ hr =>
    obtain rfl := View.eq_of hs hr
    refine .inl ⟨?_, rfl⟩
    simp only [View.pending, hq, hr₀, Removals.replies, SupervisorCommand.reply, List.map_cons,
      Option.map_some, Option.map_none, Option.toList_some, Option.toList_none, List.nil_append,
      List.append_nil, List.cons_append]
    exact List.perm_middle
  | gone hs hr₀ hr | abandoned _ e hs hr₀ hr | timer _ _ hs hr₀ hr | detached hs hr₀ hr =>
    obtain rfl := View.eq_of hs hr
    exact .inl ⟨by simp [View.pending, hr₀, Removals.replies], rfl⟩
  | departed hd hk hs hr₀ hr =>
    obtain rfl := View.eq_of hs hr
    exact .inl ⟨.refl _, rfl⟩
  | replied hs hr₀ hr =>
    obtain rfl := View.eq_of hs hr
    refine .inr ⟨_, _, ?_, rfl⟩
    simp only [View.pending, hr₀, Removals.replies, Option.map_some, Option.map_none,
      Option.toList_some, Option.toList_none, List.nil_append, List.append_nil, List.cons_append]
    exact List.perm_middle

end

/-- The command of the call is sent. -/
def Call.sent : Call → Bool
  | .adding _ | .removing _ | .returned _ => true
  | _ => false

/-- A call waits for at most one answer, in the phase that its command belongs to. -/
structure Awaited (v : View) (calls : List Call) : Prop where
  nodup : v.pending.Nodup
  unanswered : ∀ n ∈ v.pending, v.answer n = none
  sent : ∀ n, n ∈ v.pending ∨ v.answer n ≠ none → ∃ call, calls[n]? = some call ∧ call.sent = true
  adding : ∀ child n, .addChild child n ∈ v.queue → calls[n]? = some (.adding child)
  removing : ∀ id n, .removeChild id n ∈ v.queue → calls[n]? = some (.removing id)
  waiting : ∀ w ∈ v.removals.waiting, calls[w.1]? = some (.removing w.2.childId)
  detaching : ∀ d, v.removals.detaching = some d → ∃ id, calls[d.reply]? = some (.removing id)
  answering : ∀ p, v.removals.answering = some p → ∃ id, calls[p.1]? = some (.removing id)

section
variable {c : Config} {a : Act} {v v' : View} {calls : List Call}

theorem Awaited.step (hI : Awaited v calls) (h : ViewStep c a v v') : Awaited v' calls := by
  have hpending : v'.pending.Nodup ∧ (∀ n ∈ v'.pending, v'.answer n = none) ∧
      ∀ n, n ∈ v'.pending ∨ v'.answer n ≠ none → ∃ call, calls[n]? = some call ∧ call.sent = true := by
    rcases h.pending with ⟨hperm, hans⟩ | ⟨n, result, hperm, hans⟩
    · rw [hans]
      refine ⟨hperm.nodup_iff.2 hI.nodup, fun n hn => hI.unanswered n (hperm.mem_iff.1 hn), ?_⟩
      exact fun n hn => hI.sent n (hn.imp_left hperm.mem_iff.1)
    · have hnd := hperm.nodup_iff.1 hI.nodup
      obtain ⟨hn, hnd⟩ := List.nodup_cons.1 hnd
      have hmem (m : Nat) (hm : m ∈ v'.pending) : m ∈ v.pending :=
        hperm.mem_iff.2 (List.mem_cons_of_mem n hm)
      rw [hans]
      refine ⟨hnd, fun m hm => ?_, fun m hm => ?_⟩
      · rw [Function.update_of_ne (ne_of_mem_of_not_mem hm hn)]
        exact hI.unanswered m (hmem m hm)
      · by_cases hmn : m = n
        · subst hmn
          exact hI.sent m (.inl (hperm.mem_iff.2 List.mem_cons_self))
        · rw [Function.update_of_ne hmn] at hm
          exact hI.sent m (hm.imp_left (hmem m))
  obtain ⟨hnd, hun, hsent⟩ := hpending
  have hadd {rest : List SupervisorCommand} {cmd : SupervisorCommand} (hq : v.queue = cmd :: rest)
      (child : ChildSpec) (n : Nat) (hm : .addChild child n ∈ rest) : calls[n]? = some (.adding child) :=
    hI.adding child n (hq ▸ List.mem_cons_of_mem _ hm)
  have hremove {rest : List SupervisorCommand} {cmd : SupervisorCommand} (hq : v.queue = cmd :: rest)
      (id : String) (n : Nat) (hm : .removeChild id n ∈ rest) : calls[n]? = some (.removing id) :=
    hI.removing id n (hq ▸ List.mem_cons_of_mem _ hm)
  cases h with
  | same hs hr | departed _ _ hs _ hr =>
    obtain rfl := View.eq_of hs hr
    exact ⟨hnd, hun, hsent, hI.adding, hI.removing, hI.waiting, hI.detaching, hI.answering⟩
  | added hq _ _ hs hr | addRefused hq _ hs hr =>
    obtain rfl := View.eq_of hs hr
    exact ⟨hnd, hun, hsent, hadd hq, hremove hq, hI.waiting, hI.detaching, hI.answering⟩
  | removeRefused hq _ hs hr₀ hr | removed hq _ hs hr₀ hr =>
    obtain rfl := View.eq_of hs hr
    have hhead := hI.removing _ _ (hq ▸ List.mem_cons_self)
    refine ⟨hnd, hun, hsent, hadd hq, hremove hq, fun w hw => hI.waiting w (by rw [hr₀]; exact hw),
      nofun, ?_⟩
    rintro p ⟨⟩
    exact ⟨_, hhead⟩
  | aborts hq _ hs hr₀ hr =>
    obtain rfl := View.eq_of hs hr
    have hhead := hI.removing _ _ (hq ▸ List.mem_cons_self)
    refine ⟨hnd, hun, hsent, hadd hq, hremove hq, fun w hw => hI.waiting w (by rw [hr₀]; exact hw),
      ?_, nofun⟩
    rintro d ⟨⟩
    exact ⟨_, hhead⟩
  | waits hq _ hs hr₀ hr =>
    obtain rfl := View.eq_of hs hr
    have hhead := hI.removing _ _ (hq ▸ List.mem_cons_self)
    refine ⟨hnd, hun, hsent, hadd hq, hremove hq, ?_, nofun, nofun⟩
    rintro w (⟨⟩ | ⟨_, hw⟩)
    · exact hhead
    · exact hI.waiting w (by rw [hr₀]; exact hw)
  | gone hs hr₀ hr | abandoned _ _ hs hr₀ hr =>
    obtain rfl := View.eq_of hs hr
    have hhead := hI.waiting _ (by rw [hr₀]; exact List.mem_cons_self)
    refine ⟨hnd, hun, hsent, hI.adding, hI.removing,
      fun w hw => hI.waiting w (by rw [hr₀]; exact List.mem_cons_of_mem _ hw), nofun, ?_⟩
    rintro p ⟨⟩
    exact ⟨_, hhead⟩
  | timer _ _ hs hr₀ hr =>
    obtain rfl := View.eq_of hs hr
    have hhead := hI.waiting _ (by rw [hr₀]; exact List.mem_cons_self)
    refine ⟨hnd, hun, hsent, hI.adding, hI.removing,
      fun w hw => hI.waiting w (by rw [hr₀]; exact List.mem_cons_of_mem _ hw), ?_, nofun⟩
    rintro d ⟨⟩
    exact ⟨_, hhead⟩
  | detached hs hr₀ hr =>
    obtain rfl := View.eq_of hs hr
    obtain ⟨id, hd⟩ := hI.detaching _ (by rw [hr₀])
    refine ⟨hnd, hun, hsent, hI.adding, hI.removing, fun w hw => hI.waiting w (by rw [hr₀]; exact hw),
      nofun, ?_⟩
    rintro p ⟨⟩
    exact ⟨id, hd⟩
  | replied hs hr₀ hr =>
    obtain rfl := View.eq_of hs hr
    exact ⟨hnd, hun, hsent, hI.adding, hI.removing,
      fun w hw => hI.waiting w (by rw [hr₀]; exact hw), nofun, nofun⟩

theorem Awaited.answer_stays (hI : Awaited v calls) (h : ViewStep c a v v') {n : Nat}
    {result : Except ControlError Unit} (hn : v.answer n = some result) : v'.answer n = some result := by
  rcases h.pending with ⟨-, hans⟩ | ⟨m, r, hperm, hans⟩
  · rw [hans, hn]
  · have hm := hI.unanswered m (hperm.mem_iff.2 List.mem_cons_self)
    have hne : n ≠ m := by
      rintro rfl
      rw [hn] at hm
      cases hm
    rw [hans, Function.update_of_ne hne, hn]

end

/-! ### The agreement -/

/-- The call has registered the actor `id`, and the supervisor has not accepted its child. -/
def Call.adds (answer : Option (Except ControlError Unit)) (id : String) : Call → Bool
  | .registered child => child.id == id
  | .adding child => child.id == id && !(answer matches some (.ok ()))
  | _ => false

/-- Call `n` has registered the actor `id` and may still be refused its child. -/
def Adds (calls : List Call) (v : View) (n : Nat) (id : String) : Prop :=
  ∃ call, calls[n]? = some call ∧ call.adds (v.answer n) id = true

/-- The registry and the children agree, up to the calls in progress. -/
structure Agreement (v : View) (registry : ActorRegistry) (calls : List Call) (plain : List String) :
    Prop extends Awaited v calls where
  named : ∀ id, registry.contains id = true → id.isEmpty = false
  present : ∀ id ∈ plain, v.HasChild id
  /-- An aborted child is that of its call, which returns `Ok` unless it is no actor. -/
  detached : ∀ d, v.removals.detaching = some d → ∃ id, v.child d.key = some id ∧
    calls[d.reply]? = some (.removing id) ∧ (id ∈ plain ∨ d.removalError = none)
  registered : ∀ id, v.HasChild id → id ∉ plain → registry.contains id = true
  added : ∀ n id, Adds calls v n id → registry.contains id = true ∧ (v.HasChild id → id ∈ plain) ∧
    ∀ m, Adds calls v m id → m = n
  covered : ∀ id, registry.contains id = true → id ∉ plain → v.HasChild id ∨
    (∃ n, Adds calls v n id) ∨ ∃ n, calls[n]? = some (.removing id) ∧ v.Serves n
  plainAdded : ∀ id ∈ plain, registry.contains id = true → ∃ n, Adds calls v n id

/-- The step of the supervisor gives up no removal whose child is gone, lets none time out with an
error, and deletes no actor that nobody waits for. -/
structure KeepsPromise (c : Config) (a : Act) (v : View) (registry : ActorRegistry)
    (plain : List String) : Prop where
  abandoned : ∀ l, abandonedRemoval c a = some l →
    v.HasChild l.childId ∨ registry.contains l.childId = false
  timedOut : ∀ l id, timedOutRemoval c a = some l → v.child l.key = some id →
    id = l.childId ∧ (id ∈ plain ∨ l.timeoutIsError = false)
  departing : ∀ id, departingChild c a = some id →
    id ∈ plain ∨ ∃ w ∈ v.removals.waiting, w.2.childId = id

section
variable {c : Config} {a : Act} {v v' : View} {registry : ActorRegistry} {calls : List Call}
  {plain plain' : List String}

theorem View.hasChild_update {key : ChildKey} {o : Option String} {f : ChildKey → Option String}
    {id : String} (h : ∃ k, Function.update f key o k = some id) : o = some id ∨ ∃ k, f k = some id := by
  obtain ⟨k, hk⟩ := h
  by_cases hkk : k = key
  · subst hkk
    rw [Function.update_self] at hk
    exact .inl hk
  · rw [Function.update_of_ne hkk] at hk
    exact .inr ⟨k, hk⟩

/-- A child that is there was there, or its `add_child` is answered in the step. -/
theorem ViewStep.hasChild (h : ViewStep c a v v') {id : String} (hc : v'.HasChild id) :
    v.HasChild id ∨ ∃ child n, .addChild child n ∈ v.queue ∧ child.id = id ∧
      v'.answer n = some (.ok ()) := by
  cases h with
  | added hq hv hn hs hr =>
    obtain rfl := View.eq_of hs hr
    rcases View.hasChild_update hc with hid | hc
    · exact .inr ⟨_, _, hq ▸ List.mem_cons_self, Option.some.inj hid, Function.update_self ..⟩
    · exact .inl hc
  | removed _ _ hs _ hr | detached hs _ hr | departed _ _ hs _ hr =>
    obtain rfl := View.eq_of hs hr
    exact .inl ((View.hasChild_update hc).resolve_left nofun)
  | same hs hr | addRefused _ _ hs hr | removeRefused _ _ hs _ hr | aborts _ _ hs _ hr
  | waits _ _ hs _ hr | gone hs _ hr | timer _ _ hs _ hr | abandoned _ _ hs _ hr | replied hs _ hr =>
    obtain rfl := View.eq_of hs hr
    exact .inl hc

theorem Awaited.adds_of (hI : Awaited v calls) (h : ViewStep c a v v') {n : Nat} {id : String}
    (hn : Adds calls v' n id) : Adds calls v n id := by
  obtain ⟨call, hcall, hadds⟩ := hn
  refine ⟨call, hcall, ?_⟩
  cases call with
  | adding child =>
    cases hans : v.answer n with
    | none => simpa [Call.adds] using (Bool.and_eq_true_iff.1 hadds).1
    | some result => rwa [hI.answer_stays h hans] at hadds
  | _ => exact hadds

theorem Awaited.adds_to (hI : Awaited v calls) (h : ViewStep c a v v') {n : Nat} {id : String}
    (hn : Adds calls v n id) : Adds calls v' n id ∨ ¬ v.HasChild id ∧ v'.HasChild id := by
  obtain ⟨call, hcall, hadds⟩ := hn
  have hsame (hans : v'.answer n = v.answer n) : Adds calls v' n id := ⟨call, hcall, by rwa [hans]⟩
  have hupdate {m : Nat} {r : Except ControlError Unit} (hans : v'.answer = Function.update v.answer m (some r))
      (hm : ∀ child, calls[m]? = some (.adding child) → r ≠ .ok ()) : Adds calls v' n id := by
    by_cases hnm : n = m
    · subst hnm
      refine ⟨call, hcall, ?_⟩
      cases call with
      | adding child =>
        have hr := hm child hcall
        rw [hans, Function.update_self]
        cases r with
        | error e => simpa [Call.adds] using (Bool.and_eq_true_iff.1 hadds).1
        | ok u => exact absurd rfl hr
      | _ => exact hadds
    · exact hsame (by rw [hans, Function.update_of_ne hnm])
  cases h with
  | @added child m rest key hq hv hnew hs hr =>
    obtain rfl := View.eq_of hs hr
    by_cases hnm : n = m
    · subst hnm
      have hhead := hI.adding child n (hq ▸ List.mem_cons_self)
      cases hcall.symm.trans hhead
      have hid : child.id = id := by simpa using (Bool.and_eq_true_iff.1 hadds).1
      subst hid
      exact .inr ⟨fun ⟨k, hk⟩ => hnew k hk, key, Function.update_self ..⟩
    · exact .inl (hsame (Function.update_of_ne hnm ..))
  | addRefused _ e hs hr =>
    obtain rfl := View.eq_of hs hr
    exact .inl (hupdate rfl fun _ _ => nofun)
  | replied hs hr₀ hr =>
    obtain rfl := View.eq_of hs hr
    obtain ⟨id', hans⟩ := hI.answering _ (by rw [hr₀])
    exact .inl (hupdate rfl fun child hc => by rw [hans] at hc; cases hc)
  | same hs hr | removeRefused _ _ hs _ hr | removed _ _ hs _ hr | aborts _ _ hs _ hr
  | waits _ _ hs _ hr | gone hs _ hr | timer _ _ hs _ hr | abandoned _ _ hs _ hr | detached hs _ hr
  | departed _ _ hs _ hr =>
    obtain rfl := View.eq_of hs hr
    exact .inl (hsame rfl)

/-- A child that goes is no actor, or a call of `remove_actor` will take it out of the registry. -/
theorem Agreement.child_to (hI : Agreement v registry calls plain) (h : ViewStep c a v v')
    (hk : KeepsPromise c a v registry plain) {id : String} (hc : v.HasChild id) :
    v'.HasChild id ∨ id ∈ plain ∨ ∃ n, calls[n]? = some (.removing id) ∧ v'.Serves n := by
  obtain ⟨k, hkid⟩ := hc
  have hupdate {key : ChildKey} {id' : String} (hkey : v.child key = some id')
      (hcause : id' ∈ plain ∨ ∃ n, calls[n]? = some (.removing id') ∧ v'.Serves n) :
      (∃ k, Function.update v.child key none k = some id) ∨ id ∈ plain ∨
        ∃ n, calls[n]? = some (.removing id) ∧ v'.Serves n := by
    by_cases hkk : k = key
    · subst hkk
      cases hkey.symm.trans hkid
      exact .inr hcause
    · exact .inl ⟨k, by rw [Function.update_of_ne hkk, hkid]⟩
  cases h with
  | @added child n rest key hq hv hnew hs hr =>
    obtain rfl := View.eq_of hs hr
    have hkk : k ≠ key := by
      rintro rfl
      rw [hv] at hkid
      cases hkid
    exact .inl ⟨k, (Function.update_of_ne hkk ..).trans hkid⟩
  | removed hq hkey hs hr₀ hr =>
    obtain rfl := View.eq_of hs hr
    refine hupdate hkey (.inr ⟨_, hI.removing _ _ (hq ▸ List.mem_cons_self), ?_⟩)
    exact .inr (.inr (.inl rfl))
  | detached hs hr₀ hr =>
    obtain rfl := View.eq_of hs hr
    obtain ⟨id', hkey, hcall, hd⟩ := hI.detached _ (by rw [hr₀])
    refine hupdate hkey (hd.imp_right fun hd => ⟨_, hcall, .inr (.inr (.inl ?_))⟩)
    rw [hd]
    rfl
  | departed hd hkey hs _ hr =>
    obtain rfl := View.eq_of hs hr
    refine hupdate hkey ((hk.departing _ hd).imp_right fun ⟨w, hw, hid⟩ => ⟨w.1, ?_, .inl ?_⟩)
    · rw [← hid]
      exact hI.waiting w hw
    · exact List.mem_map_of_mem hw
  | same hs hr | addRefused _ _ hs hr | removeRefused _ _ hs _ hr | aborts _ _ hs _ hr
  | waits _ _ hs _ hr | gone hs _ hr | timer _ _ hs _ hr | abandoned _ _ hs _ hr | replied hs _ hr =>
    obtain rfl := View.eq_of hs hr
    exact .inl ⟨k, hkid⟩

/-- A removal under way goes on, or its child is still there. -/
theorem Agreement.serves_to (hI : Agreement v registry calls plain) (h : ViewStep c a v v')
    (hk : KeepsPromise c a v registry plain) {n : Nat} {id : String}
    (hcall : calls[n]? = some (.removing id)) (hn : v.Serves n) (hr : registry.contains id = true)
    (hp : id ∉ plain) : v'.HasChild id ∨ v'.Serves n := by
  rcases hn with hn | ⟨d, hd, rfl, herr⟩ | hn | hn
  · obtain ⟨w, hw, rfl⟩ := List.mem_map.1 hn
    have hid : w.2.childId = id := by
      have := (hI.waiting w hw).symm.trans hcall
      simpa using this
    have hstay (hr : v'.removals = v.removals) : v'.Serves w.1 := .inl (by rw [hr]; exact hn)
    have htail {ws : List (Nat × Removal)} {r : Option Detachment}
        {s : Option (Nat × Except ControlError Unit)} (hr₀ : v.removals = ⟨ws, r, s⟩) : w ∈ ws := by
      rw [hr₀] at hw
      exact hw
    cases h with
    | same _ hr | added _ _ _ _ hr | addRefused _ _ _ hr | departed _ _ _ _ hr => exact .inr (hstay hr)
    | removeRefused _ _ _ hr₀ hr | removed _ _ _ hr₀ hr | aborts _ _ _ hr₀ hr
    | detached _ hr₀ hr | replied _ hr₀ hr =>
      exact .inr (.inl (by rw [hr]; exact List.mem_map_of_mem (htail hr₀)))
    | waits _ _ _ hr₀ hr =>
      exact .inr (.inl (by rw [hr]; exact List.mem_cons_of_mem _ (List.mem_map_of_mem (htail hr₀))))
    | gone _ hr₀ hr =>
      rcases List.mem_cons.1 (htail hr₀) with rfl | hw'
      · exact .inr (.inr (.inr (.inl (by rw [hr]))))
      · exact .inr (.inl (by rw [hr]; exact List.mem_map_of_mem hw'))
    | timer ht hkey _ hr₀ hr =>
      rcases List.mem_cons.1 (htail hr₀) with rfl | hw'
      · obtain ⟨rfl, hok⟩ := hk.timedOut _ _ ht hkey
        have hok := hok.resolve_left (hid ▸ hp)
        exact .inr (.inr (.inl ⟨_, by rw [hr], rfl, by rw [hok]; rfl⟩))
      · exact .inr (.inl (by rw [hr]; exact List.mem_map_of_mem hw'))
    | abandoned ha _ hs hr₀ hr =>
      rcases List.mem_cons.1 (htail hr₀) with rfl | hw'
      · refine .inl ?_
        obtain ⟨k, hk⟩ := (hk.abandoned _ ha).resolve_right (by rw [hid, ‹registry.contains id = true›]; exact nofun)
        rw [hid] at hk
        obtain rfl := View.eq_of hs hr
        exact ⟨k, hk⟩
      · exact .inr (.inl (by rw [hr]; exact List.mem_map_of_mem hw'))
  · have hstay (hr : v'.removals = v.removals) : v'.Serves d.reply :=
      .inr (.inl ⟨d, by rw [hr, hd], rfl, herr⟩)
    cases h with
    | same _ hr | added _ _ _ _ hr | addRefused _ _ _ hr | departed _ _ _ _ hr => exact .inr (hstay hr)
    | detached _ hr₀ hr =>
      rw [hr₀] at hd
      cases hd
      exact .inr (.inr (.inr (.inl (by rw [hr, herr]; rfl))))
    | removeRefused _ _ _ hr₀ _ | removed _ _ _ hr₀ _ | aborts _ _ _ hr₀ _ | waits _ _ _ hr₀ _
    | gone _ hr₀ _ | timer _ _ _ hr₀ _ | abandoned _ _ _ hr₀ _ | replied _ hr₀ _ =>
      rw [hr₀] at hd
      cases hd
  · have hstay (hr : v'.removals = v.removals) : v'.Serves n :=
      .inr (.inr (.inl (by rw [hr, hn])))
    cases h with
    | same _ hr | added _ _ _ _ hr | addRefused _ _ _ hr | departed _ _ _ _ hr => exact .inr (hstay hr)
    | replied hs hr₀ hr =>
      rw [hr₀] at hn
      cases hn
      obtain rfl := View.eq_of hs hr
      exact .inr (.inr (.inr (.inr (Function.update_self ..))))
    | removeRefused _ _ _ hr₀ _ | removed _ _ _ hr₀ _ | aborts _ _ _ hr₀ _ | waits _ _ _ hr₀ _
    | gone _ hr₀ _ | timer _ _ _ hr₀ _ | abandoned _ _ _ hr₀ _ | detached _ hr₀ _ =>
      rw [hr₀] at hn
      cases hn
  · exact .inr (.inr (.inr (.inr (hI.answer_stays h hn))))

theorem Agreement.detached_to (hI : Agreement v registry calls plain) (h : ViewStep c a v v')
    (hk : KeepsPromise c a v registry plain) {d : Detachment} (hd : v'.removals.detaching = some d) :
    ∃ id, v'.child d.key = some id ∧ calls[d.reply]? = some (.removing id) ∧
      (id ∈ plain ∨ d.removalError = none) := by
  cases h with
  | same hs hr | addRefused _ _ hs hr =>
    obtain rfl := View.eq_of hs hr
    exact hI.detached d hd
  | @added child n rest key hq hv hnew hs hr =>
    obtain rfl := View.eq_of hs hr
    obtain ⟨id, hkey, hd⟩ := hI.detached d hd
    have hkk : d.key ≠ key := by
      rintro hkk
      rw [hkk, hv] at hkey
      cases hkey
    exact ⟨id, (Function.update_of_ne hkk ..).trans hkey, hd⟩
  | departed _ _ _ hr₀ hr =>
    rw [hr, hr₀] at hd
    cases hd
  | aborts hq hkey hs hr₀ hr =>
    obtain rfl := View.eq_of hs hr
    cases hd
    exact ⟨_, hkey, hI.removing _ _ (hq ▸ List.mem_cons_self), .inr rfl⟩
  | timer ht hkey hs hr₀ hr =>
    obtain rfl := View.eq_of hs hr
    cases hd
    obtain ⟨rfl, hok⟩ := hk.timedOut _ _ ht hkey
    refine ⟨_, hkey, hI.waiting _ (by rw [hr₀]; exact List.mem_cons_self), hok.imp_right fun hok => ?_⟩
    show (if _ then _ else _) = none
    rw [hok]
    rfl
  | removeRefused _ _ _ _ hr | removed _ _ _ _ hr | waits _ _ _ _ hr | gone _ _ hr
  | abandoned _ _ _ _ hr | detached _ _ hr | replied _ _ hr =>
    rw [hr] at hd
    cases hd

theorem Agreement.step (hI : Agreement v registry calls plain) (h : ViewStep c a v v')
    (hk : KeepsPromise c a v registry plain)
    (hplain : ∀ id, id ∈ plain' ↔ id ∈ plain ∧ v'.HasChild id) :
    Agreement v' registry calls plain' := by
  have hadds (child : ChildSpec) (n : Nat) (hq : .addChild child n ∈ v.queue) :
      Adds calls v n child.id := by
    refine ⟨_, hI.adding child n hq, ?_⟩
    have hmem : n ∈ v.pending := List.mem_append_left _ (List.mem_map_of_mem hq)
    simp [Call.adds, hI.unanswered n hmem]
  refine ⟨hI.toAwaited.step h, hI.named, fun id hid => ((hplain id).1 hid).2, fun d hd => ?_,
    fun id hc hid => ?_, fun n id hn => ?_, fun id hr hid => ?_, fun id hid hr => ?_⟩
  · obtain ⟨id, hkey, hcall, hor⟩ := hI.detached_to h hk hd
    exact ⟨id, hkey, hcall, hor.imp_left fun hp => (hplain id).2 ⟨hp, _, hkey⟩⟩
  · rcases h.hasChild hc with hc₀ | ⟨child, n, hq, rfl, -⟩
    · exact hI.registered id hc₀ fun hp => hid ((hplain id).2 ⟨hp, hc⟩)
    · exact (hI.added n child.id (hadds child n hq)).1
  · have hn₀ := hI.adds_of h hn
    obtain ⟨hr, hc₀, huniq⟩ := hI.added n id hn₀
    refine ⟨hr, fun hc => ?_, fun m hm => huniq m (hI.adds_of h hm)⟩
    rcases h.hasChild hc with hold | ⟨child, m, hq, rfl, hans⟩
    · exact (hplain id).2 ⟨hc₀ hold, hc⟩
    · -- the child that is added is that of this call, which has its answer now
      obtain rfl := huniq m (hadds child m hq)
      obtain ⟨call, hcall, hcadds⟩ := hn
      cases hcall.symm.trans (hI.adding child m hq)
      simp [Call.adds, hans] at hcadds
  · have hcase {n : Nat} (hn : Adds calls v n id) : v'.HasChild id ∨ ∃ n, Adds calls v' n id := by
      rcases hI.adds_to h hn with hn | ⟨-, hc⟩
      · exact .inr ⟨n, hn⟩
      · exact .inl hc
    by_cases hp : id ∈ plain
    · obtain ⟨n, hn⟩ := hI.plainAdded id hp hr
      exact (hcase hn).imp_right .inl
    · rcases hI.covered id hr hp with hc | ⟨n, hn⟩ | ⟨n, hcall, hn⟩
      · rcases hI.child_to h hk hc with hc | hc | hc
        · exact .inl hc
        · exact absurd hc hp
        · exact .inr (.inr hc)
      · exact (hcase hn).imp_right .inl
      · rcases hI.serves_to h hk hcall hn hr hp with hc | hn
        · exact .inl hc
        · exact .inr (.inr ⟨n, hcall, hn⟩)
  · obtain ⟨hp, hc⟩ := (hplain id).1 hid
    obtain ⟨n, hn⟩ := hI.plainAdded id hp hr
    rcases hI.adds_to h hn with hn | ⟨hno, -⟩
    · exact ⟨n, hn⟩
    · exact absurd (hI.present id hp) hno

end

/-! ### Steps of the calls -/

/-- The actor that a call in progress is about. -/
def Call.subject : Call → Option String
  | .building id .. | .called id | .removing id => some id
  | .registered child | .adding child => some child.id
  | .returned _ => none

theorem Call.subject_of_adds {call : Call} {answer : Option (Except ControlError Unit)} {id : String}
    (h : call.adds answer id = true) : call.subject = some id := by
  cases call with
  | registered child => simpa [Call.adds, Call.subject] using h
  | adding child => simpa [Call.subject] using (Bool.and_eq_true_iff.1 h).1
  | _ => cases h

namespace View
variable {v : View}

theorem mem_pending_queue {cmd : SupervisorCommand} (h : cmd ∈ v.queue) : cmd.reply ∈ v.pending :=
  List.mem_append_left _ (List.mem_map_of_mem h)

theorem mem_pending_waiting {w : Nat × Removal} (h : w ∈ v.removals.waiting) : w.1 ∈ v.pending :=
  List.mem_append_right _ (List.mem_append_right _ (List.mem_map_of_mem h))

theorem mem_pending_detaching {d : Detachment} (h : v.removals.detaching = some d) :
    d.reply ∈ v.pending := by
  simp [pending, Removals.replies, h]

theorem mem_pending_answering {p : Nat × Except ControlError Unit} (h : v.removals.answering = some p) :
    p.1 ∈ v.pending := by
  simp [pending, Removals.replies, h]

theorem Serves.cases {n : Nat} (h : v.Serves n) : n ∈ v.pending ∨ v.answer n = some (.ok ()) := by
  rcases h with h | ⟨d, hd, rfl, -⟩ | h | h
  · obtain ⟨w, hw, rfl⟩ := List.mem_map.1 h
    exact .inl (mem_pending_waiting hw)
  · exact .inl (mem_pending_detaching hd)
  · exact .inl (mem_pending_answering h)
  · exact .inr h

end View

section
variable {v : View} {registry : ActorRegistry} {calls : List Call} {plain : List String} {n : Nat}
  {call call' : Call}

theorem ActorRegistry.registerEntry_ok {registry registry' : ActorRegistry} {id : String}
    (h : registry.registerEntry id = .ok registry') : id.isEmpty = false ∧ registry.contains id = false ∧
      ∀ i, registry'.contains i = true ↔ i = id ∨ registry.contains i = true := by
  unfold ActorRegistry.registerEntry at h
  split at h
  · cases h
  · rename_i hid
    split at h
    · cases h
    · rename_i hc
      cases h
      exact ⟨by simpa using hid, by simpa using hc, fun i => by simp [ActorRegistry.contains]⟩

theorem ActorRegistry.contains_deregister {registry : ActorRegistry} {id : String}
    (hn : registry.contains "" = false) (i : String) :
    (registry.deregister id).1.contains i = true ↔ i ≠ id ∧ registry.contains i = true := by
  unfold ActorRegistry.deregister
  split
  · rename_i hid
    obtain rfl : id = "" := by simpa using hid
    refine ⟨fun hi => ⟨?_, hi⟩, fun h => h.2⟩
    rintro rfl
    rw [hn] at hi
    cases hi
  · split
    · simp [ActorRegistry.contains, and_comm]
    · rename_i hc
      refine ⟨fun hi => ⟨fun h => hc (h ▸ hi), hi⟩, fun h => h.2⟩

theorem getElem?_setCall (hcall : calls[n]? = some call) (call' : Call) (m : Nat) :
    (calls.set n call')[m]? = if n = m then some call' else calls[m]? := by
  obtain ⟨hlt, -⟩ := List.getElem?_eq_some_iff.1 hcall
  rw [List.getElem?_set, if_pos hlt]

theorem Awaited.set (hI : Awaited v calls) (hcall : calls[n]? = some call) (hn : n ∉ v.pending)
    (hs : v.answer n = none ∨ call'.sent = true) : Awaited v (calls.set n call') := by
  have hset {m : Nat} (hm : m ∈ v.pending) : (calls.set n call')[m]? = calls[m]? := by
    rw [getElem?_setCall hcall, if_neg (ne_of_mem_of_not_mem hm hn).symm]
  refine ⟨hI.nodup, hI.unanswered, fun m hm => ?_, fun child m hq => ?_, fun id m hq => ?_,
    fun w hw => ?_, fun d hd => ?_, fun p hp => ?_⟩
  · by_cases hmn : n = m
    · subst hmn
      refine ⟨call', by rw [getElem?_setCall hcall, if_pos rfl], ?_⟩
      rcases hm with hm | hm
      · exact absurd hm hn
      · exact hs.resolve_left hm
    · rw [getElem?_setCall hcall, if_neg hmn]
      exact hI.sent m hm
  · exact (hset (View.mem_pending_queue hq)).trans (hI.adding child m hq)
  · exact (hset (View.mem_pending_queue hq)).trans (hI.removing id m hq)
  · rw [hset (View.mem_pending_waiting hw)]
    exact hI.waiting w hw
  · rw [hset (View.mem_pending_detaching hd)]
    exact hI.detaching d hd
  · rw [hset (View.mem_pending_answering hp)]
    exact hI.answering p hp

theorem Adds.set_iff (hcall : calls[n]? = some call) (m : Nat) (id : String) :
    Adds (calls.set n call') v m id ↔
      n = m ∧ call'.adds (v.answer n) id = true ∨ n ≠ m ∧ Adds calls v m id := by
  unfold Adds
  rw [getElem?_setCall hcall]
  by_cases hmn : n = m
  · subst hmn
    simp
  · simp [hmn]

theorem Agreement.set (hI : Agreement v registry calls plain) (hcall : calls[n]? = some call)
    (hn : n ∉ v.pending) (hs : v.answer n = none ∨ call'.sent = true)
    (hold : ∀ id, ¬ Adds calls v n id) (hserves : ∀ id, call = .removing id → ¬ v.Serves n)
    (hnew : ∀ id, call'.adds (v.answer n) id = false) :
    Agreement v registry (calls.set n call') plain := by
  have hadds (m : Nat) (id : String) : Adds (calls.set n call') v m id ↔ Adds calls v m id := by
    rw [Adds.set_iff hcall, hnew]
    constructor
    · rintro (⟨-, h⟩ | ⟨-, h⟩)
      · cases h
      · exact h
    · intro h
      exact .inr ⟨fun hm => hold id (hm ▸ h), h⟩
  have hset {m : Nat} (hm : n ≠ m) : (calls.set n call')[m]? = calls[m]? := by
    rw [getElem?_setCall hcall, if_neg hm]
  refine ⟨hI.toAwaited.set hcall hn hs, hI.named, hI.present, fun d hd => ?_, hI.registered, ?_, ?_, ?_⟩
  · obtain ⟨id, hkey, hreply, hor⟩ := hI.detached d hd
    have hne := (ne_of_mem_of_not_mem (View.mem_pending_detaching hd) hn).symm
    exact ⟨id, hkey, (hset hne).trans hreply, hor⟩
  · simpa only [hadds] using hI.added
  · intro id hr hp
    simp only [hadds]
    refine (hI.covered id hr hp).imp_right (Or.imp_right ?_)
    rintro ⟨m, hm, hser⟩
    refine ⟨m, (hset ?_).trans hm, hser⟩
    rintro rfl
    exact hserves id (Option.some.inj (hcall.symm.trans hm)) hser
  · simpa only [hadds] using hI.plainAdded

theorem Agreement.register (hI : Agreement v registry calls plain) {child : ChildSpec}
    {registry' : ActorRegistry} (hcall : calls[n]? = some call) (hn : n ∉ v.pending)
    (hs : v.answer n = none) (hold : ∀ m id, call.adds m id = false) (hrem : ∀ id, call ≠ .removing id)
    (hreg : registry.registerEntry child.id = .ok registry') :
    Agreement v registry' (calls.set n (.registered child)) plain := by
  obtain ⟨hname, hfree, hcontains⟩ := ActorRegistry.registerEntry_ok hreg
  have hfree' (h : registry.contains child.id = true) : False := by rw [hfree] at h; cases h
  have hadds (m : Nat) (id : String) : Adds (calls.set n (.registered child)) v m id ↔
      n = m ∧ child.id = id ∨ n ≠ m ∧ Adds calls v m id := by
    rw [Adds.set_iff hcall]
    simp [Call.adds]
  have hne {m : Nat} {id : String} (h : Adds calls v m id) : n ≠ m := by
    rintro rfl
    obtain ⟨call₁, hcall₁, h⟩ := h
    cases hcall.symm.trans hcall₁
    rw [hold] at h
    cases h
  have hset {m : Nat} (hm : n ≠ m) : (calls.set n (.registered child))[m]? = calls[m]? := by
    rw [getElem?_setCall hcall, if_neg hm]
  refine ⟨hI.toAwaited.set hcall hn (.inl hs), fun id hr => ?_, hI.present, fun d hd => ?_,
    fun id hc hp => ?_, fun m id hm => ?_, fun id hr hp => ?_, fun id hp hr => ?_⟩
  · rcases (hcontains id).1 hr with rfl | hr
    · exact hname
    · exact hI.named id hr
  · obtain ⟨id, hkey, hreply, hor⟩ := hI.detached d hd
    have hne := (ne_of_mem_of_not_mem (View.mem_pending_detaching hd) hn).symm
    exact ⟨id, hkey, (hset hne).trans hreply, hor⟩
  · exact (hcontains id).2 (.inr (hI.registered id hc hp))
  · rw [hcontains]
    rcases (hadds m id).1 hm with ⟨rfl, rfl⟩ | ⟨hnm, hm⟩
    · refine ⟨.inl rfl, fun hc => ?_, fun k hk => ?_⟩
      · by_contra hp
        exact hfree' (hI.registered child.id hc hp)
      · rcases (hadds k child.id).1 hk with ⟨rfl, -⟩ | ⟨-, hk⟩
        · rfl
        · exact absurd (hI.added k child.id hk).1 hfree'
    · obtain ⟨hr, hc, huniq⟩ := hI.added m id hm
      refine ⟨.inr hr, hc, fun k hk => ?_⟩
      rcases (hadds k id).1 hk with ⟨rfl, rfl⟩ | ⟨-, hk⟩
      · exact absurd hr hfree'
      · exact huniq k hk
  · rcases (hcontains id).1 hr with rfl | hr
    · exact .inr (.inl ⟨n, (hadds n child.id).2 (.inl ⟨rfl, rfl⟩)⟩)
    · rcases hI.covered id hr hp with hc | ⟨m, hm⟩ | ⟨m, hm, hser⟩
      · exact .inl hc
      · exact .inr (.inl ⟨m, (hadds m id).2 (.inr ⟨hne hm, hm⟩)⟩)
      · refine .inr (.inr ⟨m, (hset ?_).trans hm, hser⟩)
        rintro rfl
        exact hrem id (Option.some.inj (hcall.symm.trans hm))
  · rcases (hcontains id).1 hr with rfl | hr
    · exact ⟨n, (hadds n child.id).2 (.inl ⟨rfl, rfl⟩)⟩
    · obtain ⟨m, hm⟩ := hI.plainAdded id hp hr
      exact ⟨m, (hadds m id).2 (.inr ⟨hne hm, hm⟩)⟩

theorem Agreement.deregister (hI : Agreement v registry calls plain) {id : String}
    {result : Except DynamicActorError Unit} (hcall : calls[n]? = some call) (hn : n ∉ v.pending)
    (hsub : call.subject = some id) (hc : v.HasChild id → id ∈ plain)
    (ha : ∀ m, Adds calls v m id → m = n) :
    Agreement v (registry.deregister id).1 (calls.set n (.returned result)) plain := by
  have hempty : registry.contains "" = false := by
    by_contra hr
    exact absurd (hI.named "" (by simpa using hr)) (by decide)
  have hcontains (i : String) : (registry.deregister id).1.contains i = true ↔
      i ≠ id ∧ registry.contains i = true := ActorRegistry.contains_deregister hempty i
  have hnot (m : Nat) (i : String) (hm : Adds (calls.set n (.returned result)) v m i) :
      n ≠ m ∧ Adds calls v m i := by
    rcases (Adds.set_iff hcall m i).1 hm with ⟨-, h⟩ | h
    · cases h
    · exact h
  have hstay {m : Nat} {i : String} (hi : i ≠ id) (hm : Adds calls v m i) :
      Adds (calls.set n (.returned result)) v m i := by
    refine (Adds.set_iff hcall m i).2 (.inr ⟨?_, hm⟩)
    rintro rfl
    obtain ⟨call₁, hcall₁, hadds⟩ := hm
    cases hcall.symm.trans hcall₁
    exact hi (Option.some.inj ((Call.subject_of_adds hadds).symm.trans hsub))
  have hset {m : Nat} (hm : n ≠ m) : (calls.set n (.returned result))[m]? = calls[m]? := by
    rw [getElem?_setCall hcall, if_neg hm]
  refine ⟨hI.toAwaited.set hcall hn (.inr rfl), fun i hr => hI.named i ((hcontains i).1 hr).2, hI.present,
    fun d hd => ?_, fun i hc' hp => ?_, fun m i hm => ?_, fun i hr hp => ?_, fun i hp hr => ?_⟩
  · obtain ⟨i, hkey, hreply, hor⟩ := hI.detached d hd
    have hne := (ne_of_mem_of_not_mem (View.mem_pending_detaching hd) hn).symm
    exact ⟨i, hkey, (hset hne).trans hreply, hor⟩
  · refine (hcontains i).2 ⟨?_, hI.registered i hc' hp⟩
    rintro rfl
    exact hp (hc hc')
  · obtain ⟨hne, hm⟩ := hnot m i hm
    obtain ⟨hr, hi, huniq⟩ := hI.added m i hm
    refine ⟨(hcontains i).2 ⟨?_, hr⟩, hi, fun k hk => huniq k (hnot k i hk).2⟩
    rintro rfl
    exact hne (ha m hm).symm
  · obtain ⟨hi, hr⟩ := (hcontains i).1 hr
    rcases hI.covered i hr hp with hc' | ⟨m, hm⟩ | ⟨m, hm, hser⟩
    · exact .inl hc'
    · exact .inr (.inl ⟨m, hstay hi hm⟩)
    · refine .inr (.inr ⟨m, (hset ?_).trans hm, hser⟩)
      rintro rfl
      cases hcall.symm.trans hm
      exact hi (Option.some.inj hsub)
  · obtain ⟨hi, hr⟩ := (hcontains i).1 hr
    obtain ⟨m, hm⟩ := hI.plainAdded i hp hr
    exact ⟨m, hstay hi hm⟩

/-- The call sends its command: the phase it comes from, the command and the phase it goes to. -/
inductive Call.Sends (n : Nat) : Call → SupervisorCommand → Call → Prop
  | addChild (child : ChildSpec) : Sends n (.registered child) (.addChild child n) (.adding child)
  | removeChild (id : String) : Sends n (.called id) (.removeChild id n) (.removing id)

/-- The command joins the queue, or is answered `Unavailable`. -/
inductive View.Sent (v : View) (cmd : SupervisorCommand) : View → Prop
  | queued : Sent v cmd ⟨⟨v.child, v.queue ++ [cmd], v.answer⟩, v.removals⟩
  | refused : Sent v cmd ⟨⟨v.child, v.queue,
      Function.update v.answer cmd.reply (some (.error .unavailable))⟩, v.removals⟩

section
variable {v' : View} {cmd : SupervisorCommand}

theorem Call.Sends.reply (hc : call.Sends n cmd call') : cmd.reply = n := by
  cases hc <;> rfl

theorem Call.Sends.sent (hc : call.Sends n cmd call') : call.sent = false ∧ call'.sent = true := by
  cases hc <;> exact ⟨rfl, rfl⟩

theorem Awaited.unsent (hI : Awaited v calls) (hcall : calls[n]? = some call) (hs : call.sent = false) :
    n ∉ v.pending ∧ v.answer n = none := by
  have hnot (h : n ∈ v.pending ∨ v.answer n ≠ none) : False := by
    obtain ⟨call₁, hcall₁, hsent⟩ := hI.sent n h
    cases hcall.symm.trans hcall₁
    rw [hs] at hsent
    cases hsent
  exact ⟨fun h => hnot (.inl h), by_contra fun h => hnot (.inr h)⟩

theorem Awaited.send (hI : Awaited v calls) (hcall : calls[n]? = some call)
    (hc : call.Sends n cmd call') (hv : v.Sent cmd v') : Awaited v' (calls.set n call') := by
  obtain ⟨hn, hans⟩ := hI.unsent hcall hc.sent.1
  have hset : Awaited v (calls.set n call') := hI.set hcall hn (.inl hans)
  have hself : (calls.set n call')[n]? = some call' := by rw [getElem?_setCall hcall, if_pos rfl]
  cases hv with
  | queued =>
    have hperm : (View.mk ⟨v.child, v.queue ++ [cmd], v.answer⟩ v.removals).pending.Perm
        (n :: v.pending) := by
      simp only [View.pending, List.map_append, List.map_cons, List.map_nil, List.append_assoc,
        List.cons_append, List.nil_append, hc.reply]
      exact List.perm_middle
    have hmem (m : Nat) : m ∈ (View.mk ⟨v.child, v.queue ++ [cmd], v.answer⟩ v.removals).pending ↔
        m = n ∨ m ∈ v.pending := by rw [hperm.mem_iff, List.mem_cons]
    refine ⟨hperm.nodup_iff.2 (List.nodup_cons.2 ⟨hn, hset.nodup⟩), fun m hm => ?_, fun m hm => ?_,
      fun child m hq => ?_, fun id m hq => ?_, hset.waiting, hset.detaching, hset.answering⟩
    · rcases (hmem m).1 hm with rfl | hm
      · exact hans
      · exact hset.unanswered m hm
    · rw [hmem, or_assoc] at hm
      rcases hm with rfl | hm
      · exact ⟨call', hself, hc.sent.2⟩
      · exact hset.sent m hm
    · rcases List.mem_append.1 hq with hq | hq
      · exact hset.adding child m hq
      · cases List.mem_singleton.1 hq
        cases hc
        exact hself
    · rcases List.mem_append.1 hq with hq | hq
      · exact hset.removing id m hq
      · cases List.mem_singleton.1 hq
        cases hc
        exact hself
  | refused =>
    rw [hc.reply]
    refine ⟨hset.nodup, fun m hm => ?_, fun m hm => ?_, hset.adding, hset.removing, hset.waiting,
      hset.detaching, hset.answering⟩
    · exact (Function.update_of_ne (ne_of_mem_of_not_mem hm hn) ..).trans (hset.unanswered m hm)
    · by_cases hmn : m = n
      · subst hmn
        exact ⟨call', hself, hc.sent.2⟩
      · refine hset.sent m (hm.imp_right fun h h' => h ?_)
        exact (Function.update_of_ne hmn ..).trans h'

theorem Agreement.send (hI : Agreement v registry calls plain) (hcall : calls[n]? = some call)
    (hc : call.Sends n cmd call') (hv : v.Sent cmd v') :
    Agreement v' registry (calls.set n call') plain := by
  obtain ⟨hn, hans⟩ := hI.unsent hcall hc.sent.1
  have hset {m : Nat} (hm : n ≠ m) : (calls.set n call')[m]? = calls[m]? := by
    rw [getElem?_setCall hcall, if_neg hm]
  have hview : (v'.child = v.child ∧ v'.removals = v.removals) ∧
      (∀ m, n ≠ m → v'.answer m = v.answer m) ∧ v'.answer n ≠ some (.ok ()) := by
    cases hv with
    | queued => exact ⟨⟨rfl, rfl⟩, fun _ _ => rfl, by rw [hans]; exact nofun⟩
    | refused =>
      rw [hc.reply]
      refine ⟨⟨rfl, rfl⟩, fun m hm => Function.update_of_ne hm.symm .., fun h => ?_⟩
      cases (Function.update_self n _ v.answer).symm.trans h
  obtain ⟨⟨hchild, hrem⟩, hother, hself⟩ := hview
  have hhas (id : String) : v'.HasChild id ↔ v.HasChild id := by rw [View.HasChild, hchild]; rfl
  have hadds (m : Nat) (id : String) : Adds (calls.set n call') v' m id ↔ Adds calls v m id := by
    unfold Adds
    by_cases hmn : n = m
    · subst hmn
      rw [getElem?_setCall hcall, if_pos rfl, hcall]
      cases hc with
      | addChild child =>
        simp only [Call.adds, Option.some.injEq, exists_eq_left']
        cases hr : v'.answer n with
        | none => simp
        | some r => cases r with
          | error e => simp
          | ok u => exact absurd hr hself
      | removeChild id => simp [Call.adds]
    · rw [hset hmn, hother m hmn]
  have hserves {m : Nat} (hm : n ≠ m) (h : v.Serves m) : v'.Serves m := by
    unfold View.Serves
    rw [hrem, hother m hm]
    exact h
  refine ⟨hI.toAwaited.send hcall hc hv, hI.named, fun id hp => (hhas id).2 (hI.present id hp),
    fun d hd => ?_, fun id hi => ?_, fun m id hm => ?_, fun id hr hp => ?_, fun id hp hr => ?_⟩
  · rw [hrem] at hd
    obtain ⟨id, hkey, hreply, hor⟩ := hI.detached d hd
    have hne := (ne_of_mem_of_not_mem (View.mem_pending_detaching hd) hn).symm
    exact ⟨id, by rw [hchild, hkey], (hset hne).trans hreply, hor⟩
  · exact hI.registered id ((hhas id).1 hi)
  · simp only [hhas, hadds] at hm ⊢
    exact hI.added m id hm
  · simp only [hhas, hadds]
    refine (hI.covered id hr hp).imp_right (Or.imp_right ?_)
    rintro ⟨m, hm, hser⟩
    have hne : n ≠ m := by
      rintro rfl
      cases hcall.symm.trans hm
      cases hc
    exact ⟨m, (hset hne).trans hm, hserves hne hser⟩
  · simp only [hadds]
    exact hI.plainAdded id hp hr

end

theorem Agreement.snoc (hI : Agreement v registry calls plain)
    (hnew : ∀ answer id, call.adds answer id = false) :
    Agreement v registry (calls ++ [call]) plain := by
  have hold {m : Nat} {call₁ : Call} (hm : calls[m]? = some call₁) :
      (calls ++ [call])[m]? = some call₁ := by
    obtain ⟨hlt, -⟩ := List.getElem?_eq_some_iff.1 hm
    rw [List.getElem?_append_left hlt, hm]
  have hadds (m : Nat) (id : String) : Adds (calls ++ [call]) v m id ↔ Adds calls v m id := by
    constructor
    · rintro ⟨call₁, hm, h⟩
      rcases Nat.lt_or_ge m calls.length with hlt | hge
      · rw [List.getElem?_append_left hlt] at hm
        exact ⟨call₁, hm, h⟩
      · rw [List.getElem?_append_right hge, List.getElem?_singleton] at hm
        split at hm
        · cases hm
          rw [hnew] at h
          cases h
        · cases hm
    · rintro ⟨call₁, hm, h⟩
      exact ⟨call₁, hold hm, h⟩
  refine ⟨⟨hI.nodup, hI.unanswered, fun m hm => ?_, fun child m hq => hold (hI.adding child m hq),
    fun id m hq => hold (hI.removing id m hq), fun w hw => hold (hI.waiting w hw), fun d hd => ?_,
    fun p hp => ?_⟩, hI.named, hI.present, fun d hd => ?_, hI.registered, ?_, fun id hr hp => ?_, ?_⟩
  · obtain ⟨call₁, hcall, hsent⟩ := hI.sent m hm
    exact ⟨call₁, hold hcall, hsent⟩
  · exact (hI.detaching d hd).imp fun _ h => hold h
  · exact (hI.answering p hp).imp fun _ h => hold h
  · obtain ⟨id, hkey, hreply, hor⟩ := hI.detached d hd
    exact ⟨id, hkey, hold hreply, hor⟩
  · simpa only [hadds] using hI.added
  · simp only [hadds]
    exact (hI.covered id hr hp).imp_right (Or.imp_right fun ⟨m, hm, hser⟩ => ⟨m, hold hm, hser⟩)
  · simpa only [hadds] using hI.plainAdded

end

/-! ### Steps of the runtime -/

namespace RuntimeState

/-- Some call has registered the actor `id` and may still be refused its child. -/
def addsActor (s : RuntimeState) (id : String) : Bool :=
  (List.range s.calls.length).any fun n =>
    (s.calls[n]?).any (·.adds (s.supervisor.rt.answer n) id)

/-- The side condition under which the registry keeps agreeing with the children, while the supervisor
runs. A removal is not given up when its child is gone. One that times out aborts the child it is for,
and returns no error unless that is no actor. A marked actor is not deleted when nobody waits for its
removal any more. An id is not taken out of the registry after it has been registered again. -/
def keepsAgreement (s : RuntimeState) : RuntimeAct → Bool
  | .supervisor a =>
    s.supervisor.rt.state != .running ||
      (abandonedRemoval s.supervisor a).all (fun l =>
        s.supervisor.rt.hasChild l.childId || !s.registry.contains l.childId) &&
      (timedOutRemoval s.supervisor a).all (fun l => (s.supervisor.rt.childId l.key).all fun id =>
        id == l.childId && (s.plain.contains id || !l.timeoutIsError)) &&
      (departingChild s.supervisor a).all (fun id => s.plain.contains id ||
        s.supervisor.ctrl.removals.waiting.any (·.2.childId == id))
  | .resume n =>
    match s.calls[n]?, s.supervisor.rt.answer n with
    | some (.removing id), some (.ok ()) =>
      s.supervisor.rt.state != .running || !s.supervisor.rt.hasChild id && !s.addsActor id
    | _, _ => true
  | _ => true

/-- While the supervisor runs, the registry and the children agree up to the calls in progress. -/
def Consistent (s : RuntimeState) : Prop :=
  s.supervisor.rt.state = .running → s.supervisor.ctrl.ended = false →
    Agreement s.supervisor.view s.registry s.calls s.plain

end RuntimeState

theorem SupervisorRuntime.Wf.hasChild_iff {rt : SupervisorRuntime} (h : rt.Wf) (ctrl : Ctrl)
    (id : String) : rt.hasChild id = true ↔ (Config.view ⟨rt, ctrl⟩).HasChild id := by
  rw [hasChild, Option.isSome_iff_exists]
  refine exists_congr fun key => ?_
  rw [h.byId]
  exact Option.map_eq_some_iff.symm

section
variable {s s' : RuntimeState}

theorem RuntimeState.step_supervisor {a : Act} (h : s.step (.supervisor a) = some s') :
    (∀ cmd, a ≠ .send cmd) ∧ ∃ c', TokioSupervisor.step s.supervisor a = some c' ∧
      s' = { s with supervisor := c', plain := s.plain.filter c'.rt.hasChild } := by
  have hmap (ha : s.step (.supervisor a) = (TokioSupervisor.step s.supervisor a).map fun supervisor =>
      { s with supervisor, plain := s.plain.filter supervisor.rt.hasChild }) :
      ∃ c', TokioSupervisor.step s.supervisor a = some c' ∧
        s' = { s with supervisor := c', plain := s.plain.filter c'.rt.hasChild } := by
    obtain ⟨c', hc', rfl⟩ := Option.map_eq_some_iff.1 (ha.symm.trans h)
    exact ⟨c', hc', rfl⟩
  cases a with
  | send cmd => cases h
  | _ => exact ⟨nofun, hmap rfl⟩

theorem RuntimeState.addsActor_iff {id : String} :
    s.addsActor id = true ↔ ∃ n, Adds s.calls s.supervisor.view n id := by
  simp only [addsActor, List.any_eq_true, List.mem_range, Option.any_eq_true]
  constructor
  · rintro ⟨n, -, call, hcall, h⟩
    exact ⟨n, call, hcall, h⟩
  · rintro ⟨n, call, hcall, h⟩
    exact ⟨n, (List.getElem?_eq_some_iff.1 hcall).1, call, hcall, h⟩

/-- The condition on a step of the supervisor, for the view. -/
theorem RuntimeState.keepsPromise {a : Act} (hwf : s.supervisor.rt.Wf)
    (hrun : s.supervisor.rt.state = .running) (hok : s.keepsAgreement (.supervisor a) = true) :
    KeepsPromise s.supervisor a s.supervisor.view s.registry s.plain := by
  simp only [keepsAgreement, hrun, bne_self_eq_false, Bool.false_or, Bool.and_eq_true] at hok
  obtain ⟨⟨hab, htime⟩, hdep⟩ := hok
  refine ⟨fun l hl => ?_, fun l id hl hid => ?_, fun id hid => ?_⟩
  · rw [hl, Option.all_some, Bool.or_eq_true, hwf.hasChild_iff s.supervisor.ctrl] at hab
    simpa using hab
  · rw [hl, Option.all_some] at htime
    rw [show s.supervisor.rt.childId l.key = some id from hid] at htime
    simpa using htime
  · rw [hid, Option.all_some] at hdep
    simpa [Config.view] using hdep

theorem RuntimeState.Consistent.supervisor {a : Act} (hI : s.Consistent) (hs : s.supervisor.Sane)
    (hh : s.supervisor.Halting) (hok : s.keepsAgreement (.supervisor a) = true)
    (hstep : s.step (.supervisor a) = some s') : s'.Consistent := by
  obtain ⟨ha, c', hc', rfl⟩ := RuntimeState.step_supervisor hstep
  intro hrun hend
  have hrun₀ : s.supervisor.rt.state = .running := by
    by_contra hc
    exact (step_rule hs hc').state hs.wf hc hrun
  have hI := hI hrun₀ (ended_of_step hc' hend)
  have hwf' : c'.rt.Wf := (hs.step hc').wf
  refine hI.step (step_view hs hh hc' ha hrun hend) (RuntimeState.keepsPromise hs.wf hrun₀ hok)
    fun id => ?_
  rw [List.mem_filter, hwf'.hasChild_iff c'.ctrl]

theorem RuntimeState.send_view {cmd : SupervisorCommand} (h : s.send cmd = some s') :
    (s'.supervisor.rt.state = s.supervisor.rt.state ∧ s'.supervisor.ctrl = s.supervisor.ctrl) ∧
      s.supervisor.view.Sent cmd s'.supervisor.view ∧
      s' = { s with supervisor := s'.supervisor } := by
  obtain ⟨c', hc', rfl⟩ := Option.map_eq_some_iff.1 h
  obtain ⟨⟨hstate, hctrl⟩, hshown⟩ := step_send hc'
  refine ⟨⟨hstate, hctrl⟩, ?_, rfl⟩
  have hview : c'.view = ⟨c'.rt.shown, s.supervisor.ctrl.removals⟩ := by rw [← hctrl]; rfl
  show s.supervisor.view.Sent cmd c'.view
  rcases hshown with hshown | hshown
  · rw [hview, hshown]
    exact .queued
  · rw [hview, hshown]
    exact .refused

theorem RuntimeState.Consistent.send {n : Nat} {call call' : Call} {cmd : SupervisorCommand}
    (hI : s.Consistent) (hcall : s.calls[n]? = some call) (hc : call.Sends n cmd call')
    (hstep : (s.send cmd).map (·.setCall n call') = some s') : s'.Consistent := by
  obtain ⟨s₁, hsend, rfl⟩ := Option.map_eq_some_iff.1 hstep
  obtain ⟨⟨hstate, hctrl⟩, hsent, hs₁⟩ := send_view hsend
  intro hrun hend
  rw [RuntimeState.setCall] at hrun hend ⊢
  have hI := hI (hstate ▸ hrun) (hctrl ▸ hend)
  have hagree := hI.send hcall hc hsent
  rw [hs₁]
  exact hagree

theorem Awaited.answered {v : View} {calls : List Call} {n : Nat} {result : Except ControlError Unit}
    (h : Awaited v calls) (hn : v.answer n = some result) :
    n ∉ v.pending ∧ (result ≠ .ok () → ¬ v.Serves n) := by
  have hnot : n ∉ v.pending := fun hp => by
    rw [h.unanswered n hp] at hn
    cases hn
  refine ⟨hnot, fun hr hs => ?_⟩
  rcases hs.cases with hp | hok
  · exact hnot hp
  · rw [hn] at hok
    exact hr (Option.some.inj hok)

theorem RuntimeState.Consistent.resume {n : Nat} (hI : s.Consistent) (hs : s.supervisor.Sane)
    (hok : s.keepsAgreement (.resume n) = true) (hstep : s.step (.resume n) = some s') :
    s'.Consistent := by
  obtain ⟨call, hcall, hstep⟩ := Option.bind_eq_some_iff.1 hstep
  have hnot {call₁ : Call} (h : s.calls[n]? = some call₁) : call₁ = call :=
    Option.some.inj (h.symm.trans hcall)
  cases call with
  | building id options peerIds =>
    have hset (call' : Call) (hnew : ∀ answer id, call'.adds answer id = false) :
        (s.setCall n call').Consistent := by
      intro hrun hend
      obtain ⟨hn, hans⟩ := (hI hrun hend).unsent hcall rfl
      refine (hI hrun hend).set hcall hn (.inl hans) ?_ nofun fun id => hnew _ id
      rintro id ⟨call₁, hcall₁, h⟩
      cases hnot hcall₁
      cases h
    cases peerIds with
    | cons peerId peerIds =>
      simp only [RuntimeState.resume] at hstep
      split at hstep
      · cases hstep
        exact hset _ fun _ _ => rfl
      · cases hstep
        exact hset _ fun _ _ => rfl
    | nil =>
      simp only [RuntimeState.resume] at hstep
      split at hstep
      · cases hstep
        exact hset _ fun _ _ => rfl
      · rename_i registry hreg
        cases hstep
        intro hrun hend
        obtain ⟨hn, hans⟩ := (hI hrun hend).unsent hcall rfl
        exact (hI hrun hend).register hcall hn hans (fun _ _ => rfl) (fun _ => nofun) hreg
  | registered child => exact hI.send hcall (.addChild child) hstep
  | adding child =>
    obtain ⟨result, hans, rfl⟩ := Option.map_eq_some_iff.1 hstep
    cases result with
    | ok u =>
      intro hrun hend
      refine (hI hrun hend).set hcall ((hI hrun hend).answered hans).1 (.inr rfl) ?_ nofun fun _ => rfl
      rintro id ⟨call₁, hcall₁, h⟩
      cases hnot hcall₁
      rw [show s.supervisor.view.answer n = _ from hans] at h
      simp [Call.adds] at h
    | error err =>
      intro hrun hend
      have hI := hI hrun hend
      have hadds : Adds s.calls s.supervisor.view n child.id := by
        refine ⟨_, hcall, ?_⟩
        rw [show s.supervisor.view.answer n = _ from hans]
        simp [Call.adds]
      obtain ⟨-, hc, huniq⟩ := hI.added n child.id hadds
      exact hI.deregister hcall (hI.answered hans).1 rfl hc huniq
  | called id => exact hI.send hcall (.removeChild id) hstep
  | removing id =>
    obtain ⟨result, hans, rfl⟩ := Option.map_eq_some_iff.1 hstep
    cases result with
    | error err =>
      intro hrun hend
      obtain ⟨hn, hserves⟩ := (hI hrun hend).answered hans
      refine (hI hrun hend).set hcall hn (.inr rfl) ?_ (fun _ _ => hserves nofun) fun _ => rfl
      rintro id ⟨call₁, hcall₁, h⟩
      cases hnot hcall₁
      cases h
    | ok u =>
      intro hrun hend
      have hI := hI hrun hend
      have hrun : s.supervisor.rt.state = .running := hrun
      simp only [RuntimeState.keepsAgreement, hcall, hans, hrun, bne_self_eq_false, Bool.false_or,
        Bool.and_eq_true, Bool.not_eq_true'] at hok
      obtain ⟨hgone, hadds⟩ := hok
      refine hI.deregister hcall (hI.answered hans).1 rfl (fun hc => ?_) fun m hm => ?_
      · rw [(hs.wf.hasChild_iff s.supervisor.ctrl id).2 hc] at hgone
        cases hgone
      · rw [RuntimeState.addsActor_iff.2 ⟨m, hm⟩] at hadds
        cases hadds
  | returned result => cases hstep

end

/-! ### The start -/

theorem SupervisorRuntime.insertInitial_hasChild (rt : SupervisorRuntime) (specs : List ChildSpec)
    (id : String) : (rt.insertInitial specs).hasChild id = true ↔
      rt.hasChild id = true ∨ id ∈ specs.map (·.id) := by
  induction specs generalizing rt with
  | nil => simp [insertInitial]
  | cons spec rest ih =>
    rw [insertInitial_cons, ih, List.map_cons, List.mem_cons]
    have hins : (rt.inserted rt.children.slots.length spec).hasChild id = true ↔
        id = spec.id ∨ rt.hasChild id = true := by
      simp only [hasChild, inserted, AList.lookup_isSome, AList.mem_insert]
    rw [hins]
    tauto

theorem SupervisorRuntime.insertInitial_channel (rt : SupervisorRuntime) (specs : List ChildSpec) :
    (rt.insertInitial specs).commandRx = rt.commandRx ∧ (rt.insertInitial specs).trace = rt.trace := by
  induction specs generalizing rt with
  | nil => exact ⟨rfl, rfl⟩
  | cons spec rest ih => exact ih _

theorem ActorRegistry.foldlM_registerEntry {ids : List String} {registry registry' : ActorRegistry}
    (h : ids.foldlM registerEntry registry = .ok registry') : (∀ id ∈ ids, id.isEmpty = false) ∧
      ∀ id, registry'.contains id = true ↔ id ∈ ids ∨ registry.contains id = true := by
  induction ids generalizing registry with
  | nil =>
    cases h
    simp
  | cons id ids ih =>
    rw [List.foldlM_cons] at h
    cases hr : registry.registerEntry id with
    | error e => rw [hr] at h; cases h
    | ok registry₁ =>
      rw [hr] at h
      obtain ⟨hids, hcontains⟩ := ih h
      obtain ⟨hid, -, hreg⟩ := registerEntry_ok hr
      refine ⟨List.forall_mem_cons.2 ⟨hid, hids⟩, fun i => ?_⟩
      rw [hcontains, hreg, List.mem_cons]
      tauto

/-- A built runtime: the registered ids are those of the actors, and the actors are children. -/
theorem SupervisedActors.buildRuntime_ok {s : SupervisedActors} {builder : SupervisorBuilder} {r : Runtime}
    (h : s.buildRuntime builder = .ok r) : r.supervisor.Accepted ∧
      (∀ id, r.registry.contains id = true ↔ id ∈ s.actorSet) ∧
      (∀ id ∈ s.actorSet, id.isEmpty = false ∧ id ∈ r.supervisor.children.map (·.id)) := by
  unfold buildRuntime at h
  cases hv : s.validateOverrides with
  | error e => rw [hv] at h; cases h
  | ok u =>
    rw [hv, ok_bind] at h
    cases hr : s.actorSet.foldlM ActorRegistry.registerEntry ⟨[]⟩ with
    | error e => rw [hr] at h; cases h
    | ok registry =>
      rw [hr] at h
      cases hb : SupervisorBuilder.build { builder with children := builder.children ++ s.actorChildren } with
      | error e => simp only [Except.mapError, ok_bind, hb] at h; cases h
      | ok config =>
        simp only [Except.mapError, ok_bind, hb, pure_eq_ok, Except.ok.injEq] at h
        subst h
        obtain ⟨hids, hcontains⟩ := ActorRegistry.foldlM_registerEntry hr
        obtain ⟨hchildren, -, -⟩ := SupervisorBuilder.build_ok hb
        refine ⟨⟨_, hb⟩, fun id => ?_, fun id hid => ⟨hids id hid, ?_⟩⟩
        · rw [hcontains]
          simp [ActorRegistry.contains]
        · rw [hchildren]
          simp only [List.map_append, List.mem_append, actorChildren, List.map_map, List.mem_map]
          exact .inr ⟨id, hid, rfl⟩

theorem Runtime.spawn_consistent {s : SupervisedActors} {builder : SupervisorBuilder} {r : Runtime}
    (h : s.buildRuntime builder = .ok r) (env : StartEnv) : (r.spawn env).Consistent := by
  obtain ⟨hacc, hreg, hactors⟩ := SupervisedActors.buildRuntime_ok h
  intro _ _
  have hhas (id : String) : (r.spawn env).supervisor.view.HasChild id ↔
      id ∈ r.supervisor.children.map (·.id) := by
    refine ((hacc.fresh env).wf.hasChild_iff _ id).symm.trans ?_
    rw [SupervisorRuntime.new, SupervisorRuntime.insertInitial_hasChild]
    simp [hasChild]
  have hanswer (n : Nat) : (r.spawn env).supervisor.view.answer n = none := by
    show (SupervisorRuntime.new r.supervisor env).trace.findSome? _ = none
    rw [SupervisorRuntime.new, (SupervisorRuntime.insertInitial_channel _ _).2]
    rfl
  have hqueue : (r.spawn env).supervisor.view.queue = [] := by
    show (SupervisorRuntime.new r.supervisor env).commandRx.queue = []
    rw [SupervisorRuntime.new, (SupervisorRuntime.insertInitial_channel _ _).1]
  have hpending : (r.spawn env).supervisor.view.pending = [] := by
    rw [View.pending, hqueue]
    rfl
  have hplain (id : String) : id ∈ (r.spawn env).plain ↔
      id ∈ r.supervisor.children.map (·.id) ∧ r.registry.contains id = false := by
    simp [Runtime.spawn, -List.mem_map]
  have hremovals : (r.spawn env).supervisor.view.removals = ⟨[], none, none⟩ := rfl
  have hadds (n : Nat) (id : String) : ¬ Adds (r.spawn env).calls (r.spawn env).supervisor.view n id := by
    rintro ⟨call, hcall, -⟩
    cases hcall
  refine ⟨⟨?_, ?_, ?_, ?_, ?_, ?_, ?_, ?_⟩, fun id hid => ?_, fun id hid => ?_, ?_,
    fun id hc hp => ?_, fun n id hn => absurd hn (hadds n id), fun id hr hp => ?_, fun id hp hr => ?_⟩
  · rw [hpending]
    exact .nil
  · intro n hn
    rw [hpending] at hn
    cases hn
  · intro n hn
    rw [hpending, hanswer] at hn
    simp at hn
  · rw [hqueue]
    intro n id hn
    cases hn
  · rw [hqueue]
    intro n id hn
    cases hn
  · intro w hw
    rw [hremovals] at hw
    exact absurd hw List.not_mem_nil
  · intro d hd
    rw [hremovals] at hd
    cases hd
  · intro p hp
    rw [hremovals] at hp
    cases hp
  · exact (hactors id ((hreg id).1 hid)).1
  · exact (hhas id).2 ((hplain id).1 hid).1
  · intro d hd
    rw [hremovals] at hd
    cases hd
  · by_contra hno
    exact hp ((hplain id).2 ⟨(hhas id).1 hc, by rw [← Bool.not_eq_true]; exact hno⟩)
  · exact .inl ((hhas id).2 (hactors id ((hreg id).1 hr)).2)
  · cases ((hplain id).1 hp).2.symm.trans hr

/-! ### Runs -/

/-- The registry and the children agree on the id: it is registered exactly if the supervisor has a
child for that actor, and it can be added again once there is no child of that name. -/
structure RuntimeState.Agrees (s : RuntimeState) (id : String) : Prop where
  registered : s.registry.contains id = true ↔ s.supervisor.rt.hasChild id = true ∧ id ∉ s.plain
  again : s.supervisor.rt.hasChild id = false → id.isEmpty = false →
    ∃ registry, s.registry.registerEntry id = .ok registry

theorem Agreement.agrees {s : RuntimeState}
    (hI : Agreement s.supervisor.view s.registry s.calls s.plain) (hwf : s.supervisor.rt.Wf) {id : String}
    (hidle : ∀ call ∈ s.calls, call.subject ≠ some id) : s.Agrees id := by
  have hadds (n : Nat) : ¬ Adds s.calls s.supervisor.view n id := fun ⟨call, hcall, h⟩ =>
    hidle call (List.mem_of_getElem? hcall) (Call.subject_of_adds h)
  have hreg : s.registry.contains id = true ↔ s.supervisor.rt.hasChild id = true ∧ id ∉ s.plain := by
    rw [hwf.hasChild_iff s.supervisor.ctrl]
    refine ⟨fun hr => ?_, fun ⟨hc, hp⟩ => hI.registered id hc hp⟩
    have hp : id ∉ s.plain := fun hp =>
      let ⟨n, hn⟩ := hI.plainAdded id hp hr
      hadds n hn
    rcases hI.covered id hr hp with hc | ⟨n, hn⟩ | ⟨n, hcall, -⟩
    · exact ⟨hc, hp⟩
    · exact absurd hn (hadds n)
    · exact absurd rfl (hidle _ (List.mem_of_getElem? hcall))
  refine ⟨hreg, fun hc hid => ?_⟩
  have hfree : s.registry.contains id = false := by
    rw [← Bool.not_eq_true, hreg, hc]
    exact fun h => Bool.false_ne_true h.1
  simp [ActorRegistry.registerEntry, hid, hfree]

theorem RuntimeState.supervisor_of_step {s s' : RuntimeState} {a : RuntimeAct}
    (h : s.step a = some s') : s'.supervisor = s.supervisor ∨
      ∃ b, TokioSupervisor.step s.supervisor b = some s'.supervisor := by
  cases a with
  | supervisor a =>
    obtain ⟨-, c', hc', rfl⟩ := RuntimeState.step_supervisor h
    exact .inr ⟨a, hc'⟩
  | addActor id options => cases h; exact .inl rfl
  | removeActor id => cases h; exact .inl rfl
  | resume n =>
    obtain ⟨call, -, h⟩ := Option.bind_eq_some_iff.1 h
    have hsend {cmd : SupervisorCommand} {call' : Call}
        (h : (s.send cmd).map (·.setCall n call') = some s') :
        ∃ b, TokioSupervisor.step s.supervisor b = some s'.supervisor := by
      obtain ⟨s₁, hs₁, rfl⟩ := Option.map_eq_some_iff.1 h
      obtain ⟨c', hc', rfl⟩ := Option.map_eq_some_iff.1 hs₁
      exact ⟨_, hc'⟩
    cases call with
    | building id options peerIds =>
      cases peerIds with
      | nil =>
        simp only [RuntimeState.resume] at h
        split at h <;> cases h <;> exact .inl rfl
      | cons peerId peerIds =>
        simp only [RuntimeState.resume] at h
        split at h <;> cases h <;> exact .inl rfl
    | registered child => exact .inr (hsend h)
    | adding child =>
      obtain ⟨result, -, rfl⟩ := Option.map_eq_some_iff.1 h
      cases result <;> exact .inl rfl
    | called id => exact .inr (hsend h)
    | removing id =>
      obtain ⟨result, -, rfl⟩ := Option.map_eq_some_iff.1 h
      cases result <;> exact .inl rfl
    | returned result => cases h

theorem RuntimeState.run_supervisor {r : Runtime} {env : StartEnv}
    {ok : RuntimeState → RuntimeAct → Prop} {as : List RuntimeAct} {s : RuntimeState}
    (h : Run RuntimeState.step ok (r.spawn env) as s) :
    ∃ bs, AnyRun TokioSupervisor.step (Config.start r.supervisor env) bs s.supervisor := by
  induction h with
  | nil => exact ⟨[], .nil⟩
  | snoc _ _ hstep ih =>
    obtain ⟨bs, hbs⟩ := ih
    rcases RuntimeState.supervisor_of_step hstep with heq | ⟨b, hb⟩
    · rw [heq]
      exact ⟨bs, hbs⟩
    · exact ⟨_, .snoc hbs trivial hb⟩

/-- In a run of the runtime that keeps the condition, the registry agrees with the children on every id
that no call in progress is about, while the supervisor runs. -/
theorem RuntimeState.run_agrees {actors : SupervisedActors} {builder : SupervisorBuilder} {r : Runtime}
    {env : StartEnv} {as : List RuntimeAct} {s : RuntimeState} (h : actors.buildRuntime builder = .ok r)
    (hrun : Run RuntimeState.step (fun s a => s.keepsAgreement a = true) (r.spawn env) as s)
    (hstate : s.supervisor.rt.state = .running) (hend : s.supervisor.ctrl.ended = false) {id : String}
    (hidle : ∀ call ∈ s.calls, call.subject ≠ some id) : s.Agrees id := by
  have hacc := (SupervisedActors.buildRuntime_ok h).1
  have hsane {as : List RuntimeAct} {s : RuntimeState}
      (hrun : Run RuntimeState.step (fun s a => s.keepsAgreement a = true) (r.spawn env) as s) :
      s.supervisor.Sane ∧ s.supervisor.Halting := by
    obtain ⟨bs, hbs⟩ := RuntimeState.run_supervisor hrun
    exact ⟨run_sane hacc hbs, run_halting hacc hbs⟩
  have hcons : s.Consistent := by
    refine hrun.invariant_of (J := fun s => s.supervisor.Sane ∧ s.supervisor.Halting)
      (fun _ _ => hsane) (Runtime.spawn_consistent h env) ?_
    rintro s a s' ⟨hs, hh⟩ hI hok hstep
    cases a with
    | supervisor a => exact hI.supervisor hs hh hok hstep
    | resume n => exact hI.resume hs hok hstep
    | addActor id options =>
      cases hstep
      exact fun hr he => (hI hr he).snoc fun _ _ => rfl
    | removeActor id =>
      cases hstep
      exact fun hr he => (hI hr he).snoc fun _ _ => rfl
  exact (hcons hstate hend).agrees (hsane hrun).1.wf hidle

/-! ### A runtime of two actors -/

/-- Two actors that stop only when they want to. -/
def coopActors : SupervisedActors where
  actorSet := ["a", "b"]
  defaultRestart := .transient
  defaultShutdown := ⟨.fromSecs 5, .cooperative⟩
  overrides := ∅

def coopBuilder : SupervisorBuilder where
  strategy := .oneForOne
  restartIntensity := ⟨5, .fromSecs 10, .none⟩
  children := []
  controlChannelCapacity := 8
  eventChannelCapacity := 8

def coopRuntime : Runtime where
  supervisor := ⟨.oneForOne, ⟨5, .fromSecs 10, .none⟩, coopActors.actorChildren, 8, 8⟩
  registry := ⟨["b", "a"]⟩

theorem coopRuntime_built : coopActors.buildRuntime coopBuilder = .ok coopRuntime := by
  rfl

/-- `remove_actor` of `a`, which stops by itself. -/
def removedActs : List RuntimeAct :=
  [.supervisor (.run .go), .removeActor "a", .resume 0, .supervisor (.run (.command 2)),
   .supervisor (.finish 0 (.returned (.ok ()))), .supervisor (.run (.join 0)), .supervisor .resume,
   .supervisor .resume, .supervisor .resume, .supervisor .resume, .resume 0]

/-- The condition is met where an actor is removed, and the registry agrees. -/
theorem RuntimeState.run_agrees_removed : ∃ s,
    Run RuntimeState.step (fun s a => s.keepsAgreement a = true) (coopRuntime.spawn ⟨false, 0, 0⟩)
      removedActs s ∧
    (s.registry.contains "a", s.registry.contains "b") = (false, true) ∧ s.Agrees "a" ∧ s.Agrees "b" := by
  have hex : ∃ s,
      Run RuntimeState.step (fun s a => s.keepsAgreement a = true) (coopRuntime.spawn ⟨false, 0, 0⟩)
        removedActs s ∧
      (s.supervisor.rt.state, s.supervisor.ctrl.ended, s.calls.map Call.subject,
        s.registry.contains "a", s.registry.contains "b") =
      (.running, false, [none], false, true) := run_of_execIf_map (by decide +kernel)
  obtain ⟨s, hrun, hs⟩ := hex
  simp only [Prod.mk.injEq] at hs
  obtain ⟨hstate, hend, hcalls, ha, hb⟩ := hs
  have hidle (id : String) : ∀ call ∈ s.calls, call.subject ≠ some id := by
    intro call hc h
    have hmem := List.mem_map_of_mem (f := Call.subject) hc
    rw [hcalls, h] at hmem
    simp at hmem
  exact ⟨s, hrun, by rw [ha, hb], RuntimeState.run_agrees coopRuntime_built hrun hstate hend (hidle "a"),
    RuntimeState.run_agrees coopRuntime_built hrun hstate hend (hidle "b")⟩

/-- `remove_actor` of `a` times out, `a` is aborted and deleted, and the call returns its error. The
actor cannot be added again. -/
def staleActs : List RuntimeAct :=
  [.supervisor (.run .go), .removeActor "a", .resume 0, .supervisor (.run (.command 2)),
   .supervisor (.tick (5 * NANOS_PER_SEC) 0), .supervisor (.run .timer), .supervisor (.run .go),
   .supervisor (.run .timer), .supervisor .resume, .supervisor .resume, .supervisor .resume,
   .supervisor .resume, .supervisor .resume, .resume 0,
   .addActor "a" ⟨.transient, ⟨.fromSecs 5, .cooperative⟩, none, []⟩, .resume 1]

/-- The registry keeps an actor whose child is gone. -/
theorem stale_actor_reached : coopActors.buildRuntime coopBuilder = .ok coopRuntime ∧
    ∃ s, AnyRun RuntimeState.step (coopRuntime.spawn ⟨false, 0, 0⟩) staleActs s ∧
      s.supervisor.rt.state = .running ∧ s.supervisor.ctrl.ended = false ∧
      (∀ call ∈ s.calls, call.subject ≠ some "a") ∧ ¬ s.Agrees "a" := by
  have hex : ∃ s, AnyRun RuntimeState.step (coopRuntime.spawn ⟨false, 0, 0⟩) staleActs s ∧
      (s.supervisor.rt.state, s.supervisor.ctrl.ended, s.calls.map Call.subject,
        s.registry.contains "a", s.supervisor.rt.hasChild "a") =
      (.running, false, [none, none], true, false) :=
    anyRun_of_exec (by decide +kernel)
  obtain ⟨s, hrun, hs⟩ := hex
  simp only [Prod.mk.injEq] at hs
  obtain ⟨hstate, hend, hcalls, hreg, hchild⟩ := hs
  refine ⟨coopRuntime_built, s, hrun, hstate, hend, fun call hc h => ?_, fun h => ?_⟩
  · have hmem := List.mem_map_of_mem (f := Call.subject) hc
    rw [hcalls, h] at hmem
    simp at hmem
  · have hsome := (h.registered.1 hreg).1
    rw [hchild] at hsome
    cases hsome

end TokioSupervisor
