import TokioSupervisor.Runtime.Start

/-!
# Indices into the slab

A restart holds the slab key of the failed child while it waits for its delay, and the commands that
are handled meanwhile may remove that child. `keepsSlot` says that the key is still occupied when the
delay is over; under it no index misses its slot. The first restart that breaks it panics
(`vacantSlot_panics`), and a removal during the delay does break it (`vacant_slot_reached`).
-/

namespace TokioSupervisor
open Lib SupervisorRuntime

/-- When the delay of a restart is over, the key it goes on to index is occupied. The group restart
indexes its key only to log it. -/
def keepsSlot (c : Config) : Bool :=
  match c.ctrl with
  | .ret (.push (.oneForOneDelay key _) _) (.ok true) => c.rt.children.contains key
  | .ret (.push (.oneForAllDelay key) _) (.ok true) =>
    !c.rt.info.debugEnabled || c.rt.children.contains key
  | _ => true

/-- The panic that ended the run. -/
def Ctrl.panic : Ctrl → Option Panic
  | .panicked p => some p
  | _ => none

theorem Rule.panicked {rt rt' : SupervisorRuntime} {ctrl : Ctrl} {a : Act} {p : Panic}
    (h : Rule rt ctrl a rt' (.panicked p)) :
    ctrl = .panicked p ∨ p = .instantOverflow ∨ keepsSlot ⟨rt, ctrl⟩ = false := by
  cases h with
  | env h => exact .inl rfl
  | move h =>
    cases h with
    | removalShutdownOk hr => cases hr
    | removalJoinOk hr => cases hr
  | overflow => exact .inr (.inl rfl)
  | vacantOne he => exact .inr (.inr (by simp [keepsSlot, Slab.contains, he]))
  | vacantAll hd he => exact .inr (.inr (by simp [keepsSlot, Slab.contains, he, hd]))
  | start hl => rcases hl.ctrl with ⟨_, hl⟩ | hl <;> cases hl
  | loop hc hl => rcases hl.ctrl with ⟨_, hl⟩ | hl <;> cases hl
  | command hh hv hq ho => cases ho
  | join hh hf ho => cases ho
  | drainJoin hf hd hn => cases hn
  | drainNext hd hn => cases hn
  | removalSeen hr => cases hr

/-- In a run whose restarts keep their slots no index misses: the only panic left is an instant out
of the clock's range. -/
theorem no_vacant_slot {config : SupervisorConfig} {env : StartEnv} {as : List Act} {c : Config}
    (h : config.Accepted) (hrun : Run step (fun c _ => keepsSlot c) (Config.start config env) as c) :
    c.ctrl.panic = none ∨ c.ctrl.panic = some .instantOverflow := by
  have hall : ∀ p, c.ctrl = .panicked p → p = .instantOverflow := by
    refine hrun.invariant_of (I := fun c => ∀ p, c.ctrl = .panicked p → p = .instantOverflow)
      (fun _ _ h' => run_sane h h') nofun ?_
    rintro c a ⟨rt', ctrl'⟩ hs hI hok hstep p rfl
    rcases (step_rule hs hstep).panicked with hc | hp | hk
    · exact hI p hc
    · exact hp
    · exact absurd (hok.symm.trans hk) nofun
  cases hc : c.ctrl with
  | panicked p => exact .inr (congrArg some (hall p hc))
  | _ => exact .inl rfl

/-- Without its slot the restart does panic. -/
theorem vacantSlot_panics {c : Config} (hk : keepsSlot c = false) :
    ∃ key rt', step c .resume = some ⟨rt', .panicked (.vacantSlot key)⟩ := by
  unfold keepsSlot at hk
  split at hk
  · rename_i key g k hc
    have he : c.rt.children.get key = none := by simpa [Slab.contains] using hk
    exact ⟨key, c.rt.dropReceiver, by
      simp only [step, hc, resume, index_vacant he, error_bind, settle]⟩
  · rename_i key k hc
    have hke : c.rt.info.debugEnabled = true ∧ c.rt.children.get key = none := by
      simpa [Slab.contains] using hk
    exact ⟨key, c.rt.dropReceiver, by
      simp only [step, hc, resume, hke.1, if_true, index_vacant hke.2, error_bind, settle]⟩
  · cases hk

/-! ### A removal during the delay -/

/-- Two children, the first of which is restarted after a second. -/
def slotConfig : SupervisorConfig where
  strategy := .oneForOne
  restartIntensity := ⟨3, .fromSecs 5, .fixed (.fromSecs 1)⟩
  children :=
    [⟨"a", .transient, none, ⟨.fromSecs 1, .abort⟩⟩,
     ⟨"b", .transient, none, ⟨.fromSecs 1, .abort⟩⟩]
  controlChannelCapacity := 8
  eventChannelCapacity := 8

theorem slotConfig_accepted : slotConfig.Accepted :=
  ⟨⟨slotConfig.strategy, slotConfig.restartIntensity, slotConfig.children, 8, 8⟩, rfl⟩

/-- `a` fails, is removed during its delay, and the delay ends. -/
theorem vacant_slot_reached :
    slotConfig.Accepted ∧ ∃ c, AnyRun step (Config.start slotConfig ⟨false, 0, 0⟩)
      [.run .go, .finish 0 (.returned (.error "failed")), .run (.join 0), .send (.removeChild "a" 0),
       .run (.command 2), .resume, .resume, .tick (2 * NANOS_PER_SEC) 0, .run .timer, .resume] c ∧
      c.ctrl.panic = some (.vacantSlot 0) :=
  ⟨slotConfig_accepted, anyRun_of_exec (by decide +kernel)⟩

/-- Without the removal the restart goes through. -/
theorem no_vacant_slot_restart : ∃ c : Config, c.rt.children.iter.map (·.runtime.generation) = [1, 0] ∧
    (c.ctrl.panic = none ∨ c.ctrl.panic = some .instantOverflow) := by
  have hex : ∃ c, Run step (fun c _ => keepsSlot c) (Config.start slotConfig ⟨false, 0, 0⟩)
      [.run .go, .finish 0 (.returned (.error "failed")), .run (.join 0),
        .tick (2 * NANOS_PER_SEC) 0, .run .timer, .resume, .resume, .resume] c ∧
      c.rt.children.iter.map (·.runtime.generation) = [1, 0] := run_of_execIf_map (by decide +kernel)
  obtain ⟨c, hrun, hc⟩ := hex
  exact ⟨c, hc, no_vacant_slot slotConfig_accepted hrun⟩

end TokioSupervisor
