import BrowserBridge.Proofs.Sidecar.Step

/-!
The clock of a keeper.  No step takes longer than its waits.  So all steps of a run return if the
clock goes on for as long as they may wait together.
-/

namespace BrowserBridge.Supervisor

variable {τ : Type} [Host τ]

/-- The time that a step takes at most, in nanoseconds. -/
def Step.span (config : SidecarConfig) : Step → Nat
  | start _ wait => debounce config wait + config.startupTimeout.nanos
  | pass nanos => nanos
  | _ => 0

/-- The time that steps take at most, one after the other. -/
def spanOf (config : SidecarConfig) : List Step → Nat
  | [] => 0
  | step :: rest => step.span config + spanOf config rest

theorem awaitListener_le (marker : String) (port : UInt16) {deadline now : Nat}
    (h : now ≤ deadline) (host : τ) :
    (awaitListener marker port deadline now host).1.2 ≤ deadline := by
  fun_induction awaitListener marker port deadline now host with
  | case1 now host last hlistens => exact h
  | case2 now host last hlistens hover => exact h
  | case3 now host last hlistens hover ih => exact ih (by omega)

theorem clock_settled_le (keeper : Supervisor τ) (port : UInt16) (wait : Nat)
    (pid : Option UInt32) :
    (keeper.settled port wait pid).clock ≤
      keeper.clock + debounce keeper.config wait + keeper.config.startupTimeout.nanos := by
  unfold settled
  dsimp only
  split
  · exact awaitListener_le _ _ (Nat.le_add_right _ _) _
  · exact Nat.le_add_right _ _

theorem config_settled (keeper : Supervisor τ) (port : UInt16) (wait : Nat)
    (pid : Option UInt32) : (keeper.settled port wait pid).config = keeper.config := by
  unfold settled
  dsimp only
  split <;> rfl

/-- One step: the settings stay, and it is over in time. -/
theorem clock_next_le (keeper : Supervisor τ) (step : Step) :
    (keeper.next step).config = keeper.config ∧
      (keeper.next step).clock ≤ keeper.clock + step.span keeper.config := by
  cases step with
  | start port wait =>
      have hwait : keeper.clock + debounce keeper.config wait ≤
          keeper.clock + (Step.start port wait).span keeper.config := by
        rw [Step.span]
        omega
      rw [next]
      rcases keeper.start_cases port wait with
        ⟨-, hstart⟩ | ⟨-, ⟨fault, -, hstart⟩ | ⟨pid, -, hstart⟩⟩
      · rw [hstart]
        exact ⟨rfl, hwait⟩
      · rw [hstart]
        exact ⟨rfl, hwait⟩
      · rw [hstart, Step.span, ← Nat.add_assoc]
        exact ⟨keeper.config_settled port wait pid, keeper.clock_settled_le port wait pid⟩
  | stop port =>
      rw [next]
      cases hlisting : (keeper.listing port).1 with
      | error fault =>
          rw [stop_of_error hlisting]
          exact ⟨rfl, Nat.le_refl _⟩
      | ok processes =>
          obtain ⟨host, hhost⟩ := terminateAll_keeps (keeper.marked processes)
            (keeper.withHost (keeper.listing port).2)
          rw [stop_of_ok hlisting, hhost]
          exact ⟨rfl, Nat.le_refl _⟩
  | isRunning port => exact ⟨rfl, Nat.le_refl _⟩
  | pass nanos => exact ⟨rfl, Nat.le_refl _⟩

/-- A step that does not return is a start whose waits the clock does not hold. -/
theorem clockEnd_le_of_isCut {keeper : Supervisor τ} {step : Step}
    (h : (keeper.event step).isCut = true) :
    Host.clockEnd τ ≤ keeper.clock + step.span keeper.config := by
  cases step with
  | start port wait =>
      rw [event] at h
      cases hstart : (start port wait keeper).1 with
      | ok outcome =>
          rw [hstart] at h
          cases h
      | error abort =>
          obtain ⟨-, hends⟩ := overruns_iff.mp (overruns_of_start_error hstart)
          rwa [Step.span, ← Nat.add_assoc]
  | _ => cases h

/-- A run: its steps return if the clock holds all their waits. -/
theorem returns_of_fits {keeper : Supervisor τ} {steps : List Step}
    (h : keeper.clock + spanOf keeper.config steps < Host.clockEnd τ) : keeper.Returns steps := by
  induction steps generalizing keeper with
  | nil => exact fun event hevent => absurd hevent List.not_mem_nil
  | cons step rest ih =>
      rw [spanOf] at h
      obtain ⟨hconfig, hclock⟩ := keeper.clock_next_le step
      refine returns_cons_iff.mpr ⟨eq_false_of_ne_true fun hcut => ?_, ih (by rw [hconfig]; omega)⟩
      have hends := clockEnd_le_of_isCut hcut
      omega

end BrowserBridge.Supervisor
