import LightCtrl.Fault.Recovery

/-!
How SAFE_MODE is tied to the hardware counter of the current ACTIVE phase. The
invariant holds whatever codes are reported, known or not, and it is what
keeps softer errors from ever leading to SAFE_MODE by themselves.
-/

namespace LightCtrl

open Runs

structure EscalationInvariant (state : LightFaultState) : Prop where
  inactive_cleared : state.lifecycle ≠ .active →
    state.activeCounters = faultCountersReset
  hardware_safe : 2 ≤ state.activeCounters.hwStateErrors →
    state.mode = .safeMode

theorem escalationInvariant_reset : EscalationInvariant lightFaultStateReset where
  inactive_cleared := fun _ => rfl
  hardware_safe := by decide

theorem deriveMode_eq_safeMode_iff (counters : FaultCounters) :
    deriveMode counters = .safeMode ↔ 2 ≤ counters.hwStateErrors := by
  unfold deriveMode
  split_ifs with hhw hstreak hany
  · exact iff_of_true rfl hhw
  all_goals exact iff_of_false (by simp) hhw

/-- With the derived mode at SAFE_MODE the state is too: an interrupted
recovery only ever raises it. -/
theorem recordError_mode_of_derived_safe (state : LightFaultState)
    (errorCode : UInt8)
    (hderived : deriveMode (applyErrorToCounters state.activeCounters errorCode)
      = .safeMode) :
    (lightFaultModeRecordError state errorCode).1.mode = .safeMode := by
  by_cases hrecovering : state.lifecycle = .recovering
  · rw [recordError_mode_of_recovering state errorCode hrecovering, hderived]
    cases state.mode <;> rfl
  · rw [recordError_mode_of_not_recovering state errorCode hrecovering, hderived]

theorem escalationInvariant_recordError (state : LightFaultState)
    (errorCode : UInt8) :
    EscalationInvariant (lightFaultModeRecordError state errorCode).1 where
  inactive_cleared := by simp
  hardware_safe := by
    intro hhw
    rw [recordError_activeCounters, ← deriveMode_eq_safeMode_iff] at hhw
    exact recordError_mode_of_derived_safe state errorCode hhw

private theorem escalationInvariant_of_cleared {state : LightFaultState}
    (hcleared : state.activeCounters = faultCountersReset) :
    EscalationInvariant state where
  inactive_cleared := fun _ => hcleared
  hardware_safe := by
    rw [hcleared]
    intro hhw
    exact absurd hhw (by decide)

theorem escalationInvariant_clearActive {state : LightFaultState}
    (h : EscalationInvariant state) :
    EscalationInvariant (lightFaultModeClearActive state).1 := by
  by_cases hmask : state.activeFaultMask = 0
  · rw [clearActive_of_mask_zero state hmask]
    exact h
  · rw [clearActive_of_mask_ne state hmask]
    exact escalationInvariant_of_cleared rfl

theorem escalationInvariant_observeRecoveryAt {state : LightFaultState}
    (h : EscalationInvariant state) (nowMs : UInt32) :
    EscalationInvariant (lightFaultModeObserveRecoveryAt state nowMs).1 := by
  have houtcome := observeRecoveryAt_outcome state nowMs
  generalize (lightFaultModeObserveRecoveryAt state nowMs).1 = next at houtcome ⊢
  have hcleared (hrecovering : state.lifecycle = .recovering) :=
    h.inactive_cleared (by simp [hrecovering])
  cases houtcome with
  | ignored _ => exact h
  | opened hrecovering _ _ =>
      exact escalationInvariant_of_cleared (hcleared hrecovering)
  | progressed hrecovering _ _ _ =>
      exact escalationInvariant_of_cleared (hcleared hrecovering)
  | stepped hwindow =>
      exact escalationInvariant_of_cleared (hcleared hwindow.lifecycle)

theorem escalationInvariant_clearedState {state : LightFaultState}
    (h : EscalationInvariant state) : EscalationInvariant (clearedState state) := by
  unfold clearedState
  split_ifs with hmask hrecovering
  · exact escalationInvariant_clearActive h
  · rw [observeRecovery_eq]
    have hopened : EscalationInvariant (openRecoveryWindow state) :=
      ⟨h.inactive_cleared, h.hardware_safe⟩
    exact escalationInvariant_observeRecoveryAt hopened _
  · exact escalationInvariant_clearActive h

/-- Any request of any kind keeps the invariant. -/
theorem escalationInvariant_step {memory : FaultmgMemory}
    (h : EscalationInvariant memory.faultState) (request : FaultRequest) :
    EscalationInvariant (request.step memory).faultState := by
  cases request with
  | report errorCode => exact escalationInvariant_recordError _ errorCode
  | clear scope =>
      by_cases hscope : scope = lightTransportFaultClearAll
      · subst hscope
        exact escalationInvariant_clearedState h
      · rw [FaultRequest.step, FaultRequest.handle,
          handleFaultClear_of_other_scope memory hscope]
        exact h

/-- A fault state that some requests lead to from init. -/
def ReachableFaultState (state : LightFaultState) : Prop :=
  ∃ shmem faultModeSlot memory,
    Reachable FaultRequest.step (faultmgInit shmem faultModeSlot).memory memory ∧
      memory.faultState = state

theorem ReachableFaultState.escalationInvariant {state : LightFaultState}
    (hreach : ReachableFaultState state) : EscalationInvariant state := by
  obtain ⟨shmem, faultModeSlot, memory, hmemory, rfl⟩ := hreach
  exact Reachable.invariant (fun current => EscalationInvariant current.faultState)
    (fun current request hcurrent => escalationInvariant_step hcurrent request)
    hmemory escalationInvariant_reset

/-- Below SAFE_MODE, an error that is not a hardware error does not lead
there. -/
theorem recordError_not_safe {state : LightFaultState}
    (h : EscalationInvariant state) (hmode : state.mode ≠ .safeMode)
    {errorCode : UInt8} (hcode : errorCode ≠ LightErr.hwStateErr) :
    (lightFaultModeRecordError state errorCode).1.mode ≠ .safeMode := by
  have hcounter : (applyErrorToCounters state.activeCounters
      errorCode).hwStateErrors = state.activeCounters.hwStateErrors := by
    rw [applyErrorToCounters]
    split_ifs <;> rfl
  have hderived : deriveMode (applyErrorToCounters state.activeCounters
      errorCode) ≠ .safeMode := by
    rw [ne_eq, deriveMode_eq_safeMode_iff, hcounter]
    exact fun hhw => hmode (h.hardware_safe hhw)
  by_cases hrecovering : state.lifecycle = .recovering
  · rw [recordError_mode_of_recovering state errorCode hrecovering]
    rcases max_choice state.mode (deriveMode (applyErrorToCounters
      state.activeCounters errorCode)) with heq | heq
    · rwa [heq]
    · rwa [heq]
  · rwa [recordError_mode_of_not_recovering state errorCode hrecovering]

end LightCtrl
