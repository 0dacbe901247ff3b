import LightCtrl.Fault.Recovery

/-!
Recovery driven by clears alone, without a clock. faultmg has no timer: each
clear it handles in RECOVERING makes up a clock reading for the elapsed-time
code below it. The machine here keeps only the mode, the lifecycle, the mask,
the active counters and one bit that says whether half a window is behind.
The projection of faultmg's state runs in step with it, and no reading that
is made up wraps.
-/

namespace LightCtrl

open Runs

/-- The fault state without its three recovery fields. -/
structure RecoveryMachine where
  mode : FaultMode
  lifecycle : LightFaultLifecycle
  activeFaultMask : UInt8
  activeCounters : FaultCounters
  halfWindow : Bool
  deriving DecidableEq, Repr

namespace RecoveryMachine

def initial : RecoveryMachine where
  mode := .normal
  lifecycle := .stable
  activeFaultMask := 0
  activeCounters := faultCountersReset
  halfWindow := false

/-- An error makes the machine ACTIVE at the mode its counters ask for, but
never below the mode of a recovery it interrupts. -/
def record (machine : RecoveryMachine) (errorCode : UInt8) : RecoveryMachine where
  mode :=
    let derived :=
      deriveMode (applyErrorToCounters machine.activeCounters errorCode)
    if machine.lifecycle = .recovering then max machine.mode derived else derived
  lifecycle := .active
  activeFaultMask := machine.activeFaultMask ||| faultMaskForError errorCode
  activeCounters := applyErrorToCounters machine.activeCounters errorCode
  halfWindow := false

/-- Where a machine at this mode rests once its faults are cleared. -/
def restingLifecycle (mode : FaultMode) : LightFaultLifecycle :=
  if mode = .normal then .stable else .recovering

/-- A clear drops the active faults if there are any. In RECOVERING it counts
half a window, and the second half lowers the mode by one level. -/
def clear (machine : RecoveryMachine) : RecoveryMachine :=
  if machine.activeFaultMask ≠ 0 then
    { machine with
      lifecycle := restingLifecycle machine.mode
      activeFaultMask := 0
      activeCounters := faultCountersReset
      halfWindow := false }
  else if machine.lifecycle ≠ .recovering then machine
  else if machine.halfWindow = false then { machine with halfWindow := true }
  else
    { machine with
      mode := faultModeStepDown machine.mode
      lifecycle := restingLifecycle (faultModeStepDown machine.mode)
      halfWindow := false }

def step (machine : RecoveryMachine) : FaultRequest → RecoveryMachine
  | .report errorCode => machine.record errorCode
  | .clear scope =>
      if scope = lightTransportFaultClearAll then machine.clear else machine

end RecoveryMachine

/-- The projection that forgets the millisecond fields. -/
def clockFree (state : LightFaultState) : RecoveryMachine where
  mode := state.mode
  lifecycle := state.lifecycle
  activeFaultMask := state.activeFaultMask
  activeCounters := state.activeCounters
  halfWindow := state.recoveryTicks = 1

/-- Between requests the recovery fields are determined by one bit, and the
window starts where faultmg's own readings put it. -/
structure ClockInvariant (state : LightFaultState) : Prop
    extends RecoveryInvariant state where
  ticks : state.recoveryTicks = 0 ∨ state.recoveryTicks = 1
  elapsed : state.recoveryElapsedMs = 1000 * state.recoveryTicks.toUInt32
  window : state.recoveryWindowStartMs = 0 ∨ state.recoveryWindowStartMs = 1 ∨
    state.recoveryWindowStartMs = 2001 ∨ state.recoveryWindowStartMs = 4001

/-- Every sum and product `observe_recovery` and `observe_recovery_at` compute
from this state, taken over the natural numbers, fits 32 bits. -/
structure SumsFit (state : LightFaultState) : Prop where
  nextTick : state.recoveryTicks.toNat + 1 < 2 ^ 32
  windowEnd : (openRecoveryWindow state).recoveryWindowStartMs.toNat +
    lightFaultRecoveryWindowMs.toNat < 2 ^ 32
  tickLength : (state.recoveryTicks.toNat + 1) *
    (lightFaultRecoveryWindowMs / lightFaultRecoveryWindowTicks).toNat < 2 ^ 32
  tickEnd : (openRecoveryWindow state).recoveryWindowStartMs.toNat +
    (state.recoveryTicks.toNat + 1) *
      (lightFaultRecoveryWindowMs / lightFaultRecoveryWindowTicks).toNat < 2 ^ 32
  progress : (recoveryElapsed (openRecoveryWindow state)
      (recoveryObservationTime state)).toNat *
    lightFaultRecoveryWindowTicks.toNat < 2 ^ 32

theorem clockInvariant_reset : ClockInvariant lightFaultStateReset where
  toRecoveryInvariant := recoveryInvariant_reset
  ticks := Or.inl rfl
  elapsed := rfl
  window := Or.inl rfl

private theorem clockInvariant_recordError (state : LightFaultState)
    (errorCode : UInt8) :
    ClockInvariant (lightFaultModeRecordError state errorCode).1 where
  toRecoveryInvariant := recoveryInvariant_recordError state errorCode
  ticks := Or.inl rfl
  elapsed := rfl
  window := Or.inl rfl

private theorem openRecoveryWindow_start {state : LightFaultState}
    (h : ClockInvariant state) :
    (openRecoveryWindow state).recoveryWindowStartMs = 1 ∨
      (openRecoveryWindow state).recoveryWindowStartMs = 2001 ∨
      (openRecoveryWindow state).recoveryWindowStartMs = 4001 := by
  rcases h.window with hstart | hstart | hstart | hstart <;>
    simp [openRecoveryWindow, hstart]

private theorem clockInvariant_clearActive {state : LightFaultState}
    (h : ClockInvariant state) (hrecovery : RecoveryInvariant
      (lightFaultModeClearActive state).1) :
    ClockInvariant (lightFaultModeClearActive state).1 := by
  by_cases hmask : state.activeFaultMask = 0
  · rw [clearActive_of_mask_zero state hmask]
    exact h
  · refine ⟨hrecovery, ?_, ?_, ?_⟩ <;> rw [clearActive_of_mask_ne state hmask]
    · exact Or.inl rfl
    · rfl
    · exact Or.inl rfl

/-- A step down that does not end in NORMAL restarts the window one window
later, which is one of the two later starts. -/
private theorem steppedDown_window {state : LightFaultState}
    (h : ClockInvariant state) (hrecovering : state.lifecycle = .recovering) :
    (steppedDown (openRecoveryWindow state)
        ((openRecoveryWindow state).recoveryWindowStartMs
          + 2000)).recoveryWindowStartMs = 0 ∨
      (steppedDown (openRecoveryWindow state)
        ((openRecoveryWindow state).recoveryWindowStartMs
          + 2000)).recoveryWindowStartMs = 2001 ∨
      (steppedDown (openRecoveryWindow state)
        ((openRecoveryWindow state).recoveryWindowStartMs
          + 2000)).recoveryWindowStartMs = 4001 := by
  have hbudget := h.recovering_start hrecovering
  have hmode : (openRecoveryWindow state).mode = state.mode := rfl
  simp only [steppedDown, hmode]
  split_ifs with hnormal
  · exact Or.inl rfl
  · rcases openRecoveryWindow_start h with hstart | hstart | hstart
    · rw [hstart]
      exact Or.inr (Or.inl rfl)
    · rw [hstart]
      exact Or.inr (Or.inr rfl)
    · have hlast : state.recoveryWindowStartMs = 4001 := by
        simp only [openRecoveryWindow] at hstart
        split at hstart
        · exact absurd hstart (by decide)
        · exact hstart
      rw [hlast] at hbudget
      cases hlevel : state.mode <;> rw [hlevel] at hbudget hnormal
      · exact absurd rfl hnormal
      · exact absurd rfl hnormal
      · exact absurd hbudget (by decide)
      · exact absurd hbudget (by decide)

private theorem clockInvariant_clearedState {state : LightFaultState}
    (h : ClockInvariant state) : ClockInvariant (clearedState state) := by
  have hrecovery := recoveryInvariant_clearedState h.toRecoveryInvariant
  unfold clearedState at hrecovery ⊢
  split_ifs at hrecovery ⊢ with hmask hrecovering
  · exact clockInvariant_clearActive h hrecovery
  · rcases h.ticks with hticks | hticks
    · rw [h.toRecoveryInvariant.first_tick hrecovering hticks]
        at hrecovery ⊢
      exact ⟨hrecovery, Or.inr rfl, rfl, Or.inr (openRecoveryWindow_start h)⟩
    · rw [h.toRecoveryInvariant.second_tick hrecovering hticks]
        at hrecovery ⊢
      refine ⟨hrecovery, Or.inl rfl, rfl, ?_⟩
      rcases steppedDown_window h hrecovering with hstart | hstart | hstart
      · exact Or.inl hstart
      · exact Or.inr (Or.inr (Or.inl hstart))
      · exact Or.inr (Or.inr (Or.inr hstart))
  · exact clockInvariant_clearActive h hrecovery

theorem clockInvariant_step {memory : FaultmgMemory}
    (h : ClockInvariant memory.faultState) (request : FaultRequest) :
    ClockInvariant (request.step memory).faultState := by
  cases request with
  | report errorCode => exact clockInvariant_recordError _ errorCode
  | clear scope =>
      by_cases hscope : scope = lightTransportFaultClearAll
      · subst hscope
        exact clockInvariant_clearedState h
      · rw [FaultRequest.step, FaultRequest.handle,
          handleFaultClear_of_other_scope memory hscope]
        exact h

/-- The start is at most 4001 and one window later still far from the end of
the 32-bit range. -/
theorem ClockInvariant.sumsFit {state : LightFaultState}
    (h : ClockInvariant state) : SumsFit state := by
  have hticks : state.recoveryTicks.toNat ≤ 1 := by
    rcases h.ticks with hticks | hticks <;> simp [hticks]
  have hstart : (openRecoveryWindow state).recoveryWindowStartMs.toNat ≤ 4001 := by
    rcases openRecoveryWindow_start h with hstart | hstart | hstart <;>
      simp [hstart]
  have hwindow : lightFaultRecoveryWindowMs.toNat = 2000 := rfl
  have htick :
      (lightFaultRecoveryWindowMs / lightFaultRecoveryWindowTicks).toNat = 1000 :=
    rfl
  have hcount : lightFaultRecoveryWindowTicks.toNat = 2 := rfl
  have helapsed : (recoveryElapsed (openRecoveryWindow state)
      (recoveryObservationTime state)).toNat ≤ 2000 := by
    unfold recoveryElapsed recoveryObservationTime
    rcases openRecoveryWindow_start h with hstart | hstart | hstart <;>
      rcases h.ticks with hticks | hticks <;>
      rw [hstart, hticks] <;> decide
  refine ⟨by omega, by omega, ?_, ?_, ?_⟩
  · rw [htick]
    omega
  · rw [htick]
    omega
  · rw [hcount]
    omega

private theorem clockFree_recordError (state : LightFaultState)
    (errorCode : UInt8) :
    (clockFree state).record errorCode =
      clockFree (lightFaultModeRecordError state errorCode).1 := by
  unfold RecoveryMachine.record
  by_cases hrecovering : state.lifecycle = .recovering
  · simp [clockFree, hrecovering, recordError_mode_of_recovering]
  · simp [clockFree, hrecovering, recordError_mode_of_not_recovering]

private theorem clockFree_clearedState {state : LightFaultState}
    (h : ClockInvariant state) :
    (clockFree state).clear = clockFree (clearedState state) := by
  unfold clearedState
  split_ifs with hmask hrecovering
  · rw [clearActive_of_mask_ne state hmask]
    by_cases hmode : state.mode = .normal <;>
      simp [RecoveryMachine.clear, RecoveryMachine.restingLifecycle, clockFree,
        hmask, hmode]
  · have hempty : state.activeFaultMask = 0 := not_not.mp hmask
    rcases h.ticks with hticks | hticks
    · rw [h.toRecoveryInvariant.first_tick hrecovering hticks]
      simp [RecoveryMachine.clear, clockFree, openRecoveryWindow, hempty,
        hrecovering, hticks]
    · rw [h.toRecoveryInvariant.second_tick hrecovering hticks]
      simp [RecoveryMachine.clear, RecoveryMachine.restingLifecycle, clockFree,
        steppedDown, openRecoveryWindow, hempty, hrecovering, hticks]
  · have hempty : state.activeFaultMask = 0 := not_not.mp hmask
    rw [clearActive_of_mask_zero state hempty]
    simp [RecoveryMachine.clear, clockFree, hempty, hrecovering]

/-- The step lemma of the refinement. -/
theorem clockFree_step {memory : FaultmgMemory}
    (h : ClockInvariant memory.faultState) (request : FaultRequest) :
    (clockFree memory.faultState).step request =
      clockFree (request.step memory).faultState := by
  cases request with
  | report errorCode => exact clockFree_recordError memory.faultState errorCode
  | clear scope =>
      by_cases hscope : scope = lightTransportFaultClearAll
      · subst hscope
        exact clockFree_clearedState h
      · rw [FaultRequest.step, FaultRequest.handle,
          handleFaultClear_of_other_scope memory hscope]
        simp [RecoveryMachine.step, hscope]

/-- Every run of reports and clears from init: the fault state follows the
machine without a clock, its recovery fields are functions of the machine's
bit, and nothing it computes for the next observation wraps. -/
theorem tick_recovery_refines_clock_free (shmem : LightShmem)
    (faultModeSlot : UInt8) (requests : List FaultRequest) :
    let state := (run FaultRequest.step (faultmgInit shmem faultModeSlot).memory
      requests).faultState
    let machine := run RecoveryMachine.step RecoveryMachine.initial requests
    clockFree state = machine ∧
      state.recoveryTicks = (if machine.halfWindow then 1 else 0) ∧
      state.recoveryElapsedMs = (if machine.halfWindow then 1000 else 0) ∧
      (state.recoveryWindowStartMs = 0 ∨ state.recoveryWindowStartMs = 1 ∨
        state.recoveryWindowStartMs = 2001 ∨
        state.recoveryWindowStartMs = 4001) ∧
      SumsFit state := by
  have hinit : ClockInvariant
      (faultmgInit shmem faultModeSlot).memory.faultState := clockInvariant_reset
  have hsimulation := run_simulation_on
    (fun memory : FaultmgMemory => clockFree memory.faultState)
    (fun memory => ClockInvariant memory.faultState)
    (fun _ request h => clockInvariant_step h request)
    (fun _ request h => clockFree_step h request)
    (faultmgInit shmem faultModeSlot).memory hinit requests
  have hfinal := run_invariant (fun memory => ClockInvariant memory.faultState)
    (fun _ request h => clockInvariant_step h request)
    (faultmgInit shmem faultModeSlot).memory hinit requests
  intro state machine
  have hclockFree : clockFree state = machine := hsimulation.symm
  have hbit : machine.halfWindow = decide (state.recoveryTicks = 1) := by
    rw [← hclockFree]
    rfl
  have helapsed := hfinal.elapsed
  refine ⟨hclockFree, ?_, ?_, hfinal.window, hfinal.sumsFit⟩
  · rcases hfinal.ticks with hticks | hticks <;> rw [hbit, hticks] <;> rfl
  · rcases hfinal.ticks with hticks | hticks <;>
      rw [hticks] at helapsed <;> rw [hbit, helapsed, hticks] <;> rfl

end LightCtrl
