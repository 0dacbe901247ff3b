import LightCtrl.Fault.Lifecycle

/-!
When a new fault may lower the fault mode. `record_error` derives the mode
again from the active counters and protects the old mode only when it
interrupts a recovery. Inside an ACTIVE phase nothing protects it: a broken
conflict streak, or a second fault after an interrupted recovery, can lower
the mode without any recovery window. The main theorem gives the exact
condition on the state before the call, for every run.
-/

namespace LightCtrl

open Runs

/-- The active hardware counter once the error is counted. -/
def hwErrorsAfter (state : LightFaultState) (errorCode : UInt8) : UInt32 :=
  if errorCode = LightErr.hwStateErr
  then state.activeCounters.hwStateErrors + 1
  else state.activeCounters.hwStateErrors

/-- The conflict streak once the error is counted. -/
def conflictStreakAfter (state : LightFaultState) (errorCode : UInt8) : UInt32 :=
  if errorCode = LightErr.modeConflict
  then state.activeCounters.consecutiveModeConflicts + 1 else 0

/-- The counter a recognised code increments. -/
def errorCounter (counters : FaultCounters) (errorCode : UInt8) : UInt32 :=
  if errorCode = LightErr.speedLimit then counters.speedLimitErrors
  else if errorCode = LightErr.modeConflict then counters.modeConflictErrors
  else if errorCode = LightErr.invalidCmd then counters.invalidCmdErrors
  else counters.hwStateErrors

/-- The new error wraps the only non-zero active counter to zero. -/
def OnlyCounterWraps (state : LightFaultState) (errorCode : UInt8) : Prop :=
  conflictStreakAfter state errorCode < 3 ∧
    ∀ other, RecognisedError other →
      errorCounter state.activeCounters other =
        if other = errorCode then 0xFFFFFFFF else 0

/-- The condition under which a new fault keeps the severity: in an ACTIVE
phase, the threshold of the mode the phase stands in is met with the new
fault counted. -/
def KeepsSeverity (state : LightFaultState) (errorCode : UInt8) : Prop :=
  state.lifecycle = .active →
    (state.mode = .safeMode → 2 ≤ hwErrorsAfter state errorCode) ∧
    (state.mode = .degraded → 2 ≤ hwErrorsAfter state errorCode ∨
      3 ≤ conflictStreakAfter state errorCode) ∧
    (state.mode = .warn → ¬ OnlyCounterWraps state errorCode)

/-- A code outside of the four is counted in the total only. -/
theorem applyErrorToCounters_of_unrecognised {errorCode : UInt8}
    (hcode : ¬ RecognisedError errorCode) (counters : FaultCounters) :
    applyErrorToCounters counters errorCode =
      { counters with
        totalErrors := counters.totalErrors + 1
        consecutiveModeConflicts := 0 } := by
  simp only [RecognisedError, not_or] at hcode
  obtain ⟨hspeed, hconflict, hinvalid, hhw⟩ := hcode
  simp only [applyErrorToCounters, if_neg hspeed, if_neg hconflict,
    if_neg hinvalid, if_neg hhw]

/-- Of the four counters an error changes its own only. -/
theorem errorCounter_applyErrorToCounters (counters : FaultCounters)
    {probe : UInt8} (hprobe : RecognisedError probe) (errorCode : UInt8) :
    errorCounter (applyErrorToCounters counters errorCode) probe =
      if errorCode = probe then errorCounter counters probe + 1
      else errorCounter counters probe := by
  by_cases hcode : RecognisedError errorCode
  · rcases hcode with rfl | rfl | rfl | rfl <;>
      rcases hprobe with rfl | rfl | rfl | rfl <;> rfl
  · have hother : errorCode ≠ probe := fun hsame => hcode (hsame ▸ hprobe)
    rw [if_neg hother, applyErrorToCounters_of_unrecognised hcode]
    rfl

theorem applyErrorToCounters_hwStateErrors (state : LightFaultState)
    (errorCode : UInt8) :
    (applyErrorToCounters state.activeCounters errorCode).hwStateErrors =
      hwErrorsAfter state errorCode :=
  errorCounter_applyErrorToCounters state.activeCounters
    (Or.inr (Or.inr (Or.inr rfl))) errorCode

/-- A streak goes on with a conflict and breaks with any other code. -/
theorem applyErrorToCounters_consecutiveModeConflicts (counters : FaultCounters)
    (errorCode : UInt8) :
    (applyErrorToCounters counters errorCode).consecutiveModeConflicts =
      if errorCode = LightErr.modeConflict
      then counters.consecutiveModeConflicts + 1 else 0 := by
  by_cases hcode : RecognisedError errorCode
  · rcases hcode with rfl | rfl | rfl | rfl <;> rfl
  · have hother : errorCode ≠ LightErr.modeConflict :=
      fun hsame => hcode (Or.inr (Or.inl hsame))
    rw [if_neg hother, applyErrorToCounters_of_unrecognised hcode]

theorem safeMode_le_deriveMode_iff (counters : FaultCounters) :
    .safeMode ≤ deriveMode counters ↔ 2 ≤ counters.hwStateErrors := by
  unfold deriveMode
  split_ifs with hhw hstreak hany
  · exact iff_of_true (le_refl _) hhw
  all_goals exact iff_of_false (by decide) hhw

theorem degraded_le_deriveMode_iff (counters : FaultCounters) :
    .degraded ≤ deriveMode counters ↔
      2 ≤ counters.hwStateErrors ∨ 3 ≤ counters.consecutiveModeConflicts := by
  unfold deriveMode
  split_ifs with hhw hstreak hany
  · exact iff_of_true (by decide) (Or.inl hhw)
  · exact iff_of_true (le_refl _) (Or.inr hstreak)
  all_goals exact iff_of_false (by decide) (not_or.mpr ⟨hhw, hstreak⟩)

/-- The derived mode is NORMAL exactly when no threshold and no per-code
counter is left. -/
theorem warn_le_deriveMode_iff (counters : FaultCounters) :
    .warn ≤ deriveMode counters ↔
      ¬ (counters.consecutiveModeConflicts < 3 ∧
        counters.speedLimitErrors = 0 ∧ counters.modeConflictErrors = 0 ∧
        counters.invalidCmdErrors = 0 ∧ counters.hwStateErrors = 0) := by
  unfold deriveMode
  split_ifs with hhw hstreak hany
  · exact iff_of_true (by decide) (by grind)
  · exact iff_of_true (by decide) (by grind)
  · exact iff_of_true (le_refl _) (by grind)
  · exact iff_of_false (by decide) (by grind)

theorem onlyCounterWraps_iff (state : LightFaultState) (errorCode : UInt8) :
    OnlyCounterWraps state errorCode ↔
      ¬ .warn ≤ deriveMode
        (applyErrorToCounters state.activeCounters errorCode) := by
  rw [warn_le_deriveMode_iff, not_not]
  set counters := applyErrorToCounters state.activeCounters errorCode with hdef
  have hstreak : counters.consecutiveModeConflicts =
      conflictStreakAfter state errorCode :=
    applyErrorToCounters_consecutiveModeConflicts state.activeCounters errorCode
  have hwraps (count : UInt32) : count = 0xFFFFFFFF ↔ count + 1 = 0 := by
    grind
  have hcounter (other : UInt8) (hother : RecognisedError other) :
      errorCounter state.activeCounters other =
          (if other = errorCode then 0xFFFFFFFF else 0) ↔
        errorCounter counters other = 0 := by
    rw [hdef, errorCounter_applyErrorToCounters _ hother]
    by_cases hsame : other = errorCode
    · rw [if_pos hsame, if_pos hsame.symm, hwraps]
    · rw [if_neg hsame, if_neg (Ne.symm hsame)]
  have hall : (∀ other, RecognisedError other →
        errorCounter state.activeCounters other =
          if other = errorCode then 0xFFFFFFFF else 0) ↔
      counters.speedLimitErrors = 0 ∧ counters.modeConflictErrors = 0 ∧
        counters.invalidCmdErrors = 0 ∧ counters.hwStateErrors = 0 := by
    rw [forall₂_congr hcounter]
    simp only [RecognisedError, forall_eq_or_imp, forall_eq]
    rfl
  rw [OnlyCounterWraps, hall, hstreak]

/-- One call: the mode is not lowered exactly under the condition. Only the
STABLE row of the lifecycle table is needed. -/
theorem recordError_mode_ge_iff {state : LightFaultState} {errorCode : UInt8}
    (hstable : state.lifecycle = .stable → state.mode = .normal) :
    state.mode ≤ (lightFaultModeRecordError state errorCode).1.mode ↔
      KeepsSeverity state errorCode := by
  cases hlifecycle : state.lifecycle with
  | stable =>
      rw [hstable hlifecycle]
      have hleast (mode : FaultMode) : FaultMode.normal ≤ mode := by
        cases mode <;> decide
      simp [KeepsSeverity, hlifecycle, hleast]
  | recovering =>
      rw [recordError_mode_of_recovering state errorCode hlifecycle]
      simp [KeepsSeverity, hlifecycle]
  | active =>
      rw [recordError_mode_of_not_recovering state errorCode (by simp [hlifecycle])]
      simp only [KeepsSeverity, hlifecycle, forall_const,
        onlyCounterWraps_iff]
      have hstreak : (applyErrorToCounters state.activeCounters
          errorCode).consecutiveModeConflicts = conflictStreakAfter state errorCode :=
        applyErrorToCounters_consecutiveModeConflicts state.activeCounters errorCode
      rw [← applyErrorToCounters_hwStateErrors, ← hstreak]
      cases hmode : state.mode with
      | normal =>
          have hleast : FaultMode.normal ≤ deriveMode
              (applyErrorToCounters state.activeCounters errorCode) := by
            cases deriveMode (applyErrorToCounters state.activeCounters errorCode)
              <;> decide
          simp [hleast]
      | warn => simp
      | degraded => simp [degraded_le_deriveMode_iff]
      | safeMode => simp [safeMode_le_deriveMode_iff]

/-- The operation is an observation that finds the recovery window satisfied. -/
def FallsThroughWindow (state : LightFaultState) : FaultOperation → Prop
  | .recordError _ => False
  | .clearActive => False
  | .observeRecoveryAt nowMs => WindowSatisfied state nowMs
  | .observeRecovery =>
      WindowSatisfied (openRecoveryWindow state) (recoveryObservationTime state)

/-- Severity can fall only through a satisfied recovery window. -/
def SeverityKept (state : LightFaultState) (operation : FaultOperation) : Prop :=
  (operation.apply state).mode < state.mode → FallsThroughWindow state operation

/-- The condition on a call, and on the state before it, for a whole run. -/
def StepKeepsSeverity (state : LightFaultState) : FaultOperation → Prop
  | .recordError errorCode => KeepsSeverity state errorCode
  | _ => True

/-- An observation lowers the mode only on the branch of a satisfied window. -/
theorem observeRecoveryAt_mode_lt {state : LightFaultState} {nowMs : UInt32}
    (hlower : (lightFaultModeObserveRecoveryAt state nowMs).1.mode < state.mode) :
    WindowSatisfied state nowMs := by
  have houtcome := observeRecoveryAt_outcome state nowMs
  generalize (lightFaultModeObserveRecoveryAt state nowMs).1 = next
    at houtcome hlower
  cases houtcome with
  | ignored _ => exact absurd hlower (lt_irrefl _)
  | opened _ _ _ => exact absurd hlower (lt_irrefl _)
  | progressed _ _ _ _ => exact absurd hlower (lt_irrefl _)
  | stepped hwindow => exact hwindow

/-- The step lemma: on a state with a correct STABLE row, one call keeps the
severity exactly under its condition. -/
theorem severityKept_iff {state : LightFaultState} {operation : FaultOperation}
    (hstable : state.lifecycle = .stable → state.mode = .normal) :
    SeverityKept state operation ↔ StepKeepsSeverity state operation := by
  cases operation with
  | recordError errorCode =>
      simp only [StepKeepsSeverity, ← recordError_mode_ge_iff hstable, ← not_lt]
      rfl
  | clearActive =>
      refine iff_of_true ?_ trivial
      intro hlower
      simp only [FaultOperation.apply, clearActive_mode, lt_irrefl] at hlower
  | observeRecoveryAt nowMs =>
      exact iff_of_true observeRecoveryAt_mode_lt trivial
  | observeRecovery =>
      refine iff_of_true ?_ trivial
      intro hlower
      simp only [FaultOperation.apply, observeRecovery_eq] at hlower
      exact observeRecoveryAt_mode_lt hlower

/-- Every call of a run from reset keeps the severity, except through a
satisfied window, exactly when every recorded error meets `KeepsSeverity` in
the state it is recorded in. -/
theorem severity_kept_throughout_iff (operations : List FaultOperation)
    (hoperations : ∀ operation ∈ operations, operation.Recognised) :
    EveryStep FaultOperation.apply SeverityKept lightFaultStateReset operations ↔
      EveryStep FaultOperation.apply StepKeepsSeverity lightFaultStateReset
        operations := by
  refine everyStep_congr
    (fun state => ∃ recorded, LifecycleInvariant state recorded) operations
    ?_ ?_ lightFaultStateReset ⟨[], lifecycleInvariant_reset⟩
  · rintro state operation hmember ⟨recorded, hinvariant⟩
    exact ⟨_, lifecycleInvariant_step hinvariant (hoperations operation hmember)⟩
  · rintro state operation - ⟨recorded, hinvariant⟩
    exact severityKept_iff hinvariant.stable_normal

/-- Three conflicts in a row, each keeping the severity, on the way up to
DEGRADED. -/
theorem severity_kept_throughout_conflicts :
    EveryStep FaultOperation.apply SeverityKept lightFaultStateReset
        [.recordError LightErr.modeConflict, .recordError LightErr.modeConflict,
          .recordError LightErr.modeConflict] ↔
      EveryStep FaultOperation.apply StepKeepsSeverity lightFaultStateReset
        [.recordError LightErr.modeConflict, .recordError LightErr.modeConflict,
          .recordError LightErr.modeConflict] :=
  severity_kept_throughout_iff _ (by decide)

/-- From SAFE_MODE a clear opens a recovery. The first speed fault that
interrupts it keeps SAFE_MODE; the second one lowers the mode to WARN without
any observation in between. -/
theorem second_fault_after_clear_lowers_mode :
    let before := run FaultOperation.apply lightFaultStateReset
      [.recordError LightErr.hwStateErr, .recordError LightErr.hwStateErr,
        .clearActive, .recordError LightErr.speedLimit]
    RecognisedError LightErr.speedLimit ∧ before.mode = .safeMode ∧
      (lightFaultModeRecordError before LightErr.speedLimit).1.mode = .warn ∧
      ¬ SeverityKept before (.recordError LightErr.speedLimit) := by
  refine ⟨by decide, by decide, by decide, ?_⟩
  intro hkept
  exact hkept (by decide)

/-- Inside one ACTIVE phase a speed fault breaks the conflict streak, and the
mode falls from DEGRADED to WARN. -/
example :
    let before := run FaultOperation.apply lightFaultStateReset
      [.recordError LightErr.modeConflict, .recordError LightErr.modeConflict,
        .recordError LightErr.modeConflict]
    before.mode = .degraded ∧
      (lightFaultModeRecordError before LightErr.speedLimit).1.mode = .warn := by
  decide

end LightCtrl
