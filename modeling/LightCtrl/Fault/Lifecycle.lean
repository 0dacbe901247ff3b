import LightCtrl.Core.Contract
import LightCtrl.Fault.Operations

/-!
The lifecycle table of the fault state machine as an inductive invariant. A
ghost list records the codes reported since the last clear that found an
active fault; the mask is then a function of that list. Every field of the
state appears in one clause, because each clause is only inductive together
with the others.
-/

namespace LightCtrl

open Runs

/-- The codes recorded since the last effective clear, after one more
operation. A clear without active faults returns early in the source. -/
def recordedAfter (state : LightFaultState) (recorded : List UInt8) :
    FaultOperation → List UInt8
  | .recordError errorCode => recorded ++ [errorCode]
  | .clearActive => if state.activeFaultMask = 0 then recorded else []
  | .observeRecoveryAt _ => recorded
  | .observeRecovery => recorded

/-- The state machine together with its ghost list. -/
def faultStepWithHistory (current : LightFaultState × List UInt8)
    (operation : FaultOperation) : LightFaultState × List UInt8 :=
  (operation.apply current.1, recordedAfter current.1 current.2 operation)

theorem faultStepWithHistory_fst (operations : List FaultOperation)
    (state : LightFaultState) (recorded : List UInt8) :
    (run faultStepWithHistory (state, recorded) operations).1 =
      run FaultOperation.apply state operations := by
  induction operations generalizing state recorded with
  | nil => rfl
  | cons operation rest ih => exact ih _ _

/-- The codes a run from reset recorded since its last effective clear. -/
def recordedSinceClear (operations : List FaultOperation) : List UInt8 :=
  (run faultStepWithHistory (lightFaultStateReset, []) operations).2

structure LifecycleInvariant (state : LightFaultState)
    (recorded : List UInt8) : Prop where
  stable_normal : state.lifecycle = .stable → state.mode = .normal
  recovering_above : state.lifecycle = .recovering → .normal < state.mode
  inactive_cleared : state.lifecycle ≠ .active →
    state.activeFaultMask = 0 ∧ state.activeCounters = faultCountersReset
  active_masked : state.lifecycle = .active → state.activeFaultMask ≠ 0
  mask_exact : ∀ errorCode, RecognisedError errorCode →
    (state.activeFaultMask &&& faultMaskForError errorCode ≠ 0 ↔
      errorCode ∈ recorded)
  mask_range : state.activeFaultMask &&& ~~~ lightFaultActiveMaskAll = 0
  progress_outside : state.lifecycle ≠ .recovering →
    state.recoveryTicks = 0 ∧ state.recoveryElapsedMs = 0
  progress_inside : state.lifecycle = .recovering →
    state.recoveryTicks < 2 ∧ state.recoveryElapsedMs < 2000
  total_errors : state.counters.totalErrors =
    state.counters.speedLimitErrors + state.counters.modeConflictErrors +
      state.counters.invalidCmdErrors + state.counters.hwStateErrors

theorem lifecycleInvariant_reset : LifecycleInvariant lightFaultStateReset [] where
  stable_normal := fun _ => rfl
  recovering_above := by simp [lightFaultStateReset]
  inactive_cleared := fun _ => ⟨rfl, rfl⟩
  active_masked := by simp [lightFaultStateReset]
  mask_exact := by simp [lightFaultStateReset]
  mask_range := by decide
  progress_outside := fun _ => ⟨rfl, rfl⟩
  progress_inside := by simp [lightFaultStateReset]
  total_errors := by decide

theorem or_and_ne_zero_iff (mask bit probe : UInt8) :
    (mask ||| bit) &&& probe ≠ 0 ↔ mask &&& probe ≠ 0 ∨ bit &&& probe ≠ 0 := by
  have hdistrib : (mask ||| bit) &&& probe = mask &&& probe ||| bit &&& probe := by
    apply UInt8.toBitVec_inj.mp
    simp only [UInt8.toBitVec_and, UInt8.toBitVec_or,
      BitVec.and_or_distrib_right]
  rw [hdistrib, ne_eq, UInt8.or_eq_zero_iff]
  tauto

/-- Each recognised code owns one bit of the mask, and no two share one. -/
theorem faultMaskForError_and_ne_zero_iff {left right : UInt8}
    (hleft : RecognisedError left) (hright : RecognisedError right) :
    faultMaskForError left &&& faultMaskForError right ≠ 0 ↔ right = left := by
  rcases hleft with rfl | rfl | rfl | rfl <;>
    rcases hright with rfl | rfl | rfl | rfl <;> decide

theorem faultMaskForError_ne_zero_iff (errorCode : UInt8) :
    faultMaskForError errorCode ≠ 0 ↔ RecognisedError errorCode := by
  unfold faultMaskForError RecognisedError
  split_ifs with hspeed hconflict hinvalid hhw
  · exact iff_of_true (by decide) (Or.inl hspeed)
  · exact iff_of_true (by decide) (Or.inr (Or.inl hconflict))
  · exact iff_of_true (by decide) (Or.inr (Or.inr (Or.inl hinvalid)))
  · exact iff_of_true (by decide) (Or.inr (Or.inr (Or.inr hhw)))
  · exact iff_of_false (by decide) (by simp [hspeed, hconflict, hinvalid, hhw])

theorem faultMaskForError_range (errorCode : UInt8) :
    faultMaskForError errorCode &&& ~~~ lightFaultActiveMaskAll = 0 := by
  unfold faultMaskForError
  repeat' split
  all_goals decide

/-- Recording a recognised code counts it once in the total and once under
its own name, so the two sides of the sum move together. -/
theorem applyErrorToCounters_total {counters : FaultCounters} {errorCode : UInt8}
    (hcode : RecognisedError errorCode)
    (htotal : counters.totalErrors = counters.speedLimitErrors +
      counters.modeConflictErrors + counters.invalidCmdErrors +
      counters.hwStateErrors) :
    (applyErrorToCounters counters errorCode).totalErrors =
      (applyErrorToCounters counters errorCode).speedLimitErrors +
      (applyErrorToCounters counters errorCode).modeConflictErrors +
      (applyErrorToCounters counters errorCode).invalidCmdErrors +
      (applyErrorToCounters counters errorCode).hwStateErrors := by
  rcases hcode with rfl | rfl | rfl | rfl <;>
    simp only [applyErrorToCounters, htotal] <;> simp <;> grind

private theorem lifecycleInvariant_recordError {state : LightFaultState}
    {recorded : List UInt8} (h : LifecycleInvariant state recorded)
    {errorCode : UInt8} (hcode : RecognisedError errorCode) :
    LifecycleInvariant (lightFaultModeRecordError state errorCode).1
      (recorded ++ [errorCode]) where
  stable_normal := by simp
  recovering_above := by simp
  inactive_cleared := by simp
  active_masked := by
    intro _
    rw [recordError_activeFaultMask, ne_eq, UInt8.or_eq_zero_iff]
    exact fun hzero => (faultMaskForError_ne_zero_iff _).mpr hcode hzero.2
  mask_exact := by
    intro other hother
    rw [recordError_activeFaultMask, or_and_ne_zero_iff, h.mask_exact other hother,
      faultMaskForError_and_ne_zero_iff hcode hother]
    simp
  mask_range := by
    have hrange := faultMaskForError_range errorCode
    by_contra hne
    rcases (or_and_ne_zero_iff _ _ _).mp hne with hold | hnew
    · exact hold h.mask_range
    · exact hnew hrange
  progress_outside := by simp
  progress_inside := by simp
  total_errors := applyErrorToCounters_total hcode h.total_errors

private theorem lifecycleInvariant_clearActive {state : LightFaultState}
    {recorded : List UInt8} (h : LifecycleInvariant state recorded) :
    LifecycleInvariant (lightFaultModeClearActive state).1
      (if state.activeFaultMask = 0 then recorded else []) := by
  by_cases hmask : state.activeFaultMask = 0
  · rw [clearActive_of_mask_zero state hmask, if_pos hmask]
    exact h
  · rw [clearActive_of_mask_ne state hmask, if_neg hmask]
    by_cases hmode : state.mode = .normal
    · constructor <;> simp [hmode, h.total_errors]
    · have habove := (FaultMode.normal_lt_iff state.mode).mpr hmode
      constructor <;> simp [hmode, habove, h.total_errors]

/-- Progress inside a window is at most one tick, whatever the clock reads. -/
theorem recoveryTickProgress_toUInt8_lt (elapsedMs : UInt32) :
    (recoveryTickProgress elapsedMs).toUInt8 < 2 := by
  have hsmall : recoveryTickProgress elapsedMs = 0 ∨
      recoveryTickProgress elapsedMs = 1 := by
    unfold recoveryTickProgress
    split
    · right
      rfl
    · next hlt => grind
  rcases hsmall with hzero | hone
  · rw [hzero]
    decide
  · rw [hone]
    decide

private theorem lifecycleInvariant_observeRecoveryAt {state : LightFaultState}
    {recorded : List UInt8} (h : LifecycleInvariant state recorded)
    (nowMs : UInt32) :
    LifecycleInvariant (lightFaultModeObserveRecoveryAt state nowMs).1
      recorded := by
  have houtcome := observeRecoveryAt_outcome state nowMs
  generalize (lightFaultModeObserveRecoveryAt state nowMs).1 = next at houtcome ⊢
  cases houtcome with
  | ignored _ => exact h
  | opened hlifecycle hmask hstart =>
      refine { h with progress_outside := ?_, progress_inside := ?_ }
      · simp [hlifecycle]
      · simp
  | progressed hlifecycle hmask hstart helapsed =>
      refine { h with progress_outside := ?_, progress_inside := ?_ }
      · simp [hlifecycle]
      · exact fun _ => ⟨recoveryTickProgress_toUInt8_lt _, helapsed⟩
  | stepped hwindow =>
      have hcleared := h.inactive_cleared (by simp [hwindow.lifecycle])
      have hprogress : (0 : UInt8) < 2 ∧ (0 : UInt32) < 2000 := by decide
      rcases steppedDown_outcome hwindow.lifecycle nowMs with
        ⟨hstable, hnormal⟩ | ⟨hrecovering, habove⟩
      · refine { h with
          stable_normal := fun _ => hnormal, recovering_above := ?_
          inactive_cleared := fun _ => hcleared, active_masked := ?_
          progress_outside := fun _ => ⟨rfl, rfl⟩
          progress_inside := fun _ => hprogress } <;> simp [hstable]
      · refine { h with
          stable_normal := ?_
          recovering_above := fun _ => (FaultMode.normal_lt_iff _).mpr habove
          inactive_cleared := fun _ => hcleared, active_masked := ?_
          progress_outside := fun _ => ⟨rfl, rfl⟩
          progress_inside := fun _ => hprogress } <;> simp [hrecovering]

private theorem lifecycleInvariant_openRecoveryWindow {state : LightFaultState}
    {recorded : List UInt8} (h : LifecycleInvariant state recorded) :
    LifecycleInvariant (openRecoveryWindow state) recorded :=
  { h with }

/-- One call of any of the four operations keeps every clause. -/
theorem lifecycleInvariant_step {state : LightFaultState}
    {recorded : List UInt8} (h : LifecycleInvariant state recorded)
    {operation : FaultOperation} (hoperation : operation.Recognised) :
    LifecycleInvariant (operation.apply state)
      (recordedAfter state recorded operation) := by
  cases operation with
  | recordError errorCode => exact lifecycleInvariant_recordError h hoperation
  | clearActive => exact lifecycleInvariant_clearActive h
  | observeRecoveryAt nowMs => exact lifecycleInvariant_observeRecoveryAt h nowMs
  | observeRecovery =>
      simp only [FaultOperation.apply, observeRecovery_eq]
      exact lifecycleInvariant_observeRecoveryAt
        (lifecycleInvariant_openRecoveryWindow h) _

/-- The run lemma: any sequence of operations on recognised codes. -/
theorem lifecycleInvariant_run (operations : List FaultOperation)
    (hoperations : ∀ operation ∈ operations, operation.Recognised) :
    LifecycleInvariant
      (run FaultOperation.apply lightFaultStateReset operations)
      (recordedSinceClear operations) := by
  rw [← faultStepWithHistory_fst operations lightFaultStateReset []]
  refine run_invariant_on
    (fun current : LightFaultState × List UInt8 =>
      LifecycleInvariant current.1 current.2)
    operations ?_ _ lifecycleInvariant_reset
  intro current operation hmember hcurrent
  exact lifecycleInvariant_step hcurrent (hoperations operation hmember)

/-- The published view of a state that satisfies the invariant passes the
snapshot contract every domain checks. -/
theorem LifecycleInvariant.snapshot_ok {state : LightFaultState}
    {recorded : List UInt8} (h : LifecycleInvariant state recorded) :
    (lightContractCheckFaultSnapshot state.mode.toByte state.lifecycle.toByte
      state.recoveryTicks state.recoveryElapsedMs
      state.activeFaultMask).status = .ok := by
  have hmode : faultModeIsValid state.mode.toByte = true := by
    cases state.mode <;> decide
  have hlifecycle : faultLifecycleIsValid state.lifecycle.toByte = true := by
    cases state.lifecycle <;> decide
  have hprogress : ¬ state.recoveryTicks.toUInt32 > lightFaultRecoveryWindowTicks ∧
      ¬ state.recoveryElapsedMs > lightFaultRecoveryWindowMs := by
    by_cases hrecovering : state.lifecycle = .recovering
    · obtain ⟨hticks, helapsed⟩ := h.progress_inside hrecovering
      have hcases : state.recoveryTicks = 0 ∨ state.recoveryTicks = 1 := by grind
      refine ⟨?_, by grind⟩
      rcases hcases with hzero | hone
      · rw [hzero]
        decide
      · rw [hone]
        decide
    · obtain ⟨hticks, helapsed⟩ := h.progress_outside hrecovering
      rw [hticks, helapsed]
      decide
  simp [lightContractCheckFaultSnapshot, hmode, hlifecycle, hprogress.1,
    hprogress.2, h.mask_range]

/-- After any run of recognised errors, clears and observations the state
meets the whole lifecycle table and the published snapshot contract. -/
theorem fault_lifecycle_table (operations : List FaultOperation)
    (hoperations : ∀ operation ∈ operations, operation.Recognised) :
    let final := run FaultOperation.apply lightFaultStateReset operations
    LifecycleInvariant final (recordedSinceClear operations) ∧
      (lightContractCheckFaultSnapshot final.mode.toByte
        final.lifecycle.toByte final.recoveryTicks final.recoveryElapsedMs
        final.activeFaultMask).status = .ok := by
  have h := lifecycleInvariant_run operations hoperations
  exact ⟨h, h.snapshot_ok⟩

/-- Two hardware faults, a clear, and a first observation at time 1000. -/
theorem fault_lifecycle_table_recovering :
    let operations : List FaultOperation :=
      [.recordError LightErr.hwStateErr, .recordError LightErr.hwStateErr,
        .clearActive, .observeRecoveryAt 1000]
    let final := run FaultOperation.apply lightFaultStateReset operations
    LifecycleInvariant final (recordedSinceClear operations) ∧
      (lightContractCheckFaultSnapshot final.mode.toByte
        final.lifecycle.toByte final.recoveryTicks final.recoveryElapsedMs
        final.activeFaultMask).status = .ok :=
  fault_lifecycle_table _ (by decide)

end LightCtrl
