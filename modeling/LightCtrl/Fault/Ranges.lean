import LightCtrl.Fault.ClockFree
import LightCtrl.Fault.Publication

/-!
The ranges of the published fault fields. What the contract of the shared
memory asks for, field by field; and what faultmg's own state keeps to, for
reports and clears of any content, so that each field it publishes alone is in
its range.
-/

namespace LightCtrl

/-- Each fault field of the shared memory is in the range of the contract. -/
structure PublishedInRange (shmem : LightShmem) : Prop where
  mode : shmem.faultMode ≤ FaultMode.safeMode.toByte
  lifecycle : shmem.faultLifecycle ≤ LightFaultLifecycle.recovering.toByte
  recoveryTicks : shmem.faultRecoveryTicks.toUInt32 ≤ lightFaultRecoveryWindowTicks
  recoveryElapsedMs : shmem.faultRecoveryElapsedMs ≤ lightFaultRecoveryWindowMs
  activeFaultMask : shmem.activeFaultMask &&& ~~~ lightFaultActiveMaskAll = 0

theorem fault_snapshot_check_ok_iff (shmem : LightShmem) :
    (lightContractCheckFaultSnapshot shmem.faultMode shmem.faultLifecycle
        shmem.faultRecoveryTicks shmem.faultRecoveryElapsedMs
        shmem.activeFaultMask).status = .ok ↔ PublishedInRange shmem := by
  simp only [lightContractCheckFaultSnapshot, faultModeIsValid, faultLifecycleIsValid,
    Bool.not_eq_true', decide_eq_false_iff_not, gt_iff_lt]
  constructor
  · intro hstatus
    split_ifs at hstatus with hmode hlifecycle hticks helapsed hmask
    exact ⟨hmode, hlifecycle, UInt32.not_lt.mp hticks,
      UInt32.not_lt.mp helapsed, not_not.mp hmask⟩
  · rintro ⟨hmode, hlifecycle, hticks, helapsed, hmask⟩
    rw [if_neg (not_not.mpr hmode), if_neg (not_not.mpr hlifecycle),
      if_neg (UInt32.not_lt.mpr hticks), if_neg (UInt32.not_lt.mpr helapsed),
      if_neg (not_not.mpr hmask)]

/-- The check of the whole shared memory passes exactly in the current layout
and with every fault field in its range. -/
theorem shared_state_check_ok_iff (shmem : LightShmem) :
    (lightContractCheckSharedState (some shmem)).status = .ok ↔
      shmem.layoutVersion = lightSharedStateLayoutCurrent ∧ PublishedInRange shmem := by
  rw [← fault_snapshot_check_ok_iff, lightContractCheckSharedState]
  split_ifs with hlayout
  · simp [hlayout]
  · simp [not_not.mp hlayout]

theorem FaultMode.toByte_le (mode : FaultMode) :
    mode.toByte ≤ FaultMode.safeMode.toByte := by
  cases mode <;> decide

theorem LightFaultLifecycle.toByte_le (lifecycle : LightFaultLifecycle) :
    lifecycle.toByte ≤ LightFaultLifecycle.recovering.toByte := by
  cases lifecycle <;> decide

/-- What faultmg's own state keeps to. -/
structure FaultInRange (memory : FaultmgMemory) : Prop where
  clock : ClockInvariant memory.faultState
  mask : memory.faultState.activeFaultMask &&& ~~~ lightFaultActiveMaskAll = 0
  total : memory.totalErrorCount = memory.faultState.counters.totalErrors

theorem faultInRange_init (shmem : LightShmem) (faultModeSlot : UInt8) :
    FaultInRange (faultmgInit shmem faultModeSlot).memory where
  clock := clockInvariant_reset
  mask := by
    have hempty : (faultmgInit shmem faultModeSlot).memory.faultState.activeFaultMask =
        0 := rfl
    rw [hempty]
    rfl
  total := rfl

/-- A clear of all faults empties the mask or leaves it. -/
theorem clearedState_mask (state : LightFaultState) :
    (clearedState state).activeFaultMask = 0 ∨
      (clearedState state).activeFaultMask = state.activeFaultMask := by
  unfold clearedState
  split_ifs with hmask hrecovering
  · rw [clearActive_of_mask_ne state hmask]
    exact Or.inl rfl
  · right
    rw [observeRecovery_eq]
    have houtcome := observeRecoveryAt_outcome
      (openRecoveryWindow state) (recoveryObservationTime state)
    generalize (lightFaultModeObserveRecoveryAt (openRecoveryWindow state)
      (recoveryObservationTime state)).1 = next at houtcome ⊢
    cases houtcome with
    | ignored _ => rfl
    | opened _ _ _ => rfl
    | progressed _ _ _ _ => rfl
    | stepped _ => rfl
  · rw [clearActive_of_mask_zero state (not_not.mp hmask)]
    exact Or.inr rfl

/-- The step lemma, for a request of any kind. -/
theorem faultInRange_step {memory : FaultmgMemory} (h : FaultInRange memory)
    (request : FaultRequest) : FaultInRange (request.step memory) where
  clock := clockInvariant_step h.clock request
  mask := by
    cases request with
    | report errorCode =>
        have hmask : ((FaultRequest.report errorCode).step
            memory).faultState.activeFaultMask =
              memory.faultState.activeFaultMask ||| faultMaskForError errorCode := rfl
        rw [hmask]
        by_contra hne
        rcases (or_and_ne_zero_iff _ _ _).mp hne with hold | hnew
        · exact hold h.mask
        · exact hnew (faultMaskForError_range errorCode)
    | clear scope =>
        by_cases hscope : scope = lightTransportFaultClearAll
        · subst hscope
          have hstate : ((FaultRequest.clear lightTransportFaultClearAll).step
              memory).faultState = clearedState memory.faultState := rfl
          rw [hstate]
          rcases clearedState_mask memory.faultState with hzero | hsame
          · rw [hzero]
            rfl
          · rw [hsame]
            exact h.mask
        · rw [FaultRequest.step, FaultRequest.handle,
            handleFaultClear_of_other_scope memory hscope]
          exact h.mask
  total := by
    cases request with
    | report errorCode =>
        have hcounters : ((FaultRequest.report errorCode).step memory).faultState.counters =
            applyErrorToCounters memory.faultState.counters errorCode := rfl
        rw [hcounters, applyErrorToCounters_totalErrors, ← h.total]
        rfl
    | clear scope =>
        by_cases hscope : scope = lightTransportFaultClearAll
        · subst hscope
          have hcounters := clearedState_counters memory.faultState
          exact h.total.trans (congrArg FaultCounters.totalErrors hcounters).symm
        · rw [FaultRequest.step, FaultRequest.handle,
            handleFaultClear_of_other_scope memory hscope]
          exact h.total

/-- What a state in range publishes is in range. -/
theorem FaultInRange.progress {memory : FaultmgMemory} (h : FaultInRange memory) :
    memory.faultState.recoveryTicks.toUInt32 ≤ lightFaultRecoveryWindowTicks ∧
      memory.faultState.recoveryElapsedMs ≤ lightFaultRecoveryWindowMs := by
  rw [h.clock.elapsed]
  rcases h.clock.ticks with hticks | hticks <;> rw [hticks] <;> decide

end LightCtrl
