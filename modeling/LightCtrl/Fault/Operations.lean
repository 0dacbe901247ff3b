import LightCtrl.Core.FaultMode
import LightCtrl.Library.Runs

/-!
The four mutating entry points of the fault state machine as the inputs of
one step function, and what each of them can do. The proofs about whole runs
use these equations and the case lemma for `observe_recovery_at`; they never
unfold the C translation again.
-/

namespace LightCtrl

/-- One call into the fault state machine. -/
inductive FaultOperation where
  | recordError (errorCode : UInt8)
  | clearActive
  | observeRecoveryAt (nowMs : UInt32)
  | observeRecovery
  deriving DecidableEq, Repr

def FaultOperation.apply (state : LightFaultState) :
    FaultOperation → LightFaultState
  | .recordError errorCode => (lightFaultModeRecordError state errorCode).1
  | .clearActive => (lightFaultModeClearActive state).1
  | .observeRecoveryAt nowMs => (lightFaultModeObserveRecoveryAt state nowMs).1
  | .observeRecovery => (lightFaultModeObserveRecovery state).1

/-- The codes `LIGHT_ERR_*` names, which are the codes the taxonomy lists. -/
def RecognisedError (errorCode : UInt8) : Prop :=
  errorCode = LightErr.speedLimit ∨ errorCode = LightErr.modeConflict ∨
    errorCode = LightErr.invalidCmd ∨ errorCode = LightErr.hwStateErr

instance (errorCode : UInt8) : Decidable (RecognisedError errorCode) :=
  inferInstanceAs (Decidable (_ ∨ _ ∨ _ ∨ _))

/-- Every error the operation records, if it records one, is recognised. -/
def FaultOperation.Recognised : FaultOperation → Prop
  | .recordError errorCode => RecognisedError errorCode
  | _ => True

instance (operation : FaultOperation) : Decidable operation.Recognised := by
  cases operation <;> unfold FaultOperation.Recognised <;> infer_instance

section RecordError

variable (state : LightFaultState) (errorCode : UInt8)

@[simp] theorem recordError_lifecycle :
    (lightFaultModeRecordError state errorCode).1.lifecycle = .active := rfl

@[simp] theorem recordError_activeFaultMask :
    (lightFaultModeRecordError state errorCode).1.activeFaultMask =
      state.activeFaultMask ||| faultMaskForError errorCode := rfl

@[simp] theorem recordError_counters :
    (lightFaultModeRecordError state errorCode).1.counters =
      applyErrorToCounters state.counters errorCode := rfl

@[simp] theorem recordError_activeCounters :
    (lightFaultModeRecordError state errorCode).1.activeCounters =
      applyErrorToCounters state.activeCounters errorCode := rfl

@[simp] theorem recordError_recoveryTicks :
    (lightFaultModeRecordError state errorCode).1.recoveryTicks = 0 := rfl

@[simp] theorem recordError_recoveryElapsedMs :
    (lightFaultModeRecordError state errorCode).1.recoveryElapsedMs = 0 := rfl

@[simp] theorem recordError_recoveryWindowStartMs :
    (lightFaultModeRecordError state errorCode).1.recoveryWindowStartMs = 0 :=
  rfl

theorem recordError_mode_of_not_recovering (h : state.lifecycle ≠ .recovering) :
    (lightFaultModeRecordError state errorCode).1.mode =
      deriveMode (applyErrorToCounters state.activeCounters errorCode) := by
  simp [lightFaultModeRecordError, h]

/-- Interrupting a recovery keeps the larger of the two modes. -/
theorem recordError_mode_of_recovering (h : state.lifecycle = .recovering) :
    (lightFaultModeRecordError state errorCode).1.mode =
      max state.mode
        (deriveMode (applyErrorToCounters state.activeCounters errorCode)) := by
  simp only [lightFaultModeRecordError, h, true_and, gt_iff_lt]
  split
  · next hlt => exact (max_eq_left hlt.le).symm
  · next hnot => exact (max_eq_right (not_lt.mp hnot)).symm

end RecordError

section ClearActive

variable (state : LightFaultState)

theorem clearActive_of_mask_zero (h : state.activeFaultMask = 0) :
    (lightFaultModeClearActive state).1 = state := by
  simp [lightFaultModeClearActive, h]

theorem clearActive_of_mask_ne (h : state.activeFaultMask ≠ 0) :
    (lightFaultModeClearActive state).1 = { state with
      activeCounters := faultCountersReset
      activeFaultMask := 0
      recoveryTicks := 0
      recoveryWindowStartMs := 0
      recoveryElapsedMs := 0
      lifecycle := if state.mode = .normal then .stable else .recovering } := by
  simp [lightFaultModeClearActive, h]

/-- A clear that finds a fault leaves the faults by the mode it finds. -/
theorem clearActive_outcome (h : state.activeFaultMask ≠ 0) :
    ((lightFaultModeClearActive state).1.lifecycle = .stable ∧
        state.mode = .normal) ∨
      ((lightFaultModeClearActive state).1.lifecycle = .recovering ∧
        state.mode ≠ .normal) := by
  rw [clearActive_of_mask_ne state h]
  by_cases hmode : state.mode = .normal
  · exact Or.inl ⟨if_pos hmode, hmode⟩
  · exact Or.inr ⟨if_neg hmode, hmode⟩

/-- A clear never changes the mode by itself. -/
@[simp] theorem clearActive_mode :
    (lightFaultModeClearActive state).1.mode = state.mode := by
  by_cases h : state.activeFaultMask = 0
  · rw [clearActive_of_mask_zero state h]
  · rw [clearActive_of_mask_ne state h]

end ClearActive

/-- Milliseconds since the window opened, clamped at a clock that went back. -/
def recoveryElapsed (state : LightFaultState) (nowMs : UInt32) : UInt32 :=
  if nowMs ≤ state.recoveryWindowStartMs then 0
  else nowMs - state.recoveryWindowStartMs

/-- The window start an observation at `nowMs` writes. -/
def windowStart (nowMs : UInt32) : UInt32 := if nowMs = 0 then 1 else nowMs

def recoveryTickProgress (elapsedMs : UInt32) : UInt32 :=
  if (elapsedMs * lightFaultRecoveryWindowTicks) / lightFaultRecoveryWindowMs
      ≥ lightFaultRecoveryWindowTicks
  then lightFaultRecoveryWindowTicks - 1
  else (elapsedMs * lightFaultRecoveryWindowTicks) / lightFaultRecoveryWindowMs

/-- The state after a satisfied window. -/
def steppedDown (state : LightFaultState) (nowMs : UInt32) : LightFaultState :=
  { state with
    recoveryTicks := 0
    recoveryElapsedMs := 0
    recoveryWindowStartMs :=
      if faultModeStepDown state.mode = .normal then 0 else windowStart nowMs
    mode := faultModeStepDown state.mode
    lifecycle :=
      if faultModeStepDown state.mode = .normal then .stable
      else state.lifecycle }

/-- The recovery goes on after a satisfied window unless that leads to NORMAL. -/
theorem steppedDown_outcome {state : LightFaultState}
    (hrecovering : state.lifecycle = .recovering) (nowMs : UInt32) :
    ((steppedDown state nowMs).lifecycle = .stable ∧
        (steppedDown state nowMs).mode = .normal) ∨
      ((steppedDown state nowMs).lifecycle = .recovering ∧
        (steppedDown state nowMs).mode ≠ .normal) := by
  by_cases hnormal : faultModeStepDown state.mode = .normal
  · exact Or.inl ⟨if_pos hnormal, hnormal⟩
  · exact Or.inr ⟨(if_neg hnormal).trans hrecovering, hnormal⟩

/-- The window counts as satisfied by an observation at `nowMs`. -/
structure WindowSatisfied (state : LightFaultState) (nowMs : UInt32) : Prop where
  lifecycle : state.lifecycle = .recovering
  mask : state.activeFaultMask = 0
  started : state.recoveryWindowStartMs ≠ 0
  elapsed : ¬ recoveryElapsed state nowMs < lightFaultRecoveryWindowMs

/-- The four ways through `light_fault_mode_observe_recovery_at`. -/
inductive ObserveOutcome (state : LightFaultState) (nowMs : UInt32) :
    LightFaultState → Prop where
  | ignored (h : state.lifecycle ≠ .recovering ∨ state.activeFaultMask ≠ 0) :
      ObserveOutcome state nowMs state
  | opened (hlifecycle : state.lifecycle = .recovering)
      (hmask : state.activeFaultMask = 0)
      (hstart : state.recoveryWindowStartMs = 0) :
      ObserveOutcome state nowMs { state with
        recoveryWindowStartMs := windowStart nowMs
        recoveryElapsedMs := 0
        recoveryTicks := 0 }
  | progressed (hlifecycle : state.lifecycle = .recovering)
      (hmask : state.activeFaultMask = 0)
      (hstart : state.recoveryWindowStartMs ≠ 0)
      (helapsed : recoveryElapsed state nowMs < lightFaultRecoveryWindowMs) :
      ObserveOutcome state nowMs { state with
        recoveryElapsedMs := recoveryElapsed state nowMs
        recoveryTicks :=
          (recoveryTickProgress (recoveryElapsed state nowMs)).toUInt8 }
  | stepped (hwindow : WindowSatisfied state nowMs) :
      ObserveOutcome state nowMs (steppedDown state nowMs)

/-- The case lemma carries every guard on the branch taken, so an invariant
is checked against four record updates and not against the nested branches. -/
theorem observeRecoveryAt_outcome (state : LightFaultState) (nowMs : UInt32) :
    ObserveOutcome state nowMs (lightFaultModeObserveRecoveryAt state nowMs).1 := by
  by_cases hidle : state.lifecycle ≠ .recovering ∨ state.activeFaultMask ≠ 0
  · have heq : (lightFaultModeObserveRecoveryAt state nowMs).1 = state := by
      simp [lightFaultModeObserveRecoveryAt, hidle]
    rw [heq]
    exact .ignored hidle
  · obtain ⟨hlifecycle, hmask⟩ : state.lifecycle = .recovering ∧
        state.activeFaultMask = 0 := by
      simpa [not_or] using hidle
    by_cases hstart : state.recoveryWindowStartMs = 0
    · have hresult : (lightFaultModeObserveRecoveryAt state nowMs).1 =
          { state with
            recoveryWindowStartMs := windowStart nowMs
            recoveryElapsedMs := 0
            recoveryTicks := 0 } := by
        simp only [lightFaultModeObserveRecoveryAt, if_neg hidle, if_pos hstart,
          windowStart]
      rw [hresult]
      exact .opened hlifecycle hmask hstart
    · by_cases helapsed :
          recoveryElapsed state nowMs < lightFaultRecoveryWindowMs
      · have hbranch := helapsed
        unfold recoveryElapsed at hbranch
        have hresult : (lightFaultModeObserveRecoveryAt state nowMs).1 =
            { state with
              recoveryElapsedMs := recoveryElapsed state nowMs
              recoveryTicks :=
                (recoveryTickProgress (recoveryElapsed state nowMs)).toUInt8 } := by
          simp only [lightFaultModeObserveRecoveryAt, if_neg hidle,
            if_neg hstart, if_pos hbranch]
          rfl
        rw [hresult]
        exact .progressed hlifecycle hmask hstart helapsed
      · have hbranch := helapsed
        unfold recoveryElapsed at hbranch
        have hresult : (lightFaultModeObserveRecoveryAt state nowMs).1 =
            steppedDown state nowMs := by
          simp only [lightFaultModeObserveRecoveryAt, if_neg hidle,
            if_neg hstart, if_neg hbranch, steppedDown, windowStart]
          split <;> rfl
        rw [hresult]
        exact .stepped ⟨hlifecycle, hmask, hstart, helapsed⟩

/-- `observe_recovery` opens the window itself when no observation has. -/
def openRecoveryWindow (state : LightFaultState) : LightFaultState :=
  { state with
    recoveryWindowStartMs :=
      if state.recoveryWindowStartMs = 0 then 1
      else state.recoveryWindowStartMs }

/-- The clock value `observe_recovery` makes up for its observation. -/
def recoveryObservationTime (state : LightFaultState) : UInt32 :=
  let start := (openRecoveryWindow state).recoveryWindowStartMs
  if state.recoveryTicks.toUInt32 + 1 ≥ lightFaultRecoveryWindowTicks then
    start + lightFaultRecoveryWindowMs
  else
    start + ((state.recoveryTicks.toUInt32 + 1)
      * (lightFaultRecoveryWindowMs / lightFaultRecoveryWindowTicks))

theorem observeRecovery_eq (state : LightFaultState) :
    lightFaultModeObserveRecovery state =
      lightFaultModeObserveRecoveryAt (openRecoveryWindow state)
        (recoveryObservationTime state) := rfl

/-- With no wrap between the window start and the clock value made up, the
outcome depends on the elapsed time alone. -/
theorem observeRecovery_of_elapsed {state : LightFaultState}
    (hrecovering : state.lifecycle = .recovering)
    (hmask : state.activeFaultMask = 0) {elapsedMs : UInt32}
    (htime : recoveryObservationTime state =
      (openRecoveryWindow state).recoveryWindowStartMs + elapsedMs)
    (hroom : (openRecoveryWindow state).recoveryWindowStartMs.toNat +
      elapsedMs.toNat < 2 ^ 32) :
    (lightFaultModeObserveRecovery state).1 =
      if elapsedMs < lightFaultRecoveryWindowMs then
        { openRecoveryWindow state with
          recoveryElapsedMs := elapsedMs
          recoveryTicks := (recoveryTickProgress elapsedMs).toUInt8 }
      else
        steppedDown (openRecoveryWindow state)
          ((openRecoveryWindow state).recoveryWindowStartMs + elapsedMs) := by
  have hopen : (openRecoveryWindow state).recoveryWindowStartMs ≠ 0 := by
    have hone : (1 : UInt32) ≠ 0 := by decide
    unfold openRecoveryWindow
    split_ifs with hzero
    · exact hone
    · exact hzero
  have helapsed : recoveryElapsed (openRecoveryWindow state)
      (recoveryObservationTime state) = elapsedMs := by
    rw [htime, recoveryElapsed]
    set start := (openRecoveryWindow state).recoveryWindowStartMs
    have hnow : (start + elapsedMs).toNat = start.toNat + elapsedMs.toNat := by
      rw [UInt32.toNat_add]
      exact Nat.mod_eq_of_lt hroom
    split_ifs with hle
    · rw [UInt32.le_iff_toNat_le, hnow] at hle
      have hzero : elapsedMs.toNat = (0 : UInt32).toNat := by
        rw [UInt32.toNat_zero]
        omega
      exact (UInt32.toNat_inj.mp hzero).symm
    · rw [UInt32.add_comm, UInt32.add_sub_cancel]
  rw [observeRecovery_eq]
  have houtcome := observeRecoveryAt_outcome (openRecoveryWindow state)
    (recoveryObservationTime state)
  generalize (lightFaultModeObserveRecoveryAt (openRecoveryWindow state)
    (recoveryObservationTime state)).1 = next at houtcome ⊢
  cases houtcome with
  | ignored hidle =>
      rcases hidle with hlifecycle | hset
      · exact absurd hrecovering hlifecycle
      · exact absurd hmask hset
  | opened _ _ hzero => exact absurd hzero hopen
  | progressed _ _ _ hshort =>
      rw [helapsed] at hshort ⊢
      rw [if_pos hshort]
  | stepped hwindow =>
      have hlong := hwindow.elapsed
      rw [helapsed] at hlong
      rw [if_neg hlong, htime]

/-- The first observation of a window advances it by one tick. -/
theorem observeRecovery_of_first_tick {state : LightFaultState}
    (hrecovering : state.lifecycle = .recovering)
    (hmask : state.activeFaultMask = 0) (hticks : state.recoveryTicks = 0)
    (hroom : (openRecoveryWindow state).recoveryWindowStartMs.toNat + 2000 <
      2 ^ 32) :
    (lightFaultModeObserveRecovery state).1 =
      { openRecoveryWindow state with
        recoveryElapsedMs := 1000
        recoveryTicks := 1 } := by
  have htime : recoveryObservationTime state =
      (openRecoveryWindow state).recoveryWindowStartMs + 1000 := by
    simp only [recoveryObservationTime, hticks]
    rfl
  have hhalf : (1000 : UInt32).toNat = 1000 := rfl
  rw [observeRecovery_of_elapsed hrecovering hmask htime (by omega)]
  rfl

/-- The second observation completes the window. -/
theorem observeRecovery_of_second_tick {state : LightFaultState}
    (hrecovering : state.lifecycle = .recovering)
    (hmask : state.activeFaultMask = 0) (hticks : state.recoveryTicks = 1)
    (hroom : (openRecoveryWindow state).recoveryWindowStartMs.toNat + 2000 <
      2 ^ 32) :
    (lightFaultModeObserveRecovery state).1 =
      steppedDown (openRecoveryWindow state)
        ((openRecoveryWindow state).recoveryWindowStartMs + 2000) := by
  have htime : recoveryObservationTime state =
      (openRecoveryWindow state).recoveryWindowStartMs + 2000 := by
    simp only [recoveryObservationTime, hticks]
    rfl
  rw [observeRecovery_of_elapsed hrecovering hmask htime hroom]
  rfl

end LightCtrl
