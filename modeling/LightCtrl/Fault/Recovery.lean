import LightCtrl.Domains.Faultmg
import LightCtrl.Fault.Lifecycle

/-!
Whether repeated clears bring faultmg back to NORMAL. A clear leaves ACTIVE
only when the mask is not zero, but an unknown code enters ACTIVE without
setting a mask bit. If the mask was zero before such a report, no number of
clears leaves ACTIVE again. The main theorem says exactly which runs stay
clear of that trap.
-/

namespace LightCtrl

open Runs

/-- The latest window start a recovery standing in this mode can have: one
millisecond, and one whole window for each level already left behind. -/
def windowBudget : FaultMode → UInt32
  | .safeMode => 1
  | .degraded => 2001
  | .warn => 4001
  | .normal => 4001

/-- What holds of faultmg's fault state after any requests, whatever codes
they report. -/
structure RecoveryInvariant (state : LightFaultState) : Prop where
  stable_normal : state.lifecycle = .stable → state.mode = .normal
  inactive_mask : state.lifecycle ≠ .active → state.activeFaultMask = 0
  recovering_above : state.lifecycle = .recovering → .normal < state.mode
  recovering_ticks : state.lifecycle = .recovering →
    state.recoveryTicks = 0 ∨ state.recoveryTicks = 1
  recovering_start : state.lifecycle = .recovering →
    state.recoveryWindowStartMs ≤ windowBudget state.mode

/-- ACTIVE with an empty mask, the state no clear can leave. -/
def Trapped (state : LightFaultState) : Prop :=
  state.lifecycle = .active ∧ state.activeFaultMask = 0

instance (state : LightFaultState) : Decidable (Trapped state) :=
  inferInstanceAs (Decidable (_ ∧ _))

/-- The fault state one clear of all faults leaves. -/
def clearedState (state : LightFaultState) : LightFaultState :=
  if state.activeFaultMask ≠ 0 then (lightFaultModeClearActive state).1
  else if state.lifecycle = .recovering then
    (lightFaultModeObserveRecovery state).1
  else (lightFaultModeClearActive state).1

theorem handleFaultEvent_faultState (memory : FaultmgMemory)
    (errorCode : UInt8) :
    (handleFaultEvent memory errorCode).memory.faultState =
      (lightFaultModeRecordError memory.faultState errorCode).1 := rfl

theorem handleFaultClear_faultState (memory : FaultmgMemory) :
    (handleFaultClear memory lightTransportFaultClearAll).memory.faultState =
      clearedState memory.faultState := rfl

theorem handleFaultClear_of_other_scope (memory : FaultmgMemory) {scope : UInt8}
    (hscope : scope ≠ lightTransportFaultClearAll) :
    handleFaultClear memory scope = ⟨memory, []⟩ := by
  simp [handleFaultClear, hscope]

/-- A window of faultmg starts early enough for its end not to wrap. -/
private theorem RecoveryInvariant.room {state : LightFaultState}
    (h : RecoveryInvariant state) (hrecovering : state.lifecycle = .recovering) :
    (openRecoveryWindow state).recoveryWindowStartMs.toNat + 2000 < 2 ^ 32 := by
  have hbudget : windowBudget state.mode ≤ 4001 := by
    cases state.mode <;> decide
  have hstart : (openRecoveryWindow state).recoveryWindowStartMs ≤ 4001 := by
    have hone : (1 : UInt32) ≤ 4001 := by decide
    unfold openRecoveryWindow
    split_ifs
    · exact hone
    · exact UInt32.le_trans (h.recovering_start hrecovering) hbudget
  rw [UInt32.le_iff_toNat_le] at hstart
  have hlimit : (4001 : UInt32).toNat = 4001 := rfl
  omega

/-- What the first clear of a window leaves. -/
theorem RecoveryInvariant.first_tick {state : LightFaultState}
    (h : RecoveryInvariant state) (hrecovering : state.lifecycle = .recovering)
    (hticks : state.recoveryTicks = 0) :
    (lightFaultModeObserveRecovery state).1 =
      { openRecoveryWindow state with
        recoveryElapsedMs := 1000
        recoveryTicks := 1 } :=
  observeRecovery_of_first_tick hrecovering
    (h.inactive_mask (by simp [hrecovering])) hticks (h.room hrecovering)

/-- What the second one leaves. -/
theorem RecoveryInvariant.second_tick {state : LightFaultState}
    (h : RecoveryInvariant state) (hrecovering : state.lifecycle = .recovering)
    (hticks : state.recoveryTicks = 1) :
    (lightFaultModeObserveRecovery state).1 =
      steppedDown (openRecoveryWindow state)
        ((openRecoveryWindow state).recoveryWindowStartMs + 2000) :=
  observeRecovery_of_second_tick hrecovering
    (h.inactive_mask (by simp [hrecovering])) hticks (h.room hrecovering)

theorem recoveryInvariant_reset : RecoveryInvariant lightFaultStateReset where
  stable_normal := fun _ => rfl
  inactive_mask := fun _ => rfl
  recovering_above := by simp [lightFaultStateReset]
  recovering_ticks := by simp [lightFaultStateReset]
  recovering_start := by simp [lightFaultStateReset]

/-- A report always ends in ACTIVE, where the invariant asks for nothing. -/
theorem recoveryInvariant_recordError (state : LightFaultState)
    (errorCode : UInt8) :
    RecoveryInvariant (lightFaultModeRecordError state errorCode).1 := by
  constructor <;> simp

private theorem recoveryInvariant_clearActive {state : LightFaultState}
    (h : RecoveryInvariant state) :
    RecoveryInvariant (lightFaultModeClearActive state).1 := by
  by_cases hmask : state.activeFaultMask = 0
  · rw [clearActive_of_mask_zero state hmask]
    exact h
  · rw [clearActive_of_mask_ne state hmask]
    cases state.mode <;> constructor <;> simp <;> decide

private theorem recoveryInvariant_first_tick {state : LightFaultState}
    (h : RecoveryInvariant state) (hrecovering : state.lifecycle = .recovering) :
    RecoveryInvariant { openRecoveryWindow state with
      recoveryElapsedMs := 1000
      recoveryTicks := 1 } := by
  have hstart := h.recovering_start hrecovering
  refine ⟨h.stable_normal, h.inactive_mask, h.recovering_above,
    fun _ => Or.inr rfl, fun _ => ?_⟩
  show (if state.recoveryWindowStartMs = 0 then 1
    else state.recoveryWindowStartMs) ≤ windowBudget state.mode
  split
  · cases state.mode <;> decide
  · exact hstart

private theorem windowStart_add_le {start budget : UInt32}
    (hstart : start ≤ budget) (hbudget : budget ≤ 4001) :
    windowStart (start + 2000) ≤ budget + 2000 := by
  unfold windowStart
  split <;> grind

private theorem windowBudget_stepDown {mode : FaultMode}
    (h : faultModeStepDown mode ≠ .normal) :
    windowBudget (faultModeStepDown mode) = windowBudget mode + 2000 := by
  cases mode with
  | normal => exact absurd rfl h
  | warn => exact absurd rfl h
  | degraded => rfl
  | safeMode => rfl

/-- A step down moves the window start on by one window and the budget by as
much, so the bound stays inductive. -/
private theorem recoveryInvariant_second_tick {state : LightFaultState}
    (h : RecoveryInvariant state) (hrecovering : state.lifecycle = .recovering) :
    RecoveryInvariant (steppedDown (openRecoveryWindow state)
      ((openRecoveryWindow state).recoveryWindowStartMs + 2000)) := by
  have hstart := h.recovering_start hrecovering
  have hmask := h.inactive_mask (by simp [hrecovering])
  have hopen : (openRecoveryWindow state).recoveryWindowStartMs ≤
      windowBudget state.mode := by
    simp only [openRecoveryWindow]
    split
    · cases state.mode <;> decide
    · exact hstart
  by_cases hnormal : faultModeStepDown state.mode = .normal
  · constructor <;> simp [steppedDown, openRecoveryWindow, hnormal, hmask]
  · have hbudget : windowBudget state.mode ≤ 4001 := by
      cases state.mode <;> decide
    have hnext := windowStart_add_le hopen hbudget
    rw [← windowBudget_stepDown hnormal] at hnext
    have hmode : faultModeStepDown (openRecoveryWindow state).mode ≠ .normal :=
      hnormal
    constructor <;>
      simp only [steppedDown, if_neg hmode]
    · intro hstable
      exact absurd (hrecovering.symm.trans hstable) (by simp)
    · exact fun _ => hmask
    · exact fun _ => (FaultMode.normal_lt_iff _).mpr hnormal
    · exact fun _ => Or.inl trivial
    · exact fun _ => hnext

/-- The clear lemma: one clear of all faults, from any state of the
invariant, whichever of the three paths it takes. -/
theorem recoveryInvariant_clearedState {state : LightFaultState}
    (h : RecoveryInvariant state) : RecoveryInvariant (clearedState state) := by
  unfold clearedState
  split_ifs with hmask hrecovering
  · exact recoveryInvariant_clearActive h
  · rcases h.recovering_ticks hrecovering with hticks | hticks
    · rw [h.first_tick hrecovering hticks]
      exact recoveryInvariant_first_tick h hrecovering
    · rw [h.second_tick hrecovering hticks]
      exact recoveryInvariant_second_tick h hrecovering
  · exact recoveryInvariant_clearActive h

/-- Any request of any kind keeps the invariant. -/
theorem recoveryInvariant_step {memory : FaultmgMemory}
    (h : RecoveryInvariant memory.faultState) (request : FaultRequest) :
    RecoveryInvariant (request.step memory).faultState := by
  cases request with
  | report errorCode => exact recoveryInvariant_recordError _ errorCode
  | clear scope =>
      by_cases hscope : scope = lightTransportFaultClearAll
      · subst hscope
        exact recoveryInvariant_clearedState h
      · rw [FaultRequest.step, FaultRequest.handle,
          handleFaultClear_of_other_scope memory hscope]
        exact h

/-- How many clears a state outside the trap still needs. -/
def clearsLeft (state : LightFaultState) : Nat :=
  match state.lifecycle with
  | .stable => 0
  | .active => 2 * state.mode.value + 1
  | .recovering => 2 * state.mode.value - state.recoveryTicks.toNat

theorem clearsLeft_le_seven (state : LightFaultState) : clearsLeft state ≤ 7 := by
  have hmode : state.mode.value ≤ 3 := by
    cases state.mode <;> decide
  unfold clearsLeft
  split <;> omega

/-- A clear takes exactly one off the clears left. -/
theorem clearsLeft_clearedState {state : LightFaultState}
    (h : RecoveryInvariant state) (htrapped : ¬ Trapped state) :
    clearsLeft (clearedState state) = clearsLeft state - 1 := by
  cases hlifecycle : state.lifecycle with
  | stable =>
      have hmask := h.inactive_mask (by simp [hlifecycle])
      have hsame : clearedState state = state := by
        simp [clearedState, hmask, hlifecycle, clearActive_of_mask_zero]
      simp [hsame, clearsLeft, hlifecycle]
  | active =>
      have hmask : state.activeFaultMask ≠ 0 :=
        fun hzero => htrapped ⟨hlifecycle, hzero⟩
      rw [clearedState, if_pos hmask, clearActive_of_mask_ne state hmask]
      by_cases hmode : state.mode = .normal
      · simp [clearsLeft, hlifecycle, hmode, FaultMode.value]
      · simp [clearsLeft, hlifecycle, hmode]
  | recovering =>
      have hmask := h.inactive_mask (by simp [hlifecycle])
      have habove := h.recovering_above hlifecycle
      rw [clearedState, if_neg (by simp [hmask]), if_pos hlifecycle]
      rcases h.recovering_ticks hlifecycle with hticks | hticks
      · rw [h.first_tick hlifecycle hticks]
        simp [clearsLeft, openRecoveryWindow, hlifecycle, hticks]
      · rw [h.second_tick hlifecycle hticks]
        cases hmode : state.mode with
        | normal => exact absurd habove (by simp [hmode])
        | warn =>
            simp [clearsLeft, steppedDown, openRecoveryWindow, hlifecycle,
              hticks, hmode, faultModeStepDown, FaultMode.value]
        | degraded =>
            simp [clearsLeft, steppedDown, openRecoveryWindow, hlifecycle,
              hticks, hmode, faultModeStepDown, FaultMode.value]
        | safeMode =>
            simp [clearsLeft, steppedDown, openRecoveryWindow, hlifecycle,
              hticks, hmode, faultModeStepDown, FaultMode.value]

/-- Outside the trap a clear never leads into ACTIVE. -/
theorem clearedState_not_trapped {state : LightFaultState}
    (h : RecoveryInvariant state) (htrapped : ¬ Trapped state) :
    ¬ Trapped (clearedState state) := by
  intro hafter
  have hmask : state.activeFaultMask ≠ 0 ∨ state.lifecycle ≠ .active := by
    by_contra hnot
    obtain ⟨hzero, hactive⟩ := not_or.mp hnot
    exact htrapped ⟨not_not.mp hactive, not_not.mp hzero⟩
  obtain ⟨hactive, -⟩ := hafter
  unfold clearedState at hactive
  split_ifs at hactive with hset hrecovering
  · rcases clearActive_outcome state hset with ⟨hleft, -⟩ | ⟨hleft, -⟩ <;>
      simp [hleft] at hactive
  · rcases h.recovering_ticks hrecovering with hticks | hticks
    · rw [h.first_tick hrecovering hticks] at hactive
      exact absurd (hrecovering.symm.trans hactive) (by simp)
    · rw [h.second_tick hrecovering hticks] at hactive
      have hopen : (openRecoveryWindow state).lifecycle = .recovering := hrecovering
      rcases steppedDown_outcome hopen
        ((openRecoveryWindow state).recoveryWindowStartMs + 2000) with
          ⟨hleft, -⟩ | ⟨hleft, -⟩ <;>
        simp [hleft] at hactive
  · rw [clearActive_of_mask_zero state (not_not.mp hset)] at hactive
    rcases hmask with hset' | hother
    · exact hset hset'
    · exact hother hactive

/-- Inside the trap a clear changes nothing. -/
theorem clearedState_of_trapped {state : LightFaultState}
    (htrapped : Trapped state) : clearedState state = state := by
  obtain ⟨hactive, hmask⟩ := htrapped
  simp [clearedState, hmask, hactive, clearActive_of_mask_zero]

/-- Seven clears of all faults in a row. -/
def sevenClears (memory : FaultmgMemory) : FaultmgMemory :=
  run FaultRequest.step memory
    (List.replicate 7 (.clear lightTransportFaultClearAll))

/-- They end in NORMAL and STABLE with an empty mask. -/
def RecoveryCompletes (memory : FaultmgMemory) : Prop :=
  (sevenClears memory).faultState.mode = .normal ∧
    (sevenClears memory).faultState.lifecycle = .stable ∧
    (sevenClears memory).faultState.activeFaultMask = 0

instance (memory : FaultmgMemory) : Decidable (RecoveryCompletes memory) :=
  inferInstanceAs (Decidable (_ ∧ _ ∧ _))

/-- No clear left to do means that the recovery is complete. -/
theorem complete_of_clearsLeft_zero {state : LightFaultState}
    (h : RecoveryInvariant state) (hleft : clearsLeft state = 0) :
    state.mode = .normal ∧ state.lifecycle = .stable ∧
      state.activeFaultMask = 0 := by
  cases hlifecycle : state.lifecycle with
  | stable =>
      exact ⟨h.stable_normal hlifecycle, rfl, h.inactive_mask (by simp [hlifecycle])⟩
  | active => simp [clearsLeft, hlifecycle] at hleft
  | recovering =>
      have habove := h.recovering_above hlifecycle
      have hlevel : 0 < state.mode.value := (FaultMode.lt_iff _ _).mp habove
      have hticks : state.recoveryTicks.toNat ≤ 1 := by
        rcases h.recovering_ticks hlifecycle with hticks | hticks <;>
          simp [hticks]
      simp only [clearsLeft, hlifecycle] at hleft
      omega

theorem recoveryCompletes_iff {memory : FaultmgMemory}
    (h : RecoveryInvariant memory.faultState) :
    RecoveryCompletes memory ↔ ¬ Trapped memory.faultState := by
  unfold RecoveryCompletes sevenClears
  constructor
  · rintro ⟨-, hstable, -⟩ htrapped
    have hstays : ∀ current : FaultmgMemory,
        ∀ request ∈ List.replicate 7
          (FaultRequest.clear lightTransportFaultClearAll),
        Trapped current.faultState →
          Trapped (request.step current).faultState := by
      intro current request hmember hcurrent
      obtain rfl := List.eq_of_mem_replicate hmember
      rw [FaultRequest.step, FaultRequest.handle, handleFaultClear_faultState,
        clearedState_of_trapped hcurrent]
      exact hcurrent
    have hactive := (run_invariant_on
      (fun current : FaultmgMemory => Trapped current.faultState) _ hstays
      memory htrapped).1
    exact absurd (hstable.symm.trans hactive) (by simp)
  · intro htrapped
    have hinvariant := run_invariant
      (fun current : FaultmgMemory => RecoveryInvariant current.faultState)
      (fun current request hcurrent => recoveryInvariant_step hcurrent request)
      memory h (List.replicate 7 (.clear lightTransportFaultClearAll))
    refine complete_of_clearsLeft_zero hinvariant ?_
    refine run_replicate_exhausts
      (fun current : FaultmgMemory => RecoveryInvariant current.faultState ∧
        ¬ Trapped current.faultState)
      (fun current => clearsLeft current.faultState)
      (FaultRequest.clear lightTransportFaultClearAll) ?_ ?_ 7 memory
      ⟨h, htrapped⟩ (clearsLeft_le_seven _)
    · rintro current ⟨hcurrent, hfree⟩
      exact ⟨recoveryInvariant_clearedState hcurrent,
        clearedState_not_trapped hcurrent hfree⟩
    · rintro current ⟨hcurrent, hfree⟩
      exact clearsLeft_clearedState hcurrent hfree

/-- A report finds or sets a bit of the mask. -/
def ReportMasked (memory : FaultmgMemory) : FaultRequest → Prop
  | .report errorCode =>
      RecognisedError errorCode ∨ memory.faultState.activeFaultMask ≠ 0
  | .clear _ => True

/-- The step lemma: outside the trap, a request stays outside exactly when it
is not an unknown code on an empty mask. -/
theorem not_trapped_step_iff {memory : FaultmgMemory}
    (h : RecoveryInvariant memory.faultState)
    (htrapped : ¬ Trapped memory.faultState) (request : FaultRequest) :
    ¬ Trapped (request.step memory).faultState ↔
      ReportMasked memory request := by
  cases request with
  | report errorCode =>
      rw [FaultRequest.step, FaultRequest.handle, handleFaultEvent_faultState,
        ReportMasked, ← faultMaskForError_ne_zero_iff]
      simp only [Trapped, recordError_lifecycle, recordError_activeFaultMask,
        true_and, UInt8.or_eq_zero_iff]
      tauto
  | clear scope =>
      refine iff_of_true ?_ trivial
      by_cases hscope : scope = lightTransportFaultClearAll
      · subst hscope
        exact clearedState_not_trapped h htrapped
      · rw [FaultRequest.step, FaultRequest.handle,
          handleFaultClear_of_other_scope memory hscope]
        exact htrapped

/-- In a run from init, seven clears complete the recovery from every state
reached exactly when no report brings an unknown code to an empty mask. -/
theorem recovery_completes_throughout_iff (shmem : LightShmem)
    (faultModeSlot : UInt8) (requests : List FaultRequest) :
    EveryState FaultRequest.step RecoveryCompletes
        (faultmgInit shmem faultModeSlot).memory requests ↔
      EveryStep FaultRequest.step ReportMasked
        (faultmgInit shmem faultModeSlot).memory requests := by
  have hinit : RecoveryInvariant
      (faultmgInit shmem faultModeSlot).memory.faultState :=
    recoveryInvariant_reset
  refine everyState_iff_everyStep
    (fun memory => RecoveryInvariant memory.faultState) ?_ ?_ _ hinit ?_ requests
  · intro memory request hmemory
    exact recoveryInvariant_step hmemory request
  · intro memory request hmemory hcompletes
    rw [recoveryCompletes_iff hmemory] at hcompletes
    rw [recoveryCompletes_iff (recoveryInvariant_step hmemory request)]
    exact not_trapped_step_iff hmemory hcompletes request
  · rw [recoveryCompletes_iff hinit]
    exact fun htrapped => absurd htrapped.1 (by simp [faultmgInit,
      publishFaultState, lightFaultStateReset])

/-- A report whose message register holds zero, as the first event after
init: seven clears later faultmg is still in ACTIVE. -/
theorem unknown_code_traps_recovery :
    let before := (faultmgNotified LightCh.faultmgFromLightctl 0
      makeQueryMessage (faultmgInit lightShmemZeroed 0).memory).memory
    (sevenClears before).faultState.lifecycle = .active ∧
      ¬ RecoveryCompletes before := by
  decide

end LightCtrl
