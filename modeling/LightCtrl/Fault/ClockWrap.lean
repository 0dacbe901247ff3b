import LightCtrl.Fault.Lifecycle
import LightCtrl.Fault.Window

/-!
The recovery window where the 32-bit millisecond counter wraps. A reading is
compared with the window start as a plain number, so the window counts as
elapsed only at readings from `start + 2000` up to the largest one. Behind a
wrap the readings are small again and the clock seems to have gone back. A
window that starts in the last two seconds of the counter cannot be completed
by any observation.
-/

namespace LightCtrl

open Runs

/-- What RECOVERING means, whatever codes and clock readings led to it. -/
structure RecoveringShape (state : LightFaultState) : Prop where
  mask : state.lifecycle = .recovering → state.activeFaultMask = 0
  above : state.lifecycle = .recovering → state.mode ≠ .normal
  ticks : state.lifecycle = .recovering → state.recoveryTicks < 2

section Shape

variable {state : LightFaultState}

theorem recoveringShape_observeRecoveryAt (h : RecoveringShape state)
    (nowMs : UInt32) :
    RecoveringShape (lightFaultModeObserveRecoveryAt state nowMs).1 := by
  have hnone : (0 : UInt8) < 2 := by decide
  have houtcome := observeRecoveryAt_outcome state nowMs
  generalize (lightFaultModeObserveRecoveryAt state nowMs).1 = next at houtcome ⊢
  cases houtcome with
  | ignored _ => exact h
  | opened _ _ _ => exact ⟨h.mask, h.above, fun _ => hnone⟩
  | progressed _ _ _ _ =>
      exact ⟨h.mask, h.above, fun _ => recoveryTickProgress_toUInt8_lt _⟩
  | stepped hwindow =>
      refine ⟨fun _ => hwindow.mask, fun hrecovering => ?_, fun _ => hnone⟩
      rcases steppedDown_outcome hwindow.lifecycle nowMs with
        ⟨hstable, -⟩ | ⟨-, habove⟩
      · exact absurd (hstable.symm.trans hrecovering) (by decide)
      · exact habove

theorem recoveringShape_apply (h : RecoveringShape state)
    (operation : FaultOperation) : RecoveringShape (operation.apply state) := by
  have hnone : (0 : UInt8) < 2 := by decide
  cases operation with
  | recordError errorCode => constructor <;> simp [FaultOperation.apply]
  | clearActive =>
      by_cases hmask : state.activeFaultMask = 0
      · rw [FaultOperation.apply, clearActive_of_mask_zero state hmask]
        exact h
      · have hleaves := clearActive_outcome state hmask
        rw [clearActive_of_mask_ne state hmask] at hleaves
        rw [FaultOperation.apply, clearActive_of_mask_ne state hmask]
        refine ⟨fun _ => rfl, fun hrecovering => ?_, fun _ => hnone⟩
        rcases hleaves with ⟨hstable, -⟩ | ⟨-, habove⟩
        · exact absurd (hstable.symm.trans hrecovering) (by decide)
        · exact habove
  | observeRecoveryAt nowMs => exact recoveringShape_observeRecoveryAt h nowMs
  | observeRecovery =>
      have hopen : RecoveringShape (openRecoveryWindow state) :=
        ⟨h.mask, h.above, h.ticks⟩
      exact recoveringShape_observeRecoveryAt hopen (recoveryObservationTime state)

theorem recoveringShape_run (operations : List FaultOperation) :
    RecoveringShape
      (run FaultOperation.apply lightFaultStateReset operations) := by
  have hreset : RecoveringShape lightFaultStateReset := by
    constructor <;> simp [lightFaultStateReset]
  exact run_invariant RecoveringShape
    (fun _ operation h => recoveringShape_apply h operation) _ hreset operations

end Shape

/-- The later mode is one level below the earlier one. -/
def LowersOneLevel (before after : LightFaultState) : Prop :=
  after.mode.value + 1 = before.mode.value

instance (before after : LightFaultState) : Decidable (LowersOneLevel before after) :=
  inferInstanceAs (Decidable (_ = _))

theorem not_lowersOneLevel_of_mode {before after : LightFaultState}
    (hmode : after.mode = before.mode) : ¬ LowersOneLevel before after := by
  rw [LowersOneLevel, hmode]
  exact Nat.succ_ne_self _

theorem faultModeStepDown_ne {mode : FaultMode} (hmode : mode ≠ .normal) :
    faultModeStepDown mode ≠ mode := by
  cases mode with
  | normal => exact absurd rfl hmode
  | warn => decide
  | degraded => decide
  | safeMode => decide

/-- A recovery with a running window, as far as observations care. -/
structure OpenWindow (state : LightFaultState) : Prop where
  recovering : state.lifecycle = .recovering
  mask : state.activeFaultMask = 0
  above : state.mode ≠ .normal
  ticks : state.recoveryTicks < 2
  started : state.recoveryWindowStartMs ≠ 0

/-- The state after an observation that finds the window still running. -/
def windowProgressed (state : LightFaultState) (nowMs : UInt32) : LightFaultState :=
  { state with
    recoveryElapsedMs := recoveryElapsed state nowMs
    recoveryTicks := (recoveryTickProgress (recoveryElapsed state nowMs)).toUInt8 }

section Window

variable {state : LightFaultState}

theorem RecoveringShape.openWindow (h : RecoveringShape state)
    (hrecovering : state.lifecycle = .recovering)
    (hstarted : state.recoveryWindowStartMs ≠ 0) : OpenWindow state :=
  ⟨hrecovering, h.mask hrecovering, h.above hrecovering, h.ticks hrecovering,
    hstarted⟩

theorem OpenWindow.openRecoveryWindow_eq (h : OpenWindow state) :
    openRecoveryWindow state = state := by
  rw [openRecoveryWindow, if_neg h.started]

theorem OpenWindow.progressed (h : OpenWindow state) (nowMs : UInt32) :
    OpenWindow (windowProgressed state nowMs) :=
  { h with ticks := recoveryTickProgress_toUInt8_lt _ }

/-- The step lemma for an observation on the clock. -/
theorem OpenWindow.observe_eq (h : OpenWindow state) (nowMs : UInt32) :
    (lightFaultModeObserveRecoveryAt state nowMs).1 =
      if nowMs.toNat < state.recoveryWindowStartMs.toNat + 2000 then
        windowProgressed state nowMs
      else steppedDown state nowMs := by
  have houtcome := observeRecoveryAt_outcome state nowMs
  generalize (lightFaultModeObserveRecoveryAt state nowMs).1 = next at houtcome ⊢
  simp only [← recoveryElapsed_lt_window_iff]
  cases houtcome with
  | ignored hidle =>
      rcases hidle with hlifecycle | hset
      · exact absurd h.recovering hlifecycle
      · exact absurd h.mask hset
  | opened _ _ hzero => exact absurd hzero h.started
  | progressed _ _ _ hshort => rw [if_pos hshort, windowProgressed]
  | stepped hwindow => rw [if_neg hwindow.elapsed]

theorem OpenWindow.lowers_of_stepped (h : OpenWindow state) (nowMs : UInt32) :
    LowersOneLevel state (steppedDown state nowMs) :=
  faultModeStepDown_value (faultModeStepDown_ne h.above)

theorem OpenWindow.observe_lowers_iff (h : OpenWindow state) (nowMs : UInt32) :
    LowersOneLevel state (lightFaultModeObserveRecoveryAt state nowMs).1 ↔
      state.recoveryWindowStartMs.toNat + 2000 ≤ nowMs.toNat := by
  rw [h.observe_eq]
  split_ifs with hearly
  · exact iff_of_false (not_lowersOneLevel_of_mode rfl) (Nat.not_le.mpr hearly)
  · exact iff_of_true (h.lowers_of_stepped nowMs) (Nat.not_lt.mp hearly)

/-- Whatever an observation reads, a window whose end lies behind the largest
reading only makes progress. -/
theorem OpenWindow.observe_late (h : OpenWindow state)
    (hlate : 2 ^ 32 ≤ state.recoveryWindowStartMs.toNat + 2000) (nowMs : UInt32) :
    (lightFaultModeObserveRecoveryAt state nowMs).1 =
      windowProgressed state nowMs := by
  rw [h.observe_eq, if_pos (lt_of_lt_of_le nowMs.toNat_lt hlate)]

end Window

/-- The operation is one of the two observations. -/
def FaultOperation.Observes : FaultOperation → Prop
  | .observeRecoveryAt _ => True
  | .observeRecovery => True
  | _ => False

/-- A window that starts in the last two seconds of the counter is never
completed: no number of observations of either kind lowers the mode. -/
theorem OpenWindow.stuck {state : LightFaultState} (h : OpenWindow state)
    (hlate : 2 ^ 32 ≤ state.recoveryWindowStartMs.toNat + 2000)
    (observations : List FaultOperation)
    (hobserves : ∀ operation ∈ observations, operation.Observes) :
    (run FaultOperation.apply state observations).mode = state.mode := by
  have hkept : OpenWindow (run FaultOperation.apply state observations) ∧
      (run FaultOperation.apply state observations).recoveryWindowStartMs =
        state.recoveryWindowStartMs ∧
      (run FaultOperation.apply state observations).mode = state.mode := by
    apply run_invariant_on (fun current => OpenWindow current ∧
      current.recoveryWindowStartMs = state.recoveryWindowStartMs ∧
      current.mode = state.mode) observations ?_ state ⟨h, rfl, rfl⟩
    rintro current operation hmember ⟨hopen, hstart, hmode⟩
    rw [← hstart] at hlate
    cases operation with
    | recordError errorCode => exact absurd (hobserves _ hmember) id
    | clearActive => exact absurd (hobserves _ hmember) id
    | observeRecoveryAt nowMs =>
        rw [FaultOperation.apply, hopen.observe_late hlate]
        exact ⟨hopen.progressed nowMs, hstart, hmode⟩
    | observeRecovery =>
        rw [FaultOperation.apply, observeRecovery_eq, hopen.openRecoveryWindow_eq,
          hopen.observe_late hlate]
        exact ⟨hopen.progressed _, hstart, hmode⟩
  exact hkept.2.2

/-- The millisecond counter some time after the window has started. -/
def readingAfter (state : LightFaultState) (elapsedMs : Nat) : UInt32 :=
  UInt32.ofNat (state.recoveryWindowStartMs.toNat + elapsedMs)

/-- An observation that long after the window start lowers the mode. -/
def ClockLowers (state : LightFaultState) (elapsedMs : Nat) : Prop :=
  LowersOneLevel state
    (lightFaultModeObserveRecoveryAt state (readingAfter state elapsedMs)).1

/-- At most two consecutive calls of `observe_recovery` lower the mode. -/
def CallsLower (state : LightFaultState) : Prop :=
  ∃ count ≤ 2, LowersOneLevel state
    (run FaultOperation.apply state (List.replicate count .observeRecovery))

section Readings

variable {state : LightFaultState}

theorem OpenWindow.clockLowers_iff (h : OpenWindow state) {elapsedMs : Nat}
    (hwindow : 2000 ≤ elapsedMs) (hhalf : elapsedMs < 2 ^ 31) :
    ClockLowers state elapsedMs ↔
      state.recoveryWindowStartMs.toNat + elapsedMs < 2 ^ 32 := by
  have hstart := state.recoveryWindowStartMs.toNat_lt
  rw [ClockLowers, h.observe_lowers_iff, readingAfter, UInt32.toNat_ofNat']
  constructor
  · intro hlate
    by_contra hwrapped
    -- behind the wrap the reading is smaller than the start
    omega
  · intro hroom
    rw [Nat.mod_eq_of_lt hroom]
    omega

/-- In the second half of the window one call is enough. -/
theorem OpenWindow.second_call (h : OpenWindow state)
    (hroom : state.recoveryWindowStartMs.toNat + 2000 < 2 ^ 32)
    (hticks : state.recoveryTicks = 1) :
    LowersOneLevel state (FaultOperation.observeRecovery.apply state) := by
  rw [FaultOperation.apply, observeRecovery_of_second_tick h.recovering h.mask
    hticks (by rwa [h.openRecoveryWindow_eq]), h.openRecoveryWindow_eq]
  exact h.lowers_of_stepped _

theorem OpenWindow.callsLower_iff (h : OpenWindow state) :
    CallsLower state ↔ state.recoveryWindowStartMs.toNat + 2000 < 2 ^ 32 := by
  constructor
  · rintro ⟨count, -, hlowers⟩
    by_contra hlate
    have hobserves : ∀ operation ∈ List.replicate count
        FaultOperation.observeRecovery, operation.Observes := by
      intro operation hmember
      rw [List.eq_of_mem_replicate hmember]
      trivial
    exact not_lowersOneLevel_of_mode
      (h.stuck (Nat.not_lt.mp hlate) _ hobserves) hlowers
  · intro hroom
    have hticks : state.recoveryTicks = 0 ∨ state.recoveryTicks = 1 := by
      have hlt := UInt8.lt_iff_toNat_lt.mp h.ticks
      have htwo : (2 : UInt8).toNat = 2 := rfl
      rw [← UInt8.toNat_inj, ← UInt8.toNat_inj]
      simp only [UInt8.toNat_zero, UInt8.toNat_one]
      omega
    rcases hticks with hfirst | hsecond
    · have hcall : FaultOperation.observeRecovery.apply state =
          { state with recoveryElapsedMs := 1000, recoveryTicks := 1 } := by
        rw [FaultOperation.apply, observeRecovery_of_first_tick h.recovering
          h.mask hfirst (by rwa [h.openRecoveryWindow_eq]),
          h.openRecoveryWindow_eq]
      have hopen : OpenWindow
          { state with recoveryElapsedMs := 1000, recoveryTicks := 1 } := by
        have hone : (1 : UInt8) < 2 := by decide
        exact { h with ticks := hone }
      refine ⟨2, le_refl 2, ?_⟩
      rw [List.replicate_succ, run_cons, hcall]
      exact hopen.second_call hroom rfl
    · exact ⟨1, by decide, h.second_call hroom hsecond⟩

end Readings

/-- After every run of the fault state machine that ends in RECOVERING with an
open window: an observation a full window or more after the start lowers the
mode exactly when the counter has not wrapped since, and two calls of
`observe_recovery` lower it exactly when the end of the window does not wrap. -/
theorem recovery_window_iff (operations : List FaultOperation)
    (hrecovering : (run FaultOperation.apply lightFaultStateReset
      operations).lifecycle = .recovering)
    (hstarted : (run FaultOperation.apply lightFaultStateReset
      operations).recoveryWindowStartMs ≠ 0) :
    let state := run FaultOperation.apply lightFaultStateReset operations
    (∀ elapsedMs, 2000 ≤ elapsedMs → elapsedMs < 2 ^ 31 →
      (ClockLowers state elapsedMs ↔
        state.recoveryWindowStartMs.toNat + elapsedMs < 2 ^ 32)) ∧
      (CallsLower state ↔ state.recoveryWindowStartMs.toNat + 2000 < 2 ^ 32) := by
  intro state
  have hopen : OpenWindow state :=
    (recoveringShape_run operations).openWindow hrecovering hstarted
  exact ⟨fun _ hwindow hhalf => hopen.clockLowers_iff hwindow hhalf,
    hopen.callsLower_iff⟩

/-- SAFE_MODE, with a window that starts one second after the counter did. -/
theorem recovery_window_iff_safeMode :
    let state := run FaultOperation.apply lightFaultStateReset
      [.recordError LightErr.hwStateErr, .recordError LightErr.hwStateErr,
        .clearActive, .observeRecoveryAt 1000]
    (∀ elapsedMs, 2000 ≤ elapsedMs → elapsedMs < 2 ^ 31 →
      (ClockLowers state elapsedMs ↔
        state.recoveryWindowStartMs.toNat + elapsedMs < 2 ^ 32)) ∧
      (CallsLower state ↔ state.recoveryWindowStartMs.toNat + 2000 < 2 ^ 32) :=
  recovery_window_iff
    [.recordError LightErr.hwStateErr, .recordError LightErr.hwStateErr,
      .clearActive, .observeRecoveryAt 1000] (by decide) (by decide)

/-- A window that starts one second before the counter wraps: two seconds
later the mode is still the same. -/
theorem recovery_window_wraps :
    ¬ ∀ operations : List FaultOperation,
      (∀ operation ∈ operations, operation.Timed) →
      (run FaultOperation.apply lightFaultStateReset operations).lifecycle =
        .recovering →
      (run FaultOperation.apply lightFaultStateReset
        operations).recoveryWindowStartMs ≠ 0 →
      (∀ elapsedMs, 2000 ≤ elapsedMs → elapsedMs < 2 ^ 31 →
        ClockLowers (run FaultOperation.apply lightFaultStateReset operations)
          elapsedMs) ∧
        CallsLower (run FaultOperation.apply lightFaultStateReset operations) := by
  intro hworks
  obtain ⟨hclock, -⟩ := hworks
    [.recordError LightErr.speedLimit, .clearActive, .observeRecoveryAt 4294966296]
    (by decide) (by decide) (by decide)
  have hlowers := hclock 2000 (by decide) (by decide)
  unfold ClockLowers at hlowers
  exact absurd hlowers (by decide)

end LightCtrl
