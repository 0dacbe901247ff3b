import LightCtrl.Core.Protocol

/-!
`src/core/light_fault_mode.c`: the fault state machine owned by faultmg. The
C functions update a state through a pointer and return a decision record, so
each one here returns both. Timestamps and counters are `uint32_t` and wrap.

Each operation is followed by the equations the proofs use instead of its
body: what it does on the branch it takes, and which fields it leaves alone.
-/

namespace LightCtrl

inductive FaultMode where
  | normal
  | warn
  | degraded
  | safeMode
  deriving DecidableEq, Repr

/-- The enumerator's number, which is also its severity. -/
def FaultMode.value : FaultMode → Nat
  | .normal => 0
  | .warn => 1
  | .degraded => 2
  | .safeMode => 3

theorem FaultMode.value_injective : Function.Injective FaultMode.value := by
  intro left right heq
  cases left <;> cases right <;> simp_all [FaultMode.value]

/-- C compares modes by their numbers. -/
instance : LinearOrder FaultMode :=
  LinearOrder.lift' FaultMode.value FaultMode.value_injective

theorem FaultMode.lt_iff (left right : FaultMode) :
    left < right ↔ left.value < right.value := Iff.rfl

theorem FaultMode.normal_lt_iff (mode : FaultMode) :
    .normal < mode ↔ mode ≠ .normal := by
  cases mode <;> decide

/-- `(uint8_t)mode`, the form in which a mode is published. -/
def FaultMode.toByte (mode : FaultMode) : UInt8 := UInt8.ofNat mode.value

inductive LightFaultLifecycle where
  | stable
  | active
  | recovering
  deriving DecidableEq, Repr

def LightFaultLifecycle.toByte : LightFaultLifecycle → UInt8
  | .stable => 0
  | .active => 1
  | .recovering => 2

structure FaultCounters where
  totalErrors : UInt32
  speedLimitErrors : UInt32
  modeConflictErrors : UInt32
  invalidCmdErrors : UInt32
  hwStateErrors : UInt32
  consecutiveModeConflicts : UInt32
  deriving DecidableEq, Repr

structure LightFaultState where
  mode : FaultMode
  counters : FaultCounters
  activeCounters : FaultCounters
  lifecycle : LightFaultLifecycle
  activeFaultMask : UInt8
  recoveryTicks : UInt8
  recoveryWindowStartMs : UInt32
  recoveryElapsedMs : UInt32
  lastFaultCode : UInt8
  deriving DecidableEq, Repr

structure FaultDecision where
  previousMode : FaultMode
  currentMode : FaultMode
  previousLifecycle : LightFaultLifecycle
  currentLifecycle : LightFaultLifecycle
  modeChanged : Bool
  lifecycleChanged : Bool
  deriving DecidableEq, Repr

namespace LightFaultMask

abbrev speedLimit : UInt8 := 0x01
abbrev modeConflict : UInt8 := 0x02
abbrev invalidCmd : UInt8 := 0x04
abbrev hwState : UInt8 := 0x08

end LightFaultMask

abbrev lightFaultRecoveryWindowTicks : UInt32 := 2
abbrev lightFaultRecoveryWindowMs : UInt32 := 2000

def deriveMode (counters : FaultCounters) : FaultMode :=
  if counters.hwStateErrors ≥ 2 then .safeMode
  else if counters.consecutiveModeConflicts ≥ 3 then .degraded
  else if counters.speedLimitErrors > 0
      ∨ counters.modeConflictErrors > 0
      ∨ counters.invalidCmdErrors > 0
      ∨ counters.hwStateErrors > 0 then .warn
  else .normal

def faultModeStepDown : FaultMode → FaultMode
  | .safeMode => .degraded
  | .degraded => .warn
  | .warn => .normal
  | .normal => .normal

def faultMaskForError (errorCode : UInt8) : UInt8 :=
  if errorCode = LightErr.speedLimit then LightFaultMask.speedLimit
  else if errorCode = LightErr.modeConflict then LightFaultMask.modeConflict
  else if errorCode = LightErr.invalidCmd then LightFaultMask.invalidCmd
  else if errorCode = LightErr.hwStateErr then LightFaultMask.hwState
  else 0

def faultCountersReset : FaultCounters where
  totalErrors := 0
  speedLimitErrors := 0
  modeConflictErrors := 0
  invalidCmdErrors := 0
  hwStateErrors := 0
  consecutiveModeConflicts := 0

def applyErrorToCounters (counters : FaultCounters) (errorCode : UInt8) :
    FaultCounters :=
  let counters := { counters with totalErrors := counters.totalErrors + 1 }
  if errorCode = LightErr.speedLimit then
    { counters with
      speedLimitErrors := counters.speedLimitErrors + 1
      consecutiveModeConflicts := 0 }
  else if errorCode = LightErr.modeConflict then
    { counters with
      modeConflictErrors := counters.modeConflictErrors + 1
      consecutiveModeConflicts := counters.consecutiveModeConflicts + 1 }
  else if errorCode = LightErr.invalidCmd then
    { counters with
      invalidCmdErrors := counters.invalidCmdErrors + 1
      consecutiveModeConflicts := 0 }
  else if errorCode = LightErr.hwStateErr then
    { counters with
      hwStateErrors := counters.hwStateErrors + 1
      consecutiveModeConflicts := 0 }
  else
    { counters with consecutiveModeConflicts := 0 }

def makeDecision (state : LightFaultState) (previousMode : FaultMode)
    (previousLifecycle : LightFaultLifecycle) : FaultDecision where
  previousMode := previousMode
  currentMode := state.mode
  previousLifecycle := previousLifecycle
  currentLifecycle := state.lifecycle
  modeChanged := previousMode ≠ state.mode
  lifecycleChanged := previousLifecycle ≠ state.lifecycle

/-- The state `light_fault_state_reset` writes. -/
def lightFaultStateReset : LightFaultState where
  mode := .normal
  counters := faultCountersReset
  activeCounters := faultCountersReset
  lifecycle := .stable
  activeFaultMask := 0
  recoveryTicks := 0
  recoveryWindowStartMs := 0
  recoveryElapsedMs := 0
  lastFaultCode := 0

def lightFaultModeRecordError (state : LightFaultState) (errorCode : UInt8) :
    LightFaultState × FaultDecision :=
  let previousMode := state.mode
  let previousLifecycle := state.lifecycle
  let state := { state with
    lastFaultCode := errorCode
    counters := applyErrorToCounters state.counters errorCode
    activeCounters := applyErrorToCounters state.activeCounters errorCode
    activeFaultMask := state.activeFaultMask ||| faultMaskForError errorCode
    recoveryTicks := 0
    recoveryWindowStartMs := 0
    recoveryElapsedMs := 0
    lifecycle := .active }
  let derivedMode := deriveMode state.activeCounters
  let state := { state with
    mode :=
      if previousLifecycle = .recovering ∧ previousMode > derivedMode
      then previousMode else derivedMode }
  (state, makeDecision state previousMode previousLifecycle)

def lightFaultModeClearActive (state : LightFaultState) :
    LightFaultState × FaultDecision :=
  let previousMode := state.mode
  let previousLifecycle := state.lifecycle
  if state.activeFaultMask = 0 then
    (state, makeDecision state previousMode previousLifecycle)
  else
    let state := { state with
      activeCounters := faultCountersReset
      activeFaultMask := 0
      recoveryTicks := 0
      recoveryWindowStartMs := 0
      recoveryElapsedMs := 0 }
    let state := { state with
      lifecycle := if state.mode = .normal then .stable else .recovering }
    (state, makeDecision state previousMode previousLifecycle)

def lightFaultModeObserveRecoveryAt (state : LightFaultState) (nowMs : UInt32) :
    LightFaultState × FaultDecision :=
  let previousMode := state.mode
  let previousLifecycle := state.lifecycle
  if state.lifecycle ≠ .recovering ∨ state.activeFaultMask ≠ 0 then
    (state, makeDecision state previousMode previousLifecycle)
  else if state.recoveryWindowStartMs = 0 then
    -- zero means that the window has not started, so a clock at zero reads as one
    let state := { state with
      recoveryWindowStartMs := if nowMs = 0 then 1 else nowMs
      recoveryElapsedMs := 0
      recoveryTicks := 0 }
    (state, makeDecision state previousMode previousLifecycle)
  else
    let state := { state with
      recoveryElapsedMs :=
        if nowMs ≤ state.recoveryWindowStartMs then 0
        else nowMs - state.recoveryWindowStartMs }
    if state.recoveryElapsedMs < lightFaultRecoveryWindowMs then
      let tickProgress :=
        (state.recoveryElapsedMs * lightFaultRecoveryWindowTicks)
          / lightFaultRecoveryWindowMs
      let tickProgress :=
        if tickProgress ≥ lightFaultRecoveryWindowTicks
        then lightFaultRecoveryWindowTicks - 1 else tickProgress
      let state := { state with recoveryTicks := tickProgress.toUInt8 }
      (state, makeDecision state previousMode previousLifecycle)
    else
      let state := { state with
        recoveryTicks := 0
        recoveryElapsedMs := 0
        recoveryWindowStartMs := if nowMs = 0 then 1 else nowMs
        mode := faultModeStepDown state.mode }
      let state :=
        if state.mode = .normal then
          { state with lifecycle := .stable, recoveryWindowStartMs := 0 }
        else state
      (state, makeDecision state previousMode previousLifecycle)

def lightFaultModeObserveRecovery (state : LightFaultState) :
    LightFaultState × FaultDecision :=
  let state := { state with
    recoveryWindowStartMs :=
      if state.recoveryWindowStartMs = 0 then 1 else state.recoveryWindowStartMs }
  let nowMs :=
    if state.recoveryTicks.toUInt32 + 1 ≥ lightFaultRecoveryWindowTicks then
      state.recoveryWindowStartMs + lightFaultRecoveryWindowMs
    else
      state.recoveryWindowStartMs
        + ((state.recoveryTicks.toUInt32 + 1)
          * (lightFaultRecoveryWindowMs / lightFaultRecoveryWindowTicks))
  lightFaultModeObserveRecoveryAt state nowMs

structure LightFaultTaxonomyEntry where
  code : UInt8
  name : String
  source : String
  severity : String
  recoveryPolicy : String
  outputPolicy : String
  deriving DecidableEq, Repr

def gFaultTaxonomy : List LightFaultTaxonomyEntry :=
  [{ code := LightErr.speedLimit
     name := "SPEED_LIMIT"
     source := "lightctl.runtime_guard"
     severity := "WARN"
     recoveryPolicy := "clear_then_elapsed_window"
     outputPolicy := "preserve_requested_output" },
   { code := LightErr.modeConflict
     name := "MODE_CONFLICT"
     source := "lightctl.runtime_guard_or_test_injection"
     severity := "DEGRADED_AFTER_3_CONSECUTIVE"
     recoveryPolicy := "clear_then_elapsed_window"
     outputPolicy := "disable_high_beam_minimum_illumination" },
   { code := LightErr.invalidCmd
     name := "INVALID_CMD"
     source := "transport_or_channel_contract"
     severity := "WARN"
     recoveryPolicy := "clear_then_elapsed_window"
     outputPolicy := "preserve_requested_output" },
   { code := LightErr.hwStateErr
     name := "HW_STATE_ERR"
     source := "hardware_state_or_test_injection"
     severity := "SAFE_MODE_AFTER_2"
     recoveryPolicy := "clear_then_elapsed_window"
     outputPolicy := "conservative_low_beam_position_only" }]

/-- `light_fault_taxonomy_lookup`; the null pointer is `none`. -/
def lightFaultTaxonomyLookup (errorCode : UInt8) :
    Option LightFaultTaxonomyEntry :=
  gFaultTaxonomy.find? (fun entry => entry.code = errorCode)

def lightFaultModeTransportEncode (mode : FaultMode) : UInt8 := mode.toByte

def lightFaultModeTransportDecode (rawMode : UInt8) : FaultMode :=
  match rawMode with
  | 0 => .normal
  | 1 => .warn
  | 2 => .degraded
  | 3 => .safeMode
  | _ => .normal

/-- `light_fault_mode_transport_load`, on the byte its slot holds. -/
def lightFaultModeTransportLoad (slot : UInt8) : FaultMode :=
  lightFaultModeTransportDecode slot

@[simp] theorem lightFaultModeTransportDecode_encode (mode : FaultMode) :
    lightFaultModeTransportDecode (lightFaultModeTransportEncode mode) = mode := by
  cases mode <;> rfl

end LightCtrl
