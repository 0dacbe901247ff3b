import LightCtrl.Core.FaultMode

/-!
`src/core/light_execution_plan.c` and `src/core/light_runtime_guard.c`: the
plan that takes the lamps from their current state to a target, and the check
lightctl makes before each action of a plan. Plans contain only the twelve
gpio endpoints and the guard is only asked about actions of a plan, so both
speak of `GpioAction`. A `fault_mode_t` is the shared-memory byte it was cast
from.
-/

namespace LightCtrl

structure LightExecutionState where
  turnState : UInt8
  beamState : UInt8
  brakeState : UInt8
  positionState : UInt8
  deriving DecidableEq, Repr

/-- `actions[0..action_count)` and the state the plan leads to. -/
structure LightExecutionPlan where
  actions : List GpioAction
  nextState : LightExecutionState
  deriving DecidableEq, Repr

abbrev lightExecutionPlanMaxActions : Nat := 8

def planAdd (plan : LightExecutionPlan) (action : GpioAction) :
    LightExecutionPlan :=
  if plan.actions.length < lightExecutionPlanMaxActions then
    { plan with actions := plan.actions ++ [action] }
  else plan

def lightExecutionStateInit : LightExecutionState where
  turnState := 0
  beamState := 0
  brakeState := 0
  positionState := 0

def LightExecutionState.setTurn (state : LightExecutionState) (value : UInt8) :
    LightExecutionState := { state with turnState := value }

def LightExecutionState.setBeam (state : LightExecutionState) (value : UInt8) :
    LightExecutionState := { state with beamState := value }

def LightExecutionState.setBrake (state : LightExecutionState) (value : UInt8) :
    LightExecutionState := { state with brakeState := value }

def LightExecutionState.setPosition (state : LightExecutionState)
    (value : UInt8) : LightExecutionState := { state with positionState := value }

/-- The block shared by brake and position: one lamp, on or off. -/
def planSwitch (onAction offAction : GpioAction)
    (setNext : LightExecutionState → UInt8 → LightExecutionState)
    (wanted current : UInt8) (plan : LightExecutionPlan) : LightExecutionPlan :=
  if wanted ≠ 0 then
    if current ≠ 1 then
      let plan := planAdd plan onAction
      { plan with nextState := setNext plan.nextState 1 }
    else plan
  else if current ≠ 0 then
    let plan := planAdd plan offAction
    { plan with nextState := setNext plan.nextState 0 }
  else plan

/-- The block shared by turn and beam: at most one of two lamps, the first
taking precedence. Switching sides turns the other side off first. -/
def planSelector (firstOn firstOff secondOn secondOff : GpioAction)
    (setNext : LightExecutionState → UInt8 → LightExecutionState)
    (firstWanted secondWanted current : UInt8) (plan : LightExecutionPlan) :
    LightExecutionPlan :=
  if firstWanted ≠ 0 then
    let (plan, current) :=
      if current = 2 then (planAdd plan secondOff, 0) else (plan, current)
    if current ≠ 1 then
      let plan := planAdd plan firstOn
      { plan with nextState := setNext plan.nextState 1 }
    else plan
  else if secondWanted ≠ 0 then
    let (plan, current) :=
      if current = 1 then (planAdd plan firstOff, 0) else (plan, current)
    if current ≠ 2 then
      let plan := planAdd plan secondOn
      { plan with nextState := setNext plan.nextState 2 }
    else plan
  else if current = 1 then
    let plan := planAdd plan firstOff
    { plan with nextState := setNext plan.nextState 0 }
  else if current = 2 then
    let plan := planAdd plan secondOff
    { plan with nextState := setNext plan.nextState 0 }
  else plan

section PlanBlocks

variable (currentState : LightExecutionState) (targetOutput : LightTargetOutput)

def planBrake : LightExecutionPlan → LightExecutionPlan :=
  planSwitch .brakeOn .brakeOff .setBrake targetOutput.brakeOn
    currentState.brakeState

def planTurn : LightExecutionPlan → LightExecutionPlan :=
  planSelector .turnLeftOn .turnLeftOff .turnRightOn .turnRightOff .setTurn
    targetOutput.leftTurnOn targetOutput.rightTurnOn currentState.turnState

def planBeam : LightExecutionPlan → LightExecutionPlan :=
  planSelector .lowBeamOn .lowBeamOff .highBeamOn .highBeamOff .setBeam
    targetOutput.lowBeamOn targetOutput.highBeamOn currentState.beamState

def planPosition : LightExecutionPlan → LightExecutionPlan :=
  planSwitch .positionOn .positionOff .setPosition targetOutput.markerOn
    currentState.positionState

def lightExecutionPlanBuild : LightExecutionPlan :=
  planPosition currentState targetOutput <|
  planBeam currentState targetOutput <|
  planTurn currentState targetOutput <|
  planBrake currentState targetOutput ⟨[], currentState⟩

end PlanBlocks

structure LightRuntimeGuardContext where
  vehicleSpeed : UInt16
  lastTurnState : UInt8
  lastBeamState : UInt8
  lastBrakeState : UInt8
  lastPositionState : UInt8
  faultMode : UInt8
  deriving DecidableEq, Repr

structure LightRuntimeGuardResult where
  allowed : Bool
  reportFault : Bool
  errorCode : UInt8
  deriving DecidableEq, Repr

def denyWithError (errorCode : UInt8) : LightRuntimeGuardResult :=
  ⟨false, true, errorCode⟩

def lightRuntimeGuardCheckAction (action : GpioAction)
    (context : LightRuntimeGuardContext) : LightRuntimeGuardResult :=
  if context.faultMode = FaultMode.safeMode.toByte
      ∧ (action = .highBeamOn ∨ action = .turnLeftOn ∨ action = .turnRightOn)
  then denyWithError LightErr.hwStateErr
  else if context.faultMode = FaultMode.degraded.toByte ∧ action = .highBeamOn
  then denyWithError LightErr.modeConflict
  else if (action = .turnLeftOn ∨ action = .turnRightOn)
      ∧ context.vehicleSpeed > 120
  then denyWithError LightErr.speedLimit
  else if action = .highBeamOn ∧ context.vehicleSpeed < 10
  then denyWithError LightErr.speedLimit
  else if action = .lowBeamOff ∧ context.lastBeamState = 2
  then denyWithError LightErr.modeConflict
  else if (action = .turnLeftOn ∨ action = .turnRightOn)
      ∧ context.lastBrakeState = 1
  then denyWithError LightErr.modeConflict
  else ⟨true, false, 0⟩

/-- Every denial is reported, with one of three codes. -/
theorem guard_denied {action : GpioAction} {context : LightRuntimeGuardContext}
    (hdenied : (lightRuntimeGuardCheckAction action context).allowed = false) :
    (lightRuntimeGuardCheckAction action context).reportFault = true ∧
      ((lightRuntimeGuardCheckAction action context).errorCode =
          LightErr.speedLimit ∨
        (lightRuntimeGuardCheckAction action context).errorCode =
          LightErr.modeConflict ∨
        (lightRuntimeGuardCheckAction action context).errorCode =
          LightErr.hwStateErr) := by
  unfold lightRuntimeGuardCheckAction at hdenied ⊢
  split_ifs at hdenied ⊢ <;> simp [denyWithError]

/-- The guard only knows turn-on, high-beam-on and low-beam-off actions. -/
theorem guard_allows_iff (action : GpioAction)
    (context : LightRuntimeGuardContext) :
    (lightRuntimeGuardCheckAction action context).allowed = true ↔
      ((action = .turnLeftOn ∨ action = .turnRightOn) →
        context.faultMode ≠ FaultMode.safeMode.toByte ∧
          context.vehicleSpeed ≤ 120 ∧ context.lastBrakeState ≠ 1) ∧
      (action = .highBeamOn →
        context.faultMode ≠ FaultMode.safeMode.toByte ∧
          context.faultMode ≠ FaultMode.degraded.toByte ∧
          10 ≤ context.vehicleSpeed) ∧
      (action = .lowBeamOff → context.lastBeamState ≠ 2) := by
  unfold lightRuntimeGuardCheckAction denyWithError
  split_ifs <;> grind

end LightCtrl
