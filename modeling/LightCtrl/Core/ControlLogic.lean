import LightCtrl.Core.FaultMode

/-!
`src/core/light_output_policy.c` and `src/core/light_control_logic.c`: the
operator commands and the arbitration that turns a request, the vehicle state
and the fault mode into target outputs. A `fault_mode_t` argument comes from a
cast of a shared-memory byte, so it is that byte here; every byte that is not
DEGRADED or SAFE_MODE takes the default row of the policy.
-/

namespace LightCtrl

structure LightTargetState where
  brake : Bool
  turnLeft : Bool
  turnRight : Bool
  lowBeam : Bool
  highBeam : Bool
  position : Bool
  deriving DecidableEq, Repr

inductive LightOutputRule where
  | passthrough
  | forceOn
  | forceOff
  deriving DecidableEq, Repr

structure LightOutputPolicyMatrix where
  brake : LightOutputRule
  turnLeft : LightOutputRule
  turnRight : LightOutputRule
  lowBeam : LightOutputRule
  highBeam : LightOutputRule
  position : LightOutputRule
  forceMinimumIllumination : Bool
  deriving DecidableEq, Repr

structure LightOutputPolicyResult where
  target : LightTargetState
  changed : Bool
  deriving DecidableEq, Repr

def applyRule (value : Bool) : LightOutputRule → Bool
  | .forceOn => true
  | .forceOff => false
  | .passthrough => value

def normalMatrix : LightOutputPolicyMatrix where
  brake := .passthrough
  turnLeft := .passthrough
  turnRight := .passthrough
  lowBeam := .passthrough
  highBeam := .passthrough
  position := .passthrough
  forceMinimumIllumination := false

def degradedMatrix : LightOutputPolicyMatrix where
  brake := .passthrough
  turnLeft := .passthrough
  turnRight := .passthrough
  lowBeam := .passthrough
  highBeam := .forceOff
  position := .passthrough
  forceMinimumIllumination := true

def safeMatrix : LightOutputPolicyMatrix where
  brake := .passthrough
  turnLeft := .forceOff
  turnRight := .forceOff
  lowBeam := .forceOn
  highBeam := .forceOff
  position := .forceOn
  forceMinimumIllumination := true

def lightOutputPolicyMatrixForMode (faultMode : UInt8) :
    LightOutputPolicyMatrix :=
  if faultMode = FaultMode.degraded.toByte then degradedMatrix
  else if faultMode = FaultMode.safeMode.toByte then safeMatrix
  else normalMatrix

def lightOutputPolicyApply (requestedTarget : LightTargetState)
    (faultMode : UInt8) : LightOutputPolicyResult :=
  let policy := lightOutputPolicyMatrixForMode faultMode
  let target : LightTargetState := {
    brake := applyRule requestedTarget.brake policy.brake
    turnLeft := applyRule requestedTarget.turnLeft policy.turnLeft
    turnRight := applyRule requestedTarget.turnRight policy.turnRight
    lowBeam := applyRule requestedTarget.lowBeam policy.lowBeam
    highBeam := applyRule requestedTarget.highBeam policy.highBeam
    position := applyRule requestedTarget.position policy.position }
  let target :=
    if policy.forceMinimumIllumination && !target.highBeam && !target.lowBeam
    then { target with lowBeam := true } else target
  { target := target
    changed := decide (target ≠ requestedTarget) }

section Arbitration

variable (request : LightOperatorRequest) (vehicleState : LightVehicleState)

def ignitionOn : Bool := vehicleState.ignitionOn ≠ 0

def brakeActive : Bool :=
  request.brakeReq ≠ 0 || vehicleState.brakePedal ≠ 0

def darkEnvironment : Bool :=
  vehicleState.ambientLight ≠ LightVehicleAmbient.day

def hazardActive : Bool :=
  vehicleState.hazard ≠ 0
    || vehicleState.driveMode = LightVehicleDriveMode.emergency

def parkingContext : Bool :=
  vehicleState.gear = LightVehicleGear.park
    || vehicleState.driveMode = LightVehicleDriveMode.parking

def reverseContext : Bool := vehicleState.gear = LightVehicleGear.reverse

def highBeamMinSpeed : UInt16 :=
  if vehicleState.driveMode = LightVehicleDriveMode.highway then 30 else 10

/-- `requested_target_from_request`; its local variables are the definitions
above. -/
def requestedTargetFromRequest : LightTargetState :=
  let leftRequested : Bool := request.leftTurnReq ≠ 0
  let rightRequested : Bool := request.rightTurnReq ≠ 0
  let lowRequested : Bool := request.lowBeamReq ≠ 0
  let highRequested : Bool := request.highBeamReq ≠ 0
  let markerRequested : Bool := request.markerReq ≠ 0
  let requestedTarget : LightTargetState := {
    brake := brakeActive request vehicleState
    turnLeft := false
    turnRight := false
    lowBeam := false
    highBeam := false
    position := markerRequested || darkEnvironment vehicleState
      || parkingContext vehicleState }
  if !ignitionOn vehicleState then requestedTarget
  else
    let requestedTarget :=
      if hazardActive vehicleState then
        { requestedTarget with turnLeft := true, turnRight := true }
      else if !brakeActive request vehicleState
          && vehicleState.speedKph ≤ 120 then
        if leftRequested && !rightRequested then
          { requestedTarget with turnLeft := true }
        else if rightRequested && !leftRequested then
          { requestedTarget with turnRight := true }
        else requestedTarget
      else requestedTarget
    let requestedTarget :=
      if lowRequested || darkEnvironment vehicleState
          || reverseContext vehicleState then
        { requestedTarget with lowBeam := true }
      else requestedTarget
    if highRequested && lowRequested && !brakeActive request vehicleState
        && !parkingContext vehicleState && !reverseContext vehicleState
        && vehicleState.speedKph ≥ highBeamMinSpeed vehicleState then
      { requestedTarget with lowBeam := false, highBeam := true }
    else requestedTarget

end Arbitration

def targetOutputFromState (state : LightTargetState) : LightTargetOutput where
  brakeOn := if state.brake then 1 else 0
  leftTurnOn := if state.turnLeft then 1 else 0
  rightTurnOn := if state.turnRight then 1 else 0
  lowBeamOn := if state.lowBeam then 1 else 0
  highBeamOn := if state.highBeam then 1 else 0
  markerOn := if state.position then 1 else 0

def lightControlComputeTargetOutput (request : LightOperatorRequest)
    (vehicleState : LightVehicleState) (faultMode : UInt8) :
    LightTargetOutput :=
  let requestedTarget := requestedTargetFromRequest request vehicleState
  let policyResult := lightOutputPolicyApply requestedTarget faultMode
  targetOutputFromState policyResult.target

inductive LightControlReason where
  | ok
  | invalidCmd
  deriving DecidableEq, Repr

structure LightControlCommandResult where
  cmd : UInt8
  nextRequest : LightOperatorRequest
  accepted : Bool
  notify : Bool
  reason : LightControlReason
  deriving DecidableEq, Repr

/-- The request a command leads to, when it is one of the twelve opcodes. -/
def commandedRequest? (request : LightOperatorRequest) (cmd : UInt8) :
    Option LightOperatorRequest :=
  if cmd = LightCmd.lowBeamOn then some { request with lowBeamReq := 1 }
  else if cmd = LightCmd.lowBeamOff then
    some { request with lowBeamReq := 0, highBeamReq := 0 }
  else if cmd = LightCmd.highBeamOn then some { request with highBeamReq := 1 }
  else if cmd = LightCmd.highBeamOff then some { request with highBeamReq := 0 }
  else if cmd = LightCmd.leftTurnOn then
    some { request with leftTurnReq := 1, rightTurnReq := 0 }
  else if cmd = LightCmd.leftTurnOff then some { request with leftTurnReq := 0 }
  else if cmd = LightCmd.rightTurnOn then
    some { request with rightTurnReq := 1, leftTurnReq := 0 }
  else if cmd = LightCmd.rightTurnOff then
    some { request with rightTurnReq := 0 }
  else if cmd = LightCmd.positionOn then some { request with markerReq := 1 }
  else if cmd = LightCmd.positionOff then some { request with markerReq := 0 }
  else if cmd = LightCmd.brakeOn then some { request with brakeReq := 1 }
  else if cmd = LightCmd.brakeOff then some { request with brakeReq := 0 }
  else none

def lightControlApplyOperatorCommand (request : LightOperatorRequest)
    (cmd : UInt8) : LightControlCommandResult :=
  match commandedRequest? request cmd with
  | some nextRequest => ⟨cmd, nextRequest, true, true, .ok⟩
  | none => ⟨cmd, request, false, false, .invalidCmd⟩

end LightCtrl
