import LightCtrl.Core.ControlLogic

/-!
`src/core/light_policy.c`: the flag word a command leads to, and the target a
flag word stands for. A command that is rejected says why. A flag of the left
turn hides the right one, and the high beam's hides the low one's.
-/

namespace LightCtrl

def lightPolicyTargetFromFlags (allowFlags : UInt32) : LightTargetState where
  brake := allowFlags &&& LightAllow.brake ≠ 0
  turnLeft := allowFlags &&& LightAllow.turnLeft ≠ 0
  turnRight :=
    if allowFlags &&& LightAllow.turnLeft ≠ 0 then false
    else allowFlags &&& LightAllow.turnRight ≠ 0
  lowBeam :=
    if allowFlags &&& LightAllow.highBeam ≠ 0 then false
    else allowFlags &&& LightAllow.lowBeam ≠ 0
  highBeam := allowFlags &&& LightAllow.highBeam ≠ 0
  position := allowFlags &&& LightAllow.position ≠ 0

inductive LightPolicyReason where
  | ok
  | rejectInvalidCmd
  | rejectLowBeamRequired
  | rejectBrakeActive
  | rejectRightTurnActive
  | rejectLeftTurnActive
  deriving DecidableEq, Repr

structure LightPolicyState where
  allowFlags : UInt32
  vehicleSpeed : UInt16
  deriving DecidableEq, Repr

structure LightPolicyResult where
  cmd : UInt8
  prevAllowFlags : UInt32
  nextAllowFlags : UInt32
  accepted : Bool
  notify : Bool
  reason : LightPolicyReason
  deriving DecidableEq, Repr

def lightPolicyInitState : LightPolicyState where
  allowFlags := LightAllow.position
  vehicleSpeed := 10

/-- The end of a case that accepts the command. -/
def acceptCommand (state : LightPolicyState) (cmd : UInt8) (nextAllowFlags : UInt32) :
    LightPolicyResult :=
  ⟨cmd, state.allowFlags, nextAllowFlags, true, true, .ok⟩

/-- The result as it was initialised, with the reason set. -/
def rejectCommand (state : LightPolicyState) (cmd : UInt8) (reason : LightPolicyReason) :
    LightPolicyResult :=
  ⟨cmd, state.allowFlags, state.allowFlags, false, false, reason⟩

def lightPolicyApplyCommand (state : LightPolicyState) (cmd : UInt8) :
    LightPolicyResult :=
  let flags := state.allowFlags
  if cmd = LightCmd.lowBeamOn then acceptCommand state cmd (flags ||| LightAllow.lowBeam)
  else if cmd = LightCmd.lowBeamOff then
    acceptCommand state cmd (flags &&& ~~~LightAllow.lowBeam &&& ~~~LightAllow.highBeam)
  else if cmd = LightCmd.highBeamOn then
    if flags &&& LightAllow.lowBeam = 0 then rejectCommand state cmd .rejectLowBeamRequired
    else if flags &&& LightAllow.brake ≠ 0 then rejectCommand state cmd .rejectBrakeActive
    else acceptCommand state cmd (flags ||| LightAllow.highBeam)
  else if cmd = LightCmd.highBeamOff then
    acceptCommand state cmd (flags &&& ~~~LightAllow.highBeam)
  else if cmd = LightCmd.leftTurnOn then
    if flags &&& LightAllow.brake ≠ 0 then rejectCommand state cmd .rejectBrakeActive
    else if flags &&& LightAllow.turnRight ≠ 0 then
      rejectCommand state cmd .rejectRightTurnActive
    else acceptCommand state cmd (flags ||| LightAllow.turnLeft)
  else if cmd = LightCmd.leftTurnOff then
    acceptCommand state cmd (flags &&& ~~~LightAllow.turnLeft)
  else if cmd = LightCmd.rightTurnOn then
    if flags &&& LightAllow.brake ≠ 0 then rejectCommand state cmd .rejectBrakeActive
    else if flags &&& LightAllow.turnLeft ≠ 0 then
      rejectCommand state cmd .rejectLeftTurnActive
    else acceptCommand state cmd (flags ||| LightAllow.turnRight)
  else if cmd = LightCmd.rightTurnOff then
    acceptCommand state cmd (flags &&& ~~~LightAllow.turnRight)
  else if cmd = LightCmd.positionOn then
    acceptCommand state cmd (flags ||| LightAllow.position)
  else if cmd = LightCmd.positionOff then
    acceptCommand state cmd (flags &&& ~~~LightAllow.position)
  else if cmd = LightCmd.brakeOn then acceptCommand state cmd (flags ||| LightAllow.brake)
  else if cmd = LightCmd.brakeOff then
    acceptCommand state cmd (flags &&& ~~~LightAllow.brake)
  else rejectCommand state cmd .rejectInvalidCmd

end LightCtrl
