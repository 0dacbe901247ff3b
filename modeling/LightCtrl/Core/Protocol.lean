import Mathlib.Tactic

/-!
`include/light_protocol.h`, `include/light_channels.h` and
`src/core/light_protocol.c`: the constants and records every domain shares,
with their initial values and the published flag word. Fields keep the width
the C types give them. `turn_switch_pos` and `beam_switch_pos` of the shared
layout are left out, since no function reads or writes them.
-/

namespace LightCtrl

/-- Microkit channel identifiers, as the domain using them sees them. -/
abbrev MicrokitChannel := Nat

/-- What a handler leaves behind when it returns: the memory it worked on and
the channels it notified, in order. -/
structure Handled (σ : Type) where
  memory : σ
  notified : List MicrokitChannel
  deriving DecidableEq, Repr

namespace LightCh

abbrev commandinUartIrq : MicrokitChannel := 0
abbrev gpioToLightctl : MicrokitChannel := 1
abbrev lightctlFromGpio : MicrokitChannel := 2
abbrev commandinToScheduler : MicrokitChannel := 3
abbrev schedulerFromCommandin : MicrokitChannel := 4
abbrev faultmgFromLightctl : MicrokitChannel := 5
abbrev lightctlToFaultmg : MicrokitChannel := 6
abbrev faultmgToGpio : MicrokitChannel := 7
abbrev gpioFromFaultmg : MicrokitChannel := 8
abbrev schedulerToLightctl : MicrokitChannel := 9
abbrev lightctlFromScheduler : MicrokitChannel := 10
abbrev commandinToFaultmg : MicrokitChannel := 11
abbrev faultmgFromCommandin : MicrokitChannel := 12
abbrev schedulerFromFaultmg : MicrokitChannel := 13
abbrev faultmgToScheduler : MicrokitChannel := 14
abbrev schedulerFromVehicleState : MicrokitChannel := 15
abbrev vehicleStateToScheduler : MicrokitChannel := 16
abbrev commandinToVehicleState : MicrokitChannel := 17
abbrev vehicleStateFromCommandin : MicrokitChannel := 18

end LightCh

/-- The twelve `LIGHT_CH_GPIO_*` endpoints between lightctl and gpio. -/
inductive GpioAction where
  | turnLeftOn
  | turnLeftOff
  | turnRightOn
  | turnRightOff
  | brakeOn
  | brakeOff
  | lowBeamOn
  | lowBeamOff
  | highBeamOn
  | highBeamOff
  | positionOn
  | positionOff
  deriving DecidableEq, Repr

def GpioAction.channel : GpioAction → MicrokitChannel
  | .turnLeftOn => 20
  | .turnLeftOff => 21
  | .turnRightOn => 22
  | .turnRightOff => 23
  | .brakeOn => 24
  | .brakeOff => 25
  | .lowBeamOn => 26
  | .lowBeamOff => 27
  | .highBeamOn => 28
  | .highBeamOff => 29
  | .positionOn => 30
  | .positionOff => 31

/-- The twelve endpoints in the order of their channels. -/
def gpioActions : List GpioAction :=
  [.turnLeftOn, .turnLeftOff, .turnRightOn, .turnRightOff, .brakeOn, .brakeOff,
    .lowBeamOn, .lowBeamOff, .highBeamOn, .highBeamOff, .positionOn, .positionOff]

theorem mem_gpioActions (action : GpioAction) : action ∈ gpioActions := by
  cases action <;> decide

/-- The action a switch over channel numbers selects, if any. -/
def GpioAction.ofChannel? : MicrokitChannel → Option GpioAction
  | 20 => some .turnLeftOn
  | 21 => some .turnLeftOff
  | 22 => some .turnRightOn
  | 23 => some .turnRightOff
  | 24 => some .brakeOn
  | 25 => some .brakeOff
  | 26 => some .lowBeamOn
  | 27 => some .lowBeamOff
  | 28 => some .highBeamOn
  | 29 => some .highBeamOff
  | 30 => some .positionOn
  | 31 => some .positionOff
  | _ => none

@[simp] theorem GpioAction.ofChannel?_channel (action : GpioAction) :
    GpioAction.ofChannel? action.channel = some action := by
  cases action <;> rfl

theorem GpioAction.channel_ne_fromFaultmg (action : GpioAction) :
    action.channel ≠ LightCh.gpioFromFaultmg := by
  cases action <;> decide

theorem GpioAction.channel_of_ofChannel? {channel : MicrokitChannel}
    {action : GpioAction} (h : GpioAction.ofChannel? channel = some action) :
    action.channel = channel := by
  unfold GpioAction.ofChannel? at h
  split at h <;> first | cases h; rfl | cases h

def lightSharedStateLayoutCurrent : UInt32 := 4

namespace LightCmd

abbrev lowBeamOff : UInt8 := 0x00
abbrev lowBeamOn : UInt8 := 0x01
abbrev highBeamOff : UInt8 := 0x10
abbrev highBeamOn : UInt8 := 0x11
abbrev leftTurnOff : UInt8 := 0x20
abbrev leftTurnOn : UInt8 := 0x21
abbrev rightTurnOff : UInt8 := 0x30
abbrev rightTurnOn : UInt8 := 0x31
abbrev positionOff : UInt8 := 0x40
abbrev positionOn : UInt8 := 0x41
abbrev brakeOff : UInt8 := 0x50
abbrev brakeOn : UInt8 := 0x51

end LightCmd

namespace LightErr

abbrev speedLimit : UInt8 := 0x01
abbrev modeConflict : UInt8 := 0x02
abbrev invalidCmd : UInt8 := 0x03
abbrev hwStateErr : UInt8 := 0x04

end LightErr

namespace LightAllow

abbrev brake : UInt32 := 0x01
abbrev turnLeft : UInt32 := 0x02
abbrev turnRight : UInt32 := 0x04
abbrev lowBeam : UInt32 := 0x08
abbrev highBeam : UInt32 := 0x10
abbrev position : UInt32 := 0x20

end LightAllow

def lightUartCmdInvalid : UInt8 := 0xFF
def lightCommandLineMax : Nat := 32

namespace LightVehicleField

abbrev speedKph : UInt8 := 1
abbrev ignitionOn : UInt8 := 2
abbrev brakePedal : UInt8 := 3
abbrev gear : UInt8 := 4
abbrev ambientLight : UInt8 := 5
abbrev hazard : UInt8 := 6
abbrev driveMode : UInt8 := 7

end LightVehicleField

namespace LightVehicleGear

abbrev park : UInt8 := 0
abbrev reverse : UInt8 := 1
abbrev neutral : UInt8 := 2
abbrev drive : UInt8 := 3

end LightVehicleGear

namespace LightVehicleAmbient

abbrev day : UInt8 := 0
abbrev dusk : UInt8 := 1
abbrev night : UInt8 := 2

end LightVehicleAmbient

namespace LightVehicleDriveMode

abbrev city : UInt8 := 0
abbrev highway : UInt8 := 1
abbrev parking : UInt8 := 2
abbrev emergency : UInt8 := 3

end LightVehicleDriveMode

structure LightOperatorRequest where
  lowBeamReq : UInt8
  highBeamReq : UInt8
  leftTurnReq : UInt8
  rightTurnReq : UInt8
  markerReq : UInt8
  brakeReq : UInt8
  deriving DecidableEq, Repr

structure LightVehicleState where
  speedKph : UInt16
  brakePedal : UInt8
  ignitionOn : UInt8
  gear : UInt8
  ambientLight : UInt8
  hazard : UInt8
  driveMode : UInt8
  deriving DecidableEq, Repr

structure LightVehicleStateRequest where
  field : UInt8
  value : UInt16
  deriving DecidableEq, Repr

structure LightTargetOutput where
  lowBeamOn : UInt8
  highBeamOn : UInt8
  leftTurnOn : UInt8
  rightTurnOn : UInt8
  markerOn : UInt8
  brakeOn : UInt8
  deriving DecidableEq, Repr

/-- The memory region scheduler, vehicle_state, faultmg, lightctl and
commandin all map. -/
structure LightShmem where
  layoutVersion : UInt32
  uartCmd : UInt8
  allowFlags : UInt32
  vehicleSpeed : UInt16
  faultMode : UInt8
  faultLifecycle : UInt8
  faultRecoveryTicks : UInt8
  faultRecoveryElapsedMs : UInt32
  faultRecoveryWindowMs : UInt32
  activeFaultMask : UInt8
  lastFaultCode : UInt8
  totalFaultCount : UInt32
  operatorRequest : LightOperatorRequest
  vehicleState : LightVehicleState
  targetOutput : LightTargetOutput
  deriving DecidableEq, Repr

def lightOperatorRequestInit : LightOperatorRequest where
  lowBeamReq := 0
  highBeamReq := 0
  leftTurnReq := 0
  rightTurnReq := 0
  markerReq := 1
  brakeReq := 0

def lightVehicleStateDefault : LightVehicleState where
  speedKph := 10
  brakePedal := 0
  ignitionOn := 1
  gear := LightVehicleGear.drive
  ambientLight := LightVehicleAmbient.day
  hazard := 0
  driveMode := LightVehicleDriveMode.city

def lightTargetOutputInit : LightTargetOutput where
  lowBeamOn := 0
  highBeamOn := 0
  leftTurnOn := 0
  rightTurnOn := 0
  markerOn := 1
  brakeOn := 0

/-- The region before any domain has written to it. -/
def lightShmemZeroed : LightShmem where
  layoutVersion := 0
  uartCmd := 0
  allowFlags := 0
  vehicleSpeed := 0
  faultMode := 0
  faultLifecycle := 0
  faultRecoveryTicks := 0
  faultRecoveryElapsedMs := 0
  faultRecoveryWindowMs := 0
  activeFaultMask := 0
  lastFaultCode := 0
  totalFaultCount := 0
  operatorRequest := ⟨0, 0, 0, 0, 0, 0⟩
  vehicleState := ⟨0, 0, 0, 0, 0, 0, 0⟩
  targetOutput := ⟨0, 0, 0, 0, 0, 0⟩

def lightTargetOutputToAllowFlags (targetOutput : LightTargetOutput) : UInt32 :=
  let allowFlags : UInt32 := 0
  let allowFlags := if targetOutput.brakeOn ≠ 0
    then allowFlags ||| LightAllow.brake else allowFlags
  let allowFlags := if targetOutput.leftTurnOn ≠ 0
    then allowFlags ||| LightAllow.turnLeft else allowFlags
  let allowFlags := if targetOutput.rightTurnOn ≠ 0
    then allowFlags ||| LightAllow.turnRight else allowFlags
  let allowFlags := if targetOutput.lowBeamOn ≠ 0
    then allowFlags ||| LightAllow.lowBeam else allowFlags
  let allowFlags := if targetOutput.highBeamOn ≠ 0
    then allowFlags ||| LightAllow.highBeam else allowFlags
  if targetOutput.markerOn ≠ 0
    then allowFlags ||| LightAllow.position else allowFlags

def lightTargetOutputFromAllowFlags (allowFlags : UInt32) : LightTargetOutput where
  brakeOn := if allowFlags &&& LightAllow.brake ≠ 0 then 1 else 0
  leftTurnOn := if allowFlags &&& LightAllow.turnLeft ≠ 0 then 1 else 0
  rightTurnOn := if allowFlags &&& LightAllow.turnRight ≠ 0 then 1 else 0
  lowBeamOn := if allowFlags &&& LightAllow.lowBeam ≠ 0 then 1 else 0
  highBeamOn := if allowFlags &&& LightAllow.highBeam ≠ 0 then 1 else 0
  markerOn := if allowFlags &&& LightAllow.position ≠ 0 then 1 else 0

end LightCtrl
