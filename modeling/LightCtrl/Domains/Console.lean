import LightCtrl.Core.Names
import LightCtrl.Domains.Commandin

/-!
`src/domains/commandin.c`: what commandin sends to the console, and its
handlers. An emitter is a sequence of calls of `uart_put_str`,
`uart_put_char`, `uart_put_u32` and `uart_put_hex8`; it is given here as the
list of these calls. The log output, which goes elsewhere, is left out.
-/

namespace LightCtrl

def uartPutStr (text : CText) : List Int :=
  text.flatMap fun ch => uartPutChar ch.toNat

def hexDigits : Vector UInt8 16 :=
  #v[0x30, 0x31, 0x32, 0x33, 0x34, 0x35, 0x36, 0x37, 0x38, 0x39, 0x61, 0x62,
    0x63, 0x64, 0x65, 0x66]

/-- The character for the low four bits. -/
def hexDigit (value : UInt8) : UInt8 :=
  hexDigits.get ⟨(value &&& 0x0F).toNat, by
    rw [UInt8.toNat_and]
    exact Nat.lt_of_le_of_lt Nat.and_le_right (by decide)⟩

def hex8Text (value : UInt8) : CText := [hexDigit (value >>> 4), hexDigit value]

def uartPutHex8 (value : UInt8) : List Int :=
  uartPutStr (cText "0x") ++ (hex8Text value).flatMap fun ch => uartPutChar ch.toNat

/-- One call of an output function. -/
inductive ConsoleCall where
  | str (text : CText)
  | char (ch : UInt8)
  | u32 (value : UInt32)
  | hex8 (value : UInt8)
  deriving DecidableEq, Repr

/-- What the call sends; `digits` is what its array held before. -/
def ConsoleCall.emit (digits : Vector UInt8 uartDigitsSize) :
    ConsoleCall → Option (List Int)
  | .str text => some (uartPutStr text)
  | .char ch => some (uartPutChar ch.toNat)
  | .u32 value => uartPutU32 digits value
  | .hex8 value => some (uartPutHex8 value)

def emitCalls (digits : Vector UInt8 uartDigitsSize) :
    List ConsoleCall → Option (List Int)
  | [] => some []
  | call :: rest => do
      let sent ← call.emit digits
      let others ← emitCalls digits rest
      return sent ++ others

/-- A string literal. -/
abbrev lit (text : String) : ConsoleCall := .str (cText text)

abbrev demoAnsiReset : String := "\x1b[0m"
abbrev demoAnsiBold : String := "\x1b[1m"
abbrev demoAnsiDim : String := "\x1b[2m"
abbrev demoAnsiGreen : String := "\x1b[1;32m"
abbrev demoAnsiYellow : String := "\x1b[1;33m"
abbrev demoAnsiBlue : String := "\x1b[1;34m"
abbrev demoAnsiMagenta : String := "\x1b[1;35m"
abbrev demoAnsiCyan : String := "\x1b[1;36m"
abbrev demoAnsiRed : String := "\x1b[1;31m"

/-- The contract check commandin makes for its console, on its own. -/
def sharedStateContractName (shmem : LightShmem) : CText :=
  if shmem.layoutVersion ≠ lightSharedStateLayoutCurrent then
    cText "LAYOUT_MISMATCH"
  else if shmem.faultMode > FaultMode.safeMode.toByte then cText "FAULT_MODE"
  else if shmem.faultLifecycle > LightFaultLifecycle.recovering.toByte then
    cText "FAULT_LIFECYCLE"
  else if shmem.faultRecoveryTicks.toUInt32 > lightFaultRecoveryWindowTicks then
    cText "FAULT_RECOVERY"
  else if shmem.faultRecoveryElapsedMs > lightFaultRecoveryWindowMs then
    cText "FAULT_RECOVERY"
  else if shmem.activeFaultMask &&& ~~~ 0x0F ≠ 0 then cText "FAULT_MASK"
  else cText "OK"

def emitStatusSnapshot (shmem : LightShmem) : List ConsoleCall :=
  [lit "STATUS_SNAPSHOT fault=", .str (lightFaultModeName shmem.faultMode),
    lit " lifecycle=", .str (lightFaultLifecycleName shmem.faultLifecycle),
    lit " recovery_ticks=", .u32 shmem.faultRecoveryTicks.toUInt32,
    .char 0x2F, .u32 lightFaultRecoveryWindowTicks,
    lit " recovery_elapsed_ms=", .u32 shmem.faultRecoveryElapsedMs,
    .char 0x2F, .u32 lightFaultRecoveryWindowMs,
    lit " active_faults=", .hex8 shmem.activeFaultMask,
    lit " speed=", .u32 shmem.vehicleState.speedKph.toUInt32,
    lit " ignition=", .u32 shmem.vehicleState.ignitionOn.toUInt32,
    lit " brake_pedal=", .u32 shmem.vehicleState.brakePedal.toUInt32,
    lit " gear=", .str (lightVehicleGearName shmem.vehicleState.gear),
    lit " ambient=",
    .str (lightVehicleAmbientLightName shmem.vehicleState.ambientLight),
    lit " hazard=", .u32 shmem.vehicleState.hazard.toUInt32,
    lit " drive_mode=",
    .str (lightVehicleDriveModeName shmem.vehicleState.driveMode),
    lit " target[low=", .u32 shmem.targetOutput.lowBeamOn.toUInt32,
    lit " high=", .u32 shmem.targetOutput.highBeamOn.toUInt32,
    lit " left=", .u32 shmem.targetOutput.leftTurnOn.toUInt32,
    lit " right=", .u32 shmem.targetOutput.rightTurnOn.toUInt32,
    lit " marker=", .u32 shmem.targetOutput.markerOn.toUInt32,
    lit " brake=", .u32 shmem.targetOutput.brakeOn.toUInt32,
    lit "] allow=", .hex8 shmem.allowFlags.toUInt8,
    lit " last_fault=", .hex8 shmem.lastFaultCode,
    lit " last_fault_name=", .str (lightFaultCodeName shmem.lastFaultCode),
    lit " total_faults=", .u32 shmem.totalFaultCount,
    lit " layout=", .u32 shmem.layoutVersion,
    lit " contract=", .str (sharedStateContractName shmem),
    lit "\r"]

section Demo

def demoLightCmdNames : List (UInt8 × String) :=
  [(LightCmd.lowBeamOn, "LOW_BEAM_ON"), (LightCmd.lowBeamOff, "LOW_BEAM_OFF"),
    (LightCmd.highBeamOn, "HIGH_BEAM_ON"),
    (LightCmd.highBeamOff, "HIGH_BEAM_OFF"),
    (LightCmd.leftTurnOn, "LEFT_TURN_ON"),
    (LightCmd.leftTurnOff, "LEFT_TURN_OFF"),
    (LightCmd.rightTurnOn, "RIGHT_TURN_ON"),
    (LightCmd.rightTurnOff, "RIGHT_TURN_OFF"),
    (LightCmd.positionOn, "POSITION_ON"), (LightCmd.positionOff, "POSITION_OFF"),
    (LightCmd.brakeOn, "BRAKE_ON"), (LightCmd.brakeOff, "BRAKE_OFF")]

def demoLightCmdName : UInt8 → CText := nameIn demoLightCmdNames

def demoVehicleFieldName (field : UInt8) : CText :=
  if field = LightVehicleField.speedKph then cText "speed"
  else if field = LightVehicleField.ignitionOn then cText "ignition"
  else if field = LightVehicleField.brakePedal then cText "brake"
  else if field = LightVehicleField.gear then cText "gear"
  else if field = LightVehicleField.ambientLight then cText "ambient"
  else if field = LightVehicleField.hazard then cText "hazard"
  else if field = LightVehicleField.driveMode then cText "mode"
  else cText "unknown"

def demoRouteName : LightTransportRoute → CText
  | .scheduler => cText "commandin->scheduler"
  | .vehicleState => cText "commandin->vehicle_state->scheduler"
  | .faultMgmt => cText "commandin->faultmg->scheduler/gpio"
  | .commandin => cText "commandin->status_snapshot"
  | .none => cText "none"

def demoFaultColor (shmem : LightShmem) : String :=
  if shmem.faultMode = FaultMode.normal.toByte then demoAnsiGreen
  else if shmem.faultMode = FaultMode.warn.toByte then demoAnsiYellow
  else if shmem.faultMode = FaultMode.degraded.toByte then demoAnsiMagenta
  else demoAnsiRed

def uartPutLampState (name : String) (enabled : UInt8) : List ConsoleCall :=
  [lit name, .char 0x3D] ++
    if enabled ≠ 0 then [lit demoAnsiGreen, lit "ON ", lit demoAnsiReset]
    else [lit demoAnsiDim, lit "off ", lit demoAnsiReset]

def emitDemoInputLine (message : LightTransportMessage)
    (route : LightTransportRoute) : List ConsoleCall :=
  [lit "\r", lit demoAnsiCyan, lit "[INPUT] ", lit demoAnsiReset] ++
  (if message.type = LightTransportMsg.lightCmd then
    [lit "light command ", lit demoAnsiBold,
      .str (demoLightCmdName message.payload.lightCmd), lit demoAnsiReset]
  else if message.type = LightTransportMsg.vehicleStateUpdate then
    [lit "vehicle ", lit demoAnsiBold,
      .str (demoVehicleFieldName message.payload.vehicleStateUpdate.field),
      .char 0x3D, .u32 message.payload.vehicleStateUpdate.value.toUInt32,
      lit demoAnsiReset]
  else if message.type = LightTransportMsg.faultInject then
    [lit "fault inject ", lit demoAnsiRed,
      .str (lightFaultCodeName message.payload.faultErrorCode),
      lit demoAnsiReset]
  else if message.type = LightTransportMsg.faultClear then
    [lit "fault clear / recovery tick"]
  else if message.type = LightTransportMsg.query then [lit "status query"]
  else [lit "unknown input"]) ++
  [lit "  route=", lit demoAnsiBlue, .str (demoRouteName route),
    lit demoAnsiReset, lit "\r"]

def demoRule : String :=
  "+--------------------------------------------------------------------------+"

def emitDemoStatusPanel (shmem : LightShmem) : List ConsoleCall :=
  [lit "\r", lit demoAnsiBold, lit (demoRule ++ "\r"),
    lit "| LightDemo Engineering Final v2.0 - Live Status                           |\r",
    lit (demoRule ++ "\r"), lit demoAnsiReset,
    lit "| fault=", lit (demoFaultColor shmem),
    .str (lightFaultModeName shmem.faultMode), lit demoAnsiReset,
    lit " lifecycle=", .str (lightFaultLifecycleName shmem.faultLifecycle),
    lit " recovery=", .u32 shmem.faultRecoveryElapsedMs, .char 0x2F,
    .u32 lightFaultRecoveryWindowMs, lit "ms\r",
    lit "| vehicle speed=", .u32 shmem.vehicleState.speedKph.toUInt32,
    lit " ignition=", .u32 shmem.vehicleState.ignitionOn.toUInt32,
    lit " brake=", .u32 shmem.vehicleState.brakePedal.toUInt32,
    lit " gear=", .str (lightVehicleGearName shmem.vehicleState.gear),
    lit " ambient=",
    .str (lightVehicleAmbientLightName shmem.vehicleState.ambientLight),
    lit "\r",
    lit "| hazard=", .u32 shmem.vehicleState.hazard.toUInt32,
    lit " mode=", .str (lightVehicleDriveModeName shmem.vehicleState.driveMode),
    lit " allow=", .hex8 shmem.allowFlags.toUInt8,
    lit " contract=",
    lit (if (sharedStateContractName shmem).head? = some 0x4F then demoAnsiGreen
      else demoAnsiRed),
    .str (sharedStateContractName shmem), lit demoAnsiReset, lit "\r",
    lit "| lamps  "] ++
  uartPutLampState "LOW" shmem.targetOutput.lowBeamOn ++
  uartPutLampState "HIGH" shmem.targetOutput.highBeamOn ++
  uartPutLampState "LEFT" shmem.targetOutput.leftTurnOn ++
  uartPutLampState "RIGHT" shmem.targetOutput.rightTurnOn ++
  uartPutLampState "MARKER" shmem.targetOutput.markerOn ++
  uartPutLampState "BRAKE" shmem.targetOutput.brakeOn ++
  [lit "\r",
    lit "| hint   L/l H/h Z/z Y/y P/p B/b = lights; speed=80, gear=drive, etc.   |\r",
    lit "|        !/# inject faults; C clears or advances recovery; ? shows this. |\r",
    lit demoAnsiBold, lit demoRule, lit demoAnsiReset, lit "\r"]

/-- What `init` sends. -/
def emitReadyLine : List ConsoleCall :=
  [lit "\r", lit demoAnsiCyan,
    lit "[READY] LightDemo v2.0 console. Type ? for a colored status panel.\r",
    lit demoAnsiReset]

end Demo

/-- What one call of `notified` leaves: the parser, the message stored in the
input buffer if one was, what was sent to the console, and the channels
notified. -/
structure CommandinHandled where
  parser : LightTransportParser
  written : Option LightTransportMessage
  sent : List Int
  notified : List MicrokitChannel
  deriving DecidableEq, Repr

/-- The branch of `notified` for a complete message. -/
def handleMessage (digits : Vector UInt8 uartDigitsSize) (shmem : LightShmem)
    (parser : LightTransportParser) (message : LightTransportMessage) :
    Option CommandinHandled := do
  let route := lightTransportRouteForMessage message
  let inputLine ← emitCalls digits (emitDemoInputLine message route)
  if route = .commandin then
    let snapshot ← emitCalls digits (emitStatusSnapshot shmem)
    let panel ← emitCalls digits (emitDemoStatusPanel shmem)
    return ⟨parser, none, inputLine ++ snapshot ++ panel, []⟩
  else
    let dispatched := dispatchTransportMessage message
    return ⟨parser, dispatched.written, inputLine, dispatched.notified⟩

/-- `notified`. `received` is what the UART holds, and `none` as a result an
access outside of an array. -/
def commandinNotified (channel : MicrokitChannel) (received : Option UInt32)
    (digits : Vector UInt8 uartDigitsSize) (shmem : LightShmem)
    (parser : LightTransportParser) : Option CommandinHandled :=
  if channel = LightCh.commandinUartIrq then do
    let fed ← lightTransportParserFeedChar parser (uartGetChar received)
    match fed.status, fed.written with
    | .messageReady, some message => handleMessage digits shmem fed.parser message
    | _, _ => return ⟨fed.parser, none, [], []⟩
  else some ⟨parser, none, [], []⟩

/-- `init`: the parser it leaves, over what the static held before, and what
it sends to the console. -/
def commandinInit (digits : Vector UInt8 uartDigitsSize)
    (parser : LightTransportParser) : Option CommandinHandled := do
  let parser ← lightTransportParserInit parser
  let sent ← emitCalls digits emitReadyLine
  return ⟨parser, none, sent, []⟩

end LightCtrl
