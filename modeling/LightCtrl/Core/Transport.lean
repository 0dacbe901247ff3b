import LightCtrl.Core.CommandCodec

/-!
`src/core/light_transport.c`: the message exchanged through the shared input
buffer, its route, and the parser fed by the UART. The payload union overlays
its one-byte members and the `field` of a vehicle request at offset zero; the
request's `value` lies behind it. Bytes a constructor does not write are
indeterminate in C and are never read for its message type; they are zero
here.
-/

namespace LightCtrl

abbrev lightTransportVersion : UInt8 := 1
abbrev lightTransportFaultClearAll : UInt8 := 1

namespace LightTransportMsg

abbrev invalid : UInt8 := 0
abbrev lightCmd : UInt8 := 1
abbrev vehicleStateUpdate : UInt8 := 2
abbrev faultInject : UInt8 := 3
abbrev query : UInt8 := 4
abbrev faultClear : UInt8 := 5

end LightTransportMsg

inductive LightTransportRoute where
  | none
  | scheduler
  | vehicleState
  | faultMgmt
  | commandin
  deriving DecidableEq, Repr

inductive LightTransportFeedStatus where
  | needMore
  | messageReady
  | ignored
  | error
  deriving DecidableEq, Repr

structure LightTransportPayload where
  firstByte : UInt8
  value : UInt16
  deriving DecidableEq, Repr

namespace LightTransportPayload

def lightCmd (payload : LightTransportPayload) : UInt8 := payload.firstByte
def faultErrorCode (payload : LightTransportPayload) : UInt8 := payload.firstByte
def faultClearScope (payload : LightTransportPayload) : UInt8 :=
  payload.firstByte
def vehicleStateUpdate (payload : LightTransportPayload) :
    LightVehicleStateRequest := ⟨payload.firstByte, payload.value⟩

end LightTransportPayload

structure LightTransportMessage where
  version : UInt8
  type : UInt8
  len : UInt8
  flags : UInt8
  payload : LightTransportPayload
  deriving DecidableEq, Repr

/-- `sizeof` of the five union members. A request is one byte, one byte of
padding and a `uint16_t`. -/
abbrev sizeofByteMember : UInt8 := 1
abbrev sizeofVehicleStateRequest : UInt8 := 4

def makeByteMessage (type payloadByte : UInt8) : LightTransportMessage where
  version := lightTransportVersion
  type := type
  len := sizeofByteMember
  flags := 0
  payload := ⟨payloadByte, 0⟩

def makeLightCmdMessage (cmd : UInt8) : LightTransportMessage :=
  makeByteMessage LightTransportMsg.lightCmd cmd

def makeVehicleStateMessage (request : LightVehicleStateRequest) :
    LightTransportMessage where
  version := lightTransportVersion
  type := LightTransportMsg.vehicleStateUpdate
  len := sizeofVehicleStateRequest
  flags := 0
  payload := ⟨request.field, request.value⟩

def makeFaultInjectMessage (errorCode : UInt8) : LightTransportMessage :=
  makeByteMessage LightTransportMsg.faultInject errorCode

def makeQueryMessage : LightTransportMessage :=
  makeByteMessage LightTransportMsg.query 0

def makeFaultClearMessage (scope : UInt8) : LightTransportMessage :=
  makeByteMessage LightTransportMsg.faultClear scope

structure LightTransportParser where
  lineBuf : Vector UInt8 lightCommandLineMax
  lineLen : UInt8
  deriving DecidableEq, Repr

/-- `line_buf[index] = ch`; a store outside the array is `none`. -/
def LightTransportParser.store (parser : LightTransportParser) (index : Nat)
    (ch : UInt8) : Option LightTransportParser :=
  if h : index < lightCommandLineMax then
    some { parser with lineBuf := parser.lineBuf.set index ch h }
  else none

def parserReset (parser : LightTransportParser) : Option LightTransportParser :=
  { parser with lineLen := 0 }.store 0 0

def lightTransportParserInit (parser : LightTransportParser) :
    Option LightTransportParser :=
  parserReset parser

/-- What one call of the parser leaves behind. `written` is the message
stored through the output pointer, if the call stores one. -/
structure FeedResult where
  parser : LightTransportParser
  status : LightTransportFeedStatus
  written : Option LightTransportMessage
  deriving DecidableEq, Repr

/-- The four commands with their own branch before the lamp commands. -/
def immediateMessage (ch : Int) : Option LightTransportMessage :=
  match ch with
  | 0x21 => some (makeFaultInjectMessage LightErr.modeConflict)        -- '!'
  | 0x23 => some (makeFaultInjectMessage LightErr.hwStateErr)          -- '#'
  | 0x3F => some makeQueryMessage                                      -- '?'
  | 0x43 => some (makeFaultClearMessage lightTransportFaultClearAll)   -- 'C'
  | _ => none

abbrev charCarriageReturn : Int := 0x0D

/-- The branch for a carriage return. -/
def commitLine (parser : LightTransportParser) : Option FeedResult :=
  if parser.lineLen = 0 then
    some ⟨parser, .ignored, none⟩
  else do
    let parser ← parser.store parser.lineLen.toNat 0
    match ← lightVehicleStateParseLine parser.lineBuf.toList with
    | none => return ⟨← parserReset parser, .error, none⟩
    | some request =>
        return ⟨← parserReset parser, .messageReady,
          some (makeVehicleStateMessage request)⟩

/-- The last branch: append to the line, or give the line up when it no
longer fits with its terminator. -/
def appendChar (parser : LightTransportParser) (ch : Int) :
    Option FeedResult := do
  if parser.lineLen.toNat + 1 ≥ lightCommandLineMax then
    return ⟨← parserReset parser, .error, none⟩
  let parser ← parser.store parser.lineLen.toNat (UInt8.ofInt ch)
  let parser := { parser with lineLen := parser.lineLen + 1 }
  let parser ← parser.store parser.lineLen.toNat 0
  return ⟨parser, .needMore, none⟩

def lightTransportParserFeedChar (parser : LightTransportParser) (ch : Int) :
    Option FeedResult :=
  if ch = charCarriageReturn then commitLine parser
  else if parser.lineLen = 0 then
    match immediateMessage ch with
    | some message => some ⟨parser, .messageReady, some message⟩
    | none =>
        match lightCommandDecodeChar ch with
        | some lightCmd =>
            some ⟨parser, .messageReady, some (makeLightCmdMessage lightCmd)⟩
        | none => appendChar parser ch
  else appendChar parser ch

/-- Feeding a sequence of characters: the parser afterwards and, for each
character in order, its status and the message it stored. -/
def feedChars (parser : LightTransportParser) :
    List Int →
      Option (LightTransportParser ×
        List (LightTransportFeedStatus × Option LightTransportMessage))
  | [] => some (parser, [])
  | ch :: rest => do
      let result ← lightTransportParserFeedChar parser ch
      let (final, outputs) ← feedChars result.parser rest
      return (final, (result.status, result.written) :: outputs)

def lightTransportRouteForMessage (message : LightTransportMessage) :
    LightTransportRoute :=
  if message.type = LightTransportMsg.lightCmd then .scheduler
  else if message.type = LightTransportMsg.vehicleStateUpdate then .vehicleState
  else if message.type = LightTransportMsg.faultInject then .faultMgmt
  else if message.type = LightTransportMsg.query then .commandin
  else if message.type = LightTransportMsg.faultClear then .faultMgmt
  else .none

end LightCtrl
