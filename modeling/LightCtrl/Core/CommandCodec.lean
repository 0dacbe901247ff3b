import LightCtrl.Core.Protocol

/-!
`src/core/light_command_codec.c`: the one-character lamp commands and the
`key=value` vehicle-state lines. A `const char *` argument is the list of
bytes from the pointer to the end of the object it points into. Reading past
that end has no meaning in C; it makes the whole result `none` here, so
freedom from over-reads can be stated and proved. The inner option is the
function's boolean result together with the value it stores on success.
-/

namespace LightCtrl

/-- Bytes from a pointer to the end of the object it points into. -/
abbrev CText := List UInt8

/-- The bytes of a C string literal, without its terminator. -/
def cBytes (characters : List Char) : CText := characters.map Char.toUInt8

abbrev charDigit0 : UInt8 := 0x30
abbrev charDigit1 : UInt8 := 0x31
abbrev charDigit9 : UInt8 := 0x39

def parseDecimalU16Loop : CText → UInt32 → Option (Option UInt16)
  | [], _ => none
  | ch :: rest, parsed =>
      if ch = 0 then some (some parsed.toUInt16)
      else if ch < charDigit0 ∨ ch > charDigit9 then some none
      else
        let parsed := parsed * 10 + (ch - charDigit0).toUInt32
        if parsed > 65535 then some none
        else parseDecimalU16Loop rest parsed

def parseDecimalU16 : CText → Option (Option UInt16)
  | [] => none
  | ch :: rest =>
      if ch = 0 then some none else parseDecimalU16Loop (ch :: rest) 0

/-- `expected` is a literal, so its end stands for its terminator. -/
def literalEquals : CText → CText → Option Bool
  | [], _ => none
  | ch :: _, [] => some (ch = 0)
  | ch :: rest, expected :: more =>
      if ch = 0 then some false
      else if ch ≠ expected then some false
      else literalEquals rest more

/-- The chain `line[0] == 'x' && line[1] == 'y' && …`, which stops reading at
the first difference. -/
def matchesBytes : CText → CText → Option Bool
  | _, [] => some true
  | [], _ :: _ => none
  | ch :: rest, expected :: more =>
      if ch = expected then matchesBytes rest more else some false

/-- `name3 != NULL && literal_equals(text, name3)`. -/
def literalEqualsName3 (text : CText) : Option CText → Option Bool
  | none => some false
  | some name3 => literalEquals text name3

def parseNamedOrNumeric (name0 name1 name2 : CText) (name3 : Option CText)
    (maxValue : UInt16) (text : CText) : Option (Option UInt16) := do
  if ← literalEquals text name0 then return some 0
  if ← literalEquals text name1 then return some 1
  if ← literalEquals text name2 then return some 2
  if ← literalEqualsName3 text name3 then return some 3
  match ← parseDecimalU16 text with
  | none => return none
  | some value => return if value ≤ maxValue then some value else none

/-- The two comparisons of a flag field: exactly `0` or exactly `1`. -/
def parseFlag (text : CText) : Option (Option UInt16) := do
  if ← matchesBytes text [charDigit0, 0] then return some 0
  if ← matchesBytes text [charDigit1, 0] then return some 1
  return none

/-- `light_command_decode_char`; the stored command on success. -/
def lightCommandDecodeChar (ch : Int) : Option UInt8 :=
  match ch with
  | 0x4C => some LightCmd.lowBeamOn     -- 'L'
  | 0x6C => some LightCmd.lowBeamOff    -- 'l'
  | 0x48 => some LightCmd.highBeamOn    -- 'H'
  | 0x68 => some LightCmd.highBeamOff   -- 'h'
  | 0x5A => some LightCmd.leftTurnOn    -- 'Z'
  | 0x7A => some LightCmd.leftTurnOff   -- 'z'
  | 0x59 => some LightCmd.rightTurnOn   -- 'Y'
  | 0x79 => some LightCmd.rightTurnOff  -- 'y'
  | 0x50 => some LightCmd.positionOn    -- 'P'
  | 0x70 => some LightCmd.positionOff   -- 'p'
  | 0x42 => some LightCmd.brakeOn       -- 'B'
  | 0x62 => some LightCmd.brakeOff      -- 'b'
  | _ => none

/-- One of the seven `if` blocks of the line parser: on its key the rest of
the line decides, on any other line the next block is tried. -/
def parseKeyed (line key : CText) (field : UInt8)
    (parseValue : CText → Option (Option UInt16))
    (otherwise : Option (Option LightVehicleStateRequest)) :
    Option (Option LightVehicleStateRequest) :=
  match matchesBytes line key with
  | none => none
  | some false => otherwise
  | some true =>
      (parseValue (line.drop key.length)).map
        (fun value => value.map (fun value => ⟨field, value⟩))

def speedKey : CText := cBytes ['s', 'p', 'e', 'e', 'd', '=']
def ignitionKey : CText :=
  cBytes ['i', 'g', 'n', 'i', 't', 'i', 'o', 'n', '=']
def brakeKey : CText := cBytes ['b', 'r', 'a', 'k', 'e', '=']
def gearKey : CText := cBytes ['g', 'e', 'a', 'r', '=']
def ambientKey : CText := cBytes ['a', 'm', 'b', 'i', 'e', 'n', 't', '=']
def hazardKey : CText := cBytes ['h', 'a', 'z', 'a', 'r', 'd', '=']
def modeKey : CText := cBytes ['m', 'o', 'd', 'e', '=']

def parseGear : CText → Option (Option UInt16) :=
  parseNamedOrNumeric (cBytes ['p', 'a', 'r', 'k'])
    (cBytes ['r', 'e', 'v', 'e', 'r', 's', 'e'])
    (cBytes ['n', 'e', 'u', 't', 'r', 'a', 'l'])
    (some (cBytes ['d', 'r', 'i', 'v', 'e'])) 3

def parseAmbient : CText → Option (Option UInt16) :=
  parseNamedOrNumeric (cBytes ['d', 'a', 'y']) (cBytes ['d', 'u', 's', 'k'])
    (cBytes ['n', 'i', 'g', 'h', 't']) none 2

def parseDriveMode : CText → Option (Option UInt16) :=
  parseNamedOrNumeric (cBytes ['c', 'i', 't', 'y'])
    (cBytes ['h', 'i', 'g', 'h', 'w', 'a', 'y'])
    (cBytes ['p', 'a', 'r', 'k', 'i', 'n', 'g'])
    (some (cBytes ['e', 'm', 'e', 'r', 'g', 'e', 'n', 'c', 'y'])) 3

/-- `light_vehicle_state_parse_line` on a line that is not a null pointer.
The request is only written immediately before a successful return. -/
def lightVehicleStateParseLine (line : CText) :
    Option (Option LightVehicleStateRequest) :=
  parseKeyed line speedKey LightVehicleField.speedKph parseDecimalU16 <|
  parseKeyed line ignitionKey LightVehicleField.ignitionOn parseFlag <|
  parseKeyed line brakeKey LightVehicleField.brakePedal parseFlag <|
  parseKeyed line gearKey LightVehicleField.gear parseGear <|
  parseKeyed line ambientKey LightVehicleField.ambientLight parseAmbient <|
  parseKeyed line hazardKey LightVehicleField.hazard parseFlag <|
  parseKeyed line modeKey LightVehicleField.driveMode parseDriveMode <|
  some none

/-- The same block with the function's result and the request it was given a
pointer to: the two members are stored just before a successful return. -/
def storeKeyed (line key : CText) (field : UInt8)
    (parseValue : CText → Option (Option UInt16))
    (request : LightVehicleStateRequest)
    (otherwise : Option (Bool × LightVehicleStateRequest)) :
    Option (Bool × LightVehicleStateRequest) :=
  match matchesBytes line key with
  | none => none
  | some false => otherwise
  | some true =>
      (parseValue (line.drop key.length)).map (fun
        | none => (false, request)
        | some value => (true, { request with field := field, value := value }))

/-- `light_vehicle_state_parse_line` with its out-parameter: the result and
what `*request` holds afterwards. -/
def lightVehicleStateParseLineInto (line : CText)
    (request : LightVehicleStateRequest) :
    Option (Bool × LightVehicleStateRequest) :=
  storeKeyed line speedKey LightVehicleField.speedKph parseDecimalU16 request <|
  storeKeyed line ignitionKey LightVehicleField.ignitionOn parseFlag request <|
  storeKeyed line brakeKey LightVehicleField.brakePedal parseFlag request <|
  storeKeyed line gearKey LightVehicleField.gear parseGear request <|
  storeKeyed line ambientKey LightVehicleField.ambientLight parseAmbient request <|
  storeKeyed line hazardKey LightVehicleField.hazard parseFlag request <|
  storeKeyed line modeKey LightVehicleField.driveMode parseDriveMode request <|
  some (false, request)

end LightCtrl
