import LightCtrl.Core.Contract

/-!
`src/domains/commandin.c`: the protection domain that owns the UART and
writes the shared input buffer. Of the console output only the decimal numbers
are here; the texts around them are left out.
-/

namespace LightCtrl

/-- `RHR_MASK`, nine bits of the data register. -/
def rhrMask : UInt32 := 0x1FF

/-- `uart_get_char`; `none` when the receive FIFO is empty, else the content of
the data register. A newline is read as a carriage return and a backspace as
a delete. -/
def uartGetChar (received : Option UInt32) : Int :=
  let ch : Int :=
    match received with
    | none => 0
    | some data => (data &&& rhrMask).toNat
  if ch = 0x0A then charCarriageReturn
  else if ch = 8 then 0x7F
  else ch

/-- The codes `uart_put_char` writes to the data register, one behind the
other. -/
def uartPutChar (ch : Int) : List Int :=
  if ch = charCarriageReturn then [ch, 0x0A] else [ch]

/-- `sizeof digits` in `uart_put_u32`. -/
abbrev uartDigitsSize : Nat := 10

/-- The first loop of `uart_put_u32`; a store outside of `digits` is `none`. -/
def uartDigitsLoop (digits : Vector UInt8 uartDigitsSize) (count : Nat)
    (value : UInt32) : Option (Vector UInt8 uartDigitsSize × Nat) :=
  if 0 < value then
    if h : count < uartDigitsSize then
      uartDigitsLoop (digits.set count (0x30 + value % 10).toUInt8 h) (count + 1)
        (value / 10)
    else none
  else some (digits, count)
termination_by value.toNat
decreasing_by
  rw [UInt32.toNat_div]
  exact Nat.div_lt_self (UInt32.lt_iff_toNat_lt.mp ‹0 < value›) (by decide)

/-- The second loop: the digits from the last one stored to the first. -/
def uartEmitLoop (digits : Vector UInt8 uartDigitsSize) : Nat → Option (List Int)
  | 0 => some []
  | count + 1 => do
      let digit ← digits[count]?
      let rest ← uartEmitLoop digits count
      return uartPutChar digit.toNat ++ rest

/-- `uart_put_u32`, over what its array held before. -/
def uartPutU32 (digits : Vector UInt8 uartDigitsSize) (value : UInt32) :
    Option (List Int) :=
  if value = 0 then some (uartPutChar 0x30)
  else do
    let (digits, count) ← uartDigitsLoop digits 0 value
    uartEmitLoop digits count

/-- What a dispatch does: the message it stores in the input buffer, if it
stores one, and the channels it notifies. -/
structure Dispatched where
  written : Option LightTransportMessage
  notified : List MicrokitChannel
  deriving DecidableEq, Repr

def dispatchTransportMessage (message : LightTransportMessage) : Dispatched :=
  let route := lightTransportRouteForMessage message
  let contract := lightContractCheckTransportMessage message message.type
  if contract.status ≠ .ok then ⟨none, []⟩
  else
    { written := some message
      notified :=
        match route with
        | .scheduler => [LightCh.commandinToScheduler]
        | .vehicleState => [LightCh.commandinToVehicleState]
        | .faultMgmt => [LightCh.commandinToFaultmg]
        | .commandin => []
        | .none => [] }

/-- The message passes commandin's check for its own type. -/
def Dispatchable (message : LightTransportMessage) : Prop :=
  (lightContractCheckTransportMessage message message.type).status = .ok

instance (message : LightTransportMessage) : Decidable (Dispatchable message) :=
  inferInstanceAs (Decidable (_ = _))

theorem dispatch_of_dispatchable {message : LightTransportMessage}
    (h : Dispatchable message) :
    dispatchTransportMessage message =
      { written := some message
        notified :=
          match lightTransportRouteForMessage message with
          | .scheduler => [LightCh.commandinToScheduler]
          | .vehicleState => [LightCh.commandinToVehicleState]
          | .faultMgmt => [LightCh.commandinToFaultmg]
          | .commandin => []
          | .none => [] } :=
  if_neg (not_not.mpr h)

theorem dispatch_of_not_dispatchable {message : LightTransportMessage}
    (h : ¬ Dispatchable message) : dispatchTransportMessage message = ⟨none, []⟩ :=
  if_pos h

end LightCtrl
