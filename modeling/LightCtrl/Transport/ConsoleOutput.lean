import LightCtrl.Domains.Console
import LightCtrl.Transport.DecimalOutput
import LightCtrl.Transport.LineMachine
import LightCtrl.Transport.LineTracking

/-!
The text commandin sends, and its handler. A call of an output function stands
for a text that does not depend on what its array held before, and a sequence
of calls sends their texts one behind the other without an access outside of
an array. So the handler always returns, and is one step of the line machine
followed by the answer to the message of that step.
-/

namespace LightCtrl

/-- The text a call stands for, before a carriage return gets its line feed. -/
def ConsoleCall.text : ConsoleCall → CText
  | .str text => text
  | .char ch => [ch]
  | .u32 value => decimalText value.toNat
  | .hex8 value => cText "0x" ++ hex8Text value

def callsText (calls : List ConsoleCall) : CText := calls.flatMap ConsoleCall.text

theorem uartPutStr_append (first second : CText) :
    uartPutStr (first ++ second) = uartPutStr first ++ uartPutStr second := by
  simp only [uartPutStr, List.flatMap_append]

theorem ConsoleCall.emit_eq (digits : Vector UInt8 uartDigitsSize)
    (call : ConsoleCall) : call.emit digits = some (uartPutStr call.text) := by
  cases call with
  | str text => rfl
  | char ch => simp only [emit, text, uartPutStr, List.flatMap_singleton]
  | u32 value =>
      have hdigits := (decimalText_canonical value.toNat).numeral.isDigit
      rw [emit, uartPutU32_eq, text, uartPutStr, List.map_eq_flatMap]
      exact congrArg some
        (List.flatMap_congr fun ch hch => (uartPutChar_digit (hdigits ch hch)).symm)
  | hex8 value => rw [emit, uartPutHex8, text, uartPutStr_append]; rfl

theorem emitCalls_eq (digits : Vector UInt8 uartDigitsSize)
    (calls : List ConsoleCall) :
    emitCalls digits calls = some (uartPutStr (callsText calls)) := by
  induction calls with
  | nil => rfl
  | cons call rest ih =>
      have htext : callsText (call :: rest) = call.text ++ callsText rest := rfl
      rw [emitCalls, ConsoleCall.emit_eq, ih, htext, uartPutStr_append]
      rfl

/-- What one call of commandin's handler leaves, once the parser has answered:
a query is answered on the console, any other message is echoed and
dispatched. -/
def consoleAnswer (shmem : LightShmem) (parser : LightTransportParser) :
    Option LightTransportMessage → CommandinHandled
  | none => ⟨parser, none, [], []⟩
  | some message =>
      let route := lightTransportRouteForMessage message
      let inputLine := uartPutStr (callsText (emitDemoInputLine message route))
      if route = .commandin then
        ⟨parser, none, inputLine ++
          uartPutStr (callsText (emitStatusSnapshot shmem)) ++
          uartPutStr (callsText (emitDemoStatusPanel shmem)), []⟩
      else
        ⟨parser, (dispatchTransportMessage message).written, inputLine,
          (dispatchTransportMessage message).notified⟩

theorem parser_consoleAnswer (shmem : LightShmem) (parser : LightTransportParser)
    (answer : Option LightTransportMessage) :
    (consoleAnswer shmem parser answer).parser = parser := by
  cases answer with
  | none => rfl
  | some message =>
      rw [consoleAnswer]
      split_ifs <;> rfl

theorem handleMessage_eq (digits : Vector UInt8 uartDigitsSize) (shmem : LightShmem)
    (parser : LightTransportParser) (message : LightTransportMessage) :
    handleMessage digits shmem parser message =
      some (consoleAnswer shmem parser (some message)) := by
  rw [handleMessage, consoleAnswer]
  simp only [emitCalls_eq, Option.bind_eq_bind, Option.bind_some]
  split_ifs <;> rfl

/-- On the interrupt commandin always returns: it takes one step of the line
machine and answers the message of that step. -/
theorem commandinNotified_represents {parser : LightTransportParser} {typed : CText}
    (h : Represents parser typed) (received : Option UInt32)
    (digits : Vector UInt8 uartDigitsSize) (shmem : LightShmem) :
    ∃ next, Represents next (lineNext typed (uartGetChar received)) ∧
      commandinNotified LightCh.commandinUartIrq received digits shmem parser =
        some (consoleAnswer shmem next
          (lineStep typed (uartGetChar received)).2.2) := by
  obtain ⟨next, hfed, -, hkept⟩ :=
    feedChar_mirrors h.buffered h.length_le (uartGetChar received)
  refine ⟨next, hkept h, ?_⟩
  have hready := (lineStep_fits typed (uartGetChar received)).2
  rw [commandinNotified, if_pos rfl, hfed]
  simp only [Option.bind_eq_bind, Option.bind_some]
  generalize (lineStep typed (uartGetChar received)).2 = output at hready
  obtain ⟨status, written⟩ := output
  cases written with
  | none =>
      have hstatus : status ≠ .messageReady := by simpa using hready
      cases status with
      | messageReady => exact absurd rfl hstatus
      | needMore => rfl
      | ignored => rfl
      | error => rfl
  | some message =>
      obtain rfl : status = .messageReady := by simpa using hready
      exact handleMessage_eq digits shmem next message

/-- Every message of the line machine passes commandin's own check. -/
theorem lineStep_dispatchable {typed : CText} {ch : Int}
    {message : LightTransportMessage} (h : (lineStep typed ch).2.2 = some message) :
    Dispatchable message := by
  have hcommit : (commitOutput typed).2 = some message → Dispatchable message := by
    unfold commitOutput
    cases lineAnswer typed with
    | none => exact fun h => nomatch h
    | some request =>
        intro hmessage
        obtain rfl := Option.some.inj hmessage
        rfl
  have hextend : (extendLine typed ch).2.2 ≠ some message := by
    unfold extendLine
    split_ifs <;> simp
  unfold lineStep at h
  split_ifs at h
  · exact hcommit h
  · cases hstart : startMessage ch with
    | none =>
        rw [hstart] at h
        exact absurd h hextend
    | some started =>
        rw [hstart] at h
        obtain rfl := Option.some.inj h
        rcases Option.or_eq_some_iff.mp hstart with himmediate | ⟨-, hdecoded⟩
        · rcases immediateMessage_cases himmediate with rfl | rfl | rfl | rfl <;> rfl
        · obtain ⟨cmd, -, rfl⟩ := Option.map_eq_some_iff.mp hdecoded
          rfl
  · exact absurd h hextend

/-- The console's own check of the shared memory names the status of the
contract check, on every content. -/
theorem sharedStateContractName_eq (shmem : LightShmem) :
    sharedStateContractName shmem = lightContractStatusName
      (lightContractCheckSharedState (some shmem)).status.toByte := by
  have hmask : lightFaultActiveMaskAll = 0x0F := rfl
  simp only [sharedStateContractName, lightContractCheckSharedState, hmask,
    lightContractCheckFaultSnapshot, faultModeIsValid, faultLifecycleIsValid,
    Bool.not_eq_true', decide_eq_false_iff_not, gt_iff_lt, UInt8.not_le]
  split_ifs <;> rfl

end LightCtrl
