import LightCtrl.Domains.Commandin
import LightCtrl.Domains.Faultmg
import LightCtrl.Domains.Scheduler
import LightCtrl.Domains.VehicleState
import LightCtrl.Library.SharedSlot

/-!
The input buffer between commandin and its three receivers. A dispatch is one
step, since commandin runs above vehicle_state and faultmg and the receivers
never write the buffer. A handler is two: its wake-up, which consumes the
flag of the channel, and its read of the buffer with everything it does to
the copy. Any other step may fall between the two. The read is assumed to be one
access: the source copies the eight bytes in several loads, and a dispatch between
two of them would hand the receiver parts of two messages.
-/

namespace LightCtrl

open Runs SharedSlot

/-- The domains commandin wakes through the input buffer. -/
inductive InputReceiver where
  | scheduler
  | vehicleState
  | faultmg
  deriving DecidableEq, Repr

/-- The channel to the receiver, as commandin sees it. -/
def InputReceiver.commandinChannel : InputReceiver → MicrokitChannel
  | .scheduler => LightCh.commandinToScheduler
  | .vehicleState => LightCh.commandinToVehicleState
  | .faultmg => LightCh.commandinToFaultmg

/-- The memory after the receiver's `notified` handled a copy of the buffer.
Only lightctl's notifications carry a message register. -/
def InputReceiver.handle (message : LightTransportMessage)
    (memory : FaultmgMemory) : InputReceiver → FaultmgMemory
  | .scheduler =>
      { memory with
        shmem := (schedulerNotified LightCh.schedulerFromCommandin message
          memory.shmem).memory }
  | .vehicleState =>
      { memory with
        shmem := (vehicleStateNotified LightCh.vehicleStateFromCommandin message
          memory.shmem).memory }
  | .faultmg =>
      (faultmgNotified LightCh.faultmgFromCommandin 0 message memory).memory

/-- The copy passes the receiver's contract check, so its payload is handed
to the core function of the domain. -/
def InputReceiver.acts (message : LightTransportMessage) : InputReceiver → Bool
  | .scheduler => (lightContractCheckTransportMessage message
      LightTransportMsg.lightCmd).status = .ok
  | .vehicleState => (lightContractCheckTransportMessage message
      LightTransportMsg.vehicleStateUpdate).status = .ok
  | .faultmg => (faultRequest? LightCh.faultmgFromCommandin 0 message).isSome

inductive InputEvent where
  | dispatch (message : LightTransportMessage)
  | wake (receiver : InputReceiver)
  | read (receiver : InputReceiver)
  deriving DecidableEq, Repr

/-- What the event does to the buffer and its flags. A dispatch that fails
commandin's own check does nothing. -/
def InputEvent.onSlot :
    InputEvent → Option (Event LightTransportMessage InputReceiver)
  | .dispatch message =>
      let dispatched := dispatchTransportMessage message
      dispatched.written.map (fun written => .send written (fun receiver =>
        dispatched.notified.contains receiver.commandinChannel))
  | .wake receiver => some (.wake receiver)
  | .read receiver => some (.read receiver)

/-- The buffer with its flags, and the memory of the receivers: the globals of
faultmg and the shared memory in it. -/
structure InputSystem where
  slot : Slot LightTransportMessage InputReceiver
  memory : FaultmgMemory

/-- The buffer is a zeroed region before the first dispatch. -/
def inputBufferZeroed : LightTransportMessage := ⟨0, 0, 0, 0, ⟨0, 0⟩⟩

def inputSystemInit (memory : FaultmgMemory) : InputSystem :=
  ⟨Slot.unsent inputBufferZeroed, memory⟩

def InputEvent.step (state : InputSystem) (event : InputEvent) : InputSystem where
  slot := (event.onSlot.map (SharedSlot.step state.slot)).getD state.slot
  memory :=
    match event with
    | .dispatch _ => state.memory
    | .wake _ => state.memory
    | .read receiver =>
        if state.slot.woken receiver then
          receiver.handle state.slot.content state.memory
        else state.memory

/-- The readings of an event on which the receiver acts. -/
def InputEvent.actions (state : InputSystem) (event : InputEvent) :
    List (Reading LightTransportMessage InputReceiver) :=
  (event.onSlot.map (readings state.slot)).getD [] |>.filter
    (fun reading => reading.receiver.acts reading.content)

/-- A receiver that does not act leaves the memory alone. -/
theorem handle_of_not_acts {receiver : InputReceiver}
    {message : LightTransportMessage} (h : receiver.acts message = false)
    (memory : FaultmgMemory) : receiver.handle message memory = memory := by
  cases receiver with
  | scheduler =>
      have hcheck := of_decide_eq_false h
      simp [InputReceiver.handle, schedulerNotified, hcheck]
  | vehicleState =>
      have hcheck := of_decide_eq_false h
      simp [InputReceiver.handle, vehicleStateNotified, hcheck]
  | faultmg =>
      have hnone : faultRequest? LightCh.faultmgFromCommandin 0 message = none :=
        Option.isSome_eq_false_iff.mp h |> Option.isNone_iff_eq_none.mp
      simp [InputReceiver.handle, faultmgNotified_eq, hnone]

/-- The receiver a message is routed to, if it leaves commandin. -/
def destination? (message : LightTransportMessage) : Option InputReceiver :=
  match lightTransportRouteForMessage message with
  | .scheduler => some .scheduler
  | .vehicleState => some .vehicleState
  | .faultMgmt => some .faultmg
  | .commandin => none
  | .none => none

/-- The types whose messages go to the receiver. -/
def InputReceiver.Expects (type : UInt8) : InputReceiver → Prop
  | .scheduler => type = LightTransportMsg.lightCmd
  | .vehicleState => type = LightTransportMsg.vehicleStateUpdate
  | .faultmg =>
      type = LightTransportMsg.faultInject ∨ type = LightTransportMsg.faultClear

theorem destination?_eq_some_iff (message : LightTransportMessage)
    (receiver : InputReceiver) :
    destination? message = some receiver ↔ receiver.Expects message.type := by
  unfold destination? lightTransportRouteForMessage
  generalize message.type = type
  split_ifs with hlight hvehicle hinject hquery hclear
  all_goals cases receiver <;> simp only [InputReceiver.Expects]
  all_goals grind

/-- Of a message that passed at commandin, the type alone decides whether it
passes at a receiver. -/
theorem transport_check_of_dispatchable {message : LightTransportMessage}
    (h : Dispatchable message) (expectedType : UInt8) :
    (lightContractCheckTransportMessage message expectedType).status = .ok ↔
      message.type = expectedType := by
  constructor
  · intro hcheck
    exact ((transport_check_ok_iff message expectedType).mp hcheck).2.1
  · rintro rfl
    exact h

/-- The receivers' checks and commandin's routes agree: a dispatched message
is acted on nowhere but at its destination. -/
theorem acts_iff_destination {message : LightTransportMessage}
    (h : Dispatchable message) (receiver : InputReceiver) :
    receiver.acts message = true ↔ destination? message = some receiver := by
  rw [destination?_eq_some_iff]
  cases receiver with
  | scheduler =>
      rw [InputReceiver.acts, decide_eq_true_iff,
        transport_check_of_dispatchable h, InputReceiver.Expects]
  | vehicleState =>
      rw [InputReceiver.acts, decide_eq_true_iff,
        transport_check_of_dispatchable h, InputReceiver.Expects]
  | faultmg =>
      have hchannel :
          LightCh.faultmgFromCommandin ≠ LightCh.faultmgFromLightctl := by
        decide
      simp only [InputReceiver.acts, faultRequest?, if_neg hchannel, ne_eq,
        not_true_eq_false, if_false, transport_check_of_dispatchable h,
        InputReceiver.Expects]
      split_ifs with hinject hclear
      · simp [hinject]
      · simp [hclear]
      · simp [hinject, hclear]

private theorem notified_contains (message : LightTransportMessage)
    (h : Dispatchable message) (receiver : InputReceiver) :
    (dispatchTransportMessage message).notified.contains
      receiver.commandinChannel = decide (destination? message = some receiver) := by
  rw [dispatch_of_dispatchable h]
  unfold destination?
  cases lightTransportRouteForMessage message <;> cases receiver <;> rfl

/-- A message that passes is stored and wakes its destination, nobody else. -/
theorem onSlot_dispatch {message : LightTransportMessage}
    (h : Dispatchable message) :
    (InputEvent.dispatch message).onSlot = some (.send message
      (fun receiver => destination? message = some receiver)) := by
  have hwritten : (dispatchTransportMessage message).written = some message := by
    rw [dispatch_of_dispatchable h]
  rw [InputEvent.onSlot, hwritten, Option.map_some]
  simp only [notified_contains message h]

theorem onSlot_dispatch_rejected {message : LightTransportMessage}
    (h : ¬ Dispatchable message) : (InputEvent.dispatch message).onSlot = none := by
  rw [InputEvent.onSlot, dispatch_of_not_dispatchable h, Option.map_none]

/-- The buffer goes through the events that concern it. -/
theorem run_slot (state : InputSystem) (events : List InputEvent) :
    (run InputEvent.step state events).slot =
      run SharedSlot.step state.slot (events.filterMap InputEvent.onSlot) := by
  induction events generalizing state with
  | nil => rfl
  | cons event rest ih =>
      rw [run_cons, ih, List.filterMap_cons]
      cases hslot : event.onSlot with
      | none => simp [InputEvent.step, hslot]
      | some shared => simp [InputEvent.step, hslot]

theorem outputs_actions (state : InputSystem) (events : List InputEvent) :
    outputs InputEvent.step InputEvent.actions state events =
      (outputs SharedSlot.step readings state.slot
        (events.filterMap InputEvent.onSlot)).filter
          (fun reading => reading.receiver.acts reading.content) := by
  induction events generalizing state with
  | nil => rfl
  | cons event rest ih =>
      rw [outputs, ih, List.filterMap_cons]
      cases hslot : event.onSlot with
      | none => simp [InputEvent.step, InputEvent.actions, hslot]
      | some shared =>
          simp [InputEvent.step, InputEvent.actions, hslot, outputs]

end LightCtrl
