import LightCtrl.Transport.InputBuffer

/-!
Who acts on what. The receivers of the input buffer also run handlers for
other channels in between, and any of them may read the buffer long after it
was overwritten for another domain. Still no handler changes anything on a
message that was not routed to its own domain: the buffer always holds the
last message that passed at commandin, and the receivers' checks accept such a
message only where commandin sends it. That a receiver's copy is one of the
messages dispatched rests on the read of the buffer being one access; a copy torn
by a dispatch between two of its loads is outside this model.
-/

namespace LightCtrl

open Runs SharedSlot

/-- The channel from commandin, as the receiver sees it. -/
def InputReceiver.inputChannel : InputReceiver → MicrokitChannel
  | .scheduler => LightCh.schedulerFromCommandin
  | .vehicleState => LightCh.vehicleStateFromCommandin
  | .faultmg => LightCh.faultmgFromCommandin

/-- The memory after the receiver's `notified` for any channel. -/
def InputReceiver.notified (channel : MicrokitChannel) (mr0 : UInt64)
    (message : LightTransportMessage) (memory : FaultmgMemory) :
    InputReceiver → FaultmgMemory
  | .scheduler =>
      { memory with
        shmem := (schedulerNotified channel message memory.shmem).memory }
  | .vehicleState =>
      { memory with
        shmem := (vehicleStateNotified channel message memory.shmem).memory }
  | .faultmg => (faultmgNotified channel mr0 message memory).memory

/-- An event of the input buffer, or a handler run for a channel that does not
come from commandin. -/
inductive HandlerEvent where
  | input (event : InputEvent)
  | other (receiver : InputReceiver) (channel : MicrokitChannel) (mr0 : UInt64)
  deriving DecidableEq, Repr

def HandlerEvent.step (state : InputSystem) : HandlerEvent → InputSystem
  | .input event => event.step state
  | .other receiver channel mr0 =>
      if channel = receiver.inputChannel then state
      else { state with
        memory := receiver.notified channel mr0 state.slot.content state.memory }

/-- What the messages of commandin are about. -/
structure Commanded where
  operatorRequest : LightOperatorRequest
  vehicleState : LightVehicleState
  faultState : LightFaultState
  deriving DecidableEq, Repr

def InputSystem.commanded (state : InputSystem) : Commanded where
  operatorRequest := state.memory.shmem.operatorRequest
  vehicleState := state.memory.shmem.vehicleState
  faultState := state.memory.faultState

/-- The message the event stores in the buffer: a dispatched one that passes
commandin's check. -/
def HandlerEvent.stored? : HandlerEvent → Option LightTransportMessage
  | .input (.dispatch message) => if Dispatchable message then some message else none
  | _ => none

/-- The message dispatched most recently, if any was. -/
def lastDispatched (events : List HandlerEvent) : Option LightTransportMessage :=
  (events.filterMap HandlerEvent.stored?).getLast?

theorem lastDispatched_concat (past : List HandlerEvent) (event : HandlerEvent) :
    lastDispatched (past ++ [event]) =
      event.stored?.or (lastDispatched past) := by
  unfold lastDispatched
  rw [List.filterMap_append, List.getLast?_append]
  cases hstored : event.stored? <;> simp [hstored]

theorem lastDispatched_dispatchable {events : List HandlerEvent}
    {message : LightTransportMessage} (h : lastDispatched events = some message) :
    Dispatchable message := by
  obtain ⟨event, -, hstored⟩ := List.mem_filterMap.mp (List.mem_of_getLast? h)
  unfold HandlerEvent.stored? at hstored
  split at hstored
  · split_ifs at hstored with hpasses
    cases hstored
    exact hpasses
  · cases hstored

/-- The step lemma: only a dispatched message that passes replaces the content
of the buffer. -/
theorem step_content (state : InputSystem) (event : HandlerEvent) :
    (HandlerEvent.step state event).slot.content =
      event.stored?.getD state.slot.content := by
  cases event with
  | other receiver channel mr0 =>
      simp only [HandlerEvent.step, HandlerEvent.stored?]
      split <;> rfl
  | input event =>
      cases event with
      | dispatch message =>
          by_cases hpasses : Dispatchable message
          · simp [HandlerEvent.step, HandlerEvent.stored?, InputEvent.step,
              onSlot_dispatch hpasses, hpasses, SharedSlot.step]
          · simp [HandlerEvent.step, HandlerEvent.stored?, InputEvent.step,
              onSlot_dispatch_rejected hpasses, hpasses]
      | wake receiver =>
          have hkept : (SharedSlot.step state.slot (.wake receiver)).content =
              state.slot.content := (step_keeps_message state.slot rfl).2
          exact hkept
      | read receiver => rfl

/-- The run lemma: the buffer holds the last dispatched message, and zeroes
before the first one. -/
theorem run_content (memory : FaultmgMemory) (events : List HandlerEvent) :
    (run HandlerEvent.step (inputSystemInit memory) events).slot.content =
      (lastDispatched events).getD inputBufferZeroed := by
  refine run_history_invariant (inputSystemInit memory)
    (fun past state => state.slot.content =
      (lastDispatched past).getD inputBufferZeroed) rfl ?_ events
  intro past event ih
  rw [step_content, ih, lastDispatched_concat]
  cases event.stored? <;> rfl

/-- Nobody acts on the buffer before the first dispatch. -/
theorem acts_zeroed (receiver : InputReceiver) :
    receiver.acts inputBufferZeroed = false := by
  cases receiver <;> decide

/-- The receiver is the destination of the last dispatched message. -/
def Addressed (events : List HandlerEvent) (receiver : InputReceiver) : Prop :=
  ∃ message, lastDispatched events = some message ∧
    destination? message = some receiver

theorem acts_iff_addressed (memory : FaultmgMemory)
    (events : List HandlerEvent) (receiver : InputReceiver) :
    receiver.acts (run HandlerEvent.step (inputSystemInit memory)
        events).slot.content = true ↔ Addressed events receiver := by
  rw [run_content]
  unfold Addressed
  cases hlast : lastDispatched events with
  | none =>
      refine iff_of_false ?_ (by simp)
      simp [acts_zeroed]
  | some message =>
      have hacts := acts_iff_destination (lastDispatched_dispatchable hlast) receiver
      simpa using hacts

/-- In any interleaving of dispatches, wake-ups, late reads and handlers for
other channels: a handler run for commandin changes the memory only on the
message dispatched last, which passed commandin's check and is routed to that
domain; in every other such run the memory stays as it was. -/
theorem no_misdelivery (memory : FaultmgMemory) (events : List HandlerEvent)
    (receiver : InputReceiver) :
    let before := run HandlerEvent.step (inputSystemInit memory) events
    let after := HandlerEvent.step before (.input (.read receiver))
    (after.commanded ≠ before.commanded →
        ∃ message, before.slot.content = message ∧
          lastDispatched events = some message ∧ Dispatchable message ∧
          destination? message = some receiver) ∧
      (¬ Addressed events receiver → after.commanded = before.commanded ∧
        after.memory = before.memory) := by
  intro before after
  have hunchanged (hother : ¬ Addressed events receiver) :
      after.memory = before.memory := by
    have hacts : receiver.acts before.slot.content = false := by
      rw [← Bool.not_eq_true, acts_iff_addressed]
      exact hother
    have hkept := handle_of_not_acts hacts before.memory
    show (if before.slot.woken receiver then
      receiver.handle before.slot.content before.memory else before.memory) = _
    rw [hkept, ite_self]
  constructor
  · intro hchanged
    by_cases haddressed : Addressed events receiver
    · obtain ⟨message, hlast, hdestination⟩ := haddressed
      refine ⟨message, ?_, hlast, lastDispatched_dispatchable hlast, hdestination⟩
      exact (run_content memory events).trans (by rw [hlast, Option.getD_some])
    · have hsame : after.commanded = before.commanded := by
        rw [InputSystem.commanded, hunchanged haddressed, ← InputSystem.commanded]
      exact absurd hsame hchanged
  · intro hother
    refine ⟨?_, hunchanged hother⟩
    rw [InputSystem.commanded, hunchanged hother, ← InputSystem.commanded]

end LightCtrl
