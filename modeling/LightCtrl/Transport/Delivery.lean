import LightCtrl.Transport.InputBuffer

/-!
What becomes of one dispatched message. The buffer has no acknowledgement, so
commandin may overwrite a message before its destination reads it, and a
destination that wakes for one message may read the next one and then be woken
for it again. The number of times a message is acted on follows from what its
destination owes when the message is stored and when it is overwritten.
-/

namespace LightCtrl

open Runs SharedSlot

/-- The event overwrites the input buffer. -/
def InputEvent.Stores : InputEvent → Prop
  | .dispatch message => Dispatchable message
  | .wake _ => False
  | .read _ => False

instance : ∀ event : InputEvent, Decidable event.Stores
  | .dispatch message => inferInstanceAs (Decidable (Dispatchable message))
  | .wake _ => isFalse id
  | .read _ => isFalse id

/-- Every action of a run from the start on the message with the number. -/
def actionsOn (memory : FaultmgMemory) (events : List InputEvent)
    (number : Nat) : List (Reading LightTransportMessage InputReceiver) :=
  (outputs InputEvent.step InputEvent.actions (inputSystemInit memory)
    events).filter (·.number = number)

private theorem isSend_of_stores {event : InputEvent} (h : event.Stores) :
    ∃ shared, event.onSlot = some shared ∧ shared.isSend = true := by
  cases event with
  | dispatch message => exact ⟨_, onSlot_dispatch h, rfl⟩
  | wake receiver => exact h.elim
  | read receiver => exact h.elim

private theorem not_isSend_of_not_stores {event : InputEvent}
    (h : ¬ event.Stores) {shared : Event LightTransportMessage InputReceiver}
    (hshared : event.onSlot = some shared) : shared.isSend = false := by
  cases event with
  | dispatch message =>
      rw [onSlot_dispatch_rejected h] at hshared
      cases hshared
  | wake receiver =>
      obtain rfl := Option.some.inj hshared
      rfl
  | read receiver =>
      obtain rfl := Option.some.inj hshared
      rfl

private theorem window_quiet {window : List InputEvent}
    (hwindow : ∀ event ∈ window, ¬ event.Stores) :
    ∀ shared ∈ window.filterMap InputEvent.onSlot, shared.isSend = false := by
  intro shared hshared
  obtain ⟨event, hevent, honSlot⟩ := List.mem_filterMap.mp hshared
  exact not_isSend_of_not_stores (hwindow event hevent) honSlot

private theorem after_overwrites {after : List InputEvent}
    (hafter : ∀ event ∈ after.head?, event.Stores) :
    ∀ shared ∈ (after.filterMap InputEvent.onSlot).head?,
      shared.isSend = true := by
  intro shared hshared
  cases after with
  | nil => cases hshared
  | cons event rest =>
      obtain ⟨first, hfirst, hsend⟩ := isSend_of_stores (hafter event rfl)
      rw [List.filterMap_cons, hfirst] at hshared
      obtain rfl := Option.some.inj hshared
      exact hsend

/-- The slot right after a dispatch that stores its message. -/
private theorem slot_after_dispatch (state : InputSystem)
    {message : LightTransportMessage} (hdispatch : Dispatchable message) :
    (InputEvent.step state (.dispatch message)).slot =
      SharedSlot.step state.slot (.send message
        (fun receiver => destination? message = some receiver)) := by
  rw [InputEvent.step, onSlot_dispatch hdispatch]
  rfl

/-- The actions on one message are the readings its destination makes before
the next store. -/
private theorem actionsOn_eq (memory : FaultmgMemory)
    (before window after : List InputEvent) {message : LightTransportMessage}
    {destination : InputReceiver} (hdispatch : Dispatchable message)
    (hdestination : destination? message = some destination)
    (hwindow : ∀ event ∈ window, ¬ event.Stores)
    (hafter : ∀ event ∈ after.head?, event.Stores) :
    let stored := run InputEvent.step (inputSystemInit memory)
      (before ++ [.dispatch message])
    stored.slot.content = message ∧
      actionsOn memory (before ++ .dispatch message :: window ++ after)
          stored.slot.sent =
        (outputs SharedSlot.step readings stored.slot
          (window.filterMap InputEvent.onSlot)).filter
            (·.receiver = destination) := by
  intro stored
  have hsend := onSlot_dispatch hdispatch
  have hcontent : stored.slot.content = message := by
    simp only [stored, run_append, run_cons, run_nil,
      slot_after_dispatch _ hdispatch]
    rfl
  have hreadings := readings_of_number (inputSystemInit memory).slot
    (before.filterMap InputEvent.onSlot) (window.filterMap InputEvent.onSlot)
    (after.filterMap InputEvent.onSlot) message
    (fun receiver => destination? message = some receiver)
    (window_quiet hwindow) (after_overwrites hafter)
  have hstored : run SharedSlot.step (inputSystemInit memory).slot
      (before.filterMap InputEvent.onSlot ++ [.send message
        (fun receiver => destination? message = some receiver)]) =
      stored.slot := by
    rw [run_slot, List.filterMap_append, List.filterMap_cons, hsend]
    rfl
  rw [hstored] at hreadings
  refine ⟨hcontent, ?_⟩
  rw [actionsOn, outputs_actions, List.filter_filter, List.filterMap_append,
    List.filterMap_append, List.filterMap_cons, hsend]
  simp only [Bool.and_comm (decide _)]
  rw [← List.filter_filter, hreadings]
  apply List.filter_congr
  intro reading hreading
  rw [(reading_of_window (window_quiet hwindow) hreading).2, hcontent]
  have hacts := acts_iff_destination hdispatch reading.receiver
  rw [hdestination, Option.some.injEq] at hacts
  rw [Bool.eq_iff_iff, hacts, decide_eq_true_iff]
  exact eq_comm

/-- The balance of one message: actions made and steps still owed add up to
the wake-up its dispatch asked for, and one more if its destination was
already awake. -/
theorem actions_add_owed (memory : FaultmgMemory)
    (before window after : List InputEvent) {message : LightTransportMessage}
    {destination : InputReceiver} (hdispatch : Dispatchable message)
    (hdestination : destination? message = some destination)
    (hwindow : ∀ event ∈ window, ¬ event.Stores)
    (hafter : ∀ event ∈ after.head?, event.Stores) :
    let stored := run InputEvent.step (inputSystemInit memory)
      (before ++ [.dispatch message])
    (actionsOn memory (before ++ .dispatch message :: window ++ after)
        stored.slot.sent).length +
        (run InputEvent.step stored window).slot.owed destination =
      1 + (stored.slot.woken destination).toNat := by
  intro stored
  obtain ⟨-, hacted⟩ := actionsOn_eq memory before window after hdispatch
    hdestination hwindow hafter
  have howed : stored.slot.owed destination =
      1 + (stored.slot.woken destination).toNat := by
    simp only [stored, run_append, run_cons, run_nil,
      slot_after_dispatch _ hdispatch]
    simp [SharedSlot.step, Slot.owed, hdestination]
  rw [← howed, ← readings_add_owed stored.slot _ (window_quiet hwindow)
    destination, List.countP_eq_length_filter, ← hacted, ← run_slot]

/-- In every run, a message that leaves commandin is acted on by its
destination only, and exactly once precisely when its destination owes as much
at the next store as it was behind at the dispatch: nothing, if it was not
between a wake-up and its read. -/
theorem dispatched_message_actions (memory : FaultmgMemory)
    (before window after : List InputEvent) (message : LightTransportMessage)
    (destination : InputReceiver) (hdispatch : Dispatchable message)
    (hdestination : destination? message = some destination)
    (hwindow : ∀ event ∈ window, ¬ event.Stores)
    (hafter : ∀ event ∈ after.head?, event.Stores) :
    let stored := run InputEvent.step (inputSystemInit memory)
      (before ++ [.dispatch message])
    let ended := run InputEvent.step stored window
    let acted := actionsOn memory
      (before ++ .dispatch message :: window ++ after) stored.slot.sent
    (∀ action ∈ acted,
        action.receiver = destination ∧ action.content = message) ∧
      acted.length + ended.slot.owed destination =
        1 + (stored.slot.woken destination).toNat ∧
      (acted.length = 1 ↔ ended.slot.owed destination =
        (stored.slot.woken destination).toNat) := by
  intro stored ended acted
  have hcount : acted.length + ended.slot.owed destination =
      1 + (stored.slot.woken destination).toNat :=
    actions_add_owed memory before window after hdispatch hdestination
      hwindow hafter
  refine ⟨?_, hcount, by omega⟩
  intro action haction
  obtain ⟨hcontent, hacted⟩ := actionsOn_eq memory before window after hdispatch
    hdestination hwindow hafter
  rw [show acted = _ from hacted] at haction
  obtain ⟨hreading, hreceiver⟩ := List.mem_filter.mp haction
  have hread := reading_of_window (window_quiet hwindow) hreading
  exact ⟨of_decide_eq_true hreceiver, hread.2.trans hcontent⟩

/-- A request dispatched to an idle vehicle_state, which handles it. -/
theorem dispatched_message_actions_paced :
    let memory := (faultmgInit lightShmemZeroed 0).memory
    let message := makeVehicleStateMessage ⟨LightVehicleField.speedKph, 80⟩
    (actionsOn memory
      [.dispatch message, .wake .vehicleState, .read .vehicleState] 1).length =
        1 :=
  (dispatched_message_actions (faultmgInit lightShmemZeroed 0).memory []
    [.wake .vehicleState, .read .vehicleState] []
    (makeVehicleStateMessage ⟨LightVehicleField.speedKph, 80⟩) .vehicleState
    (by decide) (by decide) (by decide) (by decide)).2.2.mpr (by decide)

/-- In every run that ends with nothing owed, the number of actions on each
message for vehicle_state or faultmg is as given. -/
def EachMessageActedOn (count : Nat → Prop) : Prop :=
  ∀ memory events,
    (∀ receiver, (run InputEvent.step (inputSystemInit memory)
      events).slot.owed receiver = 0) →
    ∀ before message after, events = before ++ .dispatch message :: after →
      Dispatchable message →
      destination? message = some .vehicleState ∨
        destination? message = some .faultmg →
      count (actionsOn memory events ((run InputEvent.step
        (inputSystemInit memory) (before ++ [.dispatch message])).slot.sent)).length

/-- A request is lost when the next dispatch comes before its read, and acted
on twice when it is dispatched between a wake-up and the read. -/
theorem messages_lost_and_duplicated :
    ¬ EachMessageActedOn (· = 1) ∧ ¬ EachMessageActedOn (1 ≤ ·) ∧
      ¬ EachMessageActedOn (· ≤ 1) := by
  let memory := (faultmgInit lightShmemZeroed 0).memory
  let slow := makeVehicleStateMessage ⟨LightVehicleField.speedKph, 30⟩
  let fast := makeVehicleStateMessage ⟨LightVehicleField.speedKph, 80⟩
  let sent := fun before : List InputEvent =>
    (run InputEvent.step (inputSystemInit memory) before).slot.sent
  have hlost : ∀ count, EachMessageActedOn count → count 0 := by
    intro count h
    let overtaken : List InputEvent := [.dispatch slow, .dispatch fast,
      .wake .vehicleState, .read .vehicleState]
    have hdrained : ∀ receiver, (run InputEvent.step (inputSystemInit memory)
        overtaken).slot.owed receiver = 0 := by
      intro receiver
      cases receiver <;> decide +kernel
    have hlength : (actionsOn memory overtaken
        (sent ([] ++ [.dispatch slow]))).length = 0 := by
      decide +kernel
    rw [← hlength]
    exact h memory overtaken hdrained [] slow _ rfl (by decide) (by decide)
  have hduplicated : ∀ count, EachMessageActedOn count → count 2 := by
    intro count h
    let interrupted : List InputEvent := [.dispatch slow, .wake .vehicleState,
      .dispatch fast, .read .vehicleState, .wake .vehicleState,
      .read .vehicleState]
    have hdrained : ∀ receiver, (run InputEvent.step (inputSystemInit memory)
        interrupted).slot.owed receiver = 0 := by
      intro receiver
      cases receiver <;> decide +kernel
    have hlength : (actionsOn memory interrupted (sent
        ([.dispatch slow, .wake .vehicleState] ++ [.dispatch fast]))).length =
          2 := by
      decide +kernel
    rw [← hlength]
    exact h memory interrupted hdrained _ fast _ rfl (by decide) (by decide)
  refine ⟨fun h => ?_, fun h => ?_, fun h => ?_⟩
  · exact absurd (hlost _ h) (by decide)
  · exact absurd (hlost _ h) (by decide)
  · exact absurd (hduplicated _ h) (by decide)

end LightCtrl
