import LightCtrl.System.MessagePath

/-!
What becomes of the operator commands on the board. The scheduler is above
commandin, so it has read a command before commandin completes the next message,
however fast the characters come: no command is lost, obeyed twice or overtaken,
whatever else the board is doing.
-/

namespace LightCtrl

open Runs Preemption

section Typed

def commandOf? (message : LightTransportMessage) : Option UInt8 :=
  if message.type = LightTransportMsg.lightCmd then some message.payload.lightCmd else none

/-- The light commands a stream of character codes stands for. -/
def typedCommands (codes : List Int) : List UInt8 :=
  (typedMessages codes).filterMap commandOf?

/-- The buffer holds a light command. -/
structure HoldsCommand (message : LightTransportMessage) : Prop where
  type : message.type = LightTransportMsg.lightCmd
  passes : Dispatchable message

/-- The command the scheduler finds in a message it reads. -/
def commandRead? (message : LightTransportMessage) : Option UInt8 :=
  if (lightContractCheckTransportMessage message LightTransportMsg.lightCmd).status = .ok then
    some message.payload.lightCmd
  else none

theorem HoldsCommand.commandRead {message : LightTransportMessage}
    (h : HoldsCommand message) : commandRead? message = some message.payload.lightCmd :=
  if_pos ((transport_check_of_dispatchable h.passes _).mpr h.type)

/-- The typed commands are what the scheduler finds in the messages for it. -/
theorem typedCommands_eq (codes : List Int) :
    typedCommands codes = (typedFor .scheduler codes).filterMap commandRead? := by
  refine (filterMap_typedFor ?_ codes).symm
  intro message hpasses
  have hcheck := transport_check_of_dispatchable hpasses LightTransportMsg.lightCmd
  have hdestination : destination? message = some .scheduler ↔
      message.type = LightTransportMsg.lightCmd :=
    destination?_eq_some_iff message .scheduler
  simp only [commandOf?, commandRead?, hcheck, hdestination]
  split_ifs <;> rfl

end Typed

section Account

variable {domain : ProtectionDomain} {piece : BoardPiece} {memory : BoardMemory}

/-- A piece changes the operator request by what the scheduler reads in it. -/
theorem operatorRequest_performed (hruns : BoardRuns domain piece)
    (hsafe : BoardSafe memory) (reading : BoardReading) :
    (performPiece domain piece reading memory).memory.shmem.operatorRequest =
      run operatorStep memory.shmem.operatorRequest
        ((messagesRead .scheduler domain piece reading memory).filterMap commandRead?) := by
  by_cases hread : domain = .scheduler ∧ piece = .notified LightCh.schedulerFromCommandin
  · obtain ⟨rfl, rfl⟩ := hread
    have hone : messagesRead .scheduler .scheduler
        (.notified LightCh.schedulerFromCommandin) reading memory = [memory.inputBuffer] :=
      if_pos ⟨rfl, rfl⟩
    refine (schedulerNotified_operatorRequest memory.inputBuffer memory.shmem).trans ?_
    rw [hone]
    by_cases hcheck : (lightContractCheckTransportMessage memory.inputBuffer
        LightTransportMsg.lightCmd).status = .ok
    · rw [if_neg (not_not.mpr hcheck)]
      simp [commandRead?, hcheck]
    · rw [if_pos hcheck]
      simp [commandRead?, hcheck]
  · have hnone : messagesRead .scheduler domain piece reading memory = [] := if_neg hread
    rw [hnone]
    have houtcome := performPiece_outcome reading hruns hsafe.line hsafe.lamps
    generalize performPiece domain piece reading memory = effect at houtcome ⊢
    cases houtcome with
    | commandIgnored => rfl
    | recomputed channel request uartCmd h =>
        rcases h with rfl | ⟨rfl, -⟩
        · rfl
        · exact absurd ⟨rfl, rfl⟩ hread
    | stored store rest => exact (store.perform_frame memory.faultmg).2.2.1
    | _ => rfl

/-- The operator request is the outcome of the commands the scheduler has read. -/
theorem operatorRequest_account (regions : BoardRegions) (events : List BoardEvent) :
    (run BoardEvent.step (boardInit regions) events).memory.shmem.operatorRequest =
      operatorRequestAfter ((outputs BoardEvent.step (recorded (messagesRead .scheduler))
        (boardInit regions) events).filterMap commandRead?) :=
  account_run board_closed (boardInit_sound regions)
    (fun memory => memory.shmem.operatorRequest) commandRead?
    (fun _ _ reading _ hruns hsafe => operatorRequest_performed hruns hsafe reading) events

end Account

section Commands

/-- The scheduler is above commandin, so it has caught up whenever commandin
moves. -/
theorem scheduler_handoff :
    Handoff board (Respects ProtectionDomain.priority) CompletesMessage HandledEnd
      BoardRuns BoardSafe (messageParcels .scheduler) (traffic .scheduler)
      (MessageUnderWay .scheduler) :=
  message_handoff .scheduler fun hscript _ hsent hrespects =>
    (message_confined .scheduler).ready_of_above (by decide) hscript hsent hrespects

/-- Along every run in which the ready domain of the highest priority moves:
commandin is inside the line that was typed last, and the operator request is
the outcome of all commands typed so far, each obeyed once and in order, up to
one that the scheduler has still to take from the input buffer. At rest the
lamps stand at the decision for exactly these commands. -/
theorem board_commands_obeyed (regions : BoardRegions) (events : List BoardEvent)
    (hrespects : EveryStep BoardEvent.step (Respects ProtectionDomain.priority)
      (boardInit regions) events) :
    let state := run BoardEvent.step (boardInit regions) events
    let memory := state.memory
    let codes := outputs BoardEvent.step (recorded charactersRead) (boardInit regions)
      events
    Represents memory.parser (run lineNext [] codes) ∧
      (memory.shmem.operatorRequest = operatorRequestAfter (typedCommands codes) ∨
        HoldsCommand memory.inputBuffer ∧
          operatorStep memory.shmem.operatorRequest memory.inputBuffer.payload.lightCmd =
            operatorRequestAfter (typedCommands codes)) ∧
      (Idle state .scheduler →
        .send LightCh.commandinToScheduler ∉ state.script .commandin →
          memory.shmem.operatorRequest = operatorRequestAfter (typedCommands codes)) ∧
      (Resting state → memory.lightctl.executionState =
        (arbitratedState (operatorRequestAfter (typedCommands codes))
          memory.shmem.vehicleState
          memory.faultmg.faultState.mode.toByte).wanted.toExecution) := by
  intro state memory codes
  obtain ⟨hline, hread, hcaught⟩ := messages_delivered scheduler_handoff regions hrespects
  have hrequest := operatorRequest_account regions events
  have hsettled : Idle state .scheduler →
      .send LightCh.commandinToScheduler ∉ state.script .commandin →
        memory.shmem.operatorRequest = operatorRequestAfter (typedCommands codes) := by
    intro hidle hsent
    have hall := hcaught ((message_confined .scheduler).underWay_eq_zero hidle
      (messageParcels_unsent hsent))
    rw [typedCommands_eq, hall]
    exact hrequest
  refine ⟨hline, ?_, hsettled, ?_⟩
  · rw [typedCommands_eq]
    rcases hread with hall | ⟨⟨hpasses, hdestination⟩, hlast⟩
    · rw [hall]
      exact Or.inl hrequest
    · have hholds : HoldsCommand memory.inputBuffer :=
        ⟨(destination?_eq_some_iff _ _).mp hdestination, hpasses⟩
      have hone : [memory.inputBuffer].filterMap commandRead? =
          [memory.inputBuffer.payload.lightCmd] := by
        simp [hholds.commandRead]
      refine Or.inr ⟨hholds, ?_⟩
      rw [hlast, List.filterMap_append, hone, operatorRequestAfter, run_concat]
      exact congrArg (operatorStep · memory.inputBuffer.payload.lightCmd) hrequest
  · intro hrest
    have hidle : Idle state .scheduler :=
      ⟨hrest.2.2 _, by simp [hrest.1], by simp [hrest.2.1]⟩
    rw [← hsettled hidle (by simp [hrest.2.2 .commandin])]
    exact (resting_agrees regions events hrest).lamps

/-- `B` arrives at rest, and the board comes to rest again. -/
def brakeEvents : List BoardEvent :=
  bootEvents ++
    [.interrupt (.commandin, LightCh.commandinUartIrq), .wake .commandin,
      .enter .commandin LightCh.commandinUartIrq,
      .advance .commandin { noReading with received := some 0x42 },
      .advance .commandin noReading,
      .wake .scheduler, .enter .scheduler LightCh.schedulerFromCommandin,
      .advance .scheduler noReading, .advance .scheduler noReading,
      .wake .lightctl, .enter .lightctl LightCh.lightctlFromScheduler,
      .advance .lightctl noReading, .advance .lightctl noReading,
      .advance .lightctl noReading,
      .wake .gpio, .enter .gpio GpioAction.brakeOn.channel, .advance .gpio noReading,
      .advance .lightctl noReading]

theorem board_commands_obeyed_after_brake :
    let memory := (run BoardEvent.step (boardInit zeroRegions) brakeEvents).memory
    memory.shmem.operatorRequest = operatorRequestAfter [LightCmd.brakeOn] ∧
      memory.lightctl.executionState =
        (arbitratedState (operatorRequestAfter [LightCmd.brakeOn])
          lightVehicleStateDefault FaultMode.normal.toByte).wanted.toExecution := by
  have hrest : Resting (run BoardEvent.step (boardInit zeroRegions) brakeEvents) := by
    refine ⟨?_, ?_, ?_⟩ <;> decide +kernel
  have htyped : typedCommands (outputs BoardEvent.step (recorded charactersRead)
      (boardInit zeroRegions) brakeEvents) = [LightCmd.brakeOn] := by
    decide +kernel
  have hobeyed := board_commands_obeyed zeroRegions brakeEvents (by decide +kernel)
  simp only [htyped] at hobeyed
  refine ⟨hobeyed.2.2.1 (by decide +kernel) (by decide +kernel), ?_⟩
  refine (hobeyed.2.2.2 hrest).trans ?_
  decide +kernel

end Commands

end LightCtrl
