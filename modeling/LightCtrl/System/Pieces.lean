import LightCtrl.Actuation.Refinement
import LightCtrl.Fault.Recovery
import LightCtrl.Requests.OperatorCommands
import LightCtrl.System.Board
import LightCtrl.Transport.ConsoleOutput

/-!
What one piece of a handler can do. The pieces that can be left to do are
those of the channels each domain handles; `PieceOutcome` lists every change a
piece of this kind can make, with the guards of its branch. Invariants of the
board are checked against this list and not against the handlers.
-/

namespace LightCtrl

open Preemption

/-- The channels a domain's `notified` has a branch of its own for. -/
def ProtectionDomain.handledChannels : ProtectionDomain → List MicrokitChannel
  | .scheduler => [LightCh.schedulerFromCommandin, LightCh.schedulerFromFaultmg,
      LightCh.schedulerFromVehicleState]
  | .gpio => LightCh.gpioFromFaultmg :: gpioActions.map GpioAction.channel
  | .lightctl => [LightCh.lightctlFromScheduler]
  | .commandin => [LightCh.commandinUartIrq]
  | .faultmg => [LightCh.faultmgFromLightctl, LightCh.faultmgFromCommandin]
  | .vehicleState => [LightCh.vehicleStateFromCommandin]

/-- The channels a domain ever notifies. -/
def ProtectionDomain.sentChannels : ProtectionDomain → List MicrokitChannel
  | .scheduler => [LightCh.schedulerToLightctl]
  | .gpio => []
  | .lightctl => LightCh.lightctlToFaultmg :: gpioActions.map GpioAction.channel
  | .commandin => [LightCh.commandinToScheduler, LightCh.commandinToVehicleState,
      LightCh.commandinToFaultmg]
  | .faultmg => [LightCh.faultmgToGpio, LightCh.faultmgToScheduler]
  | .vehicleState => [LightCh.vehicleStateToScheduler]

/-- The pieces a domain may have left to do. -/
def BoardRuns (domain : ProtectionDomain) : BoardPiece → Prop
  | .notified channel => channel ∈ domain.handledChannels
  | .publish _ => domain = .faultmg
  | .iterate => domain = .lightctl
  | .send channel => channel ∈ domain.sentChannels

/-- The board once faultmg has handled a request and not yet published. -/
def BoardMemory.afterRequest (memory : BoardMemory) (request : FaultRequest) :
    BoardMemory :=
  { memory with
    faultmg := { request.step memory.faultmg with
      shmem := memory.shmem
      faultModeSlot := memory.faultmg.faultModeSlot } }

/-- The board once commandin has answered a character. -/
def BoardMemory.afterAnswer (memory : BoardMemory) (answer : CommandinHandled) :
    BoardMemory :=
  { memory with
    parser := answer.parser
    console := memory.console ++ answer.sent
    inputBuffer := answer.written.getD memory.inputBuffer }

/-- Where no transition is due, lightctl's bytes are its execution state. -/
theorem BoardMemory.execution_of_none {memory : BoardMemory} (h : memory.triggered = none) :
    memory.execution = memory.lightctl.executionState := by
  rw [BoardMemory.execution, h]
  rfl

/-- The transition that is still due is that of one action. -/
theorem BoardMemory.execution_toExecution {memory : BoardMemory} {lamps : LampState}
    (h : memory.lightctl.executionState = lamps.toExecution) :
    memory.execution = (memory.triggered.elim lamps lamps.perform).toExecution := by
  rw [BoardMemory.execution, h]
  cases memory.triggered with
  | none => rfl
  | some action => exact transition_toExecution lamps action

/-- The limits lightctl's guard works with. -/
abbrev BoardMemory.limits (memory : BoardMemory) : Limits :=
  limitsOf memory.shmem.vehicleSpeed memory.lightctl.faultModeCache

/-- Every way through a piece of the kind `BoardRuns` allows. -/
inductive PieceOutcome (reading : BoardReading) (memory : BoardMemory) :
    ProtectionDomain → BoardPiece → BoardEffect → Prop where
  | sent (domain : ProtectionDomain) (channel : MicrokitChannel)
      (h : channel ∈ domain.sentChannels) :
      PieceOutcome reading memory domain (.send channel) ⟨memory, [channel], []⟩
  | commandIgnored :
      PieceOutcome reading memory .scheduler
        (.notified LightCh.schedulerFromCommandin) ⟨memory, [], []⟩
  | recomputed (channel : MicrokitChannel) (request : LightOperatorRequest)
      (uartCmd : UInt8)
      (h : request = memory.shmem.operatorRequest ∨
        channel = LightCh.schedulerFromCommandin ∧
          request = operatorStep memory.shmem.operatorRequest
            memory.inputBuffer.payload.lightCmd) :
      PieceOutcome reading memory .scheduler (.notified channel)
        ⟨memory.withShmem (recomputeTargetOutput { memory.shmem with
          operatorRequest := request, uartCmd := uartCmd }), [],
          [.send LightCh.schedulerToLightctl]⟩
  | modeRead :
      PieceOutcome reading memory .gpio (.notified LightCh.gpioFromFaultmg)
        ⟨{ memory with gpio := { memory.gpio with
            faultModeCache :=
              lightFaultModeTransportDecode memory.faultmg.faultModeSlot } }, [], []⟩
  | actuated (action : GpioAction) :
      PieceOutcome reading memory .gpio (.notified action.channel)
        ⟨{ memory with gpio := gpioHandleAction memory.gpio action }, [], []⟩
  | planned (lamps : LampState) (hlamps : memory.execution = lamps.toExecution) :
      PieceOutcome reading memory .lightctl (.notified LightCh.lightctlFromScheduler)
        ⟨{ memory with
            lightctl := ⟨lamps.toExecution, memory.shmem.faultMode⟩
            remaining := lamps.plan memory.shmem.targetOutput.wanted
            triggered := none }, [],
          [.iterate]⟩
  | ended (lamps : LampState) (hlamps : memory.execution = lamps.toExecution)
      (hremaining : memory.remaining = []) :
      PieceOutcome reading memory .lightctl .iterate
        ⟨{ memory with
            lightctl := ⟨lamps.toExecution, memory.lightctl.faultModeCache⟩
            triggered := none }, [], []⟩
  | allowed (lamps : LampState) (action : GpioAction) (rest : List GpioAction)
      (hlamps : memory.execution = lamps.toExecution)
      (hremaining : memory.remaining = action :: rest)
      (hpermits : lamps.permits memory.limits action = true) :
      PieceOutcome reading memory .lightctl .iterate
        ⟨{ memory with
            lightctl := ⟨lamps.toExecution, memory.lightctl.faultModeCache⟩
            remaining := rest
            triggered := some action }, [], [.send action.channel, .iterate]⟩
  | denied (lamps : LampState) (action : GpioAction) (rest : List GpioAction)
      (hlamps : memory.execution = lamps.toExecution)
      (hremaining : memory.remaining = action :: rest)
      (hpermits : lamps.permits memory.limits action = false) :
      PieceOutcome reading memory .lightctl .iterate
        ⟨{ memory with
            lightctl := ⟨lamps.toExecution, memory.lightctl.faultModeCache⟩
            remaining := rest
            triggered := none }, [], [.send LightCh.lightctlToFaultmg, .iterate]⟩
  | answered (typed : CText) (parser : LightTransportParser)
      (answer : CommandinHandled) (hbefore : Represents memory.parser typed)
      (hafter : Represents parser (lineNext typed (uartGetChar reading.received)))
      (hanswer : answer = consoleAnswer memory.shmem parser
        (lineStep typed (uartGetChar reading.received)).2.2) :
      PieceOutcome reading memory .commandin (.notified LightCh.commandinUartIrq)
        ⟨memory.afterAnswer answer, [], answer.notified.map .send⟩
  | requestIgnored :
      PieceOutcome reading memory .faultmg (.notified LightCh.faultmgFromCommandin)
        ⟨memory, [], []⟩
  | requestHandled (channel : MicrokitChannel) (request : FaultRequest)
      (h : faultRequest? channel reading.mr0 memory.inputBuffer = some request) :
      PieceOutcome reading memory .faultmg (.notified channel)
        ⟨memory.afterRequest request, [], [.publish faultStores]⟩
  | stored (store : FaultStore) (rest : List FaultStore) :
      PieceOutcome reading memory .faultmg (.publish (store :: rest))
        ⟨{ memory with faultmg := store.perform memory.faultmg }, [],
          [.publish rest]⟩
  | published :
      PieceOutcome reading memory .faultmg (.publish [])
        ⟨memory, [], [.send LightCh.faultmgToGpio, .send LightCh.faultmgToScheduler]⟩
  | vehicleIgnored :
      PieceOutcome reading memory .vehicleState
        (.notified LightCh.vehicleStateFromCommandin) ⟨memory, [], []⟩
  | vehicleStored :
      PieceOutcome reading memory .vehicleState
        (.notified LightCh.vehicleStateFromCommandin)
        ⟨memory.withShmem { memory.shmem with
          vehicleState := (lightVehicleStateApplyRequest memory.shmem.vehicleState
            memory.inputBuffer.payload.vehicleStateUpdate).nextState }, [],
          [.send LightCh.vehicleStateToScheduler]⟩

section Outcomes

variable {reading : BoardReading} {memory : BoardMemory} {channel : MicrokitChannel}

private theorem scheduler_outcome
    (h : channel ∈ ProtectionDomain.scheduler.handledChannels) :
    PieceOutcome reading memory .scheduler (.notified channel)
      (performPiece .scheduler (.notified channel) reading memory) := by
  rcases schedulerNotified_outcome channel memory.inputBuffer memory.shmem with
    hquiet | ⟨request, uartCmd, hrequest, hrecomputed⟩
  · have hcommandin : channel = LightCh.schedulerFromCommandin := by
      by_contra hother
      simp only [ProtectionDomain.handledChannels, List.mem_cons, hother,
        List.not_mem_nil, or_false, false_or] at h
      rw [schedulerNotified_source h] at hquiet
      exact absurd (congrArg Handled.notified hquiet) (List.cons_ne_nil _ _)
    subst hcommandin
    simp only [performPiece, sharedEffect, hquiet]
    exact .commandIgnored
  · simp only [performPiece, sharedEffect, hrecomputed]
    exact .recomputed channel request uartCmd hrequest

private theorem gpio_outcome (h : channel ∈ ProtectionDomain.gpio.handledChannels) :
    PieceOutcome reading memory .gpio (.notified channel)
      (performPiece .gpio (.notified channel) reading memory) := by
  rcases List.mem_cons.mp h with rfl | haction
  · exact .modeRead
  · obtain ⟨action, -, rfl⟩ := List.mem_map.mp haction
    simp only [performPiece, gpioNotified_channel]
    exact .actuated action

private theorem iterate_outcome {lamps : LampState}
    (hlamps : memory.execution = lamps.toExecution) :
    PieceOutcome reading memory .lightctl .iterate
      (performPiece .lightctl .iterate reading memory) := by
  simp only [performPiece, iterateEffect, BoardMemory.applied]
  cases hremaining : memory.remaining with
  | nil =>
      have hended : PieceOutcome reading memory .lightctl .iterate _ :=
        .ended lamps hlamps hremaining
      rw [hlamps]
      simpa only [hremaining] using hended
  | cons action rest =>
      have hverdict := guardVerdict_allowed memory.shmem.vehicleSpeed
        memory.lightctl.faultModeCache lamps action
      rw [hlamps]
      cases hpermits : lamps.permits memory.limits action with
      | true =>
          have hallowed := hverdict.trans hpermits
          simp only [syncEffect_of_allowed _ _ hallowed, if_pos hallowed]
          exact .allowed lamps action rest hlamps hremaining hpermits
      | false =>
          have hdenied := hverdict.trans hpermits
          simp only [syncEffect_of_denied _ _ hdenied, hdenied, Bool.false_eq_true,
            if_false]
          exact .denied lamps action rest hlamps hremaining hpermits

private theorem faultmg_outcome
    (h : channel ∈ ProtectionDomain.faultmg.handledChannels) :
    PieceOutcome reading memory .faultmg (.notified channel)
      (performPiece .faultmg (.notified channel) reading memory) := by
  -- only a message of commandin can be without a request
  have hreport : channel ≠ LightCh.faultmgFromCommandin →
      faultRequest? channel reading.mr0 memory.inputBuffer =
        some (.report reading.mr0.toUInt8) := by
    intro hother
    simp only [ProtectionDomain.handledChannels, List.mem_cons, hother,
      List.not_mem_nil, or_false] at h
    exact if_pos h
  have hquiet : ∀ handled : Handled FaultmgMemory, handled = ⟨memory.faultmg, []⟩ →
      channel = LightCh.faultmgFromCommandin →
        faultmgNotified channel reading.mr0 memory.inputBuffer memory.faultmg = handled →
          PieceOutcome reading memory .faultmg (.notified channel)
            (performPiece .faultmg (.notified channel) reading memory) := by
    rintro _ rfl rfl hhandled
    simp only [performPiece, faultmgEffect, hhandled, if_true]
    exact .requestIgnored
  have hhandled := faultmgNotified_eq channel reading.mr0 memory.inputBuffer
    memory.faultmg
  cases hrequest : faultRequest? channel reading.mr0 memory.inputBuffer with
  | none =>
      rw [hrequest] at hhandled hreport
      have hcommandin : channel = LightCh.faultmgFromCommandin := by
        by_contra hother
        exact absurd (hreport hother) (Option.some_ne_none _).symm
      exact hquiet _ rfl hcommandin hhandled
  | some request =>
      rw [hrequest] at hhandled hreport
      have hnotifies : (request.handle memory.faultmg).notified ≠ [] →
          PieceOutcome reading memory .faultmg (.notified channel)
            (performPiece .faultmg (.notified channel) reading memory) := by
        intro hnotified
        simp only [performPiece, faultmgEffect, hhandled, if_neg hnotified]
        exact .requestHandled channel request hrequest
      cases request with
      | report errorCode => exact hnotifies (List.cons_ne_nil _ _)
      | clear scope =>
          by_cases hscope : scope = lightTransportFaultClearAll
          · subst hscope
            exact hnotifies (List.cons_ne_nil _ _)
          · have hcommandin : channel = LightCh.faultmgFromCommandin := by
              by_contra hother
              cases hreport hother
            exact hquiet _ (handleFaultClear_of_other_scope _ hscope) hcommandin
              hhandled

end Outcomes

/-- The inversion lemma of the pieces. -/
theorem performPiece_outcome (reading : BoardReading) {memory : BoardMemory}
    {domain : ProtectionDomain} {piece : BoardPiece} (hruns : BoardRuns domain piece)
    (hline : ∃ typed, Represents memory.parser typed)
    (hlamps : ∃ lamps : LampState, memory.lightctl.executionState = lamps.toExecution) :
    PieceOutcome reading memory domain piece
      (performPiece domain piece reading memory) := by
  obtain ⟨lamps, hlamps⟩ := hlamps
  cases piece with
  | send channel =>
      have hsent : PieceOutcome reading memory domain (.send channel)
          ⟨memory, [channel], []⟩ := .sent domain channel hruns
      cases domain <;> exact hsent
  | publish stores =>
      obtain rfl : domain = .faultmg := hruns
      cases stores with
      | nil => exact .published
      | cons store rest => exact .stored store rest
  | iterate =>
      obtain rfl : domain = .lightctl := hruns
      exact iterate_outcome (BoardMemory.execution_toExecution hlamps)
  | notified channel =>
      cases domain with
      | scheduler => exact scheduler_outcome hruns
      | gpio => exact gpio_outcome hruns
      | lightctl =>
          obtain rfl := List.mem_singleton.mp hruns
          have hexecution := BoardMemory.execution_toExecution hlamps
          simp only [performPiece, lightctlEffect, ne_eq, not_true_eq_false, if_false,
            hexecution, plannedActions_toExecution]
          exact .planned _ hexecution
      | commandin =>
          obtain rfl := List.mem_singleton.mp hruns
          obtain ⟨typed, htyped⟩ := hline
          obtain ⟨next, hnext, hanswer⟩ := commandinNotified_represents htyped
            reading.received reading.digits memory.shmem
          simp only [performPiece, commandinEffect, hanswer]
          exact .answered typed next _ htyped hnext rfl
      | faultmg => exact faultmg_outcome hruns
      | vehicleState =>
          obtain rfl := List.mem_singleton.mp hruns
          rcases vehicleStateNotified_outcome LightCh.vehicleStateFromCommandin
            memory.inputBuffer memory.shmem with hquiet | hstored
          · simp only [performPiece, sharedEffect, hquiet]
            exact .vehicleIgnored
          · simp only [performPiece, sharedEffect, hstored]
            exact .vehicleStored

end LightCtrl
