import LightCtrl.Requests.VehicleWrites
import LightCtrl.System.OperatorPath

/-!
What the typed text makes of the board. The operator request, the vehicle state
and faultmg's own state change only by what the receivers read from the input
buffer, and faultmg's also by lightctl's reports. So where the messages are
delivered, each is the outcome of the messages typed for it.
-/

namespace LightCtrl

open Runs Preemption

section Updates

def updateOf? (message : LightTransportMessage) : Option LightVehicleStateRequest :=
  if message.type = LightTransportMsg.vehicleStateUpdate then
    some message.payload.vehicleStateUpdate
  else none

/-- The vehicle-state requests a stream of character codes stands for. -/
def typedUpdates (codes : List Int) : List LightVehicleStateRequest :=
  (typedMessages codes).filterMap updateOf?

/-- The request vehicle_state finds in a message it reads. -/
def updateRead? (message : LightTransportMessage) : Option LightVehicleStateRequest :=
  if (lightContractCheckTransportMessage message
      LightTransportMsg.vehicleStateUpdate).status = .ok then
    some message.payload.vehicleStateUpdate
  else none

theorem typedUpdates_eq (codes : List Int) :
    typedUpdates codes = (typedFor .vehicleState codes).filterMap updateRead? := by
  refine (filterMap_typedFor ?_ codes).symm
  intro message hpasses
  have hcheck := transport_check_of_dispatchable hpasses
    LightTransportMsg.vehicleStateUpdate
  have hdestination : destination? message = some .vehicleState ↔
      message.type = LightTransportMsg.vehicleStateUpdate :=
    destination?_eq_some_iff message .vehicleState
  simp only [updateOf?, updateRead?, hcheck, hdestination]
  split_ifs <;> rfl

/-- A rejected request leaves the vehicle state alone, so the handler takes the
step for every message that passes its check. -/
theorem vehicleStateNotified_vehicleState (message : LightTransportMessage)
    (shmem : LightShmem) :
    (vehicleStateNotified LightCh.vehicleStateFromCommandin message
        shmem).memory.vehicleState =
      run vehicleStep shmem.vehicleState (updateRead? message).toList := by
  by_cases hcheck : (lightContractCheckTransportMessage message
      LightTransportMsg.vehicleStateUpdate).status = .ok
  · have hread : updateRead? message = some message.payload.vehicleStateUpdate :=
      if_pos hcheck
    rw [hread]
    cases hadmissible : message.payload.vehicleStateUpdate.admissible with
    | true =>
        have haccepted := (applyRequest_accepted_iff shmem.vehicleState _).mpr hadmissible
        simp [vehicleStateNotified, hcheck, haccepted, vehicleStep]
    | false =>
        simp [vehicleStateNotified, hcheck, vehicleStep,
          applyRequest_rejected _ _ hadmissible]
  · simp [vehicleStateNotified, updateRead?, hcheck]

variable {domain : ProtectionDomain} {piece : BoardPiece} {memory : BoardMemory}

/-- A piece changes the vehicle state by what vehicle_state reads in it. -/
theorem vehicleState_performed (hruns : BoardRuns domain piece)
    (hsafe : BoardSafe memory) (reading : BoardReading) :
    (performPiece domain piece reading memory).memory.shmem.vehicleState =
      run vehicleStep memory.shmem.vehicleState
        ((messagesRead .vehicleState domain piece reading memory).filterMap
          updateRead?) := by
  by_cases hread : domain = .vehicleState ∧
      piece = .notified LightCh.vehicleStateFromCommandin
  · obtain ⟨rfl, rfl⟩ := hread
    have hone : messagesRead .vehicleState .vehicleState
        (.notified LightCh.vehicleStateFromCommandin) reading memory =
          [memory.inputBuffer] :=
      if_pos ⟨rfl, rfl⟩
    refine (vehicleStateNotified_vehicleState memory.inputBuffer memory.shmem).trans ?_
    rw [hone, List.filterMap_cons, List.filterMap_nil]
    cases updateRead? memory.inputBuffer <;> rfl
  · have hnone : messagesRead .vehicleState domain piece reading memory = [] :=
      if_neg hread
    rw [hnone]
    have houtcome := performPiece_outcome reading hruns hsafe.line hsafe.lamps
    generalize performPiece domain piece reading memory = effect at houtcome ⊢
    cases houtcome with
    | vehicleIgnored => exact absurd ⟨rfl, rfl⟩ hread
    | vehicleStored => exact absurd ⟨rfl, rfl⟩ hread
    | recomputed channel request uartCmd _ => rfl
    | stored store rest => exact (store.perform_frame memory.faultmg).2.1
    | _ => rfl

/-- The vehicle state is the outcome of the requests vehicle_state has read. -/
theorem vehicleState_account (regions : BoardRegions) (events : List BoardEvent) :
    (run BoardEvent.step (boardInit regions) events).memory.shmem.vehicleState =
      run vehicleStep lightVehicleStateDefault
        ((outputs BoardEvent.step (recorded (messagesRead .vehicleState))
          (boardInit regions) events).filterMap updateRead?) :=
  account_run board_closed (boardInit_sound regions)
    (fun memory => memory.shmem.vehicleState) updateRead?
    (fun _ _ reading _ hruns hsafe => vehicleState_performed hruns hsafe reading) events

end Updates

section Text

section Read

variable {regions : BoardRegions} {events : List BoardEvent}

/-- Once the scheduler has read its messages, the request is what they make of it. -/
theorem operatorRequest_of_read
    (h : typedFor .scheduler (outputs BoardEvent.step (recorded charactersRead)
        (boardInit regions) events) =
      outputs BoardEvent.step (recorded (messagesRead .scheduler)) (boardInit regions)
        events) :
    (run BoardEvent.step (boardInit regions) events).memory.shmem.operatorRequest =
      operatorRequestAfter (typedCommands (outputs BoardEvent.step
        (recorded charactersRead) (boardInit regions) events)) := by
  rw [typedCommands_eq, h]
  exact operatorRequest_account regions events

theorem vehicleState_of_read
    (h : typedFor .vehicleState (outputs BoardEvent.step (recorded charactersRead)
        (boardInit regions) events) =
      outputs BoardEvent.step (recorded (messagesRead .vehicleState)) (boardInit regions)
        events) :
    (run BoardEvent.step (boardInit regions) events).memory.shmem.vehicleState =
      run vehicleStep lightVehicleStateDefault (typedUpdates (outputs BoardEvent.step
        (recorded charactersRead) (boardInit regions) events)) := by
  rw [typedUpdates_eq, h]
  exact vehicleState_account regions events

end Read

/-- Along every run in which each message was read before the next is completed,
however the domains interleave: once the scheduler and vehicle_state have caught
up, the operator request is the outcome of all commands typed so far and the
vehicle state the outcome of all updates. At rest the lamps stand at the decision
for exactly these and faultmg's mode. -/
theorem board_follows_typed_text (regions : BoardRegions) (events : List BoardEvent)
    (hpaced : EveryStep BoardEvent.step Paced (boardInit regions) events) :
    let state := run BoardEvent.step (boardInit regions) events
    let memory := state.memory
    let codes := outputs BoardEvent.step (recorded charactersRead) (boardInit regions)
      events
    let vehicleState := run vehicleStep lightVehicleStateDefault (typedUpdates codes)
    (InputReceiver.scheduler.Caught state →
        .send LightCh.commandinToScheduler ∉ state.script .commandin →
          memory.shmem.operatorRequest = operatorRequestAfter (typedCommands codes)) ∧
      (InputReceiver.vehicleState.Caught state →
        .send LightCh.commandinToVehicleState ∉ state.script .commandin →
          memory.shmem.vehicleState = vehicleState) ∧
      (Resting state → memory.lightctl.executionState =
        (arbitratedState (operatorRequestAfter (typedCommands codes)) vehicleState
          memory.faultmg.faultState.mode.toByte).wanted.toExecution) := by
  intro state memory codes vehicleState
  have hrequest : InputReceiver.scheduler.Caught state →
      .send LightCh.commandinToScheduler ∉ state.script .commandin →
        memory.shmem.operatorRequest = operatorRequestAfter (typedCommands codes) := by
    intro hcaught hsent
    exact operatorRequest_of_read ((messages_delivered (paced_handoff .scheduler) regions
      hpaced).2.2 (hcaught.underWay (messageParcels_unsent hsent)))
  have hvehicle : InputReceiver.vehicleState.Caught state →
      .send LightCh.commandinToVehicleState ∉ state.script .commandin →
        memory.shmem.vehicleState = vehicleState := by
    intro hcaught hsent
    exact vehicleState_of_read ((messages_delivered (paced_handoff .vehicleState) regions
      hpaced).2.2 (hcaught.underWay (messageParcels_unsent hsent)))
  refine ⟨hrequest, hvehicle, ?_⟩
  intro hrest
  rw [← hrequest (InputReceiver.caught_at_rest _ hrest) (by simp [hrest.2.2]),
    ← hvehicle (InputReceiver.caught_at_rest _ hrest) (by simp [hrest.2.2])]
  exact (resting_agrees regions events hrest).lamps

/-- After `B` the line `speed=50` is typed, and the board comes to rest again. -/
def speedEvents : List BoardEvent :=
  brakeEvents ++
    ([0x73, 0x70, 0x65, 0x65, 0x64, 0x3D, 0x35, 0x30, 0x0D].flatMap typing) ++
    [.advance .commandin noReading, .wake .vehicleState,
      .enter .vehicleState LightCh.vehicleStateFromCommandin,
      .advance .vehicleState noReading, .advance .vehicleState noReading,
      .wake .scheduler, .enter .scheduler LightCh.schedulerFromVehicleState,
      .advance .scheduler noReading, .advance .scheduler noReading,
      .wake .lightctl, .enter .lightctl LightCh.lightctlFromScheduler,
      .advance .lightctl noReading, .advance .lightctl noReading]

theorem board_follows_typed_text_after_speed :
    let memory := (run BoardEvent.step (boardInit zeroRegions) speedEvents).memory
    memory.shmem.vehicleState = { lightVehicleStateDefault with speedKph := 50 } ∧
      memory.lightctl.executionState =
        (arbitratedState (operatorRequestAfter [LightCmd.brakeOn])
          { lightVehicleStateDefault with speedKph := 50 }
          FaultMode.normal.toByte).wanted.toExecution := by
  have hrest : Resting (run BoardEvent.step (boardInit zeroRegions) speedEvents) := by
    refine ⟨?_, ?_, ?_⟩ <;> decide +kernel
  have hcommands : typedCommands (outputs BoardEvent.step (recorded charactersRead)
      (boardInit zeroRegions) speedEvents) = [LightCmd.brakeOn] := by
    decide +kernel
  have hupdates : run vehicleStep lightVehicleStateDefault (typedUpdates (outputs
      BoardEvent.step (recorded charactersRead) (boardInit zeroRegions) speedEvents)) =
        { lightVehicleStateDefault with speedKph := 50 } := by
    decide +kernel
  have hfollows := board_follows_typed_text zeroRegions speedEvents (by decide +kernel)
  simp only [hcommands, hupdates] at hfollows
  refine ⟨hfollows.2.1 (by decide +kernel) (by decide +kernel), ?_⟩
  refine (hfollows.2.2 hrest).trans ?_
  decide +kernel

end Text

section Faults

def faultOf? (message : LightTransportMessage) : Option FaultRequest :=
  if message.type = LightTransportMsg.faultInject then
    some (.report message.payload.faultErrorCode)
  else if message.type = LightTransportMsg.faultClear then
    some (.clear message.payload.faultClearScope)
  else none

/-- The fault requests a stream of character codes stands for. -/
def typedFaults (codes : List Int) : List FaultRequest :=
  (typedMessages codes).filterMap faultOf?

/-- The request faultmg finds in a message it reads. -/
def faultRead? : LightTransportMessage → Option FaultRequest :=
  faultRequest? LightCh.faultmgFromCommandin 0

theorem faultRead?_of_dispatchable {message : LightTransportMessage}
    (h : Dispatchable message) : faultRead? message = faultOf? message := by
  have hchannel : LightCh.faultmgFromCommandin ≠ LightCh.faultmgFromLightctl := by
    decide
  rw [faultRead?, faultRequest?, if_neg hchannel, if_neg (not_not.mpr rfl), faultOf?]
  simp only [transport_check_of_dispatchable h]

theorem typedFaults_eq (codes : List Int) :
    typedFaults codes = (typedFor .faultmg codes).filterMap faultRead? := by
  refine (filterMap_typedFor ?_ codes).symm
  intro message hpasses
  rw [faultRead?_of_dispatchable hpasses]
  split_ifs with hdestination
  · rfl
  · have hexpects := (destination?_eq_some_iff message .faultmg).not.mp hdestination
    obtain ⟨hinject, hclear⟩ := not_or.mp hexpects
    rw [faultOf?, if_neg hinject, if_neg hclear]

/-- What faultmg keeps for itself. -/
structure FaultAccount where
  totalErrorCount : UInt32
  faultState : LightFaultState
  faultHistorySequence : UInt32
  deriving DecidableEq, Repr

def FaultmgMemory.account (memory : FaultmgMemory) : FaultAccount where
  totalErrorCount := memory.totalErrorCount
  faultState := memory.faultState
  faultHistorySequence := memory.faultHistorySequence

/-- A request as faultmg handles it over any shared memory. -/
def FaultAccount.charge (account : FaultAccount) (request : FaultRequest) : FaultAccount :=
  (request.step ⟨account.totalErrorCount, account.faultState,
    account.faultHistorySequence, lightShmemZeroed, 0⟩).account

theorem step_account (memory : FaultmgMemory) (request : FaultRequest) :
    memory.account.charge request = (request.step memory).account := by
  cases request with
  | report errorCode => rfl
  | clear scope =>
      by_cases hscope : scope = lightTransportFaultClearAll
      · subst hscope
        rfl
      · simp [FaultAccount.charge, FaultmgMemory.account, FaultRequest.step,
          FaultRequest.handle, handleFaultClear, hscope]

/-- The requests faultmg handles, each with the channel it came over. -/
def requestsHandled (domain : ProtectionDomain) (piece : BoardPiece)
    (reading : BoardReading) (memory : BoardMemory) :
    List (MicrokitChannel × FaultRequest) :=
  match domain, piece with
  | .faultmg, .notified channel =>
      (faultRequest? channel reading.mr0 memory.inputBuffer).toList.map (channel, ·)
  | _, _ => []

variable {domain : ProtectionDomain} {piece : BoardPiece} {memory : BoardMemory}

theorem requestsHandled_elsewhere
    (h : ¬ (domain = .faultmg ∧ ∃ channel, piece = .notified channel))
    (reading : BoardReading) (memory : BoardMemory) :
    requestsHandled domain piece reading memory = [] := by
  unfold requestsHandled
  split
  · exact absurd ⟨rfl, _, rfl⟩ h
  · rfl

/-- A piece changes faultmg's own state by the request it handles. -/
theorem faultAccount_performed (hruns : BoardRuns domain piece)
    (hsafe : BoardSafe memory) (reading : BoardReading) :
    (performPiece domain piece reading memory).memory.faultmg.account =
      run FaultAccount.charge memory.faultmg.account
        ((requestsHandled domain piece reading memory).map Prod.snd) := by
  by_cases hhandled : domain = .faultmg ∧ ∃ channel, piece = .notified channel
  · obtain ⟨rfl, channel, rfl⟩ := hhandled
    have heq := faultmgNotified_eq channel reading.mr0 memory.inputBuffer memory.faultmg
    have haccount : (performPiece .faultmg (.notified channel) reading
        memory).memory.faultmg.account = (faultmgNotified channel reading.mr0
          memory.inputBuffer memory.faultmg).memory.account := rfl
    rw [haccount, heq, requestsHandled]
    cases faultRequest? channel reading.mr0 memory.inputBuffer with
    | none => rfl
    | some request => exact (step_account memory.faultmg request).symm
  · rw [requestsHandled_elsewhere hhandled]
    have houtcome := performPiece_outcome reading hruns hsafe.line hsafe.lamps
    generalize performPiece domain piece reading memory = effect at houtcome ⊢
    cases houtcome with
    | requestIgnored => exact absurd ⟨rfl, _, rfl⟩ hhandled
    | requestHandled channel request _ => exact absurd ⟨rfl, _, rfl⟩ hhandled
    | _ => rfl

/-- faultmg's own state is the outcome of the requests it has handled. -/
theorem faultAccount_run (regions : BoardRegions) (events : List BoardEvent) :
    (run BoardEvent.step (boardInit regions) events).memory.faultmg.account =
      (run FaultRequest.step (faultmgInit regions.shmem regions.faultModeSlot).memory
        ((outputs BoardEvent.step (recorded requestsHandled) (boardInit regions)
          events).map Prod.snd)).account := by
  have haccount : (run BoardEvent.step (boardInit regions) events).memory.faultmg.account =
      run FaultAccount.charge (boardInit regions).memory.faultmg.account
        ((outputs BoardEvent.step (recorded requestsHandled) (boardInit regions)
          events).filterMap (some ∘ Prod.snd)) := by
    refine account_run board_closed (boardInit_sound regions)
      (fun memory => memory.faultmg.account) (some ∘ Prod.snd) ?_ events
    intro domain piece reading memory hruns hsafe
    rw [List.filterMap_eq_map]
    exact faultAccount_performed hruns hsafe reading
  rw [haccount, List.filterMap_eq_map]
  exact run_simulation FaultmgMemory.account step_account
    (faultmgInit regions.shmem regions.faultModeSlot).memory _

/-- The request, if it came from commandin. -/
def fromCommandin? (entry : MicrokitChannel × FaultRequest) : Option FaultRequest :=
  if entry.1 = LightCh.faultmgFromCommandin then some entry.2 else none

/-- The message register counts only for lightctl's reports. -/
theorem faultRequest?_fromCommandin (channel : MicrokitChannel) (mr0 : UInt64)
    (message : LightTransportMessage) :
    ((faultRequest? channel mr0 message).toList.map (channel, ·)).filterMap
        fromCommandin? =
      if channel = LightCh.faultmgFromCommandin then (faultRead? message).toList else [] := by
  have hchannel : LightCh.faultmgFromCommandin ≠ LightCh.faultmgFromLightctl := by
    decide
  split_ifs with hsame
  · subst hsame
    have hregister : faultRequest? LightCh.faultmgFromCommandin mr0 message =
        faultRead? message := by
      simp only [faultRead?, faultRequest?, if_neg hchannel]
    rw [hregister]
    cases faultRead? message <;> simp [fromCommandin?]
  · cases faultRequest? channel mr0 message <;> simp [fromCommandin?, hsame]

/-- The requests from commandin are those of the messages faultmg reads. -/
theorem outputs_fromCommandin (state : BoardState) (events : List BoardEvent) :
    (outputs BoardEvent.step (recorded requestsHandled) state events).filterMap
        fromCommandin? =
      (outputs BoardEvent.step (recorded (messagesRead .faultmg)) state events).filterMap
        faultRead? := by
  rw [outputs_filterMap, outputs_filterMap]
  congr 1
  funext current event
  cases event with
  | advance domain reading =>
      cases hscript : current.script domain with
      | nil => simp [recorded, hscript]
      | cons piece rest =>
          simp only [recorded, hscript, List.head?_cons, Option.elim_some]
          by_cases hfaultmg : domain = .faultmg ∧ ∃ channel, piece = .notified channel
          · obtain ⟨rfl, channel, rfl⟩ := hfaultmg
            rw [requestsHandled, faultRequest?_fromCommandin, messagesRead]
            by_cases hsame : channel = LightCh.faultmgFromCommandin
            · subst hsame
              rw [if_pos rfl, if_pos ⟨rfl, rfl⟩, List.filterMap_cons,
                List.filterMap_nil]
              cases faultRead? current.memory.inputBuffer <;> rfl
            · rw [if_neg hsame, if_neg]
              · rfl
              · rintro ⟨-, hpiece⟩
                exact hsame (BoardPiece.notified.inj hpiece)
          · have hnone : messagesRead .faultmg domain piece reading current.memory = [] :=
              if_neg fun h => hfaultmg ⟨h.1, _, h.2⟩
            rw [hnone, requestsHandled_elsewhere hfaultmg]
            rfl
  | _ => rfl

/-- What does not come from commandin is a report of lightctl. -/
def HasSource (entry : MicrokitChannel × FaultRequest) : Prop :=
  entry.1 = LightCh.faultmgFromCommandin ∨
    entry.1 = LightCh.faultmgFromLightctl ∧ ∃ errorCode, entry.2 = .report errorCode

theorem faultRequest?_source {channel : MicrokitChannel} {mr0 : UInt64}
    {message : LightTransportMessage} {request : FaultRequest}
    (h : faultRequest? channel mr0 message = some request) :
    HasSource (channel, request) := by
  rw [faultRequest?] at h
  split_ifs at h with hlightctl hcommandin hinject hclear
  · exact Or.inr ⟨hlightctl, _, (Option.some.inj h).symm⟩
  · exact Or.inl (not_not.mp hcommandin)
  · exact Or.inl (not_not.mp hcommandin)

theorem requestsHandled_sources (state : BoardState) (events : List BoardEvent) :
    ∀ entry ∈ outputs BoardEvent.step (recorded requestsHandled) state events,
      HasSource entry := by
  refine (forall_outputs_iff _ events).mpr (everyStep_of_invariant (fun _ => True)
    (fun _ _ _ => trivial) ?_ _ trivial events)
  rintro current event - entry hentry
  cases event with
  | advance domain reading =>
      cases hscript : current.script domain with
      | nil => simp [recorded, hscript] at hentry
      | cons piece rest =>
          simp only [recorded, hscript, List.head?_cons, Option.elim_some] at hentry
          by_cases hfaultmg : domain = .faultmg ∧ ∃ channel, piece = .notified channel
          · obtain ⟨rfl, channel, rfl⟩ := hfaultmg
            obtain ⟨request, hrequest, rfl⟩ := List.mem_map.mp hentry
            exact faultRequest?_source (Option.mem_toList.mp hrequest)
          · rw [requestsHandled_elsewhere hfaultmg] at hentry
            exact absurd hentry List.not_mem_nil
  | _ => exact absurd hentry List.not_mem_nil

/-- Along every run faultmg's counters, fault state and history number are the
outcome of the requests it handled, each one typed or reported by lightctl. Where
each message was read before the next is completed, the typed ones among them are
exactly the faults and clears typed so far, in order and each once, up to one that
is in the input buffer. -/
theorem board_accounts_faults (regions : BoardRegions) (events : List BoardEvent)
    (hpaced : EveryStep BoardEvent.step Paced (boardInit regions) events) :
    let state := run BoardEvent.step (boardInit regions) events
    let memory := state.memory
    let codes := outputs BoardEvent.step (recorded charactersRead) (boardInit regions)
      events
    let handled := outputs BoardEvent.step (recorded requestsHandled) (boardInit regions)
      events
    let typed := handled.filterMap fromCommandin?
    memory.faultmg.account =
        (run FaultRequest.step (faultmgInit regions.shmem regions.faultModeSlot).memory
          (handled.map Prod.snd)).account ∧
      (∀ entry ∈ handled, HasSource entry) ∧
      (typedFaults codes = typed ∨ ∃ request, faultOf? memory.inputBuffer = some request ∧
        typedFaults codes = typed ++ [request]) ∧
      (InputReceiver.faultmg.Caught state →
        .send LightCh.commandinToFaultmg ∉ state.script .commandin →
          typedFaults codes = typed) := by
  intro state memory codes handled typed
  have htyped : typed = (outputs BoardEvent.step (recorded (messagesRead .faultmg))
      (boardInit regions) events).filterMap faultRead? :=
    outputs_fromCommandin _ events
  obtain ⟨-, hread, hcaught⟩ :=
    messages_delivered (paced_handoff .faultmg) regions hpaced
  refine ⟨faultAccount_run regions events, requestsHandled_sources _ events, ?_, ?_⟩
  · rw [typedFaults_eq, htyped]
    rcases hread with hall | ⟨⟨hpasses, hdestination⟩, hlast⟩
    · rw [hall]
      exact Or.inl rfl
    · have hexpects := (destination?_eq_some_iff _ .faultmg).mp hdestination
      obtain ⟨request, hrequest⟩ : ∃ request, faultOf? memory.inputBuffer = some request := by
        rcases hexpects with hinject | hclear
        · exact ⟨_, if_pos hinject⟩
        · refine ⟨.clear memory.inputBuffer.payload.faultClearScope, ?_⟩
          have hinject : memory.inputBuffer.type ≠ LightTransportMsg.faultInject := by
            rw [hclear]
            decide
          rw [faultOf?, if_neg hinject, if_pos hclear]
      have hfound : faultRead? memory.inputBuffer = some request :=
        (faultRead?_of_dispatchable hpasses).trans hrequest
      have hone : [memory.inputBuffer].filterMap faultRead? = [request] := by
        rw [List.filterMap_cons, hfound, List.filterMap_nil]
      refine Or.inr ⟨request, hrequest, ?_⟩
      rw [hlast, List.filterMap_append, hone]
  · intro hidle hsent
    rw [typedFaults_eq, htyped, hcaught (hidle.underWay (messageParcels_unsent hsent))]

theorem board_accounts_faults_after_clear :
    let memory := (run BoardEvent.step (boardInit zeroRegions) faultEvents).memory
    memory.faultmg.account = (run FaultRequest.step
        (faultmgInit zeroRegions.shmem zeroRegions.faultModeSlot).memory
          [.report LightErr.modeConflict, .clear lightTransportFaultClearAll]).account ∧
      typedFaults [0x21, 0x43] =
        [.report LightErr.modeConflict, .clear lightTransportFaultClearAll] := by
  have hhandled : outputs BoardEvent.step (recorded requestsHandled) (boardInit zeroRegions)
      faultEvents = [(LightCh.faultmgFromCommandin, .report LightErr.modeConflict),
        (LightCh.faultmgFromCommandin, .clear lightTransportFaultClearAll)] := by
    decide +kernel
  have hcodes : outputs BoardEvent.step (recorded charactersRead) (boardInit zeroRegions)
      faultEvents = [0x21, 0x43] := by
    decide +kernel
  have haccounts := board_accounts_faults zeroRegions faultEvents (by decide +kernel)
  simp only [hhandled, hcodes] at haccounts
  refine ⟨haccounts.1, ?_⟩
  exact haccounts.2.2.2 (by decide +kernel) (by decide +kernel)

end Faults

end LightCtrl
