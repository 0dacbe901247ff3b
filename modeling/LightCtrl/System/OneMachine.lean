import LightCtrl.System.TypedText

/-!
What the board is for: one machine that takes the typed messages, and lightctl's
reports, one after the other. The six domains share their work and preempt each
other, but where the messages are delivered, some order of these inputs accounts
for everything the board keeps, and it has the messages as they were typed.
-/

namespace LightCtrl

open Runs Preemption

section Machine

structure BoardAccount where
  operatorRequest : LightOperatorRequest
  vehicleState : LightVehicleState
  faults : FaultAccount
  deriving DecidableEq, Repr

inductive BoardInput where
  | typed (message : LightTransportMessage)
  | reported (errorCode : UInt8)
  deriving DecidableEq, Repr

def BoardInput.message? : BoardInput → Option LightTransportMessage
  | .typed message => some message
  | .reported _ => none

def BoardInput.report? : BoardInput → Option UInt8
  | .typed _ => none
  | .reported errorCode => some errorCode

/-- What faultmg has to handle of an input. -/
def BoardInput.fault? : BoardInput → Option FaultRequest
  | .typed message => faultOf? message
  | .reported errorCode => some (.report errorCode)

def BoardAccount.take (account : BoardAccount) (input : BoardInput) : BoardAccount where
  operatorRequest := ((input.message?.bind commandOf?).elim account.operatorRequest
    (operatorStep account.operatorRequest))
  vehicleState := ((input.message?.bind updateOf?).elim account.vehicleState
    (vehicleStep account.vehicleState))
  faults := input.fault?.elim account.faults account.faults.charge

def boardAccountInit : BoardAccount where
  operatorRequest := lightOperatorRequestInit
  vehicleState := lightVehicleStateDefault
  faults := ⟨0, lightFaultStateReset, 0⟩

/-- What the lamps are to show. -/
def BoardAccount.target (account : BoardAccount) : LightTargetState :=
  arbitratedState account.operatorRequest account.vehicleState
    account.faults.faultState.mode.toByte

/-- The account over `inputs`, part by part. -/
theorem account_parts (account : BoardAccount) (inputs : List BoardInput) :
    run BoardAccount.take account inputs =
      { operatorRequest := run operatorStep account.operatorRequest
          ((inputs.filterMap BoardInput.message?).filterMap commandOf?)
        vehicleState := run vehicleStep account.vehicleState
          ((inputs.filterMap BoardInput.message?).filterMap updateOf?)
        faults := run FaultAccount.charge account.faults
          (inputs.filterMap BoardInput.fault?) } := by
  have hrequest : (run BoardAccount.take account inputs).operatorRequest =
      run operatorStep account.operatorRequest
        (inputs.filterMap fun input => input.message?.bind commandOf?) :=
    run_part BoardAccount.operatorRequest _ (fun _ _ => rfl) account inputs
  have hvehicle : (run BoardAccount.take account inputs).vehicleState =
      run vehicleStep account.vehicleState
        (inputs.filterMap fun input => input.message?.bind updateOf?) :=
    run_part BoardAccount.vehicleState _ (fun _ _ => rfl) account inputs
  have hfaults : (run BoardAccount.take account inputs).faults =
      run FaultAccount.charge account.faults (inputs.filterMap BoardInput.fault?) :=
    run_part BoardAccount.faults _ (fun _ _ => rfl) account inputs
  rw [List.filterMap_filterMap, List.filterMap_filterMap, ← hrequest, ← hvehicle, ← hfaults]

end Machine

section Order

theorem filterMap_typed (messages : List LightTransportMessage) :
    (messages.map BoardInput.typed).filterMap BoardInput.message? = messages := by
  simp [List.filterMap_map, Function.comp_def, BoardInput.message?]

def reportOf? : MicrokitChannel × FaultRequest → Option UInt8
  | (channel, .report errorCode) =>
      if channel = LightCh.faultmgFromLightctl then some errorCode else none
  | (_, .clear _) => none

/-- The order in which faultmg handled its requests extends to all the messages:
those it has nothing to do with keep their places between the others. -/
theorem inputs_ordered (handled : List (MicrokitChannel × FaultRequest))
    (messages : List LightTransportMessage)
    (hsource : ∀ entry ∈ handled, HasSource entry)
    (hfaults : messages.filterMap faultOf? = handled.filterMap fromCommandin?) :
    ∃ inputs : List BoardInput,
      inputs.filterMap BoardInput.message? = messages ∧
        inputs.filterMap BoardInput.report? = handled.filterMap reportOf? ∧
          inputs.filterMap BoardInput.fault? = handled.map Prod.snd := by
  induction handled generalizing messages with
  | nil =>
      refine ⟨messages.map .typed, filterMap_typed messages, ?_, ?_⟩
      · simp [List.filterMap_map, Function.comp_def, BoardInput.report?]
      · simpa [List.filterMap_map, Function.comp_def, BoardInput.fault?] using hfaults
  | cons entry rest ih =>
      obtain ⟨hentry, hrest⟩ := List.forall_mem_cons.mp hsource
      obtain ⟨channel, request⟩ := entry
      rcases hentry with hcommandin | ⟨hlightctl, errorCode, hreport⟩
      · simp only at hcommandin
        subst hcommandin
        -- The message of this request; the ones before it concern others.
        rw [List.filterMap_cons, fromCommandin?, if_pos rfl] at hfaults
        obtain ⟨before, message, after, rfl, hbefore, hmessage, hafter⟩ :=
          List.filterMap_eq_cons_iff.mp hfaults
        obtain ⟨inputs, hmessages, hreports, hhandled⟩ := ih after hrest hafter
        refine ⟨before.map .typed ++ .typed message :: inputs, ?_, ?_, ?_⟩
        · rw [List.filterMap_append, filterMap_typed]
          exact congrArg (before ++ message :: ·) hmessages
        · have hother : reportOf? (LightCh.faultmgFromCommandin, request) = none := by
            cases request <;> rfl
          simp [List.filterMap_map, Function.comp_def, List.filterMap_cons, BoardInput.report?,
            hreports, hother]
        · simpa [List.filterMap_map, Function.comp_def, BoardInput.fault?, hmessage,
            hhandled] using hbefore
      · simp only at hlightctl hreport
        subst hlightctl hreport
        obtain ⟨inputs, hmessages, hreports, hhandled⟩ := ih messages hrest hfaults
        refine ⟨.reported errorCode :: inputs, hmessages, ?_, ?_⟩
        · simp [BoardInput.report?, reportOf?, hreports]
        · simp [BoardInput.fault?, hhandled]

/-- Inputs without a report are the messages alone. -/
theorem inputs_of_no_report {inputs : List BoardInput} {messages : List LightTransportMessage}
    (hmessages : inputs.filterMap BoardInput.message? = messages)
    (hreports : inputs.filterMap BoardInput.report? = []) :
    inputs = messages.map .typed := by
  subst hmessages
  induction inputs with
  | nil => rfl
  | cons input rest ih =>
      cases input with
      | typed message => exact congrArg (.typed message :: ·) (ih hreports)
      | reported errorCode => cases hreports

end Order

section Board

def BoardMemory.account (memory : BoardMemory) : BoardAccount where
  operatorRequest := memory.shmem.operatorRequest
  vehicleState := memory.shmem.vehicleState
  faults := memory.faultmg.account

variable {regions : BoardRegions} {events : List BoardEvent}

/-- The order of the inputs that accounts for what the board has kept. -/
theorem account_at_rest
    (hpaced : EveryStep BoardEvent.step Paced (boardInit regions) events)
    (hrest : Resting (run BoardEvent.step (boardInit regions) events)) :
    ∃ inputs : List BoardInput,
      inputs.filterMap BoardInput.message? = typedMessages (outputs BoardEvent.step
          (recorded charactersRead) (boardInit regions) events) ∧
        inputs.filterMap BoardInput.report? = (outputs BoardEvent.step
          (recorded requestsHandled) (boardInit regions) events).filterMap reportOf? ∧
        (run BoardEvent.step (boardInit regions) events).memory.account =
          run BoardAccount.take boardAccountInit inputs := by
  set memory := (run BoardEvent.step (boardInit regions) events).memory
  set messages := typedMessages (outputs BoardEvent.step (recorded charactersRead)
    (boardInit regions) events)
  have hread := fun receiver => messages_read_at_rest receiver hpaced hrest
  have hrequest : memory.shmem.operatorRequest =
      run operatorStep lightOperatorRequestInit (messages.filterMap commandOf?) :=
    operatorRequest_of_read (hread .scheduler)
  have hvehicle : memory.shmem.vehicleState =
      run vehicleStep lightVehicleStateDefault (messages.filterMap updateOf?) :=
    vehicleState_of_read (hread .vehicleState)
  have hfaults : messages.filterMap faultOf? = (outputs BoardEvent.step
      (recorded requestsHandled) (boardInit regions) events).filterMap fromCommandin? := by
    rw [outputs_fromCommandin, ← hread, ← typedFaults_eq]
    rfl
  obtain ⟨inputs, hordered, hreports, hhandled⟩ := inputs_ordered _ messages
    (requestsHandled_sources _ events) hfaults
  have hcharged : memory.faultmg.account = run FaultAccount.charge boardAccountInit.faults
      (inputs.filterMap BoardInput.fault?) := by
    rw [hhandled]
    refine (faultAccount_run regions events).trans ?_
    exact (run_simulation FaultmgMemory.account step_account _ _).symm
  refine ⟨inputs, hordered, hreports, ?_⟩
  rw [account_parts, hordered, ← hcharged]
  exact congrArg₂ (BoardAccount.mk · · memory.faultmg.account) hrequest hvehicle

/-- Along every run in which each message was read before the next is completed,
however the domains interleave: wherever the board rests, it stands as one machine
that took the typed messages in their order, with lightctl's reports in theirs in
between; the published target and the lamps are that machine's. So with no report
the typed text alone decides how the board comes to rest. -/
theorem board_rests_as_one_machine (regions : BoardRegions) (events : List BoardEvent)
    (hpaced : EveryStep BoardEvent.step Paced (boardInit regions) events)
    (hrest : Resting (run BoardEvent.step (boardInit regions) events)) :
    let memory := (run BoardEvent.step (boardInit regions) events).memory
    let messages := typedMessages (outputs BoardEvent.step (recorded charactersRead)
      (boardInit regions) events)
    let reports := (outputs BoardEvent.step (recorded requestsHandled) (boardInit regions)
      events).filterMap reportOf?
    (∃ inputs : List BoardInput,
      inputs.filterMap BoardInput.message? = messages ∧
        inputs.filterMap BoardInput.report? = reports ∧
          memory.account = run BoardAccount.take boardAccountInit inputs) ∧
      (reports = [] → memory.account =
        run BoardAccount.take boardAccountInit (messages.map .typed)) ∧
      BoardAgrees memory ∧
      memory.shmem.targetOutput = targetOutputFromState memory.account.target ∧
      memory.lightctl.executionState = memory.account.target.wanted.toExecution := by
  intro memory messages reports
  obtain ⟨inputs, hmessages, hreports, hinputs⟩ := account_at_rest hpaced hrest
  have hagrees := resting_agrees regions events hrest
  refine ⟨⟨inputs, hmessages, hreports, hinputs⟩, ?_, hagrees, hagrees.targetOutput,
    hagrees.lamps⟩
  intro hnone
  rw [← inputs_of_no_report hmessages (hreports.trans hnone)]
  exact hinputs

/-- `B` and `speed=50` bring the board to rest where these two messages say. -/
theorem board_rests_as_one_machine_after_speed :
    (run BoardEvent.step (boardInit zeroRegions) speedEvents).memory.account =
      { boardAccountInit with
        operatorRequest := operatorRequestAfter [LightCmd.brakeOn]
        vehicleState := { lightVehicleStateDefault with speedKph := 50 } } := by
  have hrest : Resting (run BoardEvent.step (boardInit zeroRegions) speedEvents) := by
    refine ⟨?_, ?_, ?_⟩ <;> decide +kernel
  have hmachine := board_rests_as_one_machine zeroRegions speedEvents (by decide +kernel)
    hrest
  refine (hmachine.2.1 (by decide +kernel)).trans ?_
  decide +kernel

end Board

end LightCtrl
