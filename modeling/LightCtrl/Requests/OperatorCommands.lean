import LightCtrl.Domains.Scheduler
import LightCtrl.Library.LastWrite

/-!
The operator request after a sequence of command bytes. Each of its fields is
a register: some opcodes set it, some clear it, and every other byte leaves
it alone. LOW_OFF clears two fields and a turn command clears the request of
the other side, so a field may be written by opcodes of another lamp.
-/

namespace LightCtrl

open Runs LastWrite

/-- One command of the sequence: the next request is kept only when the
command was accepted. -/
def operatorStep (request : LightOperatorRequest) (cmd : UInt8) :
    LightOperatorRequest :=
  let result := lightControlApplyOperatorCommand request cmd
  if result.accepted then result.nextRequest else request

/-- The request after the commands, from `light_operator_request_init`. -/
def operatorRequestAfter (commands : List UInt8) : LightOperatorRequest :=
  run operatorStep lightOperatorRequestInit commands

/-- The last command that is one of the opcodes. -/
def lastOf (opcodes : List UInt8) (commands : List UInt8) : Option UInt8 :=
  lastRelevant (fun cmd => opcodes.contains cmd) commands

def operatorOpcodes : List UInt8 :=
  [LightCmd.lowBeamOff, LightCmd.lowBeamOn, LightCmd.highBeamOff,
    LightCmd.highBeamOn, LightCmd.leftTurnOff, LightCmd.leftTurnOn,
    LightCmd.rightTurnOff, LightCmd.rightTurnOn, LightCmd.positionOff,
    LightCmd.positionOn, LightCmd.brakeOff, LightCmd.brakeOn]

theorem operatorCommand_unknown (request : LightOperatorRequest) {cmd : UInt8}
    (hunknown : cmd ∉ operatorOpcodes) :
    lightControlApplyOperatorCommand request cmd =
      ⟨cmd, request, false, false, .invalidCmd⟩ := by
  simp only [operatorOpcodes, List.mem_cons, not_or] at hunknown
  obtain ⟨h0, h1, h2, h3, h4, h5, h6, h7, h8, h9, h10, h11, -⟩ := hunknown
  simp only [lightControlApplyOperatorCommand, commandedRequest?, h0, h1, h2, h3,
    h4, h5, h6, h7, h8, h9, h10, h11, if_false]

theorem operatorStep_unknown (request : LightOperatorRequest) {cmd : UInt8}
    (hunknown : cmd ∉ operatorOpcodes) : operatorStep request cmd = request := by
  simp [operatorStep, operatorCommand_unknown request hunknown]

/-- The scheduler's handler takes the step for a message that passes its
check, and recomputes the targets only then. -/
theorem schedulerNotified_operatorRequest (message : LightTransportMessage)
    (shmem : LightShmem) :
    (schedulerNotified LightCh.schedulerFromCommandin message
        shmem).memory.operatorRequest =
      if (lightContractCheckTransportMessage message
          LightTransportMsg.lightCmd).status ≠ .ok then shmem.operatorRequest
      else operatorStep shmem.operatorRequest message.payload.lightCmd := by
  rw [schedulerNotified, if_pos rfl]
  unfold operatorStep
  split_ifs with hcontract
  · rfl
  · cases haccepted : (lightControlApplyOperatorCommand shmem.operatorRequest
        message.payload.lightCmd).accepted with
    | true => simp [haccepted, recomputeTargetOutput]
    | false => simp [haccepted]

/-- The scheduler ignores a message whose command is no opcode. -/
theorem schedulerNotified_unknown (message : LightTransportMessage)
    (shmem : LightShmem) (hunknown : message.payload.lightCmd ∉ operatorOpcodes) :
    schedulerNotified LightCh.schedulerFromCommandin message shmem =
      ⟨shmem, []⟩ := by
  rw [schedulerNotified, if_pos rfl]
  split_ifs with hcontract
  · rfl
  · simp [operatorCommand_unknown shmem.operatorRequest hunknown]

/-- On any channel: the handler changes nothing and notifies nobody, or it
recomputes the targets, for the next request on commandin's channel and for the
same one on every other. -/
theorem schedulerNotified_outcome (channel : MicrokitChannel)
    (message : LightTransportMessage) (shmem : LightShmem) :
    schedulerNotified channel message shmem = ⟨shmem, []⟩ ∨
      ∃ request uartCmd,
        (request = shmem.operatorRequest ∨
          channel = LightCh.schedulerFromCommandin ∧
            request = operatorStep shmem.operatorRequest message.payload.lightCmd) ∧
        schedulerNotified channel message shmem =
          ⟨recomputeTargetOutput
              { shmem with operatorRequest := request, uartCmd := uartCmd },
            [LightCh.schedulerToLightctl]⟩ := by
  unfold schedulerNotified
  by_cases hchannel : channel = LightCh.schedulerFromCommandin
  · rw [if_pos hchannel]
    split_ifs with hcontract
    · exact Or.inl rfl
    · cases haccepted : (lightControlApplyOperatorCommand shmem.operatorRequest
          message.payload.lightCmd).accepted with
      | false =>
          left
          simp only [haccepted, Bool.false_eq_true, if_false]
      | true =>
          have hnotify := operatorCommand_notify _ _ haccepted
          have hnext : operatorStep shmem.operatorRequest message.payload.lightCmd =
              (lightControlApplyOperatorCommand shmem.operatorRequest
                message.payload.lightCmd).nextRequest := by
            simp only [operatorStep, haccepted, if_true]
          refine Or.inr ⟨_, message.payload.lightCmd, Or.inr ⟨hchannel, rfl⟩, ?_⟩
          simp only [haccepted, hnotify, hnext, if_true]
  · rw [if_neg hchannel]
    split_ifs with hsource
    · exact Or.inr ⟨shmem.operatorRequest, shmem.uartCmd, Or.inl rfl, rfl⟩
    · exact Or.inl rfl

/-- A field of the request that a command of `opcodes` writes: `onCode` sets
it, the others clear it, and no other byte touches it. -/
def CommandedBy (field : LightOperatorRequest → UInt8) (onCode : UInt8)
    (opcodes : List UInt8) : Prop :=
  ∀ request cmd, field (operatorStep request cmd) =
    if opcodes.contains cmd then (if cmd = onCode then 1 else 0)
    else field request

/-- A field only has to be compared on the twelve opcodes. -/
theorem CommandedBy.of_table {field : LightOperatorRequest → UInt8}
    {onCode : UInt8} {opcodes : List UInt8} (hopcodes : opcodes ⊆ operatorOpcodes)
    (htable : ∀ request, operatorOpcodes.Forall fun cmd =>
      field (operatorStep request cmd) =
        if opcodes.contains cmd then (if cmd = onCode then 1 else 0)
        else field request) :
    CommandedBy field onCode opcodes := by
  intro request cmd
  by_cases hknown : cmd ∈ operatorOpcodes
  · exact List.forall_iff_forall_mem.mp (htable request) cmd hknown
  · have hother : opcodes.contains cmd = false := by
      rw [List.contains_eq_mem, decide_eq_false_iff_not]
      exact fun hmember => hknown (hopcodes hmember)
    rw [operatorStep_unknown request hknown, hother, if_neg Bool.false_ne_true]

section After

variable {field : LightOperatorRequest → UInt8} {onCode : UInt8}

theorem CommandedBy.after {opcodes : List UInt8}
    (hfield : CommandedBy field onCode opcodes) (commands : List UInt8) :
    field (operatorRequestAfter commands) =
      ((lastOf opcodes commands).map
        (fun cmd => if cmd = onCode then 1 else 0)).getD
          (field lightOperatorRequestInit) :=
  register_run field hfield lightOperatorRequestInit commands

theorem CommandedBy.after_of_clear {opcodes : List UInt8}
    (hfield : CommandedBy field onCode opcodes)
    (hinit : field lightOperatorRequestInit = 0) (commands : List UInt8) :
    field (operatorRequestAfter commands) =
      if lastOf opcodes commands = some onCode then 1 else 0 := by
  rw [hfield.after, hinit]
  cases lastOf opcodes commands with
  | none => rfl
  | some cmd => simp only [Option.map_some, Option.getD_some, Option.some.injEq]

/-- A field that is set at first stays set until its only clearing opcode. -/
theorem CommandedBy.after_of_set {offCode : UInt8}
    (hfield : CommandedBy field onCode [onCode, offCode])
    (hdistinct : offCode ≠ onCode)
    (hinit : field lightOperatorRequestInit = 1) (commands : List UInt8) :
    field (operatorRequestAfter commands) =
      if lastOf [onCode, offCode] commands = some offCode then 0 else 1 := by
  rw [hfield.after, hinit]
  cases hlast : lastOf [onCode, offCode] commands with
  | none => rfl
  | some cmd =>
      have hcmd : cmd = onCode ∨ cmd = offCode := by
        simpa using (lastRelevant_some hlast).2
      rcases hcmd with rfl | rfl
      · simp [hdistinct.symm]
      · simp [hdistinct]

end After

theorem lowBeamReq_commandedBy :
    CommandedBy (·.lowBeamReq) LightCmd.lowBeamOn
      [LightCmd.lowBeamOn, LightCmd.lowBeamOff] :=
  .of_table (by decide) fun _ =>
    ⟨rfl, rfl, rfl, rfl, rfl, rfl, rfl, rfl, rfl, rfl, rfl, rfl⟩

/-- LOW_OFF also ends a high beam request. -/
theorem highBeamReq_commandedBy :
    CommandedBy (·.highBeamReq) LightCmd.highBeamOn
      [LightCmd.highBeamOn, LightCmd.highBeamOff, LightCmd.lowBeamOff] :=
  .of_table (by decide) fun _ =>
    ⟨rfl, rfl, rfl, rfl, rfl, rfl, rfl, rfl, rfl, rfl, rfl, rfl⟩

theorem leftTurnReq_commandedBy :
    CommandedBy (·.leftTurnReq) LightCmd.leftTurnOn
      [LightCmd.leftTurnOn, LightCmd.leftTurnOff, LightCmd.rightTurnOn] :=
  .of_table (by decide) fun _ =>
    ⟨rfl, rfl, rfl, rfl, rfl, rfl, rfl, rfl, rfl, rfl, rfl, rfl⟩

theorem rightTurnReq_commandedBy :
    CommandedBy (·.rightTurnReq) LightCmd.rightTurnOn
      [LightCmd.rightTurnOn, LightCmd.rightTurnOff, LightCmd.leftTurnOn] :=
  .of_table (by decide) fun _ =>
    ⟨rfl, rfl, rfl, rfl, rfl, rfl, rfl, rfl, rfl, rfl, rfl, rfl⟩

theorem markerReq_commandedBy :
    CommandedBy (·.markerReq) LightCmd.positionOn
      [LightCmd.positionOn, LightCmd.positionOff] :=
  .of_table (by decide) fun _ =>
    ⟨rfl, rfl, rfl, rfl, rfl, rfl, rfl, rfl, rfl, rfl, rfl, rfl⟩

theorem brakeReq_commandedBy :
    CommandedBy (·.brakeReq) LightCmd.brakeOn
      [LightCmd.brakeOn, LightCmd.brakeOff] :=
  .of_table (by decide) fun _ =>
    ⟨rfl, rfl, rfl, rfl, rfl, rfl, rfl, rfl, rfl, rfl, rfl, rfl⟩

/-- A command that asks for one turn direction withdraws the other. -/
theorem operatorStep_turn_exclusive (request : LightOperatorRequest) (cmd : UInt8)
    (hbefore : request.leftTurnReq = 0 ∨ request.rightTurnReq = 0) :
    (operatorStep request cmd).leftTurnReq = 0 ∨
      (operatorStep request cmd).rightTurnReq = 0 := by
  have hleft := leftTurnReq_commandedBy request cmd
  have hright := rightTurnReq_commandedBy request cmd
  simp only at hleft hright
  rw [hleft, hright]
  by_cases hleftOn : cmd = LightCmd.leftTurnOn
  · right
    subst hleftOn
    rfl
  by_cases hrightOn : cmd = LightCmd.rightTurnOn
  · left
    subst hrightOn
    rfl
  simp only [hleftOn, hrightOn, if_false, ite_eq_left_iff]
  exact hbefore.imp (fun h _ => h) fun h _ => h

/-- Every field of the operator request is told by the last command relevant
to it, a byte that is no opcode changes nothing and wakes nobody, and the two
turn requests exclude each other. -/
theorem operatorRequest_last_command (commands : List UInt8) :
    ((operatorRequestAfter commands).lowBeamReq =
        if lastOf [LightCmd.lowBeamOn, LightCmd.lowBeamOff] commands =
          some LightCmd.lowBeamOn then 1 else 0) ∧
      ((operatorRequestAfter commands).highBeamReq =
        if lastOf [LightCmd.highBeamOn, LightCmd.highBeamOff, LightCmd.lowBeamOff]
            commands = some LightCmd.highBeamOn then 1 else 0) ∧
      ((operatorRequestAfter commands).leftTurnReq =
        if lastOf [LightCmd.leftTurnOn, LightCmd.leftTurnOff, LightCmd.rightTurnOn]
            commands = some LightCmd.leftTurnOn then 1 else 0) ∧
      ((operatorRequestAfter commands).rightTurnReq =
        if lastOf [LightCmd.rightTurnOn, LightCmd.rightTurnOff, LightCmd.leftTurnOn]
            commands = some LightCmd.rightTurnOn then 1 else 0) ∧
      ((operatorRequestAfter commands).markerReq =
        if lastOf [LightCmd.positionOn, LightCmd.positionOff] commands =
          some LightCmd.positionOff then 0 else 1) ∧
      ((operatorRequestAfter commands).brakeReq =
        if lastOf [LightCmd.brakeOn, LightCmd.brakeOff] commands =
          some LightCmd.brakeOn then 1 else 0) ∧
      ((operatorRequestAfter commands).leftTurnReq = 0 ∨
        (operatorRequestAfter commands).rightTurnReq = 0) ∧
      (∀ cmd, cmd ∉ operatorOpcodes →
        operatorRequestAfter (commands ++ [cmd]) = operatorRequestAfter commands ∧
          (∀ request, lightControlApplyOperatorCommand request cmd =
            ⟨cmd, request, false, false, .invalidCmd⟩) ∧
          ∀ message shmem, message.payload.lightCmd = cmd →
            schedulerNotified LightCh.schedulerFromCommandin message shmem =
              ⟨shmem, []⟩) := by
  refine ⟨lowBeamReq_commandedBy.after_of_clear rfl commands,
    highBeamReq_commandedBy.after_of_clear rfl commands,
    leftTurnReq_commandedBy.after_of_clear rfl commands,
    rightTurnReq_commandedBy.after_of_clear rfl commands,
    markerReq_commandedBy.after_of_set (by decide) rfl commands,
    brakeReq_commandedBy.after_of_clear rfl commands, ?_, ?_⟩
  · exact run_invariant
      (fun request => request.leftTurnReq = 0 ∨ request.rightTurnReq = 0)
      operatorStep_turn_exclusive lightOperatorRequestInit (Or.inl rfl) commands
  · intro cmd hunknown
    refine ⟨?_, fun request => operatorCommand_unknown request hunknown, ?_⟩
    · rw [operatorRequestAfter, run_concat]
      exact operatorStep_unknown _ hunknown
    · intro message shmem hcmd
      exact schedulerNotified_unknown message shmem (hcmd ▸ hunknown)

end LightCtrl
