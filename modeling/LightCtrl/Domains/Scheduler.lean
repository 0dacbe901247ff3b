import LightCtrl.Core.Contract
import LightCtrl.Core.ControlLogic

/-!
`src/domains/scheduler.c`: the protection domain that owns the operator
request and publishes target outputs. The shared-state contract check in
`init` is only logged and is left out.
-/

namespace LightCtrl

def recomputeTargetOutput (shmem : LightShmem) : LightShmem :=
  let targetOutput := lightControlComputeTargetOutput shmem.operatorRequest
    shmem.vehicleState shmem.faultMode
  { shmem with
    targetOutput := targetOutput
    allowFlags := lightTargetOutputToAllowFlags targetOutput
    vehicleSpeed := shmem.vehicleState.speedKph }

/-- The six fields `init` compares with zero to see whether the vehicle state
has been written yet. `hazard` is not among them. -/
def vehicleStateLooksUnset (vehicleState : LightVehicleState) : Bool :=
  vehicleState.ignitionOn = 0 && vehicleState.speedKph = 0
    && vehicleState.brakePedal = 0 && vehicleState.gear = 0
    && vehicleState.ambientLight = 0 && vehicleState.driveMode = 0

/-- `init`, over whatever the shared memory held. -/
def schedulerInit (shmem : LightShmem) : LightShmem :=
  recomputeTargetOutput { shmem with
    layoutVersion := lightSharedStateLayoutCurrent
    uartCmd := lightUartCmdInvalid
    faultLifecycle := LightFaultLifecycle.stable.toByte
    faultRecoveryTicks := 0
    faultRecoveryElapsedMs := 0
    faultRecoveryWindowMs := lightFaultRecoveryWindowMs
    activeFaultMask := 0
    lastFaultCode := 0
    totalFaultCount := 0
    operatorRequest := lightOperatorRequestInit
    vehicleState :=
      if vehicleStateLooksUnset shmem.vehicleState then lightVehicleStateDefault
      else shmem.vehicleState
    faultMode := FaultMode.normal.toByte
    targetOutput := lightTargetOutputInit }

/-- `notified`. `message` is the content of the shared input buffer when the
handler reads it. -/
def schedulerNotified (channel : MicrokitChannel)
    (message : LightTransportMessage) (shmem : LightShmem) :
    Handled LightShmem :=
  if channel = LightCh.schedulerFromCommandin then
    if (lightContractCheckTransportMessage message
        LightTransportMsg.lightCmd).status ≠ .ok then ⟨shmem, []⟩
    else
      let result := lightControlApplyOperatorCommand shmem.operatorRequest
        message.payload.lightCmd
      if result.accepted then
        { memory := recomputeTargetOutput { shmem with
            operatorRequest := result.nextRequest
            uartCmd := message.payload.lightCmd }
          notified :=
            if result.notify then [LightCh.schedulerToLightctl] else [] }
      else ⟨shmem, []⟩
  else if channel = LightCh.schedulerFromFaultmg
      ∨ channel = LightCh.schedulerFromVehicleState then
    ⟨recomputeTargetOutput shmem, [LightCh.schedulerToLightctl]⟩
  else ⟨shmem, []⟩

theorem recomputeTargetOutput_idem (shmem : LightShmem) :
    recomputeTargetOutput (recomputeTargetOutput shmem) =
      recomputeTargetOutput shmem := rfl

/-- An accepted command always asks for a notification. -/
theorem operatorCommand_notify (request : LightOperatorRequest) (cmd : UInt8)
    (haccepted : (lightControlApplyOperatorCommand request cmd).accepted = true) :
    (lightControlApplyOperatorCommand request cmd).notify = true := by
  unfold lightControlApplyOperatorCommand at haccepted ⊢
  split at haccepted
  · rfl
  · simp at haccepted

/-- A wake-up by commandin either changes nothing and notifies nobody, or
leaves the targets recomputed and notifies lightctl. -/
theorem schedulerNotified_commandin_cases (message : LightTransportMessage)
    (shmem : LightShmem) :
    schedulerNotified LightCh.schedulerFromCommandin message shmem =
        ⟨shmem, []⟩ ∨
      ∃ changed, schedulerNotified LightCh.schedulerFromCommandin message shmem =
        ⟨recomputeTargetOutput changed, [LightCh.schedulerToLightctl]⟩ := by
  unfold schedulerNotified
  rw [if_pos rfl]
  split_ifs with hcontract
  · exact Or.inl rfl
  · cases haccepted : (lightControlApplyOperatorCommand shmem.operatorRequest
        message.payload.lightCmd).accepted with
    | false =>
        left
        simp [haccepted]
    | true =>
        right
        have hnotify := operatorCommand_notify _ _ haccepted
        simp only [haccepted, hnotify, if_true]
        exact ⟨_, rfl⟩

/-- A wake-up by faultmg or vehicle_state always recomputes and notifies. -/
theorem schedulerNotified_source {channel : MicrokitChannel}
    (hchannel : channel = LightCh.schedulerFromFaultmg ∨
      channel = LightCh.schedulerFromVehicleState)
    (message : LightTransportMessage) (shmem : LightShmem) :
    schedulerNotified channel message shmem =
      ⟨recomputeTargetOutput shmem, [LightCh.schedulerToLightctl]⟩ := by
  rcases hchannel with rfl | rfl <;> rfl

end LightCtrl
