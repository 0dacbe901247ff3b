import LightCtrl.Core.FaultMode
import LightCtrl.Core.Transport

/-!
`src/core/light_contract.c`: the checks on transport messages, on the published
fault fields and on the shared memory that holds them, and the channel table.
A check reports the first field that fails, with the value it expected.
-/

namespace LightCtrl

inductive LightContractStatus where
  | ok
  | null
  | layoutMismatch
  | transportVersion
  | transportType
  | transportLength
  | faultMode
  | faultLifecycle
  | faultRecovery
  | faultMask
  deriving DecidableEq, Repr

structure LightContractCheck where
  status : LightContractStatus
  expected : UInt32
  actual : UInt32
  deriving DecidableEq, Repr

def lightFaultActiveMaskAll : UInt8 := 0x0f

def faultModeIsValid (mode : UInt8) : Bool := mode ≤ FaultMode.safeMode.toByte

def faultLifecycleIsValid (lifecycle : UInt8) : Bool :=
  lifecycle ≤ LightFaultLifecycle.recovering.toByte

def expectedTransportLen (type : UInt8) : UInt8 :=
  if type = LightTransportMsg.lightCmd then sizeofByteMember
  else if type = LightTransportMsg.vehicleStateUpdate then
    sizeofVehicleStateRequest
  else if type = LightTransportMsg.faultInject then sizeofByteMember
  else if type = LightTransportMsg.query then sizeofByteMember
  else if type = LightTransportMsg.faultClear then sizeofByteMember
  else 0

def lightContractCheckTransportMessage (message : LightTransportMessage)
    (expectedType : UInt8) : LightContractCheck :=
  if message.version ≠ lightTransportVersion then
    ⟨.transportVersion, lightTransportVersion.toUInt32, message.version.toUInt32⟩
  else if message.type ≠ expectedType then
    ⟨.transportType, expectedType.toUInt32, message.type.toUInt32⟩
  else
    let expectedLen := expectedTransportLen expectedType
    if expectedLen = 0 ∨ message.len ≠ expectedLen then
      ⟨.transportLength, expectedLen.toUInt32, message.len.toUInt32⟩
    else ⟨.ok, 0, 0⟩

def lightContractCheckFaultSnapshot (mode lifecycle recoveryTicks : UInt8)
    (recoveryElapsedMs : UInt32) (activeFaultMask : UInt8) :
    LightContractCheck :=
  if !faultModeIsValid mode then
    ⟨.faultMode, FaultMode.safeMode.toByte.toUInt32, mode.toUInt32⟩
  else if !faultLifecycleIsValid lifecycle then
    ⟨.faultLifecycle, LightFaultLifecycle.recovering.toByte.toUInt32,
      lifecycle.toUInt32⟩
  else if recoveryTicks.toUInt32 > lightFaultRecoveryWindowTicks then
    ⟨.faultRecovery, lightFaultRecoveryWindowTicks, recoveryTicks.toUInt32⟩
  else if recoveryElapsedMs > lightFaultRecoveryWindowMs then
    ⟨.faultRecovery, lightFaultRecoveryWindowMs, recoveryElapsedMs⟩
  else if activeFaultMask &&& ~~~ lightFaultActiveMaskAll ≠ 0 then
    ⟨.faultMask, lightFaultActiveMaskAll.toUInt32, activeFaultMask.toUInt32⟩
  else ⟨.ok, 0, 0⟩

/-- `none` is the null pointer. -/
def lightContractCheckSharedState : Option LightShmem → LightContractCheck
  | none => ⟨.null, 0, 0⟩
  | some shmem =>
      if shmem.layoutVersion ≠ lightSharedStateLayoutCurrent then
        ⟨.layoutMismatch, lightSharedStateLayoutCurrent, shmem.layoutVersion⟩
      else
        lightContractCheckFaultSnapshot shmem.faultMode shmem.faultLifecycle
          shmem.faultRecoveryTicks shmem.faultRecoveryElapsedMs
          shmem.activeFaultMask

/-- The case labels of `light_contract_channel_is_known`. -/
def knownChannels : List MicrokitChannel :=
  [LightCh.commandinUartIrq, LightCh.gpioToLightctl, LightCh.lightctlFromGpio,
    LightCh.commandinToScheduler, LightCh.schedulerFromCommandin,
    LightCh.faultmgFromLightctl, LightCh.lightctlToFaultmg,
    LightCh.faultmgToGpio, LightCh.gpioFromFaultmg, LightCh.schedulerToLightctl,
    LightCh.lightctlFromScheduler, LightCh.commandinToFaultmg,
    LightCh.faultmgFromCommandin, LightCh.schedulerFromFaultmg,
    LightCh.faultmgToScheduler, LightCh.schedulerFromVehicleState,
    LightCh.vehicleStateToScheduler, LightCh.commandinToVehicleState,
    LightCh.vehicleStateFromCommandin] ++
  gpioActions.map GpioAction.channel

def lightContractChannelIsKnown (channel : UInt32) : Bool :=
  knownChannels.contains channel.toNat

/-- The transport check passes exactly on messages with the current version,
the expected type and that type's length. -/
theorem transport_check_ok_iff (message : LightTransportMessage)
    (expectedType : UInt8) :
    (lightContractCheckTransportMessage message expectedType).status = .ok ↔
      message.version = lightTransportVersion ∧ message.type = expectedType ∧
        expectedTransportLen expectedType ≠ 0 ∧
        message.len = expectedTransportLen expectedType := by
  unfold lightContractCheckTransportMessage
  by_cases hversion : message.version = lightTransportVersion
  · by_cases htype : message.type = expectedType
    · by_cases hlen : expectedTransportLen expectedType = 0 ∨
          message.len ≠ expectedTransportLen expectedType
      · simp only [hversion, htype, hlen, ne_eq, not_true_eq_false, if_false,
          if_true, true_and]
        constructor
        · intro h
          cases h
        · rintro ⟨hne, heq⟩
          rcases hlen with h | h
          · exact absurd h hne
          · exact absurd heq h
      · obtain ⟨hne, heq⟩ := not_or.mp hlen
        simp [hversion, htype, hne, not_not.mp heq]
    · simp [hversion, htype]
  · simp [hversion]

end LightCtrl
