import LightCtrl.Core.Contract
import LightCtrl.Fault.Operations

/-!
`src/domains/faultmg.c`: the protection domain that owns the fault state. Its
handlers return the memory they leave and the channels they notified. The log
output, and the event and taxonomy records computed only for it, are left out.
`g_shmem` is set by `init` before any handler runs, so the null test in
`publish_fault_state` always passes.
-/

namespace LightCtrl

/-- The globals of faultmg and the two regions it publishes to: the shared
memory and the compact mode slot read by gpio. -/
structure FaultmgMemory where
  totalErrorCount : UInt32
  faultState : LightFaultState
  faultHistorySequence : UInt32
  shmem : LightShmem
  faultModeSlot : UInt8
  deriving DecidableEq, Repr

/-- The eight fields of the shared memory that faultmg writes. -/
def publishedFaultFields (shmem : LightShmem) (faultState : LightFaultState)
    (totalErrorCount : UInt32) : LightShmem :=
  { shmem with
    faultMode := faultState.mode.toByte
    faultLifecycle := faultState.lifecycle.toByte
    faultRecoveryTicks := faultState.recoveryTicks
    faultRecoveryElapsedMs := faultState.recoveryElapsedMs
    faultRecoveryWindowMs := lightFaultRecoveryWindowMs
    activeFaultMask := faultState.activeFaultMask
    lastFaultCode := faultState.lastFaultCode
    totalFaultCount := totalErrorCount }

def publishFaultState (memory : FaultmgMemory) : Handled FaultmgMemory where
  memory := { memory with
    shmem := publishedFaultFields memory.shmem memory.faultState
      memory.totalErrorCount
    faultModeSlot := lightFaultModeTransportEncode memory.faultState.mode }
  notified := [LightCh.faultmgToGpio, LightCh.faultmgToScheduler]

def handleFaultEvent (memory : FaultmgMemory) (errorCode : UInt8) :
    Handled FaultmgMemory :=
  publishFaultState { memory with
    totalErrorCount := memory.totalErrorCount + 1
    faultState := (lightFaultModeRecordError memory.faultState errorCode).1
    faultHistorySequence := memory.faultHistorySequence + 1 }

def handleFaultClear (memory : FaultmgMemory) (scope : UInt8) :
    Handled FaultmgMemory :=
  if scope ≠ lightTransportFaultClearAll then ⟨memory, []⟩
  else
    let faultState :=
      if memory.faultState.activeFaultMask ≠ 0 then
        (lightFaultModeClearActive memory.faultState).1
      else if memory.faultState.lifecycle = .recovering then
        (lightFaultModeObserveRecovery memory.faultState).1
      else
        (lightFaultModeClearActive memory.faultState).1
    publishFaultState { memory with
      faultState := faultState
      faultHistorySequence := memory.faultHistorySequence + 1 }

/-- `init`, over whatever the regions held before. -/
def faultmgInit (shmem : LightShmem) (faultModeSlot : UInt8) :
    Handled FaultmgMemory :=
  publishFaultState {
    totalErrorCount := 0
    faultState := lightFaultStateReset
    faultHistorySequence := 0
    shmem := shmem
    faultModeSlot := faultModeSlot }

/-- `notified`. `mr0` is message register zero and `message` the content of
the shared input buffer when the handler reads it. -/
def faultmgNotified (channel : MicrokitChannel) (mr0 : UInt64)
    (message : LightTransportMessage) (memory : FaultmgMemory) :
    Handled FaultmgMemory :=
  if channel = LightCh.faultmgFromLightctl then
    handleFaultEvent memory mr0.toUInt8
  else if channel = LightCh.faultmgFromCommandin then
    if message.type = LightTransportMsg.faultInject then
      if (lightContractCheckTransportMessage message
          LightTransportMsg.faultInject).status ≠ .ok then ⟨memory, []⟩
      else handleFaultEvent memory message.payload.faultErrorCode
    else if message.type = LightTransportMsg.faultClear then
      if (lightContractCheckTransportMessage message
          LightTransportMsg.faultClear).status ≠ .ok then ⟨memory, []⟩
      else handleFaultClear memory message.payload.faultClearScope
    else ⟨memory, []⟩
  else ⟨memory, []⟩

/-- What one call of `notified` asks faultmg to do. -/
inductive FaultRequest where
  | report (errorCode : UInt8)
  | clear (scope : UInt8)
  deriving DecidableEq, Repr

def FaultRequest.handle (memory : FaultmgMemory) :
    FaultRequest → Handled FaultmgMemory
  | .report errorCode => handleFaultEvent memory errorCode
  | .clear scope => handleFaultClear memory scope

/-- The memory after one request, as the step of a machine. -/
def FaultRequest.step (memory : FaultmgMemory) (request : FaultRequest) :
    FaultmgMemory :=
  (request.handle memory).memory

/-- The request a wake-up carries, if it carries one. -/
def faultRequest? (channel : MicrokitChannel) (mr0 : UInt64)
    (message : LightTransportMessage) : Option FaultRequest :=
  if channel = LightCh.faultmgFromLightctl then some (.report mr0.toUInt8)
  else if channel ≠ LightCh.faultmgFromCommandin then none
  else if (lightContractCheckTransportMessage message
      LightTransportMsg.faultInject).status = .ok then
    some (.report message.payload.faultErrorCode)
  else if (lightContractCheckTransportMessage message
      LightTransportMsg.faultClear).status = .ok then
    some (.clear message.payload.faultClearScope)
  else none

/-- Every wake-up either carries one request, which it handles, or changes
nothing and notifies nobody. -/
theorem faultmgNotified_eq (channel : MicrokitChannel) (mr0 : UInt64)
    (message : LightTransportMessage) (memory : FaultmgMemory) :
    faultmgNotified channel mr0 message memory =
      match faultRequest? channel mr0 message with
      | some request => request.handle memory
      | none => ⟨memory, []⟩ := by
  unfold faultmgNotified faultRequest?
  by_cases hlightctl : channel = LightCh.faultmgFromLightctl
  · simp [hlightctl, FaultRequest.handle]
  · by_cases hcommandin : channel = LightCh.faultmgFromCommandin
    · simp only [hcommandin, ne_eq, not_true_eq_false, if_false, if_true,
        transport_check_ok_iff]
      by_cases hinject : message.type = LightTransportMsg.faultInject
      · split_ifs <;> simp_all [FaultRequest.handle]
      · split_ifs <;> simp_all [FaultRequest.handle]
    · simp [hlightctl, hcommandin]

/-- A wake-up either changes nothing and notifies nobody, or publishes and
notifies gpio and the scheduler. -/
theorem faultmgNotified_cases (channel : MicrokitChannel) (mr0 : UInt64)
    (message : LightTransportMessage) (memory : FaultmgMemory) :
    faultmgNotified channel mr0 message memory = ⟨memory, []⟩ ∨
      (faultmgNotified channel mr0 message memory).notified =
        [LightCh.faultmgToGpio, LightCh.faultmgToScheduler] := by
  rw [faultmgNotified_eq]
  cases faultRequest? channel mr0 message with
  | none => exact Or.inl rfl
  | some request =>
      cases request with
      | report errorCode => exact Or.inr rfl
      | clear scope =>
          by_cases hscope : scope = lightTransportFaultClearAll
          · subst hscope
            exact Or.inr rfl
          · left
            simp [FaultRequest.handle, handleFaultClear, hscope]

/-- faultmg writes neither the request nor the vehicle state, and leaves the
published mode equal to its own. -/
theorem faultRequest_step_frame (memory : FaultmgMemory)
    (request : FaultRequest) :
    (request.step memory).shmem.operatorRequest =
        memory.shmem.operatorRequest ∧
      (request.step memory).shmem.vehicleState = memory.shmem.vehicleState ∧
      (memory.shmem.faultMode = memory.faultState.mode.toByte →
        (request.step memory).shmem.faultMode =
          (request.step memory).faultState.mode.toByte) := by
  cases request with
  | report errorCode => exact ⟨rfl, rfl, fun _ => rfl⟩
  | clear scope =>
      by_cases hscope : scope = lightTransportFaultClearAll
      · subst hscope
        exact ⟨rfl, rfl, fun _ => rfl⟩
      · simp [FaultRequest.step, FaultRequest.handle, handleFaultClear, hscope]

end LightCtrl
