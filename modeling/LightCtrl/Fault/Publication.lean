import LightCtrl.Fault.Recovery

/-!
The copies of the fault state. faultmg keeps the state itself and a second
error total, and publishes eight fields to the shared memory and the mode once
more to a compact slot. Every path through `notified` that changes the state
ends in `publish_fault_state`; the others write nothing.
-/

namespace LightCtrl

open Runs

/-- One entry of faultmg's `notified`: the channel, message register zero and
the content of the input buffer. -/
structure FaultmgWakeUp where
  channel : MicrokitChannel
  mr0 : UInt64
  message : LightTransportMessage
  deriving DecidableEq, Repr

def FaultmgWakeUp.handle (memory : FaultmgMemory) (wakeUp : FaultmgWakeUp) :
    Handled FaultmgMemory :=
  faultmgNotified wakeUp.channel wakeUp.mr0 wakeUp.message memory

def FaultmgWakeUp.step (memory : FaultmgMemory) (wakeUp : FaultmgWakeUp) :
    FaultmgMemory :=
  (wakeUp.handle memory).memory

/-- A report of lightctl, or a message of commandin in the current version
and of the right length that injects a fault or clears all of them. -/
def FaultmgWakeUp.Accepted (wakeUp : FaultmgWakeUp) : Prop :=
  wakeUp.channel = LightCh.faultmgFromLightctl ∨
    wakeUp.channel = LightCh.faultmgFromCommandin ∧
      wakeUp.message.version = lightTransportVersion ∧
      wakeUp.message.len = sizeofByteMember ∧
      (wakeUp.message.type = LightTransportMsg.faultInject ∨
        wakeUp.message.type = LightTransportMsg.faultClear ∧
          wakeUp.message.payload.faultClearScope = lightTransportFaultClearAll)

/-- Every published copy agrees with the state faultmg keeps. -/
structure PublishedCoherent (memory : FaultmgMemory) : Prop where
  mode : memory.shmem.faultMode = memory.faultState.mode.toByte
  lifecycle : memory.shmem.faultLifecycle = memory.faultState.lifecycle.toByte
  recoveryTicks :
    memory.shmem.faultRecoveryTicks = memory.faultState.recoveryTicks
  recoveryElapsedMs :
    memory.shmem.faultRecoveryElapsedMs = memory.faultState.recoveryElapsedMs
  activeFaultMask :
    memory.shmem.activeFaultMask = memory.faultState.activeFaultMask
  lastFaultCode : memory.shmem.lastFaultCode = memory.faultState.lastFaultCode
  slot : lightFaultModeTransportLoad memory.faultModeSlot = memory.faultState.mode
  sharedTotal : memory.shmem.totalFaultCount = memory.totalErrorCount
  ownTotal : memory.totalErrorCount = memory.faultState.counters.totalErrors

/-- Publishing makes every copy agree, provided the two totals did. -/
theorem publishedCoherent_publish {memory : FaultmgMemory}
    (htotal : memory.totalErrorCount = memory.faultState.counters.totalErrors) :
    PublishedCoherent (publishFaultState memory).memory where
  mode := rfl
  lifecycle := rfl
  recoveryTicks := rfl
  recoveryElapsedMs := rfl
  activeFaultMask := rfl
  lastFaultCode := rfl
  slot := lightFaultModeTransportDecode_encode memory.faultState.mode
  sharedTotal := rfl
  ownTotal := htotal

theorem publishedCoherent_init (shmem : LightShmem) (faultModeSlot : UInt8) :
    PublishedCoherent (faultmgInit shmem faultModeSlot).memory :=
  publishedCoherent_publish rfl

theorem applyErrorToCounters_totalErrors (counters : FaultCounters)
    (errorCode : UInt8) :
    (applyErrorToCounters counters errorCode).totalErrors =
      counters.totalErrors + 1 := by
  unfold applyErrorToCounters
  split_ifs <;> rfl

theorem observeRecoveryAt_counters (state : LightFaultState) (nowMs : UInt32) :
    (lightFaultModeObserveRecoveryAt state nowMs).1.counters = state.counters := by
  have houtcome := observeRecoveryAt_outcome state nowMs
  generalize (lightFaultModeObserveRecoveryAt state nowMs).1 = next at houtcome ⊢
  cases houtcome with
  | ignored _ => rfl
  | opened _ _ _ => rfl
  | progressed _ _ _ _ => rfl
  | stepped _ => rfl

/-- A clear of all faults resets the active counters and not the totals. -/
theorem clearedState_counters (state : LightFaultState) :
    (clearedState state).counters = state.counters := by
  unfold clearedState
  split_ifs with hmask hrecovering
  · rw [clearActive_of_mask_ne state hmask]
  · rw [observeRecovery_eq, observeRecoveryAt_counters]
    rfl
  · rw [clearActive_of_mask_zero state (not_not.mp hmask)]

/-- The step lemma, for a request of any kind. -/
theorem publishedCoherent_step {memory : FaultmgMemory}
    (h : PublishedCoherent memory) (request : FaultRequest) :
    PublishedCoherent (request.step memory) := by
  have htotal := h.ownTotal
  cases request with
  | report errorCode =>
      apply publishedCoherent_publish
      rw [recordError_counters, applyErrorToCounters_totalErrors, htotal]
  | clear scope =>
      by_cases hscope : scope = lightTransportFaultClearAll
      · subst hscope
        have hcounters := clearedState_counters memory.faultState
        apply publishedCoherent_publish
        exact htotal.trans (congrArg FaultCounters.totalErrors hcounters).symm
      · rw [FaultRequest.step, FaultRequest.handle,
          handleFaultClear_of_other_scope memory hscope]
        exact h

theorem publishedCoherent_notified {memory : FaultmgMemory}
    (h : PublishedCoherent memory) (wakeUp : FaultmgWakeUp) :
    PublishedCoherent (wakeUp.step memory) := by
  rw [FaultmgWakeUp.step, FaultmgWakeUp.handle, faultmgNotified_eq]
  cases faultRequest? wakeUp.channel wakeUp.mr0 wakeUp.message with
  | none => exact h
  | some request => exact publishedCoherent_step h request

/-- A wake-up that is not accepted carries no request, or a clear of a scope
faultmg does not serve. -/
theorem faultRequest?_of_not_accepted {wakeUp : FaultmgWakeUp}
    (h : ¬ wakeUp.Accepted) :
    faultRequest? wakeUp.channel wakeUp.mr0 wakeUp.message = none ∨
      ∃ scope, scope ≠ lightTransportFaultClearAll ∧
        faultRequest? wakeUp.channel wakeUp.mr0 wakeUp.message =
          some (.clear scope) := by
  obtain ⟨hlightctl, hcommandin⟩ := not_or.mp h
  unfold faultRequest?
  rw [if_neg hlightctl]
  split_ifs with hchannel hinject hclear
  · exact Or.inl rfl
  · obtain ⟨hversion, htype, -, hlen⟩ := (transport_check_ok_iff _ _).mp hinject
    exact (hcommandin ⟨not_not.mp hchannel, hversion, hlen, Or.inl htype⟩).elim
  · obtain ⟨hversion, htype, -, hlen⟩ := (transport_check_ok_iff _ _).mp hclear
    refine Or.inr ⟨wakeUp.message.payload.faultClearScope, ?_, rfl⟩
    intro hscope
    exact hcommandin ⟨not_not.mp hchannel, hversion, hlen, Or.inr ⟨htype, hscope⟩⟩
  · exact Or.inl rfl

theorem notified_of_not_accepted (memory : FaultmgMemory)
    {wakeUp : FaultmgWakeUp} (h : ¬ wakeUp.Accepted) :
    wakeUp.handle memory = ⟨memory, []⟩ := by
  rw [FaultmgWakeUp.handle, faultmgNotified_eq]
  rcases faultRequest?_of_not_accepted h with hnone | ⟨scope, hscope, hclear⟩
  · rw [hnone]
  · rw [hclear]
    exact handleFaultClear_of_other_scope memory hscope

/-- After init and after every wake-up, on any channel and with any content,
all copies agree; and a wake-up that is not accepted changes none of them and
notifies nobody. -/
theorem fault_picture_coherent (shmem : LightShmem) (faultModeSlot : UInt8)
    (wakeUps : List FaultmgWakeUp) :
    let final := run FaultmgWakeUp.step
      (faultmgInit shmem faultModeSlot).memory wakeUps
    PublishedCoherent final ∧
      ∀ wakeUp : FaultmgWakeUp, ¬ wakeUp.Accepted →
        wakeUp.handle final = ⟨final, []⟩ := by
  have hcoherent := run_invariant PublishedCoherent
    (fun _ wakeUp h => publishedCoherent_notified h wakeUp)
    (faultmgInit shmem faultModeSlot).memory
    (publishedCoherent_init shmem faultModeSlot) wakeUps
  exact ⟨hcoherent, fun wakeUp h => notified_of_not_accepted _ h⟩

end LightCtrl
