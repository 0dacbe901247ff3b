import LightCtrl.Core.Contract
import LightCtrl.Core.VehicleState

/-!
`src/domains/vehicle_state.c`: the protection domain that owns the vehicle
state in the shared memory.
-/

namespace LightCtrl

/-- `init`. It runs before scheduler has written anything but the zeroed
region, or after it; either way it stores the default. -/
def vehicleStateInit (shmem : LightShmem) : Handled LightShmem where
  memory := { shmem with vehicleState := lightVehicleStateDefault }
  notified := [LightCh.vehicleStateToScheduler]

/-- `notified`. `message` is the content of the shared input buffer when the
handler reads it. -/
def vehicleStateNotified (channel : MicrokitChannel)
    (message : LightTransportMessage) (shmem : LightShmem) :
    Handled LightShmem :=
  if channel = LightCh.vehicleStateFromCommandin then
    if (lightContractCheckTransportMessage message
        LightTransportMsg.vehicleStateUpdate).status ≠ .ok then ⟨shmem, []⟩
    else
      let result := lightVehicleStateApplyRequest shmem.vehicleState
        message.payload.vehicleStateUpdate
      if !result.accepted then ⟨shmem, []⟩
      else
        { memory := { shmem with vehicleState := result.nextState }
          notified :=
            if result.changed then [LightCh.vehicleStateToScheduler] else [] }
  else ⟨shmem, []⟩

/-- A wake-up either changes nothing and notifies nobody, or notifies the
scheduler: an accepted request that changes no field stores what was there. -/
theorem vehicleStateNotified_cases (channel : MicrokitChannel)
    (message : LightTransportMessage) (shmem : LightShmem) :
    vehicleStateNotified channel message shmem = ⟨shmem, []⟩ ∨
      (vehicleStateNotified channel message shmem).notified =
        [LightCh.vehicleStateToScheduler] := by
  unfold vehicleStateNotified
  split_ifs with hchannel hcontract
  · exact Or.inl rfl
  · set result := lightVehicleStateApplyRequest shmem.vehicleState
      message.payload.vehicleStateUpdate with hresult
    cases haccepted : result.accepted with
    | false => exact Or.inl (by simp [haccepted])
    | true =>
        cases hchanged : result.changed with
        | true => exact Or.inr (by simp [haccepted, hchanged])
        | false =>
            left
            have hsame : result.nextState = shmem.vehicleState := by
              by_contra hne
              have hdiffers := (vehicleState_changed_iff shmem.vehicleState
                message.payload.vehicleStateUpdate).mpr hne
              rw [← hresult, hchanged] at hdiffers
              exact absurd hdiffers (by simp)
            simp [haccepted, hchanged, hsame]
  · exact Or.inl rfl

/-- When it notifies, it has stored the state after the request. -/
theorem vehicleStateNotified_outcome (channel : MicrokitChannel)
    (message : LightTransportMessage) (shmem : LightShmem) :
    vehicleStateNotified channel message shmem = ⟨shmem, []⟩ ∨
      vehicleStateNotified channel message shmem =
        ⟨{ shmem with
            vehicleState := (lightVehicleStateApplyRequest shmem.vehicleState
              message.payload.vehicleStateUpdate).nextState },
          [LightCh.vehicleStateToScheduler]⟩ := by
  refine (vehicleStateNotified_cases channel message shmem).imp_right ?_
  intro hnotified
  unfold vehicleStateNotified at hnotified ⊢
  split_ifs at hnotified ⊢ with hchannel hcontract
  by_cases haccepted : (lightVehicleStateApplyRequest shmem.vehicleState
      message.payload.vehicleStateUpdate).accepted = true
  · simp only [haccepted, Bool.not_true, Bool.false_eq_true, if_false] at hnotified ⊢
    rw [hnotified]
  · simp [haccepted] at hnotified

end LightCtrl
