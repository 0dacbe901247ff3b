import LightCtrl.Core.ControlLogic

/-!
What the arbitration decides, field by field: first what a request and the
vehicle state ask for, then what the policy of the fault mode leaves of it.
Proofs about targets use these equations and never the branches of
`light_control_logic.c`.
-/

namespace LightCtrl

section RequestedTarget

variable (request : LightOperatorRequest) (vehicleState : LightVehicleState)

theorem requestedTarget_brake :
    (requestedTargetFromRequest request vehicleState).brake =
      brakeActive request vehicleState := by
  simp only [requestedTargetFromRequest, apply_ite LightTargetState.brake,
    ite_self]

theorem requestedTarget_turnLeft :
    (requestedTargetFromRequest request vehicleState).turnLeft =
      (ignitionOn vehicleState && (hazardActive vehicleState ||
        (!brakeActive request vehicleState && vehicleState.speedKph ≤ 120 &&
          (request.leftTurnReq ≠ 0 && request.rightTurnReq = 0)))) := by
  simp only [requestedTargetFromRequest, apply_ite LightTargetState.turnLeft,
    ite_self]
  split_ifs <;> simp_all

theorem requestedTarget_turnRight :
    (requestedTargetFromRequest request vehicleState).turnRight =
      (ignitionOn vehicleState && (hazardActive vehicleState ||
        (!brakeActive request vehicleState && vehicleState.speedKph ≤ 120 &&
          (request.rightTurnReq ≠ 0 && request.leftTurnReq = 0)))) := by
  simp only [requestedTargetFromRequest, apply_ite LightTargetState.turnRight,
    ite_self]
  split_ifs <;> simp_all

/-- What a request must meet for the high beam. -/
def highBeamConditions : Bool :=
  request.highBeamReq ≠ 0 && request.lowBeamReq ≠ 0
    && !brakeActive request vehicleState && !parkingContext vehicleState
    && !reverseContext vehicleState
    && vehicleState.speedKph ≥ highBeamMinSpeed vehicleState

theorem requestedTarget_highBeam :
    (requestedTargetFromRequest request vehicleState).highBeam =
      (ignitionOn vehicleState && highBeamConditions request vehicleState) := by
  simp only [requestedTargetFromRequest, highBeamConditions,
    apply_ite LightTargetState.highBeam, ite_self]
  split_ifs <;> simp_all

theorem requestedTarget_lowBeam :
    (requestedTargetFromRequest request vehicleState).lowBeam =
      (ignitionOn vehicleState && !highBeamConditions request vehicleState &&
        (request.lowBeamReq ≠ 0 || darkEnvironment vehicleState
          || reverseContext vehicleState)) := by
  have hbranches : (requestedTargetFromRequest request vehicleState).lowBeam =
      if !ignitionOn vehicleState then false
      else if highBeamConditions request vehicleState then false
      else if request.lowBeamReq ≠ 0 || darkEnvironment vehicleState
        || reverseContext vehicleState then true
      else false := by
    simp only [requestedTargetFromRequest, highBeamConditions,
      apply_ite LightTargetState.lowBeam, ite_self]
    rfl
  rw [hbranches]
  cases ignitionOn vehicleState with
  | false => rfl
  | true =>
      cases highBeamConditions request vehicleState with
      | true => rfl
      | false => simp

theorem requestedTarget_position :
    (requestedTargetFromRequest request vehicleState).position =
      (request.markerReq ≠ 0 || darkEnvironment vehicleState
        || parkingContext vehicleState) := by
  simp only [requestedTargetFromRequest, apply_ite LightTargetState.position,
    ite_self]

end RequestedTarget

section Policy

variable (requestedTarget : LightTargetState) (faultMode : UInt8)

/-- What each mode makes of a requested target. DEGRADED and SAFE_MODE keep
some forward light, which is the low beam. -/
theorem policyTarget_eq :
    (lightOutputPolicyApply requestedTarget faultMode).target =
      if faultMode = FaultMode.degraded.toByte then
        { requestedTarget with lowBeam := true, highBeam := false }
      else if faultMode = FaultMode.safeMode.toByte then
        { requestedTarget with
          turnLeft := false
          turnRight := false
          lowBeam := true
          highBeam := false
          position := true }
      else requestedTarget := by
  obtain ⟨brake, turnLeft, turnRight, lowBeam, highBeam, position⟩ := requestedTarget
  by_cases hdegraded : faultMode = FaultMode.degraded.toByte
  · simp only [lightOutputPolicyApply, lightOutputPolicyMatrixForMode, if_pos hdegraded]
    cases lowBeam <;> rfl
  · simp only [lightOutputPolicyApply, lightOutputPolicyMatrixForMode, if_neg hdegraded]
    by_cases hsafe : faultMode = FaultMode.safeMode.toByte
    · simp only [if_pos hsafe]
      rfl
    · simp only [if_neg hsafe]
      rfl

private theorem degraded_ne_safeMode :
    FaultMode.degraded.toByte ≠ FaultMode.safeMode.toByte := by decide

theorem policy_brake :
    (lightOutputPolicyApply requestedTarget faultMode).target.brake =
      requestedTarget.brake := by
  rw [policyTarget_eq]
  split_ifs <;> rfl

theorem policy_turnLeft :
    (lightOutputPolicyApply requestedTarget faultMode).target.turnLeft =
      (requestedTarget.turnLeft && faultMode ≠ FaultMode.safeMode.toByte) := by
  rw [policyTarget_eq]
  split_ifs with hdegraded hsafe
  · simp [hdegraded, degraded_ne_safeMode]
  · simp [hsafe]
  · simp [hsafe]

theorem policy_turnRight :
    (lightOutputPolicyApply requestedTarget faultMode).target.turnRight =
      (requestedTarget.turnRight && faultMode ≠ FaultMode.safeMode.toByte) := by
  rw [policyTarget_eq]
  split_ifs with hdegraded hsafe
  · simp [hdegraded, degraded_ne_safeMode]
  · simp [hsafe]
  · simp [hsafe]

theorem policy_highBeam :
    (lightOutputPolicyApply requestedTarget faultMode).target.highBeam =
      (requestedTarget.highBeam && faultMode ≠ FaultMode.degraded.toByte
        && faultMode ≠ FaultMode.safeMode.toByte) := by
  rw [policyTarget_eq]
  split_ifs with hdegraded hsafe
  · simp [hdegraded]
  · simp [hsafe]
  · simp [hdegraded, hsafe]

theorem policy_lowBeam :
    (lightOutputPolicyApply requestedTarget faultMode).target.lowBeam =
      (requestedTarget.lowBeam || faultMode = FaultMode.degraded.toByte
        || faultMode = FaultMode.safeMode.toByte) := by
  rw [policyTarget_eq]
  split_ifs with hdegraded hsafe
  · simp [hdegraded]
  · simp [hsafe]
  · simp [hdegraded, hsafe]

theorem policy_position :
    (lightOutputPolicyApply requestedTarget faultMode).target.position =
      (requestedTarget.position || faultMode = FaultMode.safeMode.toByte) := by
  rw [policyTarget_eq]
  split_ifs with hdegraded hsafe
  · simp [hdegraded, degraded_ne_safeMode]
  · simp [hsafe]
  · simp [hsafe]

end Policy

/-- The target state the arbitration decides on. -/
def arbitratedState (request : LightOperatorRequest)
    (vehicleState : LightVehicleState) (faultMode : UInt8) : LightTargetState :=
  (lightOutputPolicyApply (requestedTargetFromRequest request vehicleState)
    faultMode).target

theorem computeTargetOutput_eq (request : LightOperatorRequest)
    (vehicleState : LightVehicleState) (faultMode : UInt8) :
    lightControlComputeTargetOutput request vehicleState faultMode =
      targetOutputFromState (arbitratedState request vehicleState faultMode) :=
  rfl

/-- The arbitration never asks for both forward beams. -/
theorem arbitratedState_beam_exclusive (request : LightOperatorRequest)
    (vehicleState : LightVehicleState) (faultMode : UInt8)
    (hhigh : (arbitratedState request vehicleState faultMode).highBeam = true) :
    (arbitratedState request vehicleState faultMode).lowBeam = false := by
  simp only [arbitratedState, policy_highBeam, requestedTarget_highBeam,
    Bool.and_eq_true, decide_eq_true_eq] at hhigh
  obtain ⟨⟨⟨-, hconditions⟩, hdegraded⟩, hsafe⟩ := hhigh
  simp [arbitratedState, policy_lowBeam, requestedTarget_lowBeam, hconditions,
    hdegraded, hsafe]

/-- A high beam in the target meets what the guard asks of it. -/
theorem arbitratedState_highBeam_safe (request : LightOperatorRequest)
    (vehicleState : LightVehicleState) (faultMode : UInt8)
    (hhigh : (arbitratedState request vehicleState faultMode).highBeam = true) :
    faultMode ≠ FaultMode.safeMode.toByte ∧
      faultMode ≠ FaultMode.degraded.toByte ∧ 10 ≤ vehicleState.speedKph := by
  simp only [arbitratedState, policy_highBeam, requestedTarget_highBeam,
    highBeamConditions, Bool.and_eq_true, decide_eq_true_eq] at hhigh
  obtain ⟨⟨⟨-, -, hspeed⟩, hdegraded⟩, hsafe⟩ := hhigh
  refine ⟨hsafe, hdegraded, ?_⟩
  unfold highBeamMinSpeed at hspeed
  split at hspeed <;> grind

end LightCtrl
