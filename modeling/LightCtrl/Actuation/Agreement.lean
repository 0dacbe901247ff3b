import LightCtrl.Actuation.Arbitration
import LightCtrl.Actuation.Refinement

/-!
Whether the guard of lightctl accepts what the scheduler asks for. With the
same speed and mode on both sides, brake, position and beams always agree.
The hazard lights do not: the arbitration lights both turn lamps at any speed
and under braking, while the guard refuses a turn lamp above 120 km/h or
beside a lit brake lamp.
-/

namespace LightCtrl

open Runs

/-- The guard allows every action of the plan, each judged against the
execution state updated so far. -/
def PlanAllowed (vehicleSpeed : UInt16) (faultMode : UInt8)
    (state : LightExecutionState) (targetOutput : LightTargetOutput) : Prop :=
  EveryStep (syncIteration vehicleSpeed faultMode)
    (fun current action =>
      (guardVerdict vehicleSpeed faultMode current action).allowed = true)
    state (plannedActions state targetOutput)

instance (vehicleSpeed : UInt16) (faultMode : UInt8)
    (state : LightExecutionState) (targetOutput : LightTargetOutput) :
    Decidable (PlanAllowed vehicleSpeed faultMode state targetOutput) :=
  inferInstanceAs (Decidable (EveryStep _ _ _ _))

theorem planAllowed_iff (vehicleSpeed : UInt16) (faultMode : UInt8)
    (lamps : LampState) (targetOutput : LightTargetOutput) :
    PlanAllowed vehicleSpeed faultMode lamps.toExecution targetOutput ↔
      TurnGranted (limitsOf vehicleSpeed faultMode) lamps targetOutput.wanted ∧
        BeamGranted (limitsOf vehicleSpeed faultMode) lamps
          targetOutput.wanted := by
  rw [PlanAllowed, plannedActions_toExecution,
    everyStep_syncIteration_toExecution]
  simp only [guardVerdict_allowed]
  exact LampState.plan_permitted_iff _ lamps targetOutput.wanted

/-- The lamp state a target state asks for. -/
def LightTargetState.wanted (state : LightTargetState) : LampState where
  turn := if state.turnLeft then .first
    else if state.turnRight then .second else .off
  beam := if state.lowBeam then .first
    else if state.highBeam then .second else .off
  brake := state.brake
  position := state.position

theorem targetOutputFromState_wanted (state : LightTargetState) :
    (targetOutputFromState state).wanted = state.wanted := by
  obtain ⟨brake, turnLeft, turnRight, lowBeam, highBeam, position⟩ := state
  cases brake <;> cases turnLeft <;> cases turnRight <;> cases lowBeam <;>
    cases highBeam <;> cases position <;> rfl

theorem FaultMode.toByte_injective : Function.Injective FaultMode.toByte := by
  intro left right heq
  cases left <;> cases right <;> first | rfl | exact absurd heq (by decide)

/-- The beams of an arbitrated target are always granted. -/
theorem arbitrated_beamGranted (request : LightOperatorRequest)
    (vehicleState : LightVehicleState) (faultMode : UInt8) (lamps : LampState) :
    BeamGranted (limitsOf vehicleState.speedKph faultMode) lamps
      (arbitratedState request vehicleState faultMode).wanted := by
  cases hhigh : (arbitratedState request vehicleState faultMode).highBeam with
  | false =>
      left
      simp only [LightTargetState.wanted, hhigh]
      split <;> simp
  | true =>
      obtain ⟨hsafe, hdegraded, hspeed⟩ :=
        arbitratedState_highBeam_safe request vehicleState faultMode hhigh
      right; right
      simp [limitsOf, hsafe, hdegraded, hspeed]

/-- The scheduler asks for the hazard lights while the guard refuses the left
turn lamp, which is not lit yet. -/
def HazardTurnRefused (request : LightOperatorRequest)
    (vehicleState : LightVehicleState) (mode : FaultMode)
    (state : LightExecutionState) : Prop :=
  ignitionOn vehicleState = true ∧ hazardActive vehicleState = true ∧
    mode ≠ .safeMode ∧
    (brakeActive request vehicleState = true ∨ 120 < vehicleState.speedKph) ∧
    state.turnState ≠ 1

instance (request : LightOperatorRequest) (vehicleState : LightVehicleState)
    (mode : FaultMode) (state : LightExecutionState) :
    Decidable (HazardTurnRefused request vehicleState mode state) :=
  inferInstanceAs (Decidable (_ ∧ _ ∧ _ ∧ _ ∧ _))

theorem turnState_eq_one_iff (lamps : LampState) :
    lamps.toExecution.turnState = 1 ↔ lamps.turn = .first := by
  cases hturn : lamps.turn <;> simp [LampState.toExecution, Selector.code, hturn]

section ArbitratedTurn

variable (request : LightOperatorRequest) {vehicleState : LightVehicleState}
  {mode : FaultMode}

/-- An active hazard asks for both turn lamps, as long as the ignition is on. -/
theorem arbitrated_turn_hazard (hhazard : hazardActive vehicleState = true)
    (hmode : mode ≠ .safeMode) :
    (arbitratedState request vehicleState mode.toByte).turnLeft =
        ignitionOn vehicleState ∧
      (arbitratedState request vehicleState mode.toByte).turnRight =
        ignitionOn vehicleState := by
  have hbyte : mode.toByte ≠ FaultMode.safeMode.toByte :=
    FaultMode.toByte_injective.ne hmode
  constructor
  · simp [arbitratedState, policy_turnLeft, requestedTarget_turnLeft, hhazard, hbyte]
  · simp [arbitratedState, policy_turnRight, requestedTarget_turnRight, hhazard,
      hbyte]

/-- No turn lamp is asked for in SAFE_MODE, without the ignition, or without a
hazard while braking or above 120 km/h. -/
theorem arbitrated_turn_off
    (hoff : mode = .safeMode ∨ ignitionOn vehicleState = false ∨
      hazardActive vehicleState = false ∧
        (brakeActive request vehicleState = true ∨
          ¬ vehicleState.speedKph ≤ 120)) :
    (arbitratedState request vehicleState mode.toByte).wanted.turn = .off := by
  have hdark : (arbitratedState request vehicleState mode.toByte).turnLeft = false ∧
      (arbitratedState request vehicleState mode.toByte).turnRight = false := by
    rw [arbitratedState, policy_turnLeft, policy_turnRight,
      requestedTarget_turnLeft, requestedTarget_turnRight]
    rcases hoff with hsafe | hignition | ⟨hhazard, hbrake | hfast⟩
    · simp [hsafe]
    · simp [hignition]
    · simp [hhazard, hbrake]
    · simp [hhazard, hfast]
  simp [LightTargetState.wanted, hdark]

/-- The turn lamps of an arbitrated target are granted except under an active
hazard that the guard refuses. -/
theorem arbitrated_turnGranted_iff (lamps : LampState) :
    TurnGranted (limitsOf vehicleState.speedKph mode.toByte) lamps
        (arbitratedState request vehicleState mode.toByte).wanted ↔
      ¬ HazardTurnRefused request vehicleState mode lamps.toExecution := by
  by_cases hidle : mode = .safeMode ∨ ignitionOn vehicleState = false
  · -- no turn lamp is asked for
    refine iff_of_true (Or.inl (arbitrated_turn_off request ?_)) ?_
    · exact hidle.imp_right Or.inl
    · rintro ⟨hon, -, hnotSafe, -⟩
      rcases hidle with hsafe | hignition
      · exact hnotSafe hsafe
      · simp [hignition] at hon
  obtain ⟨hsafe, hignition⟩ := not_or.mp hidle
  have hbyte : mode.toByte ≠ FaultMode.safeMode.toByte :=
    FaultMode.toByte_injective.ne hsafe
  have hlimit : (limitsOf vehicleState.speedKph mode.toByte).turn = true ↔
      vehicleState.speedKph ≤ 120 := by
    simp [limitsOf, hbyte]
  have hbrake : (arbitratedState request vehicleState mode.toByte).wanted.brake =
      brakeActive request vehicleState := by
    rw [arbitratedState, LightTargetState.wanted, policy_brake,
      requestedTarget_brake]
  cases hhazard : hazardActive vehicleState with
  | true =>
      have hwanted : (arbitratedState request vehicleState mode.toByte).wanted.turn =
          .first := by
        simp [LightTargetState.wanted, hignition,
          (arbitrated_turn_hazard request hhazard hsafe).1]
      simp only [TurnGranted, hwanted, hbrake, hlimit, HazardTurnRefused,
        turnState_eq_one_iff, hhazard, hsafe, hignition, ne_eq]
      have hslow : vehicleState.speedKph ≤ 120 ↔ ¬ 120 < vehicleState.speedKph :=
        UInt16.not_lt.symm
      have hsame : Selector.first = lamps.turn ↔ lamps.turn = .first := eq_comm
      rw [hslow, hsame]
      cases brakeActive request vehicleState with
      | false =>
          simp only [Bool.false_eq_true, false_or, true_and, and_true,
            reduceCtorEq, not_false_eq_true]
          rw [not_and_or, not_not, or_comm]
      | true => simp
  | false =>
      refine iff_of_true ?_ (by simp [HazardTurnRefused, hhazard])
      by_cases hfree : brakeActive request vehicleState = false ∧
          vehicleState.speedKph ≤ 120
      · exact Or.inr (Or.inr ⟨hlimit.mpr hfree.2, hbrake.trans hfree.1⟩)
      · left
        rw [not_and_or, Bool.not_eq_false] at hfree
        exact arbitrated_turn_off request (Or.inr (Or.inr ⟨hhazard, hfree⟩))

end ArbitratedTurn

/-- For every input, and every execution state that runs of `sync_outputs`
reach, the guard allows the whole plan for the arbitrated target exactly when
no active hazard asks for a turn lamp the guard refuses. -/
theorem coherent_plan_allowed_iff (request : LightOperatorRequest)
    (vehicleState : LightVehicleState) (mode : FaultMode)
    {state : LightExecutionState} (hreach : ReachableExecution state) :
    PlanAllowed vehicleState.speedKph mode.toByte state
        (lightControlComputeTargetOutput request vehicleState mode.toByte) ↔
      ¬ HazardTurnRefused request vehicleState mode state := by
  obtain ⟨lamps, rfl⟩ := hreach.exists_lamps
  rw [planAllowed_iff, computeTargetOutput_eq, targetOutputFromState_wanted,
    arbitrated_turnGranted_iff]
  exact and_iff_left (arbitrated_beamGranted request vehicleState _ lamps)

theorem reachableExecution_init : ReachableExecution lightExecutionStateInit :=
  ⟨lightctlInit, Reachable.refl lightctlInit, rfl⟩

/-- From the low beam an earlier sync lit, with the left turn and the high beam
requested at 40 km/h: three actions, none of them refused. -/
theorem coherent_plan_allowed_turning :
    let vehicleState := { lightVehicleStateDefault with speedKph := 40 }
    let dipped := { lightOperatorRequestInit with lowBeamReq := 1 }
    let request := { dipped with leftTurnReq := 1, highBeamReq := 1 }
    let state := (syncOutputs { lightShmemZeroed with
      targetOutput := lightControlComputeTargetOutput dipped vehicleState
        FaultMode.normal.toByte } lightctlInit).1.executionState
    let targetOutput := lightControlComputeTargetOutput request vehicleState
      FaultMode.normal.toByte
    plannedActions state targetOutput = [.turnLeftOn, .lowBeamOff, .highBeamOn] ∧
      (PlanAllowed vehicleState.speedKph FaultMode.normal.toByte state targetOutput ↔
        ¬ HazardTurnRefused request vehicleState .normal state) :=
  ⟨by decide, coherent_plan_allowed_iff _ _ .normal ⟨_, ⟨[_], rfl⟩, rfl⟩⟩

/-- Hazard lights while the brake pedal is pressed, from init in NORMAL: the
brake lamp goes on first and the guard then refuses the left turn lamp. -/
theorem hazard_under_brake_refused :
    let vehicleState := { lightVehicleStateDefault with
      hazard := 1, brakePedal := 1 }
    ¬ PlanAllowed vehicleState.speedKph FaultMode.normal.toByte
      lightExecutionStateInit
      (lightControlComputeTargetOutput lightOperatorRequestInit vehicleState
        FaultMode.normal.toByte) := by
  decide

end LightCtrl
