import LightCtrl.Actuation.Agreement
import LightCtrl.Actuation.Pins
import LightCtrl.Domains.Scheduler

/-!
Whether the lamps show what the scheduler decided. The planner keeps one byte
for both turn lamps, with the left one taking precedence, so a target that
asks for both of them cannot be shown. Every other arbitrated target is shown
exactly once the guard lets the whole plan through.
-/

namespace LightCtrl

open Runs

/-- Each of the six lamp pins is on exactly when its target byte is not zero. -/
structure PinsRealise (gpioOut : BitVec 32) (targetOutput : LightTargetOutput) :
    Prop where
  low : gpioOut.getLsbD pinLowBeam = decide (targetOutput.lowBeamOn ≠ 0)
  high : gpioOut.getLsbD pinHighBeam = decide (targetOutput.highBeamOn ≠ 0)
  left : gpioOut.getLsbD pinTurnLeft = decide (targetOutput.leftTurnOn ≠ 0)
  right : gpioOut.getLsbD pinTurnRight = decide (targetOutput.rightTurnOn ≠ 0)
  brake : gpioOut.getLsbD pinBrake = decide (targetOutput.brakeOn ≠ 0)
  position : gpioOut.getLsbD pinPosition = decide (targetOutput.markerOn ≠ 0)

/-- The arbitration asks for both turn lamps. -/
def HazardRequested (vehicleState : LightVehicleState) (mode : FaultMode) : Prop :=
  ignitionOn vehicleState = true ∧ hazardActive vehicleState = true ∧
    mode ≠ .safeMode

instance (vehicleState : LightVehicleState) (mode : FaultMode) :
    Decidable (HazardRequested vehicleState mode) :=
  inferInstanceAs (Decidable (_ ∧ _ ∧ _))

/-- Both turn lamps are asked for exactly under an active hazard: without one,
a turn lamp needs its request alone of the two. -/
theorem arbitrated_both_turns_iff (request : LightOperatorRequest)
    (vehicleState : LightVehicleState) (mode : FaultMode) :
    ((arbitratedState request vehicleState mode.toByte).turnLeft = true ∧
        (arbitratedState request vehicleState mode.toByte).turnRight = true) ↔
      HazardRequested vehicleState mode := by
  have hbyte : mode.toByte = FaultMode.safeMode.toByte ↔ mode = .safeMode :=
    FaultMode.toByte_injective.eq_iff
  simp only [arbitratedState, policy_turnLeft, policy_turnRight,
    requestedTarget_turnLeft, requestedTarget_turnRight, HazardRequested,
    Bool.and_eq_true, Bool.or_eq_true, decide_eq_true_eq, ne_eq, hbyte]
  tauto

/-- A settled plan that was allowed whole ends at the wanted lamps. -/
theorem settle_of_granted {limits : Limits} {lamps wanted : LampState}
    (hturn : TurnGranted limits lamps wanted)
    (hbeam : BeamGranted limits lamps wanted) :
    lamps.settle limits wanted = wanted := by
  simp [LampState.settle, hturn, hbeam]

/-- Pins that show the lamps a target state asks for realise its output
exactly when it does not ask for both lamps of the turn pair. -/
theorem pinsRealise_iff {state : LightTargetState} {gpioOut : BitVec 32}
    (hpins : PinsShow state.wanted gpioOut)
    (hbeams : state.highBeam = true → state.lowBeam = false) :
    PinsRealise gpioOut (targetOutputFromState state) ↔
      ¬ (state.turnLeft = true ∧ state.turnRight = true) := by
  have hlow := hpins pinLowBeam (by decide)
  have hhigh := hpins pinHighBeam (by decide)
  have hleft := hpins pinTurnLeft (by decide)
  have hright := hpins pinTurnRight (by decide)
  have hbrake := hpins pinBrake (by decide)
  have hposition := hpins pinPosition (by decide)
  obtain ⟨brake, turnLeft, turnRight, lowBeam, highBeam, position⟩ := state
  constructor
  · rintro ⟨-, -, -, hrightOn, -, -⟩ ⟨hleftTarget, hrightTarget⟩
    rw [hright] at hrightOn
    simp_all [LightTargetState.wanted, LampState.lit, targetOutputFromState]
  · intro hsingle
    constructor
    · rw [hlow]
      cases lowBeam <;> cases highBeam <;> rfl
    · rw [hhigh]
      cases lowBeam <;> cases highBeam <;> first | rfl | simp at hbeams
    · rw [hleft]
      cases turnLeft <;> cases turnRight <;> rfl
    · rw [hright]
      cases turnLeft <;> cases turnRight <;> first | rfl | simp at hsingle
    · rw [hbrake]
      cases brake <;> rfl
    · rw [hposition]
      cases position <;> rfl

/-- Once the guard allows every action of the plan for the scheduler's
decision, the pins after the run show that decision exactly when it is not a
hazard request. -/
theorem lamps_realise_decision_iff (faultModeSlot : UInt8) (shmem : LightShmem)
    (mode : FaultMode) (hmode : shmem.faultMode = mode.toByte)
    (state : ActuationState) (hreach : ReachableExecution state.execution)
    (hpins : PinsFollow state.execution state.gpio.gpioOut)
    (hallowed : PlanAllowed shmem.vehicleState.speedKph mode.toByte
      state.execution (lightControlComputeTargetOutput shmem.operatorRequest
        shmem.vehicleState mode.toByte)) :
    PinsRealise
        (actuationSync faultModeSlot state
          (recomputeTargetOutput shmem)).gpio.gpioOut
        (lightControlComputeTargetOutput shmem.operatorRequest
          shmem.vehicleState mode.toByte) ↔
      ¬ HazardRequested shmem.vehicleState mode := by
  obtain ⟨execution, gpio⟩ := state
  obtain ⟨lamps, rfl⟩ := hreach.exists_lamps
  have hshows : ShowsLamps gpio.gpioOut ⟨lamps.toExecution, gpio⟩ lamps :=
    ⟨rfl, (pinsFollow_iff lamps _).mp hpins, fun _ _ => rfl⟩
  have hafter := actuationSync_showsLamps faultModeSlot hshows
    (recomputeTargetOutput shmem)
  rw [computeTargetOutput_eq] at hallowed ⊢
  rw [planAllowed_iff, targetOutputFromState_wanted] at hallowed
  set target :=
    arbitratedState shmem.operatorRequest shmem.vehicleState mode.toByte
    with htarget
  have hpublished : (recomputeTargetOutput shmem).targetOutput.wanted =
      target.wanted := by
    rw [← targetOutputFromState_wanted, htarget, ← computeTargetOutput_eq,
      ← hmode]
    rfl
  have hlimits : limitsOf (recomputeTargetOutput shmem).vehicleSpeed
      (recomputeTargetOutput shmem).faultMode =
      limitsOf shmem.vehicleState.speedKph mode.toByte := by
    rw [← hmode]
    rfl
  rw [hpublished, hlimits, settle_of_granted hallowed.1 hallowed.2] at hafter
  rw [← arbitrated_both_turns_iff shmem.operatorRequest]
  exact pinsRealise_iff hafter.2.1
    (arbitratedState_beam_exclusive shmem.operatorRequest shmem.vehicleState
      mode.toByte)

/-- The memory scheduler leaves after init over the zeroed region, with the
given hazard byte. -/
def hazardMemory (hazard : UInt8) : LightShmem :=
  let shmem := schedulerInit lightShmemZeroed
  { shmem with vehicleState := { shmem.vehicleState with hazard := hazard } }

/-- The state lightctl and gpio start in, with all pins off. -/
def actuationInit : ActuationState :=
  ⟨lightExecutionStateInit, gpioInit 0#32⟩

/-- The memory scheduler leaves after init over the zeroed region, with the
given request. -/
def requestMemory (operatorRequest : LightOperatorRequest) : LightShmem :=
  { schedulerInit lightShmemZeroed with operatorRequest := operatorRequest }

/-- From the low beam an earlier sync lit, with the left turn and the high beam
requested: three actions, and six pins that show the decision. -/
theorem lamps_realise_decision_without_hazard :
    let dipped := { lightOperatorRequestInit with lowBeamReq := 1 }
    let shmem := requestMemory { dipped with leftTurnReq := 1, highBeamReq := 1 }
    let state := actuationSync 0 actuationInit
      (recomputeTargetOutput (requestMemory dipped))
    let targetOutput := lightControlComputeTargetOutput shmem.operatorRequest
      shmem.vehicleState FaultMode.normal.toByte
    plannedActions state.execution targetOutput =
        [.turnLeftOn, .lowBeamOff, .highBeamOn] ∧
      (PinsRealise (actuationSync 0 state (recomputeTargetOutput shmem)).gpio.gpioOut
          targetOutput ↔
        ¬ HazardRequested shmem.vehicleState .normal) := by
  intro dipped shmem state targetOutput
  have hjoint := congrArg ActuationState.execution
    (actuationSync_eq 0 actuationInit (recomputeTargetOutput (requestMemory dipped))
      lightctlInit.faultModeCache)
  have hreach : ReachableExecution state.execution :=
    ⟨_, ⟨[recomputeTargetOutput (requestMemory dipped)], rfl⟩, hjoint.symm⟩
  refine ⟨by decide, lamps_realise_decision_iff 0 shmem .normal (by decide) state hreach
    ⟨?_, ?_, ?_, ?_, ?_, ?_⟩ (by decide)⟩ <;> decide

/-- Hazard lights from init, without braking: the whole plan is allowed, and
afterwards the right turn pin is off although its target is on. -/
theorem hazard_leaves_right_turn_dark :
    let shmem := hazardMemory 1
    let targetOutput := lightControlComputeTargetOutput shmem.operatorRequest
      shmem.vehicleState FaultMode.normal.toByte
    let gpioOut := (actuationSync 0 actuationInit
      (recomputeTargetOutput shmem)).gpio.gpioOut
    PlanAllowed shmem.vehicleState.speedKph FaultMode.normal.toByte
        actuationInit.execution targetOutput ∧
      targetOutput.rightTurnOn = 1 ∧ gpioOut.getLsbD pinTurnRight = false ∧
      ¬ PinsRealise gpioOut targetOutput := by
  refine ⟨by decide, by decide, by decide, ?_⟩
  intro hrealise
  exact absurd hrealise.right (by decide)

end LightCtrl
