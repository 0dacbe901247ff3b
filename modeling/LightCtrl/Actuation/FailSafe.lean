import LightCtrl.Actuation.Realisation

/-!
What a driver can rely on. Outside SAFE_MODE an active hazard asks for both
turn lamps as long as the ignition is on. In SAFE_MODE one run of
`sync_outputs` reaches the safe profile from wherever the lamps were; in
DEGRADED it reaches the low beam, the brake lamp and the position lamp even
when the guard refuses a turn lamp on the way.
-/

namespace LightCtrl

open Runs

/-- Both turn outputs have the value. -/
def TurnsShow (targetOutput : LightTargetOutput) (value : UInt8) : Prop :=
  targetOutput.leftTurnOn = value ∧ targetOutput.rightTurnOn = value

instance (targetOutput : LightTargetOutput) (value : UInt8) :
    Decidable (TurnsShow targetOutput value) :=
  inferInstanceAs (Decidable (_ ∧ _))

section Hazard

variable (request : LightOperatorRequest) {vehicleState : LightVehicleState}
  (hhazard : hazardActive vehicleState = true) {mode : FaultMode}
  (hmode : mode ≠ .safeMode)
include hhazard hmode

private theorem hazard_turn_bytes :
    (lightControlComputeTargetOutput request vehicleState mode.toByte).leftTurnOn =
        (if ignitionOn vehicleState then 1 else 0) ∧
      (lightControlComputeTargetOutput request vehicleState mode.toByte).rightTurnOn =
        (if ignitionOn vehicleState then 1 else 0) := by
  obtain ⟨hleft, hright⟩ := arbitrated_turn_hazard request hhazard hmode
  rw [computeTargetOutput_eq]
  simp only [targetOutputFromState, hleft, hright, and_self]

/-- Outside SAFE_MODE an active hazard sets both turn outputs while the
ignition is on, whatever else the vehicle and the driver do. With the ignition
off it sets neither. -/
theorem hazard_turns_follow_ignition :
    (vehicleState.ignitionOn ≠ 0 → TurnsShow
        (lightControlComputeTargetOutput request vehicleState mode.toByte) 1) ∧
      (vehicleState.ignitionOn = 0 → TurnsShow
        (lightControlComputeTargetOutput request vehicleState mode.toByte) 0) := by
  obtain ⟨hleft, hright⟩ := hazard_turn_bytes request hhazard hmode
  constructor
  · intro hignition
    have hon : ignitionOn vehicleState = true := by simp [ignitionOn, hignition]
    exact ⟨hleft.trans (by simp [hon]), hright.trans (by simp [hon])⟩
  · intro hignition
    have hoff : ignitionOn vehicleState = false := by simp [ignitionOn, hignition]
    exact ⟨hleft.trans (by simp [hoff]), hright.trans (by simp [hoff])⟩

end Hazard

/-- The hazard switch under braking at 200 km/h, in DEGRADED. -/
theorem hazard_turns_follow_ignition_degraded :
    let vehicleState := { lightVehicleStateDefault with
      hazard := 1, brakePedal := 1, speedKph := 200 }
    (vehicleState.ignitionOn ≠ 0 → TurnsShow (lightControlComputeTargetOutput
        lightOperatorRequestInit vehicleState FaultMode.degraded.toByte) 1) ∧
      (vehicleState.ignitionOn = 0 → TurnsShow (lightControlComputeTargetOutput
        lightOperatorRequestInit vehicleState FaultMode.degraded.toByte) 0) :=
  hazard_turns_follow_ignition lightOperatorRequestInit (by decide) (by decide)

/-- The hazard switch with the ignition off, in NORMAL: both turn outputs stay
off. -/
theorem hazard_dark_without_ignition :
    let vehicleState := { lightVehicleStateDefault with
      hazard := 1, ignitionOn := 0 }
    vehicleState.hazard ≠ 0 ∧ FaultMode.normal ≠ .safeMode ∧
      TurnsShow (lightControlComputeTargetOutput lightOperatorRequestInit
        vehicleState FaultMode.normal.toByte) 0 ∧
      ¬ TurnsShow (lightControlComputeTargetOutput lightOperatorRequestInit
        vehicleState FaultMode.normal.toByte) 1 := by
  decide

/-- The shared memory with the targets the scheduler computes in this mode. -/
def commandedMemory (shmem : LightShmem) (request : LightOperatorRequest)
    (vehicleState : LightVehicleState) (mode : FaultMode) : LightShmem :=
  { shmem with
    targetOutput :=
      lightControlComputeTargetOutput request vehicleState mode.toByte
    faultMode := mode.toByte }

/-- The six lamps as the execution bytes record them. -/
structure ShownLamps where
  low : Bool
  high : Bool
  left : Bool
  right : Bool
  brake : Bool
  position : Bool
  deriving DecidableEq, Repr

def LightExecutionState.shown (state : LightExecutionState) : ShownLamps where
  low := state.beamState = 1
  high := state.beamState = 2
  left := state.turnState = 1
  right := state.turnState = 2
  brake := state.brakeState = 1
  position := state.positionState = 1

/-- The lamps of SAFE_MODE. -/
def safeLamps (request : LightOperatorRequest)
    (vehicleState : LightVehicleState) : ShownLamps where
  low := true
  high := false
  left := false
  right := false
  brake := request.brakeReq ≠ 0 || vehicleState.brakePedal ≠ 0
  position := true

/-- The lamps DEGRADED promises; the turn lamps are left open. -/
structure DegradedLamps (targetOutput : LightTargetOutput)
    (lamps : ShownLamps) : Prop where
  low : lamps.low = true
  high : lamps.high = false
  brake : lamps.brake = decide (targetOutput.brakeOn ≠ 0)
  position : lamps.position = decide (targetOutput.markerOn ≠ 0)

/-- The lamps a lamp state shows through its bytes. -/
theorem toExecution_shown (lamps : LampState) :
    lamps.toExecution.shown =
      { low := lamps.beam = .first
        high := lamps.beam = .second
        left := lamps.turn = .first
        right := lamps.turn = .second
        brake := lamps.brake
        position := lamps.position } := by
  obtain ⟨turn, beam, brake, position⟩ := lamps
  cases turn <;> cases beam <;> cases brake <;> cases position <;> rfl

section Commanded

variable (shmem : LightShmem) (request : LightOperatorRequest)
  (vehicleState : LightVehicleState)

theorem commanded_safeMode_wanted :
    (commandedMemory shmem request vehicleState .safeMode).targetOutput.wanted =
      { turn := .off
        beam := .first
        brake := brakeActive request vehicleState
        position := true } := by
  refine (targetOutputFromState_wanted _).trans ?_
  simp [LightTargetState.wanted, policy_brake, policy_turnLeft,
    policy_turnRight, policy_lowBeam, policy_position, requestedTarget_brake]

theorem commanded_degraded_beam :
    (commandedMemory shmem request vehicleState .degraded).targetOutput.wanted.beam =
      .first := by
  refine (congrArg LampState.beam (targetOutputFromState_wanted _)).trans ?_
  simp [LightTargetState.wanted, policy_lowBeam]

end Commanded

/-- The low beam is granted from every lamp state and within all limits. -/
theorem beamGranted_of_low (limits : Limits) (lamps : LampState)
    {wanted : LampState} (hlow : wanted.beam = .first) :
    BeamGranted limits lamps wanted := by
  left
  rw [hlow]
  simp

/-- Pins that follow the bytes before a run of `sync_outputs` follow them
after it. -/
theorem actuationSync_pinsFollow {memory : LightctlMemory}
    (hreach : ReachableExecution memory.executionState) (faultModeSlot : UInt8)
    {gpio : GpioMemory} (hpins : PinsFollow memory.executionState gpio.gpioOut)
    (shmem : LightShmem) :
    PinsFollow (syncOutputs shmem memory).1.executionState
      (actuationSync faultModeSlot ⟨memory.executionState, gpio⟩
        shmem).gpio.gpioOut := by
  obtain ⟨execution, faultModeCache⟩ := memory
  obtain ⟨lamps, rfl⟩ := hreach.exists_lamps
  have hshows : ShowsLamps gpio.gpioOut ⟨lamps.toExecution, gpio⟩ lamps :=
    ⟨rfl, (pinsFollow_iff lamps _).mp hpins, fun _ _ => rfl⟩
  have hafter := actuationSync_showsLamps faultModeSlot hshows shmem
  have hjoint : (actuationSync faultModeSlot ⟨lamps.toExecution, gpio⟩ shmem).execution =
      (syncOutputs shmem ⟨lamps.toExecution, faultModeCache⟩).1.executionState :=
    congrArg ActuationState.execution (actuationSync_eq ..)
  rw [← hjoint, hafter.1]
  exact (pinsFollow_iff _ _).mpr hafter.2.1

/-- From every execution state runs of `sync_outputs` reach, for every request,
vehicle state and guard speed: one run in SAFE_MODE denies nothing and ends in
the safe profile, one run in DEGRADED ends in its profile whatever the guard
refuses, and the pins keep following the lamps. -/
theorem fail_safe_actuation (request : LightOperatorRequest)
    (vehicleState : LightVehicleState) (shmem : LightShmem)
    {memory : LightctlMemory}
    (hreach : ReachableExecution memory.executionState) :
    let safe := commandedMemory shmem request vehicleState .safeMode
    let degraded := commandedMemory shmem request vehicleState .degraded
    (PlanAllowed safe.vehicleSpeed safe.faultMode memory.executionState
        safe.targetOutput ∧
      (syncOutputs safe memory).1.executionState.shown =
        safeLamps request vehicleState) ∧
      DegradedLamps degraded.targetOutput
        (syncOutputs degraded memory).1.executionState.shown ∧
      ∀ faultModeSlot gpio, PinsFollow memory.executionState gpio.gpioOut →
        ∀ next, PinsFollow (syncOutputs next memory).1.executionState
          (actuationSync faultModeSlot ⟨memory.executionState, gpio⟩
            next).gpio.gpioOut := by
  have hpins (faultModeSlot : UInt8) (gpio : GpioMemory)
      (hbefore : PinsFollow memory.executionState gpio.gpioOut) :=
    actuationSync_pinsFollow hreach faultModeSlot hbefore
  obtain ⟨execution, faultModeCache⟩ := memory
  obtain ⟨lamps, rfl⟩ := hreach.exists_lamps
  intro safe degraded
  have hsafe : safe.targetOutput.wanted = _ :=
    commanded_safeMode_wanted shmem request vehicleState
  have hturn : TurnGranted (limitsOf safe.vehicleSpeed safe.faultMode) lamps
      safe.targetOutput.wanted := by
    left
    rw [hsafe]
  have hbeam := beamGranted_of_low (limitsOf safe.vehicleSpeed safe.faultMode) lamps
    (congrArg LampState.beam hsafe)
  have hforward : degraded.targetOutput.wanted.beam = .first :=
    commanded_degraded_beam shmem request vehicleState
  have hlow := beamGranted_of_low
    (limitsOf degraded.vehicleSpeed degraded.faultMode) lamps hforward
  refine ⟨⟨(planAllowed_iff _ _ _ _).mpr ⟨hturn, hbeam⟩, ?_⟩, ?_, hpins⟩
  · rw [syncOutputs_settles, toExecution_shown, settle_of_granted hturn hbeam, hsafe]
    rfl
  · have hbeamAfter : (lamps.settle (limitsOf degraded.vehicleSpeed
        degraded.faultMode) degraded.targetOutput.wanted).beam = .first :=
      (if_pos hlow).trans hforward
    rw [syncOutputs_settles, toExecution_shown, hbeamAfter]
    exact ⟨rfl, rfl, rfl, rfl⟩

/-- From the initial lamps, with the left turn and the brake requested. -/
theorem fail_safe_actuation_init :
    let request := { lightOperatorRequestInit with leftTurnReq := 1, brakeReq := 1 }
    let safe := commandedMemory lightShmemZeroed request lightVehicleStateDefault
      .safeMode
    let degraded := commandedMemory lightShmemZeroed request
      lightVehicleStateDefault .degraded
    (PlanAllowed safe.vehicleSpeed safe.faultMode lightctlInit.executionState
        safe.targetOutput ∧
      (syncOutputs safe lightctlInit).1.executionState.shown =
        safeLamps request lightVehicleStateDefault) ∧
      DegradedLamps degraded.targetOutput
        (syncOutputs degraded lightctlInit).1.executionState.shown ∧
      ∀ faultModeSlot gpio, PinsFollow lightctlInit.executionState gpio.gpioOut →
        ∀ next, PinsFollow (syncOutputs next lightctlInit).1.executionState
          (actuationSync faultModeSlot ⟨lightctlInit.executionState, gpio⟩
            next).gpio.gpioOut :=
  fail_safe_actuation _ lightVehicleStateDefault lightShmemZeroed
    reachableExecution_init

end LightCtrl
