import LightCtrl.Actuation.Agreement

/-!
The rules of the arbitration as a table for the reader of the lamps: when each
output of `light_control_compute_target_output` is on, in terms of the bytes
of the request and the vehicle state. The second half compares two fault modes
on the same inputs. The policy of a more severe mode only takes away high beam
and turn lamps and only adds low beam and position lamps.
-/

namespace LightCtrl

/-- What the arbitration promises about a target for these inputs. -/
structure MeetsRules (request : LightOperatorRequest)
    (vehicleState : LightVehicleState) (mode : FaultMode)
    (target : LightTargetOutput) : Prop where
  on_or_off : ∀ value ∈ [target.brakeOn, target.leftTurnOn, target.rightTurnOn,
    target.lowBeamOn, target.highBeamOn, target.markerOn], value = 0 ∨ value = 1
  highBeam : target.highBeamOn = 1 ↔
    vehicleState.ignitionOn ≠ 0 ∧ request.lowBeamReq ≠ 0 ∧
      request.highBeamReq ≠ 0 ∧ request.brakeReq = 0 ∧
      vehicleState.brakePedal = 0 ∧ vehicleState.gear ≠ LightVehicleGear.park ∧
      vehicleState.gear ≠ LightVehicleGear.reverse ∧
      vehicleState.driveMode ≠ LightVehicleDriveMode.parking ∧
      (if vehicleState.driveMode = LightVehicleDriveMode.highway then 30 else 10) ≤
        vehicleState.speedKph ∧
      (mode = .normal ∨ mode = .warn)
  beams_exclusive : ¬ (target.lowBeamOn = 1 ∧ target.highBeamOn = 1)
  one_beam : mode = .degraded ∨ mode = .safeMode ∨
      vehicleState.ignitionOn ≠ 0 ∧
        (vehicleState.ambientLight ≠ LightVehicleAmbient.day ∨
          request.lowBeamReq ≠ 0) →
    (target.lowBeamOn = 1 ↔ target.highBeamOn ≠ 1)
  marker : target.markerOn = 1 ↔
    request.markerReq ≠ 0 ∨
      vehicleState.ambientLight ≠ LightVehicleAmbient.day ∨
      vehicleState.gear = LightVehicleGear.park ∨
      vehicleState.driveMode = LightVehicleDriveMode.parking ∨ mode = .safeMode
  brake : target.brakeOn = 1 ↔
    request.brakeReq ≠ 0 ∨ vehicleState.brakePedal ≠ 0
  turns : vehicleState.hazard = 0 →
    vehicleState.driveMode ≠ LightVehicleDriveMode.emergency →
    ¬ (target.leftTurnOn = 1 ∧ target.rightTurnOn = 1) ∧
      (target.leftTurnOn = 1 ∨ target.rightTurnOn = 1 →
        vehicleState.ignitionOn ≠ 0 ∧ request.brakeReq = 0 ∧
          vehicleState.brakePedal = 0 ∧ vehicleState.speedKph ≤ 120 ∧
          mode ≠ .safeMode) ∧
      (target.leftTurnOn = 1 →
        request.leftTurnReq ≠ 0 ∧ request.rightTurnReq = 0) ∧
      (target.rightTurnOn = 1 →
        request.rightTurnReq ≠ 0 ∧ request.leftTurnReq = 0)

section Outputs

variable (state : LightTargetState)

theorem bit_eq_one_iff (value : Bool) :
    (if value then (1 : UInt8) else 0) = 1 ↔ value = true := by
  cases value <;> decide

theorem targetOutputFromState_bits :
    ∀ value ∈ [(targetOutputFromState state).brakeOn,
      (targetOutputFromState state).leftTurnOn,
      (targetOutputFromState state).rightTurnOn,
      (targetOutputFromState state).lowBeamOn,
      (targetOutputFromState state).highBeamOn,
      (targetOutputFromState state).markerOn], value = 0 ∨ value = 1 := by
  have hbit : ∀ value : Bool, (if value then (1 : UInt8) else 0) = 0 ∨
      (if value then (1 : UInt8) else 0) = 1 := by decide
  simp only [targetOutputFromState, List.forall_mem_cons]
  exact ⟨hbit _, hbit _, hbit _, hbit _, hbit _, hbit _, by simp⟩

end Outputs

section Fields

variable (request : LightOperatorRequest) (vehicleState : LightVehicleState)
  (mode : FaultMode)

theorem mode_byte_eq_iff (other : FaultMode) :
    mode.toByte = other.toByte ↔ mode = other :=
  FaultMode.toByte_injective.eq_iff

theorem arbitrated_brake :
    (arbitratedState request vehicleState mode.toByte).brake =
      brakeActive request vehicleState := by
  rw [arbitratedState, policy_brake, requestedTarget_brake]

theorem arbitrated_position_iff :
    (arbitratedState request vehicleState mode.toByte).position = true ↔
      request.markerReq ≠ 0 ∨ darkEnvironment vehicleState = true ∨
        parkingContext vehicleState = true ∨ mode = .safeMode := by
  simp only [arbitratedState, policy_position, requestedTarget_position,
    mode_byte_eq_iff, Bool.or_eq_true, decide_eq_true_eq, or_assoc]

theorem arbitrated_highBeam_iff :
    (arbitratedState request vehicleState mode.toByte).highBeam = true ↔
      ignitionOn vehicleState = true ∧
        highBeamConditions request vehicleState = true ∧
        mode ≠ .degraded ∧ mode ≠ .safeMode := by
  simp only [arbitratedState, policy_highBeam, requestedTarget_highBeam,
    mode_byte_eq_iff, Bool.and_eq_true, decide_eq_true_eq, and_assoc, ne_eq]

theorem arbitrated_lowBeam_iff :
    (arbitratedState request vehicleState mode.toByte).lowBeam = true ↔
      (ignitionOn vehicleState = true ∧
          highBeamConditions request vehicleState = false ∧
          (request.lowBeamReq ≠ 0 ∨ darkEnvironment vehicleState = true ∨
            reverseContext vehicleState = true)) ∨
        mode = .degraded ∨ mode = .safeMode := by
  simp only [arbitratedState, policy_lowBeam, requestedTarget_lowBeam,
    mode_byte_eq_iff, Bool.or_eq_true, Bool.and_eq_true, Bool.not_eq_true',
    decide_eq_true_eq, and_assoc, or_assoc]

theorem arbitrated_turnLeft_iff :
    (arbitratedState request vehicleState mode.toByte).turnLeft = true ↔
      ignitionOn vehicleState = true ∧
        (hazardActive vehicleState = true ∨
          brakeActive request vehicleState = false ∧
            vehicleState.speedKph ≤ 120 ∧ request.leftTurnReq ≠ 0 ∧
            request.rightTurnReq = 0) ∧
        mode ≠ .safeMode := by
  simp only [arbitratedState, policy_turnLeft, requestedTarget_turnLeft,
    mode_byte_eq_iff, Bool.or_eq_true, Bool.and_eq_true, Bool.not_eq_true',
    decide_eq_true_eq, and_assoc, ne_eq]

theorem arbitrated_turnRight_iff :
    (arbitratedState request vehicleState mode.toByte).turnRight = true ↔
      ignitionOn vehicleState = true ∧
        (hazardActive vehicleState = true ∨
          brakeActive request vehicleState = false ∧
            vehicleState.speedKph ≤ 120 ∧ request.rightTurnReq ≠ 0 ∧
            request.leftTurnReq = 0) ∧
        mode ≠ .safeMode := by
  simp only [arbitratedState, policy_turnRight, requestedTarget_turnRight,
    mode_byte_eq_iff, Bool.or_eq_true, Bool.and_eq_true, Bool.not_eq_true',
    decide_eq_true_eq, and_assoc, ne_eq]

end Fields

section Contexts

variable (request : LightOperatorRequest) (vehicleState : LightVehicleState)

theorem ignitionOn_iff :
    ignitionOn vehicleState = true ↔ vehicleState.ignitionOn ≠ 0 := by
  simp [ignitionOn]

theorem brakeActive_iff :
    brakeActive request vehicleState = true ↔
      request.brakeReq ≠ 0 ∨ vehicleState.brakePedal ≠ 0 := by
  simp [brakeActive]

theorem brakeActive_eq_false_iff :
    brakeActive request vehicleState = false ↔
      request.brakeReq = 0 ∧ vehicleState.brakePedal = 0 := by
  simp [brakeActive]

theorem highBeamConditions_iff :
    highBeamConditions request vehicleState = true ↔
      request.lowBeamReq ≠ 0 ∧ request.highBeamReq ≠ 0 ∧
        request.brakeReq = 0 ∧ vehicleState.brakePedal = 0 ∧
        vehicleState.gear ≠ LightVehicleGear.park ∧
        vehicleState.gear ≠ LightVehicleGear.reverse ∧
        vehicleState.driveMode ≠ LightVehicleDriveMode.parking ∧
        (if vehicleState.driveMode = LightVehicleDriveMode.highway then 30
          else 10) ≤ vehicleState.speedKph := by
  simp only [highBeamConditions, brakeActive, parkingContext, reverseContext,
    highBeamMinSpeed, Bool.and_eq_true, Bool.not_eq_true', Bool.or_eq_false_iff,
    decide_eq_true_eq, decide_eq_false_iff_not, ne_eq, not_not, ge_iff_le]
  constructor
  · rintro ⟨⟨⟨⟨⟨hhigh, hlow⟩, hbrake, hpedal⟩, hpark, hparking⟩, hreverse⟩, hspeed⟩
    exact ⟨hlow, hhigh, hbrake, hpedal, hpark, hreverse, hparking, hspeed⟩
  · rintro ⟨hlow, hhigh, hbrake, hpedal, hpark, hreverse, hparking, hspeed⟩
    exact ⟨⟨⟨⟨⟨hhigh, hlow⟩, hbrake, hpedal⟩, hpark, hparking⟩, hreverse⟩, hspeed⟩

theorem hazardActive_eq_false (hhazard : vehicleState.hazard = 0)
    (hmode : vehicleState.driveMode ≠ LightVehicleDriveMode.emergency) :
    hazardActive vehicleState = false := by
  simp [hazardActive, hhazard, hmode]

end Contexts

section Rules

variable (request : LightOperatorRequest) (vehicleState : LightVehicleState)
  (mode : FaultMode)

theorem arbitrated_highBeam_rule :
    (arbitratedState request vehicleState mode.toByte).highBeam = true ↔
      vehicleState.ignitionOn ≠ 0 ∧ request.lowBeamReq ≠ 0 ∧
        request.highBeamReq ≠ 0 ∧ request.brakeReq = 0 ∧
        vehicleState.brakePedal = 0 ∧ vehicleState.gear ≠ LightVehicleGear.park ∧
        vehicleState.gear ≠ LightVehicleGear.reverse ∧
        vehicleState.driveMode ≠ LightVehicleDriveMode.parking ∧
        (if vehicleState.driveMode = LightVehicleDriveMode.highway then 30
          else 10) ≤ vehicleState.speedKph ∧
        (mode = .normal ∨ mode = .warn) := by
  have hmode : mode ≠ .degraded ∧ mode ≠ .safeMode ↔
      mode = .normal ∨ mode = .warn := by cases mode <;> decide
  rw [arbitrated_highBeam_iff, ignitionOn_iff, highBeamConditions_iff, hmode]
  simp only [and_assoc]

/-- Where some forward beam is called for, the two beams are complementary. -/
theorem arbitrated_one_beam
    (hcalled : mode = .degraded ∨ mode = .safeMode ∨
      ignitionOn vehicleState = true ∧
        (darkEnvironment vehicleState = true ∨ request.lowBeamReq ≠ 0)) :
    (arbitratedState request vehicleState mode.toByte).lowBeam = true ↔
      (arbitratedState request vehicleState mode.toByte).highBeam ≠ true := by
  constructor
  · intro hlow hhigh
    have hdark := arbitratedState_beam_exclusive request vehicleState _ hhigh
    rw [hlow] at hdark
    exact Bool.noConfusion hdark
  · intro hhigh
    rw [arbitrated_lowBeam_iff]
    by_cases hforced : mode = .degraded ∨ mode = .safeMode
    · exact Or.inr hforced
    left
    obtain ⟨hdegraded, hsafe⟩ := not_or.mp hforced
    obtain ⟨hignition, hwanted⟩ : ignitionOn vehicleState = true ∧
        (darkEnvironment vehicleState = true ∨ request.lowBeamReq ≠ 0) := by
      rcases hcalled with hmode | hmode | hcalled
      · exact absurd hmode hdegraded
      · exact absurd hmode hsafe
      · exact hcalled
    refine ⟨hignition, ?_, ?_⟩
    · -- the conditions of the high beam would have lit it
      rw [ne_eq, arbitrated_highBeam_iff] at hhigh
      rw [← Bool.not_eq_true]
      exact fun hconditions =>
        hhigh ⟨hignition, hconditions, hdegraded, hsafe⟩
    · rcases hwanted with hdark | hrequested
      · exact Or.inr (Or.inl hdark)
      · exact Or.inl hrequested

/-- Without a hazard each turn lamp needs its own request alone. -/
theorem arbitrated_turn_rule (hhazard : hazardActive vehicleState = false) :
    ((arbitratedState request vehicleState mode.toByte).turnLeft = true →
      (vehicleState.ignitionOn ≠ 0 ∧ request.brakeReq = 0 ∧
        vehicleState.brakePedal = 0 ∧ vehicleState.speedKph ≤ 120 ∧
        mode ≠ .safeMode) ∧ request.leftTurnReq ≠ 0 ∧ request.rightTurnReq = 0) ∧
    ((arbitratedState request vehicleState mode.toByte).turnRight = true →
      (vehicleState.ignitionOn ≠ 0 ∧ request.brakeReq = 0 ∧
        vehicleState.brakePedal = 0 ∧ vehicleState.speedKph ≤ 120 ∧
        mode ≠ .safeMode) ∧
          request.rightTurnReq ≠ 0 ∧ request.leftTurnReq = 0) := by
  rw [arbitrated_turnLeft_iff, arbitrated_turnRight_iff, hhazard, ignitionOn_iff,
    brakeActive_eq_false_iff]
  simp only [Bool.false_eq_true, false_or]
  constructor
  · rintro ⟨hignition, ⟨⟨hbrake, hpedal⟩, hspeed, hturn⟩, hsafe⟩
    exact ⟨⟨hignition, hbrake, hpedal, hspeed, hsafe⟩, hturn⟩
  · rintro ⟨hignition, ⟨⟨hbrake, hpedal⟩, hspeed, hturn⟩, hsafe⟩
    exact ⟨⟨hignition, hbrake, hpedal, hspeed, hsafe⟩, hturn⟩

theorem arbitrated_beams_exclusive :
    ¬ ((targetOutputFromState
        (arbitratedState request vehicleState mode.toByte)).lowBeamOn = 1 ∧
      (targetOutputFromState
        (arbitratedState request vehicleState mode.toByte)).highBeamOn = 1) := by
  rintro ⟨hlow, hhigh⟩
  have hdark := arbitratedState_beam_exclusive request vehicleState _
    ((bit_eq_one_iff _).mp hhigh)
  rw [(bit_eq_one_iff _).mp hlow] at hdark
  exact Bool.noConfusion hdark

/-- Every target the arbitration computes follows the rules, whatever the
bytes of the request and of the vehicle state are. -/
theorem computeTargetOutput_meets_rules :
    MeetsRules request vehicleState mode
      (lightControlComputeTargetOutput request vehicleState mode.toByte) := by
  rw [computeTargetOutput_eq]
  constructor
  case on_or_off => exact targetOutputFromState_bits _
  case highBeam =>
    exact (bit_eq_one_iff _).trans
      (arbitrated_highBeam_rule request vehicleState mode)
  case beams_exclusive => exact arbitrated_beams_exclusive request vehicleState mode
  case one_beam =>
    intro hcalled
    have hbeams := arbitrated_one_beam request vehicleState mode
    rw [ignitionOn_iff, darkEnvironment, decide_eq_true_eq] at hbeams
    exact (bit_eq_one_iff _).trans
      ((hbeams hcalled).trans (bit_eq_one_iff _).not.symm)
  case marker =>
    refine (bit_eq_one_iff _).trans ?_
    rw [arbitrated_position_iff, darkEnvironment, parkingContext,
      Bool.or_eq_true, decide_eq_true_eq, decide_eq_true_eq, decide_eq_true_eq,
      or_assoc]
  case brake =>
    refine (bit_eq_one_iff _).trans ?_
    rw [arbitrated_brake, brakeActive_iff]
  case turns =>
    intro hhazard hemergency
    obtain ⟨hleft, hright⟩ := arbitrated_turn_rule request vehicleState mode
      (hazardActive_eq_false vehicleState hhazard hemergency)
    have hleft := fun hon => hleft ((bit_eq_one_iff _).mp hon)
    have hright := fun hon => hright ((bit_eq_one_iff _).mp hon)
    refine ⟨?_, ?_, fun hon => (hleft hon).2, fun hon => (hright hon).2⟩
    · rintro ⟨hleftOn, hrightOn⟩
      exact (hleft hleftOn).2.1 (hright hrightOn).2.2
    · rintro (hon | hon)
      · exact (hleft hon).1
      · exact (hright hon).1

end Rules

section Severity

/-- The second target is no less conservative than the first: fewer high beam
and turn lamps, more low beam and position lamps, the same brake lamp, and a
forward beam is never lost. -/
structure NoLessConservative (lower higher : LightTargetOutput) : Prop where
  highBeam : higher.highBeamOn = 1 → lower.highBeamOn = 1
  leftTurn : higher.leftTurnOn = 1 → lower.leftTurnOn = 1
  rightTurn : higher.rightTurnOn = 1 → lower.rightTurnOn = 1
  lowBeam : lower.lowBeamOn = 1 → higher.lowBeamOn = 1
  marker : lower.markerOn = 1 → higher.markerOn = 1
  brake : higher.brakeOn = lower.brakeOn
  forward : lower.lowBeamOn = 1 ∨ lower.highBeamOn = 1 →
    higher.lowBeamOn = 1 ∨ higher.highBeamOn = 1

variable (request : LightOperatorRequest) (vehicleState : LightVehicleState)
  {lower higher : FaultMode}

theorem FaultMode.safeMode_of_le (hle : lower ≤ higher)
    (hsafe : lower = .safeMode) : higher = .safeMode := by
  subst hsafe
  revert hle
  cases higher <;> decide

theorem FaultMode.reduced_of_le (hle : lower ≤ higher)
    (hreduced : lower = .degraded ∨ lower = .safeMode) :
    higher = .degraded ∨ higher = .safeMode := by
  revert hle hreduced
  cases lower <;> cases higher <;> decide

/-- A lit high beam survives only if the more severe mode still allows it, and
then the milder one does too. -/
theorem arbitrated_highBeam_mono (hle : lower ≤ higher)
    (hhigh : (arbitratedState request vehicleState higher.toByte).highBeam = true) :
    (arbitratedState request vehicleState lower.toByte).highBeam = true := by
  rw [arbitrated_highBeam_iff] at hhigh ⊢
  obtain ⟨hignition, hconditions, hdegraded, hsafe⟩ := hhigh
  have hreduced : ¬ (lower = .degraded ∨ lower = .safeMode) := by
    intro h
    rcases FaultMode.reduced_of_le hle h with h | h
    · exact hdegraded h
    · exact hsafe h
  obtain ⟨hnotDegraded, hnotSafe⟩ := not_or.mp hreduced
  exact ⟨hignition, hconditions, hnotDegraded, hnotSafe⟩

theorem arbitrated_lowBeam_mono (hle : lower ≤ higher)
    (hlow : (arbitratedState request vehicleState lower.toByte).lowBeam = true) :
    (arbitratedState request vehicleState higher.toByte).lowBeam = true := by
  rw [arbitrated_lowBeam_iff] at hlow ⊢
  exact hlow.imp_right (FaultMode.reduced_of_le hle)

/-- A high beam the more severe mode puts out is replaced by the low beam. -/
theorem arbitrated_forward_mono (hle : lower ≤ higher)
    (hforward : (arbitratedState request vehicleState lower.toByte).lowBeam = true ∨
      (arbitratedState request vehicleState lower.toByte).highBeam = true) :
    (arbitratedState request vehicleState higher.toByte).lowBeam = true ∨
      (arbitratedState request vehicleState higher.toByte).highBeam = true := by
  rcases hforward with hlow | hhigh
  · exact Or.inl (arbitrated_lowBeam_mono request vehicleState hle hlow)
  · rw [arbitrated_lowBeam_iff, arbitrated_highBeam_iff]
    rw [arbitrated_highBeam_iff] at hhigh
    obtain ⟨hignition, hconditions, -, -⟩ := hhigh
    by_cases hreduced : higher = .degraded ∨ higher = .safeMode
    · exact Or.inl (Or.inr hreduced)
    · obtain ⟨hdegraded, hsafe⟩ := not_or.mp hreduced
      exact Or.inr ⟨hignition, hconditions, hdegraded, hsafe⟩

/-- On the same inputs a more severe fault mode never asks for a less
conservative target. -/
theorem computeTargetOutput_severity_mono (hle : lower ≤ higher) :
    NoLessConservative
      (lightControlComputeTargetOutput request vehicleState lower.toByte)
      (lightControlComputeTargetOutput request vehicleState higher.toByte) := by
  have hsafe : higher ≠ .safeMode → lower ≠ .safeMode :=
    fun hhigher hlower => hhigher (FaultMode.safeMode_of_le hle hlower)
  simp only [computeTargetOutput_eq]
  constructor
  case highBeam =>
    simp only [targetOutputFromState, bit_eq_one_iff]
    exact arbitrated_highBeam_mono request vehicleState hle
  case leftTurn =>
    simp only [targetOutputFromState, bit_eq_one_iff]
    rw [arbitrated_turnLeft_iff, arbitrated_turnLeft_iff]
    exact fun ⟨hignition, hturn, hmode⟩ => ⟨hignition, hturn, hsafe hmode⟩
  case rightTurn =>
    simp only [targetOutputFromState, bit_eq_one_iff]
    rw [arbitrated_turnRight_iff, arbitrated_turnRight_iff]
    exact fun ⟨hignition, hturn, hmode⟩ => ⟨hignition, hturn, hsafe hmode⟩
  case lowBeam =>
    simp only [targetOutputFromState, bit_eq_one_iff]
    exact arbitrated_lowBeam_mono request vehicleState hle
  case marker =>
    simp only [targetOutputFromState, bit_eq_one_iff]
    rw [arbitrated_position_iff, arbitrated_position_iff]
    exact Or.imp_right (Or.imp_right (Or.imp_right (FaultMode.safeMode_of_le hle)))
  case brake =>
    simp only [targetOutputFromState, arbitrated_brake]
  case forward =>
    simp only [targetOutputFromState, bit_eq_one_iff]
    exact arbitrated_forward_mono request vehicleState hle

/-- Both beams requested at 50 km/h: DEGRADED keeps the low beam of NORMAL's
high beam. -/
theorem severity_mono_high_beam_request :
    NoLessConservative
      (lightControlComputeTargetOutput
        { lightOperatorRequestInit with lowBeamReq := 1, highBeamReq := 1 }
        { lightVehicleStateDefault with speedKph := 50 } FaultMode.normal.toByte)
      (lightControlComputeTargetOutput
        { lightOperatorRequestInit with lowBeamReq := 1, highBeamReq := 1 }
        { lightVehicleStateDefault with speedKph := 50 }
        FaultMode.degraded.toByte) :=
  computeTargetOutput_severity_mono _ _ (by decide)

end Severity

end LightCtrl
