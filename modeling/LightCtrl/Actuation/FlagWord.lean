import LightCtrl.Actuation.Rules
import LightCtrl.Core.Policy

/-!
The published flag word and its two decoders. The encoder sets one flag for
each output, and no two outputs share a flag. `light_protocol.c` reads every
flag by itself. `light_policy.c` lets one flag of a pair hide the other, so it
agrees as long as no pair is published together.
-/

namespace LightCtrl

/-- Setting the flags of the fields that are on. -/
def setFlags (fields : List (UInt32 × Bool)) (word : UInt32) : UInt32 :=
  fields.foldl (fun word field => if field.2 then word ||| field.1 else word) word

theorem or_and_ne_zero_iff_of_flag (word flag probe : UInt32) :
    (word ||| flag) &&& probe ≠ 0 ↔ word &&& probe ≠ 0 ∨ flag &&& probe ≠ 0 := by
  have hdistrib : (word ||| flag) &&& probe = word &&& probe ||| flag &&& probe := by
    apply UInt32.toBitVec_inj.mp
    simp only [UInt32.toBitVec_and, UInt32.toBitVec_or, BitVec.and_or_distrib_right]
  rw [hdistrib, ne_eq, UInt32.or_eq_zero_iff, not_and_or]

/-- A word shows the probe if it did before, or if some field that is on does. -/
theorem setFlags_and_ne_zero_iff (fields : List (UInt32 × Bool))
    (word probe : UInt32) :
    setFlags fields word &&& probe ≠ 0 ↔
      word &&& probe ≠ 0 ∨
        ∃ field ∈ fields, field.2 = true ∧ field.1 &&& probe ≠ 0 := by
  induction fields generalizing word with
  | nil => simp [setFlags]
  | cons field rest ih =>
      have hstep : setFlags (field :: rest) word =
          setFlags rest (if field.2 then word ||| field.1 else word) := rfl
      rw [hstep, ih, List.exists_mem_cons_iff]
      cases field.2 with
      | true => simp only [if_true, or_and_ne_zero_iff_of_flag, true_and, or_assoc]
      | false => simp only [Bool.false_eq_true, if_false, false_and, false_or]

/-- When no two flags share a bit, each one tells its own field. -/
theorem setFlags_has_iff {fields : List (UInt32 × Bool)}
    (hseparate : fields.Pairwise fun first second => first.1 &&& second.1 = 0)
    (hnonzero : ∀ field ∈ fields, field.1 ≠ 0) {field : UInt32 × Bool}
    (hfield : field ∈ fields) :
    setFlags fields 0 &&& field.1 ≠ 0 ↔ field.2 = true := by
  have hsymmetric : Std.Symm fun first second : UInt32 × Bool =>
      first.1 &&& second.1 = 0 :=
    ⟨fun first second hdisjoint => by rwa [UInt32.and_comm]⟩
  rw [setFlags_and_ne_zero_iff, UInt32.zero_and]
  constructor
  · rintro (hzero | ⟨other, hother, hon, hshared⟩)
    · exact absurd rfl hzero
    · by_cases hsame : other = field
      · exact hsame ▸ hon
      · exact absurd (hseparate.forall hother hfield hsame) hshared
  · intro hon
    refine Or.inr ⟨field, hfield, hon, ?_⟩
    rw [UInt32.and_self]
    exact hnonzero field hfield

/-- The six flags and the outputs they stand for. -/
def outputFlags (targetOutput : LightTargetOutput) : List (UInt32 × Bool) :=
  [(LightAllow.brake, targetOutput.brakeOn ≠ 0),
    (LightAllow.turnLeft, targetOutput.leftTurnOn ≠ 0),
    (LightAllow.turnRight, targetOutput.rightTurnOn ≠ 0),
    (LightAllow.lowBeam, targetOutput.lowBeamOn ≠ 0),
    (LightAllow.highBeam, targetOutput.highBeamOn ≠ 0),
    (LightAllow.position, targetOutput.markerOn ≠ 0)]

section Encoder

variable (targetOutput : LightTargetOutput)

theorem toAllowFlags_eq_setFlags :
    lightTargetOutputToAllowFlags targetOutput =
      setFlags (outputFlags targetOutput) 0 := by
  simp only [lightTargetOutputToAllowFlags, outputFlags, setFlags, List.foldl_cons,
    List.foldl_nil, decide_eq_true_eq]

/-- The word carries each flag exactly when its output is on. -/
theorem toAllowFlags_has_iff {flag : UInt32} {on : Bool}
    (hflag : (flag, on) ∈ outputFlags targetOutput) :
    lightTargetOutputToAllowFlags targetOutput &&& flag ≠ 0 ↔ on = true := by
  have hflags : (outputFlags targetOutput).map Prod.fst =
      [0x01, 0x02, 0x04, 0x08, 0x10, 0x20] := rfl
  have hseparate : ((outputFlags targetOutput).map Prod.fst).Pairwise
      fun first second => first &&& second = 0 := by
    rw [hflags]
    decide
  have hnonzero : ∀ flag ∈ (outputFlags targetOutput).map Prod.fst, flag ≠ 0 := by
    rw [hflags]
    simp
  rw [toAllowFlags_eq_setFlags]
  exact setFlags_has_iff (List.pairwise_map.mp hseparate)
    (fun field hfield => hnonzero _ (List.mem_map_of_mem hfield)) hflag

variable {targetOutput} {flag : UInt32} {field : UInt8}

/-- For an output that is off or on, testing its flag is testing it for on. -/
theorem flag_ne_zero_iff (hflag : (flag, decide (field ≠ 0)) ∈ outputFlags targetOutput)
    (hbit : field = 0 ∨ field = 1) :
    lightTargetOutputToAllowFlags targetOutput &&& flag ≠ 0 ↔ field = 1 := by
  rw [toAllowFlags_has_iff targetOutput hflag, decide_eq_true_iff]
  rcases hbit with rfl | rfl
  · decide
  · decide

end Encoder

/-- An output whose six fields are all off or on. -/
structure OffOrOn (targetOutput : LightTargetOutput) : Prop where
  brake : targetOutput.brakeOn = 0 ∨ targetOutput.brakeOn = 1
  leftTurn : targetOutput.leftTurnOn = 0 ∨ targetOutput.leftTurnOn = 1
  rightTurn : targetOutput.rightTurnOn = 0 ∨ targetOutput.rightTurnOn = 1
  lowBeam : targetOutput.lowBeamOn = 0 ∨ targetOutput.lowBeamOn = 1
  highBeam : targetOutput.highBeamOn = 0 ∨ targetOutput.highBeamOn = 1
  marker : targetOutput.markerOn = 0 ∨ targetOutput.markerOn = 1

/-- The six flags of a published target, each telling whether its output is on. -/
structure FlagsTell (targetOutput : LightTargetOutput) (allowFlags : UInt32) :
    Prop where
  brake : allowFlags &&& LightAllow.brake ≠ 0 ↔ targetOutput.brakeOn = 1
  leftTurn : allowFlags &&& LightAllow.turnLeft ≠ 0 ↔ targetOutput.leftTurnOn = 1
  rightTurn : allowFlags &&& LightAllow.turnRight ≠ 0 ↔ targetOutput.rightTurnOn = 1
  lowBeam : allowFlags &&& LightAllow.lowBeam ≠ 0 ↔ targetOutput.lowBeamOn = 1
  highBeam : allowFlags &&& LightAllow.highBeam ≠ 0 ↔ targetOutput.highBeamOn = 1
  marker : allowFlags &&& LightAllow.position ≠ 0 ↔ targetOutput.markerOn = 1

section Decoders

variable {targetOutput : LightTargetOutput}

theorem OffOrOn.flagsTell (h : OffOrOn targetOutput) :
    FlagsTell targetOutput (lightTargetOutputToAllowFlags targetOutput) where
  brake := flag_ne_zero_iff (by simp [outputFlags]) h.brake
  leftTurn := flag_ne_zero_iff (by simp [outputFlags]) h.leftTurn
  rightTurn := flag_ne_zero_iff (by simp [outputFlags]) h.rightTurn
  lowBeam := flag_ne_zero_iff (by simp [outputFlags]) h.lowBeam
  highBeam := flag_ne_zero_iff (by simp [outputFlags]) h.highBeam
  marker := flag_ne_zero_iff (by simp [outputFlags]) h.marker

/-- Reading every flag by itself gives the target back. -/
theorem OffOrOn.fromAllowFlags (h : OffOrOn targetOutput) :
    lightTargetOutputFromAllowFlags (lightTargetOutputToAllowFlags targetOutput) =
      targetOutput := by
  have hbit : ∀ field : UInt8, field = 0 ∨ field = 1 →
      (if field = 1 then (1 : UInt8) else 0) = field := by
    rintro field (rfl | rfl) <;> rfl
  obtain ⟨hbrake, hleft, hright, hlow, hhigh, hmarker⟩ := h.flagsTell
  simp only [lightTargetOutputFromAllowFlags, hbrake, hleft, hright, hlow, hhigh,
    hmarker, hbit _ h.brake, hbit _ h.leftTurn, hbit _ h.rightTurn,
    hbit _ h.lowBeam, hbit _ h.highBeam, hbit _ h.marker]

end Decoders

/-- Both decoders of the flag word of a target give the target. -/
structure DecodersAgree (targetOutput : LightTargetOutput) : Prop where
  fromFlags : lightTargetOutputFromAllowFlags
    (lightTargetOutputToAllowFlags targetOutput) = targetOutput
  brake : (lightPolicyTargetFromFlags
    (lightTargetOutputToAllowFlags targetOutput)).brake = true ↔
      targetOutput.brakeOn = 1
  turnLeft : (lightPolicyTargetFromFlags
    (lightTargetOutputToAllowFlags targetOutput)).turnLeft = true ↔
      targetOutput.leftTurnOn = 1
  turnRight : (lightPolicyTargetFromFlags
    (lightTargetOutputToAllowFlags targetOutput)).turnRight = true ↔
      targetOutput.rightTurnOn = 1
  lowBeam : (lightPolicyTargetFromFlags
    (lightTargetOutputToAllowFlags targetOutput)).lowBeam = true ↔
      targetOutput.lowBeamOn = 1
  highBeam : (lightPolicyTargetFromFlags
    (lightTargetOutputToAllowFlags targetOutput)).highBeam = true ↔
      targetOutput.highBeamOn = 1
  position : (lightPolicyTargetFromFlags
    (lightTargetOutputToAllowFlags targetOutput)).position = true ↔
      targetOutput.markerOn = 1

/-- The second of a pair is read only while the first is off. -/
theorem shadowed_iff {first second : Prop} [Decidable first] [Decidable second] :
    ((if first then false else decide second) = true ↔ second) ↔
      ¬ (first ∧ second) := by
  by_cases hfirst : first <;> by_cases hsecond : second <;> simp [hfirst, hsecond]

/-- The decoders agree on a target exactly when it lights no pair. -/
theorem OffOrOn.decodersAgree_iff {targetOutput : LightTargetOutput}
    (h : OffOrOn targetOutput) :
    DecodersAgree targetOutput ↔
      ¬ (targetOutput.leftTurnOn = 1 ∧ targetOutput.rightTurnOn = 1) ∧
        ¬ (targetOutput.lowBeamOn = 1 ∧ targetOutput.highBeamOn = 1) := by
  rw [and_comm (a := targetOutput.lowBeamOn = 1)]
  obtain ⟨hbrake, hleft, hright, hlow, hhigh, hmarker⟩ := h.flagsTell
  rw [← shadowed_iff, ← shadowed_iff]
  constructor
  · intro hagree
    have hturn := hagree.turnRight
    have hbeam := hagree.lowBeam
    simp only [lightPolicyTargetFromFlags, hleft, hright, hlow, hhigh] at hturn hbeam
    exact ⟨hturn, hbeam⟩
  · rintro ⟨hturn, hbeam⟩
    constructor
    case fromFlags => exact h.fromAllowFlags
    case turnRight => simpa only [lightPolicyTargetFromFlags, hleft, hright] using hturn
    case lowBeam => simpa only [lightPolicyTargetFromFlags, hlow, hhigh] using hbeam
    case brake => exact decide_eq_true_iff.trans hbrake
    case turnLeft => exact decide_eq_true_iff.trans hleft
    case highBeam => exact decide_eq_true_iff.trans hhigh
    case position => exact decide_eq_true_iff.trans hmarker

section Published

variable (request : LightOperatorRequest) (vehicleState : LightVehicleState)
  (mode : FaultMode)

theorem computeTargetOutput_offOrOn :
    OffOrOn (lightControlComputeTargetOutput request vehicleState mode.toByte) := by
  have hbits := targetOutputFromState_bits
    (arbitratedState request vehicleState mode.toByte)
  rw [← computeTargetOutput_eq] at hbits
  simp only [List.forall_mem_cons] at hbits
  obtain ⟨hbrake, hleft, hright, hlow, hhigh, hmarker, -⟩ := hbits
  exact ⟨hbrake, hleft, hright, hlow, hhigh, hmarker⟩

/-- The arbitration turns both turn lamps on for a hazard only. -/
theorem both_turns_iff :
    (lightControlComputeTargetOutput request vehicleState mode.toByte).leftTurnOn = 1 ∧
      (lightControlComputeTargetOutput request vehicleState mode.toByte).rightTurnOn
        = 1 ↔
    vehicleState.ignitionOn ≠ 0 ∧
      (vehicleState.hazard ≠ 0 ∨
        vehicleState.driveMode = LightVehicleDriveMode.emergency) ∧
      mode ≠ .safeMode := by
  have hhazard : hazardActive vehicleState = true ↔ vehicleState.hazard ≠ 0 ∨
      vehicleState.driveMode = LightVehicleDriveMode.emergency := by
    simp [hazardActive]
  rw [computeTargetOutput_eq]
  simp only [targetOutputFromState, bit_eq_one_iff]
  rw [arbitrated_turnLeft_iff, arbitrated_turnRight_iff, ← hhazard, ignitionOn_iff]
  constructor
  · rintro ⟨⟨hignition, hleft, hsafe⟩, -, hright, -⟩
    refine ⟨hignition, ?_, hsafe⟩
    rcases hleft with hactive | ⟨-, -, hleftReq, -⟩
    · exact hactive
    rcases hright with hactive | ⟨-, -, -, hnoLeft⟩
    · exact hactive
    · exact absurd hnoLeft hleftReq
  · rintro ⟨hignition, hactive, hsafe⟩
    exact ⟨⟨hignition, Or.inl hactive, hsafe⟩, hignition, Or.inl hactive, hsafe⟩

/-- Both decoders give back what the scheduler publishes, unless it publishes
a hazard: then the policy decoder loses the right turn lamp. -/
theorem published_decoders_agree_iff :
    DecodersAgree (lightControlComputeTargetOutput request vehicleState mode.toByte) ↔
      ¬ (vehicleState.ignitionOn ≠ 0 ∧
        (vehicleState.hazard ≠ 0 ∨
          vehicleState.driveMode = LightVehicleDriveMode.emergency) ∧
        mode ≠ .safeMode) := by
  rw [(computeTargetOutput_offOrOn request vehicleState mode).decodersAgree_iff,
    both_turns_iff]
  apply and_iff_left
  rw [computeTargetOutput_eq]
  exact arbitrated_beams_exclusive request vehicleState mode

/-- A hazard in NORMAL, from the default vehicle state. -/
theorem decoders_disagree_on_hazard :
    ¬ ∀ (request : LightOperatorRequest) (vehicleState : LightVehicleState)
      (mode : FaultMode),
      DecodersAgree
        (lightControlComputeTargetOutput request vehicleState mode.toByte) := by
  intro hagree
  have hturn := (hagree lightOperatorRequestInit
    { lightVehicleStateDefault with hazard := 1 } .normal).turnRight
  exact absurd hturn (by decide)

end Published

end LightCtrl
