import LightCtrl.Core.VehicleState
import LightCtrl.Library.LastWrite

/-!
The vehicle state after a list of requests. A table of the fields and their
largest values replaces the three switches of `light_vehicle_state.c`: a
request for a field of the table with a value in range writes that field, and
any other request writes nothing. Six of the fields are bytes while a request
carries sixteen bits; every value in range fits.
-/

namespace LightCtrl

open Runs LastWrite

/-- The fields of the vehicle state and the largest value each admits. -/
def vehicleFieldBound (field : UInt8) : Option UInt16 :=
  if field = LightVehicleField.speedKph then some 180
  else if field = LightVehicleField.ignitionOn then some 1
  else if field = LightVehicleField.brakePedal then some 1
  else if field = LightVehicleField.gear then some 3
  else if field = LightVehicleField.ambientLight then some 2
  else if field = LightVehicleField.hazard then some 1
  else if field = LightVehicleField.driveMode then some 3
  else none

/-- The content of a field at the width of a request's value. -/
def vehicleFieldValue (state : LightVehicleState) (field : UInt8) : UInt16 :=
  if field = LightVehicleField.speedKph then state.speedKph
  else if field = LightVehicleField.ignitionOn then state.ignitionOn.toUInt16
  else if field = LightVehicleField.brakePedal then state.brakePedal.toUInt16
  else if field = LightVehicleField.gear then state.gear.toUInt16
  else if field = LightVehicleField.ambientLight then state.ambientLight.toUInt16
  else if field = LightVehicleField.hazard then state.hazard.toUInt16
  else if field = LightVehicleField.driveMode then state.driveMode.toUInt16
  else 0

/-- The request names a field and its value is in the range of that field. -/
def LightVehicleStateRequest.admissible (request : LightVehicleStateRequest) :
    Bool :=
  match vehicleFieldBound request.field with
  | some bound => request.value ≤ bound
  | none => false

/-- One request of the list. -/
def vehicleStep (state : LightVehicleState) (request : LightVehicleStateRequest) :
    LightVehicleState :=
  (lightVehicleStateApplyRequest state request).nextState

section Table

/-- What holds of the seven fields of the table holds of all it knows. -/
@[elab_as_elim] theorem vehicleFieldBound_cases {motive : UInt8 → UInt16 → Prop}
    {field : UInt8} {bound : UInt16}
    (hbound : vehicleFieldBound field = some bound)
    (hfields : motive LightVehicleField.speedKph 180 ∧
      motive LightVehicleField.ignitionOn 1 ∧
      motive LightVehicleField.brakePedal 1 ∧ motive LightVehicleField.gear 3 ∧
      motive LightVehicleField.ambientLight 2 ∧ motive LightVehicleField.hazard 1 ∧
      motive LightVehicleField.driveMode 3) :
    motive field bound := by
  obtain ⟨hspeed, hignition, hbrake, hgear, hambient, hhazard, hmode⟩ := hfields
  unfold vehicleFieldBound at hbound
  split_ifs at hbound with h1 h2 h3 h4 h5 h6 h7 <;>
    obtain rfl := Option.some.inj hbound
  · exact h1 ▸ hspeed
  · exact h2 ▸ hignition
  · exact h3 ▸ hbrake
  · exact h4 ▸ hgear
  · exact h5 ▸ hambient
  · exact h6 ▸ hhazard
  · exact h7 ▸ hmode

theorem vehicleFieldBound_none {field : UInt8}
    (hbound : vehicleFieldBound field = none) :
    field ≠ LightVehicleField.speedKph ∧ field ≠ LightVehicleField.ignitionOn ∧
      field ≠ LightVehicleField.brakePedal ∧ field ≠ LightVehicleField.gear ∧
      field ≠ LightVehicleField.ambientLight ∧ field ≠ LightVehicleField.hazard ∧
      field ≠ LightVehicleField.driveMode := by
  unfold vehicleFieldBound at hbound
  split_ifs at hbound with h1 h2 h3 h4 h5 h6 h7
  exact ⟨h1, h2, h3, h4, h5, h6, h7⟩

/-- The three switches of the source agree on a field of the table. -/
theorem switches_of_bound {field : UInt8} {bound : UInt16}
    (hbound : vehicleFieldBound field = some bound) (value : UInt16)
    (state : LightVehicleState) :
    requestFieldIsKnown ⟨field, value⟩ = true ∧
      requestValueIsValid ⟨field, value⟩ = decide (value ≤ bound) ∧
      (writeRequestedField state ⟨field, value⟩).2 = true := by
  refine vehicleFieldBound_cases hbound ?_
  exact ⟨⟨rfl, rfl, rfl⟩, ⟨rfl, rfl, rfl⟩, ⟨rfl, rfl, rfl⟩, ⟨rfl, rfl, rfl⟩,
    ⟨rfl, rfl, rfl⟩, ⟨rfl, rfl, rfl⟩, ⟨rfl, rfl, rfl⟩⟩

theorem requestFieldIsKnown_of_none {field : UInt8}
    (hbound : vehicleFieldBound field = none) (value : UInt16) :
    requestFieldIsKnown ⟨field, value⟩ = false := by
  obtain ⟨h1, h2, h3, h4, h5, h6, h7⟩ := vehicleFieldBound_none hbound
  simp [requestFieldIsKnown, h1, h2, h3, h4, h5, h6, h7]

/-- A value that fits in a byte survives the narrowing. -/
theorem toUInt8_toUInt16_of_le {value : UInt16} (hvalue : value ≤ 255) :
    value.toUInt8.toUInt16 = value := by
  have hsmall : value.toNat ≤ 255 := UInt16.le_iff_toNat_le.mp hvalue
  apply UInt16.toNat_inj.mp
  rw [UInt8.toNat_toUInt16, UInt16.toNat_toUInt8]
  omega

/-- Reading a field looks at the one member it names. -/
theorem vehicleFieldValue_congr {first second : LightVehicleState} {field : UInt8}
    (hspeed : field = LightVehicleField.speedKph → first.speedKph = second.speedKph)
    (hignition : field = LightVehicleField.ignitionOn →
      first.ignitionOn = second.ignitionOn)
    (hbrake : field = LightVehicleField.brakePedal →
      first.brakePedal = second.brakePedal)
    (hgear : field = LightVehicleField.gear → first.gear = second.gear)
    (hambient : field = LightVehicleField.ambientLight →
      first.ambientLight = second.ambientLight)
    (hhazard : field = LightVehicleField.hazard → first.hazard = second.hazard)
    (hmode : field = LightVehicleField.driveMode →
      first.driveMode = second.driveMode) :
    vehicleFieldValue first field = vehicleFieldValue second field := by
  unfold vehicleFieldValue
  split_ifs with h1 h2 h3 h4 h5 h6 h7
  · exact hspeed h1
  · rw [hignition h2]
  · rw [hbrake h3]
  · rw [hgear h4]
  · rw [hambient h5]
  · rw [hhazard h6]
  · rw [hmode h7]
  · rfl

/-- A write in range stores the value itself and leaves the other fields. -/
theorem vehicleFieldValue_write {named : UInt8} {bound : UInt16}
    (hbound : vehicleFieldBound named = some bound) {value : UInt16}
    (hvalue : value ≤ bound) (state : LightVehicleState) (field : UInt8) :
    vehicleFieldValue (writeRequestedField state ⟨named, value⟩).1 field =
      if named = field then value else vehicleFieldValue state field := by
  have hbyte : ∀ limit ≤ 255, value ≤ limit → value.toUInt8.toUInt16 = value :=
    fun limit hlimit hle => toUInt8_toUInt16_of_le (UInt16.le_trans hle hlimit)
  split_ifs with hfield
  · subst hfield
    revert hvalue
    refine vehicleFieldBound_cases hbound ?_
    exact ⟨fun _ => rfl, hbyte 1 (by decide), hbyte 1 (by decide),
      hbyte 3 (by decide), hbyte 2 (by decide), hbyte 1 (by decide),
      hbyte 3 (by decide)⟩
  · revert hfield
    refine vehicleFieldBound_cases hbound ?_
    refine ⟨?_, ?_, ?_, ?_, ?_, ?_, ?_⟩ <;> intro hfield <;>
      apply vehicleFieldValue_congr <;>
      first | exact fun _ => rfl | exact fun heq => absurd heq.symm hfield

/-- Different states differ in some field. -/
theorem vehicleState_ext {first second : LightVehicleState}
    (hfields : ∀ field, vehicleFieldValue first field =
      vehicleFieldValue second field) : first = second := by
  have hspeed : first.speedKph = second.speedKph :=
    hfields LightVehicleField.speedKph
  have hignition : first.ignitionOn = second.ignitionOn :=
    UInt8.toUInt16_inj.mp (hfields LightVehicleField.ignitionOn)
  have hbrake : first.brakePedal = second.brakePedal :=
    UInt8.toUInt16_inj.mp (hfields LightVehicleField.brakePedal)
  have hgear : first.gear = second.gear :=
    UInt8.toUInt16_inj.mp (hfields LightVehicleField.gear)
  have hambient : first.ambientLight = second.ambientLight :=
    UInt8.toUInt16_inj.mp (hfields LightVehicleField.ambientLight)
  have hhazard : first.hazard = second.hazard :=
    UInt8.toUInt16_inj.mp (hfields LightVehicleField.hazard)
  have hmode : first.driveMode = second.driveMode :=
    UInt8.toUInt16_inj.mp (hfields LightVehicleField.driveMode)
  cases first
  cases second
  simp only [LightVehicleState.mk.injEq]
  exact ⟨hspeed, hbrake, hignition, hgear, hambient, hhazard, hmode⟩

end Table

section Step

variable (state : LightVehicleState) (request : LightVehicleStateRequest)

theorem applyRequest_accepted_iff :
    (lightVehicleStateApplyRequest state request).accepted = true ↔
      request.admissible = true := by
  obtain ⟨field, value⟩ := request
  unfold lightVehicleStateApplyRequest LightVehicleStateRequest.admissible
  cases hbound : vehicleFieldBound field with
  | none => simp [requestFieldIsKnown_of_none hbound]
  | some bound =>
      obtain ⟨hknown, hvalid, hwritten⟩ := switches_of_bound hbound value state
      by_cases hvalue : value ≤ bound
      · simp [hknown, hvalid, hwritten, hvalue]
      · simp [hknown, hvalid, hvalue]

/-- The reason of a rejection tells an unknown field from a bad value. -/
theorem applyRequest_rejected (hrejected : request.admissible = false) :
    lightVehicleStateApplyRequest state request =
      ⟨request, state, false, false,
        if vehicleFieldBound request.field = none then .invalidRequest
        else .invalidValue⟩ := by
  obtain ⟨field, value⟩ := request
  unfold lightVehicleStateApplyRequest
  unfold LightVehicleStateRequest.admissible at hrejected
  cases hbound : vehicleFieldBound field with
  | none => simp [requestFieldIsKnown_of_none hbound]
  | some bound =>
      obtain ⟨hknown, hvalid, -⟩ := switches_of_bound hbound value state
      have hvalue : ¬ value ≤ bound := by simpa [hbound] using hrejected
      simp [hknown, hvalid, hvalue]

/-- Every field is a register that its admissible requests overwrite. -/
theorem vehicleFieldValue_step (field : UInt8) :
    vehicleFieldValue (vehicleStep state request) field =
      if request.field = field && request.admissible then request.value
      else vehicleFieldValue state field := by
  cases hadmissible : request.admissible with
  | false =>
      rw [vehicleStep, applyRequest_rejected state request hadmissible]
      simp
  | true =>
      obtain ⟨named, value⟩ := request
      unfold LightVehicleStateRequest.admissible at hadmissible
      cases hbound : vehicleFieldBound named with
      | none => simp [hbound] at hadmissible
      | some bound =>
          have hvalue : value ≤ bound := by simpa [hbound] using hadmissible
          obtain ⟨hknown, hvalid, -⟩ := switches_of_bound hbound value state
          have hstep : vehicleStep state ⟨named, value⟩ =
              (writeRequestedField state ⟨named, value⟩).1 := by
            simp [vehicleStep, lightVehicleStateApplyRequest, hknown, hvalid, hvalue]
          rw [hstep, vehicleFieldValue_write hbound hvalue]
          simp

end Step

/-- Requests to different fields may be exchanged. -/
theorem vehicleStep_comm (state : LightVehicleState)
    {first second : LightVehicleStateRequest} (hfields : first.field ≠ second.field) :
    vehicleStep (vehicleStep state first) second =
      vehicleStep (vehicleStep state second) first := by
  apply vehicleState_ext
  intro field
  simp only [vehicleFieldValue_step, Bool.and_eq_true, decide_eq_true_eq]
  split_ifs with hsecond hfirst
  · exact absurd (hfirst.1.trans hsecond.1.symm) hfields
  · rfl
  · rfl
  · rfl

/-- Every field holds a value of its range. -/
def VehicleInRange (state : LightVehicleState) : Prop :=
  ∀ field bound, vehicleFieldBound field = some bound →
    vehicleFieldValue state field ≤ bound

theorem vehicleStep_inRange (state : LightVehicleState)
    (request : LightVehicleStateRequest) (hrange : VehicleInRange state) :
    VehicleInRange (vehicleStep state request) := by
  intro field bound hbound
  rw [vehicleFieldValue_step]
  split_ifs with hwritten
  · obtain ⟨hfield, hadmissible⟩ : request.field = field ∧
        request.admissible = true := by simpa using hwritten
    simpa [LightVehicleStateRequest.admissible, hfield, hbound] using hadmissible
  · exact hrange field bound hbound

theorem vehicleInRange_default : VehicleInRange lightVehicleStateDefault := by
  intro field bound hbound
  refine vehicleFieldBound_cases hbound ?_
  decide

/-- Over every list of requests, each field ends with the value of the last
admissible request naming it, or with what it held at first. A request is
accepted exactly when it is admissible, a rejected one changes nothing and
says why, `changed` compares whole states, requests to different fields
commute, and from the default every state is in range. -/
theorem vehicleState_last_valid_write (state : LightVehicleState)
    (requests : List LightVehicleStateRequest) :
    (∀ field, vehicleFieldValue (run vehicleStep state requests) field =
      ((lastRelevant
        (fun request => request.field = field && request.admissible)
        requests).map (·.value)).getD (vehicleFieldValue state field)) ∧
      (∀ current request,
        ((lightVehicleStateApplyRequest current request).accepted = true ↔
          request.admissible = true) ∧
        (request.admissible = false →
          lightVehicleStateApplyRequest current request =
            ⟨request, current, false, false,
              if vehicleFieldBound request.field = none then .invalidRequest
              else .invalidValue⟩) ∧
        ((lightVehicleStateApplyRequest current request).changed = true ↔
          (lightVehicleStateApplyRequest current request).nextState ≠ current)) ∧
      (∀ current first second, first.field ≠ second.field →
        vehicleStep (vehicleStep current first) second =
          vehicleStep (vehicleStep current second) first) ∧
      VehicleInRange (run vehicleStep lightVehicleStateDefault requests) := by
  refine ⟨?_, ?_, ?_, ?_⟩
  · intro field
    exact register_run (vehicleFieldValue · field)
      (fun current request => vehicleFieldValue_step current request field)
      state requests
  · intro current request
    exact ⟨applyRequest_accepted_iff current request,
      applyRequest_rejected current request,
      vehicleState_changed_iff current request⟩
  · exact fun current first second => vehicleStep_comm current
  · exact run_invariant VehicleInRange vehicleStep_inRange
      lightVehicleStateDefault vehicleInRange_default requests

end LightCtrl
