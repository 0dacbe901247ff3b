import LightCtrl.Core.Protocol

/-!
`src/core/light_vehicle_state.c`: validation and application of one vehicle
state request.
-/

namespace LightCtrl

abbrev lightVehicleSpeedMaxKph : UInt16 := 180
abbrev lightVehicleGearMax : UInt16 := LightVehicleGear.drive.toUInt16
abbrev lightVehicleAmbientMax : UInt16 := LightVehicleAmbient.night.toUInt16
abbrev lightVehicleDriveModeMax : UInt16 :=
  LightVehicleDriveMode.emergency.toUInt16

inductive LightVehicleStateReason where
  | ok
  | invalidRequest
  | invalidValue
  deriving DecidableEq, Repr

structure LightVehicleStateUpdateResult where
  request : LightVehicleStateRequest
  nextState : LightVehicleState
  accepted : Bool
  changed : Bool
  reason : LightVehicleStateReason
  deriving DecidableEq, Repr

def requestFieldIsKnown (request : LightVehicleStateRequest) : Bool :=
  request.field = LightVehicleField.speedKph
    || request.field = LightVehicleField.ignitionOn
    || request.field = LightVehicleField.brakePedal
    || request.field = LightVehicleField.gear
    || request.field = LightVehicleField.ambientLight
    || request.field = LightVehicleField.hazard
    || request.field = LightVehicleField.driveMode

def requestValueIsValid (request : LightVehicleStateRequest) : Bool :=
  if request.field = LightVehicleField.speedKph then
    request.value ≤ lightVehicleSpeedMaxKph
  else if request.field = LightVehicleField.ignitionOn
      ∨ request.field = LightVehicleField.brakePedal
      ∨ request.field = LightVehicleField.hazard then
    request.value ≤ 1
  else if request.field = LightVehicleField.gear then
    request.value ≤ lightVehicleGearMax
  else if request.field = LightVehicleField.ambientLight then
    request.value ≤ lightVehicleAmbientMax
  else if request.field = LightVehicleField.driveMode then
    request.value ≤ lightVehicleDriveModeMax
  else false

/-- The last switch: the field written and whether its case was reached. -/
def writeRequestedField (state : LightVehicleState)
    (request : LightVehicleStateRequest) : LightVehicleState × Bool :=
  let byte := request.value.toUInt8
  if request.field = LightVehicleField.speedKph then
    ({ state with speedKph := request.value }, true)
  else if request.field = LightVehicleField.ignitionOn then
    ({ state with ignitionOn := byte }, true)
  else if request.field = LightVehicleField.brakePedal then
    ({ state with brakePedal := byte }, true)
  else if request.field = LightVehicleField.gear then
    ({ state with gear := byte }, true)
  else if request.field = LightVehicleField.ambientLight then
    ({ state with ambientLight := byte }, true)
  else if request.field = LightVehicleField.hazard then
    ({ state with hazard := byte }, true)
  else if request.field = LightVehicleField.driveMode then
    ({ state with driveMode := byte }, true)
  else (state, false)

def lightVehicleStateApplyRequest (state : LightVehicleState)
    (request : LightVehicleStateRequest) : LightVehicleStateUpdateResult :=
  if !requestFieldIsKnown request then
    ⟨request, state, false, false, .invalidRequest⟩
  else if !requestValueIsValid request then
    ⟨request, state, false, false, .invalidValue⟩
  else
    let (nextState, accepted) := writeRequestedField state request
    { request := request
      nextState := nextState
      accepted := accepted
      changed := decide (nextState.speedKph ≠ state.speedKph
        ∨ nextState.ignitionOn ≠ state.ignitionOn
        ∨ nextState.brakePedal ≠ state.brakePedal
        ∨ nextState.gear ≠ state.gear
        ∨ nextState.ambientLight ≠ state.ambientLight
        ∨ nextState.hazard ≠ state.hazard
        ∨ nextState.driveMode ≠ state.driveMode)
      reason := .ok }

/-- The comparison of the seven fields is the comparison of the states. -/
theorem vehicleState_changed_iff (state : LightVehicleState)
    (request : LightVehicleStateRequest) :
    (lightVehicleStateApplyRequest state request).changed = true ↔
      (lightVehicleStateApplyRequest state request).nextState ≠ state := by
  unfold lightVehicleStateApplyRequest
  split_ifs with hknown hvalid
  · simp
  · simp
  · obtain ⟨nextState, accepted⟩ := writeRequestedField state request
    cases nextState
    cases state
    simp only [decide_eq_true_eq, ne_eq, LightVehicleState.mk.injEq]
    tauto

end LightCtrl
