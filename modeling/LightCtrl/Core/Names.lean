import LightCtrl.Core.CommandCodec
import LightCtrl.Core.Contract
import LightCtrl.Core.VehicleState

/-!
The name tables of `src/core/light_fault_mode.c`, `light_vehicle_state.c` and
`light_contract.c`. Each takes the number as it is stored in a byte, as its
callers do, and gives UNKNOWN for a number without a name.
-/

namespace LightCtrl

/-- The bytes of a C string literal. -/
def cText (text : String) : CText := cBytes text.toList

/-- A `switch` over numbers whose cases return string literals. -/
def nameIn (names : List (UInt8 × String)) (number : UInt8) : CText :=
  match names.find? (fun entry => entry.1 = number) with
  | some entry => cText entry.2
  | none => cText "UNKNOWN"

def faultModeNames : List (UInt8 × String) :=
  [(FaultMode.normal.toByte, "NORMAL"), (FaultMode.warn.toByte, "WARN"),
    (FaultMode.degraded.toByte, "DEGRADED"),
    (FaultMode.safeMode.toByte, "SAFE_MODE")]

def lightFaultModeName : UInt8 → CText := nameIn faultModeNames

def faultLifecycleNames : List (UInt8 × String) :=
  [(LightFaultLifecycle.stable.toByte, "STABLE"),
    (LightFaultLifecycle.active.toByte, "ACTIVE"),
    (LightFaultLifecycle.recovering.toByte, "RECOVERING")]

def lightFaultLifecycleName : UInt8 → CText := nameIn faultLifecycleNames

def faultCodeNames : List (UInt8 × String) :=
  [(0, "NONE"), (LightErr.speedLimit, "SPEED_LIMIT"),
    (LightErr.modeConflict, "MODE_CONFLICT"),
    (LightErr.invalidCmd, "INVALID_CMD"), (LightErr.hwStateErr, "HW_STATE_ERR")]

def lightFaultCodeName : UInt8 → CText := nameIn faultCodeNames

def vehicleGearNames : List (UInt8 × String) :=
  [(LightVehicleGear.park, "PARK"), (LightVehicleGear.reverse, "REVERSE"),
    (LightVehicleGear.neutral, "NEUTRAL"), (LightVehicleGear.drive, "DRIVE")]

def lightVehicleGearName : UInt8 → CText := nameIn vehicleGearNames

def vehicleAmbientNames : List (UInt8 × String) :=
  [(LightVehicleAmbient.day, "DAY"), (LightVehicleAmbient.dusk, "DUSK"),
    (LightVehicleAmbient.night, "NIGHT")]

def lightVehicleAmbientLightName : UInt8 → CText := nameIn vehicleAmbientNames

def vehicleDriveModeNames : List (UInt8 × String) :=
  [(LightVehicleDriveMode.city, "CITY"),
    (LightVehicleDriveMode.highway, "HIGHWAY"),
    (LightVehicleDriveMode.parking, "PARKING"),
    (LightVehicleDriveMode.emergency, "EMERGENCY")]

def lightVehicleDriveModeName : UInt8 → CText := nameIn vehicleDriveModeNames

/-- The enumerator's number. -/
def LightContractStatus.toByte : LightContractStatus → UInt8
  | .ok => 0
  | .null => 1
  | .layoutMismatch => 2
  | .transportVersion => 3
  | .transportType => 4
  | .transportLength => 5
  | .faultMode => 6
  | .faultLifecycle => 7
  | .faultRecovery => 8
  | .faultMask => 9

def contractStatusNames : List (UInt8 × String) :=
  [(LightContractStatus.ok.toByte, "OK"),
    (LightContractStatus.null.toByte, "NULL"),
    (LightContractStatus.layoutMismatch.toByte, "LAYOUT_MISMATCH"),
    (LightContractStatus.transportVersion.toByte, "TRANSPORT_VERSION"),
    (LightContractStatus.transportType.toByte, "TRANSPORT_TYPE"),
    (LightContractStatus.transportLength.toByte, "TRANSPORT_LENGTH"),
    (LightContractStatus.faultMode.toByte, "FAULT_MODE"),
    (LightContractStatus.faultLifecycle.toByte, "FAULT_LIFECYCLE"),
    (LightContractStatus.faultRecovery.toByte, "FAULT_RECOVERY"),
    (LightContractStatus.faultMask.toByte, "FAULT_MASK")]

def lightContractStatusName : UInt8 → CText := nameIn contractStatusNames

/-- A name stands for one number, except UNKNOWN. -/
def NamesDistinct (names : List (UInt8 × String)) : Prop :=
  (names.map fun entry => cText entry.2).Nodup ∧
    cText "UNKNOWN" ∉ names.map fun entry => cText entry.2

instance (names : List (UInt8 × String)) : Decidable (NamesDistinct names) :=
  inferInstanceAs (Decidable (_ ∧ _))

end LightCtrl
