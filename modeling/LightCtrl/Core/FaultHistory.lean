import LightCtrl.Core.FaultMode

/-!
The fault history of `src/core/light_fault_mode.c`, a ring of four records. A
store or a read outside of the four is `none`.
-/

namespace LightCtrl

abbrev lightFaultHistoryCapacity : Nat := 4

inductive LightFaultHistoryEventType where
  | error
  | clear
  | recoveryTick
  deriving DecidableEq, Repr

structure LightFaultHistoryRecord where
  sequence : UInt32
  eventType : LightFaultHistoryEventType
  errorCode : UInt8
  mode : FaultMode
  lifecycle : LightFaultLifecycle
  activeFaultMask : UInt8
  totalErrors : UInt32
  deriving DecidableEq, Repr

structure LightFaultHistory where
  records : Vector LightFaultHistoryRecord lightFaultHistoryCapacity
  nextIndex : UInt8
  count : UInt8
  nextSequence : UInt32
  deriving DecidableEq, Repr

/-- The record `light_fault_history_reset` writes to every slot. -/
def emptyHistoryRecord : LightFaultHistoryRecord where
  sequence := 0
  eventType := .error
  errorCode := 0
  mode := .normal
  lifecycle := .stable
  activeFaultMask := 0
  totalErrors := 0

/-- The history `light_fault_history_reset` writes. -/
def lightFaultHistoryReset : LightFaultHistory where
  records := Vector.replicate lightFaultHistoryCapacity emptyHistoryRecord
  nextIndex := 0
  count := 0
  nextSequence := 1

/-- `light_fault_history_record`: the history and `*record` afterwards. -/
def lightFaultHistoryRecord (history : LightFaultHistory)
    (eventType : LightFaultHistoryEventType) (errorCode : UInt8)
    (state : LightFaultState) (totalErrors : UInt32) :
    Option (LightFaultHistory × LightFaultHistoryRecord) :=
  let record : LightFaultHistoryRecord := {
    sequence := history.nextSequence
    eventType := eventType
    errorCode := errorCode
    mode := state.mode
    lifecycle := state.lifecycle
    activeFaultMask := state.activeFaultMask
    totalErrors := totalErrors }
  if h : history.nextIndex.toNat < lightFaultHistoryCapacity then
    some ({ records := history.records.set history.nextIndex.toNat record h
            nextIndex := ((history.nextIndex.toUInt32 + 1) %
              UInt32.ofNat lightFaultHistoryCapacity).toUInt8
            count :=
              if history.count.toNat < lightFaultHistoryCapacity
              then history.count + 1 else history.count
            nextSequence := history.nextSequence + 1 }, record)
  else none

/-- What a lookup leaves: the history, its result, and `*record`. -/
structure HistoryLookup where
  history : LightFaultHistory
  found : Bool
  record : LightFaultHistoryRecord
  deriving DecidableEq, Repr

/-- `light_fault_history_latest`, over what `*record` held before. -/
def lightFaultHistoryLatest (history : LightFaultHistory)
    (record : LightFaultHistoryRecord) : Option HistoryLookup :=
  if history.count = 0 then some ⟨history, false, record⟩
  else
    let latestIndex : UInt8 :=
      if history.nextIndex = 0 then UInt8.ofNat (lightFaultHistoryCapacity - 1)
      else history.nextIndex - 1
    (history.records[latestIndex.toNat]?).map fun latest =>
      ⟨history, true, latest⟩

end LightCtrl
