import LightCtrl.Core.FaultHistory
import LightCtrl.Library.RingBuffer

/-!
The fault history after any number of calls: a ring that remembers the last
four of them, with a count that stops at four and sequence numbers that go on.
-/

namespace LightCtrl

open Runs RingBuffers

/-- The arguments of one call of `light_fault_history_record`. -/
structure HistoryCall where
  eventType : LightFaultHistoryEventType
  errorCode : UInt8
  state : LightFaultState
  totalErrors : UInt32
  deriving DecidableEq, Repr

/-- The record of a call that is the given one since the reset. -/
def HistoryCall.recorded (call : HistoryCall) (number : Nat) :
    LightFaultHistoryRecord where
  sequence := UInt32.ofNat number
  eventType := call.eventType
  errorCode := call.errorCode
  mode := call.state.mode
  lifecycle := call.state.lifecycle
  activeFaultMask := call.state.activeFaultMask
  totalErrors := call.totalErrors

/-- The history after a list of calls. -/
def recordCalls (history : LightFaultHistory) :
    List HistoryCall → Option LightFaultHistory
  | [] => some history
  | call :: rest => do
      let (history, _) ← lightFaultHistoryRecord history call.eventType
        call.errorCode call.state call.totalErrors
      recordCalls history rest

/-- The records of the calls since the reset. -/
def recordsOf (calls : List HistoryCall) : List LightFaultHistoryRecord :=
  calls.mapIdx fun index call => call.recorded (index + 1)

@[simp] theorem recordsOf_length (calls : List HistoryCall) :
    (recordsOf calls).length = calls.length := List.length_mapIdx

theorem recordsOf_concat (calls : List HistoryCall) (call : HistoryCall) :
    recordsOf (calls ++ [call]) =
      recordsOf calls ++ [call.recorded (calls.length + 1)] :=
  List.mapIdx_concat

/-- The ring of the records of the calls. -/
def historyRing (calls : List HistoryCall) :
    RingBuffer LightFaultHistoryRecord lightFaultHistoryCapacity :=
  run RingBuffer.push ⟨Vector.replicate _ emptyHistoryRecord, 0⟩ (recordsOf calls)

theorem historyRing_concat (calls : List HistoryCall) (call : HistoryCall) :
    historyRing (calls ++ [call]) =
      (historyRing calls).push (call.recorded (calls.length + 1)) := by
  rw [historyRing, recordsOf_concat, run_concat]
  rfl

theorem historyRing_remembers (calls : List HistoryCall) :
    Remembers (recordsOf calls) (historyRing calls) :=
  remembers_run rfl (recordsOf calls)

/-- The history is the ring of the calls, with its count and sequence. -/
structure Chronicles (calls : List HistoryCall) (history : LightFaultHistory) :
    Prop where
  records : history.records = (historyRing calls).slots
  next : history.nextIndex.toNat = (historyRing calls).next.val
  count : history.count.toNat = min calls.length lightFaultHistoryCapacity
  sequence : history.nextSequence = UInt32.ofNat (calls.length + 1)

theorem chronicles_reset : Chronicles [] lightFaultHistoryReset where
  records := rfl
  next := rfl
  count := rfl
  sequence := rfl

section Arithmetic

/-- The index advances around the four slots. -/
theorem nextIndex_toNat (index : UInt8) :
    ((index.toUInt32 + 1) % UInt32.ofNat lightFaultHistoryCapacity).toUInt8.toNat =
      (index.toNat + 1) % lightFaultHistoryCapacity := by
  have hcapacity : lightFaultHistoryCapacity = 4 := rfl
  have hindex := index.toNat_lt
  have hfour : (UInt32.ofNat lightFaultHistoryCapacity).toNat = 4 := rfl
  have hone : (1 : UInt32).toNat = 1 := rfl
  rw [UInt32.toNat_toUInt8, UInt32.toNat_mod, UInt32.toNat_add,
    UInt8.toNat_toUInt32, hfour, hone, hcapacity]
  omega

/-- The count saturates at the capacity. -/
theorem nextCount_toNat {count : UInt8} {recorded : Nat}
    (hcount : count.toNat = min recorded lightFaultHistoryCapacity) :
    (if count.toNat < lightFaultHistoryCapacity then count + 1 else count).toNat =
      min (recorded + 1) lightFaultHistoryCapacity := by
  have hcapacity : lightFaultHistoryCapacity = 4 := rfl
  have hone : (1 : UInt8).toNat = 1 := rfl
  split_ifs with hroom
  · rw [UInt8.toNat_add, hone]
    omega
  · omega

end Arithmetic

/-- The step lemma. -/
theorem Chronicles.record {calls : List HistoryCall} {history : LightFaultHistory}
    (h : Chronicles calls history) (call : HistoryCall) :
    ∃ next, lightFaultHistoryRecord history call.eventType call.errorCode
        call.state call.totalErrors =
          some (next, call.recorded (calls.length + 1)) ∧
      Chronicles (calls ++ [call]) next := by
  have hinside : history.nextIndex.toNat < lightFaultHistoryCapacity := by
    rw [h.next]
    exact (historyRing calls).next.isLt
  have hrecord : call.recorded (calls.length + 1) =
      ⟨history.nextSequence, call.eventType, call.errorCode, call.state.mode,
        call.state.lifecycle, call.state.activeFaultMask, call.totalErrors⟩ := by
    rw [h.sequence, HistoryCall.recorded]
  rw [lightFaultHistoryRecord, dif_pos hinside, ← hrecord]
  refine ⟨_, rfl, ?_, ?_, ?_, ?_⟩
  · rw [historyRing_concat, push_slots]
    simp only [h.next, h.records]
  · rw [historyRing_concat, push_next, ← h.next]
    exact nextIndex_toNat _
  · rw [List.length_append, List.length_singleton]
    exact nextCount_toNat h.count
  · rw [List.length_append, List.length_singleton, UInt32.ofNat_add, ← h.sequence]
    rfl

/-- The run lemma: no store of a run is outside the four records. -/
theorem Chronicles.recordCalls {past : List HistoryCall}
    {history : LightFaultHistory} (h : Chronicles past history)
    (calls : List HistoryCall) :
    ∃ final, recordCalls history calls = some final ∧
      Chronicles (past ++ calls) final := by
  induction calls generalizing past history with
  | nil => exact ⟨history, rfl, by rwa [List.append_nil]⟩
  | cons call rest ih =>
      obtain ⟨next, hcall, hnext⟩ := h.record call
      obtain ⟨final, hrest, hfinal⟩ := ih hnext
      refine ⟨final, ?_, by rwa [List.append_cons]⟩
      rw [LightCtrl.recordCalls, hcall]
      exact hrest

section Lookup

variable {calls : List HistoryCall} {history : LightFaultHistory}

theorem Chronicles.slot (h : Chronicles calls history) {index : Nat}
    {call : HistoryCall} (hlap : calls.length ≤ index + lightFaultHistoryCapacity)
    (hcall : calls[index]? = some call) :
    history.records[index % lightFaultHistoryCapacity]? =
      some (call.recorded (index + 1)) := by
  rw [h.records]
  apply (historyRing_remembers calls).recent index _ (by rwa [recordsOf_length])
  rw [recordsOf, List.getElem?_mapIdx, hcall, Option.map_some]

theorem Chronicles.nextIndex (h : Chronicles calls history) :
    history.nextIndex.toNat = calls.length % lightFaultHistoryCapacity := by
  rw [h.next, (historyRing_remembers calls).next_eq, recordsOf_length]

/-- Stepping back from the next index leads to the slot of the last call. -/
theorem latestIndex_toNat {nextIndex : UInt8} {recorded : Nat}
    (hnext : nextIndex.toNat = recorded % lightFaultHistoryCapacity)
    (hsome : recorded ≠ 0) :
    (if nextIndex = 0 then UInt8.ofNat (lightFaultHistoryCapacity - 1)
      else nextIndex - 1).toNat =
        (recorded - 1) % lightFaultHistoryCapacity := by
  have hcapacity : lightFaultHistoryCapacity = 4 := rfl
  have hthree : (UInt8.ofNat (4 - 1)).toNat = 3 := rfl
  have hone : (1 : UInt8).toNat = 1 := rfl
  rw [hcapacity] at hnext ⊢
  split_ifs with hzero
  · rw [hzero, UInt8.toNat_zero] at hnext
    omega
  · have hpositive : nextIndex.toNat ≠ 0 := fun h => hzero (UInt8.toNat_inj.mp h)
    rw [UInt8.toNat_sub_of_le _ _ (UInt8.le_iff_toNat_le.mpr (by omega)), hone]
    omega

theorem Chronicles.latest (h : Chronicles calls history)
    (record : LightFaultHistoryRecord) :
    lightFaultHistoryLatest history record =
      some ⟨history, !calls.isEmpty,
        (calls.getLast?.map (·.recorded calls.length)).getD record⟩ := by
  have hcapacity : lightFaultHistoryCapacity = 4 := rfl
  have hcount := h.count
  cases hlast : calls.getLast? with
  | none =>
      obtain rfl := List.getLast?_eq_none_iff.mp hlast
      have hzero : history.count = 0 := UInt8.toNat_inj.mp hcount
      rw [lightFaultHistoryLatest, if_pos hzero]
      rfl
  | some call =>
      have hsome : calls.length ≠ 0 := by
        intro hempty
        rw [List.length_eq_zero_iff.mp hempty] at hlast
        cases hlast
      have hnonzero : history.count ≠ 0 := by
        intro hzero
        rw [hzero, UInt8.toNat_zero] at hcount
        omega
      have hslot : history.records[(calls.length - 1) %
          lightFaultHistoryCapacity]? = some (call.recorded calls.length) := by
        rw [List.getLast?_eq_getElem?] at hlast
        have hfound := h.slot (by omega) hlast
        rwa [Nat.sub_add_cancel (Nat.pos_of_ne_zero hsome)] at hfound
      rw [lightFaultHistoryLatest, if_neg hnonzero]
      simp only [latestIndex_toNat h.nextIndex hsome, hslot]
      have hnonempty : calls.isEmpty = false := by
        simpa using hsome
      rw [hnonempty]
      rfl

end Lookup

/-- After any number of calls since the reset: the count is theirs up to four,
the index is their number modulo four, the slots hold the last four calls with
their sequence numbers, and a lookup gives the last of them, fails if there is
none, and leaves the history alone. -/
theorem history_last_four (calls : List HistoryCall) :
    ∃ history, recordCalls lightFaultHistoryReset calls = some history ∧
      history.count.toNat = min calls.length 4 ∧
      history.nextIndex.toNat = calls.length % 4 ∧
      (∀ index call, calls.length ≤ index + 4 → calls[index]? = some call →
        history.records[index % 4]? = some (call.recorded (index + 1))) ∧
      ∀ record, lightFaultHistoryLatest history record =
        some ⟨history, !calls.isEmpty,
          (calls.getLast?.map (·.recorded calls.length)).getD record⟩ := by
  obtain ⟨history, hcalls, hhistory⟩ := chronicles_reset.recordCalls calls
  exact ⟨history, hcalls, hhistory.count, hhistory.nextIndex,
    fun _ _ hlap hcall => hhistory.slot hlap hcall, hhistory.latest⟩

end LightCtrl
