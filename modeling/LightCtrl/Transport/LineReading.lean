import LightCtrl.Core.CommandCodec
import LightCtrl.Library.NulTerminated

/-!
The readers of `light_command_codec.c` on a NUL-terminated string: each stops
at the terminator, so what an earlier, longer line left behind it in the
buffer is never seen. An accepted line starts with one of the seven keys.
-/

namespace LightCtrl

open NulTerminated

theorem parseDecimalU16Loop_readsString (parsed : UInt32) :
    ReadsString 0 (fun text => parseDecimalU16Loop text parsed) := by
  refine ReadsString.of_scan (fun parsed text => parseDecimalU16Loop text parsed)
    (fun _ => True) ?_ ?_ parsed trivial
  · intro parsed _
    exact ⟨some parsed.toUInt16, fun _ => by simp [parseDecimalU16Loop]⟩
  · intro parsed ch _ hch
    by_cases hdigit : ch < charDigit0 ∨ ch > charDigit9
    · refine Or.inl ⟨none, fun _ => ?_⟩
      rw [parseDecimalU16Loop, if_neg hch, if_pos hdigit]
    · by_cases hlarge : parsed * 10 + (ch - charDigit0).toUInt32 > 65535
      · refine Or.inl ⟨none, fun _ => ?_⟩
        simp only [parseDecimalU16Loop, if_neg hch, if_neg hdigit, if_pos hlarge]
      · refine Or.inr ⟨parsed * 10 + (ch - charDigit0).toUInt32, trivial,
          fun _ => ?_⟩
        simp only [parseDecimalU16Loop, if_neg hch, if_neg hdigit, if_neg hlarge]

theorem parseDecimalU16_readsString : ReadsString 0 parseDecimalU16 := by
  intro text htext
  cases text with
  | nil => exact ⟨none, fun _ => rfl⟩
  | cons ch rest =>
      obtain ⟨answer, hanswer⟩ :=
        parseDecimalU16Loop_readsString 0 (ch :: rest) htext
      have hch : ch ≠ 0 := by
        rintro rfl
        exact htext List.mem_cons_self
      refine ⟨answer, fun tail => ?_⟩
      rw [← hanswer tail, List.cons_append, parseDecimalU16, if_neg hch]

theorem literalEquals_readsString (expected : CText) :
    ReadsString 0 (fun text => literalEquals text expected) := by
  refine ReadsString.of_scan (fun expected text => literalEquals text expected)
    (fun _ => True) ?_ ?_ expected trivial
  · intro expected _
    cases expected with
    | nil => exact ⟨true, fun _ => rfl⟩
    | cons _ _ => exact ⟨false, fun _ => rfl⟩
  · intro expected ch _ hch
    cases expected with
    | nil => exact Or.inl ⟨false, fun _ => by simp [literalEquals, hch]⟩
    | cons first more =>
        by_cases hfirst : ch = first
        · refine Or.inr ⟨more, trivial, fun _ => ?_⟩
          rw [literalEquals, if_neg hch, if_neg (not_not.mpr hfirst)]
        · exact Or.inl ⟨false, fun _ => by simp [literalEquals, hfirst]⟩

/-- The chain of comparisons stops at the terminator when at most its last
comparison is with the terminator itself. -/
theorem matchesBytes_readsString (pattern : CText)
    (hpattern : 0 ∉ pattern.dropLast) :
    ReadsString 0 (fun text => matchesBytes text pattern) := by
  refine ReadsString.of_scan (fun pattern text => matchesBytes text pattern)
    (fun pattern => 0 ∉ pattern.dropLast) ?_ ?_ pattern hpattern
  · intro pattern hpattern
    match pattern with
    | [] => exact ⟨true, fun tail => by cases tail <;> rfl⟩
    | [expected] =>
        refine ⟨(0 : UInt8) = expected, fun tail => ?_⟩
        by_cases h : (0 : UInt8) = expected <;> simp [matchesBytes, h]
    | expected :: next :: more =>
        refine ⟨false, fun tail => ?_⟩
        have hexpected : (0 : UInt8) ≠ expected := by
          rintro rfl
          exact hpattern List.mem_cons_self
        simp [matchesBytes, hexpected]
  · intro pattern ch hpattern _
    match pattern with
    | [] => exact Or.inl ⟨true, fun _ => rfl⟩
    | expected :: more =>
        by_cases h : ch = expected
        · refine Or.inr ⟨more, ?_, fun _ => by simp [matchesBytes, h]⟩
          intro hzero
          refine hpattern ?_
          cases more with
          | nil => cases hzero
          | cons next rest => exact List.mem_cons_of_mem _ hzero
        · exact Or.inl ⟨false, fun _ => by simp [matchesBytes, h]⟩

theorem literalEqualsName3_readsString (name3 : Option CText) :
    ReadsString 0 (fun text => literalEqualsName3 text name3) := by
  cases name3 with
  | none => exact ReadsString.const false
  | some name3 => exact literalEquals_readsString name3

theorem parseFlag_readsString : ReadsString 0 parseFlag := by
  refine ReadsString.cond (matchesBytes_readsString _ (by decide))
    (ReadsString.const _) ?_
  exact ReadsString.cond (matchesBytes_readsString _ (by decide))
    (ReadsString.const _) (ReadsString.const _)

theorem parseNamedOrNumeric_readsString (name0 name1 name2 : CText)
    (name3 : Option CText) (maxValue : UInt16) :
    ReadsString 0 (parseNamedOrNumeric name0 name1 name2 name3 maxValue) := by
  refine ReadsString.cond (literalEquals_readsString name0)
    (ReadsString.const _) ?_
  refine ReadsString.cond (literalEquals_readsString name1)
    (ReadsString.const _) ?_
  refine ReadsString.cond (literalEquals_readsString name2)
    (ReadsString.const _) ?_
  refine ReadsString.cond (literalEqualsName3_readsString name3)
    (ReadsString.const _) ?_
  refine ReadsString.bind parseDecimalU16_readsString fun numeric => ?_
  cases numeric with
  | none => exact ReadsString.const _
  | some value => exact ReadsString.const _

theorem matchesBytes_eq_some_true_iff (line key : CText) :
    matchesBytes line key = some true ↔ key <+: line := by
  induction key generalizing line with
  | nil => exact iff_of_true (by cases line <;> rfl) List.nil_prefix
  | cons expected more ih =>
      cases line with
      | nil => simp [matchesBytes]
      | cons ch rest =>
          rw [matchesBytes, List.cons_prefix_cons, ← ih rest]
          split_ifs with h
          · simp [h]
          · simp [Ne.symm h]

/-- A keyed block behaves like its value reader on the rest of the string. -/
theorem parseKeyed_readsString {key : CText} (hkey : 0 ∉ key)
    (field : UInt8) {parseValue : CText → Option (Option UInt16)}
    (hvalue : ReadsString 0 parseValue)
    {otherwise : CText → Option (Option LightVehicleStateRequest)}
    (hotherwise : ReadsString 0 otherwise) :
    ReadsString 0 (fun line =>
      parseKeyed line key field parseValue (otherwise line)) := by
  intro text htext
  obtain ⟨holds, hmatches⟩ := matchesBytes_readsString key
    (fun h => hkey (List.dropLast_subset key h)) text htext
  cases holds with
  | false =>
      obtain ⟨answer, hanswer⟩ := hotherwise text htext
      refine ⟨answer, fun tail => ?_⟩
      simp only [parseKeyed, hmatches tail, hanswer tail]
  | true =>
      obtain ⟨rest, rfl⟩ : key <+: text :=
        prefix_of_prefix_append hkey
          ((matchesBytes_eq_some_true_iff _ key).mp (hmatches []))
      obtain ⟨answer, hanswer⟩ :=
        hvalue rest (fun h => htext (List.mem_append_right key h))
      refine ⟨answer.map (fun value => ⟨field, value⟩), fun tail => ?_⟩
      simp only [parseKeyed, hmatches tail]
      rw [List.append_assoc, List.drop_left, hanswer tail, Option.map_some]

/-- The line parser reads no further than the terminator of its line, and its
answer depends on the line alone. -/
theorem lightVehicleStateParseLine_readsString :
    ReadsString 0 lightVehicleStateParseLine := by
  refine parseKeyed_readsString (by decide) _ parseDecimalU16_readsString ?_
  refine parseKeyed_readsString (by decide) _ parseFlag_readsString ?_
  refine parseKeyed_readsString (by decide) _ parseFlag_readsString ?_
  refine parseKeyed_readsString (by decide) _
    (parseNamedOrNumeric_readsString _ _ _ _ _) ?_
  refine parseKeyed_readsString (by decide) _
    (parseNamedOrNumeric_readsString _ _ _ _ _) ?_
  refine parseKeyed_readsString (by decide) _ parseFlag_readsString ?_
  refine parseKeyed_readsString (by decide) _
    (parseNamedOrNumeric_readsString _ _ _ _ _) ?_
  exact ReadsString.const none

/-- The seven keys, in the order the line parser tries them. -/
def vehicleKeys : List CText :=
  [speedKey, ignitionKey, brakeKey, gearKey, ambientKey, hazardKey, modeKey]

private theorem parseKeyed_accepted {line key : CText} {field : UInt8}
    {parseValue : CText → Option (Option UInt16)}
    {otherwise : Option (Option LightVehicleStateRequest)}
    {request : LightVehicleStateRequest} {keys : List CText}
    (hotherwise : otherwise = some (some request) →
      ∃ found ∈ keys, found <+: line)
    (h : parseKeyed line key field parseValue otherwise = some (some request)) :
    ∃ found ∈ key :: keys, found <+: line := by
  unfold parseKeyed at h
  split at h
  · cases h
  · obtain ⟨later, hmember, hprefix⟩ := hotherwise h
    exact ⟨later, List.mem_cons_of_mem key hmember, hprefix⟩
  · exact ⟨key, List.mem_cons_self,
      (matchesBytes_eq_some_true_iff line key).mp ‹_›⟩

theorem accepted_line_key {line : CText} {request : LightVehicleStateRequest} :
    lightVehicleStateParseLine line = some (some request) →
      ∃ key ∈ vehicleKeys, key <+: line := by
  refine parseKeyed_accepted (parseKeyed_accepted (parseKeyed_accepted
    (parseKeyed_accepted (parseKeyed_accepted (parseKeyed_accepted
      (parseKeyed_accepted ?_))))))
  intro hnone
  cases hnone

end LightCtrl
