import LightCtrl.Transport.LineReading

/-!
The grammar of vehicle-state lines, on its own: a key, and behind it a decimal
number, a flag, or one of the names the field knows. The line parser is sound
for it on any memory: whatever it accepts is, up to the first terminator, a
sentence that denotes the request it returns.
-/

namespace LightCtrl

def IsDigit (ch : UInt8) : Prop := charDigit0 ≤ ch ∧ ch ≤ charDigit9

instance (ch : UInt8) : Decidable (IsDigit ch) :=
  inferInstanceAs (Decidable (_ ∧ _))

/-- The number a digit string denotes, read on from `start`. -/
def decimalFrom (start : Nat) (digits : CText) : Nat :=
  digits.foldl (fun value ch => 10 * value + (ch.toNat - charDigit0.toNat)) start

/-- A decimal number, leading zeros allowed. -/
structure Numeral (digits : CText) (value : Nat) : Prop where
  nonempty : digits ≠ []
  isDigit : ∀ ch ∈ digits, IsDigit ch
  denotes : decimalFrom 0 digits = value

/-- The keys followed by `0` or `1`, with their fields. -/
def flagFields : List (CText × UInt8) :=
  [(ignitionKey, LightVehicleField.ignitionOn),
    (brakeKey, LightVehicleField.brakePedal),
    (hazardKey, LightVehicleField.hazard)]

/-- A key followed by a name or by the number of a name. -/
structure NamedField where
  key : CText
  field : UInt8
  names : List CText

def gearField : NamedField where
  key := gearKey
  field := LightVehicleField.gear
  names := [cBytes ['p', 'a', 'r', 'k'],
    cBytes ['r', 'e', 'v', 'e', 'r', 's', 'e'],
    cBytes ['n', 'e', 'u', 't', 'r', 'a', 'l'],
    cBytes ['d', 'r', 'i', 'v', 'e']]

def ambientField : NamedField where
  key := ambientKey
  field := LightVehicleField.ambientLight
  names := [cBytes ['d', 'a', 'y'], cBytes ['d', 'u', 's', 'k'],
    cBytes ['n', 'i', 'g', 'h', 't']]

def driveModeField : NamedField where
  key := modeKey
  field := LightVehicleField.driveMode
  names := [cBytes ['c', 'i', 't', 'y'],
    cBytes ['h', 'i', 'g', 'h', 'w', 'a', 'y'],
    cBytes ['p', 'a', 'r', 'k', 'i', 'n', 'g'],
    cBytes ['e', 'm', 'e', 'r', 'g', 'e', 'n', 'c', 'y']]

def namedFields : List NamedField := [gearField, ambientField, driveModeField]

/-- The sentences of the grammar and the request each one denotes. -/
inductive VehicleSentence : CText → LightVehicleStateRequest → Prop where
  | speed {digits : CText} {value : UInt16} (hvalue : Numeral digits value.toNat) :
      VehicleSentence (speedKey ++ digits) ⟨LightVehicleField.speedKph, value⟩
  | flagOff {key : CText} {field : UInt8} (hfield : (key, field) ∈ flagFields) :
      VehicleSentence (key ++ [charDigit0]) ⟨field, 0⟩
  | flagOn {key : CText} {field : UInt8} (hfield : (key, field) ∈ flagFields) :
      VehicleSentence (key ++ [charDigit1]) ⟨field, 1⟩
  | name {named : NamedField} {name : CText} {value : UInt16}
      (hnamed : named ∈ namedFields) (hname : named.names[value.toNat]? = some name) :
      VehicleSentence (named.key ++ name) ⟨named.field, value⟩
  | number {named : NamedField} {digits : CText} {value : UInt16}
      (hnamed : named ∈ namedFields) (hvalue : Numeral digits value.toNat)
      (hrange : value.toNat < named.names.length) :
      VehicleSentence (named.key ++ digits) ⟨named.field, value⟩

/-- One digit more, computed in 32 bits and exactly. -/
theorem digit_step {parsed : UInt32} {ch : UInt8} (hdigit : IsDigit ch)
    (hparsed : parsed ≤ 65535) :
    (parsed * 10 + (ch - charDigit0).toUInt32).toNat =
      10 * parsed.toNat + (ch.toNat - charDigit0.toNat) := by
  obtain ⟨hlow, hhigh⟩ := hdigit
  have hsub : (ch - charDigit0).toNat = ch.toNat - charDigit0.toNat :=
    UInt8.toNat_sub_of_le ch charDigit0 hlow
  have hch : ch.toNat ≤ 57 := UInt8.le_iff_toNat_le.mp hhigh
  have hbound : parsed.toNat ≤ 65535 := UInt32.le_iff_toNat_le.mp hparsed
  rw [UInt32.toNat_add, UInt32.toNat_mul, UInt8.toNat_toUInt32, hsub]
  have hten : (10 : UInt32).toNat = 10 := rfl
  rw [hten]
  omega

/-- The loop invariant: what is accepted is digits up to a terminator, and
the value continues the one parsed so far. -/
theorem parseDecimalU16Loop_sound {text : CText} {parsed : UInt32}
    (hparsed : parsed ≤ 65535) {value : UInt16}
    (h : parseDecimalU16Loop text parsed = some (some value)) :
    ∃ digits tail, text = digits ++ 0 :: tail ∧ (∀ ch ∈ digits, IsDigit ch) ∧
      decimalFrom parsed.toNat digits = value.toNat := by
  induction text generalizing parsed with
  | nil => cases h
  | cons ch rest ih =>
      rw [parseDecimalU16Loop] at h
      dsimp only at h
      split_ifs at h with hend hother hlarge
      · cases h
        refine ⟨[], rest, by simp [hend], by simp, ?_⟩
        have hbound : parsed.toNat ≤ 65535 := UInt32.le_iff_toNat_le.mp hparsed
        simp [decimalFrom]
        omega
      · cases h
      · cases h
      · have hdigit : IsDigit ch := by
          obtain ⟨hlow, hhigh⟩ := not_or.mp hother
          exact ⟨UInt8.not_lt.mp hlow, UInt8.not_lt.mp hhigh⟩
        obtain ⟨digits, tail, rfl, hdigits, hvalue⟩ := ih (UInt32.not_lt.mp hlarge) h
        refine ⟨ch :: digits, tail, rfl, ?_, ?_⟩
        · intro other hmember
          rcases List.mem_cons.mp hmember with rfl | hlater
          · exact hdigit
          · exact hdigits other hlater
        · rw [digit_step hdigit hparsed] at hvalue
          exact hvalue

theorem parseDecimalU16_sound {text : CText} {value : UInt16}
    (h : parseDecimalU16 text = some (some value)) :
    ∃ digits tail, text = digits ++ 0 :: tail ∧ Numeral digits value.toNat := by
  cases text with
  | nil => cases h
  | cons ch rest =>
      rw [parseDecimalU16] at h
      split_ifs at h with hend
      · cases h
      · obtain ⟨digits, tail, heq, hdigits, hvalue⟩ :=
          parseDecimalU16Loop_sound (by decide) h
        refine ⟨digits, tail, heq, ?_, hdigits, hvalue⟩
        rintro rfl
        exact hend (List.head_eq_of_cons_eq heq)

theorem literalEquals_sound {text expected : CText}
    (h : literalEquals text expected = some true) :
    ∃ tail, text = expected ++ 0 :: tail := by
  induction expected generalizing text with
  | nil =>
      cases text with
      | nil => cases h
      | cons ch rest =>
          have hend : ch = 0 := by simpa [literalEquals] using h
          exact ⟨rest, by simp [hend]⟩
  | cons first more ih =>
      cases text with
      | nil => cases h
      | cons ch rest =>
          rw [literalEquals] at h
          split_ifs at h with hend hdiffers
          · simp at h
          · simp at h
          · obtain ⟨tail, rfl⟩ := ih h
            exact ⟨tail, by rw [not_not.mp hdiffers, List.cons_append]⟩

theorem parseFlag_sound {text : CText} {value : UInt16}
    (h : parseFlag text = some (some value)) :
    (∃ tail, text = [charDigit0] ++ 0 :: tail ∧ value = 0) ∨
      ∃ tail, text = [charDigit1] ++ 0 :: tail ∧ value = 1 := by
  unfold parseFlag at h
  obtain ⟨off, hoff, hrest⟩ := Option.bind_eq_some_iff.mp h
  cases off with
  | true =>
      obtain ⟨tail, heq⟩ := (matchesBytes_eq_some_true_iff _ _).mp hoff
      cases hrest
      exact Or.inl ⟨tail, heq.symm, rfl⟩
  | false =>
      obtain ⟨on, hon, hlast⟩ := Option.bind_eq_some_iff.mp hrest
      cases on with
      | true =>
          obtain ⟨tail, heq⟩ := (matchesBytes_eq_some_true_iff _ _).mp hon
          cases hlast
          exact Or.inr ⟨tail, heq.symm, rfl⟩
      | false => cases hlast

/-- The name tests in order, each with the number it stands for, and the
number behind them. -/
theorem parseNamedOrNumeric_sound {name0 name1 name2 : CText}
    {name3 : Option CText} {maxValue : UInt16} {text : CText} {value : UInt16}
    (h : parseNamedOrNumeric name0 name1 name2 name3 maxValue text =
      some (some value)) :
    (∃ name tail, text = name ++ 0 :: tail ∧
        ([name0, name1, name2] ++ name3.toList)[value.toNat]? = some name) ∨
      ∃ digits tail, text = digits ++ 0 :: tail ∧
        Numeral digits value.toNat ∧ value ≤ maxValue := by
  unfold parseNamedOrNumeric at h
  obtain ⟨is0, h0, h⟩ := Option.bind_eq_some_iff.mp h
  cases is0 with
  | true =>
      obtain ⟨tail, heq⟩ := literalEquals_sound h0
      cases h
      exact Or.inl ⟨name0, tail, heq, rfl⟩
  | false =>
  obtain ⟨is1, h1, h⟩ := Option.bind_eq_some_iff.mp h
  cases is1 with
  | true =>
      obtain ⟨tail, heq⟩ := literalEquals_sound h1
      cases h
      exact Or.inl ⟨name1, tail, heq, rfl⟩
  | false =>
  obtain ⟨is2, h2, h⟩ := Option.bind_eq_some_iff.mp h
  cases is2 with
  | true =>
      obtain ⟨tail, heq⟩ := literalEquals_sound h2
      cases h
      exact Or.inl ⟨name2, tail, heq, rfl⟩
  | false =>
  obtain ⟨is3, h3, hrest⟩ := Option.bind_eq_some_iff.mp h
  cases is3 with
  | true =>
      cases name3 with
      | none => cases h3
      | some name3 =>
          obtain ⟨tail, heq⟩ := literalEquals_sound h3
          cases hrest
          exact Or.inl ⟨name3, tail, heq, rfl⟩
  | false =>
  obtain ⟨numeric, hnumeric, hlast⟩ := Option.bind_eq_some_iff.mp hrest
  cases numeric with
  | none => cases hlast
  | some number =>
      obtain ⟨digits, tail, heq, hnumeral⟩ := parseDecimalU16_sound hnumeric
      dsimp only at hlast
      split_ifs at hlast with hrange
      · cases hlast
        exact Or.inr ⟨digits, tail, heq, hnumeral, hrange⟩
      · cases hlast

/-- A line in memory whose string is a sentence for the request. -/
def SpellsSentence (line : CText) (request : LightVehicleStateRequest) : Prop :=
  ∃ text tail, line = text ++ 0 :: tail ∧ VehicleSentence text request

/-- A keyed block is sound when its value reader is, on the rest of the line,
and the blocks behind it are. -/
private theorem parseKeyed_sound {line key : CText} {field : UInt8}
    {parseValue : CText → Option (Option UInt16)}
    {otherwise : Option (Option LightVehicleStateRequest)}
    {request : LightVehicleStateRequest}
    (hvalue : ∀ text value, parseValue text = some (some value) →
      ∃ spelled tail, text = spelled ++ 0 :: tail ∧
        VehicleSentence (key ++ spelled) ⟨field, value⟩)
    (hotherwise : otherwise = some (some request) → SpellsSentence line request)
    (h : parseKeyed line key field parseValue otherwise = some (some request)) :
    SpellsSentence line request := by
  unfold parseKeyed at h
  split at h
  · cases h
  · exact hotherwise h
  · rename_i hmatches
    obtain ⟨rest, rfl⟩ := (matchesBytes_eq_some_true_iff line key).mp hmatches
    rw [List.drop_left, Option.map_eq_some_iff] at h
    obtain ⟨parsed, hparsed, hrequest⟩ := h
    obtain ⟨value, rfl, rfl⟩ := Option.map_eq_some_iff.mp hrequest
    obtain ⟨spelled, tail, rfl, hsentence⟩ := hvalue rest value hparsed
    exact ⟨key ++ spelled, tail, by rw [List.append_assoc], hsentence⟩

private theorem flag_sound {key : CText} {field : UInt8}
    (hfield : (key, field) ∈ flagFields) (text : CText) (value : UInt16)
    (h : parseFlag text = some (some value)) :
    ∃ spelled tail, text = spelled ++ 0 :: tail ∧
      VehicleSentence (key ++ spelled) ⟨field, value⟩ := by
  rcases parseFlag_sound h with ⟨tail, heq, rfl⟩ | ⟨tail, heq, rfl⟩
  · exact ⟨_, tail, heq, .flagOff hfield⟩
  · exact ⟨_, tail, heq, .flagOn hfield⟩

private theorem named_sound (named : NamedField) (hnamed : named ∈ namedFields)
    {name0 name1 name2 : CText} {name3 : Option CText} {maxValue : UInt16}
    {text : CText} {value : UInt16}
    (h : parseNamedOrNumeric name0 name1 name2 name3 maxValue text =
      some (some value))
    (hnames : named.names = [name0, name1, name2] ++ name3.toList)
    (hmax : maxValue.toNat < named.names.length) :
    ∃ spelled tail, text = spelled ++ 0 :: tail ∧
      VehicleSentence (named.key ++ spelled) ⟨named.field, value⟩ := by
  rcases parseNamedOrNumeric_sound h with
    ⟨name, tail, heq, hname⟩ | ⟨digits, tail, heq, hnumeral, hrange⟩
  · exact ⟨name, tail, heq, .name hnamed (hnames ▸ hname)⟩
  · have hbound := UInt16.le_iff_toNat_le.mp hrange
    exact ⟨digits, tail, heq, .number hnamed hnumeral (by omega)⟩

/-- Whatever the line parser accepts is a sentence up to its terminator. -/
theorem lightVehicleStateParseLine_sound {line : CText}
    {request : LightVehicleStateRequest}
    (h : lightVehicleStateParseLine line = some (some request)) :
    SpellsSentence line request := by
  revert h
  refine parseKeyed_sound ?_ <|
    parseKeyed_sound (flag_sound (by decide)) <|
    parseKeyed_sound (flag_sound (by decide)) <|
    parseKeyed_sound (fun _ _ hgear =>
      named_sound gearField (by simp [namedFields]) hgear rfl (by decide)) <|
    parseKeyed_sound (fun _ _ hambient =>
      named_sound ambientField (by simp [namedFields]) hambient rfl (by decide)) <|
    parseKeyed_sound (flag_sound (by decide)) <|
    parseKeyed_sound (fun _ _ hmode =>
      named_sound driveModeField (by simp [namedFields]) hmode rfl (by decide)) ?_
  · intro text value hparsed
    obtain ⟨digits, tail, heq, hnumeral⟩ := parseDecimalU16_sound hparsed
    exact ⟨digits, tail, heq, .speed hnumeral⟩
  · intro hnone
    cases hnone

/-- No sentence holds a terminator. -/
theorem VehicleSentence.nul_free {text : CText}
    {request : LightVehicleStateRequest} (h : VehicleSentence text request) :
    0 ∉ text := by
  have hdigits : ∀ {digits : CText} {value : Nat}, Numeral digits value →
      0 ∉ digits := by
    intro digits value hnumeral hnul
    exact absurd (hnumeral.isDigit 0 hnul).1 (by decide)
  have hflags : ∀ entry ∈ flagFields, 0 ∉ entry.1 := by decide
  have hnames : ∀ named ∈ namedFields,
      0 ∉ named.key ∧ ∀ name ∈ named.names, 0 ∉ name := by
    simp only [namedFields, List.forall_mem_cons]
    decide
  cases h with
  | speed hvalue =>
      exact List.not_mem_append (by decide) (hdigits hvalue)
  | flagOff hfield =>
      exact List.not_mem_append (hflags _ hfield) (by decide)
  | flagOn hfield =>
      exact List.not_mem_append (hflags _ hfield) (by decide)
  | name hnamed hname =>
      obtain ⟨hkey, hall⟩ := hnames _ hnamed
      have hfree := hall _ (List.mem_of_getElem? hname)
      exact List.not_mem_append hkey hfree
  | number hnamed hvalue =>
      exact List.not_mem_append (hnames _ hnamed).1 (hdigits hvalue)

end LightCtrl
