import LightCtrl.Transport.Grammar

/-!
The other direction of the grammar: every sentence is accepted. On a string
each reader is a comparison of whole texts, so the names of a field are told
apart by being different and a number is no name. The keys are told apart by
their first characters, so the order of the seven blocks does not matter.
-/

namespace LightCtrl

open NulTerminated

section Readers

variable {text : CText}

/-- On a string a literal comparison compares the whole strings. -/
theorem literalEquals_string {expected : CText} (htext : 0 ∉ text)
    (hexpected : 0 ∉ expected) (tail : CText) :
    literalEquals (text ++ 0 :: tail) expected = some (decide (text = expected)) := by
  induction text generalizing expected with
  | nil =>
      cases expected with
      | nil => rfl
      | cons first more => simp [literalEquals]
  | cons ch rest ih =>
      obtain ⟨hch, hrest⟩ := not_or.mp (List.mem_cons.not.mp htext)
      cases expected with
      | nil => simp [literalEquals, Ne.symm hch]
      | cons first more =>
          obtain ⟨-, hmore⟩ := not_or.mp (List.mem_cons.not.mp hexpected)
          rw [List.cons_append, literalEquals, if_neg (Ne.symm hch), ih hrest hmore]
          split_ifs with hdiffers
          · simp [hdiffers]
          · simp [not_not.mp hdiffers]

/-- The two comparisons of a flag compare the whole string as well. -/
theorem matchesBytes_digit {digit : UInt8} (hdigit : digit ≠ 0) (htext : 0 ∉ text)
    (tail : CText) :
    matchesBytes (text ++ 0 :: tail) [digit, 0] = some (decide (text = [digit])) := by
  cases text with
  | nil => simp [matchesBytes, Ne.symm hdigit]
  | cons ch rest =>
      obtain ⟨-, hrest⟩ := not_or.mp (List.mem_cons.not.mp htext)
      by_cases hch : ch = digit
      · cases rest with
        | nil => simp [matchesBytes, hch]
        | cons next more =>
            have hnext : next ≠ 0 := by
              rintro rfl
              exact hrest List.mem_cons_self
            simp [matchesBytes, hch, hnext]
      · simp [matchesBytes, hch]

theorem parseFlag_string (htext : 0 ∉ text) (tail : CText) :
    parseFlag (text ++ 0 :: tail) =
      some (if text = [charDigit0] then some 0
        else if text = [charDigit1] then some 1 else none) := by
  unfold parseFlag
  rw [matchesBytes_digit (by decide) htext, matchesBytes_digit (by decide) htext]
  have hdigits : charDigit1 ≠ charDigit0 := by decide
  by_cases hoff : text = [charDigit0]
  · simp [hoff]
  · by_cases hon : text = [charDigit1]
    · simp [hon, hdigits]
    · simp [hoff, hon]

theorem start_le_decimalFrom (start : Nat) (digits : CText) :
    start ≤ decimalFrom start digits := by
  induction digits generalizing start with
  | nil => exact le_refl _
  | cons ch rest ih =>
      have hnext := ih (10 * start + (ch.toNat - charDigit0.toNat))
      have hsame : decimalFrom start (ch :: rest) =
          decimalFrom (10 * start + (ch.toNat - charDigit0.toNat)) rest := rfl
      omega

/-- No digit of a number in range trips the early exit: what is parsed so far
never exceeds the number itself. -/
theorem parseDecimalU16Loop_complete {digits : CText} {parsed : UInt32}
    {value : UInt16} (hdigits : ∀ ch ∈ digits, IsDigit ch)
    (hparsed : parsed ≤ 65535)
    (hvalue : decimalFrom parsed.toNat digits = value.toNat) (tail : CText) :
    parseDecimalU16Loop (digits ++ 0 :: tail) parsed = some (some value) := by
  induction digits generalizing parsed with
  | nil =>
      have hsame : parsed.toUInt16 = value := by
        have hend : parsed.toNat = value.toNat := hvalue
        apply UInt16.toNat_inj.mp
        rw [UInt32.toNat_toUInt16, hend]
        exact Nat.mod_eq_of_lt value.toNat_lt
      simp [parseDecimalU16Loop, hsame]
  | cons ch rest ih =>
      obtain ⟨hdigit, hrest⟩ := List.forall_mem_cons.mp hdigits
      have hnul : ch ≠ 0 := by
        rintro rfl
        exact absurd hdigit.1 (by decide)
      have hinside : ¬ (ch < charDigit0 ∨ ch > charDigit9) := by
        rintro (hlow | hhigh)
        · exact absurd hdigit.1 (UInt8.not_le.mpr hlow)
        · exact absurd hdigit.2 (UInt8.not_le.mpr hhigh)
      have hstep := digit_step hdigit hparsed
      set next := parsed * 10 + (ch - charDigit0).toUInt32
      have hcontinued : decimalFrom next.toNat rest = value.toNat := by
        rw [hstep]
        exact hvalue
      have hbound : next ≤ 65535 := by
        have hlower := start_le_decimalFrom next.toNat rest
        have hupper := value.toNat_lt
        rw [UInt32.le_iff_toNat_le]
        have hlimit : (65535 : UInt32).toNat = 65535 := rfl
        omega
      rw [List.cons_append, parseDecimalU16Loop, if_neg hnul, if_neg hinside]
      exact (if_neg (UInt32.not_lt.mpr hbound)).trans (ih hrest hbound hcontinued)

theorem parseDecimalU16_complete {digits : CText} {value : UInt16}
    (hnumeral : Numeral digits value.toNat) (tail : CText) :
    parseDecimalU16 (digits ++ 0 :: tail) = some (some value) := by
  have hdenotes : decimalFrom (0 : UInt32).toNat digits = value.toNat :=
    hnumeral.denotes
  have hloop : parseDecimalU16Loop (digits ++ 0 :: tail) 0 = some (some value) :=
    parseDecimalU16Loop_complete hnumeral.isDigit (by decide) hdenotes tail
  cases digits with
  | nil => exact absurd rfl hnumeral.nonempty
  | cons ch rest =>
      have hnul : ch ≠ 0 := by
        rintro rfl
        exact absurd (hnumeral.isDigit 0 List.mem_cons_self).1 (by decide)
      rw [List.cons_append, parseDecimalU16, if_neg hnul]
      exact hloop

end Readers

section Named

variable {name0 name1 name2 : CText} {name3 : Option CText} {maxValue : UInt16}
  {text : CText}

/-- On a string the name tests are comparisons of whole strings, in order. -/
theorem parseNamedOrNumeric_string (htext : 0 ∉ text)
    (hnames : ∀ name ∈ [name0, name1, name2] ++ name3.toList, 0 ∉ name)
    (tail : CText) :
    parseNamedOrNumeric name0 name1 name2 name3 maxValue (text ++ 0 :: tail) =
      if text = name0 then some (some 0)
      else if text = name1 then some (some 1)
      else if text = name2 then some (some 2)
      else if some text = name3 then some (some 3)
      else (parseDecimalU16 (text ++ 0 :: tail)).map
        (fun value => value.filter (fun value => value ≤ maxValue)) := by
  have hname : ∀ name ∈ [name0, name1, name2] ++ name3.toList,
      literalEquals (text ++ 0 :: tail) name = some (decide (text = name)) :=
    fun name hmember => literalEquals_string htext (hnames name hmember) tail
  have h3 : literalEqualsName3 (text ++ 0 :: tail) name3 =
      some (decide (some text = name3)) := by
    cases name3 with
    | none => rfl
    | some name3 => simpa [literalEqualsName3] using hname name3 (by simp)
  unfold parseNamedOrNumeric
  rw [hname name0 (by simp), hname name1 (by simp), hname name2 (by simp), h3]
  simp only [Option.bind_eq_bind, Option.bind_some, decide_eq_true_eq,
    Option.pure_def]
  congr 4
  cases parseDecimalU16 (text ++ 0 :: tail) with
  | none => rfl
  | some answer =>
      cases answer with
      | none => rfl
      | some value =>
          by_cases hrange : value ≤ maxValue <;> simp [Option.filter, hrange]

/-- A name of the field is accepted for its number. -/
theorem parseNamedOrNumeric_name {value : UInt16} (htext : 0 ∉ text)
    (hnames : ∀ name ∈ [name0, name1, name2] ++ name3.toList, 0 ∉ name)
    (hdistinct : ([name0, name1, name2] ++ name3.toList).Nodup)
    (hname : ([name0, name1, name2] ++ name3.toList)[value.toNat]? = some text)
    (tail : CText) :
    parseNamedOrNumeric name0 name1 name2 name3 maxValue (text ++ 0 :: tail) =
      some (some value) := by
  have hnumber : ∀ number : UInt16, value.toNat = number.toNat →
      some (some number) = some (some value) := by
    intro number hsame
    rw [UInt16.toNat_inj.mp hsame]
  have hlast : some text = name3 → text ∉ [name0, name1, name2] := by
    rintro rfl hmember
    exact List.disjoint_of_nodup_append hdistinct hmember (by simp)
  have hfirst := hdistinct.of_append_left
  simp only [List.nodup_cons, List.mem_cons, List.not_mem_nil, or_false, not_or]
    at hfirst hlast
  obtain ⟨⟨h01, h02⟩, h12, -⟩ := hfirst
  rw [parseNamedOrNumeric_string htext hnames]
  match hindex : value.toNat with
  | 0 =>
      obtain rfl : name0 = text := by simpa [hindex] using hname
      rw [if_pos rfl, hnumber 0 hindex]
  | 1 =>
      obtain rfl : name1 = text := by simpa [hindex] using hname
      rw [if_neg (Ne.symm h01), if_pos rfl, hnumber 1 hindex]
  | 2 =>
      obtain rfl : name2 = text := by simpa [hindex] using hname
      rw [if_neg (Ne.symm h02), if_neg (Ne.symm h12), if_pos rfl, hnumber 2 hindex]
  | 3 =>
      have hthird : some text = name3 := by
        cases name3 with
        | none => simp [hindex] at hname
        | some name3 => simpa [hindex, eq_comm] using hname
      obtain ⟨h0, h1, h2⟩ := hlast hthird
      rw [if_neg h0, if_neg h1, if_neg h2, if_pos hthird, hnumber 3 hindex]
  | more + 4 =>
      cases name3 with
      | none => simp [hindex] at hname
      | some name3 => simp [hindex] at hname

/-- A number in range that is no name is accepted for itself. -/
theorem parseNamedOrNumeric_number {value : UInt16}
    (hnames : ∀ name ∈ [name0, name1, name2] ++ name3.toList, 0 ∉ name)
    (hnumeral : Numeral text value.toNat)
    (hother : text ∉ [name0, name1, name2] ++ name3.toList)
    (hrange : value ≤ maxValue) (tail : CText) :
    parseNamedOrNumeric name0 name1 name2 name3 maxValue (text ++ 0 :: tail) =
      some (some value) := by
  have htext : 0 ∉ text := fun hnul =>
    absurd (hnumeral.isDigit 0 hnul).1 (by decide)
  simp only [List.mem_append, List.mem_cons, Option.mem_toList, not_or,
    List.not_mem_nil] at hother
  obtain ⟨⟨h0, h1, h2, -⟩, h3⟩ := hother
  rw [parseNamedOrNumeric_string htext hnames, if_neg h0, if_neg h1, if_neg h2,
    if_neg (Ne.symm h3), parseDecimalU16_complete hnumeral]
  simp [hrange]

end Named

/-- One block of the line parser: a key, its field and its value reader. -/
structure KeyedBlock where
  key : CText
  field : UInt8
  parseValue : CText → Option (Option UInt16)

def vehicleBlocks : List KeyedBlock :=
  [⟨speedKey, LightVehicleField.speedKph, parseDecimalU16⟩,
    ⟨ignitionKey, LightVehicleField.ignitionOn, parseFlag⟩,
    ⟨brakeKey, LightVehicleField.brakePedal, parseFlag⟩,
    ⟨gearKey, LightVehicleField.gear, parseGear⟩,
    ⟨ambientKey, LightVehicleField.ambientLight, parseAmbient⟩,
    ⟨hazardKey, LightVehicleField.hazard, parseFlag⟩,
    ⟨modeKey, LightVehicleField.driveMode, parseDriveMode⟩]

/-- The blocks tried in order. -/
def parseBlocks (line : CText) (blocks : List KeyedBlock) :
    Option (Option LightVehicleStateRequest) :=
  blocks.foldr (fun block => parseKeyed line block.key block.field block.parseValue)
    (some none)

theorem parseLine_eq_blocks (line : CText) :
    lightVehicleStateParseLine line = parseBlocks line vehicleBlocks := rfl

/-- Two keys that differ in their first character. -/
def HeadsDiffer (key other : CText) : Prop :=
  key ≠ [] ∧ other ≠ [] ∧ key.head? ≠ other.head?

instance (key other : CText) : Decidable (HeadsDiffer key other) :=
  inferInstanceAs (Decidable (_ ∧ _ ∧ _))

section Blocks

/-- A block passes on a line that starts with another key. -/
theorem parseKeyed_skip {key other : CText} (hkeys : HeadsDiffer key other)
    (field : UInt8) (parseValue : CText → Option (Option UInt16)) (rest : CText)
    (otherwise : Option (Option LightVehicleStateRequest)) :
    parseKeyed (other ++ rest) key field parseValue otherwise = otherwise := by
  obtain ⟨hkey, hother, hheads⟩ := hkeys
  cases key with
  | nil => exact absurd rfl hkey
  | cons first more =>
      cases other with
      | nil => exact absurd rfl hother
      | cons ch text =>
          have hdiffers : ch ≠ first := fun heq => hheads (by simp [heq])
          simp [parseKeyed, matchesBytes, hdiffers]

theorem parseKeyed_take (key : CText) (field : UInt8)
    (parseValue : CText → Option (Option UInt16)) (rest : CText)
    (otherwise : Option (Option LightVehicleStateRequest)) :
    parseKeyed (key ++ rest) key field parseValue otherwise =
      (parseValue rest).map (fun value => value.map (fun value => ⟨field, value⟩)) := by
  have hmatches : matchesBytes (key ++ rest) key = some true :=
    (matchesBytes_eq_some_true_iff _ _).mpr (List.prefix_append key rest)
  simp [parseKeyed, hmatches]

/-- The block whose key starts the line reads the rest of it. -/
theorem parseBlocks_key {blocks : List KeyedBlock} {block : KeyedBlock}
    (hkeys : blocks.Pairwise fun first second => HeadsDiffer first.key second.key)
    (hblock : block ∈ blocks) (rest : CText) :
    parseBlocks (block.key ++ rest) blocks =
      (block.parseValue rest).map
        (fun value => value.map (fun value => ⟨block.field, value⟩)) := by
  induction blocks with
  | nil => cases hblock
  | cons first more ih =>
      rw [List.pairwise_cons] at hkeys
      rcases List.mem_cons.mp hblock with rfl | hlater
      · exact parseKeyed_take _ _ _ rest _
      · rw [← ih hkeys.2 hlater]
        exact parseKeyed_skip (hkeys.1 block hlater) _ _ rest _

theorem vehicleBlocks_heads :
    vehicleBlocks.Pairwise fun first second => HeadsDiffer first.key second.key := by
  have hkeys : vehicleKeys.Pairwise HeadsDiffer := by decide
  have hblocks : vehicleBlocks.map KeyedBlock.key = vehicleKeys := rfl
  rwa [← hblocks, List.pairwise_map] at hkeys

/-- A value that a block's reader accepts is accepted for the line. -/
theorem parseLine_of_block {block : KeyedBlock} (hblock : block ∈ vehicleBlocks)
    {text : CText} {value : UInt16}
    (hvalue : block.parseValue text = some (some value)) :
    lightVehicleStateParseLine (block.key ++ text) =
      some (some ⟨block.field, value⟩) := by
  rw [parseLine_eq_blocks, parseBlocks_key vehicleBlocks_heads hblock, hvalue]
  rfl

end Blocks

/-- A field whose values have names, read by the block with its key. -/
private theorem named_block {named : NamedField} {name0 name1 name2 : CText}
    {name3 : Option CText} {maxValue : UInt16}
    (hblock : ⟨named.key, named.field,
      parseNamedOrNumeric name0 name1 name2 name3 maxValue⟩ ∈ vehicleBlocks)
    (hnames : named.names = [name0, name1, name2] ++ name3.toList)
    (hspelled : ∀ name ∈ named.names, 0 ∉ name ∧ ¬ ∀ ch ∈ name, IsDigit ch)
    (hdistinct : named.names.Nodup)
    (hmax : named.names.length = maxValue.toNat + 1) {text : CText} {value : UInt16}
    (hvalue : named.names[value.toNat]? = some text ∨
      Numeral text value.toNat ∧ value.toNat < named.names.length) (tail : CText) :
    lightVehicleStateParseLine (named.key ++ (text ++ 0 :: tail)) =
      some (some ⟨named.field, value⟩) := by
  refine parseLine_of_block hblock ?_
  have hfree : ∀ name ∈ [name0, name1, name2] ++ name3.toList, 0 ∉ name :=
    fun name hmember => (hspelled name (hnames ▸ hmember)).1
  rcases hvalue with hname | ⟨hnumeral, hrange⟩
  · have htext : 0 ∉ text := (hspelled text (List.mem_of_getElem? hname)).1
    rw [hnames] at hname hdistinct
    exact parseNamedOrNumeric_name htext hfree hdistinct hname tail
  · have hother : text ∉ [name0, name1, name2] ++ name3.toList := by
      intro hmember
      exact (hspelled text (hnames ▸ hmember)).2 hnumeral.isDigit
    have hbound : value ≤ maxValue := by
      rw [UInt16.le_iff_toNat_le]
      omega
    exact parseNamedOrNumeric_number hfree hnumeral hother hbound tail

private theorem namedField_accepted {named : NamedField} (hnamed : named ∈ namedFields)
    {text : CText} {value : UInt16}
    (hvalue : named.names[value.toNat]? = some text ∨
      Numeral text value.toNat ∧ value.toNat < named.names.length) (tail : CText) :
    lightVehicleStateParseLine (named.key ++ (text ++ 0 :: tail)) =
      some (some ⟨named.field, value⟩) := by
  have hgear : ⟨gearKey, LightVehicleField.gear, parseGear⟩ ∈ vehicleBlocks := by
    simp [vehicleBlocks]
  have hambient : ⟨ambientKey, LightVehicleField.ambientLight, parseAmbient⟩ ∈
      vehicleBlocks := by simp [vehicleBlocks]
  have hmode : ⟨modeKey, LightVehicleField.driveMode, parseDriveMode⟩ ∈
      vehicleBlocks := by simp [vehicleBlocks]
  simp only [namedFields, List.mem_cons, List.not_mem_nil, or_false] at hnamed
  rcases hnamed with rfl | rfl | rfl
  · exact named_block hgear rfl (by decide) (by decide) rfl hvalue tail
  · exact named_block hambient rfl (by decide) (by decide) rfl hvalue tail
  · exact named_block hmode rfl (by decide) (by decide) rfl hvalue tail

private theorem flag_accepted {key : CText} {field : UInt8}
    (hfield : (key, field) ∈ flagFields) {text : CText} {value : UInt16}
    (hvalue : parseFlag text = some (some value)) :
    lightVehicleStateParseLine (key ++ text) = some (some ⟨field, value⟩) := by
  have hblocks : ∀ entry ∈ flagFields,
      (⟨entry.1, entry.2, parseFlag⟩ : KeyedBlock) ∈ vehicleBlocks := by
    simp [flagFields, vehicleBlocks]
  exact parseLine_of_block (hblocks _ hfield) hvalue

/-- The line parser accepts every sentence of the grammar, whatever stands
behind its terminator. -/
theorem lightVehicleStateParseLine_complete {text : CText}
    {request : LightVehicleStateRequest} (h : VehicleSentence text request)
    (tail : CText) :
    lightVehicleStateParseLine (text ++ 0 :: tail) = some (some request) := by
  cases h with
  | speed hvalue =>
      rw [List.append_assoc]
      have hspeed : (⟨speedKey, LightVehicleField.speedKph, parseDecimalU16⟩ :
          KeyedBlock) ∈ vehicleBlocks := List.mem_cons_self
      exact parseLine_of_block hspeed (parseDecimalU16_complete hvalue tail)
  | flagOff hfield =>
      rw [List.append_assoc]
      exact flag_accepted hfield (parseFlag_string (by decide) tail)
  | flagOn hfield =>
      rw [List.append_assoc]
      exact flag_accepted hfield (parseFlag_string (by decide) tail)
  | name hnamed hname =>
      rw [List.append_assoc]
      exact namedField_accepted hnamed (Or.inl hname) tail
  | number hnamed hvalue hrange =>
      rw [List.append_assoc]
      exact namedField_accepted hnamed (Or.inr ⟨hvalue, hrange⟩) tail

/-- On a string the line parser accepts exactly the sentences. -/
theorem lightVehicleStateParseLine_iff {text : CText} (htext : 0 ∉ text)
    (tail : CText) (request : LightVehicleStateRequest) :
    lightVehicleStateParseLine (text ++ 0 :: tail) = some (some request) ↔
      VehicleSentence text request := by
  constructor
  · intro haccepted
    obtain ⟨spelled, behind, hline, hsentence⟩ :=
      lightVehicleStateParseLine_sound haccepted
    rwa [string_unique htext hsentence.nul_free hline]
  · exact fun hsentence => lightVehicleStateParseLine_complete hsentence tail

/-- What a call stores, in terms of the line parser's answer. -/
def storedAnswer (request : LightVehicleStateRequest)
    (answer : Option LightVehicleStateRequest) : Bool × LightVehicleStateRequest :=
  (answer.isSome, answer.getD request)

theorem storeKeyed_eq (line key : CText) (field : UInt8)
    (parseValue : CText → Option (Option UInt16))
    (request : LightVehicleStateRequest)
    (otherwise : Option (Option LightVehicleStateRequest)) :
    storeKeyed line key field parseValue request
        (otherwise.map (storedAnswer request)) =
      (parseKeyed line key field parseValue otherwise).map
        (storedAnswer request) := by
  unfold storeKeyed parseKeyed
  cases matchesBytes line key with
  | none => rfl
  | some found =>
      cases found with
      | false => rfl
      | true =>
          simp only [Option.map_map]
          congr 1
          funext answer
          cases answer with
          | none => rfl
          | some value => rfl

theorem lightVehicleStateParseLineInto_eq (line : CText)
    (request : LightVehicleStateRequest) :
    lightVehicleStateParseLineInto line request =
      (lightVehicleStateParseLine line).map (storedAnswer request) := by
  simp only [lightVehicleStateParseLine, ← storeKeyed_eq]
  rfl

section Accumulator

/-- The digit loop with a record of the assignments to its accumulator, each
as the value before it and the digit. -/
def parseDecimalU16Traced : CText → UInt32 →
    Option (Option UInt16) × List (UInt32 × UInt8)
  | [], _ => (none, [])
  | ch :: rest, parsed =>
      if ch = 0 then (some (some parsed.toUInt16), [])
      else if ch < charDigit0 ∨ ch > charDigit9 then (some none, [])
      else
        let next := parsed * 10 + (ch - charDigit0).toUInt32
        if next > 65535 then (some none, [(parsed, ch)])
        else
          let (answer, steps) := parseDecimalU16Traced rest next
          (answer, (parsed, ch) :: steps)

theorem parseDecimalU16Traced_fst (text : CText) (parsed : UInt32) :
    (parseDecimalU16Traced text parsed).1 = parseDecimalU16Loop text parsed := by
  induction text generalizing parsed with
  | nil => rfl
  | cons ch rest ih =>
      unfold parseDecimalU16Traced parseDecimalU16Loop
      dsimp only
      split_ifs
      · rfl
      · rfl
      · rfl
      · exact ih _

/-- The value assigned at a step, computed exactly. -/
def assignedValue (step : UInt32 × UInt8) : Nat :=
  10 * step.1.toNat + (step.2.toNat - charDigit0.toNat)

/-- At most 65535 before an assignment, whose digit is at most nine. -/
theorem parseDecimalU16Traced_steps {text : CText} {parsed : UInt32}
    (hparsed : parsed ≤ 65535) :
    ∀ step ∈ (parseDecimalU16Traced text parsed).2,
      step.1 ≤ 65535 ∧ IsDigit step.2 := by
  induction text generalizing parsed with
  | nil => simp [parseDecimalU16Traced]
  | cons ch rest ih =>
      unfold parseDecimalU16Traced
      dsimp only
      split_ifs with hend hother hlarge
      · simp
      · simp
      · rw [List.forall_mem_singleton]
        obtain ⟨hlow, hhigh⟩ := not_or.mp hother
        exact ⟨hparsed, UInt8.not_lt.mp hlow, UInt8.not_lt.mp hhigh⟩
      · rw [List.forall_mem_cons]
        obtain ⟨hlow, hhigh⟩ := not_or.mp hother
        exact ⟨⟨hparsed, UInt8.not_lt.mp hlow, UInt8.not_lt.mp hhigh⟩,
          ih (UInt32.not_lt.mp hlarge)⟩

/-- No assignment overflows, on any memory. -/
theorem parseDecimalU16Traced_exact (text : CText) :
    ∀ step ∈ (parseDecimalU16Traced text 0).2,
      (step.1 * 10 + (step.2 - charDigit0).toUInt32).toNat = assignedValue step ∧
        assignedValue step ≤ 655359 := by
  intro step hstep
  obtain ⟨hbefore, hdigit⟩ := parseDecimalU16Traced_steps (by decide) step hstep
  refine ⟨digit_step hdigit hbefore, ?_⟩
  have hvalue : step.1.toNat ≤ 65535 := UInt32.le_iff_toNat_le.mp hbefore
  have hlast : step.2.toNat ≤ 57 := UInt8.le_iff_toNat_le.mp hdigit.2
  have hzero : charDigit0.toNat = 48 := rfl
  unfold assignedValue
  omega

end Accumulator

/-- On every string, whatever stands behind its terminator and whatever the
request held: a sentence is accepted with what it denotes, any other string is
refused and leaves the request alone, and the accumulator of the digit loop
never exceeds 655359. -/
theorem parseLine_grammar_exact (text : CText) (htext : 0 ∉ text) (tail : CText)
    (request : LightVehicleStateRequest) :
    (∀ stored, lightVehicleStateParseLineInto (text ++ 0 :: tail) request =
        some (true, stored) ↔ VehicleSentence text stored) ∧
      ((¬ ∃ stored, VehicleSentence text stored) →
        lightVehicleStateParseLineInto (text ++ 0 :: tail) request =
          some (false, request)) ∧
      ∀ digits, (parseDecimalU16Traced digits 0).1 = parseDecimalU16Loop digits 0 ∧
        ∀ step ∈ (parseDecimalU16Traced digits 0).2,
          (step.1 * 10 + (step.2 - charDigit0).toUInt32).toNat =
              assignedValue step ∧
            assignedValue step ≤ 655359 := by
  obtain ⟨answer, hanswer⟩ := lightVehicleStateParseLine_readsString text htext
  have hsentence : ∀ stored, answer = some stored ↔ VehicleSentence text stored := by
    intro stored
    rw [← lightVehicleStateParseLine_iff htext tail, hanswer, Option.some.injEq]
  rw [lightVehicleStateParseLineInto_eq, hanswer, Option.map_some]
  refine ⟨fun stored => ?_, fun hnone => ?_, fun digits =>
    ⟨parseDecimalU16Traced_fst digits 0, parseDecimalU16Traced_exact digits⟩⟩
  · rw [← hsentence]
    cases answer with
    | none => simp [storedAnswer]
    | some found => simp [storedAnswer]
  · cases answer with
    | none => rfl
    | some found => exact absurd ⟨found, (hsentence found).mp rfl⟩ hnone

/-- `gear=03` in a buffer with older text behind it. -/
theorem parseLine_grammar_exact_gear :
    (∀ stored, lightVehicleStateParseLineInto
        (cBytes ['g', 'e', 'a', 'r', '=', '0', '3'] ++ 0 :: [0x7A]) ⟨0, 0⟩ =
          some (true, stored) ↔
        VehicleSentence (cBytes ['g', 'e', 'a', 'r', '=', '0', '3']) stored) ∧
      ((¬ ∃ stored,
          VehicleSentence (cBytes ['g', 'e', 'a', 'r', '=', '0', '3']) stored) →
        lightVehicleStateParseLineInto
          (cBytes ['g', 'e', 'a', 'r', '=', '0', '3'] ++ 0 :: [0x7A]) ⟨0, 0⟩ =
            some (false, ⟨0, 0⟩)) ∧
      ∀ digits, (parseDecimalU16Traced digits 0).1 = parseDecimalU16Loop digits 0 ∧
        ∀ step ∈ (parseDecimalU16Traced digits 0).2,
          (step.1 * 10 + (step.2 - charDigit0).toUInt32).toNat =
              assignedValue step ∧
            assignedValue step ≤ 655359 :=
  parseLine_grammar_exact (cBytes ['g', 'e', 'a', 'r', '=', '0', '3'])
    (by decide) [0x7A] ⟨0, 0⟩

end LightCtrl
