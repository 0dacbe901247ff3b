import LightCtrl.Domains.Commandin
import LightCtrl.Library.Positional
import LightCtrl.Transport.Acceptance

/-!
Decimal output and input. `uart_put_u32` takes the digits off the low end of
the number and sends them from the high end, so it sends the one numeral that
has no leading zero. The line parser reads that numeral back as far as its
sixteen bits go.
-/

namespace LightCtrl

open NulTerminated Positional

def digitByte (digit : Nat) : UInt8 := UInt8.ofNat (0x30 + digit)

/-- The number behind a digit character. -/
def digitValue (ch : UInt8) : Nat := ch.toNat - charDigit0.toNat

/-- The text of a number, without leading zeros. -/
def decimalText (value : Nat) : CText :=
  if value = 0 then [charDigit0] else (numeral 10 value).map digitByte

/-- A numeral that starts with a zero only if it is the zero. -/
structure Canonical (text : CText) (value : Nat) : Prop where
  numeral : Numeral text value
  no_leading_zero : text = [charDigit0] ∨ text.head? ≠ some charDigit0

section Digits

theorem digitByte_toNat {digit : Nat} (hdigit : digit < 10) :
    (digitByte digit).toNat = 0x30 + digit := by
  rw [digitByte, UInt8.toNat_ofNat']
  omega

theorem digitByte_isDigit {digit : Nat} (hdigit : digit < 10) :
    IsDigit (digitByte digit) := by
  have hlow : charDigit0.toNat = 48 := rfl
  have hhigh : charDigit9.toNat = 57 := rfl
  unfold IsDigit
  rw [UInt8.le_iff_toNat_le, UInt8.le_iff_toNat_le, digitByte_toNat hdigit]
  omega

theorem digitValue_digitByte {digit : Nat} (hdigit : digit < 10) :
    digitValue (digitByte digit) = digit := by
  have hlow : charDigit0.toNat = 48 := rfl
  rw [digitValue, digitByte_toNat hdigit]
  omega

theorem digitValue_lt {ch : UInt8} (hdigit : IsDigit ch) : digitValue ch < 10 := by
  have hhigh := UInt8.le_iff_toNat_le.mp hdigit.2
  have hlow : charDigit0.toNat = 48 := rfl
  have hnine : charDigit9.toNat = 57 := rfl
  unfold digitValue
  omega

theorem digitByte_digitValue {ch : UInt8} (hdigit : IsDigit ch) :
    digitByte (digitValue ch) = ch := by
  have hlow := UInt8.le_iff_toNat_le.mp hdigit.1
  have hzero : charDigit0.toNat = 48 := rfl
  apply UInt8.toNat_inj.mp
  rw [digitByte_toNat (digitValue_lt hdigit), digitValue]
  omega

/-- The grammar reads numerals by Horner's rule. -/
theorem decimalFrom_eq_horner (start : Nat) (text : CText) :
    decimalFrom start text = horner 10 start (text.map digitValue) := by
  rw [decimalFrom, horner, List.foldl_map]
  rfl

end Digits

section Text

theorem numeral_text_values (value : Nat) :
    ((numeral 10 value).map digitByte).map digitValue = numeral 10 value := by
  have hback : ∀ digit ∈ numeral 10 value,
      (digitValue ∘ digitByte) digit = id digit := fun digit hdigit =>
    digitValue_digitByte (lt_of_mem_numeral (by decide) hdigit)
  rw [List.map_map, List.map_congr_left hback, List.map_id]

theorem decimalText_canonical (value : Nat) : Canonical (decimalText value) value := by
  unfold decimalText
  split_ifs with hzero
  · subst hzero
    refine ⟨⟨List.cons_ne_nil _ _, ?_, rfl⟩, Or.inl rfl⟩
    intro ch hch
    rw [List.mem_singleton.mp hch]
    exact ⟨UInt8.le_refl _, by decide⟩
  · refine ⟨⟨?_, ?_, ?_⟩, Or.inr ?_⟩
    · exact fun hnil => numeral_ne_nil hzero (List.map_eq_nil_iff.mp hnil)
    · intro ch hch
      obtain ⟨digit, hdigit, rfl⟩ := List.mem_map.mp hch
      exact digitByte_isDigit (lt_of_mem_numeral (by decide) hdigit)
    · rw [decimalFrom_eq_horner, numeral_text_values, horner_numeral]
    · rw [List.head?_map]
      intro hhead
      obtain ⟨digit, hdigit, hbyte⟩ := Option.map_eq_some_iff.mp hhead
      have hsmall : digit < 10 :=
        lt_of_mem_numeral (by decide) (List.mem_of_mem_head? hdigit)
      have hvalue : digit = digitValue charDigit0 := by
        rw [← hbyte, digitValue_digitByte hsmall]
      exact numeral_head hzero (hdigit.trans (congrArg some hvalue))

/-- Without a leading zero the characters are the digits of the number. -/
theorem Numeral.values_eq {text : CText} {value : Nat} (h : Numeral text value)
    (hhead : text.head? ≠ some charDigit0) :
    text.map digitValue = numeral 10 value := by
  have hsmall : ∀ digit ∈ text.map digitValue, digit < 10 := by
    intro digit hdigit
    obtain ⟨ch, hch, rfl⟩ := List.mem_map.mp hdigit
    exact digitValue_lt (h.isDigit ch hch)
  have hnonzero : (text.map digitValue).head? ≠ some 0 := by
    rw [List.head?_map]
    intro hzero
    obtain ⟨ch, hch, hvalue⟩ := Option.map_eq_some_iff.mp hzero
    apply hhead
    rw [hch, ← digitByte_digitValue (h.isDigit ch (List.mem_of_mem_head? hch)), hvalue]
    rfl
  have hdenotes := h.denotes
  rw [decimalFrom_eq_horner] at hdenotes
  rw [← numeral_unique (by decide) hsmall hnonzero, hdenotes]

/-- Every number has one canonical text. -/
theorem Canonical.eq_decimalText {text : CText} {value : Nat}
    (h : Canonical text value) : text = decimalText value := by
  have hbytes : (text.map digitValue).map digitByte = text := by
    have hback : ∀ ch ∈ text, (digitByte ∘ digitValue) ch = id ch :=
      fun ch hch => digitByte_digitValue (h.numeral.isDigit ch hch)
    rw [List.map_map, List.map_congr_left hback, List.map_id]
  unfold decimalText
  split_ifs with hzero
  · rcases h.no_leading_zero with hsingle | hhead
    · exact hsingle
    · have hvalues := h.numeral.values_eq hhead
      rw [hzero] at hvalues
      exact absurd (List.map_eq_nil_iff.mp hvalues) h.numeral.nonempty
  · rcases h.no_leading_zero with rfl | hhead
    · exact absurd h.numeral.denotes.symm hzero
    · rw [← h.numeral.values_eq hhead, hbytes]

end Text

section Output

/-- The byte the first loop stores for the lowest digit. -/
theorem storedDigit_eq (value : UInt32) :
    (0x30 + value % 10).toUInt8 = digitByte (value.toNat % 10) := by
  have hdigit : value.toNat % 10 < 10 := Nat.mod_lt _ (by decide)
  have hten : (10 : UInt32).toNat = 10 := rfl
  have hlow : (0x30 : UInt32).toNat = 0x30 := rfl
  apply UInt8.toNat_inj.mp
  rw [digitByte_toNat hdigit, UInt32.toNat_toUInt8, UInt32.toNat_add,
    UInt32.toNat_mod, hten, hlow]
  omega

theorem take_succ_set {digits : Vector UInt8 uartDigitsSize} {count : Nat}
    (hcount : count < uartDigitsSize) (ch : UInt8) :
    (digits.set count ch hcount).toList.take (count + 1) =
      digits.toList.take count ++ [ch] := by
  have hlength : count < digits.toList.length := by
    rwa [Vector.length_toList]
  rw [Vector.toList_set, List.take_add_one, List.take_set_of_le (le_refl count),
    List.getElem?_set_self hlength]
  rfl

/-- The first loop stores the digits of its value behind what it has stored
already, and stays within the array if they fit. -/
theorem uartDigitsLoop_eq (digits : Vector UInt8 uartDigitsSize) (count : Nat)
    (value : UInt32)
    (hfits : count + (Nat.digits 10 value.toNat).length ≤ uartDigitsSize) :
    ∃ final, uartDigitsLoop digits count value =
        some (final, count + (Nat.digits 10 value.toNat).length) ∧
      final.toList.take (count + (Nat.digits 10 value.toNat).length) =
        digits.toList.take count ++ (Nat.digits 10 value.toNat).map digitByte := by
  induction digits, count, value using uartDigitsLoop.induct with
  | case1 digits count value hpositive hinside ih =>
      have hdigits : Nat.digits 10 value.toNat =
          value.toNat % 10 :: Nat.digits 10 (value.toNat / 10) :=
        Nat.digits_def' (by decide) (UInt32.lt_iff_toNat_lt.mp hpositive)
      have hnext : (value / 10).toNat = value.toNat / 10 := UInt32.toNat_div _ _
      rw [hdigits, List.length_cons] at hfits ⊢
      rw [hnext] at ih
      obtain ⟨final, hloop, hstored⟩ := ih (by omega)
      have hcount : count + ((Nat.digits 10 (value.toNat / 10)).length + 1) =
          count + 1 + (Nat.digits 10 (value.toNat / 10)).length := by omega
      rw [hcount]
      refine ⟨final, ?_, ?_⟩
      · rw [uartDigitsLoop, if_pos hpositive, dif_pos hinside, hloop]
      · rw [hstored, take_succ_set, storedDigit_eq, List.map_cons, List.append_assoc,
          List.singleton_append]
  | case2 digits count value hpositive houtside =>
      have hsome : Nat.digits 10 value.toNat ≠ [] :=
        Nat.digits_ne_nil_iff_ne_zero.mpr
          (Nat.ne_of_gt (UInt32.lt_iff_toNat_lt.mp hpositive))
      have hlength := List.length_pos_of_ne_nil hsome
      omega
  | case3 digits count value hdone =>
      have hzero : value.toNat = 0 := by
        rw [UInt32.lt_iff_toNat_lt, UInt32.toNat_zero] at hdone
        omega
      rw [hzero, Nat.digits_zero, List.length_nil, Nat.add_zero]
      refine ⟨digits, ?_, by simp⟩
      rw [uartDigitsLoop, if_neg hdone]

/-- The second loop sends the stored digits in the reverse order. -/
theorem uartEmitLoop_eq (digits : Vector UInt8 uartDigitsSize) {count : Nat}
    (hcount : count ≤ uartDigitsSize) :
    uartEmitLoop digits count =
      some ((digits.toList.take count).reverse.flatMap
        fun ch => uartPutChar ch.toNat) := by
  induction count with
  | zero => rfl
  | succ count ih =>
      have hinside : count < digits.toList.length := by
        rwa [Vector.length_toList]
      have hread : digits[count]? = some digits.toList[count] := by
        rw [← Vector.getElem?_toList, List.getElem?_eq_getElem hinside]
      rw [uartEmitLoop, hread, ih (Nat.le_of_succ_le hcount),
        List.take_succ_eq_append_getElem hinside, List.reverse_concat,
        List.flatMap_cons]
      rfl

/-- A digit is not followed by anything. -/
theorem uartPutChar_digit {ch : UInt8} (hdigit : IsDigit ch) :
    uartPutChar ch.toNat = [(ch.toNat : Int)] := by
  have hlow := UInt8.le_iff_toNat_le.mp hdigit.1
  have hzero : charDigit0.toNat = 48 := rfl
  have hreturn : (ch.toNat : Int) ≠ charCarriageReturn := by
    unfold charCarriageReturn
    omega
  rw [uartPutChar, if_neg hreturn]

theorem uartPutU32_eq (digits : Vector UInt8 uartDigitsSize) (value : UInt32) :
    uartPutU32 digits value =
      some ((decimalText value.toNat).map fun ch => (ch.toNat : Int)) := by
  by_cases hzero : value = 0
  · subst hzero
    rfl
  · have hpositive : value.toNat ≠ 0 := fun h => hzero (UInt32.toNat_inj.mp h)
    -- ten digits are enough for 32 bits
    have hfits : (Nat.digits 10 value.toNat).length ≤ 10 := by
      rw [Nat.digits_length_le_iff (by decide)]
      have hlimit := value.toNat_lt
      omega
    obtain ⟨final, hloop, hstored⟩ :=
      uartDigitsLoop_eq digits 0 value (by rwa [Nat.zero_add])
    rw [Nat.zero_add] at hloop hstored
    rw [List.take_zero, List.nil_append] at hstored
    have htext : ((Nat.digits 10 value.toNat).map digitByte).reverse =
        decimalText value.toNat := by
      rw [decimalText, if_neg hpositive, numeral, List.map_reverse]
    have hdigits := (decimalText_canonical value.toNat).numeral.isDigit
    have hsent : (decimalText value.toNat).flatMap
        (fun ch => uartPutChar ch.toNat) =
          (decimalText value.toNat).map fun ch => (ch.toNat : Int) := by
      rw [List.map_eq_flatMap]
      exact List.flatMap_congr fun ch hch => uartPutChar_digit (hdigits ch hch)
    rw [uartPutU32, if_neg hzero, hloop]
    simp only [Option.bind_eq_bind, Option.bind_some]
    rw [uartEmitLoop_eq final hfits, hstored, htext, hsent]

end Output

/-- The line parser reads any numeral as far as its sixteen bits go. -/
theorem parseDecimalU16_numeral {text : CText} {value : Nat}
    (h : Numeral text value) (tail : CText) :
    parseDecimalU16 (text ++ 0 :: tail) =
      some (if value ≤ 65535 then some (UInt16.ofNat value) else none) := by
  have htext : 0 ∉ text := fun hnul => absurd (h.isDigit 0 hnul).1 (by decide)
  split_ifs with hrange
  · apply parseDecimalU16_complete
    rw [UInt16.toNat_ofNat', Nat.mod_eq_of_lt (by omega)]
    exact h
  · obtain ⟨answer, hanswer⟩ := parseDecimalU16_readsString text htext
    rw [hanswer]
    cases answer with
    | none => rfl
    | some found =>
        obtain ⟨spelled, behind, hline, hnumeral⟩ :=
          parseDecimalU16_sound (hanswer tail)
        have hspelled : 0 ∉ spelled := fun hnul =>
          absurd (hnumeral.isDigit 0 hnul).1 (by decide)
        obtain rfl := string_unique htext hspelled hline
        have hsame : value = found.toNat := h.denotes.symm.trans hnumeral.denotes
        have hfound := found.toNat_lt
        omega

/-- For every number: `uart_put_u32` sends its canonical decimal text, the
only one there is, without an access outside its array, and
`parse_decimal_u16` reads that text back exactly if it fits in sixteen bits. -/
theorem decimal_output_reads_back (digits : Vector UInt8 uartDigitsSize)
    (value : UInt32) :
    ∃ text : CText,
      uartPutU32 digits value = some (text.map fun ch => (ch.toNat : Int)) ∧
        Canonical text value.toNat ∧
        (∀ other, Canonical other value.toNat → other = text) ∧
        ∀ tail, parseDecimalU16 (text ++ 0 :: tail) =
          some (if value ≤ 65535 then some value.toUInt16 else none) := by
  have hcanonical := decimalText_canonical value.toNat
  refine ⟨decimalText value.toNat, uartPutU32_eq digits value, hcanonical,
    fun _ hother => hother.eq_decimalText, fun tail => ?_⟩
  have hrange : value.toNat ≤ 65535 ↔ value ≤ 65535 := by
    rw [UInt32.le_iff_toNat_le]
    rfl
  rw [parseDecimalU16_numeral hcanonical.numeral]
  simp only [hrange]
  rfl

end LightCtrl
