import Mathlib.Data.Nat.Digits.Lemmas
import Mathlib.Tactic

/-!
Numerals in a base, most significant digit first, read by Horner's rule. Among
the numerals of a number there is one without a leading zero, and it is the
list of the digits of the number.
-/

namespace LightCtrl.Positional

variable {base : Nat}

/-- Horner's rule, reading on from `start`. -/
def horner (base start : Nat) (digits : List Nat) : Nat :=
  digits.foldl (fun value digit => base * value + digit) start

theorem horner_reverse (base : Nat) (digits : List Nat) :
    horner base 0 digits.reverse = Nat.ofDigits base digits := by
  rw [horner, List.foldl_reverse, Nat.ofDigits_eq_foldr]
  simp only [Nat.cast_id, Nat.add_comm]

/-- The digits of a number, from the most significant one. -/
def numeral (base value : Nat) : List Nat := (Nat.digits base value).reverse

theorem horner_numeral (base value : Nat) :
    horner base 0 (numeral base value) = value := by
  rw [numeral, horner_reverse, Nat.ofDigits_digits]

theorem numeral_ne_nil {value : Nat} (hvalue : value ≠ 0) : numeral base value ≠ [] := by
  rw [numeral, ne_eq, List.reverse_eq_nil_iff]
  exact Nat.digits_ne_nil_iff_ne_zero.mpr hvalue

theorem lt_of_mem_numeral (hbase : 1 < base) {value digit : Nat}
    (hdigit : digit ∈ numeral base value) : digit < base :=
  Nat.digits_lt_base hbase (List.mem_reverse.mp hdigit)

theorem numeral_head {value : Nat} (hvalue : value ≠ 0) :
    (numeral base value).head? ≠ some 0 := by
  rw [numeral, List.head?_reverse,
    List.getLast?_eq_getLast_of_ne_nil (Nat.digits_ne_nil_iff_ne_zero.mpr hvalue)]
  exact fun hzero => Nat.getLast_digit_ne_zero base hvalue (Option.some.inj hzero)

/-- There is no other numeral without a leading zero. -/
theorem numeral_unique (hbase : 1 < base) {digits : List Nat}
    (hdigits : ∀ digit ∈ digits, digit < base) (hhead : digits.head? ≠ some 0) :
    numeral base (horner base 0 digits) = digits := by
  have hreverse : horner base 0 digits = Nat.ofDigits base digits.reverse := by
    rw [← horner_reverse, List.reverse_reverse]
  have hlast : ∀ h : digits.reverse ≠ [], digits.reverse.getLast h ≠ 0 := by
    intro hnonempty hzero
    apply hhead
    rw [← List.getLast?_reverse, List.getLast?_eq_getLast_of_ne_nil hnonempty, hzero]
  rw [hreverse, numeral, Nat.digits_ofDigits base hbase digits.reverse
    (fun digit hdigit => hdigits digit (List.mem_reverse.mp hdigit)) hlast,
    List.reverse_reverse]

end LightCtrl.Positional
