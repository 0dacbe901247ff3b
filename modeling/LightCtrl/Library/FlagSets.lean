import Mathlib.Tactic
import Mathlib.Data.Finset.Basic

/-!
A word that stands for a finite set of flags. Flags are words of any number of
bits; as long as no two share one, setting and clearing a flag is inserting and
erasing it, and testing it is membership.
-/

namespace LightCtrl.FlagSets

variable {ι : Type*} {w : Nat}

/-- Flags that are not empty and share no bit. -/
structure Separate (flag : ι → BitVec w) : Prop where
  nonempty : ∀ i, ∃ bit, (flag i).getLsbD bit = true
  disjoint : ∀ i j bit, (flag i).getLsbD bit = true → (flag j).getLsbD bit = true → i = j

/-- The word has the bits of the flags of the set and no others. -/
def Holds (flag : ι → BitVec w) (word : BitVec w) (flags : Finset ι) : Prop :=
  ∀ bit, word.getLsbD bit = true ↔ ∃ i ∈ flags, (flag i).getLsbD bit = true

variable {flag : ι → BitVec w} {word other : BitVec w} {flags more : Finset ι}

/-- A set has one word. -/
theorem Holds.word_unique (h : Holds flag word flags) (hother : Holds flag other flags) :
    word = other := by
  refine BitVec.eq_of_getLsbD_eq fun bit _ => ?_
  exact Bool.eq_iff_iff.mpr ((h bit).trans (hother bit).symm)

theorem holds_empty : Holds flag 0#w ∅ := by
  intro bit
  simp

/-- Testing a flag of a word. -/
theorem Holds.test (h : Holds flag word flags) (hflag : Separate flag) (i : ι) :
    word &&& flag i ≠ 0#w ↔ i ∈ flags := by
  constructor
  · intro hshared
    obtain ⟨bit, hbit⟩ : ∃ bit, (word &&& flag i).getLsbD bit = true := by
      by_contra hnone
      push Not at hnone
      refine hshared (BitVec.eq_of_getLsbD_eq fun bit _ => ?_)
      rw [BitVec.getLsbD_zero]
      exact Bool.eq_false_iff.mpr (hnone bit)
    rw [BitVec.getLsbD_and, Bool.and_eq_true] at hbit
    obtain ⟨j, hj, hsame⟩ := (h bit).mp hbit.1
    exact hflag.disjoint i j bit hbit.2 hsame ▸ hj
  · intro hi hzero
    obtain ⟨bit, hbit⟩ := hflag.nonempty i
    have hclear : (word &&& flag i).getLsbD bit = false := by
      rw [hzero, BitVec.getLsbD_zero]
    rw [BitVec.getLsbD_and, (h bit).mpr ⟨i, hi, hbit⟩, hbit] at hclear
    exact absurd hclear (by decide)

section Update

variable [DecidableEq ι]

/-- `word |= flag`. -/
theorem Holds.insert (h : Holds flag word flags) (i : ι) :
    Holds flag (word ||| flag i) (insert i flags) := by
  intro bit
  rw [BitVec.getLsbD_or, Bool.or_eq_true, h bit]
  constructor
  · rintro (⟨j, hj, hbit⟩ | hbit)
    · exact ⟨j, Finset.mem_insert_of_mem hj, hbit⟩
    · exact ⟨i, Finset.mem_insert_self i flags, hbit⟩
  · rintro ⟨j, hj, hbit⟩
    rcases Finset.mem_insert.mp hj with rfl | hold
    · exact Or.inr hbit
    · exact Or.inl ⟨j, hold, hbit⟩

/-- `word &= ~flag`. -/
theorem Holds.erase (h : Holds flag word flags) (hflag : Separate flag) (i : ι) :
    Holds flag (word &&& ~~~flag i) (flags.erase i) := by
  intro bit
  have hinside : word.getLsbD bit = true → bit < w := BitVec.lt_of_getLsbD
  simp only [BitVec.getLsbD_and, BitVec.getLsbD_not, Bool.and_eq_true, Bool.not_eq_true',
    decide_eq_true_eq]
  constructor
  · rintro ⟨hword, -, hclear⟩
    obtain ⟨j, hj, hbit⟩ := (h bit).mp hword
    refine ⟨j, Finset.mem_erase.mpr ⟨?_, hj⟩, hbit⟩
    rintro rfl
    exact absurd hbit (by simp [hclear])
  · rintro ⟨j, hj, hbit⟩
    obtain ⟨hne, hj⟩ := Finset.mem_erase.mp hj
    have hword : word.getLsbD bit = true := (h bit).mpr ⟨j, hj, hbit⟩
    refine ⟨hword, hinside hword, Bool.eq_false_iff.mpr fun hi => ?_⟩
    exact hne (hflag.disjoint j i bit hbit hi)

end Update

/-- A word without foreign bits whose flags are whole holds the set of the flags
it tests for. -/
theorem holds_tested [Fintype ι] (flag : ι → BitVec w) (word : BitVec w)
    (hwhole : ∀ i, word &&& flag i ≠ 0#w → word &&& flag i = flag i)
    (hforeign : ∀ bit, word.getLsbD bit = true → ∃ i, (flag i).getLsbD bit = true) :
    Holds flag word (Finset.univ.filter fun i => word &&& flag i ≠ 0#w) := by
  intro bit
  simp only [Finset.mem_filter, Finset.mem_univ, true_and]
  constructor
  · intro hbit
    obtain ⟨i, hi⟩ := hforeign bit hbit
    refine ⟨i, fun hzero => ?_, hi⟩
    have hboth : (word &&& flag i).getLsbD bit = true := by
      rw [BitVec.getLsbD_and, hbit, hi, Bool.and_self]
    rw [hzero, BitVec.getLsbD_zero] at hboth
    exact Bool.false_ne_true hboth
  · rintro ⟨i, hset, hi⟩
    have hboth : (word &&& flag i).getLsbD bit = true := by
      rw [hwhole i hset, hi]
    rw [BitVec.getLsbD_and, Bool.and_eq_true] at hboth
    exact hboth.1

end LightCtrl.FlagSets
