import Mathlib.Tactic

/-!
How often one value occurs at the end of a list without a break. A counter
that goes up on the value and back to zero on every other one computes this
length, and the list ends in so many copies of the value exactly when the
streak is at least that long.
-/

namespace LightCtrl.Streaks

variable {α : Type*} [DecidableEq α]

/-- The counter, fed with the values in order. -/
def streak (value : α) (values : List α) : Nat :=
  values.foldl (fun length current => if current = value then length + 1 else 0) 0

@[simp] theorem streak_nil (value : α) : streak value [] = 0 := rfl

theorem streak_concat (value current : α) (values : List α) :
    streak value (values ++ [current]) =
      if current = value then streak value values + 1 else 0 := by
  simp only [streak, List.foldl_append, List.foldl_cons, List.foldl_nil]

theorem streak_le_length (value : α) (values : List α) :
    streak value values ≤ values.length := by
  induction values using List.reverseRecOn with
  | nil => exact le_refl _
  | append_singleton values current ih =>
      rw [streak_concat, List.length_append, List.length_singleton]
      split <;> omega

theorem le_streak_iff (value : α) (length : Nat) (values : List α) :
    length ≤ streak value values ↔ List.replicate length value <:+ values := by
  induction values using List.reverseRecOn generalizing length with
  | nil => simp
  | append_singleton values current ih =>
      rw [streak_concat]
      cases length with
      | zero => simp
      | succ length =>
          rw [List.replicate_succ', List.suffix_concat_iff]
          split_ifs with hcurrent
          · subst hcurrent
            simp [ih length]
          · have hother : value ≠ current := fun heq => hcurrent heq.symm
            simp [hother]

end LightCtrl.Streaks
