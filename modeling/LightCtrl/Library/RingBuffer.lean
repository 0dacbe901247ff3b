import LightCtrl.Library.Runs

/-!
A ring of slots that is written round and round. Each write takes the next
slot and overwrites what was there one lap ago, so the ring holds the writes
of the last lap, each at its number modulo the capacity. What the slots held
at first does not matter.
-/

namespace LightCtrl.RingBuffers

open Runs

variable {α : Type*} {capacity : Nat}

structure RingBuffer (α : Type*) (capacity : Nat) where
  slots : Vector α capacity
  next : Fin capacity

/-- One write. -/
def RingBuffer.push (ring : RingBuffer α capacity) (value : α) :
    RingBuffer α capacity where
  slots := ring.slots.set ring.next value ring.next.isLt
  next := ⟨(ring.next + 1) % capacity, Nat.mod_lt _ ring.next.pos⟩

theorem push_slots (ring : RingBuffer α capacity) (value : α) :
    (ring.push value).slots =
      ring.slots.set ring.next value ring.next.isLt := rfl

theorem push_next (ring : RingBuffer α capacity) (value : α) :
    (ring.push value).next.val = (ring.next.val + 1) % capacity := rfl

/-- The ring holds the last lap of the writes. -/
structure Remembers (written : List α) (ring : RingBuffer α capacity) : Prop where
  next_eq : ring.next.val = written.length % capacity
  recent : ∀ index value, written.length ≤ index + capacity →
    written[index]? = some value → ring.slots[index % capacity]? = some value

theorem remembers_nil {ring : RingBuffer α capacity} (hnext : ring.next.val = 0) :
    Remembers [] ring where
  next_eq := by rw [hnext, List.length_nil, Nat.zero_mod]
  recent _ _ _ hvalue := by cases hvalue

/-- Two writes less than a lap apart go to different slots. -/
theorem mod_ne_of_within_lap {earlier later : Nat} (horder : earlier < later)
    (hlap : later < earlier + capacity) :
    later % capacity ≠ earlier % capacity := by
  intro hsame
  have hdivides : capacity ∣ later - earlier :=
    (Nat.modEq_iff_dvd' horder.le).mp hsame.symm
  have hlong : capacity ≤ later - earlier :=
    Nat.le_of_dvd (Nat.sub_pos_of_lt horder) hdivides
  omega

/-- One write more. -/
theorem Remembers.push {written : List α} {ring : RingBuffer α capacity}
    (h : Remembers written ring) (value : α) :
    Remembers (written ++ [value]) (ring.push value) where
  next_eq := by
    rw [push_next, h.next_eq, List.length_append, List.length_singleton,
      Nat.mod_add_mod]
  recent := by
    intro index found hlap hfound
    rw [List.length_append, List.length_singleton] at hlap
    rw [push_slots, Vector.getElem?_set, h.next_eq]
    rcases Nat.lt_trichotomy index written.length with hearlier | hlast | hbeyond
    · rw [if_neg (mod_ne_of_within_lap hearlier hlap)]
      rw [List.getElem?_append_left hearlier] at hfound
      exact h.recent index found (Nat.le_of_succ_le hlap) hfound
    · subst hlast
      rw [if_pos rfl]
      simpa using hfound
    · rw [List.getElem?_eq_none (by simp; omega)] at hfound
      cases hfound

/-- The run lemma. -/
theorem remembers_run {ring : RingBuffer α capacity} (hnext : ring.next.val = 0)
    (written : List α) : Remembers written (run RingBuffer.push ring written) :=
  run_history_invariant ring (fun past current => Remembers past current)
    (remembers_nil hnext) (fun _ value h => h.push value) written

end LightCtrl.RingBuffers
