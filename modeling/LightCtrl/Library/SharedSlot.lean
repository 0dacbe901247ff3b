import LightCtrl.Library.Runs

/-!
One overwritable slot shared by a sender and any number of receivers. The
sender stores a message and sets sticky flags; a receiver with its flag set
wakes, which clears the flag, and reads the slot some time later. There is no
acknowledgement, so what a receiver reads is whatever was stored last.

Stored messages are numbered from one. Between two stores the wake-ups a
receiver is still owed and the readings it has made add up to a constant.
-/

namespace LightCtrl.SharedSlot

open Runs

variable {μ δ : Type*}

/-- `sent` counts the stored messages, so it is the number of the message the
slot holds. `woken` marks receivers between their wake-up and their read. -/
structure Slot (μ δ : Type*) where
  content : μ
  sent : Nat
  pending : δ → Bool
  woken : δ → Bool

inductive Event (μ δ : Type*) where
  | send (message : μ) (notified : δ → Bool)
  | wake (receiver : δ)
  | read (receiver : δ)

def Event.isSend : Event μ δ → Bool
  | .send _ _ => true
  | .wake _ => false
  | .read _ => false

structure Reading (μ δ : Type*) where
  receiver : δ
  number : Nat
  content : μ
  deriving DecidableEq

/-- The slot no message was stored in yet. -/
def Slot.unsent (content : μ) : Slot μ δ :=
  ⟨content, 0, fun _ => false, fun _ => false⟩

def readings (slot : Slot μ δ) : Event μ δ → List (Reading μ δ)
  | .send _ _ => []
  | .wake _ => []
  | .read receiver =>
      if slot.woken receiver then [⟨receiver, slot.sent, slot.content⟩] else []

/-- The wake-ups and reads a receiver is still owed. -/
def Slot.owed (slot : Slot μ δ) (receiver : δ) : Nat :=
  (slot.pending receiver).toNat + (slot.woken receiver).toNat

theorem reading_at {slot : Slot μ δ} {event : Event μ δ}
    {reading : Reading μ δ} (h : reading ∈ readings slot event) :
    reading.number = slot.sent ∧ reading.content = slot.content := by
  cases event with
  | send message notified => cases h
  | wake receiver => cases h
  | read receiver =>
      rw [readings] at h
      split at h
      · rw [List.mem_singleton.mp h]
        exact ⟨rfl, rfl⟩
      · cases h

variable [DecidableEq δ]

/-- A receiver that is not owed a wake-up, or has not finished the last one,
does not wake; one that is not awake does not read. -/
def step (slot : Slot μ δ) : Event μ δ → Slot μ δ
  | .send message notified =>
      { slot with
        content := message
        sent := slot.sent + 1
        pending := fun receiver => slot.pending receiver || notified receiver }
  | .wake receiver =>
      if slot.pending receiver && !slot.woken receiver then
        { slot with
          pending := Function.update slot.pending receiver false
          woken := Function.update slot.woken receiver true }
      else slot
  | .read receiver =>
      { slot with woken := Function.update slot.woken receiver false }

theorem sent_step_le (slot : Slot μ δ) (event : Event μ δ) :
    slot.sent ≤ (step slot event).sent := by
  cases event with
  | send message notified => exact Nat.le_succ slot.sent
  | wake receiver =>
      simp only [step]
      split
      · exact Nat.le_refl slot.sent
      · exact Nat.le_refl slot.sent
  | read receiver => exact Nat.le_refl slot.sent

theorem sent_run_le (slot : Slot μ δ) (events : List (Event μ δ)) :
    slot.sent ≤ (run step slot events).sent :=
  run_invariant (fun later => slot.sent ≤ later.sent)
    (fun later event h => h.trans (sent_step_le later event)) slot
    (Nat.le_refl _) events

/-- A reading carries the number of a message stored by then. -/
theorem number_of_reading (slot : Slot μ δ) (events : List (Event μ δ))
    {reading : Reading μ δ} (h : reading ∈ outputs step readings slot events) :
    slot.sent ≤ reading.number ∧
      reading.number ≤ (run step slot events).sent := by
  induction events generalizing slot with
  | nil => cases h
  | cons event rest ih =>
      rw [outputs, List.mem_append] at h
      rcases h with hnow | hlater
      · rw [(reading_at hnow).1]
        exact ⟨Nat.le_refl _, sent_run_le slot (event :: rest)⟩
      · obtain ⟨hlow, hhigh⟩ := ih _ hlater
        exact ⟨(sent_step_le slot event).trans hlow, hhigh⟩

/-- Without a store the slot keeps its message. -/
theorem step_keeps_message (slot : Slot μ δ) {event : Event μ δ}
    (hevent : event.isSend = false) :
    (step slot event).sent = slot.sent ∧
      (step slot event).content = slot.content := by
  cases event with
  | send message notified => cases hevent
  | wake receiver =>
      simp only [step]
      split
      · exact ⟨rfl, rfl⟩
      · exact ⟨rfl, rfl⟩
  | read receiver => exact ⟨rfl, rfl⟩

/-- Without a store every reading is of the message the slot holds. -/
theorem reading_of_window {slot : Slot μ δ} {window : List (Event μ δ)}
    (hwindow : ∀ event ∈ window, event.isSend = false)
    {reading : Reading μ δ}
    (h : reading ∈ outputs step readings slot window) :
    reading.number = slot.sent ∧ reading.content = slot.content := by
  induction window generalizing slot with
  | nil => cases h
  | cons event rest ih =>
      obtain ⟨hevent, hrest⟩ := List.forall_mem_cons.mp hwindow
      rw [outputs, List.mem_append] at h
      rcases h with hnow | hlater
      · exact reading_at hnow
      · obtain ⟨hsent, hcontent⟩ := step_keeps_message slot hevent
        rw [← hsent, ← hcontent]
        exact ih hrest hlater

/-- One step other than a store: a wake-up turns the flag into a debt of one
read, and a read pays it. -/
theorem readings_add_owed_step (slot : Slot μ δ) {event : Event μ δ}
    (hevent : event.isSend = false) (receiver : δ) :
    (readings slot event).countP (·.receiver = receiver) +
      (step slot event).owed receiver = slot.owed receiver := by
  cases event with
  | send message notified => cases hevent
  | wake other =>
      simp only [readings, step, List.countP_nil, Nat.zero_add]
      split
      · rename_i hwakes
        obtain ⟨hpending, hasleep⟩ := Bool.and_eq_true_iff.mp hwakes
        by_cases hsame : receiver = other
        · subst hsame
          simp_all [Slot.owed]
        · simp [Slot.owed, Function.update_of_ne hsame]
      · rfl
  | read other =>
      by_cases hsame : receiver = other
      · subst hsame
        cases hwoken : slot.woken receiver with
        | false => simp [readings, step, Slot.owed, hwoken]
        | true =>
            simp [readings, step, Slot.owed, hwoken]
            omega
      · have hother : (readings slot (Event.read other : Event μ δ)).countP
            (·.receiver = receiver) = 0 := by
          rw [List.countP_eq_zero]
          intro reading hreading
          rw [readings] at hreading
          split at hreading
          · rw [List.mem_singleton.mp hreading]
            simpa using Ne.symm hsame
          · cases hreading
        rw [hother, Nat.zero_add]
        simp [step, Slot.owed, Function.update_of_ne hsame]

/-- The exchange rule: without a store, each reading is paid for by a wake-up
that was owed. -/
theorem readings_add_owed (slot : Slot μ δ) (window : List (Event μ δ))
    (hwindow : ∀ event ∈ window, event.isSend = false) (receiver : δ) :
    (outputs step readings slot window).countP (·.receiver = receiver) +
        (run step slot window).owed receiver = slot.owed receiver := by
  induction window generalizing slot with
  | nil => simp [outputs]
  | cons event rest ih =>
      obtain ⟨hevent, hrest⟩ := List.forall_mem_cons.mp hwindow
      have hstep := readings_add_owed_step slot hevent receiver
      have hlater := ih (step slot event) hrest
      rw [outputs, run_cons, List.countP_append]
      omega

/-- All readings of one message lie between its store and the next one. -/
theorem readings_of_number (slot : Slot μ δ)
    (before window after : List (Event μ δ)) (message : μ)
    (notified : δ → Bool) (hwindow : ∀ event ∈ window, event.isSend = false)
    (hafter : ∀ event ∈ after.head?, event.isSend = true) :
    let stored := run step slot (before ++ [.send message notified])
    (outputs step readings slot
        (before ++ .send message notified :: window ++ after)).filter
      (·.number = stored.sent) = outputs step readings stored window := by
  intro stored
  have hstored : stored.sent = (run step slot before).sent + 1 := by
    simp only [stored, run_append]
    rfl
  have hearlier : (outputs step readings slot before).filter
      (·.number = stored.sent) = [] := by
    rw [List.filter_eq_nil_iff]
    intro reading hreading
    have hnumber := (number_of_reading slot before hreading).2
    simp
    omega
  have hwithin : (outputs step readings stored window).filter
      (·.number = stored.sent) = outputs step readings stored window := by
    rw [List.filter_eq_self]
    intro reading hreading
    simpa using (reading_of_window hwindow hreading).1
  have hlater : (outputs step readings (run step stored window) after).filter
      (·.number = stored.sent) = [] := by
    cases after with
    | nil => rfl
    | cons event rest =>
        have hsend : event.isSend = true := hafter event rfl
        cases event with
        | wake receiver => cases hsend
        | read receiver => cases hsend
        | send next others =>
            rw [List.filter_eq_nil_iff]
            intro reading hreading
            have hkept := sent_run_le stored window
            have hnumber := (number_of_reading _ rest hreading).1
            simp only [step] at hnumber
            simp
            omega
  have hrun : run step slot (before ++ .send message notified :: window) =
      run step stored window := by
    rw [List.append_cons, run_append]
  have hall : outputs step readings slot
      (before ++ .send message notified :: window ++ after) =
        outputs step readings slot before ++ outputs step readings stored window ++
          outputs step readings (run step stored window) after := by
    rw [outputs_append, hrun, outputs_append]
    simp only [outputs, readings, List.nil_append, stored, run_append, run_cons,
      run_nil]
  rw [hall, List.filter_append, List.filter_append, hearlier, hwithin, hlater,
    List.nil_append, List.append_nil]

end LightCtrl.SharedSlot
