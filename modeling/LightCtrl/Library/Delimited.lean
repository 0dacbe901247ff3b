import Mathlib.Tactic

/-!
Texts of labelled fields. Each field is a label and a value, written one behind
the other. When no value contains a character that a label starts with, the
text tells every value.
-/

namespace LightCtrl.Delimited

variable {α : Type*}

/-- Labels and values, one behind the other. -/
def render : List (List α × List α) → List α
  | [] => []
  | (label, value) :: rest => label ++ (value ++ render rest)

theorem length_render (fields : List (List α × List α)) :
    (render fields).length = ((fields.map Prod.fst).map List.length).sum +
      ((fields.map Prod.snd).map List.length).sum := by
  induction fields with
  | nil => rfl
  | cons field rest ih =>
      simp only [render, List.length_append, ih, List.map_cons, List.sum_cons]
      omega

/-- A character of the text is one of a label or of a value. -/
theorem mem_render {fields : List (List α × List α)} {ch : α} (hch : ch ∈ render fields) :
    (∃ label ∈ fields.map Prod.fst, ch ∈ label) ∨ ∃ field ∈ fields, ch ∈ field.2 := by
  induction fields with
  | nil => exact absurd hch List.not_mem_nil
  | cons field rest ih =>
      rcases List.mem_append.mp hch with hlabel | hbehind
      · exact Or.inl ⟨field.1, List.mem_cons_self, hlabel⟩
      rcases List.mem_append.mp hbehind with hvalue | hrest
      · exact Or.inr ⟨field, List.mem_cons_self, hvalue⟩
      · rcases ih hrest with ⟨label, hlabel, hinside⟩ | ⟨other, hother, hinside⟩
        · exact Or.inl ⟨label, List.mem_cons_of_mem _ hlabel, hinside⟩
        · exact Or.inr ⟨other, List.mem_cons_of_mem _ hother, hinside⟩

/-- A text that is empty or starts outside of the characters of values. -/
def Stops (inside : α → Prop) (text : List α) : Prop :=
  ∀ ch, text.head? = some ch → ¬ inside ch

variable {inside : α → Prop}

/-- A value ends where the text stops. -/
theorem value_unique {value other rest more : List α}
    (hvalue : ∀ ch ∈ value, inside ch) (hother : ∀ ch ∈ other, inside ch)
    (hrest : Stops inside rest) (hmore : Stops inside more)
    (htext : value ++ rest = other ++ more) : value = other ∧ rest = more := by
  induction value generalizing other with
  | nil =>
      cases other with
      | nil => exact ⟨rfl, htext⟩
      | cons ch other =>
          have hhead : rest.head? = some ch := by
            rw [List.nil_append] at htext
            rw [htext, List.cons_append, List.head?_cons]
          exact absurd (hother ch List.mem_cons_self) (hrest ch hhead)
  | cons ch value ih =>
      cases other with
      | nil =>
          have hhead : more.head? = some ch := by
            rw [List.nil_append] at htext
            rw [← htext, List.cons_append, List.head?_cons]
          exact absurd (hvalue ch List.mem_cons_self) (hmore ch hhead)
      | cons otherCh other =>
          obtain ⟨rfl, hbehind⟩ := List.cons.inj htext
          obtain ⟨rfl, hsame⟩ := ih (fun c hc => hvalue c (List.mem_cons_of_mem _ hc))
            (fun c hc => hother c (List.mem_cons_of_mem _ hc)) hbehind
          exact ⟨rfl, hsame⟩

/-- Labels that are not empty and start outside of the characters of values. -/
def Separates (inside : α → Prop) (labels : List (List α)) : Prop :=
  ∀ label ∈ labels, label ≠ [] ∧ Stops inside label

theorem stops_render {fields : List (List α × List α)} {tail : List α}
    (hlabels : Separates inside (fields.map Prod.fst)) (htail : Stops inside tail) :
    Stops inside (render fields ++ tail) := by
  cases fields with
  | nil => exact htail
  | cons field rest =>
      obtain ⟨hnonempty, hstops⟩ := hlabels field.1 (by simp)
      intro ch hhead
      apply hstops ch
      rw [render, List.append_assoc, List.head?_append_of_ne_nil _ hnonempty] at hhead
      exact hhead

/-- Two texts with the same labels that agree, whatever follows them, have the
same values. -/
theorem render_unique {first second : List (List α × List α)} {tail more : List α}
    (hlabels : first.map Prod.fst = second.map Prod.fst)
    (hseparates : Separates inside (first.map Prod.fst).tail)
    (hfirst : ∀ field ∈ first, ∀ ch ∈ field.2, inside ch)
    (hsecond : ∀ field ∈ second, ∀ ch ∈ field.2, inside ch)
    (htail : Stops inside tail) (hmore : Stops inside more)
    (htext : render first ++ tail = render second ++ more) :
    first = second ∧ tail = more := by
  induction first generalizing second with
  | nil =>
      obtain rfl := List.map_eq_nil_iff.mp hlabels.symm
      exact ⟨rfl, htext⟩
  | cons field rest ih =>
      cases second with
      | nil => cases hlabels
      | cons other others =>
          obtain ⟨hlabel, hothers⟩ := List.cons.inj hlabels
          obtain ⟨label, value⟩ := field
          obtain ⟨otherLabel, otherValue⟩ := other
          obtain rfl : label = otherLabel := hlabel
          rw [List.map_cons, List.tail_cons] at hseparates
          simp only [render, List.append_assoc, List.append_cancel_left_eq] at htext
          obtain ⟨rfl, hbehind⟩ := value_unique
            (fun ch hch => hfirst _ List.mem_cons_self ch hch)
            (fun ch hch => hsecond _ List.mem_cons_self ch hch)
            (stops_render hseparates htail) (stops_render (hothers ▸ hseparates) hmore) htext
          have hrest : Separates inside (rest.map Prod.fst).tail :=
            fun label hlabel => hseparates label (List.mem_of_mem_tail hlabel)
          obtain ⟨rfl, hsame⟩ := ih hothers hrest
            (fun f hf => hfirst f (List.mem_cons_of_mem _ hf))
            (fun f hf => hsecond f (List.mem_cons_of_mem _ hf)) hbehind
          exact ⟨rfl, hsame⟩

end LightCtrl.Delimited
