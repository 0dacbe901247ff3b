import Mathlib.Tactic

/-!
Readers of terminated strings. A reader gets the list of symbols from its
pointer to the end of the object; `none` is a read past that end. It respects
the terminator when its answer on a string is determined before anything
behind the first terminator is looked at.
-/

namespace LightCtrl.NulTerminated

variable {α β γ σ : Type*} {nul : α}

/-- On every string free of the terminator the reader has one answer, the
same for everything that may stand behind the terminator. -/
def ReadsString (nul : α) (reader : List α → Option β) : Prop :=
  ∀ text, nul ∉ text →
    ∃ answer, ∀ tail, reader (text ++ nul :: tail) = some answer

theorem ReadsString.const (answer : β) :
    ReadsString nul (fun _ => some answer) :=
  fun _ _ => ⟨answer, fun _ => rfl⟩

/-- Reading the same string a second time, in a way that depends on the
first answer. -/
theorem ReadsString.bind {reader : List α → Option β}
    {next : β → List α → Option γ} (hreader : ReadsString nul reader)
    (hnext : ∀ answer, ReadsString nul (next answer)) :
    ReadsString nul (fun text => (reader text).bind (next · text)) := by
  intro text htext
  obtain ⟨first, hfirst⟩ := hreader text htext
  obtain ⟨second, hsecond⟩ := hnext first text htext
  refine ⟨second, fun tail => ?_⟩
  simp only [hfirst tail, Option.bind_some, hsecond tail]

/-- Reading a string once to decide how to read it again. -/
theorem ReadsString.cond {test : List α → Option Bool}
    {yes no : List α → Option β} (htest : ReadsString nul test)
    (hyes : ReadsString nul yes) (hno : ReadsString nul no) :
    ReadsString nul (fun text =>
      (test text).bind fun holds => if holds then yes text else no text) := by
  refine htest.bind (fun holds => ?_)
  cases holds with
  | true => exact hyes
  | false => exact hno

/-- The rule for a scanning loop with a loop state: at the terminator it
answers, and at any other symbol it either answers or goes on behind it. -/
theorem ReadsString.of_scan (scan : σ → List α → Option β) (good : σ → Prop)
    (hstop : ∀ state, good state →
      ∃ answer, ∀ tail, scan state (nul :: tail) = some answer)
    (hstep : ∀ state symbol, good state → symbol ≠ nul →
      (∃ answer, ∀ rest, scan state (symbol :: rest) = some answer) ∨
        ∃ next, good next ∧
          ∀ rest, scan state (symbol :: rest) = scan next rest)
    (state : σ) (hgood : good state) : ReadsString nul (scan state) := by
  intro text htext
  induction text generalizing state with
  | nil => exact hstop state hgood
  | cons symbol rest ih =>
      obtain ⟨hsymbol, hrest⟩ := not_or.mp (List.mem_cons.not.mp htext)
      rcases hstep state symbol hgood (Ne.symm hsymbol) with
        ⟨answer, hanswer⟩ | ⟨next, hnext, hscan⟩
      · exact ⟨answer, fun tail => hanswer (rest ++ nul :: tail)⟩
      · obtain ⟨answer, hanswer⟩ := ih next hnext hrest
        refine ⟨answer, fun tail => ?_⟩
        rw [List.cons_append, hscan]
        exact hanswer tail

/-- One answer known for some tail is the answer for every tail. -/
theorem ReadsString.eq_of_eq {reader : List α → Option β}
    (hreader : ReadsString nul reader) {text tail : List α} {answer : β}
    (htext : nul ∉ text) (hanswer : reader (text ++ nul :: tail) = some answer)
    (other : List α) : reader (text ++ nul :: other) = some answer := by
  obtain ⟨fixed, hfixed⟩ := hreader text htext
  rw [hfixed other, ← hfixed tail, hanswer]

/-- A prefix free of the terminator lies within the string. -/
theorem prefix_of_prefix_append {key text tail : List α} (hkey : nul ∉ key)
    (h : key <+: text ++ nul :: tail) : key <+: text := by
  rcases List.prefix_or_prefix_of_prefix h (List.prefix_append text _) with
    hwithin | ⟨excess, rfl⟩
  · exact hwithin
  · rw [List.prefix_append_right_inj] at h
    cases excess with
    | nil => rw [List.append_nil]
    | cons symbol rest =>
        have hsymbol : symbol = nul := (List.cons_prefix_cons.mp h).1
        simp [hsymbol] at hkey

/-- The string in a piece of memory is unique. -/
theorem string_unique {text other tail otherTail : List α} (htext : nul ∉ text)
    (hother : nul ∉ other) (h : text ++ nul :: tail = other ++ nul :: otherTail) :
    text = other := by
  have hwithin : text <+: other :=
    prefix_of_prefix_append htext (h ▸ List.prefix_append text _)
  have hback : other <+: text :=
    prefix_of_prefix_append hother (h ▸ List.prefix_append other _)
  exact hwithin.eq_of_length_le hback.length_le

end LightCtrl.NulTerminated
