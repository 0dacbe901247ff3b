import LightCtrl.Transport.LineMachine

/-!
Lines that do not fit the buffer. The 32nd character of a line is answered
with an error and dropped, and the parser is idle again although the line has
not ended. So a long line is read in pieces of 32 characters: every piece
behind the first is taken for the beginning of something new, and the last
piece, if it is shorter, for a line of its own.
-/

namespace LightCtrl

open Runs

/-- Feeding the codes to the machine makes no message ready. -/
def Quiet (typed : CText) (codes : List Int) : Prop :=
  ∀ output ∈ outputs lineNext lineEmit typed codes, output.1 ≠ .messageReady

/-- Codes that start with no immediate command and no lamp command. -/
def StartsQuietly (codes : List Int) : Prop :=
  ∀ ch ∈ codes.head?, immediateMessage ch = none ∧ lightCommandDecodeChar ch = none

/-- A piece of a long line is refused: it starts with no command, and if it is
the last one the line parser does not accept it. -/
def PieceRefused (piece : List Int) : Prop :=
  StartsQuietly piece ∧
    (piece.length < 32 →
      ∀ request, lightVehicleStateParseLine (piece.map UInt8.ofInt ++ [0]) ≠
        some (some request))

section Machine

theorem quiet_append (typed : CText) (first second : List Int) :
    Quiet typed (first ++ second) ↔
      Quiet typed first ∧ Quiet (run lineNext typed first) second := by
  simp only [Quiet, outputs_append, List.forall_mem_append]

theorem quiet_cons (typed : CText) (ch : Int) (rest : List Int) :
    Quiet typed (ch :: rest) ↔
      (lineStep typed ch).2.1 ≠ .messageReady ∧ Quiet (lineNext typed ch) rest := by
  simp only [Quiet, outputs, lineEmit, List.singleton_append, List.forall_mem_cons]

theorem startMessage_eq_none_iff (ch : Int) :
    startMessage ch = none ↔
      immediateMessage ch = none ∧ lightCommandDecodeChar ch = none := by
  simp [startMessage, Option.or_eq_none_iff]

/-- Any other character of a line extends it. -/
theorem lineStep_extends {typed : CText} {ch : Int} (hreturn : ch ≠ charCarriageReturn)
    (hstart : typed = [] → startMessage ch = none) :
    lineStep typed ch = extendLine typed ch := by
  unfold lineStep
  rw [if_neg hreturn]
  split_ifs with hempty
  · rw [hstart hempty]
  · rfl

/-- As long as they fit, the characters of a line are collected quietly. -/
theorem collects {typed : CText} {codes : List Int}
    (hreturn : charCarriageReturn ∉ codes) (hstart : typed = [] → StartsQuietly codes)
    (hfits : typed.length + codes.length ≤ 31) :
    run lineNext typed codes = typed ++ codes.map UInt8.ofInt ∧
      Quiet typed codes := by
  induction codes generalizing typed with
  | nil => exact ⟨by simp, by simp [Quiet, outputs]⟩
  | cons ch rest ih =>
      obtain ⟨hch, hrest⟩ := not_or.mp (List.mem_cons.not.mp hreturn)
      rw [List.length_cons] at hfits
      have hnot : typed.length ≠ 31 := by omega
      have hstep : lineStep typed ch =
          (typed ++ [UInt8.ofInt ch], .needMore, none) := by
        rw [lineStep_extends (Ne.symm hch), extendLine, if_neg hnot]
        intro hempty
        exact (startMessage_eq_none_iff ch).mpr (hstart hempty ch rfl)
      have hlonger : (typed ++ [UInt8.ofInt ch]).length + rest.length ≤ 31 := by
        rw [List.length_append, List.length_singleton]
        omega
      have hinside : typed ++ [UInt8.ofInt ch] = [] → StartsQuietly rest :=
        fun hempty => absurd hempty (by simp)
      obtain ⟨hrun, hquiet⟩ := ih hrest hinside hlonger
      constructor
      · rw [run_cons, lineNext, hstep, hrun, List.map_cons]
        simp
      · rw [quiet_cons, lineNext, hstep]
        exact ⟨by simp, hquiet⟩

/-- A full piece is dropped with its last character. -/
theorem full_piece_dropped {piece : List Int} (hlength : piece.length = 32)
    (hreturn : charCarriageReturn ∉ piece) (hstart : StartsQuietly piece) :
    run lineNext [] piece = [] ∧ Quiet [] piece := by
  obtain ⟨collected, last, rfl⟩ : ∃ collected last, piece = collected ++ [last] :=
    (List.eq_nil_or_concat' piece).resolve_left (by rintro rfl; cases hlength)
  rw [List.length_append, List.length_singleton] at hlength
  rw [List.mem_append, List.mem_singleton, not_or] at hreturn
  have hhead : StartsQuietly collected := by
    cases collected with
    | nil => cases hlength
    | cons ch rest => exact hstart
  obtain ⟨hrun, hquiet⟩ := collects hreturn.1 (fun _ => hhead)
    (by rw [List.length_nil]; omega)
  rw [List.nil_append] at hrun
  have hstep : lineStep (collected.map UInt8.ofInt) last = ([], .error, none) := by
    rw [lineStep_extends (Ne.symm hreturn.2), extendLine,
      if_pos (by rw [List.length_map]; omega)]
    intro hempty
    rw [List.map_eq_nil_iff] at hempty
    rw [hempty] at hlength
    cases hlength
  constructor
  · rw [run_concat, hrun, lineNext, hstep]
  · rw [quiet_append, hrun, quiet_cons, hstep]
    exact ⟨hquiet, by simp, by simp [Quiet, outputs]⟩

/-- The last piece is a line of its own. -/
theorem last_piece_quiet_iff {piece : List Int} (hlength : piece.length < 32)
    (hreturn : charCarriageReturn ∉ piece) (hstart : StartsQuietly piece) :
    Quiet [] (piece ++ [charCarriageReturn]) ↔
      ∀ request, lightVehicleStateParseLine (piece.map UInt8.ofInt ++ [0]) ≠
        some (some request) := by
  obtain ⟨hrun, hquiet⟩ := collects hreturn (fun _ => hstart)
    (by rw [List.length_nil]; omega)
  rw [quiet_append, and_iff_right hquiet, hrun, List.nil_append, quiet_cons,
    and_iff_left (by simp [Quiet, outputs]), parseLine_terminated]
  cases piece with
  | nil =>
      have hempty : lineAnswer [] = none := by decide
      refine iff_of_true (by decide) fun request => ?_
      rw [List.map_nil, hempty]
      simp
  | cons ch rest =>
      rw [lineStep, if_pos rfl, if_neg (by simp), commitOutput]
      cases lineAnswer ((ch :: rest).map UInt8.ofInt) with
      | none => simp
      | some request => simp

theorem drop_piece {piece : List Int} (hlength : piece.length = 32)
    (rest : List Int) (k : Nat) :
    (piece ++ rest).drop (32 * (k + 1)) = rest.drop (32 * k) := by
  rw [List.drop_append, List.drop_eq_nil_of_le (by omega), List.nil_append,
    hlength, Nat.mul_succ, Nat.add_sub_cancel]

theorem pieceRefused_nil : PieceRefused [] := by
  refine ⟨by simp [StartsQuietly], fun _ request => ?_⟩
  have hempty : lineAnswer [] = none := by decide
  rw [parseLine_terminated, List.map_nil, hempty]
  simp

/-- A first character that is a command is executed. -/
theorem command_not_quiet {codes : List Int} (hcommand : ¬ StartsQuietly codes)
    (hreturn : charCarriageReturn ∉ codes) : ¬ Quiet [] codes := by
  intro hquiet
  refine hcommand fun ch hch => ?_
  obtain ⟨rest, rfl⟩ := List.head?_eq_some_iff.mp hch
  have hnot : ch ≠ charCarriageReturn := by
    rintro rfl
    exact hreturn List.mem_cons_self
  rw [← startMessage_eq_none_iff]
  by_contra hstart
  obtain ⟨message, hmessage⟩ := Option.ne_none_iff_exists'.mp hstart
  refine ((quiet_cons [] ch rest).mp hquiet).1 ?_
  rw [lineStep, if_neg hnot, if_pos rfl, hmessage]

/-- From the empty text, a line without a carriage return inside makes nothing
ready exactly when each of its pieces is refused. The induction is on the
length, a full piece at a time. -/
theorem pieces_quiet_iff (codes : List Int) (hreturn : charCarriageReturn ∉ codes) :
    Quiet [] (codes ++ [charCarriageReturn]) ↔
      ∀ k, PieceRefused (codes.drop (32 * k)) := by
  induction hcount : codes.length using Nat.strong_induction_on generalizing codes with
  | _ count ih =>
  by_cases hstart : StartsQuietly codes
  swap
  · -- a command at the beginning spoils both sides
    refine iff_of_false ?_ fun hall => hstart (hall 0).1
    rw [quiet_append]
    exact fun hquiet => command_not_quiet hstart hreturn hquiet.1
  by_cases hshort : codes.length < 32
  · rw [last_piece_quiet_iff hshort hreturn hstart]
    constructor
    · intro hrejected k
      cases k with
      | zero => exact ⟨hstart, fun _ => hrejected⟩
      | succ k =>
          rw [List.drop_eq_nil_of_le (by omega)]
          exact pieceRefused_nil
    · exact fun hall => (hall 0).2 hshort
  · -- a full piece is dropped, and the rest is read from the empty text
    obtain ⟨piece, rest, hlength, rfl⟩ : ∃ piece rest,
        piece.length = 32 ∧ codes = piece ++ rest :=
      ⟨codes.take 32, codes.drop 32, by rw [List.length_take]; omega,
        (List.take_append_drop 32 codes).symm⟩
    rw [List.mem_append, not_or] at hreturn
    have hhead : StartsQuietly piece := by
      cases piece with
      | nil => cases hlength
      | cons ch more => exact hstart
    obtain ⟨hrun, hquiet⟩ := full_piece_dropped hlength hreturn.1 hhead
    rw [List.append_assoc, quiet_append, and_iff_right hquiet, hrun,
      ih rest.length (by rw [← hcount, List.length_append]; omega) rest hreturn.2 rfl]
    constructor
    · intro hall k
      cases k with
      | zero => exact ⟨hstart, fun hless => absurd hless hshort⟩
      | succ k =>
          rw [drop_piece hlength]
          exact hall k
    · intro hall k
      rw [← drop_piece hlength]
      exact hall (k + 1)

end Machine

/-- Fed to the parser with a carriage return behind it, the line makes no
message ready. -/
def RejectedWhole (parser : LightTransportParser) (line : List Int) : Prop :=
  ∃ final answers,
    feedChars parser (line ++ [charCarriageReturn]) = some (final, answers) ∧
      ∀ answer ∈ answers, answer.1 ≠ .messageReady

/-- An idle parser reads the line as the machine does from the empty text,
whatever its buffer holds. -/
private theorem rejectedWhole_iff {parser : LightTransportParser}
    (hidle : parser.lineLen = 0) {line : List Int}
    (hreturn : charCarriageReturn ∉ line) :
    RejectedWhole parser line ↔ ∀ k, PieceRefused (line.drop (32 * k)) := by
  rw [← pieces_quiet_iff line hreturn]
  obtain ⟨final, hfed, -⟩ := feedChars_mirrors (buffered_nil hidle)
    (Nat.zero_le 31) (line ++ [charCarriageReturn])
  constructor
  · rintro ⟨_, answers, hanswers, hquiet⟩
    cases hanswers.symm.trans hfed
    exact hquiet
  · exact fun hquiet => ⟨final, _, hfed, hquiet⟩

/-- For every idle parser and every line that does not fit the buffer: nothing
of the line is executed exactly when each piece of 32 characters behind the
first starts with no command and the last piece, if it is shorter, is no
sentence. -/
theorem overlong_line_rejected_iff (parser : LightTransportParser)
    (hidle : parser.lineLen = 0) (line : List Int) (hlong : 31 < line.length)
    (hreturn : charCarriageReturn ∉ line) (hstart : StartsQuietly line) :
    RejectedWhole parser line ↔
      ∀ k, PieceRefused (line.drop (32 * (k + 1))) := by
  rw [rejectedWhole_iff hidle hreturn]
  constructor
  · exact fun hall k => hall (k + 1)
  · intro hall k
    cases k with
    | zero => exact ⟨hstart, fun hshort => absurd hshort (by simp; omega)⟩
    | succ k => exact hall k

theorem overlong_line_of_x :
    RejectedWhole ⟨Vector.replicate _ 0, 0⟩ (List.replicate 40 0x78) ↔
      ∀ k, PieceRefused ((List.replicate 40 0x78).drop (32 * (k + 1))) :=
  overlong_line_rejected_iff ⟨Vector.replicate _ 0, 0⟩ rfl
    (List.replicate 40 0x78) (by decide) (by decide)
    (by rintro ch ⟨⟩; exact ⟨rfl, rfl⟩)

/-- The 33rd character of a long line switches the low beam on. -/
theorem overlong_line_executed :
    ¬ ∀ (parser : LightTransportParser) (line : List Int),
      parser.lineLen = 0 → 31 < line.length → charCarriageReturn ∉ line →
        StartsQuietly line → RejectedWhole parser line := by
  intro hclaim
  have hrejected := hclaim ⟨Vector.replicate _ 0, 0⟩
    (List.replicate 32 0x78 ++ [0x4C]) rfl (by decide) (by decide)
    (by rintro ch ⟨⟩; exact ⟨rfl, rfl⟩)
  have hpieces := (rejectedWhole_iff rfl (by decide)).mp hrejected 1
  have hcommand := (hpieces.1 0x4C rfl).2
  cases hcommand

end LightCtrl
