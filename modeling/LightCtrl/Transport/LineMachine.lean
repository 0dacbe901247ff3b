import LightCtrl.Transport.LineEntry
import LightCtrl.Library.Runs

/-!
The stream parser without its buffer. What the parser will answer depends on
the characters of the unfinished line alone, so a machine whose state is that
text does the same. Nothing is asked of the bytes behind the text. From init
on the text is always terminated in the buffer as well, and that gives the
bounds of every access.
-/

namespace LightCtrl

open NulTerminated Runs

/-- The status of one call and the message it stores, if it stores one. -/
abbrev FeedOutput := LightTransportFeedStatus × Option LightTransportMessage

/-- What the line parser answers on a terminated text. -/
def lineAnswer (typed : CText) : Option LightVehicleStateRequest :=
  (lightVehicleStateParseLine (typed ++ [0])).getD none

/-- The message a character stands for outside of a line. -/
def startMessage (ch : Int) : Option LightTransportMessage :=
  (immediateMessage ch).or ((lightCommandDecodeChar ch).map makeLightCmdMessage)

/-- The output at the end of a line that is not empty. -/
def commitOutput (typed : CText) : FeedOutput :=
  match lineAnswer typed with
  | some request => (.messageReady, some (makeVehicleStateMessage request))
  | none => (.error, none)

/-- One more character of a line; a line of 31 is given up. -/
def extendLine (typed : CText) (ch : Int) : CText × FeedOutput :=
  if typed.length = 31 then ([], .error, none)
  else (typed ++ [UInt8.ofInt ch], .needMore, none)

/-- One character of the stream. -/
def lineStep (typed : CText) (ch : Int) : CText × FeedOutput :=
  if ch = charCarriageReturn then
    if typed = [] then ([], .ignored, none) else ([], commitOutput typed)
  else if typed = [] then
    match startMessage ch with
    | some message => ([], .messageReady, some message)
    | none => extendLine typed ch
  else extendLine typed ch

/-- The text after one character, and the output of that character. -/
def lineNext (typed : CText) (ch : Int) : CText := (lineStep typed ch).1

def lineEmit (typed : CText) (ch : Int) : List FeedOutput := [(lineStep typed ch).2]

section Text

variable {parser : LightTransportParser} {typed : CText}

theorem Buffered.lineLen_eq_zero_iff (h : Buffered parser typed) :
    parser.lineLen = 0 ↔ typed = [] := by
  rw [← List.length_eq_zero_iff, ← h.1]
  exact UInt8.toNat_inj.symm

/-- There is always room for the terminator. -/
theorem Represents.length_le (h : Represents parser typed) :
    typed.length ≤ 31 := by
  have hlength := h.2.length_le
  rw [List.length_append, List.length_singleton, Vector.length_toList] at hlength
  exact Nat.le_of_succ_le_succ hlength

/-- The character the length points at is the terminator. -/
theorem Represents.terminator (h : Represents parser typed) :
    parser.lineBuf.toList[parser.lineLen.toNat]? = some 0 := by
  obtain ⟨rest, hrest⟩ := h.2
  rw [← hrest, h.1]
  simp

/-- A character ends the line or is added to it. -/
theorem lineStep_text (typed : CText) (ch : Int) :
    (lineStep typed ch).1 = [] ∨
      (lineStep typed ch).1 = typed ++ [UInt8.ofInt ch] ∧ typed.length ≠ 31 := by
  have hextend : (extendLine typed ch).1 = [] ∨
      (extendLine typed ch).1 = typed ++ [UInt8.ofInt ch] ∧ typed.length ≠ 31 := by
    unfold extendLine
    split_ifs with hfull
    · exact Or.inl rfl
    · exact Or.inr ⟨rfl, hfull⟩
  unfold lineStep
  split_ifs
  · exact Or.inl rfl
  · exact Or.inl rfl
  · cases startMessage ch with
    | none => exact hextend
    | some message => exact Or.inl rfl
  · exact hextend

theorem lineStep_length {typed : CText} (hlength : typed.length ≤ 31) (ch : Int) :
    (lineStep typed ch).1.length ≤ 31 := by
  rcases lineStep_text typed ch with hended | ⟨hadded, hroom⟩
  · rw [hended]
    exact Nat.zero_le 31
  · rw [hadded, List.length_append, List.length_singleton]
    omega

end Text

/-- The line parser reads no further than the terminator of the text. -/
theorem parseLine_terminated (typed rest : CText) :
    lightVehicleStateParseLine (typed ++ 0 :: rest) = some (lineAnswer typed) := by
  obtain ⟨text, tail, hsplit, htext⟩ :=
    List.eq_append_cons_of_mem (List.mem_append_right typed List.mem_cons_self)
  obtain ⟨answer, hanswer⟩ := lightVehicleStateParseLine_readsString text htext
  have hlonger : typed ++ 0 :: rest = text ++ 0 :: (tail ++ rest) := by
    rw [List.append_cons, hsplit, List.append_assoc, List.cons_append]
  rw [hlonger, hanswer, lineAnswer, hsplit, hanswer, Option.getD_some]

section Step

variable {parser : LightTransportParser} {typed : CText}

/-- One call answers like the machine and holds its next text, terminated if
the text before was. -/
def Mirrors (parser : LightTransportParser) (typed : CText)
    (result : Option FeedResult) (step : CText × FeedOutput) : Prop :=
  ∃ next, result = some ⟨next, step.2.1, step.2.2⟩ ∧ Buffered next step.1 ∧
    (Represents parser typed → Represents next step.1)

theorem appendChar_mirrors (h : Buffered parser typed)
    (hlength : typed.length ≤ 31) (ch : Int) :
    Mirrors parser typed (appendChar parser ch) (extendLine typed ch) := by
  have hmax : lightCommandLineMax = 32 := rfl
  unfold extendLine
  split_ifs with hfull
  · obtain ⟨next, hreset, hnext⟩ := parserReset_represents parser
    refine ⟨next, ?_, hnext.buffered, fun _ => hnext⟩
    rw [appendChar, if_pos (by rw [h.1]; omega), hreset]
    rfl
  · obtain ⟨next, happend, hnext⟩ := appendChar_represents h (by omega) ch
    exact ⟨next, happend, hnext.buffered, fun _ => hnext⟩

theorem commitLine_mirrors (h : Buffered parser typed)
    (hlength : typed.length ≤ 31) (hinside : typed ≠ []) :
    Mirrors parser typed (commitLine parser) ([], commitOutput typed) := by
  have hlen : parser.lineLen ≠ 0 := fun hzero =>
    hinside (h.lineLen_eq_zero_iff.mp hzero)
  obtain ⟨ended, hended, -, rest, hbuf⟩ := store_terminator h hlength
  obtain ⟨next, hreset, hnext⟩ := parserReset_represents ended
  have hparsed : lightVehicleStateParseLine ended.lineBuf.toList =
      some (lineAnswer typed) := by
    rw [← hbuf, List.append_assoc, List.singleton_append]
    exact parseLine_terminated typed rest
  refine ⟨next, ?_, hnext.buffered, fun _ => hnext⟩
  unfold commitLine commitOutput
  cases hanswer : lineAnswer typed with
  | none => simp [hlen, hended, hparsed, hanswer, hreset]
  | some request => simp [hlen, hended, hparsed, hanswer, hreset]

/-- The step lemma, for every character code. -/
theorem feedChar_mirrors (h : Buffered parser typed)
    (hlength : typed.length ≤ 31) (ch : Int) :
    Mirrors parser typed (lightTransportParserFeedChar parser ch)
      (lineStep typed ch) := by
  unfold lightTransportParserFeedChar lineStep
  have hidle := h.lineLen_eq_zero_iff
  by_cases hreturn : ch = charCarriageReturn
  · rw [if_pos hreturn, if_pos hreturn]
    split_ifs with hempty
    · subst hempty
      exact ⟨parser, if_pos (hidle.mpr rfl), h, id⟩
    · exact commitLine_mirrors h hlength hempty
  · rw [if_neg hreturn, if_neg hreturn]
    simp only [hidle]
    split_ifs with hempty
    · subst hempty
      unfold startMessage
      cases himmediate : immediateMessage ch with
      | some message => exact ⟨parser, rfl, h, id⟩
      | none =>
          cases hdecode : lightCommandDecodeChar ch with
          | some cmd => exact ⟨parser, rfl, h, id⟩
          | none => exact appendChar_mirrors h hlength ch
    · exact appendChar_mirrors h hlength ch

/-- The run lemma: every stream is consumed without an access outside the
buffer, with the outputs of the machine. -/
theorem feedChars_mirrors (h : Buffered parser typed)
    (hlength : typed.length ≤ 31) (codes : List Int) :
    ∃ final, feedChars parser codes =
        some (final, outputs lineNext lineEmit typed codes) ∧
      Buffered final (run lineNext typed codes) ∧
      (Represents parser typed → Represents final (run lineNext typed codes)) := by
  induction codes generalizing parser typed with
  | nil => exact ⟨parser, rfl, h, id⟩
  | cons ch rest ih =>
      obtain ⟨next, hfeed, hnext, hkept⟩ := feedChar_mirrors h hlength ch
      obtain ⟨final, hfed, hfinal, hlast⟩ := ih hnext (lineStep_length hlength ch)
      refine ⟨final, ?_, hfinal, fun hstart => hlast (hkept hstart)⟩
      rw [feedChars, hfeed]
      simp only [Option.bind_eq_bind, Option.bind_some]
      rw [hfed]
      rfl

/-- The same from init, whatever the memory held before. -/
theorem init_mirrors (raw : LightTransportParser) (codes : List Int) :
    ∃ parser, (lightTransportParserInit raw).bind (feedChars · codes) =
        some (parser, outputs lineNext lineEmit [] codes) ∧
      Represents parser (run lineNext [] codes) := by
  obtain ⟨start, hinit, hstart⟩ := parserReset_represents raw
  obtain ⟨parser, hfed, -, hkept⟩ :=
    feedChars_mirrors hstart.buffered (Nat.zero_le 31) codes
  refine ⟨parser, ?_, hkept hstart⟩
  rw [lightTransportParserInit, hinit]
  exact hfed

end Step

section Status

variable (typed : CText) (ch : Int)

/-- How a text and an output go together: a line is open exactly when more is
asked for, and a message comes with its status. -/
def OutputFits (step : CText × FeedOutput) : Prop :=
  (step.2.1 = .needMore ↔ step.1 ≠ []) ∧
    (step.2.2.isSome = true ↔ step.2.1 = .messageReady)

theorem extendLine_fits : OutputFits (extendLine typed ch) := by
  unfold extendLine OutputFits
  split_ifs <;> simp

theorem commitOutput_fits : OutputFits ([], commitOutput typed) := by
  unfold commitOutput OutputFits
  cases lineAnswer typed with
  | none => simp
  | some request => simp

theorem lineStep_fits : OutputFits (lineStep typed ch) := by
  unfold lineStep
  split_ifs
  · simp [OutputFits]
  · exact commitOutput_fits typed
  · cases startMessage ch with
    | none => exact extendLine_fits typed ch
    | some message => simp [OutputFits]
  · exact extendLine_fits typed ch

end Status

/-- Every stream from init is consumed, so no store or read is ever outside
the 32 bytes of the buffer, and after each call the length is at most 31 and
points at the terminator, it is positive exactly when more is asked for, and a
message is stored exactly when it is ready. -/
theorem line_buffer_never_overrun (raw : LightTransportParser)
    (codes : List Int) (ch : Int) :
    ∃ parser earlier result,
      (lightTransportParserInit raw).bind (feedChars · codes) =
        some (parser, earlier) ∧
      lightTransportParserFeedChar parser ch = some result ∧
      result.parser.lineLen ≤ 31 ∧
      result.parser.lineBuf.toList[result.parser.lineLen.toNat]? = some 0 ∧
      (result.status = .needMore ↔ 0 < result.parser.lineLen) ∧
      (result.written.isSome = true ↔ result.status = .messageReady) := by
  obtain ⟨parser, hfed, hparser⟩ := init_mirrors raw codes
  obtain ⟨next, hfeed, hbuffered, hkept⟩ :=
    feedChar_mirrors hparser.buffered hparser.length_le ch
  have hnext := hkept hparser
  obtain ⟨hopen, hwritten⟩ := lineStep_fits (run lineNext [] codes) ch
  refine ⟨parser, _, _, hfed, hfeed, ?_, hnext.terminator, ?_, hwritten⟩
  · rw [UInt8.le_iff_toNat_le, hnext.1]
    exact hnext.length_le
  · rw [hopen, ne_eq, ← hbuffered.lineLen_eq_zero_iff, UInt8.lt_iff_toNat_lt,
      ← UInt8.toNat_inj]
    exact Nat.pos_iff_ne_zero.symm

end LightCtrl
