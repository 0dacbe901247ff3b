import LightCtrl.Core.Transport
import LightCtrl.Transport.LineReading

/-!
Entering a vehicle-state line through the stream parser. The buffer holds the
typed characters as long as the parser is inside a line, whatever older text
lies behind them. Only the first character of a line can be taken for
something else, and it is for the two keys that begin with a lamp command.
-/

namespace LightCtrl

open NulTerminated

/-- The character codes the UART delivers for a text. -/
def typedLine (text : CText) : List Int := text.map (fun ch => (ch.toNat : Int))

/-- The parser is inside a line whose characters so far are `typed`. -/
def Buffered (parser : LightTransportParser) (typed : CText) : Prop :=
  parser.lineLen.toNat = typed.length ∧ typed <+: parser.lineBuf.toList

theorem buffered_nil {parser : LightTransportParser}
    (hidle : parser.lineLen = 0) : Buffered parser [] :=
  ⟨by simp [hidle], List.nil_prefix⟩

/-- A store at the end of the typed characters puts the character there. -/
theorem store_buffered (parser : LightTransportParser) {typed : CText}
    (h : typed <+: parser.lineBuf.toList)
    (hlength : typed.length < lightCommandLineMax) (ch : UInt8) :
    ∃ next, parser.store typed.length ch = some next ∧
      next.lineLen = parser.lineLen ∧
      typed ++ [ch] <+: next.lineBuf.toList := by
  refine ⟨_, dif_pos hlength, rfl, ?_⟩
  obtain ⟨rest, hrest⟩ := h
  have hrestLength : typed.length + rest.length = lightCommandLineMax := by
    rw [← List.length_append, hrest, Vector.length_toList]
  cases rest with
  | nil =>
      simp at hrestLength
      omega
  | cons old rest =>
      refine ⟨rest, ?_⟩
      simp [Vector.toList_set, ← hrest]

/-- The buffer starts with the text and its terminator. -/
def Represents (parser : LightTransportParser) (typed : CText) : Prop :=
  parser.lineLen.toNat = typed.length ∧ typed ++ [0] <+: parser.lineBuf.toList

theorem Represents.buffered {parser : LightTransportParser} {typed : CText}
    (h : Represents parser typed) : Buffered parser typed :=
  ⟨h.1, (List.prefix_append _ _).trans h.2⟩

/-- Storing the terminator where the length points to. -/
theorem store_terminator {parser : LightTransportParser} {typed : CText}
    (h : Buffered parser typed) (hlength : typed.length ≤ 31) :
    ∃ next, parser.store parser.lineLen.toNat 0 = some next ∧
      Represents next typed := by
  have hmax : lightCommandLineMax = 32 := rfl
  obtain ⟨next, hnext, hkept, hprefix⟩ :=
    store_buffered parser h.2 (by omega) 0
  refine ⟨next, by rw [h.1, hnext], ?_, hprefix⟩
  rw [hkept, h.1]

theorem parserReset_represents (parser : LightTransportParser) :
    ∃ next, parserReset parser = some next ∧ Represents next [] :=
  store_terminator (buffered_nil rfl) (Nat.zero_le 31)

theorem parserReset_spec (parser : LightTransportParser) :
    ∃ next, parserReset parser = some next ∧ next.lineLen = 0 := by
  obtain ⟨next, hreset, hlength, -⟩ := parserReset_represents parser
  exact ⟨next, hreset, UInt8.toNat_inj.mp hlength⟩

theorem appendChar_represents {parser : LightTransportParser} {typed : CText}
    (h : Buffered parser typed) (hlength : typed.length ≤ 30) (ch : Int) :
    ∃ next, appendChar parser ch = some ⟨next, .needMore, none⟩ ∧
      Represents next (typed ++ [UInt8.ofInt ch]) := by
  obtain ⟨hlen, hprefix⟩ := h
  have hmax : lightCommandLineMax = 32 := rfl
  obtain ⟨stored, hstored, hkept, hstoredPrefix⟩ :=
    store_buffered parser hprefix (by omega) (UInt8.ofInt ch)
  have hnextLen : (stored.lineLen + 1).toNat =
      (typed ++ [UInt8.ofInt ch]).length := by
    rw [hkept, UInt8.toNat_add, hlen, List.length_append]
    simp
    omega
  have hstoredBuffered : Buffered { stored with lineLen := stored.lineLen + 1 }
      (typed ++ [UInt8.ofInt ch]) := ⟨hnextLen, hstoredPrefix⟩
  obtain ⟨next, hnext, hrepresents⟩ :=
    store_terminator hstoredBuffered (by simp; omega)
  refine ⟨next, ?_, hrepresents⟩
  rw [appendChar, if_neg (by omega), hlen, hstored]
  simp only [Option.bind_eq_bind, Option.bind_some, hnext]
  rfl

theorem appendChar_buffered {parser : LightTransportParser} {typed : CText}
    (h : Buffered parser typed) (hlength : typed.length ≤ 30) (ch : Int) :
    ∃ next, appendChar parser ch = some ⟨next, .needMore, none⟩ ∧
      Buffered next (typed ++ [UInt8.ofInt ch]) := by
  obtain ⟨next, hnext, hrepresents⟩ := appendChar_represents h hlength ch
  exact ⟨next, hnext, hrepresents.buffered⟩

private theorem ofInt_toNat (ch : UInt8) : UInt8.ofInt (ch.toNat : Int) = ch := by
  apply UInt8.toNat_inj.mp
  have hlt := ch.toNat_lt
  simp [UInt8.ofInt]
  omega

private theorem feedChars_cons {parser : LightTransportParser} {ch : Int}
    {result : FeedResult}
    (hfeed : lightTransportParserFeedChar parser ch = some result)
    (rest : List Int) :
    feedChars parser (ch :: rest) = (feedChars result.parser rest).map
      (fun fed => (fed.1, (result.status, result.written) :: fed.2)) := by
  rw [feedChars, hfeed, Option.bind_eq_bind, Option.bind_some]
  cases feedChars result.parser rest with
  | none => rfl
  | some _ => rfl

theorem feedChars_append (parser : LightTransportParser)
    (first second : List Int) :
    feedChars parser (first ++ second) = (do
      let (middle, early) ← feedChars parser first
      let (final, late) ← feedChars middle second
      return (final, early ++ late)) := by
  induction first generalizing parser with
  | nil => simp [feedChars]
  | cons ch rest ih => simp [feedChars, ih, Option.bind_assoc]

/-- Inside a line every character other than a carriage return is appended. -/
theorem feedChars_buffered {parser : LightTransportParser} {typed : CText}
    (h : Buffered parser typed) (hstarted : typed ≠ []) (text : CText)
    (hlength : typed.length + text.length ≤ 31) (hcr : 13 ∉ text) :
    ∃ next, feedChars parser (typedLine text) =
        some (next, List.replicate text.length (.needMore, none)) ∧
      Buffered next (typed ++ text) := by
  induction text generalizing parser typed with
  | nil => exact ⟨parser, rfl, by rwa [List.append_nil]⟩
  | cons ch rest ih =>
      obtain ⟨hch, hrest⟩ := not_or.mp (List.mem_cons.not.mp hcr)
      rw [List.length_cons] at hlength
      have hnotReturn : ((ch.toNat : Int)) ≠ charCarriageReturn := by
        intro hreturn
        have hcode : ch.toNat = 13 := Int.ofNat_inj.mp hreturn
        exact hch (UInt8.toNat_inj.mp hcode).symm
      have hinside : parser.lineLen ≠ 0 := by
        intro hzero
        have hempty := h.1
        rw [hzero] at hempty
        exact hstarted (List.length_eq_zero_iff.mp hempty.symm)
      obtain ⟨stepped, hstep, hbuffered⟩ :=
        appendChar_buffered h (by omega) (ch.toNat : Int)
      have hfeed : lightTransportParserFeedChar parser (ch.toNat : Int) =
          some ⟨stepped, .needMore, none⟩ := by
        rw [lightTransportParserFeedChar, if_neg hnotReturn, if_neg hinside,
          hstep]
      obtain ⟨next, hfed, hnext⟩ := ih hbuffered (by simp) (by simp; omega) hrest
      refine ⟨next, ?_, ?_⟩
      · rw [typedLine, List.map_cons, feedChars_cons hfeed, ← typedLine, hfed]
        rfl
      · rw [List.append_cons, ← ofInt_toNat ch]
        exact hnext

/-- At the carriage return the line parser sees the typed characters and
nothing of what lay behind them. -/
theorem commitLine_buffered {parser : LightTransportParser} {typed : CText}
    (h : Buffered parser typed) (hstarted : typed ≠ [])
    (hlength : typed.length ≤ 31) (hnul : 0 ∉ typed)
    {request : LightVehicleStateRequest}
    (haccepted :
      lightVehicleStateParseLine (typed ++ [0]) = some (some request)) :
    ∃ next, commitLine parser =
        some ⟨next, .messageReady, some (makeVehicleStateMessage request)⟩ ∧
      next.lineLen = 0 := by
  obtain ⟨hlen, hprefix⟩ := h
  have hmax : lightCommandLineMax = 32 := rfl
  have hinside : parser.lineLen ≠ 0 := by
    intro hzero
    rw [hzero] at hlen
    exact hstarted (List.length_eq_zero_iff.mp hlen.symm)
  obtain ⟨ended, hended, -, rest, hrest⟩ :=
    store_buffered parser hprefix (by omega) 0
  have hparsed : lightVehicleStateParseLine ended.lineBuf.toList =
      some (some request) := by
    rw [← hrest, List.append_assoc, List.singleton_append]
    exact lightVehicleStateParseLine_readsString.eq_of_eq hnul haccepted rest
  obtain ⟨next, hnext, hidle⟩ := parserReset_spec ended
  refine ⟨next, ?_, hidle⟩
  rw [commitLine, if_neg hinside, hlen, hended]
  simp only [Option.bind_eq_bind, Option.bind_some, hparsed, hnext]
  rfl

/-- The line was entered: every character asked for more, the carriage return
delivered the request, and the parser is idle again. -/
def LineEntered (parser : LightTransportParser) (line : CText)
    (request : LightVehicleStateRequest) : Prop :=
  ∃ final message,
    feedChars parser (typedLine line ++ [charCarriageReturn]) =
      some (final, List.replicate line.length (.needMore, none) ++
        [(.messageReady, some message)]) ∧
    message.type = LightTransportMsg.vehicleStateUpdate ∧
    message.payload.vehicleStateUpdate = request ∧
    final.lineLen = 0

/-- The line does not start like a brake or hazard line, that is, with one of
the lamp commands `b` and `h`. -/
def StartsNoCommand (line : CText) : Prop :=
  line.head? ≠ some 0x62 ∧ line.head? ≠ some 0x68

instance (line : CText) : Decidable (StartsNoCommand line) :=
  inferInstanceAs (Decidable (_ ∧ _))

/-- The first character of an accepted line is the first one of a key. -/
theorem accepted_line_first {first : UInt8} {rest : CText}
    {request : LightVehicleStateRequest}
    (haccepted :
      lightVehicleStateParseLine (first :: rest) = some (some request)) :
    first ∈ vehicleKeys.filterMap List.head? := by
  obtain ⟨key, hkey, hprefix⟩ := accepted_line_key haccepted
  cases key with
  | nil => exact absurd hkey (by decide)
  | cons ch _ =>
      obtain ⟨rfl, -⟩ := List.cons_prefix_cons.mp hprefix
      exact List.mem_filterMap.mpr ⟨_, hkey, rfl⟩

private theorem key_starts : ∀ first ∈ vehicleKeys.filterMap List.head?,
    first ≠ 0x62 → first ≠ 0x68 →
      (first.toNat : Int) ≠ charCarriageReturn ∧
        immediateMessage (first.toNat : Int) = none ∧
        lightCommandDecodeChar (first.toNat : Int) = none := by
  decide +kernel

/-- The first character of an accepted line that is no lamp command starts
the buffer. -/
theorem feedChar_first {parser : LightTransportParser}
    (hidle : parser.lineLen = 0) {first : UInt8} {rest : CText}
    {request : LightVehicleStateRequest}
    (haccepted :
      lightVehicleStateParseLine (first :: rest) = some (some request))
    (hb : first ≠ 0x62) (hh : first ≠ 0x68) :
    ∃ next, lightTransportParserFeedChar parser (first.toNat : Int) =
        some ⟨next, .needMore, none⟩ ∧ Buffered next [first] := by
  obtain ⟨hnotReturn, himmediate, hdecode⟩ :=
    key_starts first (accepted_line_first haccepted) hb hh
  obtain ⟨next, hnext, hbuffered⟩ :=
    appendChar_buffered (buffered_nil hidle) (by simp) (first.toNat : Int)
  refine ⟨next, ?_, ?_⟩
  · rw [lightTransportParserFeedChar, if_neg hnotReturn, if_pos hidle,
      himmediate, hdecode]
    exact hnext
  · rwa [ofInt_toNat, List.nil_append] at hbuffered

private theorem feedChar_command {parser : LightTransportParser}
    (hidle : parser.lineLen = 0) {first : UInt8}
    (hfirst : first = 0x62 ∨ first = 0x68) :
    ∃ message, lightTransportParserFeedChar parser (first.toNat : Int) =
      some ⟨parser, .messageReady, some message⟩ := by
  rcases hfirst with rfl | rfl
  · exact ⟨makeLightCmdMessage LightCmd.brakeOff, if_pos hidle⟩
  · exact ⟨makeLightCmdMessage LightCmd.highBeamOff, if_pos hidle⟩

/-- An accepted line that fits the buffer is entered exactly when it is not a
`brake=` or `hazard=` line. The first character of those is executed as a
lamp command. -/
theorem line_entered_iff (parser : LightTransportParser)
    (hidle : parser.lineLen = 0) (line : CText) (hstarted : 1 ≤ line.length)
    (hfits : line.length ≤ 31) (hnul : 0 ∉ line) (hcr : 13 ∉ line)
    (request : LightVehicleStateRequest)
    (haccepted :
      lightVehicleStateParseLine (line ++ [0]) = some (some request)) :
    LineEntered parser line request ↔ StartsNoCommand line := by
  cases line with
  | nil => cases hstarted
  | cons first rest =>
  constructor
  · rintro ⟨final, message, hfed, -⟩
    by_contra hcommand
    have hfirst : first = 0x62 ∨ first = 0x68 := by
      simpa [StartsNoCommand, ← or_iff_not_imp_left] using hcommand
    obtain ⟨executed, hcharacter⟩ := feedChar_command hidle hfirst
    rw [typedLine, List.map_cons, List.cons_append,
      feedChars_cons hcharacter] at hfed
    obtain ⟨_, -, heq⟩ := Option.map_eq_some_iff.mp hfed
    have hstatus := congrArg (fun outputs => outputs.2.head?) heq
    simp [List.replicate_succ] at hstatus
  · rintro ⟨hb, hh⟩
    obtain ⟨inside, hfirst, hinside⟩ := feedChar_first hidle haccepted
      (fun h => hb (congrArg some h)) (fun h => hh (congrArg some h))
    obtain ⟨typed, htyped, hbuffered⟩ := feedChars_buffered hinside (by simp)
      rest (by simpa [Nat.add_comm] using hfits)
      (fun h => hcr (List.mem_cons_of_mem first h))
    obtain ⟨final, hcommit, hfinal⟩ :=
      commitLine_buffered hbuffered (by simp) hfits hnul haccepted
    refine ⟨final, makeVehicleStateMessage request, ?_, rfl, rfl, hfinal⟩
    have hreturn : feedChars typed [charCarriageReturn] = some
        (final, [(.messageReady, some (makeVehicleStateMessage request))]) := by
      rw [feedChars_cons ((if_pos rfl).trans hcommit)]
      rfl
    rw [typedLine, List.map_cons, List.cons_append, feedChars_cons hfirst,
      feedChars_append, ← typedLine, htyped]
    simp [hreturn, List.replicate_succ]

theorem speed_line_entered :
    let parser : LightTransportParser := ⟨Vector.replicate _ 0x7A, 0⟩
    let line := cBytes ['s', 'p', 'e', 'e', 'd', '=', '8', '0']
    let request := ⟨LightVehicleField.speedKph, 80⟩
    lightVehicleStateParseLine (line ++ [0]) = some (some request) ∧
      LineEntered parser line request :=
  ⟨by decide, (line_entered_iff ⟨Vector.replicate _ 0x7A, 0⟩ rfl
    (cBytes ['s', 'p', 'e', 'e', 'd', '=', '8', '0']) (by decide) (by decide)
    (by decide) (by decide) _ (by decide)).mpr (by decide)⟩

/-- `brake=1` is accepted by the line parser, but its first character already
switches the brake lamp off. -/
theorem brake_line_not_entered :
    ¬ ∀ parser : LightTransportParser, parser.lineLen = 0 →
      ∀ line : CText, 1 ≤ line.length → line.length ≤ 31 → 0 ∉ line →
        13 ∉ line → ∀ request,
          lightVehicleStateParseLine (line ++ [0]) = some (some request) →
            LineEntered parser line request := by
  intro hclaim
  obtain ⟨final, message, hfed, -⟩ :=
    hclaim ⟨Vector.replicate _ 0, 0⟩ rfl
      (cBytes ['b', 'r', 'a', 'k', 'e', '=', '1']) (by decide) (by decide)
      (by decide) (by decide) ⟨LightVehicleField.brakePedal, 1⟩ (by decide)
  obtain ⟨reached, hreached⟩ : ∃ reached,
      (feedChars ⟨Vector.replicate _ 0, 0⟩
        (typedLine (cBytes ['b', 'r', 'a', 'k', 'e', '=', '1']) ++
          [charCarriageReturn])).map (fun fed => fed.2.head?) =
        some (some (.messageReady, reached)) :=
    ⟨some (makeLightCmdMessage LightCmd.brakeOff), by decide⟩
  rw [hfed] at hreached
  cases hreached

end LightCtrl
