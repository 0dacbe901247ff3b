import LightCtrl.Domains.Commandin
import LightCtrl.Transport.Grammar
import LightCtrl.Transport.LineMachine

/-!
What a committed line was made of. The parser sees its buffer as a C string of
narrowed characters, while the UART delivers nine-bit codes and a zero for an
empty FIFO. Beside the parser the machine here keeps the complete codes fed
since the buffer was last empty, and the main theorem says when the update
that comes out is what these codes spell.
-/

namespace LightCtrl

open NulTerminated

/-- The parser together with the codes of the line it is in. -/
def feedTracked (current : LightTransportParser × List Int) (ch : Int) :
    Option (LightTransportParser × List Int) :=
  (lightTransportParserFeedChar current.1 ch).map (fun result =>
    (result.parser, if result.parser.lineLen = 0 then [] else current.2 ++ [ch]))

/-- The parser and the codes of its line after init and a stream of codes. -/
def feedStream (raw : LightTransportParser) (codes : List Int) :
    Option (LightTransportParser × List Int) := do
  let parser ← lightTransportParserInit raw
  codes.foldlM feedTracked (parser, [])

/-- The buffer holds the narrowed codes of the line, and one more fits. -/
def Tracks (parser : LightTransportParser) (line : List Int) : Prop :=
  Buffered parser (line.map UInt8.ofInt) ∧ line.length ≤ 31

theorem tracks_empty {parser : LightTransportParser} (hidle : parser.lineLen = 0) :
    Tracks parser [] :=
  ⟨buffered_nil hidle, by simp⟩

/-- The terminator stored at a carriage return ends the narrowed codes. -/
theorem Tracks.ended {parser : LightTransportParser} {line : List Int}
    (h : Tracks parser line) :
    ∃ ended rest, parser.store parser.lineLen.toNat 0 = some ended ∧
      ended.lineBuf.toList = line.map UInt8.ofInt ++ 0 :: rest := by
  obtain ⟨⟨hlen, htyped⟩, hfits⟩ := h
  have hmax : lightCommandLineMax = 32 := rfl
  obtain ⟨ended, hended, -, rest, hrest⟩ :=
    store_buffered parser htyped (by rw [List.length_map]; omega) 0
  refine ⟨ended, rest, by rw [hlen, hended], ?_⟩
  rw [← hrest, List.append_assoc, List.singleton_append]

/-- The step lemma: every character is consumed, and the tracked codes stay
those of the buffer. -/
theorem feedTracked_tracks {parser : LightTransportParser} {line : List Int}
    (h : Tracks parser line) (ch : Int) :
    ∃ next, feedTracked (parser, line) ch = some next ∧ Tracks next.1 next.2 := by
  obtain ⟨hbuffered, hfits⟩ := h
  obtain ⟨next, hfeed, hnext, -⟩ :=
    feedChar_mirrors hbuffered (by rwa [List.length_map]) ch
  refine ⟨_, by rw [feedTracked, hfeed, Option.map_some], ?_⟩
  dsimp only
  split_ifs with hidle
  · exact tracks_empty hidle
  · -- the machine's text did not end, so it got this character
    obtain ⟨hadded, hroom⟩ := (lineStep_text (line.map UInt8.ofInt) ch).resolve_left
      fun hended => hidle (hnext.lineLen_eq_zero_iff.mpr hended)
    rw [List.length_map] at hroom
    constructor
    · rw [hadded] at hnext
      simpa using hnext
    · rw [List.length_append, List.length_singleton]
      omega

/-- The run lemma: from init every stream is consumed without a store or a
read outside the buffer, and the codes tracked are those of the buffer. -/
theorem feedStream_tracks (raw : LightTransportParser) (codes : List Int) :
    ∃ parser line, feedStream raw codes = some (parser, line) ∧
      Tracks parser line := by
  obtain ⟨start, hinit, hidle⟩ := parserReset_spec raw
  have hrun : ∀ current : LightTransportParser × List Int,
      Tracks current.1 current.2 →
        ∃ final, codes.foldlM feedTracked current = some final ∧
          Tracks final.1 final.2 := by
    induction codes with
    | nil => exact fun current h => ⟨current, rfl, h⟩
    | cons ch rest ih =>
        intro current h
        obtain ⟨next, hnext, htracks⟩ := feedTracked_tracks h ch
        obtain ⟨final, hfinal, hlast⟩ := ih next htracks
        exact ⟨final, by simp [hnext, hfinal], hlast⟩
  obtain ⟨final, hfinal, htracks⟩ := hrun (start, []) (tracks_empty hidle)
  refine ⟨final.1, final.2, ?_, htracks⟩
  rw [feedStream, lightTransportParserInit, hinit]
  exact hfinal

private theorem append_not_ready {parser : LightTransportParser} {ch : Int}
    {result : FeedResult} (h : appendChar parser ch = some result) :
    result.status ≠ .messageReady := by
  unfold appendChar at h
  split_ifs at h
  · obtain ⟨_, -, hresult⟩ := Option.bind_eq_some_iff.mp h
    cases hresult
    intro hready
    cases hready
  · obtain ⟨_, -, hrest⟩ := Option.bind_eq_some_iff.mp h
    obtain ⟨_, -, hresult⟩ := Option.bind_eq_some_iff.mp hrest
    cases hresult
    intro hready
    cases hready

private theorem commit_ready {parser : LightTransportParser}
    {result : FeedResult} (h : commitLine parser = some result)
    (hready : result.status = .messageReady) :
    ∃ ended request, parser.store parser.lineLen.toNat 0 = some ended ∧
      lightVehicleStateParseLine ended.lineBuf.toList = some (some request) ∧
      result.written = some (makeVehicleStateMessage request) := by
  unfold commitLine at h
  split_ifs at h
  · cases h
    cases hready
  · obtain ⟨ended, hended, hrest⟩ := Option.bind_eq_some_iff.mp h
    obtain ⟨answer, hanswer, hlast⟩ := Option.bind_eq_some_iff.mp hrest
    cases answer with
    | none =>
        obtain ⟨_, -, hresult⟩ := Option.bind_eq_some_iff.mp hlast
        cases hresult
        cases hready
    | some request =>
        obtain ⟨_, -, hresult⟩ := Option.bind_eq_some_iff.mp hlast
        cases hresult
        exact ⟨ended, request, hended, hanswer, rfl⟩

/-- The three ways a message becomes ready: a line that the line parser
accepts, one of the four immediate commands, a lamp command. -/
theorem ready_cases {parser : LightTransportParser} {ch : Int}
    {result : FeedResult}
    (hfeed : lightTransportParserFeedChar parser ch = some result)
    (hready : result.status = .messageReady) :
    (∃ ended request, parser.store parser.lineLen.toNat 0 = some ended ∧
        lightVehicleStateParseLine ended.lineBuf.toList = some (some request) ∧
        result.written = some (makeVehicleStateMessage request)) ∨
      (∃ message, immediateMessage ch = some message ∧
        result.written = some message) ∨
      ∃ cmd, lightCommandDecodeChar ch = some cmd ∧
        result.written = some (makeLightCmdMessage cmd) := by
  unfold lightTransportParserFeedChar at hfeed
  split_ifs at hfeed
  · exact Or.inl (commit_ready hfeed hready)
  · split at hfeed
    · rename_i message himmediate
      cases hfeed
      exact Or.inr (Or.inl ⟨message, himmediate, rfl⟩)
    · split at hfeed
      · rename_i cmd hdecode
        cases hfeed
        exact Or.inr (Or.inr ⟨cmd, hdecode, rfl⟩)
      · exact absurd hready (append_not_ready hfeed)
  · exact absurd hready (append_not_ready hfeed)

theorem immediateMessage_cases {ch : Int} {message : LightTransportMessage}
    (h : immediateMessage ch = some message) :
    message = makeFaultInjectMessage LightErr.modeConflict ∨
      message = makeFaultInjectMessage LightErr.hwStateErr ∨
      message = makeQueryMessage ∨
      message = makeFaultClearMessage lightTransportFaultClearAll := by
  unfold immediateMessage at h
  split at h <;> cases h <;> simp

/-- The codes of a line are a sentence and denote what the message carries. -/
def DenotesUpdate (line : List Int) (message : LightTransportMessage) : Prop :=
  ∃ text, line = typedLine text ∧
    VehicleSentence text message.payload.vehicleStateUpdate

/-- Codes that are characters other than the terminator. -/
def PlainCodes (line : List Int) : Prop := ∀ code ∈ line, 1 ≤ code ∧ code ≤ 0xFF

instance (line : List Int) : Decidable (PlainCodes line) :=
  inferInstanceAs (Decidable (∀ code ∈ line, _))

private theorem DenotesUpdate.plainCodes {line : List Int}
    {message : LightTransportMessage} (h : DenotesUpdate line message) :
    PlainCodes line := by
  obtain ⟨text, rfl, hsentence⟩ := h
  intro code hcode
  obtain ⟨ch, hch, rfl⟩ := List.mem_map.mp hcode
  have hpositive : ch.toNat ≠ 0 := by
    intro hzero
    have hnul : ch = 0 := UInt8.toNat_inj.mp hzero
    exact hsentence.nul_free (hnul ▸ hch)
  have hbyte := ch.toNat_lt
  omega

/-- Narrowing loses nothing of plain codes, and none becomes a terminator. -/
private theorem PlainCodes.narrowed {line : List Int} (h : PlainCodes line) :
    typedLine (line.map UInt8.ofInt) = line ∧ 0 ∉ line.map UInt8.ofInt := by
  have hcode : ∀ code ∈ line, ((UInt8.ofInt code).toNat : Int) = code := by
    intro code hmember
    obtain ⟨hlow, hhigh⟩ := h code hmember
    simp [UInt8.ofInt]
    omega
  constructor
  · rw [typedLine, List.map_map]
    exact (List.map_congr_left hcode).trans line.map_id'
  · intro hnul
    obtain ⟨code, hmember, hzero⟩ := List.mem_map.mp hnul
    have hsame := hcode code hmember
    rw [hzero] at hsame
    have hlow := (h code hmember).1
    simp at hsame
    omega

private theorem committed_denotes_iff {parser : LightTransportParser}
    {line : List Int} (h : Tracks parser line) {ended : LightTransportParser}
    {request : LightVehicleStateRequest}
    (hended : parser.store parser.lineLen.toNat 0 = some ended)
    (hparsed :
      lightVehicleStateParseLine ended.lineBuf.toList = some (some request)) :
    DenotesUpdate line (makeVehicleStateMessage request) ↔ PlainCodes line := by
  refine ⟨DenotesUpdate.plainCodes, fun hplain => ?_⟩
  obtain ⟨htyped, hnul⟩ := hplain.narrowed
  obtain ⟨_, rest, hstore, hbuf⟩ := h.ended
  cases hended.symm.trans hstore
  obtain ⟨text, tail, hline, hsentence⟩ := lightVehicleStateParseLine_sound hparsed
  have htext : text = line.map UInt8.ofInt :=
    string_unique hsentence.nul_free hnul (hline.symm.trans hbuf)
  exact ⟨text, by rw [htext, htyped], hsentence⟩

/-- From init and for every stream the UART delivers: the parser consumes it,
and an update that becomes ready is what its line spells exactly when no code
of the line is a zero or outside a character. -/
theorem update_denotes_line_iff (raw : LightTransportParser)
    (received : List (Option UInt32)) (last : Option UInt32) :
    ∃ parser line result,
      feedStream raw (received.map uartGetChar) = some (parser, line) ∧
      lightTransportParserFeedChar parser (uartGetChar last) = some result ∧
      ∀ message, result.status = .messageReady → result.written = some message →
        message.type = LightTransportMsg.vehicleStateUpdate →
          (DenotesUpdate line message ↔ PlainCodes line) := by
  obtain ⟨parser, line, hstream, htracks⟩ :=
    feedStream_tracks raw (received.map uartGetChar)
  obtain ⟨next, hnext, -⟩ := feedTracked_tracks htracks (uartGetChar last)
  obtain ⟨result, hfeed, -⟩ := Option.map_eq_some_iff.mp hnext
  refine ⟨parser, line, result, hstream, hfeed, ?_⟩
  intro message hready hwritten htype
  rcases ready_cases hfeed hready with
    ⟨ended, request, hended, hparsed, hmade⟩ | ⟨made, himmediate, hmade⟩ |
      ⟨cmd, -, hmade⟩
  · cases hwritten.symm.trans hmade
    exact committed_denotes_iff htracks hended hparsed
  · cases hwritten.symm.trans hmade
    rcases immediateMessage_cases himmediate with rfl | rfl | rfl | rfl <;>
      cases htype
  · cases hwritten.symm.trans hmade
    cases htype

/-- After `speed=1` a read of the empty FIFO ends the string in the buffer, so
the line is accepted whatever is typed behind it. -/
theorem truncated_line_accepted :
    ¬ ∀ (raw : LightTransportParser) (received : List (Option UInt32))
        (last : Option UInt32) (parser : LightTransportParser) (line : List Int)
        (result : FeedResult) (message : LightTransportMessage),
      feedStream raw (received.map uartGetChar) = some (parser, line) →
      lightTransportParserFeedChar parser (uartGetChar last) = some result →
      result.status = .messageReady → result.written = some message →
      message.type = LightTransportMsg.vehicleStateUpdate →
      DenotesUpdate line message := by
  intro hclaim
  have hdenotes := hclaim ⟨Vector.replicate _ 0, 0⟩
    [some 0x73, some 0x70, some 0x65, some 0x65, some 0x64, some 0x3D, some 0x31,
      none, some 0x78]
    (some 0x0D) _ _ _ _ rfl rfl rfl rfl rfl
  exact absurd hdenotes.plainCodes (by decide)

end LightCtrl
