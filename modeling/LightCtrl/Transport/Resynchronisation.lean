import LightCtrl.Transport.LineMachine

/-!
What a carriage return forgets. It always ends the line, so behind it the
parser represents the empty text, and its further answers are those of the
machine from there. The bytes that earlier lines, errors and overflows left in
the buffer have no part in them.
-/

namespace LightCtrl

open Runs

/-- The answers to a continuation, after init and a history. -/
def answersAfter (raw : LightTransportParser) (history continuation : List Int) :
    Option (List FeedOutput) := do
  let start ← lightTransportParserInit raw
  let (parser, _) ← feedChars start history
  let (_, answers) ← feedChars parser continuation
  return answers

theorem lineNext_carriageReturn (typed : CText) :
    lineNext typed charCarriageReturn = [] := by
  unfold lineNext lineStep
  rw [if_pos rfl]
  split_ifs <;> rfl

theorem answersAfter_eq (raw : LightTransportParser)
    (history continuation : List Int) :
    answersAfter raw history continuation =
      some (outputs lineNext lineEmit (run lineNext [] history) continuation) := by
  obtain ⟨parser, hhistory, hparser⟩ := init_mirrors raw history
  obtain ⟨final, hcontinued, -⟩ :=
    feedChars_mirrors hparser.buffered hparser.length_le continuation
  have hsplit : answersAfter raw history continuation =
      ((lightTransportParserInit raw).bind (feedChars · history)).bind
        (fun fed => (feedChars fed.1 continuation).bind (some ·.2)) := by
    rw [Option.bind_assoc]
    rfl
  rw [hsplit, hhistory, Option.bind_some, hcontinued, Option.bind_some]

/-- After any two histories that end with a carriage return, every
continuation is answered alike, and answered at all. -/
theorem carriage_return_resynchronises (firstRaw secondRaw : LightTransportParser)
    (firstHistory secondHistory continuation : List Int) :
    ∃ answers,
      answersAfter firstRaw (firstHistory ++ [charCarriageReturn]) continuation =
        some answers ∧
      answersAfter secondRaw (secondHistory ++ [charCarriageReturn])
        continuation = some answers := by
  have hforgotten : ∀ history,
      run lineNext [] (history ++ [charCarriageReturn]) = [] := by
    intro history
    rw [run_concat]
    exact lineNext_carriageReturn _
  refine ⟨outputs lineNext lineEmit [] continuation, ?_, ?_⟩
  · rw [answersAfter_eq, hforgotten]
  · rw [answersAfter_eq, hforgotten]

end LightCtrl
