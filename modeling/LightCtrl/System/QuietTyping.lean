import LightCtrl.System.TypedText
import LightCtrl.System.Workload

/-!
How much time the typing has to leave the board. A character holds a token from
its interrupt to the receiver that reads the message it completed; the pieces
hand the token on and never double it. So where the next interrupt comes only
once the board rests, every message has been read before the next is completed.
-/

namespace LightCtrl

open Runs Preemption

/-- The ends a typed character passes on its way. -/
def typingEnds : List ChannelEnd :=
  [(.commandin, LightCh.commandinUartIrq), (.scheduler, LightCh.schedulerFromCommandin),
    (.vehicleState, LightCh.vehicleStateFromCommandin),
    (.faultmg, LightCh.faultmgFromCommandin)]

def typingFlag (channelEnd : ChannelEnd) : Nat :=
  if typingEnds.contains channelEnd then 1 else 0

def typingPiece (domain : ProtectionDomain) : BoardPiece → Nat
  | .notified channel => typingFlag (domain, channel)
  | .send _ => if domain = .commandin then 1 else 0
  | _ => 0

variable {reading : BoardReading} {memory : BoardMemory} {domain : ProtectionDomain}
  {piece : BoardPiece} {effect : BoardEffect}

theorem typingFlag_le (channelEnd : ChannelEnd) : typingFlag channelEnd ≤ 1 := by
  rw [typingFlag]
  split_ifs <;> omega

/-- Nobody but commandin notifies one of these ends. -/
theorem sent_elsewhere (hdomain : domain ≠ .commandin) {channel : MicrokitChannel}
    (hsent : channel ∈ domain.sentChannels) {channelEnd : ChannelEnd}
    (hpeer : channelPeer domain channel = some channelEnd) :
    typingFlag channelEnd = 0 := by
  have hall : ∀ other ∈ domain.sentChannels,
      (channelPeer domain other).elim 0 typingFlag = 0 := by
    cases domain with
    | commandin => exact absurd rfl hdomain
    | _ => decide
  have hzero := hall channel hsent
  rw [hpeer] at hzero
  exact hzero

/-- Each piece hands on at most what it holds. -/
theorem typing_handed (houtcome : PieceOutcome reading memory domain piece effect) :
    (effect.next.map (typingPiece domain)).sum +
        ∑ channelEnd ∈ board.targets domain effect.notified, typingFlag channelEnd ≤
      typingPiece domain piece := by
  by_cases hdomain : domain = .commandin
  · subst hdomain
    cases houtcome with
    | sent _ channel h =>
        obtain ⟨channelEnd, hpeer, -, -⟩ := sent_channel_connected .commandin channel h
        rw [board_targets_singleton hpeer, Finset.sum_singleton]
        exact (Nat.zero_add _).trans_le (typingFlag_le channelEnd)
    | answered typed parser answer _ _ hanswer =>
        rw [hanswer]
        rcases consoleAnswer_notified memory.shmem parser
          (lineStep typed (uartGetChar reading.received)).2.2 with
          hquiet | ⟨channel, -, hone⟩
        · simp only [hquiet]
          exact Nat.zero_le _
        · simp only [hone]
          exact Nat.le_refl 1
  · obtain ⟨-, -, hnext, hquiet⟩ := houtcome.elsewhere hdomain
    have hpieces : (effect.next.map (typingPiece domain)).sum = 0 := by
      refine List.sum_eq_zero ?_
      intro weight hweight
      obtain ⟨later, hlater, rfl⟩ := List.mem_map.mp hweight
      cases later with
      | notified channel => exact absurd hlater (hnext channel)
      | send channel => exact if_neg hdomain
      | publish stores => rfl
      | iterate => rfl
    have hflags : ∑ channelEnd ∈ board.targets domain effect.notified,
        typingFlag channelEnd = 0 := by
      by_cases hsend : ∀ channel, piece ≠ .send channel
      · rw [hquiet hsend]
        rfl
      · push Not at hsend
        obtain ⟨channel, rfl⟩ := hsend
        cases houtcome with
        | sent _ _ h =>
            obtain ⟨channelEnd, hpeer, -, -⟩ := sent_channel_connected domain channel h
            rw [board_targets_singleton hpeer, Finset.sum_singleton]
            exact sent_elsewhere hdomain h hpeer
    rw [hpieces, hflags]
    exact Nat.zero_le _

theorem typing_handedOn :
    HandedOn board HandledEnd BoardRuns BoardSafe typingFlag typingPiece where
  external := fun channelEnd _ => typingFlag_le channelEnd
  entry := by
    intro domain channel _
    simp only [board, List.map_cons, List.map_nil, List.sum_singleton]
    exact Nat.le_refl _
  perform := fun _ _ reading _ hruns hsafe =>
    typing_handed (performPiece_outcome reading hruns hsafe.line hsafe.lamps)

/-- While there is one character at most, commandin completes a message only when
the last one has been read. -/
theorem paced_of_one {state : BoardState} (hsound : Sound HandledEnd BoardRuns BoardSafe state)
    (hone : tally typingFlag typingPiece state ≤ 1) (event : BoardEvent) :
    Paced state event := by
  cases event with
  | advance domain reading =>
      cases domain with
      | commandin =>
          intro piece hpiece hnext
          obtain ⟨rest, hscript⟩ : ∃ rest, state.script .commandin = piece :: rest :=
            List.head?_eq_some_iff.mp hpiece
          have houtcome := performPiece_outcome reading
            (hsound.script .commandin piece (by simp [hscript])) hsound.memory.line
            hsound.memory.lamps
          have hholds : typingPiece .commandin piece = 1 := by
            generalize performPiece .commandin piece reading state.memory = effect
              at houtcome hnext
            cases houtcome with
            | sent => rfl
            | answered => rfl
          obtain ⟨hpending, hwoken, hscripts⟩ := none_beside hone hscript hholds
          have hcaught : ∀ receiver : InputReceiver, receiver.Caught state := by
            intro receiver
            have hend : typingFlag (receiver.domain, receiver.inputChannel) ≠ 0 := by
              cases receiver <;> decide
            have hother : receiver.domain ≠ .commandin := by
              cases receiver <;> decide
            exact ⟨fun h => hend (hpending _ h), fun h => hend (hwoken _ h),
              fun h => hend (hscripts _ hother _ h)⟩
          exact ⟨hcaught _, hcaught _, hcaught _⟩
      | _ => trivial
  | _ => trivial

/-- A character arrives only while the board rests. -/
def TypedAtRest (state : BoardState) : BoardEvent → Prop
  | .interrupt _ => Resting state
  | _ => True

instance (state : BoardState) : Decidable (Resting state) := by
  unfold Resting
  infer_instance

instance (state : BoardState) : ∀ event, Decidable (TypedAtRest state event)
  | .interrupt _ => inferInstanceAs (Decidable (Resting state))
  | .wake _ | .enter _ _ | .advance _ _ => isTrue trivial

/-- Where characters wait for the board to rest, every message is read in time. -/
theorem paced_of_typed_at_rest {regions : BoardRegions} {events : List BoardEvent}
    (hrest : EveryStep BoardEvent.step TypedAtRest (boardInit regions) events) :
    EveryStep BoardEvent.step Paced (boardInit regions) events := by
  have hstart : tally typingFlag typingPiece (boardInit regions) ≤ 1 := by
    have hpending : ∑ channelEnd ∈ (boardInit regions).pending,
        typingFlag channelEnd = 0 := by
      rw [boardInit_pending]
      decide
    rw [tally, hpending]
    simp [boardInit]
  have hawaited : EveryStep board.step (Awaited typingFlag typingPiece) (boardInit regions)
      events := by
    refine hrest.mono ?_
    intro state event hevent
    cases event with
    | interrupt channelEnd => exact tally_of_resting hevent
    | _ => trivial
  exact (typing_handedOn.run board_closed (boardInit_sound regions) hstart hawaited).mono
    fun _ event h => paced_of_one h.1 h.2 event

/-- Along every run in which characters arrive only while the board rests, whatever
the order in which the domains move: each message was read before the next is
completed, and whenever the board rests every receiver has read the messages typed
for it, each once and in order. -/
theorem board_typing_at_rest (regions : BoardRegions) (events : List BoardEvent)
    (hrest : EveryStep BoardEvent.step TypedAtRest (boardInit regions) events) :
    EveryStep BoardEvent.step Paced (boardInit regions) events ∧
      (Resting (run BoardEvent.step (boardInit regions) events) →
        ∀ receiver : InputReceiver,
          typedFor receiver (outputs BoardEvent.step (recorded charactersRead)
              (boardInit regions) events) =
            outputs BoardEvent.step (recorded (messagesRead receiver)) (boardInit regions)
              events) := by
  have hpaced := paced_of_typed_at_rest hrest
  exact ⟨hpaced, fun hidle receiver => messages_read_at_rest receiver hpaced hidle⟩

theorem board_typing_at_rest_speed :
    outputs BoardEvent.step (recorded (messagesRead .vehicleState)) (boardInit zeroRegions)
        speedEvents =
      [makeVehicleStateMessage ⟨LightVehicleField.speedKph, 50⟩] := by
  have hrest : Resting (run BoardEvent.step (boardInit zeroRegions) speedEvents) := by
    decide +kernel
  have htyped := board_typing_at_rest zeroRegions speedEvents (by decide +kernel)
  rw [← htyped.2 hrest .vehicleState]
  decide +kernel

end LightCtrl
