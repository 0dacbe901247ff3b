import LightCtrl.System.LampPins
import LightCtrl.Transport.Routing

/-!
The way of a typed message from the keyboard to the domain it is for. commandin
leaves the message in the input buffer, which the next one overwrites, and
notifies that domain. Where the buffer has been read before the next message is
completed, every message is read once and in order, whatever else the board is
doing; vehicle_state and faultmg are below commandin, so they depend on the time
the typing leaves them.
-/

namespace LightCtrl

open Runs Preemption

section Typed

/-- The messages a stream of character codes stands for. -/
def typedMessages (codes : List Int) : List LightTransportMessage :=
  (outputs lineNext lineEmit [] codes).filterMap Prod.snd

/-- The ones for the receiver. -/
def typedFor (receiver : InputReceiver) (codes : List Int) : List LightTransportMessage :=
  (typedMessages codes).filter fun message => destination? message = some receiver

theorem typedMessages_concat (codes : List Int) (code : Int) :
    typedMessages (codes ++ [code]) = typedMessages codes ++
      (lineStep (run lineNext [] codes) code).2.2.toList := by
  rw [typedMessages, outputs_append, List.filterMap_append]
  cases hmessage : (lineStep (run lineNext [] codes) code).2.2 with
  | none => simp [outputs, lineEmit, typedMessages, hmessage]
  | some message => simp [outputs, lineEmit, typedMessages, hmessage]

theorem typedMessages_dispatchable {codes : List Int} {message : LightTransportMessage}
    (h : message ∈ typedMessages codes) : Dispatchable message := by
  induction codes using List.reverseRecOn with
  | nil => exact absurd h List.not_mem_nil
  | append_singleton codes code ih =>
      rw [typedMessages_concat, List.mem_append, Option.mem_toList] at h
      exact h.elim ih lineStep_dispatchable

/-- A code that completes no message for the receiver. -/
theorem typedFor_other {receiver : InputReceiver} {codes : List Int} {code : Int}
    (h : (lineStep (run lineNext [] codes) code).2.2.bind destination? ≠ some receiver) :
    typedFor receiver (codes ++ [code]) = typedFor receiver codes := by
  rw [typedFor, typedMessages_concat, List.filter_append]
  cases hmessage : (lineStep (run lineNext [] codes) code).2.2 with
  | none => exact List.append_nil _
  | some message =>
      rw [hmessage, Option.bind_some] at h
      simp [typedFor, h]

/-- A code that completes one. -/
theorem typedFor_completed {receiver : InputReceiver} {codes : List Int} {code : Int}
    {message : LightTransportMessage}
    (hmessage : (lineStep (run lineNext [] codes) code).2.2 = some message)
    (hdestination : destination? message = some receiver) :
    typedFor receiver (codes ++ [code]) = typedFor receiver codes ++ [message] := by
  rw [typedFor, typedMessages_concat, List.filter_append, hmessage]
  simp [typedFor, hdestination]

/-- What a receiver makes of the messages for it, where it makes nothing of the
others. -/
theorem filterMap_typedFor {κ : Type} {receiver : InputReceiver}
    {decode plain : LightTransportMessage → Option κ}
    (hsame : ∀ message, Dispatchable message →
      plain message = if destination? message = some receiver then decode message else none)
    (codes : List Int) :
    (typedFor receiver codes).filterMap decode = (typedMessages codes).filterMap plain := by
  rw [typedFor, List.filterMap_filter]
  refine List.filterMap_congr ?_
  intro message hmessage
  rw [hsame message (typedMessages_dispatchable hmessage)]
  simp only [decide_eq_true_eq]

/-- The text a parser is inside of is determined by its buffer. -/
theorem Represents.unique {parser : LightTransportParser} {left right : CText}
    (hleft : Represents parser left) (hright : Represents parser right) :
    left = right := by
  have hlength : left.length = right.length := hleft.1.symm.trans hright.1
  have hprefix := List.prefix_of_prefix_length_le hleft.buffered.2 hright.buffered.2
    hlength.le
  exact hprefix.eq_of_length hlength

end Typed

section Answers

/-- A dispatched message has a route. -/
theorem route_of_dispatchable {message : LightTransportMessage} (h : Dispatchable message) :
    lightTransportRouteForMessage message ≠ .none := by
  have hlength := ((transport_check_ok_iff message message.type).mp h).2.2.1
  intro hroute
  unfold lightTransportRouteForMessage at hroute
  split_ifs at hroute with hlight hvehicle hinject hquery hclear
  exact hlength (by simp [expectedTransportLen, hlight, hvehicle, hinject, hquery, hclear])

/-- A message without a receiver is a query, which commandin answers itself. -/
theorem consoleAnswer_unrouted {answer : Option LightTransportMessage}
    (hpasses : ∀ message ∈ answer, Dispatchable message)
    (h : answer.bind destination? = none) (shmem : LightShmem)
    (parser : LightTransportParser) :
    (consoleAnswer shmem parser answer).written = none ∧
      (consoleAnswer shmem parser answer).notified = [] := by
  cases answer with
  | none => exact ⟨rfl, rfl⟩
  | some message =>
      have hroute : lightTransportRouteForMessage message = .commandin := by
        have hnone := route_of_dispatchable (hpasses message rfl)
        rw [Option.bind_some, destination?] at h
        cases hcase : lightTransportRouteForMessage message <;> simp_all
      rw [consoleAnswer, if_pos hroute]
      exact ⟨rfl, rfl⟩

/-- Any other message is stored, and its receiver alone is notified. -/
theorem consoleAnswer_routed {message : LightTransportMessage} {receiver : InputReceiver}
    (hpasses : Dispatchable message) (h : destination? message = some receiver)
    (shmem : LightShmem) (parser : LightTransportParser) :
    (consoleAnswer shmem parser (some message)).written = some message ∧
      (consoleAnswer shmem parser (some message)).notified =
        [receiver.commandinChannel] := by
  rw [consoleAnswer, dispatch_of_dispatchable hpasses]
  rw [destination?] at h
  cases hroute : lightTransportRouteForMessage message <;> rw [hroute] at h
  all_goals cases h
  all_goals exact ⟨rfl, rfl⟩

end Answers

section Handing

def InputReceiver.domain : InputReceiver → ProtectionDomain
  | .scheduler => .scheduler
  | .vehicleState => .vehicleState
  | .faultmg => .faultmg

/-- What commandin hands to the receiver. The message itself is in the input
buffer. -/
def messageParcels (receiver : InputReceiver) :
    Parcels ProtectionDomain MicrokitChannel BoardPiece Unit where
  sender := .commandin
  receiver := receiver.domain
  flag := fun channelEnd =>
    if channelEnd = (receiver.domain, receiver.inputChannel) then some () else none
  piece := fun domain piece =>
    if domain = .commandin ∧ piece = .send receiver.commandinChannel ∨
        domain = receiver.domain ∧ piece = .notified receiver.inputChannel then
      some ()
    else none

/-- The codes commandin reads from the UART. -/
def charactersRead (domain : ProtectionDomain) (piece : BoardPiece)
    (reading : BoardReading) (_ : BoardMemory) : List Int :=
  if domain = .commandin ∧ piece = .notified LightCh.commandinUartIrq then
    [uartGetChar reading.received]
  else []

/-- The messages the receiver's handler reads from the buffer. -/
def messagesRead (receiver : InputReceiver) (domain : ProtectionDomain)
    (piece : BoardPiece) (_ : BoardReading) (memory : BoardMemory) :
    List LightTransportMessage :=
  if domain = receiver.domain ∧ piece = .notified receiver.inputChannel then
    [memory.inputBuffer]
  else []

/-- Both, in the order of the run. -/
def traffic (receiver : InputReceiver) (domain : ProtectionDomain) (piece : BoardPiece)
    (reading : BoardReading) (memory : BoardMemory) : List (Int ⊕ LightTransportMessage) :=
  (charactersRead domain piece reading memory).map .inl ++
    (messagesRead receiver domain piece reading memory).map .inr

theorem past_typed (past : List (Int ⊕ LightTransportMessage)) (code : Int) :
    (past ++ [Sum.inl code]).filterMap Sum.getLeft? = past.filterMap Sum.getLeft? ++ [code] ∧
      (past ++ [Sum.inl code]).filterMap Sum.getRight? = past.filterMap Sum.getRight? := by
  simp [List.filterMap_append]

theorem past_read (past : List (Int ⊕ LightTransportMessage))
    (message : LightTransportMessage) :
    (past ++ [Sum.inr message]).filterMap Sum.getLeft? = past.filterMap Sum.getLeft? ∧
      (past ++ [Sum.inr message]).filterMap Sum.getRight? =
        past.filterMap Sum.getRight? ++ [message] := by
  simp [List.filterMap_append]

/-- commandin is inside the line typed last, and the receiver has read what was
typed for it, up to the message under way. -/
structure MessageUnderWay (receiver : InputReceiver)
    (past : List (Int ⊕ LightTransportMessage)) (memory : BoardMemory)
    (item : Option Unit) : Prop where
  line : Represents memory.parser (run lineNext [] (past.filterMap Sum.getLeft?))
  buffer : item ≠ none → Dispatchable memory.inputBuffer ∧
    destination? memory.inputBuffer = some receiver
  delivered : typedFor receiver (past.filterMap Sum.getLeft?) =
    past.filterMap Sum.getRight? ++ item.elim [] fun _ => [memory.inputBuffer]

variable {receiver : InputReceiver} {memory next : BoardMemory}
  {past : List (Int ⊕ LightTransportMessage)} {item : Option Unit}

theorem MessageUnderWay.of_same (h : MessageUnderWay receiver past memory item)
    (hparser : next.parser = memory.parser)
    (hbuffer : next.inputBuffer = memory.inputBuffer) :
    MessageUnderWay receiver (past ++ []) next item := by
  rw [List.append_nil]
  exact ⟨hparser.symm ▸ h.line, hbuffer.symm ▸ h.buffer, hbuffer.symm ▸ h.delivered⟩

/-- The receiver reads the buffer. -/
theorem MessageUnderWay.taken (h : MessageUnderWay receiver past memory (some ()))
    (hparser : next.parser = memory.parser) :
    MessageUnderWay receiver (past ++ [.inr memory.inputBuffer]) next none := by
  obtain ⟨hcodes, hmessages⟩ := past_read past memory.inputBuffer
  refine ⟨?_, fun hnone => absurd rfl hnone, ?_⟩
  · rw [hcodes, hparser]
    exact h.line
  · rw [hcodes, hmessages, h.delivered]
    exact (List.append_nil _).symm

variable {code : Int} {parser : LightTransportParser}

/-- A character completes no message that leaves commandin. -/
theorem MessageUnderWay.unrouted (h : MessageUnderWay receiver past memory item)
    {typed : CText} (htyped : Represents memory.parser typed)
    (hafter : Represents parser (lineNext typed code))
    (hnone : (lineStep typed code).2.2.bind destination? = none) :
    MessageUnderWay receiver (past ++ [.inl code])
      (memory.afterAnswer (consoleAnswer memory.shmem parser (lineStep typed code).2.2))
      item := by
  obtain rfl := htyped.unique h.line
  have hpasses : ∀ message ∈ (lineStep (run lineNext [] (past.filterMap Sum.getLeft?))
      code).2.2, Dispatchable message := fun _ => lineStep_dispatchable
  have hwritten := (consoleAnswer_unrouted hpasses hnone memory.shmem parser).1
  obtain ⟨hcodes, hmessages⟩ := past_typed past code
  have hbuffer : (memory.afterAnswer (consoleAnswer memory.shmem parser
      (lineStep (run lineNext [] (past.filterMap Sum.getLeft?)) code).2.2)).inputBuffer =
        memory.inputBuffer := by
    rw [BoardMemory.afterAnswer, hwritten]
    rfl
  refine ⟨?_, hbuffer ▸ h.buffer, ?_⟩
  · rw [hcodes, run_concat]
    simpa only [BoardMemory.afterAnswer, parser_consoleAnswer] using hafter
  · rw [hcodes, hmessages, typedFor_other (by simp [hnone]), hbuffer, h.delivered]

/-- A character completes a message for one of the receivers. -/
theorem MessageUnderWay.completed (h : MessageUnderWay receiver past memory none)
    {typed : CText} (htyped : Represents memory.parser typed)
    (hafter : Represents parser (lineNext typed code)) {message : LightTransportMessage}
    (hmessage : (lineStep typed code).2.2 = some message) {target : InputReceiver}
    (htarget : destination? message = some target) :
    MessageUnderWay receiver (past ++ [.inl code])
      (memory.afterAnswer (consoleAnswer memory.shmem parser (some message)))
      (if target = receiver then some () else none) := by
  obtain rfl := htyped.unique h.line
  have hpasses := lineStep_dispatchable hmessage
  have hwritten := (consoleAnswer_routed hpasses htarget memory.shmem parser).1
  obtain ⟨hcodes, hmessages⟩ := past_typed past code
  have hbuffer : (memory.afterAnswer
      (consoleAnswer memory.shmem parser (some message))).inputBuffer = message := by
    rw [BoardMemory.afterAnswer, hwritten]
    rfl
  have hdelivered := h.delivered
  rw [Option.elim_none, List.append_nil] at hdelivered
  refine ⟨?_, ?_, ?_⟩
  · rw [hcodes, run_concat]
    simpa only [BoardMemory.afterAnswer, parser_consoleAnswer] using hafter
  · intro hitem
    rw [hbuffer]
    refine ⟨hpasses, htarget.trans (congrArg some ?_)⟩
    by_contra hother
    exact hitem (if_neg hother)
  · rw [hcodes, hmessages, hbuffer]
    by_cases hown : target = receiver
    · subst hown
      rw [typedFor_completed hmessage htarget, hdelivered, if_pos rfl]
      rfl
    · have hother : (lineStep (run lineNext [] (past.filterMap Sum.getLeft?))
          code).2.2.bind destination? ≠ some receiver := by
        rw [hmessage, Option.bind_some, htarget]
        exact fun hsame => hown (Option.some.inj hsame)
      rw [typedFor_other hother, hdelivered, if_neg hown]
      exact (List.append_nil _).symm

end Handing

section Moves

variable {receiver : InputReceiver} {memory : BoardMemory} {domain : ProtectionDomain}
  {piece : BoardPiece} {reading : BoardReading} {effect : BoardEffect}

/-- Outside of commandin only the first piece of the receiver's handler carries a
message. -/
theorem messageParcels_piece_eq (hdomain : domain ≠ .commandin) :
    (messageParcels receiver).piece domain piece =
      if domain = receiver.domain ∧ piece = .notified receiver.inputChannel then some ()
      else none := by
  simp [messageParcels, hdomain]

theorem message_confined (receiver : InputReceiver) : Confined (messageParcels receiver) where
  flags := fun _ hother => if_neg fun hsame => hother (congrArg Prod.fst hsame)
  pieces := fun _ hsender hreceiver _ =>
    if_neg fun hcarries => hcarries.elim (fun h => hsender h.1) fun h => hreceiver h.1

/-- No piece of another domain changes the buffer or the parser, or goes on with a
first piece; and unless it is a notification it notifies nobody. -/
theorem PieceOutcome.elsewhere (houtcome : PieceOutcome reading memory domain piece effect)
    (hdomain : domain ≠ .commandin) :
    effect.memory.parser = memory.parser ∧
      effect.memory.inputBuffer = memory.inputBuffer ∧
      (∀ channel, .notified channel ∉ effect.next) ∧
      ((∀ channel, piece ≠ .send channel) → effect.notified = []) := by
  cases houtcome with
  | sent _ channel _ => exact ⟨rfl, rfl, by simp, fun h => absurd rfl (h channel)⟩
  | answered _ _ _ _ _ _ => exact absurd rfl hdomain
  | _ => exact ⟨rfl, rfl, by simp, fun _ => rfl⟩

/-- commandin hands over the message a character completes, if it is routed out. -/
private theorem answered_moves {typed : CText} {parser : LightTransportParser}
    {code : Int} (hbefore : Represents memory.parser typed)
    (hafter : Represents parser (lineNext typed code)) {mayHand : Prop} :
    let answer := consoleAnswer memory.shmem parser (lineStep typed code).2.2
    let effect : BoardEffect := ⟨memory.afterAnswer answer, [], answer.notified.map .send⟩
    (effect.next ≠ [] → mayHand) →
      (messageParcels receiver).Moves board (MessageUnderWay receiver) mayHand
        memory [.inl code] .commandin (.notified LightCh.commandinUartIrq) effect := by
  intro answer effect hmay
  have hempty : (messageParcels receiver).piece .commandin
      (.notified LightCh.commandinUartIrq) = none := by
    cases receiver <;> rfl
  cases hrouted : (lineStep typed code).2.2.bind destination? with
  | none =>
      have hquiet : answer.notified = [] := (consoleAnswer_unrouted
        (fun _ => lineStep_dispatchable) hrouted memory.shmem parser).2
      refine .passes ?_ fun past item h => h.unrouted hbefore hafter hrouted
      rw [Parcels.passedOn_quiet rfl, hempty]
      simp only [effect, hquiet]
      rfl
  | some target =>
      obtain ⟨message, hmessage, htarget⟩ := Option.bind_eq_some_iff.mp hrouted
      have hanswer : answer = consoleAnswer memory.shmem parser (some message) :=
        congrArg (consoleAnswer memory.shmem parser) hmessage
      have hnotified : answer.notified = [target.commandinChannel] := by
        rw [hanswer]
        exact (consoleAnswer_routed (lineStep_dispatchable hmessage) htarget _ _).2
      refine .hands (if target = receiver then some () else none) rfl (hmay ?_) hempty
        ?_ ?_
      · simp [effect, hnotified]
      · rw [Parcels.passedOn_quiet rfl]
        simp only [effect, hnotified]
        cases target <;> cases receiver <;> rfl
      · intro past h
        simp only [effect, hanswer]
        exact h.completed hbefore hafter hmessage htarget

/-- The other domains hand over nothing; the receiver takes what it reads. -/
private theorem elsewhere_moves
    (houtcome : PieceOutcome reading memory domain piece effect)
    (hdomain : domain ≠ .commandin) (hsend : ∀ channel, piece ≠ .send channel)
    {mayHand : Prop} :
    (messageParcels receiver).Moves board (MessageUnderWay receiver) mayHand memory
      ((messagesRead receiver domain piece reading memory).map .inr) domain piece
      effect := by
  obtain ⟨hparser, hbuffer, hnext, hquiet⟩ := houtcome.elsewhere hdomain
  have hzero : (messageParcels receiver).passedOn board domain effect = 0 := by
    rw [Parcels.passedOn_quiet (hquiet hsend)]
    refine List.sum_eq_zero ?_
    intro weight hweight
    obtain ⟨later, hlater, rfl⟩ := List.mem_map.mp hweight
    rw [messageParcels_piece_eq hdomain, if_neg]
    · rfl
    · rintro ⟨-, rfl⟩
      exact hnext _ hlater
  have hpiece : (messageParcels receiver).piece domain piece = _ :=
    messageParcels_piece_eq hdomain
  rw [messagesRead]
  split_ifs at hpiece ⊢ with htaken
  · exact .takes () hpiece hzero fun past h => h.taken hparser
  · refine .passes (hzero.trans ?_) fun past item h => h.of_same hparser hbuffer
    rw [hpiece]
    rfl

/-- What each piece of the board does to the message under way. -/
theorem message_moves (houtcome : PieceOutcome reading memory domain piece effect)
    {mayHand : Prop} (hmay : domain = .commandin → effect.next ≠ [] → mayHand) :
    (messageParcels receiver).Moves board (MessageUnderWay receiver) mayHand
      memory (traffic receiver domain piece reading memory) domain piece effect := by
  have hsent : ∀ domain : ProtectionDomain, ∀ channel ∈ domain.sentChannels,
      (channelPeer domain channel).elim none (messageParcels receiver).flag =
        (messageParcels receiver).piece domain (.send channel) := by
    intro domain
    cases domain <;> cases receiver <;> decide
  by_cases hsend : ∀ channel, piece ≠ .send channel
  · by_cases hdomain : domain = .commandin
    · subst hdomain
      cases houtcome with
      | sent _ channel _ => exact absurd rfl (hsend channel)
      | answered typed parser answer hbefore hafter hanswer =>
          subst hanswer
          have hread : traffic receiver .commandin (.notified LightCh.commandinUartIrq)
              reading memory = [.inl (uartGetChar reading.received)] := by
            cases receiver <;> rfl
          rw [hread]
          exact answered_moves hbefore hafter (hmay rfl)
    · have hcodes : charactersRead domain piece reading memory = [] :=
        if_neg fun h => hdomain h.1
      rw [traffic, hcodes]
      exact elsewhere_moves houtcome hdomain hsend
  · push Not at hsend
    obtain ⟨channel, rfl⟩ := hsend
    have hquiet : traffic receiver domain (.send channel) reading memory = [] := by
      simp [traffic, charactersRead, messagesRead]
    rw [hquiet]
    cases houtcome with
    | sent _ _ h => exact sent_passes h (hsent domain channel h)

/-- commandin notifies one domain at most. -/
theorem commandin_next_tail (hruns : BoardRuns .commandin piece) (hsafe : BoardSafe memory)
    (reading : BoardReading) :
    (performPiece .commandin piece reading memory).next.tail = [] := by
  have houtcome := performPiece_outcome reading hruns hsafe.line hsafe.lamps
  generalize performPiece .commandin piece reading memory = effect at houtcome ⊢
  cases houtcome with
  | sent => rfl
  | answered typed parser answer _ _ hanswer =>
      rw [hanswer]
      rcases consoleAnswer_notified memory.shmem parser
        (lineStep typed (uartGetChar reading.received)).2.2 with
        hquiet | ⟨channel, -, hone⟩
      · simp only [hquiet]
        rfl
      · simp only [hone]
        rfl

/-- The piece completes a message for another domain. -/
abbrev CompletesMessage (piece : BoardPiece) (reading : BoardReading)
    (memory : BoardMemory) : Prop :=
  (performPiece .commandin piece reading memory).next ≠ []

/-- commandin hands its messages to the receiver one at a time, wherever it only
completes one when nothing is under way. -/
theorem message_handoff (receiver : InputReceiver)
    {allowed : BoardState → BoardEvent → Prop}
    (hready : ∀ {state : BoardState} {piece : BoardPiece} {rest : List BoardPiece}
      {reading : BoardReading}, state.script .commandin = piece :: rest →
        CompletesMessage piece reading state.memory →
          (∀ left ∈ piece :: rest, (messageParcels receiver).piece .commandin left = none) →
            allowed state (.advance .commandin reading) →
              (messageParcels receiver).underWay state = 0) :
    Handoff board allowed CompletesMessage HandledEnd BoardRuns BoardSafe
      (messageParcels receiver) (traffic receiver) (MessageUnderWay receiver) where
  ready := hready
  external := by cases receiver <;> decide
  entry := by
    intro domain channel _
    simp only [board, List.map_cons, List.map_nil, List.sum_singleton]
    refine congrArg weigh (if_congr ?_ rfl rfl)
    simp
  entryTail := fun _ _ hlater => absurd hlater List.not_mem_nil
  nextTail := by
    intro piece reading memory hruns hsafe later hlater
    have hnone := commandin_next_tail hruns hsafe reading
    change later ∈ (performPiece .commandin piece reading memory).next.tail at hlater
    rw [hnone] at hlater
    exact absurd hlater List.not_mem_nil
  perform := by
    intro domain piece reading memory hruns hsafe
    refine message_moves (performPiece_outcome reading hruns hsafe.line hsafe.lamps) ?_
    rintro rfl hnext
    exact hnext

end Moves

section Delivery

/-- The receiver has started, if not finished, to handle what it was notified of. -/
def InputReceiver.Caught (receiver : InputReceiver) (state : BoardState) : Prop :=
  (receiver.domain, receiver.inputChannel) ∉ state.pending ∧
    (receiver.domain, receiver.inputChannel) ∉ state.woken ∧
    .notified receiver.inputChannel ∉ state.script receiver.domain

instance (receiver : InputReceiver) (state : BoardState) :
    Decidable (receiver.Caught state) := by
  unfold InputReceiver.Caught
  infer_instance

/-- commandin completes a message for another domain only when the last one has
been read. -/
def Paced (state : BoardState) : BoardEvent → Prop
  | .advance .commandin reading =>
      ∀ piece ∈ (state.script .commandin).head?,
        (performPiece .commandin piece reading state.memory).next ≠ [] →
          InputReceiver.scheduler.Caught state ∧ InputReceiver.vehicleState.Caught state ∧
            InputReceiver.faultmg.Caught state
  | _ => True

instance (state : BoardState) : ∀ event, Decidable (Paced state event)
  | .advance domain reading => by
      cases domain <;> unfold Paced <;> infer_instance
  | .interrupt _ | .wake _ | .enter _ _ => isTrue trivial

theorem Paced.caught {state : BoardState} {reading : BoardReading} {piece : BoardPiece}
    {rest : List BoardPiece} (h : Paced state (.advance .commandin reading))
    (hscript : state.script .commandin = piece :: rest)
    (hnext : (performPiece .commandin piece reading state.memory).next ≠ [])
    (receiver : InputReceiver) : receiver.Caught state := by
  obtain ⟨hscheduler, hvehicle, hfaultmg⟩ := h piece (by rw [hscript]; rfl) hnext
  cases receiver <;> assumption

/-- Nothing is under way to a receiver that has caught up, when commandin has
nothing left to send. -/
theorem InputReceiver.Caught.underWay {receiver : InputReceiver} {state : BoardState}
    (h : receiver.Caught state)
    (hsent : ∀ left ∈ state.script .commandin,
      (messageParcels receiver).piece .commandin left = none) :
    (messageParcels receiver).underWay state = 0 := by
  obtain ⟨hpending, hwoken, hscript⟩ := h
  refine Parcels.underWay_eq_zero ?_ ?_ ?_
  · intro endpoint hmember
    refine if_neg ?_
    rintro rfl
    exact hpending hmember
  · intro endpoint hmember
    refine if_neg ?_
    rintro rfl
    exact hwoken hmember
  · intro domain piece hmember
    by_cases hdomain : domain = .commandin
    · subst hdomain
      exact hsent piece hmember
    · rw [messageParcels_piece_eq hdomain, if_neg]
      rintro ⟨rfl, rfl⟩
      exact hscript hmember

/-- Nothing but the notification of the receiver carries a message in commandin. -/
theorem messageParcels_unsent {receiver : InputReceiver} {state : BoardState}
    (hsent : .send receiver.commandinChannel ∉ state.script .commandin) :
    ∀ left ∈ state.script .commandin,
      (messageParcels receiver).piece .commandin left = none := by
  intro left hleft
  refine if_neg ?_
  rintro (⟨-, rfl⟩ | ⟨hdomain, -⟩)
  · exact hsent hleft
  · cases receiver <;> cases hdomain

theorem messageUnderWay_init (receiver : InputReceiver) (regions : BoardRegions) :
    HandedOver (messageParcels receiver) (MessageUnderWay receiver) [] (boardInit regions) := by
  have hflags : ∀ channelEnd ∈ (boardInit regions).pending,
      (messageParcels receiver).flag channelEnd = none := by
    rw [boardInit_pending]
    cases receiver <;> decide
  exact boardInit_handedOver hflags
    ⟨boardInit_line regions, fun hnone => absurd rfl hnone, rfl⟩

theorem paced_handoff (receiver : InputReceiver) :
    Handoff board Paced CompletesMessage HandledEnd BoardRuns BoardSafe
      (messageParcels receiver) (traffic receiver) (MessageUnderWay receiver) :=
  message_handoff receiver fun hscript hnext hsent hpaced =>
    (Paced.caught hpaced hscript hnext receiver).underWay (hscript ▸ hsent)

/-- What a run records of the characters and the messages read. -/
theorem outputs_traffic (receiver : InputReceiver) (state : BoardState)
    (events : List BoardEvent) :
    let past := outputs BoardEvent.step (recorded (traffic receiver)) state events
    past.filterMap Sum.getLeft? =
        outputs BoardEvent.step (recorded charactersRead) state events ∧
      past.filterMap Sum.getRight? =
        outputs BoardEvent.step (recorded (messagesRead receiver)) state events := by
  intro past
  simp only [past, outputs_filterMap]
  have hevent : ∀ (current : BoardState) (event : BoardEvent),
      (recorded (traffic receiver) current event).filterMap Sum.getLeft? =
          recorded charactersRead current event ∧
        (recorded (traffic receiver) current event).filterMap Sum.getRight? =
          recorded (messagesRead receiver) current event := by
    intro current event
    cases event with
    | advance domain reading =>
        cases hscript : current.script domain with
        | nil => simp [recorded, hscript]
        | cons piece rest =>
            simp [recorded, hscript, traffic, List.filterMap_append, List.filterMap_map,
              Function.comp_def]
    | _ => exact ⟨rfl, rfl⟩
  simp only [fun current event => (hevent current event).1,
    fun current event => (hevent current event).2, and_self]

/-- What a handoff to the receiver says of every run whose steps it allows. -/
theorem messages_delivered {receiver : InputReceiver}
    {allowed : BoardState → BoardEvent → Prop}
    {mayHand : BoardPiece → BoardReading → BoardMemory → Prop}
    (h : Handoff board allowed mayHand HandledEnd BoardRuns BoardSafe
      (messageParcels receiver) (traffic receiver) (MessageUnderWay receiver))
    (regions : BoardRegions) {events : List BoardEvent}
    (hallowed : EveryStep BoardEvent.step allowed (boardInit regions) events) :
    let state := run BoardEvent.step (boardInit regions) events
    let codes := outputs BoardEvent.step (recorded charactersRead) (boardInit regions)
      events
    let messages := outputs BoardEvent.step (recorded (messagesRead receiver))
      (boardInit regions) events
    Represents state.memory.parser (run lineNext [] codes) ∧
      (typedFor receiver codes = messages ∨
        (Dispatchable state.memory.inputBuffer ∧
          destination? state.memory.inputBuffer = some receiver) ∧
            typedFor receiver codes = messages ++ [state.memory.inputBuffer]) ∧
      ((messageParcels receiver).underWay state = 0 →
        typedFor receiver codes = messages) := by
  intro state codes messages
  obtain ⟨hcodes, hmessages⟩ := outputs_traffic receiver (boardInit regions) events
  have hover : HandedOver (messageParcels receiver) (MessageUnderWay receiver)
      (outputs BoardEvent.step (recorded (traffic receiver)) (boardInit regions) events)
      state :=
    h.run board_closed (boardInit_sound regions) (messageUnderWay_init receiver regions)
      events hallowed
  have hsettled : (messageParcels receiver).underWay state = 0 →
      typedFor receiver codes = messages := by
    intro hzero
    have hdelivered := (hover.settled hzero).delivered
    rw [hcodes, hmessages] at hdelivered
    exact hdelivered.trans (List.append_nil _)
  obtain ⟨-, item, -, hline, hbuffer, hdelivered⟩ := hover
  rw [hcodes] at hline hdelivered
  rw [hmessages] at hdelivered
  refine ⟨hline, ?_, hsettled⟩
  cases item with
  | none => exact Or.inl (hdelivered.trans (List.append_nil _))
  | some _ => exact Or.inr ⟨hbuffer (Option.some_ne_none _), hdelivered⟩

theorem InputReceiver.caught_at_rest (receiver : InputReceiver) {state : BoardState}
    (h : Resting state) : receiver.Caught state :=
  ⟨by simp [h.1], by simp [h.2.1], by simp [h.2.2]⟩

theorem messages_read_at_rest (receiver : InputReceiver) {regions : BoardRegions}
    {events : List BoardEvent}
    (hpaced : EveryStep BoardEvent.step Paced (boardInit regions) events)
    (hrest : Resting (run BoardEvent.step (boardInit regions) events)) :
    typedFor receiver (outputs BoardEvent.step (recorded charactersRead)
        (boardInit regions) events) =
      outputs BoardEvent.step (recorded (messagesRead receiver)) (boardInit regions)
        events :=
  (messages_delivered (paced_handoff receiver) regions hpaced).2.2
    ((receiver.caught_at_rest hrest).underWay
      (messageParcels_unsent (by simp [hrest.2.2])))

/-- Along every run in which each message was read before the next is completed,
however the domains interleave: every receiver has read the messages typed for it,
each once and in order, up to one that it has been or will be notified of and that
is in the buffer. -/
theorem board_delivers_typed_messages (regions : BoardRegions) (events : List BoardEvent)
    (hpaced : EveryStep BoardEvent.step Paced (boardInit regions) events)
    (receiver : InputReceiver) :
    let state := run BoardEvent.step (boardInit regions) events
    let codes := outputs BoardEvent.step (recorded charactersRead) (boardInit regions)
      events
    let messages := outputs BoardEvent.step (recorded (messagesRead receiver))
      (boardInit regions) events
    Represents state.memory.parser (run lineNext [] codes) ∧
      (typedFor receiver codes = messages ∨
        destination? state.memory.inputBuffer = some receiver ∧
          typedFor receiver codes = messages ++ [state.memory.inputBuffer]) ∧
      (receiver.Caught state →
        .send receiver.commandinChannel ∉ state.script .commandin →
          typedFor receiver codes = messages) := by
  intro state codes messages
  obtain ⟨hline, hread, hsettled⟩ :=
    messages_delivered (paced_handoff receiver) regions hpaced
  refine ⟨hline, hread.imp_right fun hbuffer => ⟨hbuffer.1.2, hbuffer.2⟩, ?_⟩
  exact fun hcaught hsent => hsettled (hcaught.underWay (messageParcels_unsent hsent))

/-- commandin reads one character. -/
def typing (code : UInt32) : List BoardEvent :=
  [.interrupt (.commandin, LightCh.commandinUartIrq), .wake .commandin,
    .enter .commandin LightCh.commandinUartIrq,
    .advance .commandin { noReading with received := some code }]

/-- `!` is typed, and `C` while faultmg publishes the fault. -/
def faultEvents : List BoardEvent :=
  bootEvents ++ typing 0x21 ++
    [.advance .commandin noReading, .wake .faultmg,
      .enter .faultmg LightCh.faultmgFromCommandin, .advance .faultmg noReading] ++
    typing 0x43 ++ .advance .commandin noReading ::
    List.replicate 12 (.advance .faultmg noReading) ++
    [.wake .faultmg, .enter .faultmg LightCh.faultmgFromCommandin,
      .advance .faultmg noReading]

theorem board_delivers_typed_messages_to_faultmg :
    outputs BoardEvent.step (recorded (messagesRead .faultmg)) (boardInit zeroRegions)
      faultEvents = typedFor .faultmg [0x21, 0x43] := by
  have hcodes : outputs BoardEvent.step (recorded charactersRead) (boardInit zeroRegions)
      faultEvents = [0x21, 0x43] := by
    decide +kernel
  have hdelivered := board_delivers_typed_messages zeroRegions faultEvents
    (by decide +kernel) .faultmg
  simp only [hcodes] at hdelivered
  exact (hdelivered.2.2 (by decide +kernel) (by decide +kernel)).symm

end Delivery

end LightCtrl
