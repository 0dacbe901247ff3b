import LightCtrl.System.OneMachine
import LightCtrl.System.QuietTyping
import LightCtrl.System.Settling

/-!
When the typed text alone decides how the board comes to rest. lightctl reports
what the guard refuses. Where each character waits for the board to rest, and the
ready domain of the highest priority moves, every plan is made for the decision in
force, so nothing is refused unless the text asks for blocked hazard lights.
-/

namespace LightCtrl

open Runs Preemption

section Reports

def ReportOwes (channelEnd : ChannelEnd) : Prop :=
  channelEnd = (.faultmg, LightCh.faultmgFromLightctl)

def ReportPays (domain : ProtectionDomain) (piece : BoardPiece) : Prop :=
  domain = .lightctl ∧ piece = .send LightCh.lightctlToFaultmg ∨
    domain = .faultmg ∧ piece = .notified LightCh.faultmgFromLightctl

/-- No report of lightctl is on its way. -/
def Unreported (state : BoardState) : Prop := ¬ Owed ReportOwes ReportPays state

variable {reading : BoardReading} {memory : BoardMemory} {domain : ProtectionDomain}
  {piece : BoardPiece} {effect : BoardEffect} {state : BoardState}

/-- Only a refused action is reported. -/
theorem outcome_unreported (houtcome : PieceOutcome reading memory domain piece effect)
    (hfree : ¬ ReportPays domain piece) (hallowed : refusal domain piece memory = 0) :
    ¬ effect.Hands board ReportOwes ReportPays domain := by
  have hsent : ∀ domain : ProtectionDomain, ∀ channel ∈ domain.sentChannels,
      channelPeer domain channel = some (.faultmg, LightCh.faultmgFromLightctl) →
        domain = .lightctl ∧ channel = LightCh.lightctlToFaultmg := by
    intro domain
    cases domain <;> decide
  cases houtcome with
  | sent _ channel h =>
      rintro (⟨later, hlater, -⟩ | ⟨sent, hnotified, channelEnd, hpeer, howes⟩)
      · exact absurd hlater List.not_mem_nil
      · obtain rfl := List.mem_singleton.mp hnotified
        subst howes
        obtain ⟨hdomain, hchannel⟩ := hsent domain sent h hpeer
        exact hfree (Or.inl ⟨hdomain, congrArg BoardPiece.send hchannel⟩)
  | allowed lamps action rest _ _ _ =>
      have hchannel : action.channel ≠ LightCh.lightctlToFaultmg := by
        cases action <;> decide
      refine Effect.not_hands_of_quiet rfl ?_
      simp [ReportPays, hchannel]
  | denied lamps action rest hlamps hremaining hpermits =>
      have hdenying := denying_of_refused hlamps hremaining hpermits
      rw [refusal, if_pos ⟨rfl, rfl, hdenying⟩] at hallowed
      exact absurd hallowed (by decide)
  | answered _ _ answer _ _ _ =>
      refine Effect.not_hands_of_quiet rfl ?_
      rintro later - (⟨hdomain, -⟩ | ⟨hdomain, -⟩) <;> cases hdomain
  | _ => exact Effect.not_hands_of_quiet rfl (by simp [ReportPays])

theorem Unreported.step (h : Unreported state)
    (hsound : Sound HandledEnd BoardRuns BoardSafe state) {event : BoardEvent}
    (hallowed : refused state event = 0) : Unreported (BoardEvent.step state event) := by
  by_cases hexternal : ∀ channelEnd, event = .interrupt channelEnd → ¬ ReportOwes channelEnd
  · refine not_owed_step h event hexternal ?_ ?_
    · intro domain channel piece hmember hpays
      obtain rfl := List.mem_singleton.mp hmember
      rcases hpays with ⟨-, hpiece⟩ | ⟨rfl, hpiece⟩
      · cases hpiece
      · cases hpiece
        rfl
    · rintro domain reading piece rest rfl hscript
      have hmember : piece ∈ state.script domain := by simp [hscript]
      have hrefusal : refusal domain piece state.memory = 0 := by
        simpa only [refused, hscript, List.head?_cons, Option.elim_some] using hallowed
      exact outcome_unreported (performPiece_outcome reading
        (hsound.script domain piece hmember) hsound.memory.line hsound.memory.lamps)
        (fun hpays => h (Or.inr ⟨domain, piece, hmember, hpays⟩)) hrefusal
  · push Not at hexternal
    obtain ⟨channelEnd, rfl, rfl⟩ := hexternal
    -- faultmg's end is no interrupt of the system.
    have hnone : BoardEvent.step state
        (.interrupt (.faultmg, LightCh.faultmgFromLightctl)) = state := by
      have hknown : (.faultmg, LightCh.faultmgFromLightctl) ∉ board.external := by
        decide
      simp only [Program.step, if_neg hknown]
    rw [hnone]
    exact h

/-- While no report is on its way, faultmg handles none. -/
theorem Unreported.handled (h : Unreported state) (event : BoardEvent) :
    ∀ entry ∈ recorded requestsHandled state event, reportOf? entry = none := by
  intro entry hentry
  cases event with
  | advance domain reading =>
      cases hscript : state.script domain with
      | nil => simp [recorded, hscript] at hentry
      | cons piece rest =>
          simp only [recorded, hscript, List.head?_cons, Option.elim_some] at hentry
          by_cases hfaultmg : domain = .faultmg ∧ ∃ channel, piece = .notified channel
          · obtain ⟨rfl, channel, rfl⟩ := hfaultmg
            have hchannel : channel ≠ LightCh.faultmgFromLightctl := by
              rintro rfl
              exact h (Or.inr ⟨.faultmg, _, by simp [hscript], Or.inr ⟨rfl, rfl⟩⟩)
            obtain ⟨request, -, rfl⟩ := List.mem_map.mp hentry
            cases request with
            | report errorCode => exact if_neg hchannel
            | clear scope => rfl
          · rw [requestsHandled_elsewhere hfaultmg] at hentry
            exact absurd hentry List.not_mem_nil
  | _ => exact absurd hentry List.not_mem_nil

end Reports

section Refusals

variable {state : BoardState}

/-- Nothing is refused or reported: what is left of a plan was made for the
decision in force. -/
structure NothingRefused (state : BoardState) : Prop where
  kept : DecisionKept state
  loop : state.memory.remaining = [] ∨ Owed (fun _ => False)
    (fun domain piece => domain = .lightctl ∧ piece = .iterate) state
  plan : state.memory.remaining = [] ∨ InputsFinal state ∧ PlanPermitted state.memory
  unreported : Unreported state

theorem nothingRefused_init (regions : BoardRegions) :
    NothingRefused (boardInit regions) where
  kept := decisionKept_run regions []
  loop := Or.inl rfl
  plan := Or.inl rfl
  unreported := by
    rintro (⟨channelEnd, hpending | hwoken, rfl⟩ | ⟨domain, piece, hmember, -⟩)
    · rw [boardInit_pending] at hpending
      exact absurd hpending (by decide)
    · exact absurd hwoken (Finset.notMem_empty _)
    · exact absurd hmember List.not_mem_nil

/-- The step lemma. An interrupt finds no plan left, since the board rests; any other
event refuses nothing and leaves either no plan or one that is permitted. -/
theorem NothingRefused.step (h : NothingRefused state) {event : BoardEvent}
    (hrest : TypedAtRest state event)
    (hrespects : Respects ProtectionDomain.priority state event)
    (hfree : InputsFinal state → ¬ HazardBlocked state.memory.shmem) :
    NothingRefused (BoardEvent.step state event) := by
  have hloop := remaining_kept.step h.kept.sound h.loop event
  have hstep : refused state event = 0 ∧
      ((BoardEvent.step state event).memory.remaining = [] ∨
        InputsFinal (BoardEvent.step state event) ∧
          PlanPermitted (BoardEvent.step state event).memory) := by
    by_cases hinterrupt : ∃ channelEnd, event = .interrupt channelEnd
    · obtain ⟨channelEnd, rfl⟩ := hinterrupt
      have hdone : state.memory.remaining = [] :=
        h.loop.resolve_right (Resting.not_owed hrest)
      have hmemory : (BoardEvent.step state (.interrupt channelEnd)).memory =
          state.memory := by
        simp only [Program.step]
        split_ifs <;> rfl
      rw [hmemory]
      exact ⟨rfl, Or.inl hdone⟩
    · push Not at hinterrupt
      obtain ⟨hoff, hkept⟩ := refused_step h.kept hinterrupt hrespects hfree
      rcases h.plan with hdone | ⟨hfinal, hpermitted⟩
      · rcases hoff with hless | ⟨hzero, hplan⟩
        · rw [hdone, List.length_nil, Nat.le_zero, Nat.add_eq_zero_iff] at hless
          exact ⟨hless.1, Or.inl (List.length_eq_zero_iff.mp hless.2)⟩
        · exact ⟨hzero, Or.inr hplan⟩
      · obtain ⟨hzero, hplan⟩ := hkept hfinal hpermitted
        exact ⟨hzero, Or.inr hplan⟩
  exact ⟨h.kept.step event, hloop, hstep.2, h.unreported.step h.kept.sound hstep.1⟩

/-- The run lemma: faultmg handles no report. -/
theorem NothingRefused.run (h : NothingRefused state) {events : List BoardEvent}
    (hrest : EveryStep BoardEvent.step TypedAtRest state events)
    (hrespects : EveryStep BoardEvent.step (Respects ProtectionDomain.priority) state
      events)
    (hfree : EveryStep BoardEvent.step
      (fun state _ => InputsFinal state → ¬ HazardBlocked state.memory.shmem) state
        events) :
    (outputs BoardEvent.step (recorded requestsHandled) state events).filterMap
      reportOf? = [] := by
  induction events generalizing state with
  | nil => rfl
  | cons event rest ih =>
      have hnow : (recorded requestsHandled state event).filterMap reportOf? = [] :=
        List.filterMap_eq_nil_iff.mpr (h.unreported.handled event)
      have hnext := h.step hrest.1 hrespects.1 hfree.1
      rw [outputs, List.filterMap_append, hnow,
        ih hnext hrest.2 hrespects.2 hfree.2, List.append_nil]

end Refusals

section Text

/-- What a stream of character codes makes of the board's account. -/
def textAccount (codes : List Int) : BoardAccount :=
  run BoardAccount.take boardAccountInit ((typedMessages codes).map .typed)

/-- `HazardBlocked` for the inputs of an account. -/
def BoardAccount.HazardBlocked (account : BoardAccount) : Prop :=
  ignitionOn account.vehicleState = true ∧ hazardActive account.vehicleState = true ∧
    (brakeActive account.operatorRequest account.vehicleState = true ∨
      120 < account.vehicleState.speedKph)

instance (account : BoardAccount) : Decidable account.HazardBlocked :=
  inferInstanceAs (Decidable (_ ∧ _ ∧ _))

/-- Final inputs are those of the text. -/
theorem hazardBlocked_typed {regions : BoardRegions} {events : List BoardEvent}
    (hpaced : EveryStep BoardEvent.step Paced (boardInit regions) events)
    (hfinal : InputsFinal (run BoardEvent.step (boardInit regions) events)) :
    HazardBlocked (run BoardEvent.step (boardInit regions) events).memory.shmem ↔
      (textAccount (outputs BoardEvent.step (recorded charactersRead) (boardInit regions)
        events)).HazardBlocked := by
  have hread : ∀ receiver : InputReceiver,
      InputOwes (receiver.domain, receiver.inputChannel) →
      InputPays receiver.domain (.notified receiver.inputChannel) →
        typedFor receiver (outputs BoardEvent.step (recorded charactersRead)
            (boardInit regions) events) =
          outputs BoardEvent.step (recorded (messagesRead receiver)) (boardInit regions)
            events := by
    intro receiver howes hpays
    have hcaught : receiver.Caught (run BoardEvent.step (boardInit regions) events) :=
      ⟨fun h => hfinal (Or.inl ⟨_, Or.inl h, howes⟩),
        fun h => hfinal (Or.inl ⟨_, Or.inr h, howes⟩),
        fun h => hfinal (Or.inr ⟨_, _, h, hpays⟩)⟩
    have hsent : .send receiver.commandinChannel ∉
        (run BoardEvent.step (boardInit regions) events).script .commandin :=
      fun h => hfinal (Or.inr ⟨.commandin, _, h, Or.inl rfl⟩)
    exact (messages_delivered (paced_handoff receiver) regions hpaced).2.2
      (hcaught.underWay (messageParcels_unsent hsent))
  have hrequest := operatorRequest_of_read
    (hread .scheduler (Or.inr (Or.inr rfl)) (Or.inr (Or.inr ⟨rfl, rfl⟩)))
  have hvehicle := vehicleState_of_read
    (hread .vehicleState (Or.inr (Or.inl rfl)) (Or.inr (Or.inl rfl)))
  rw [LightCtrl.HazardBlocked, hrequest, hvehicle, textAccount, account_parts, filterMap_typed]
  exact Iff.rfl

/-- Along every run in which characters arrive only while the board rests and the
ready domain of the highest priority moves, unless the text asks for blocked hazard
lights at some point: faultmg handles no report, and wherever the board rests, its
inputs, its fault state, the published target and the lamps are decided by the
typed text. -/
theorem board_text_decides (regions : BoardRegions) (events : List BoardEvent)
    (hrest : EveryStep BoardEvent.step TypedAtRest (boardInit regions) events)
    (hrespects : EveryStep BoardEvent.step (Respects ProtectionDomain.priority)
      (boardInit regions) events)
    (hfree : ∀ typed, typed <+: outputs BoardEvent.step (recorded charactersRead)
      (boardInit regions) events → ¬ (textAccount typed).HazardBlocked) :
    let state := run BoardEvent.step (boardInit regions) events
    let account := textAccount (outputs BoardEvent.step (recorded charactersRead)
      (boardInit regions) events)
    (outputs BoardEvent.step (recorded requestsHandled) (boardInit regions)
        events).filterMap reportOf? = [] ∧
      (Resting state → state.memory.account = account ∧
        state.memory.shmem.targetOutput = targetOutputFromState account.target ∧
          state.memory.lightctl.executionState = account.target.wanted.toExecution) := by
  intro state account
  have hpaced := paced_of_typed_at_rest hrest
  have hunblocked : EveryStep BoardEvent.step
      (fun state _ => InputsFinal state → ¬ HazardBlocked state.memory.shmem)
      (boardInit regions) events := by
    refine (everyStep_iff _ events).mpr ?_
    rintro past event rest rfl hfinal hblocked
    have hpast := ((everyStep_append _ _ _).mp hpaced).1
    refine hfree _ ?_ ((hazardBlocked_typed hpast hfinal).mp hblocked)
    rw [outputs_append]
    exact List.prefix_append _ _
  have hnone := (nothingRefused_init regions).run hrest hrespects hunblocked
  refine ⟨hnone, ?_⟩
  intro hidle
  obtain ⟨inputs, hmessages, hreports, hinputs⟩ := account_at_rest hpaced hidle
  have haccount : state.memory.account = account := by
    rw [hinputs, inputs_of_no_report hmessages (hreports.trans hnone)]
    rfl
  have hagrees := resting_agrees regions events hidle
  rw [← haccount]
  exact ⟨rfl, hagrees.targetOutput, hagrees.lamps⟩

theorem board_text_decides_speed :
    (run BoardEvent.step (boardInit zeroRegions) speedEvents).memory.shmem.targetOutput =
      targetOutputFromState (textAccount
        [0x42, 0x73, 0x70, 0x65, 0x65, 0x64, 0x3D, 0x35, 0x30, 0x0D]).target := by
  have hrest : Resting (run BoardEvent.step (boardInit zeroRegions) speedEvents) := by
    decide +kernel
  have hcodes : outputs BoardEvent.step (recorded charactersRead) (boardInit zeroRegions)
      speedEvents = [0x42, 0x73, 0x70, 0x65, 0x65, 0x64, 0x3D, 0x35, 0x30, 0x0D] := by
    decide +kernel
  have hunblocked : ∀ typed ∈ List.inits
      [0x42, 0x73, 0x70, 0x65, 0x65, 0x64, 0x3D, 0x35, 0x30, 0x0D],
        ¬ (textAccount typed).HazardBlocked := by
    decide +kernel
  have hfree : ∀ typed, typed <+: outputs BoardEvent.step (recorded charactersRead)
      (boardInit zeroRegions) speedEvents → ¬ (textAccount typed).HazardBlocked := by
    intro typed htyped
    rw [hcodes] at htyped
    exact hunblocked typed ((List.mem_inits typed _).mpr htyped)
  have hdecides := board_text_decides zeroRegions speedEvents (by decide +kernel)
    (by decide +kernel) hfree
  simp only [hcodes] at hdecides
  exact (hdecides.2 hrest).2.1

end Text

end LightCtrl
