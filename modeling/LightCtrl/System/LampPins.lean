import LightCtrl.Library.Handoff
import LightCtrl.System.Convergence

/-!
What the pins show while the board runs. gpio is above lightctl, so it has
driven the pin of one action before lightctl applies the transition of that action
to its own bytes and looks at the next one of its plan. Until gpio has acted the
pins show the lamps before that action; from then on they show what lightctl's
bytes are with the transition, and at rest the scheduler's decision.
-/

namespace LightCtrl

open Runs Preemption

/-- Whatever is refused on the way, no action lights a lamp while the other one
of its pair is lit. The limits may change between the actions. -/
def LampState.DarkAhead (lamps : LampState) : List GpioAction → Prop
  | [] => True
  | action :: rest =>
      lamps.OtherSideDark action ∧ ∀ limits, (lamps.step limits action).DarkAhead rest

section Plans

variable (lamps : LampState) {rest : List GpioAction}

private theorem darkAhead_position (current target : Bool) :
    lamps.DarkAhead (positionActions current target) := by
  cases current <;> cases target <;> simp [switchActions, LampState.DarkAhead,
    LampState.OtherSideDark]

private theorem darkAhead_beam (target : Selector)
    (hrest : ∀ state : LampState, state.DarkAhead rest) :
    lamps.DarkAhead (beamActions lamps.beam target ++ rest) := by
  obtain ⟨turn, beam, brake, position⟩ := lamps
  cases beam <;> cases target <;>
    simp [selectorActions, LampState.DarkAhead, LampState.OtherSideDark, hrest,
      LampState.step, LampState.permits, LampState.perform]

private theorem darkAhead_turn (target : Selector)
    (hrest : ∀ state : LampState, state.beam = lamps.beam → state.DarkAhead rest) :
    lamps.DarkAhead (turnActions lamps.turn target ++ rest) := by
  have hstep : ∀ (state : LampState) (limits : Limits) (action : GpioAction),
      action ∈ [GpioAction.turnLeftOn, .turnLeftOff, .turnRightOn, .turnRightOff] →
        (state.step limits action).beam = state.beam := by
    intro state limits action haction
    simp only [List.mem_cons, List.not_mem_nil, or_false] at haction
    rcases haction with rfl | rfl | rfl | rfl <;>
      simp only [LampState.step, LampState.perform] <;> split_ifs <;> rfl
  obtain ⟨turn, beam, brake, position⟩ := lamps
  have hleft : ∀ limits, (LampState.step limits ⟨.first, beam, brake, position⟩
      .turnLeftOff).turn = .off := fun _ => rfl
  have hright : ∀ limits, (LampState.step limits ⟨.second, beam, brake, position⟩
      .turnRightOff).turn = .off := fun _ => rfl
  cases turn <;> cases target <;>
    simp [selectorActions, LampState.DarkAhead, LampState.OtherSideDark, hrest, hstep,
      hleft, hright]

private theorem darkAhead_brake (current target : Bool)
    (hrest : ∀ state : LampState, state.turn = lamps.turn → state.beam = lamps.beam →
      state.DarkAhead rest) :
    lamps.DarkAhead (brakeActions current target ++ rest) := by
  cases current <;> cases target <;>
    simp [switchActions, LampState.DarkAhead, LampState.OtherSideDark, hrest,
      LampState.step, LampState.permits, LampState.perform]

/-- A plan is dark ahead from the lamps it was made for. -/
theorem LampState.plan_darkAhead (wanted : LampState) :
    lamps.DarkAhead (lamps.plan wanted) := by
  refine darkAhead_brake lamps _ _ ?_
  rintro afterBrake hturn hbeam
  rw [← hturn]
  refine darkAhead_turn afterBrake _ ?_
  intro afterTurn hsame
  rw [← hbeam, ← hsame]
  refine darkAhead_beam afterTurn _ ?_
  exact fun afterBeam => darkAhead_position afterBeam _ _

end Plans

section Handing

/-- No flag of init carries an item. -/
theorem boardInit_handedOver {α ι : Type*}
    {parcels : Parcels ProtectionDomain MicrokitChannel BoardPiece α}
    {related : List ι → BoardMemory → Option α → Prop} {regions : BoardRegions}
    (hflags : ∀ channelEnd ∈ (boardInit regions).pending, parcels.flag channelEnd = none)
    (hrelated : related [] (boardInit regions).memory none) :
    HandedOver parcels related [] (boardInit regions) := by
  refine ⟨fun _ hlater => absurd hlater List.not_mem_nil, none, ?_, hrelated⟩
  have hpending : ∀ channelEnd ∈ (boardInit regions).pending,
      weigh (parcels.flag channelEnd) = 0 := by
    intro channelEnd hmember
    rw [hflags channelEnd hmember]
    rfl
  rw [Parcels.underWay, tally, Finset.sum_eq_zero hpending]
  simp [boardInit, weigh]

/-- A notification passes on what it carries, if its flag carries the same. -/
theorem sent_passes {α ι : Type*}
    {parcels : Parcels ProtectionDomain MicrokitChannel BoardPiece α}
    {related : List ι → BoardMemory → Option α → Prop} {memory : BoardMemory}
    {mayHand : Prop} {domain : ProtectionDomain} {channel : MicrokitChannel}
    (hsent : channel ∈ domain.sentChannels)
    (hsame : (channelPeer domain channel).elim none parcels.flag =
      parcels.piece domain (.send channel)) :
    parcels.Moves board related mayHand memory [] domain (.send channel)
      ⟨memory, [channel], []⟩ := by
  obtain ⟨channelEnd, hpeer, -, -⟩ := sent_channel_connected domain channel hsent
  rw [hpeer] at hsame
  refine .passes ((Parcels.passedOn_sent hpeer).trans (congrArg weigh hsame)) ?_
  intro past item hrelated
  rw [List.append_nil]
  exact hrelated

end Handing

section Delivery

/-- The actions lightctl hands to gpio. -/
def gpioParcels : Parcels ProtectionDomain MicrokitChannel BoardPiece GpioAction where
  sender := .lightctl
  receiver := .gpio
  flag := fun channelEnd =>
    if channelEnd.1 = .gpio then GpioAction.ofChannel? channelEnd.2 else none
  piece := fun domain piece =>
    match piece with
    | .send channel =>
        if domain = .lightctl then GpioAction.ofChannel? channel else none
    | .notified channel =>
        if domain = .gpio then GpioAction.ofChannel? channel else none
    | _ => none

/-- The log flags of gpio agree with its pins. -/
structure FlagsMirror (gpio : GpioMemory) : Prop where
  low : gpio.outputLowBeam = gpio.gpioOut.getLsbD pinLowBeam
  high : gpio.outputHighBeam = gpio.gpioOut.getLsbD pinHighBeam
  left : gpio.outputTurnLeft = gpio.gpioOut.getLsbD pinTurnLeft
  right : gpio.outputTurnRight = gpio.gpioOut.getLsbD pinTurnRight
  brake : gpio.outputBrake = gpio.gpioOut.getLsbD pinBrake
  position : gpio.outputPosition = gpio.gpioOut.getLsbD pinPosition

theorem FlagsMirror.action {gpio : GpioMemory} (h : FlagsMirror gpio)
    (action : GpioAction) : FlagsMirror (gpioHandleAction gpio action) := by
  obtain ⟨hlow, hhigh, hleft, hright, hbrake, hposition⟩ := h
  have hpin := gpioActionPin_lt action
  have hbit : ∀ bit, (gpioHandleAction gpio action).gpioOut.getLsbD bit =
      if bit = gpioActionPin action then action.level
      else gpio.gpioOut.getLsbD bit := by
    intro bit
    rw [gpioHandleAction_gpioOut, getLsbD_gpioSetPin _ (by omega)]
  constructor <;> rw [hbit] <;> cases action <;> first | rfl | assumption

/-- Driving the pin of an action shows the lamps after it. -/
theorem PinsShow.action {lamps : LampState} {gpio : GpioMemory}
    (h : PinsShow lamps gpio.gpioOut) {action : GpioAction}
    (hdark : lamps.OtherSideDark action) :
    PinsShow (lamps.perform action) (gpioHandleAction gpio action).gpioOut := by
  intro pin hpin
  have hlow := gpioActionPin_lt action
  rw [gpioHandleAction_gpioOut, getLsbD_gpioSetPin _ (by omega), perform_lit hdark pin hpin,
    h pin hpin]

/-- The lamps lightctl stands at, which the pins show up to the action under
way. -/
structure LampsUnderWay (initialOut : BitVec 32) (memory : BoardMemory)
    (item : Option GpioAction) (shown : LampState) : Prop where
  pins : PinsShow shown memory.gpio.gpioOut
  dark : ∀ action ∈ item, shown.OtherSideDark action
  execution : memory.execution = (item.elim shown shown.perform).toExecution
  ahead : (item.elim shown shown.perform).DarkAhead memory.remaining
  mirror : FlagsMirror memory.gpio
  other : ∀ bit, 6 ≤ bit → memory.gpio.gpioOut.getLsbD bit = initialOut.getLsbD bit

def lampsRelated (initialOut : BitVec 32) (_ : List Unit) (memory : BoardMemory)
    (item : Option GpioAction) : Prop :=
  ∃ shown, LampsUnderWay initialOut memory item shown

variable {initialOut : BitVec 32} {memory next : BoardMemory}

theorem lampsRelated_of_same {past more : List Unit} {item : Option GpioAction}
    (h : lampsRelated initialOut past memory item)
    (hgpio : next.gpio.gpioOut = memory.gpio.gpioOut) (hmirror : FlagsMirror memory.gpio →
      FlagsMirror next.gpio)
    (hexecution : next.execution = memory.execution)
    (hremaining : next.remaining = memory.remaining) :
    lampsRelated initialOut more next item := by
  obtain ⟨shown, h⟩ := h
  exact ⟨shown, hgpio.symm ▸ h.pins, h.dark, hexecution.trans h.execution,
    hremaining.symm ▸ h.ahead, hmirror h.mirror, hgpio.symm ▸ h.other⟩

/-- What each piece of the board does to the actions under way. -/
theorem gpio_moves {reading : BoardReading} {domain : ProtectionDomain}
    {piece : BoardPiece} {effect : BoardEffect}
    (houtcome : PieceOutcome reading memory domain piece effect) :
    gpioParcels.Moves board (lampsRelated initialOut) True memory [] domain piece
      effect := by
  have hsent : ∀ domain : ProtectionDomain, ∀ channel ∈ domain.sentChannels,
      (channelPeer domain channel).elim none gpioParcels.flag =
        gpioParcels.piece domain (.send channel) := by
    intro domain
    cases domain <;> decide
  have hchannel : ∀ action : GpioAction,
      GpioAction.ofChannel? action.channel = some action := by
    intro action
    cases action <;> rfl
  cases houtcome with
  | sent _ channel h => exact sent_passes h (hsent domain channel h)
  | actuated action =>
      refine .takes action (hchannel action) rfl ?_
      rintro past ⟨shown, h⟩
      have hdark := h.dark action rfl
      refine ⟨shown.perform action, h.pins.action hdark, fun _ hnone => (nomatch hnone),
        h.execution, h.ahead, h.mirror.action action, ?_⟩
      intro bit hbit
      have hlow := gpioActionPin_lt action
      rw [gpioHandleAction_gpioOut, getLsbD_gpioSetPin _ (by omega), if_neg (by omega)]
      exact h.other bit hbit
  | planned lamps hlamps =>
      refine .passes rfl ?_
      rintro past item ⟨shown, h⟩
      have hsame := LampState.toExecution_injective (hlamps.symm.trans h.execution)
      refine ⟨shown, h.pins, h.dark, congrArg LampState.toExecution hsame, ?_, h.mirror,
        h.other⟩
      rw [← hsame]
      exact lamps.plan_darkAhead _
  | ended lamps hlamps _ =>
      exact .passes rfl fun past item hrelated =>
        lampsRelated_of_same hrelated rfl id hlamps.symm rfl
  | allowed lamps action rest hlamps hremaining hpermits =>
      refine .hands (some action) rfl trivial rfl ?_ ?_
      · rw [Parcels.passedOn_quiet rfl]
        simp [gpioParcels, hchannel, weigh]
      · rintro past ⟨shown, h⟩
        obtain rfl := LampState.toExecution_injective (hlamps.symm.trans h.execution)
        have hahead : lamps.DarkAhead memory.remaining := h.ahead
        rw [hremaining] at hahead
        have hstep := hahead.2 memory.limits
        rw [LampState.step, if_pos hpermits] at hstep
        refine ⟨lamps, h.pins, ?_, transition_toExecution lamps action, hstep, h.mirror,
          h.other⟩
        intro other hother
        obtain rfl := Option.some.inj hother
        exact hahead.1
  | denied lamps action rest hlamps hremaining hpermits =>
      refine .hands none rfl trivial rfl rfl ?_
      rintro past ⟨shown, h⟩
      obtain rfl := LampState.toExecution_injective (hlamps.symm.trans h.execution)
      have hahead : lamps.DarkAhead memory.remaining := h.ahead
      rw [hremaining] at hahead
      have hstep := hahead.2 memory.limits
      rw [LampState.step, hpermits] at hstep
      exact ⟨lamps, h.pins, h.dark, rfl, hstep, h.mirror, h.other⟩
  | modeRead =>
      exact .passes rfl fun past item hrelated =>
        lampsRelated_of_same hrelated rfl (fun h => ⟨h.1, h.2, h.3, h.4, h.5, h.6⟩) rfl rfl
  | answered typed parser answer _ _ hanswer =>
      refine .passes ?_ fun past item hrelated =>
        lampsRelated_of_same hrelated rfl id rfl rfl
      rw [Parcels.passedOn_quiet rfl]
      refine List.sum_eq_zero ?_
      intro weight hweight
      obtain ⟨piece, hpiece, rfl⟩ := List.mem_map.mp hweight
      obtain ⟨channel, -, rfl⟩ := List.mem_map.mp hpiece
      rfl
  | _ =>
      exact .passes rfl fun past item hrelated =>
        lampsRelated_of_same hrelated rfl id rfl rfl

theorem gpio_confined : Confined gpioParcels where
  flags := fun _ hother => if_neg hother
  pieces := by
    intro domain hsender hreceiver piece
    cases piece with
    | send channel => exact if_neg hsender
    | notified channel => exact if_neg hreceiver
    | publish stores => rfl
    | iterate => rfl

/-- lightctl hands its actions to gpio one at a time. -/
theorem gpio_handoff (initialOut : BitVec 32) :
    Handoff board (Respects ProtectionDomain.priority) (fun _ _ _ => True) HandledEnd
      BoardRuns BoardSafe gpioParcels (fun _ _ _ _ => []) (lampsRelated initialOut) where
  ready := fun hscript _ hempty hrespects =>
    gpio_confined.ready_of_above (by decide) hscript hempty hrespects
  external := by decide
  entry := by
    intro domain channel _
    simp only [board, List.map_cons, List.map_nil, List.sum_singleton]
    rfl
  entryTail := fun _ _ hlater => absurd hlater List.not_mem_nil
  nextTail := by
    intro piece reading memory hruns hsafe
    have houtcome := performPiece_outcome reading hruns hsafe.line hsafe.lamps
    simp only [board]
    generalize performPiece gpioParcels.sender piece reading memory = effect at houtcome ⊢
    generalize hdomain : gpioParcels.sender = domain at houtcome
    cases houtcome with
    | allowed _ _ _ _ _ _ => simp [gpioParcels]
    | denied _ _ _ _ _ _ => simp [gpioParcels]
    | _ => first | exact absurd hdomain (by decide) | simp
  perform := fun _ _ reading _ hruns hsafe =>
    gpio_moves (performPiece_outcome reading hruns hsafe.line hsafe.lamps)

end Delivery

section Pins

variable {regions : BoardRegions}

theorem lampsRelated_init (hoff : ∀ pin < 6, regions.gpioOut.getLsbD pin = false) :
    lampsRelated regions.gpioOut [] (boardInit regions).memory none := by
  refine ⟨lampsOff, ?_, fun _ hnone => (nomatch hnone), rfl, trivial, ?_, fun _ _ => rfl⟩
  · intro pin hpin
    have hdark : lampsOff.lit pin = false := by
      interval_cases pin <;> rfl
    rw [hdark]
    exact hoff pin hpin
  · constructor <;> exact (hoff _ (by decide)).symm

/-- Both turn lamps or both beams are never driven together, the log flags tell
the pins, and the other bits stay. Whenever gpio is idle with no action on its way
the pins are lightctl's bytes, with the transition that lightctl has still to apply
if it stands between the notification and that; so outside of its handler they are
lightctl's bytes. At rest they show the scheduler's decision, unless it asks for
both turn lamps. -/
theorem board_pins_follow (regions : BoardRegions)
    (hoff : ∀ pin < 6, regions.gpioOut.getLsbD pin = false) (events : List BoardEvent)
    (hrespects : EveryStep BoardEvent.step (Respects ProtectionDomain.priority)
      (boardInit regions) events) :
    let state := run BoardEvent.step (boardInit regions) events
    let gpioOut := state.memory.gpio.gpioOut
    (∃ shown, PinsShow shown gpioOut) ∧ FlagsMirror state.memory.gpio ∧
      (∀ bit, 6 ≤ bit → gpioOut.getLsbD bit = regions.gpioOut.getLsbD bit) ∧
      (Idle state .gpio →
        (∀ action : GpioAction, .send action.channel ∉ state.script .lightctl) →
          PinsFollow state.memory.execution gpioOut ∧
            (state.script .lightctl = [] →
              PinsFollow state.memory.lightctl.executionState gpioOut)) ∧
      (Resting state → (PinsRealise gpioOut state.memory.shmem.targetOutput ↔
        ¬ HazardRequested state.memory.shmem.vehicleState
          state.memory.faultmg.faultState.mode)) := by
  intro state gpioOut
  have hflags : ∀ channelEnd ∈ (boardInit regions).pending,
      gpioParcels.flag channelEnd = none := by
    rw [boardInit_pending]
    decide
  have hover := (gpio_handoff regions.gpioOut).run board_closed
    (boardInit_sound regions)
    (boardInit_handedOver hflags (lampsRelated_init hoff)) events hrespects
  have hfollow : Idle state .gpio →
      (∀ action : GpioAction, .send action.channel ∉ state.script .lightctl) →
        PinsFollow state.memory.execution gpioOut := by
    intro hidle hnone
    obtain ⟨shown, h⟩ := hover.settled (gpio_confined.underWay_eq_zero hidle (by
      intro piece hpiece
      cases piece with
      | send channel =>
          cases hfound : GpioAction.ofChannel? channel with
          | none => exact hfound
          | some action =>
              rw [← GpioAction.channel_of_ofChannel? hfound] at hpiece
              exact absurd hpiece (hnone action)
      | notified channel => rfl
      | publish stores => rfl
      | iterate => rfl))
    have hexecution : state.memory.execution = shown.toExecution := h.execution
    rw [hexecution, pinsFollow_iff]
    exact h.pins
  have happlied : state.script .lightctl = [] →
      state.memory.execution = state.memory.lightctl.executionState := fun hfree =>
    BoardMemory.execution_of_none (kept_outside_loop triggered_kept rfl hfree)
  have hany := hover
  obtain ⟨-, item, -, shown, h⟩ := hany
  refine ⟨⟨shown, h.pins⟩, h.mirror, h.other, ?_, ?_⟩
  · intro hidle hnone
    have hpins := hfollow hidle hnone
    exact ⟨hpins, fun hfree => happlied hfree ▸ hpins⟩
  · intro hrest
    have hagrees := resting_agrees regions events hrest
    have hidle : Idle state .gpio :=
      ⟨hrest.2.2 _, by simp [hrest.1], by simp [hrest.2.1]⟩
    have hpins := hfollow hidle fun action => by simp [hrest.2.2 .lightctl]
    rw [happlied (hrest.2.2 .lightctl), hagrees.lamps, pinsFollow_iff] at hpins
    rw [hagrees.targetOutput, ← arbitrated_both_turns_iff]
    exact pinsRealise_iff hpins (arbitratedState_beam_exclusive _ _ _)

/-- After the boot run the pins realise the first decision. -/
theorem board_pins_follow_after_boot :
    let memory := (run BoardEvent.step (boardInit zeroRegions) bootEvents).memory
    PinsRealise memory.gpio.gpioOut memory.shmem.targetOutput := by
  have hpins := board_pins_follow zeroRegions (fun _ _ => BitVec.getLsbD_zero) bootEvents
    bootEvents_respects
  exact (hpins.2.2.2.2 bootEvents_resting).mpr (by decide +kernel)

end Pins

end LightCtrl
