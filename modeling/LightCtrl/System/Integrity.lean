import LightCtrl.Fault.Ranges
import LightCtrl.Requests.VehicleWrites
import LightCtrl.System.Pieces

/-!
What holds on the whole board at every point of every run, whichever domain
moves next: which ends are flagged and which channels notified, and what the
regions and statics may contain. Both are closed under every piece of every
handler, so one induction gives them for all interleavings.
-/

namespace LightCtrl

open Runs Preemption

def HandledEnd (channelEnd : ChannelEnd) : Prop :=
  channelEnd.2 ∈ channelEnd.1.handledChannels

instance (channelEnd : ChannelEnd) : Decidable (HandledEnd channelEnd) :=
  inferInstanceAs (Decidable (_ ∈ _))

/-- Every channel a domain notifies is connected, to an end that is handled
and whose own other end is the sender. -/
theorem sent_channel_connected : ∀ domain : ProtectionDomain,
    ∀ channel ∈ domain.sentChannels, ∃ channelEnd : ChannelEnd,
      channelPeer domain channel = some channelEnd ∧ HandledEnd channelEnd ∧
        channelPeer channelEnd.1 channelEnd.2 = some (domain, channel) := by
  have hall : ∀ domain : ProtectionDomain, ∀ channel ∈ domain.sentChannels,
      (channelPeer domain channel).any (fun channelEnd =>
        HandledEnd channelEnd ∧
          channelPeer channelEnd.1 channelEnd.2 = some (domain, channel)) = true := by
    intro domain
    cases domain <;> decide
  intro domain channel hsent
  obtain ⟨channelEnd, hpeer, hhandled⟩ :=
    (Option.any_eq_true _ _).mp (hall domain channel hsent)
  exact ⟨channelEnd, hpeer, of_decide_eq_true hhandled⟩

/-- What the regions and statics contain at every point. -/
structure BoardSafe (memory : BoardMemory) : Prop where
  line : ∃ typed, Represents memory.parser typed
  layout : memory.shmem.layoutVersion = lightSharedStateLayoutCurrent
  fault : FaultInRange memory.faultmg
  published : PublishedInRange memory.shmem
  vehicle : VehicleInRange memory.shmem.vehicleState
  turns : memory.shmem.operatorRequest.leftTurnReq = 0 ∨
    memory.shmem.operatorRequest.rightTurnReq = 0
  allowFlags : memory.shmem.allowFlags =
    lightTargetOutputToAllowFlags memory.shmem.targetOutput
  lamps : ∃ lamps : LampState, memory.lightctl.executionState = lamps.toExecution
  cache : memory.lightctl.faultModeCache ≤ FaultMode.safeMode.toByte

/-- One store puts one field into its range. -/
theorem FaultStore.perform_inRange {memory : FaultmgMemory}
    (hfault : FaultInRange memory) (h : PublishedInRange memory.shmem)
    (store : FaultStore) : PublishedInRange (store.perform memory).shmem := by
  obtain ⟨hticks, helapsed⟩ := hfault.progress
  cases store with
  | mode => exact { h with mode := FaultMode.toByte_le _ }
  | lifecycle => exact { h with lifecycle := LightFaultLifecycle.toByte_le _ }
  | recoveryTicks => exact { h with recoveryTicks := hticks }
  | recoveryElapsedMs => exact { h with recoveryElapsedMs := helapsed }
  | recoveryWindowMs => exact ⟨h.1, h.2, h.3, h.4, h.5⟩
  | activeFaultMask => exact { h with activeFaultMask := hfault.mask }
  | lastFaultCode => exact ⟨h.1, h.2, h.3, h.4, h.5⟩
  | totalFaultCount => exact ⟨h.1, h.2, h.3, h.4, h.5⟩
  | transport => exact h

/-- The stores of faultmg touch no field of the other domains. -/
theorem FaultStore.perform_frame (memory : FaultmgMemory) (store : FaultStore) :
    (store.perform memory).shmem.layoutVersion = memory.shmem.layoutVersion ∧
      (store.perform memory).shmem.vehicleState = memory.shmem.vehicleState ∧
      (store.perform memory).shmem.operatorRequest = memory.shmem.operatorRequest ∧
      (store.perform memory).shmem.targetOutput = memory.shmem.targetOutput ∧
      (store.perform memory).shmem.allowFlags = memory.shmem.allowFlags ∧
      (store.perform memory).shmem.vehicleSpeed = memory.shmem.vehicleSpeed := by
  cases store <;> exact ⟨rfl, rfl, rfl, rfl, rfl, rfl⟩

theorem performPiece_safe {memory : BoardMemory} (h : BoardSafe memory)
    {domain : ProtectionDomain} {piece : BoardPiece} (hruns : BoardRuns domain piece)
    (reading : BoardReading) :
    BoardSafe (performPiece domain piece reading memory).memory := by
  have houtcome := performPiece_outcome reading hruns h.line h.lamps
  generalize performPiece domain piece reading memory = effect at houtcome ⊢
  cases houtcome with
  | sent _ _ _ => exact h
  | commandIgnored => exact h
  | recomputed channel request uartCmd hrequest =>
      have hturns : request.leftTurnReq = 0 ∨ request.rightTurnReq = 0 := by
        rcases hrequest with rfl | ⟨-, rfl⟩
        · exact h.turns
        · exact operatorStep_turn_exclusive _ _ h.turns
      obtain ⟨hmode, hlifecycle, hticks, helapsed, hmask⟩ := h.published
      exact ⟨h.line, h.layout, ⟨h.fault.clock, h.fault.mask, h.fault.total⟩,
        ⟨hmode, hlifecycle, hticks, helapsed, hmask⟩, h.vehicle, hturns, rfl, h.lamps,
        h.cache⟩
  | modeRead =>
      exact ⟨h.line, h.layout, h.fault, h.published, h.vehicle, h.turns, h.allowFlags,
        h.lamps, h.cache⟩
  | actuated action =>
      exact ⟨h.line, h.layout, h.fault, h.published, h.vehicle, h.turns, h.allowFlags,
        h.lamps, h.cache⟩
  | planned lamps _ =>
      exact ⟨h.line, h.layout, h.fault, h.published, h.vehicle, h.turns, h.allowFlags,
        ⟨lamps, rfl⟩, h.published.mode⟩
  | ended lamps _ _ =>
      exact ⟨h.line, h.layout, h.fault, h.published, h.vehicle, h.turns, h.allowFlags,
        ⟨lamps, rfl⟩, h.cache⟩
  | allowed lamps action rest _ _ _ =>
      exact ⟨h.line, h.layout, h.fault, h.published, h.vehicle, h.turns, h.allowFlags,
        ⟨lamps, rfl⟩, h.cache⟩
  | denied lamps action rest _ _ _ =>
      exact ⟨h.line, h.layout, h.fault, h.published, h.vehicle, h.turns, h.allowFlags,
        ⟨lamps, rfl⟩, h.cache⟩
  | answered typed parser answer _ hafter hanswer =>
      have hparser : answer.parser = parser := by
        rw [hanswer]
        exact parser_consoleAnswer _ _ _
      exact ⟨⟨_, hparser.symm ▸ hafter⟩, h.layout, h.fault, h.published, h.vehicle,
        h.turns, h.allowFlags, h.lamps, h.cache⟩
  | requestIgnored => exact h
  | requestHandled channel request _ =>
      have hfault := faultInRange_step h.fault request
      exact ⟨h.line, h.layout, ⟨hfault.clock, hfault.mask, hfault.total⟩, h.published,
        h.vehicle, h.turns, h.allowFlags, h.lamps, h.cache⟩
  | stored store rest =>
      obtain ⟨hlayout, hvehicle, hrequest, htarget, hflags, -⟩ :=
        store.perform_frame memory.faultmg
      exact ⟨h.line, hlayout.trans h.layout,
        ⟨h.fault.clock, h.fault.mask, h.fault.total⟩,
        store.perform_inRange h.fault h.published, hvehicle.symm ▸ h.vehicle,
        hrequest.symm ▸ h.turns, (hflags.trans h.allowFlags).trans
          (congrArg lightTargetOutputToAllowFlags htarget.symm), h.lamps, h.cache⟩
  | published => exact h
  | vehicleIgnored => exact h
  | vehicleStored =>
      obtain ⟨hmode, hlifecycle, hticks, helapsed, hmask⟩ := h.published
      exact ⟨h.line, h.layout, ⟨h.fault.clock, h.fault.mask, h.fault.total⟩,
        ⟨hmode, hlifecycle, hticks, helapsed, hmask⟩,
        vehicleStep_inRange _ _ h.vehicle, h.turns, h.allowFlags, h.lamps, h.cache⟩

/-- commandin notifies at most one of its three receivers. -/
theorem consoleAnswer_notified (shmem : LightShmem) (parser : LightTransportParser)
    (answer : Option LightTransportMessage) :
    (consoleAnswer shmem parser answer).notified = [] ∨
      ∃ channel ∈ ProtectionDomain.commandin.sentChannels,
        (consoleAnswer shmem parser answer).notified = [channel] := by
  cases answer with
  | none => exact Or.inl rfl
  | some message =>
      rw [consoleAnswer]
      split_ifs with hroute
      · exact Or.inl rfl
      · simp only [dispatchTransportMessage, ProtectionDomain.sentChannels]
        split_ifs
        · exact Or.inl rfl
        · cases lightTransportRouteForMessage message <;> simp

theorem performPiece_next {memory : BoardMemory} (h : BoardSafe memory)
    {domain : ProtectionDomain} {piece : BoardPiece} (hruns : BoardRuns domain piece)
    (reading : BoardReading) :
    ∀ later ∈ (performPiece domain piece reading memory).next,
      BoardRuns domain later := by
  have houtcome := performPiece_outcome reading hruns h.line h.lamps
  generalize performPiece domain piece reading memory = effect at houtcome ⊢
  cases houtcome with
  | allowed _ action _ _ _ _ =>
      intro later hlater
      rcases List.mem_pair.mp hlater with rfl | rfl
      · exact List.mem_cons_of_mem _ (List.mem_map_of_mem (mem_gpioActions action))
      · rfl
  | answered _ _ answer _ _ hanswer =>
      intro later hlater
      obtain ⟨channel, hsent, rfl⟩ := List.mem_map.mp hlater
      rw [hanswer] at hsent
      rcases consoleAnswer_notified memory.shmem _ _ with hnone | ⟨receiver, hknown, hone⟩
      · rw [hnone] at hsent
        exact absurd hsent List.not_mem_nil
      · rw [hone] at hsent
        obtain rfl := List.mem_singleton.mp hsent
        exact hknown
  | _ => simp [BoardRuns, ProtectionDomain.sentChannels]

/-- The board never leaves its handled ends, its pieces and its safe memory. -/
theorem board_closed : Closed board HandledEnd BoardRuns BoardSafe where
  external := by decide
  entry := by
    intro domain channel hhandled piece hpiece
    obtain rfl := List.mem_singleton.mp hpiece
    exact hhandled
  memory := fun _ _ reading _ hruns hsafe => performPiece_safe hsafe hruns reading
  next := fun _ _ reading _ hruns hsafe => performPiece_next hsafe hruns reading
  notified := by
    intro domain piece reading memory hruns hsafe channel hnotified
    have hsent : channel ∈ domain.sentChannels := by
      simp only [board, performPiece_notified] at hnotified
      cases piece with
      | send sent =>
          obtain rfl := List.mem_singleton.mp hnotified
          exact hruns
      | notified _ => cases hnotified
      | publish _ => cases hnotified
      | iterate => cases hnotified
    obtain ⟨channelEnd, hpeer, hhandled, -⟩ := sent_channel_connected domain channel hsent
    exact ⟨channelEnd, hpeer, hhandled⟩

theorem boardInit_pending (regions : BoardRegions) :
    (boardInit regions).pending =
      {(.scheduler, LightCh.schedulerFromVehicleState),
        (.gpio, LightCh.gpioFromFaultmg),
        (.scheduler, LightCh.schedulerFromFaultmg)} := by
  have hpending : (boardInit regions).pending =
      board.targets .vehicleState [LightCh.vehicleStateToScheduler] ∪
        board.targets .faultmg [LightCh.faultmgToGpio, LightCh.faultmgToScheduler] := rfl
  rw [hpending]
  decide

/-- init leaves commandin outside of a line. -/
theorem boardInit_line (regions : BoardRegions) :
    Represents (boardInit regions).memory.parser [] := by
  obtain ⟨next, hreset, hnext⟩ := parserReset_represents regions.parser
  have hinit : commandinInit regions.digits regions.parser =
      some ⟨next, none, uartPutStr (callsText emitReadyLine), []⟩ := by
    rw [commandinInit, lightTransportParserInit, hreset, emitCalls_eq]
    rfl
  have hline : (boardInit regions).memory.parser = next := by
    simp only [boardInit, hinit, Option.getD_some]
  exact hline.symm ▸ hnext

theorem boardInit_safe (regions : BoardRegions) :
    BoardSafe (boardInit regions).memory := by
  have hfault : FaultInRange (boardInit regions).memory.faultmg := faultInRange_init _ _
  exact ⟨⟨[], boardInit_line regions⟩, rfl, hfault,
    ⟨FaultMode.toByte_le _, LightFaultLifecycle.toByte_le _, hfault.progress.1,
      hfault.progress.2, hfault.mask⟩,
    vehicleInRange_default, Or.inl rfl, rfl, ⟨lampsOff, rfl⟩, FaultMode.toByte_le _⟩

theorem boardInit_sound (regions : BoardRegions) :
    Sound HandledEnd BoardRuns BoardSafe (boardInit regions) where
  memory := boardInit_safe regions
  pending := by
    rw [boardInit_pending]
    decide
  woken := fun _ hwoken => absurd hwoken (Finset.notMem_empty _)
  script := fun _ _ hpiece => absurd hpiece List.not_mem_nil

theorem board_sound (regions : BoardRegions) (events : List BoardEvent) :
    Sound HandledEnd BoardRuns BoardSafe
      (run BoardEvent.step (boardInit regions) events) :=
  board_closed.run (boardInit_sound regions) events

/-- Whatever the regions held before init and however the domains interleave:
the shared memory passes its contract check, also in the middle of a
publication, so the console reports OK; the vehicle state is in range; no call
of commandin's handler leaves an array; the published flag word is that of the
target; and lightctl's execution state never has both lamps of a pair lit. -/
theorem board_stays_within_contract (regions : BoardRegions)
    (events : List BoardEvent) :
    let memory := (run BoardEvent.step (boardInit regions) events).memory
    (lightContractCheckSharedState (some memory.shmem)).status = .ok ∧
      sharedStateContractName memory.shmem = cText "OK" ∧
      VehicleInRange memory.shmem.vehicleState ∧
      (∀ channel received digits, (commandinNotified channel received digits
        memory.shmem memory.parser).isSome = true) ∧
      memory.shmem.allowFlags =
        lightTargetOutputToAllowFlags memory.shmem.targetOutput ∧
      ∃ lamps : LampState, memory.lightctl.executionState = lamps.toExecution := by
  intro memory
  have h : BoardSafe memory := (board_sound regions events).memory
  have hcheck := (shared_state_check_ok_iff memory.shmem).mpr ⟨h.layout, h.published⟩
  refine ⟨hcheck, ?_, h.vehicle, ?_, h.allowFlags, h.lamps⟩
  · rw [sharedStateContractName_eq, hcheck]
    rfl
  · intro channel received digits
    by_cases hchannel : channel = LightCh.commandinUartIrq
    · obtain ⟨typed, htyped⟩ := h.line
      obtain ⟨next, -, hanswer⟩ :=
        commandinNotified_represents htyped received digits memory.shmem
      rw [hchannel, hanswer]
      rfl
    · rw [commandinNotified, if_neg hchannel]
      rfl

/-- The channels the contract knows are the identifiers of the system
description. -/
theorem channelIsKnown_iff (channel : UInt32) :
    lightContractChannelIsKnown channel = true ↔
      ∃ channelEnd ∈ channelEnds, channelEnd.2 = channel.toNat := by
  have hknown : ∀ known ∈ knownChannels, ∃ channelEnd ∈ channelEnds,
      channelEnd.2 = known := by decide
  have hends : ∀ channelEnd ∈ channelEnds, channelEnd.2 ∈ knownChannels := by decide
  rw [lightContractChannelIsKnown, List.contains_iff_mem]
  constructor
  · exact hknown channel.toNat
  · rintro ⟨channelEnd, hend, hsame⟩
    exact hsame ▸ hends channelEnd hend

/-- A handled end is an end of the system description with a known channel. -/
theorem HandledEnd.known {channelEnd : ChannelEnd} (h : HandledEnd channelEnd) :
    lightContractChannelIsKnown (UInt32.ofNat channelEnd.2) = true := by
  obtain ⟨domain, channel⟩ := channelEnd
  have hall : ∀ handled ∈ domain.handledChannels,
      (domain, handled) ∈ channelEnds ∧ (UInt32.ofNat handled).toNat = handled := by
    cases domain <;> decide
  obtain ⟨hend, hnumber⟩ := hall channel h
  exact (channelIsKnown_iff _).mpr ⟨_, hend, hnumber.symm⟩

/-- Along every run every flag is at an end whose domain has a branch for it
and whose channel the contract knows, so no handler ever takes its branch for
an unknown channel; and every notification still to be sent goes over a
channel that leads to such an end and back. -/
theorem board_wiring_kept (regions : BoardRegions) (events : List BoardEvent) :
    let state := run BoardEvent.step (boardInit regions) events
    (∀ channelEnd, channelEnd ∈ state.pending ∨ channelEnd ∈ state.woken →
        HandledEnd channelEnd ∧
          lightContractChannelIsKnown (UInt32.ofNat channelEnd.2) = true) ∧
      (∀ domain channel, .notified channel ∈ state.script domain →
        HandledEnd (domain, channel)) ∧
      (∀ domain channel, .send channel ∈ state.script domain →
        ∃ channelEnd, channelPeer domain channel = some channelEnd ∧
          HandledEnd channelEnd ∧
          channelPeer channelEnd.1 channelEnd.2 = some (domain, channel)) := by
  intro state
  have h := board_sound regions events
  have hflagged : ∀ channelEnd, channelEnd ∈ state.pending ∨ channelEnd ∈ state.woken →
      HandledEnd channelEnd := by
    rintro channelEnd (hpending | hwoken)
    · exact h.pending _ hpending
    · exact h.woken _ hwoken
  exact ⟨fun channelEnd hflag => ⟨hflagged _ hflag, (hflagged _ hflag).known⟩,
    fun domain _ hpiece => h.script domain _ hpiece,
    fun domain channel hpiece =>
      sent_channel_connected domain channel (h.script domain _ hpiece)⟩

end LightCtrl
