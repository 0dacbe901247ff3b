import LightCtrl.Actuation.Realisation
import LightCtrl.System.Integrity

/-!
What the board owes. Every copy that one domain keeps of another's data is
either up to date or owed by some flag or some piece still to do, along every
run and under every interleaving, also if a handler reads a publication that
is only half done. Where nothing is left to do nothing is owed, so all copies
agree and the lamps stand at the scheduler's decision.
-/

namespace LightCtrl

open Runs Preemption

/-- How an obligation travels: a flag that owes starts a handler that pays,
and a notification that pays sets a flag that owes. -/
structure Route (owes : ChannelEnd → Prop)
    (pays : ProtectionDomain → BoardPiece → Prop) : Prop where
  entry : ∀ domain channel, owes (domain, channel) → pays domain (.notified channel)
  send : ∀ domain channel, pays domain (.send channel) →
    ∃ channelEnd, channelPeer domain channel = some channelEnd ∧ owes channelEnd

/-- Along a route only the pieces that are no notification are left to check. -/
theorem Route.keeps {owes : ChannelEnd → Prop}
    {pays : ProtectionDomain → BoardPiece → Prop} {current : BoardMemory → Prop}
    (hroute : Route owes pays)
    (hpieces : ∀ {reading memory domain piece effect},
      PieceOutcome reading memory domain piece effect →
      (∀ channel, piece ≠ .send channel) →
        current effect.memory ∨ (∃ later ∈ effect.next, pays domain later) ∨
          (¬ pays domain piece ∧ (current memory → current effect.memory))) :
    Keeps board BoardRuns BoardSafe owes pays current where
  entry := fun domain channel howes =>
    ⟨_, List.mem_singleton_self _, hroute.entry domain channel howes⟩
  perform := by
    intro domain piece reading memory hruns hsafe
    have houtcome := performPiece_outcome reading hruns hsafe.line hsafe.lamps
    simp only [board]
    generalize performPiece domain piece reading memory = effect at houtcome ⊢
    by_cases hsend : ∃ channel, piece = .send channel
    · obtain ⟨channel, rfl⟩ := hsend
      cases houtcome with
      | sent _ _ _ =>
          by_cases hpays : pays domain (.send channel)
          · obtain ⟨channelEnd, hpeer, howes⟩ := hroute.send domain channel hpays
            exact Or.inr (Or.inl (Or.inr
              ⟨channel, List.mem_singleton_self _, channelEnd, hpeer, howes⟩))
          · exact Or.inr (Or.inr ⟨hpays, id⟩)
    · rcases hpieces houtcome (not_exists.mp hsend) with hcurrent | hlater | hfree
      · exact Or.inl hcurrent
      · exact Or.inr (Or.inl (Or.inl hlater))
      · exact Or.inr (Or.inr hfree)

section Publication

/-- The copy a store of `publish_fault_state` makes agrees with its source. -/
def FaultStore.Current (memory : FaultmgMemory) : FaultStore → Prop
  | .mode => memory.shmem.faultMode = memory.faultState.mode.toByte
  | .lifecycle => memory.shmem.faultLifecycle = memory.faultState.lifecycle.toByte
  | .recoveryTicks =>
      memory.shmem.faultRecoveryTicks = memory.faultState.recoveryTicks
  | .recoveryElapsedMs =>
      memory.shmem.faultRecoveryElapsedMs = memory.faultState.recoveryElapsedMs
  | .recoveryWindowMs =>
      memory.shmem.faultRecoveryWindowMs = lightFaultRecoveryWindowMs
  | .activeFaultMask =>
      memory.shmem.activeFaultMask = memory.faultState.activeFaultMask
  | .lastFaultCode => memory.shmem.lastFaultCode = memory.faultState.lastFaultCode
  | .totalFaultCount => memory.shmem.totalFaultCount = memory.totalErrorCount
  | .transport =>
      memory.faultModeSlot = lightFaultModeTransportEncode memory.faultState.mode

theorem FaultStore.perform_current (memory : FaultmgMemory) (store : FaultStore) :
    store.Current (store.perform memory) := by
  cases store <;> rfl

/-- A store leaves the copies of the others. -/
theorem FaultStore.perform_keeps {memory : FaultmgMemory} {store : FaultStore}
    (h : store.Current memory) (other : FaultStore) :
    store.Current (other.perform memory) := by
  cases other <;> cases store <;> first | exact h | rfl

theorem FaultStore.mem_faultStores (store : FaultStore) : store ∈ faultStores := by
  cases store <;> decide

/-- Where every copy is current the whole publication is. -/
theorem publishedCoherent_of_current {memory : FaultmgMemory}
    (htotal : memory.totalErrorCount = memory.faultState.counters.totalErrors)
    (h : ∀ store : FaultStore, store.Current memory) : PublishedCoherent memory where
  mode := h .mode
  lifecycle := h .lifecycle
  recoveryTicks := h .recoveryTicks
  recoveryElapsedMs := h .recoveryElapsedMs
  activeFaultMask := h .activeFaultMask
  lastFaultCode := h .lastFaultCode
  slot := by
    rw [lightFaultModeTransportLoad, h .transport]
    exact lightFaultModeTransportDecode_encode memory.faultState.mode
  sharedTotal := h .totalFaultCount
  ownTotal := htotal

/-- A publication with the store still to come. -/
def StorePays (store : FaultStore) : ProtectionDomain → BoardPiece → Prop
  | .faultmg, .publish stores => store ∈ stores
  | _, _ => False

/-- A copy that faultmg's handler leaves behind is still to be stored. -/
theorem store_kept (store : FaultStore) :
    Keeps board BoardRuns BoardSafe (fun _ => False) (StorePays store)
      (fun memory => store.Current memory.faultmg) := by
  refine Route.keeps ⟨fun _ _ howes => howes.elim, ?_⟩ ?_
  · intro domain channel hpays
    cases domain <;> exact hpays.elim
  intro reading memory domain piece effect houtcome hpiece
  cases houtcome with
  | sent _ channel _ => exact absurd rfl (hpiece channel)
  | requestHandled channel request _ =>
      exact Or.inr (Or.inl ⟨_, List.mem_singleton_self _, store.mem_faultStores⟩)
  | stored performed rest =>
      by_cases hsame : store = performed
      · subst hsame
        exact Or.inl (store.perform_current _)
      · by_cases hlater : store ∈ rest
        · exact Or.inr (Or.inl ⟨_, List.mem_singleton_self _, hlater⟩)
        · refine Or.inr (Or.inr ⟨?_, fun h => FaultStore.perform_keeps h _⟩)
          simp [StorePays, hsame, hlater]
  | recomputed channel request uartCmd _ =>
      refine Or.inr (Or.inr ⟨id, ?_⟩)
      cases store <;> exact id
  | vehicleStored =>
      refine Or.inr (Or.inr ⟨id, ?_⟩)
      cases store <;> exact id
  | published => exact Or.inr (Or.inr ⟨List.not_mem_nil, id⟩)
  | _ => exact Or.inr (Or.inr ⟨id, id⟩)

end Publication

section Decision

/-- A publication and the notification of the scheduler after it. -/
def PublicationPays : ProtectionDomain → BoardPiece → Prop
  | .faultmg, .publish _ => True
  | .faultmg, .send channel => channel = LightCh.faultmgToScheduler
  | _, _ => False

def TargetOwes (channelEnd : ChannelEnd) : Prop :=
  channelEnd = (.scheduler, LightCh.schedulerFromFaultmg) ∨
    channelEnd = (.scheduler, LightCh.schedulerFromVehicleState)

def TargetPays (domain : ProtectionDomain) (piece : BoardPiece) : Prop :=
  PublicationPays domain piece ∨
    domain = .vehicleState ∧ piece = .send LightCh.vehicleStateToScheduler ∨
    domain = .scheduler ∧ (piece = .notified LightCh.schedulerFromFaultmg ∨
      piece = .notified LightCh.schedulerFromVehicleState)

/-- A target that is not the decision for the current request, vehicle state
and mode is still to be decided again. -/
theorem target_kept :
    Keeps board BoardRuns BoardSafe TargetOwes TargetPays
      (fun memory => recomputeTargetOutput memory.shmem = memory.shmem) := by
  refine Route.keeps ⟨?_, ?_⟩ ?_
  · rintro domain channel (howes | howes) <;> cases howes
    · exact Or.inr (Or.inr ⟨rfl, Or.inl rfl⟩)
    · exact Or.inr (Or.inr ⟨rfl, Or.inr rfl⟩)
  · rintro domain channel (hpays | ⟨rfl, hpays⟩ | ⟨rfl, hpays | hpays⟩)
    · cases domain with
      | faultmg =>
          obtain rfl : channel = LightCh.faultmgToScheduler := hpays
          exact ⟨_, rfl, Or.inl rfl⟩
      | _ => exact hpays.elim
    · cases hpays
      exact ⟨_, rfl, Or.inr rfl⟩
    · cases hpays
    · cases hpays
  intro reading memory domain piece effect houtcome hpiece
  cases houtcome with
  | sent _ channel _ => exact absurd rfl (hpiece channel)
  | recomputed channel request uartCmd _ => exact Or.inl (recomputeTargetOutput_idem _)
  | stored store rest =>
      exact Or.inr (Or.inl ⟨_, List.mem_singleton_self _, Or.inl trivial⟩)
  | published => exact Or.inr (Or.inl ⟨.send LightCh.faultmgToScheduler, by simp, Or.inl rfl⟩)
  | vehicleStored =>
      exact Or.inr (Or.inl ⟨_, List.mem_singleton_self _, Or.inr (Or.inl ⟨rfl, rfl⟩)⟩)
  | _ => exact Or.inr (Or.inr ⟨by simp [TargetPays, PublicationPays], id⟩)

end Decision

section Caches

def GpioCachePays : ProtectionDomain → BoardPiece → Prop
  | .faultmg, .publish _ => True
  | .faultmg, .send channel => channel = LightCh.faultmgToGpio
  | .gpio, .notified channel => channel = LightCh.gpioFromFaultmg
  | _, _ => False

@[simp] theorem gpioHandleAction_cache (memory : GpioMemory) (action : GpioAction) :
    (gpioHandleAction memory action).faultModeCache = memory.faultModeCache := by
  cases action <;> rfl

/-- gpio's mode is the one in the slot, or is still to be read. -/
theorem gpioCache_kept :
    Keeps board BoardRuns BoardSafe (· = (.gpio, LightCh.gpioFromFaultmg)) GpioCachePays
      (fun memory => memory.gpio.faultModeCache =
        lightFaultModeTransportDecode memory.faultmg.faultModeSlot) := by
  refine Route.keeps ⟨?_, ?_⟩ ?_
  · rintro domain channel howes
    cases howes
    rfl
  · intro domain channel hpays
    cases domain with
    | faultmg =>
        obtain rfl : channel = LightCh.faultmgToGpio := hpays
        exact ⟨_, rfl, rfl⟩
    | _ => exact hpays.elim
  intro reading memory domain piece effect houtcome hpiece
  cases houtcome with
  | sent _ channel _ => exact absurd rfl (hpiece channel)
  | modeRead => exact Or.inl rfl
  | actuated action =>
      refine Or.inr (Or.inr ⟨?_, fun h => (gpioHandleAction_cache _ action).trans h⟩)
      exact action.channel_ne_fromFaultmg
  | stored store rest => exact Or.inr (Or.inl ⟨_, List.mem_singleton_self _, trivial⟩)
  | published => exact Or.inr (Or.inl ⟨.send LightCh.faultmgToGpio, by simp, rfl⟩)
  | _ => exact Or.inr (Or.inr ⟨id, id⟩)

/-- The way of a sync: the scheduler tells lightctl, lightctl plans. -/
def SyncOwes (channelEnd : ChannelEnd) : Prop :=
  channelEnd = (.scheduler, LightCh.schedulerFromFaultmg) ∨
    channelEnd = (.lightctl, LightCh.lightctlFromScheduler)

def SyncPays (domain : ProtectionDomain) (piece : BoardPiece) : Prop :=
  PublicationPays domain piece ∨
    domain = .scheduler ∧ (piece = .notified LightCh.schedulerFromFaultmg ∨
      piece = .send LightCh.schedulerToLightctl) ∨
    domain = .lightctl ∧ piece = .notified LightCh.lightctlFromScheduler

theorem sync_route : Route SyncOwes SyncPays where
  entry := by
    rintro domain channel (howes | howes) <;> cases howes
    · exact Or.inr (Or.inl ⟨rfl, Or.inl rfl⟩)
    · exact Or.inr (Or.inr ⟨rfl, rfl⟩)
  send := by
    rintro domain channel (hpays | ⟨rfl, hpays | hpays⟩ | ⟨rfl, hpays⟩)
    · cases domain with
      | faultmg =>
          obtain rfl : channel = LightCh.faultmgToScheduler := hpays
          exact ⟨_, rfl, Or.inl rfl⟩
      | _ => exact hpays.elim
    · cases hpays
    · cases hpays
      exact ⟨_, rfl, Or.inr rfl⟩
    · cases hpays

/-- The mode lightctl guards with is the published one, or a sync is still to
come. -/
theorem syncCache_kept :
    Keeps board BoardRuns BoardSafe SyncOwes SyncPays
      (fun memory => memory.lightctl.faultModeCache = memory.shmem.faultMode) := by
  refine Route.keeps sync_route ?_
  intro reading memory domain piece effect houtcome hpiece
  cases houtcome with
  | sent _ channel _ => exact absurd rfl (hpiece channel)
  | recomputed channel request uartCmd _ =>
      exact Or.inr (Or.inl ⟨_, List.mem_singleton_self _,
        Or.inr (Or.inl ⟨rfl, Or.inr rfl⟩)⟩)
  | planned lamps _ => exact Or.inl rfl
  | stored store rest =>
      exact Or.inr (Or.inl ⟨_, List.mem_singleton_self _, Or.inl trivial⟩)
  | published =>
      exact Or.inr (Or.inl ⟨.send LightCh.faultmgToScheduler, by simp, Or.inl rfl⟩)
  | _ => exact Or.inr (Or.inr ⟨by simp [SyncPays, PublicationPays], id⟩)

end Caches

section Lamps

/-- The loop has nothing left, or is still to go on. -/
theorem remaining_kept :
    Keeps board BoardRuns BoardSafe (fun _ => False)
      (fun domain piece => domain = .lightctl ∧ piece = .iterate)
      (fun memory => memory.remaining = []) := by
  refine Route.keeps ⟨fun _ _ howes => howes.elim, fun _ _ hpays => nomatch hpays.2⟩ ?_
  intro reading memory domain piece effect houtcome hpiece
  cases houtcome with
  | sent _ channel _ => exact absurd rfl (hpiece channel)
  | planned lamps _ =>
      exact Or.inr (Or.inl ⟨_, List.mem_singleton_self _, rfl, rfl⟩)
  | ended lamps _ hremaining => exact Or.inl hremaining
  | allowed lamps action rest _ _ _ => exact Or.inr (Or.inl ⟨.iterate, by simp⟩)
  | denied lamps action rest _ _ _ => exact Or.inr (Or.inl ⟨.iterate, by simp⟩)
  | _ => exact Or.inr (Or.inr ⟨by simp, id⟩)

/-- No transition is due, or the loop is still to apply it. -/
theorem triggered_kept :
    Keeps board BoardRuns BoardSafe (fun _ => False)
      (fun domain piece => domain = .lightctl ∧ piece = .iterate)
      (fun memory => memory.triggered = none) := by
  refine Route.keeps ⟨fun _ _ howes => howes.elim, fun _ _ hpays => nomatch hpays.2⟩ ?_
  intro reading memory domain piece effect houtcome hpiece
  cases houtcome with
  | sent _ channel _ => exact absurd rfl (hpiece channel)
  | planned lamps _ => exact Or.inl rfl
  | ended lamps _ _ => exact Or.inl rfl
  | allowed lamps action rest _ _ _ => exact Or.inr (Or.inl ⟨.iterate, by simp⟩)
  | denied lamps action rest _ _ _ => exact Or.inl rfl
  | _ => exact Or.inr (Or.inr ⟨by simp, id⟩)

/-- What the loop of lightctl puts right holds whenever lightctl is outside of it. -/
theorem kept_outside_loop {regions : BoardRegions} {events : List BoardEvent}
    {current : BoardMemory → Prop}
    (hkept : Keeps board BoardRuns BoardSafe (fun _ => False)
      (fun domain piece => domain = .lightctl ∧ piece = .iterate) current)
    (hstart : current (boardInit regions).memory)
    (hfree : (run BoardEvent.step (boardInit regions) events).script .lightctl = []) :
    current (run BoardEvent.step (boardInit regions) events).memory := by
  refine (hkept.run board_closed (boardInit_sound regions) (Or.inl hstart)
    events).resolve_right ?_
  rintro (⟨_, -, howes⟩ | ⟨other, piece, hpiece, rfl, -⟩)
  · exact howes
  · rw [hfree] at hpiece
    exact absurd hpiece List.not_mem_nil

/-- What is left of the plan leads to the target. -/
def Heading (memory : BoardMemory) : Prop :=
  ∃ lamps : LampState, memory.execution = lamps.toExecution ∧
    run LampState.perform lamps memory.remaining = memory.shmem.targetOutput.wanted

/-- A denial is reported to faultmg, which publishes, so a sync follows. -/
def LampsOwe (channelEnd : ChannelEnd) : Prop :=
  channelEnd = (.faultmg, LightCh.faultmgFromLightctl) ∨ SyncOwes channelEnd

def LampsPay (domain : ProtectionDomain) (piece : BoardPiece) : Prop :=
  domain = .lightctl ∧ piece = .send LightCh.lightctlToFaultmg ∨
    domain = .faultmg ∧ piece = .notified LightCh.faultmgFromLightctl ∨
    SyncPays domain piece

/-- The plan leads to the target, or there will be another one. -/
theorem heading_kept : Keeps board BoardRuns BoardSafe LampsOwe LampsPay Heading := by
  refine Route.keeps ⟨?_, ?_⟩ ?_
  · rintro domain channel (howes | howes)
    · cases howes
      exact Or.inr (Or.inl ⟨rfl, rfl⟩)
    · exact Or.inr (Or.inr (sync_route.entry domain channel howes))
  · rintro domain channel (⟨rfl, hpays⟩ | ⟨rfl, hpays⟩ | hpays)
    · cases hpays
      exact ⟨_, rfl, Or.inl rfl⟩
    · cases hpays
    · obtain ⟨channelEnd, hpeer, howes⟩ := sync_route.send domain channel hpays
      exact ⟨channelEnd, hpeer, Or.inr howes⟩
  intro reading memory domain piece effect houtcome hpiece
  cases houtcome with
  | sent _ channel _ => exact absurd rfl (hpiece channel)
  | recomputed channel request uartCmd _ =>
      exact Or.inr (Or.inl ⟨_, List.mem_singleton_self _,
        Or.inr (Or.inr (Or.inr (Or.inl ⟨rfl, Or.inr rfl⟩)))⟩)
  | planned lamps _ =>
      exact Or.inl ⟨lamps, rfl, lamps.run_perform_plan memory.shmem.targetOutput.wanted⟩
  | allowed lamps action rest hlamps hremaining _ =>
      refine Or.inr (Or.inr ⟨by simp [LampsPay, SyncPays, PublicationPays], ?_⟩)
      rintro ⟨current, hcurrent, hheading⟩
      obtain rfl := LampState.toExecution_injective (hcurrent.symm.trans hlamps)
      rw [hremaining] at hheading
      exact ⟨_, transition_toExecution _ action, hheading⟩
  | ended lamps hlamps _ =>
      refine Or.inr (Or.inr ⟨by simp [LampsPay, SyncPays, PublicationPays], ?_⟩)
      rintro ⟨current, hcurrent, hheading⟩
      exact ⟨current, hlamps.symm.trans hcurrent, hheading⟩
  | denied lamps action rest _ _ _ =>
      exact Or.inr (Or.inl ⟨.send LightCh.lightctlToFaultmg, by simp,
        Or.inl ⟨rfl, rfl⟩⟩)
  | requestIgnored =>
      exact Or.inr (Or.inr ⟨by simp [LampsPay, SyncPays, PublicationPays], id⟩)
  | requestHandled channel request _ =>
      exact Or.inr (Or.inl ⟨_, List.mem_singleton_self _,
        Or.inr (Or.inr (Or.inl trivial))⟩)
  | stored store rest =>
      exact Or.inr (Or.inl ⟨_, List.mem_singleton_self _,
        Or.inr (Or.inr (Or.inl trivial))⟩)
  | published =>
      exact Or.inr (Or.inl ⟨.send LightCh.faultmgToScheduler, by simp,
        Or.inr (Or.inr (Or.inl rfl))⟩)
  | _ => exact Or.inr (Or.inr ⟨by simp [LampsPay, SyncPays, PublicationPays], id⟩)

end Lamps

/-- The fault state is published in every copy, the target is the decision for
it, gpio and lightctl work with the same mode, and the lamps stand at the
decision. -/
structure BoardAgrees (memory : BoardMemory) : Prop where
  published : PublishedCoherent memory.faultmg
  target : recomputeTargetOutput memory.shmem = memory.shmem
  gpioCache : memory.gpio.faultModeCache = memory.faultmg.faultState.mode
  lightctlCache :
    memory.lightctl.faultModeCache = memory.faultmg.faultState.mode.toByte
  planDone : memory.remaining = []
  lamps : memory.lightctl.executionState =
    (arbitratedState memory.shmem.operatorRequest memory.shmem.vehicleState
      memory.faultmg.faultState.mode.toByte).wanted.toExecution

/-- A copy that some rule keeps is current wherever a run has come to rest. -/
theorem current_at_rest {regions : BoardRegions} {events : List BoardEvent}
    {owes : ChannelEnd → Prop} {pays : ProtectionDomain → BoardPiece → Prop}
    {current : BoardMemory → Prop} (hkept : Keeps board BoardRuns BoardSafe owes pays current)
    (hstart : current (boardInit regions).memory ∨ Owed owes pays (boardInit regions))
    (hrest : Resting (run BoardEvent.step (boardInit regions) events)) :
    current (run BoardEvent.step (boardInit regions) events).memory :=
  (hkept.run board_closed (boardInit_sound regions) hstart events).resolve_right
    hrest.not_owed

/-- A flag set by init owes. -/
theorem owed_of_pending {owes : ChannelEnd → Prop}
    {pays : ProtectionDomain → BoardPiece → Prop} {state : BoardState}
    {channelEnd : ChannelEnd} (hpending : channelEnd ∈ state.pending)
    (howes : owes channelEnd) : Owed owes pays state :=
  Or.inl ⟨channelEnd, Or.inl hpending, howes⟩

theorem resting_agrees (regions : BoardRegions) (events : List BoardEvent)
    (hrest : Resting (run BoardEvent.step (boardInit regions) events)) :
    BoardAgrees (run BoardEvent.step (boardInit regions) events).memory := by
  have hsafe := (board_sound regions events).memory
  have hstores : ∀ store : FaultStore, store.Current
      (run BoardEvent.step (boardInit regions) events).memory.faultmg := by
    intro store
    refine current_at_rest (store_kept store) (Or.inl ?_) hrest
    cases store <;> rfl
  have hscheduler : (.scheduler, LightCh.schedulerFromFaultmg) ∈
      (boardInit regions).pending := by
    rw [boardInit_pending]
    decide
  have htarget := current_at_rest target_kept
    (Or.inr (owed_of_pending hscheduler (Or.inl rfl))) hrest
  have hgpio := current_at_rest gpioCache_kept
    (Or.inr (owed_of_pending (by rw [boardInit_pending]; decide) rfl)) hrest
  have hcache := current_at_rest syncCache_kept (Or.inl rfl) hrest
  have hremaining := current_at_rest remaining_kept (Or.inl rfl) hrest
  have hsettled := current_at_rest triggered_kept (Or.inl rfl) hrest
  obtain ⟨lamps, hlamps, hheading⟩ := current_at_rest heading_kept
    (Or.inr (owed_of_pending hscheduler (Or.inr (Or.inl rfl)))) hrest
  generalize (run BoardEvent.step (boardInit regions) events).memory = memory at *
  have hpublished := publishedCoherent_of_current hsafe.fault.total hstores
  refine ⟨hpublished, htarget, ?_, hcache.trans hpublished.mode, hremaining, ?_⟩
  · rw [hgpio]
    exact hpublished.slot
  · rw [hremaining] at hheading
    have hdecision : memory.shmem.targetOutput =
        lightControlComputeTargetOutput memory.shmem.operatorRequest
          memory.shmem.vehicleState memory.shmem.faultMode :=
      congrArg LightShmem.targetOutput htarget.symm
    rw [hdecision, hpublished.mode, computeTargetOutput_eq,
      targetOutputFromState_wanted] at hheading
    rw [BoardMemory.execution_of_none hsettled] at hlamps
    rw [hlamps, ← hheading]
    rfl

theorem BoardAgrees.targetOutput {memory : BoardMemory} (h : BoardAgrees memory) :
    memory.shmem.targetOutput =
      targetOutputFromState (arbitratedState memory.shmem.operatorRequest
        memory.shmem.vehicleState memory.faultmg.faultState.mode.toByte) := by
  rw [← computeTargetOutput_eq, ← h.published.mode]
  exact congrArg LightShmem.targetOutput h.target.symm

/-- Wherever a run comes to rest, and whatever happened on the way: all copies
of the fault state agree, the target is the decision for the current inputs,
and the lamps stand at it, so that one more sync would plan nothing. -/
theorem board_agrees_at_rest (regions : BoardRegions) (events : List BoardEvent)
    (hrest : Resting (run BoardEvent.step (boardInit regions) events)) :
    let memory := (run BoardEvent.step (boardInit regions) events).memory
    BoardAgrees memory ∧
      plannedActions memory.lightctl.executionState memory.shmem.targetOutput = [] := by
  intro memory
  have hagrees : BoardAgrees memory := resting_agrees regions events hrest
  refine ⟨hagrees, ?_⟩
  rw [hagrees.lamps, plannedActions_toExecution, hagrees.targetOutput,
    targetOutputFromState_wanted]
  exact LampState.plan_self _

def zeroRegions : BoardRegions where
  shmem := lightShmemZeroed
  faultModeSlot := 0
  inputBuffer := ⟨0, 0, 0, 0, ⟨0, 0⟩⟩
  gpioOut := 0#32
  parser := ⟨Vector.replicate lightCommandLineMax 0, 0⟩
  digits := Vector.replicate uartDigitsSize 0

def noReading : BoardReading := ⟨none, Vector.replicate uartDigitsSize 0, 0⟩

/-- After init, in the order of the priorities: the scheduler decides twice,
gpio reads the mode, and lightctl switches the position lamp on. -/
def bootEvents : List BoardEvent :=
  [.wake .scheduler, .enter .scheduler LightCh.schedulerFromFaultmg,
    .advance .scheduler noReading, .advance .scheduler noReading,
    .enter .scheduler LightCh.schedulerFromVehicleState,
    .advance .scheduler noReading, .advance .scheduler noReading,
    .wake .gpio, .enter .gpio LightCh.gpioFromFaultmg, .advance .gpio noReading,
    .wake .lightctl, .enter .lightctl LightCh.lightctlFromScheduler,
    .advance .lightctl noReading, .advance .lightctl noReading,
    .advance .lightctl noReading,
    .wake .gpio, .enter .gpio GpioAction.positionOn.channel, .advance .gpio noReading,
    .advance .lightctl noReading]

theorem bootEvents_resting :
    Resting (run BoardEvent.step (boardInit zeroRegions) bootEvents) := by
  refine ⟨?_, ?_, ?_⟩ <;> decide +kernel

theorem bootEvents_respects :
    EveryStep BoardEvent.step (Respects ProtectionDomain.priority)
      (boardInit zeroRegions) bootEvents := by
  decide +kernel

theorem board_agrees_after_boot :
    let memory := (run BoardEvent.step (boardInit zeroRegions) bootEvents).memory
    memory.gpio.gpioOut = 32#32 ∧ BoardAgrees memory :=
  ⟨by decide +kernel, (board_agrees_at_rest zeroRegions bootEvents bootEvents_resting).1⟩

end LightCtrl
