import LightCtrl.Actuation.Refinement
import LightCtrl.Domains.Faultmg
import LightCtrl.Domains.Scheduler
import LightCtrl.Domains.VehicleState

/-!
The four domains between an input and the lamps, as one machine. A handler is
one atomic step over the shared memory; a notification sets a sticky flag that
one later step consumes, however often it was set. Operator commands, vehicle
requests and fault traffic arrive in any order, with any message contents.

Two derived values are kept current by flags alone: the target by the two
flags of the scheduler, and the lamps by the flag of lightctl.
-/

namespace LightCtrl

open Runs

structure PendingFlags where
  schedulerFromVehicleState : Bool
  schedulerFromFaultmg : Bool
  lightctlFromScheduler : Bool
  deriving DecidableEq, Repr

/-- `microkit_notify` on each channel in turn. Setting a set flag changes
nothing. -/
def PendingFlags.raise (pending : PendingFlags)
    (notified : List MicrokitChannel) : PendingFlags where
  schedulerFromVehicleState := pending.schedulerFromVehicleState
    || notified.contains LightCh.vehicleStateToScheduler
  schedulerFromFaultmg := pending.schedulerFromFaultmg
    || notified.contains LightCh.faultmgToScheduler
  lightctlFromScheduler := pending.lightctlFromScheduler
    || notified.contains LightCh.schedulerToLightctl

/-- The shared memory is the region in faultmg's memory. -/
structure SystemState where
  faultmg : FaultmgMemory
  lightctl : LightctlMemory
  pending : PendingFlags
  deriving DecidableEq, Repr

abbrev SystemState.shmem (state : SystemState) : LightShmem :=
  state.faultmg.shmem

/-- The state after a handler that works on the shared memory. -/
def SystemState.afterShared (state : SystemState)
    (handled : Handled LightShmem) : SystemState :=
  { state with
    faultmg := { state.faultmg with shmem := handled.memory }
    pending := state.pending.raise handled.notified }

/-- What happens next: commandin wakes scheduler, vehicle_state or faultmg
with a message in the input buffer, lightctl wakes faultmg with a code, or a
pending flag is consumed. -/
inductive SystemEvent where
  | operatorCommand (message : LightTransportMessage)
  | vehicleRequest (message : LightTransportMessage)
  | faultNotified (channel : MicrokitChannel) (mr0 : UInt64)
      (message : LightTransportMessage)
  | schedulerFromVehicleState (message : LightTransportMessage)
  | schedulerFromFaultmg (message : LightTransportMessage)
  | lightctlFromScheduler
  deriving DecidableEq, Repr

/-- A consuming step without its flag does not happen. -/
def SystemEvent.step (state : SystemState) : SystemEvent → SystemState
  | .operatorCommand message =>
      state.afterShared (schedulerNotified LightCh.schedulerFromCommandin
        message state.shmem)
  | .vehicleRequest message =>
      state.afterShared (vehicleStateNotified LightCh.vehicleStateFromCommandin
        message state.shmem)
  | .faultNotified channel mr0 message =>
      let handled := faultmgNotified channel mr0 message state.faultmg
      { state with
        faultmg := handled.memory
        pending := state.pending.raise handled.notified }
  | .schedulerFromVehicleState message =>
      if state.pending.schedulerFromVehicleState then
        let consumed := { state with
          pending := { state.pending with schedulerFromVehicleState := false } }
        consumed.afterShared (schedulerNotified
          LightCh.schedulerFromVehicleState message state.shmem)
      else state
  | .schedulerFromFaultmg message =>
      if state.pending.schedulerFromFaultmg then
        let consumed := { state with
          pending := { state.pending with schedulerFromFaultmg := false } }
        consumed.afterShared (schedulerNotified LightCh.schedulerFromFaultmg
          message state.shmem)
      else state
  | .lightctlFromScheduler =>
      if state.pending.lightctlFromScheduler then
        { state with
          lightctl := (lightctlNotified LightCh.lightctlFromScheduler
            state.shmem state.lightctl).1
          pending := { state.pending with lightctlFromScheduler := false } }
      else state

/-- The state the init functions leave, run in the order of the priorities
over whatever the regions held. -/
def systemInit (shmem : LightShmem) (faultModeSlot : UInt8) : SystemState :=
  let vehicle := vehicleStateInit (schedulerInit shmem)
  let faultmg := faultmgInit vehicle.memory faultModeSlot
  { faultmg := faultmg.memory
    lightctl := lightctlInit
    pending := (PendingFlags.mk false false false).raise
      (vehicle.notified ++ faultmg.notified) }

/-- No flag of the scheduler is set. -/
def SystemState.SchedulerIdle (state : SystemState) : Prop :=
  state.pending.schedulerFromVehicleState = false ∧
    state.pending.schedulerFromFaultmg = false

/-- The lamps stand where a sync towards the current target leaves them. -/
def SystemState.LampsCurrent (state : SystemState) : Prop :=
  ∃ lamps : LampState, state.lightctl.executionState =
    (lamps.settle (limitsOf state.shmem.vehicleSpeed state.shmem.faultMode)
      state.shmem.targetOutput.wanted).toExecution

structure PropagationInvariant (state : SystemState) : Prop where
  lamps : ∃ lamps : LampState,
    state.lightctl.executionState = lamps.toExecution
  target_current : state.SchedulerIdle →
    recomputeTargetOutput state.shmem = state.shmem
  lamps_current : state.SchedulerIdle →
    state.pending.lightctlFromScheduler = false → state.LampsCurrent

theorem raise_nil (pending : PendingFlags) : pending.raise [] = pending := by
  simp [PendingFlags.raise]

/-- A handler that changes nothing and notifies nobody. -/
private theorem afterShared_quiet (state : SystemState) :
    state.afterShared ⟨state.shmem, []⟩ = state := by
  simp [SystemState.afterShared, raise_nil]

/-- A step that sets a flag of the scheduler owes nothing else. -/
private theorem propagationInvariant_of_scheduler_pending {state : SystemState}
    (hlamps : ∃ lamps : LampState,
      state.lightctl.executionState = lamps.toExecution)
    (hpending : ¬ state.SchedulerIdle) : PropagationInvariant state where
  lamps := hlamps
  target_current := fun hidle => absurd hidle hpending
  lamps_current := fun hidle => absurd hidle hpending

theorem propagationInvariant_init (shmem : LightShmem) (faultModeSlot : UInt8) :
    PropagationInvariant (systemInit shmem faultModeSlot) := by
  refine propagationInvariant_of_scheduler_pending ⟨lampsOff, rfl⟩ ?_
  rintro ⟨hclear, -⟩
  have hraised :
      (systemInit shmem faultModeSlot).pending.schedulerFromVehicleState = true :=
    rfl
  exact absurd (hclear.symm.trans hraised) (by simp)

/-- A recomputation makes the target current and hands the lamps over to the
flag of lightctl. -/
private theorem propagationInvariant_recomputed {state : SystemState}
    (hlamps : ∃ lamps : LampState,
      state.lightctl.executionState = lamps.toExecution)
    (changed : LightShmem) :
    PropagationInvariant (state.afterShared
      ⟨recomputeTargetOutput changed, [LightCh.schedulerToLightctl]⟩) where
  lamps := hlamps
  target_current := fun _ => recomputeTargetOutput_idem changed
  lamps_current := by
    intro _ hclear
    simp [SystemState.afterShared, PendingFlags.raise] at hclear

/-- The step lemma, one case per event. -/
theorem propagationInvariant_step {state : SystemState}
    (h : PropagationInvariant state) (event : SystemEvent) :
    PropagationInvariant (event.step state) := by
  cases event with
  | operatorCommand message =>
      simp only [SystemEvent.step]
      rcases schedulerNotified_commandin_cases message state.shmem with
        hquiet | ⟨changed, hchanged⟩
      · rw [hquiet, afterShared_quiet]
        exact h
      · rw [hchanged]
        exact propagationInvariant_recomputed h.lamps changed
  | vehicleRequest message =>
      simp only [SystemEvent.step]
      rcases vehicleStateNotified_cases LightCh.vehicleStateFromCommandin message
        state.shmem with hquiet | hnotified
      · rw [hquiet, afterShared_quiet]
        exact h
      · refine propagationInvariant_of_scheduler_pending h.lamps ?_
        rintro ⟨hclear, -⟩
        simp [SystemState.afterShared, PendingFlags.raise, hnotified] at hclear
  | faultNotified channel mr0 message =>
      simp only [SystemEvent.step]
      rcases faultmgNotified_cases channel mr0 message state.faultmg with
        hquiet | hnotified
      · rw [hquiet, raise_nil]
        exact h
      · refine propagationInvariant_of_scheduler_pending h.lamps ?_
        rintro ⟨-, hclear⟩
        simp [PendingFlags.raise, hnotified] at hclear
  | schedulerFromVehicleState message =>
      simp only [SystemEvent.step]
      split_ifs
      · rw [schedulerNotified_source (Or.inr rfl)]
        refine propagationInvariant_recomputed ?_ state.shmem
        exact h.lamps
      · exact h
  | schedulerFromFaultmg message =>
      simp only [SystemEvent.step]
      split_ifs
      · rw [schedulerNotified_source (Or.inl rfl)]
        refine propagationInvariant_recomputed ?_ state.shmem
        exact h.lamps
      · exact h
  | lightctlFromScheduler =>
      simp only [SystemEvent.step]
      split_ifs
      · obtain ⟨lamps, hlamps⟩ := h.lamps
        obtain ⟨faultmg, ⟨executionState, faultModeCache⟩, pending⟩ := state
        obtain rfl : executionState = lamps.toExecution := hlamps
        have hsettled := congrArg LightctlMemory.executionState
          (syncOutputs_settles faultmg.shmem lamps faultModeCache)
        exact {
          lamps := ⟨_, hsettled⟩
          target_current := fun hidle => h.target_current hidle
          lamps_current := fun _ _ => ⟨lamps, hsettled⟩ }
      · exact h

/-- One more sync would notify no gpio channel, because the guard denies
every action it would still plan. -/
structure SyncIdle (shmem : LightShmem) (lightctl : LightctlMemory) : Prop where
  denied : EveryStep (syncIteration shmem.vehicleSpeed shmem.faultMode)
    (fun current action => (guardVerdict shmem.vehicleSpeed shmem.faultMode
      current action).allowed = false)
    lightctl.executionState
    (plannedActions lightctl.executionState shmem.targetOutput)
  silent : ∀ effect ∈ (syncOutputs shmem lightctl).2,
    ∀ action, effect ≠ .gpio action

/-- Lamps that stand where a sync leaves them have nothing left to emit. -/
theorem SystemState.LampsCurrent.syncIdle {state : SystemState}
    (h : state.LampsCurrent) : SyncIdle state.shmem state.lightctl := by
  obtain ⟨lamps, hlamps⟩ := h
  have hdenied : EveryStep
      (syncIteration state.shmem.vehicleSpeed state.shmem.faultMode)
      (fun current action => (guardVerdict state.shmem.vehicleSpeed
        state.shmem.faultMode current action).allowed = false)
      state.lightctl.executionState
      (plannedActions state.lightctl.executionState
        state.shmem.targetOutput) := by
    rw [hlamps, plannedActions_toExecution, everyStep_syncIteration_toExecution]
    simp only [guardVerdict_allowed]
    exact LampState.settled_plan_refused _ _ _
  refine ⟨hdenied, ?_⟩
  rw [syncOutputs, forall_outputs_iff]
  refine hdenied.mono ?_
  intro current action hrefused effect hmember
  rw [syncEffect_of_denied _ _ hrefused] at hmember
  obtain rfl := List.mem_singleton.mp hmember
  simp

/-- In every state that any order of events reaches from init: once neither
flag of the scheduler is pending, the published target, flag word and speed
are those of the current inputs; once the flag of lightctl is not pending
either, lightctl has nothing left to emit. -/
theorem no_update_lost (shmem : LightShmem) (faultModeSlot : UInt8)
    (events : List SystemEvent) :
    let state := run SystemEvent.step (systemInit shmem faultModeSlot) events
    state.SchedulerIdle →
      state.shmem.targetOutput =
          lightControlComputeTargetOutput state.shmem.operatorRequest
            state.shmem.vehicleState state.shmem.faultMode ∧
        state.shmem.allowFlags =
          lightTargetOutputToAllowFlags state.shmem.targetOutput ∧
        state.shmem.vehicleSpeed = state.shmem.vehicleState.speedKph ∧
        (state.pending.lightctlFromScheduler = false →
          SyncIdle state.shmem state.lightctl) := by
  intro state hidle
  have hinvariant : PropagationInvariant state :=
    run_invariant PropagationInvariant
      (fun current event hcurrent => propagationInvariant_step hcurrent event) _
      (propagationInvariant_init shmem faultModeSlot) events
  have hcurrent := hinvariant.target_current hidle
  refine ⟨?_, ?_, ?_, ?_⟩
  · rw [← hcurrent]
    rfl
  · rw [← hcurrent]
    rfl
  · rw [← hcurrent]
    rfl
  · exact fun hclear => (hinvariant.lamps_current hidle hclear).syncIdle

/-- From the zeroed region, both flags of the scheduler and then the flag of
lightctl are consumed. -/
theorem no_update_lost_after_startup :
    let state := run SystemEvent.step (systemInit lightShmemZeroed 0)
      [.schedulerFromVehicleState makeQueryMessage,
        .schedulerFromFaultmg makeQueryMessage, .lightctlFromScheduler]
    state.shmem.targetOutput =
        lightControlComputeTargetOutput state.shmem.operatorRequest
          state.shmem.vehicleState state.shmem.faultMode ∧
      state.shmem.allowFlags =
        lightTargetOutputToAllowFlags state.shmem.targetOutput ∧
      state.shmem.vehicleSpeed = state.shmem.vehicleState.speedKph ∧
      (state.pending.lightctlFromScheduler = false →
        SyncIdle state.shmem state.lightctl) :=
  no_update_lost lightShmemZeroed 0 _ ⟨by decide, by decide⟩

end LightCtrl
