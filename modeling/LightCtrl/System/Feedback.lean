import LightCtrl.Actuation.Agreement
import LightCtrl.Domains.Scheduler
import LightCtrl.Fault.Escalation

/-!
The loop lightctl, faultmg and scheduler close through denials: a denied
action is reported, the report may raise the fault mode, the scheduler decides
again for the new mode, and lightctl tries the new target. The loop settles at
once whenever the guard accepts the first target. A hazard request the guard
refuses is refused in every later round too, since its denials never lead to
SAFE_MODE, the only mode that withdraws the turn lamps.
-/

namespace LightCtrl

open Runs

/-- The codes lightctl reports, in order. -/
def deniedCodes (effects : List LightctlEffect) : List UInt8 :=
  effects.filterMap (fun effect =>
    match effect with
    | .gpio _ => none
    | .fault errorCode => some errorCode)

structure FeedbackState where
  lightctl : LightctlMemory
  faultmg : FaultmgMemory
  deriving DecidableEq, Repr

/-- The codes denied when lightctl syncs in this state. -/
def FeedbackState.denied (state : FeedbackState) : List UInt8 :=
  deniedCodes (syncOutputs state.faultmg.shmem state.lightctl).2

/-- One round: lightctl syncs; faultmg records and publishes every denied
code; after a denial the scheduler decides again. -/
def feedbackRound (state : FeedbackState) : FeedbackState :=
  let lightctl := (syncOutputs state.faultmg.shmem state.lightctl).1
  if state.denied = [] then { state with lightctl := lightctl }
  else
    let faultmg := run FaultRequest.step state.faultmg
      (state.denied.map FaultRequest.report)
    { lightctl := lightctl
      faultmg := { faultmg with
        shmem := recomputeTargetOutput faultmg.shmem } }

/-- Some round, after finitely many, denies nothing. -/
def FeedbackSettles (state : FeedbackState) : Prop :=
  ∃ rounds : Nat, (feedbackRound^[rounds] state).denied = []

/-- faultmg's mode is published, and the published target is the scheduler's
decision for it. -/
structure FeedbackCoherent (state : FeedbackState) : Prop where
  mode : state.faultmg.shmem.faultMode = state.faultmg.faultState.mode.toByte
  target : recomputeTargetOutput state.faultmg.shmem = state.faultmg.shmem

theorem mem_deniedCodes_iff (effects : List LightctlEffect) (errorCode : UInt8) :
    errorCode ∈ deniedCodes effects ↔ .fault errorCode ∈ effects := by
  simp only [deniedCodes, List.mem_filterMap]
  constructor
  · rintro ⟨effect, hmember, hcode⟩
    cases effect with
    | gpio action => simp at hcode
    | fault reported =>
        obtain rfl : reported = errorCode := by simpa using hcode
        exact hmember
  · exact fun hmember => ⟨_, hmember, rfl⟩

/-- A sync reports nothing exactly when the guard allows the whole plan. -/
theorem deniedCodes_syncOutputs_eq_nil_iff (shmem : LightShmem)
    (memory : LightctlMemory) :
    deniedCodes (syncOutputs shmem memory).2 = [] ↔
      PlanAllowed shmem.vehicleSpeed shmem.faultMode memory.executionState
        shmem.targetOutput := by
  have hstep (current : LightExecutionState) (action : GpioAction) :
      (∀ effect ∈ syncEffect shmem.vehicleSpeed shmem.faultMode current action,
        ∀ errorCode, effect ≠ .fault errorCode) ↔
      (guardVerdict shmem.vehicleSpeed shmem.faultMode current
        action).allowed = true := by
    cases hverdict : (guardVerdict shmem.vehicleSpeed shmem.faultMode current
        action).allowed with
    | true => simp [syncEffect_of_allowed _ _ hverdict]
    | false => simp [syncEffect_of_denied _ _ hverdict]
  have hnone : deniedCodes (syncOutputs shmem memory).2 = [] ↔
      ∀ effect ∈ (syncOutputs shmem memory).2,
        ∀ errorCode, effect ≠ .fault errorCode := by
    rw [List.eq_nil_iff_forall_not_mem]
    simp only [mem_deniedCodes_iff]
    constructor
    · rintro hnot effect hmember errorCode rfl
      exact hnot errorCode hmember
    · intro hnot errorCode hmember
      exact hnot _ hmember errorCode rfl
  rw [hnone, syncOutputs, forall_outputs_iff]
  simp only [hstep]
  rfl

/-- Only SAFE_MODE makes the guard report a hardware error. -/
theorem guard_hwStateErr_safe {action : GpioAction}
    {context : LightRuntimeGuardContext}
    (hmode : context.faultMode ≠ FaultMode.safeMode.toByte) :
    (lightRuntimeGuardCheckAction action context).errorCode ≠
      LightErr.hwStateErr := by
  unfold lightRuntimeGuardCheckAction denyWithError
  split_ifs with hsafe
  · exact absurd hsafe.1 hmode
  all_goals decide

theorem deniedCodes_ne_hwStateErr {shmem : LightShmem} {memory : LightctlMemory}
    (hmode : shmem.faultMode ≠ FaultMode.safeMode.toByte) :
    ∀ errorCode ∈ deniedCodes (syncOutputs shmem memory).2,
      errorCode ≠ LightErr.hwStateErr := by
  have heffects : ∀ effect ∈ (syncOutputs shmem memory).2,
      effect ≠ .fault LightErr.hwStateErr := by
    rw [syncOutputs, forall_outputs_iff]
    refine everyStep_of_invariant (fun _ => True) (fun _ _ _ => trivial) ?_ _
      trivial _
    intro current action _ effect hmember
    cases hverdict : (guardVerdict shmem.vehicleSpeed shmem.faultMode current
        action).allowed with
    | true =>
        rw [syncEffect_of_allowed _ _ hverdict] at hmember
        simp_all
    | false =>
        rw [syncEffect_of_denied _ _ hverdict] at hmember
        have hcode : (guardVerdict shmem.vehicleSpeed shmem.faultMode current
            action).errorCode ≠ LightErr.hwStateErr :=
          guard_hwStateErr_safe hmode
        obtain rfl := List.mem_singleton.mp hmember
        simpa using hcode
  intro errorCode hmember
  rw [mem_deniedCodes_iff] at hmember
  rintro rfl
  exact heffects _ hmember rfl

/-- The request and the vehicle state the scheduler decides on. -/
abbrev FeedbackState.request (state : FeedbackState) : LightOperatorRequest :=
  state.faultmg.shmem.operatorRequest

abbrev FeedbackState.vehicleState (state : FeedbackState) : LightVehicleState :=
  state.faultmg.shmem.vehicleState

/-- In a coherent state lightctl works with the limits of the actual speed and
mode, towards the arbitrated target. -/
theorem FeedbackCoherent.published {state : FeedbackState}
    (h : FeedbackCoherent state) :
    limitsOf state.faultmg.shmem.vehicleSpeed state.faultmg.shmem.faultMode =
        limitsOf state.vehicleState.speedKph
          state.faultmg.faultState.mode.toByte ∧
      state.faultmg.shmem.targetOutput.wanted =
        (arbitratedState state.request state.vehicleState
          state.faultmg.faultState.mode.toByte).wanted := by
  have hspeed : state.faultmg.shmem.vehicleSpeed =
      state.vehicleState.speedKph := by
    rw [← h.target]
    rfl
  have htarget : state.faultmg.shmem.targetOutput =
      lightControlComputeTargetOutput state.request state.vehicleState
        state.faultmg.faultState.mode.toByte := by
    rw [← h.mode, ← h.target]
    rfl
  rw [hspeed, h.mode, htarget, computeTargetOutput_eq,
    targetOutputFromState_wanted]
  exact ⟨rfl, rfl⟩

/-- A round is quiet exactly when the guard refuses no hazard request. -/
theorem denied_eq_nil_iff {state : FeedbackState} (h : FeedbackCoherent state)
    {lamps : LampState}
    (hlamps : state.lightctl.executionState = lamps.toExecution) :
    state.denied = [] ↔
      ¬ HazardTurnRefused state.request state.vehicleState
        state.faultmg.faultState.mode state.lightctl.executionState := by
  rw [FeedbackState.denied, deniedCodes_syncOutputs_eq_nil_iff, hlamps,
    planAllowed_iff, h.published.1, h.published.2, arbitrated_turnGranted_iff]
  exact and_iff_left (arbitrated_beamGranted _ _ _ lamps)

/-- A state whose hazard request the guard refuses, with what the proof needs
to know about the rest of it. -/
structure HazardStuck (state : FeedbackState) : Prop where
  coherent : FeedbackCoherent state
  escalation : EscalationInvariant state.faultmg.faultState
  lamps : ∃ lamps : LampState,
    state.lightctl.executionState = lamps.toExecution
  refused : HazardTurnRefused state.request state.vehicleState
    state.faultmg.faultState.mode state.lightctl.executionState

/-- Recording a list of errors without a hardware error leaves the inputs of
the scheduler and keeps faultmg below SAFE_MODE. -/
theorem record_soft_errors {faultmg : FaultmgMemory}
    (hescalation : EscalationInvariant faultmg.faultState)
    (hmode : faultmg.faultState.mode ≠ .safeMode)
    (hpublished : faultmg.shmem.faultMode = faultmg.faultState.mode.toByte)
    (codes : List UInt8) (hsoft : ∀ code ∈ codes, code ≠ LightErr.hwStateErr) :
    let final := run FaultRequest.step faultmg (codes.map FaultRequest.report)
    EscalationInvariant final.faultState ∧ final.faultState.mode ≠ .safeMode ∧
      final.shmem.faultMode = final.faultState.mode.toByte ∧
      final.shmem.operatorRequest = faultmg.shmem.operatorRequest ∧
      final.shmem.vehicleState = faultmg.shmem.vehicleState := by
  intro final
  refine run_invariant_on
    (fun current : FaultmgMemory =>
      EscalationInvariant current.faultState ∧
        current.faultState.mode ≠ .safeMode ∧
        current.shmem.faultMode = current.faultState.mode.toByte ∧
        current.shmem.operatorRequest = faultmg.shmem.operatorRequest ∧
        current.shmem.vehicleState = faultmg.shmem.vehicleState)
    (codes.map FaultRequest.report) ?_ faultmg
    ⟨hescalation, hmode, hpublished, rfl, rfl⟩
  rintro current request hmember ⟨hinvariant, hbelow, hmodeByte, hreq, hvehicle⟩
  obtain ⟨code, hcode, rfl⟩ := List.mem_map.mp hmember
  obtain ⟨hframeReq, hframeVehicle, hframeMode⟩ :=
    faultRequest_step_frame current (.report code)
  exact ⟨escalationInvariant_step hinvariant _,
    recordError_not_safe hinvariant hbelow (hsoft code hcode),
    hframeMode hmodeByte, hframeReq.trans hreq, hframeVehicle.trans hvehicle⟩

/-- The round lemma: a refused hazard request is still refused one round on.
The turn lamp stays dark, the scheduler's inputs stay, and the denials do not
lead to SAFE_MODE. -/
theorem hazardStuck_round {state : FeedbackState} (h : HazardStuck state) :
    HazardStuck (feedbackRound state) := by
  obtain ⟨⟨executionState, faultModeCache⟩, faultmg⟩ := state
  obtain ⟨lamps, hlamps⟩ := h.lamps
  obtain rfl : executionState = lamps.toExecution := hlamps
  have hrefused := h.refused
  obtain ⟨hignition, hhazard, hmode, hbrake, -⟩ := h.refused
  have hdenied : FeedbackState.denied
      ⟨⟨lamps.toExecution, faultModeCache⟩, faultmg⟩ ≠ [] := by
    rw [ne_eq, denied_eq_nil_iff h.coherent rfl, not_not]
    exact hrefused
  have hsoft : ∀ code ∈ FeedbackState.denied
      ⟨⟨lamps.toExecution, faultModeCache⟩, faultmg⟩,
      code ≠ LightErr.hwStateErr := by
    refine deniedCodes_ne_hwStateErr ?_
    rw [h.coherent.mode]
    exact FaultMode.toByte_injective.ne hmode
  obtain ⟨hescalation, hbelow, hbyte, hrequest, hvehicle⟩ :=
    record_soft_errors h.escalation hmode h.coherent.mode _ hsoft
  have hdark : ¬ TurnGranted
      (limitsOf faultmg.shmem.vehicleSpeed faultmg.shmem.faultMode) lamps
      faultmg.shmem.targetOutput.wanted := by
    rw [h.coherent.published.1, h.coherent.published.2,
      arbitrated_turnGranted_iff, not_not]
    exact hrefused
  have hsettled := syncOutputs_settles faultmg.shmem lamps faultModeCache
  simp only [feedbackRound, if_neg hdenied]
  generalize run FaultRequest.step faultmg _ = final
    at hescalation hbelow hbyte hrequest hvehicle ⊢
  refine ⟨⟨hbyte, recomputeTargetOutput_idem _⟩, hescalation, ?_, ?_⟩
  · exact ⟨_, congrArg LightctlMemory.executionState hsettled⟩
  · simp only [hsettled, FeedbackState.request, FeedbackState.vehicleState,
      recomputeTargetOutput, hrequest, hvehicle]
    refine ⟨hignition, hhazard, hbelow, hbrake, ?_⟩
    rw [ne_eq, turnState_eq_one_iff]
    simp [LampState.settle, hdark]

/-- The run lemma: every later round denies something again. -/
theorem hazardStuck_never_quiet {state : FeedbackState} (h : HazardStuck state)
    (rounds : Nat) : (feedbackRound^[rounds] state).denied ≠ [] := by
  have hstuck : HazardStuck (feedbackRound^[rounds] state) :=
    Function.Iterate.rec HazardStuck h (fun _ => hazardStuck_round) rounds
  obtain ⟨lamps, hlamps⟩ := hstuck.lamps
  rw [ne_eq, denied_eq_nil_iff hstuck.coherent hlamps, not_not]
  exact hstuck.refused

/-- From a reachable fault state and a reachable execution state, for any
request and vehicle state, the loop settles exactly when its first round finds
no hazard request that the guard refuses. -/
theorem feedback_settles_iff (state : FeedbackState)
    (hcoherent : FeedbackCoherent state)
    (hfault : ReachableFaultState state.faultmg.faultState)
    (hexecution : ReachableExecution state.lightctl.executionState) :
    FeedbackSettles state ↔
      ¬ HazardTurnRefused state.request state.vehicleState
        state.faultmg.faultState.mode state.lightctl.executionState := by
  obtain ⟨lamps, hlamps⟩ := hexecution.exists_lamps
  constructor
  · rintro ⟨rounds, hquiet⟩ hrefused
    have hstuck : HazardStuck state :=
      ⟨hcoherent, hfault.escalationInvariant, ⟨lamps, hlamps⟩, hrefused⟩
    exact hazardStuck_never_quiet hstuck rounds hquiet
  · intro hfree
    exact ⟨0, (denied_eq_nil_iff hcoherent hlamps).mpr hfree⟩

/-- lightctl and faultmg as init leaves them, with the scheduler's decision
for the default vehicle state and the given brake and hazard bytes. -/
def feedbackInit (brakePedal hazard : UInt8) : FeedbackState :=
  let faultmg := (faultmgInit (schedulerInit lightShmemZeroed) 0).memory
  { lightctl := lightctlInit
    faultmg := { faultmg with
      shmem := recomputeTargetOutput { faultmg.shmem with
        vehicleState := { faultmg.shmem.vehicleState with
          brakePedal := brakePedal, hazard := hazard } } } }

theorem feedbackInit_coherent (brakePedal hazard : UInt8) :
    FeedbackCoherent (feedbackInit brakePedal hazard) :=
  ⟨rfl, recomputeTargetOutput_idem _⟩

theorem feedbackInit_reachable (brakePedal hazard : UInt8) :
    ReachableFaultState (feedbackInit brakePedal hazard).faultmg.faultState ∧
      ReachableExecution
        (feedbackInit brakePedal hazard).lightctl.executionState :=
  ⟨⟨lightShmemZeroed, 0, _, Reachable.refl _, rfl⟩, reachableExecution_init⟩

theorem feedback_settles_without_brake :
    FeedbackSettles (feedbackInit 0 1) ↔
      ¬ HazardTurnRefused (feedbackInit 0 1).request
        (feedbackInit 0 1).vehicleState
        (feedbackInit 0 1).faultmg.faultState.mode
        (feedbackInit 0 1).lightctl.executionState :=
  feedback_settles_iff (feedbackInit 0 1) (feedbackInit_coherent 0 1)
    (feedbackInit_reachable 0 1).1 (feedbackInit_reachable 0 1).2

/-- Hazard lights under a pressed brake pedal, from init: no round is ever
without a denial. -/
theorem feedback_never_settles_under_brake :
    ¬ FeedbackSettles (feedbackInit 1 1) := by
  rintro ⟨rounds, hquiet⟩
  have hstart : HazardStuck (feedbackInit 1 1) :=
    ⟨feedbackInit_coherent 1 1, escalationInvariant_reset, ⟨lampsOff, rfl⟩,
      by decide⟩
  exact hazardStuck_never_quiet hstart rounds hquiet

end LightCtrl
