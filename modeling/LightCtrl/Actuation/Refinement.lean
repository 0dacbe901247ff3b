import LightCtrl.Actuation.Lamps
import LightCtrl.Actuation.Planning

/-!
lightctl's execution state and loop refine the lamp model: the bytes are codes
of a lamp state, the plan is the plan of the model, the guard permits what the
limits of the current speed and mode permit, and one iteration is one step.
So every run of `sync_outputs` settles, and the execution states it can reach
are exactly codes of lamp states.
-/

namespace LightCtrl

open Runs

def Selector.code : Selector → UInt8
  | .off => 0
  | .first => 1
  | .second => 2

def switchCode (lit : Bool) : UInt8 := if lit then 1 else 0

theorem Selector.code_le (side : Selector) : side.code ≤ 2 := by
  cases side <;> decide

theorem switchCode_le (lit : Bool) : switchCode lit ≤ 1 := by
  cases lit <;> decide

def LampState.toExecution (lamps : LampState) : LightExecutionState where
  turnState := lamps.turn.code
  beamState := lamps.beam.code
  brakeState := switchCode lamps.brake
  positionState := switchCode lamps.position

theorem LampState.toExecution_injective : Function.Injective LampState.toExecution := by
  have hselector : Function.Injective Selector.code := by
    intro left right heq
    cases left <;> cases right <;> first | rfl | cases heq
  have hswitch : Function.Injective switchCode := by
    intro left right heq
    cases left <;> cases right <;> first | rfl | cases heq
  rintro ⟨turn, beam, brake, position⟩ ⟨turn', beam', brake', position'⟩ heq
  simp only [LampState.toExecution, LightExecutionState.mk.injEq] at heq
  obtain ⟨hturn, hbeam, hbrake, hposition⟩ := heq
  rw [hselector hturn, hselector hbeam, hswitch hbrake, hswitch hposition]

/-- The side a pair of target bytes asks for; the first takes precedence. -/
def selectedSide (firstWanted secondWanted : UInt8) : Selector :=
  if firstWanted ≠ 0 then .first else if secondWanted ≠ 0 then .second else .off

/-- The lamp state a target asks for. -/
def LightTargetOutput.wanted (targetOutput : LightTargetOutput) : LampState where
  turn := selectedSide targetOutput.leftTurnOn targetOutput.rightTurnOn
  beam := selectedSide targetOutput.lowBeamOn targetOutput.highBeamOn
  brake := targetOutput.brakeOn ≠ 0
  position := targetOutput.markerOn ≠ 0

/-- The limits a speed and a published mode set. -/
def limitsOf (vehicleSpeed : UInt16) (faultMode : UInt8) : Limits where
  turn := faultMode ≠ FaultMode.safeMode.toByte && vehicleSpeed ≤ 120
  highBeam := faultMode ≠ FaultMode.safeMode.toByte
    && faultMode ≠ FaultMode.degraded.toByte && 10 ≤ vehicleSpeed

/-- On codes of lamp states the blocks plan what the model plans. -/
theorem switchPlanned_code (onAction offAction : GpioAction) (wanted : UInt8)
    (current : Bool) :
    switchPlanned wanted (switchCode current) onAction offAction =
      switchActions onAction offAction current (wanted ≠ 0) := by
  by_cases hwanted : wanted = 0 <;> cases current <;>
    simp [switchPlanned, switchActions, switchCode, hwanted]

theorem selectorPlanned_code (firstOn firstOff secondOn secondOff : GpioAction)
    (firstWanted secondWanted : UInt8) (current : Selector) :
    selectorPlanned firstWanted secondWanted current.code firstOn firstOff
        secondOn secondOff =
      selectorActions firstOn firstOff secondOn secondOff current
        (selectedSide firstWanted secondWanted) := by
  by_cases hfirst : firstWanted = 0 <;> by_cases hsecond : secondWanted = 0 <;>
    cases current <;>
    simp [selectorPlanned, selectorActions, selectedSide, Selector.code, hfirst,
      hsecond]

/-- The plan of the source is the model's plan. -/
theorem plannedActions_toExecution (lamps : LampState)
    (targetOutput : LightTargetOutput) :
    plannedActions lamps.toExecution targetOutput =
      lamps.plan targetOutput.wanted := by
  have hbrake : plannedBrake lamps.toExecution targetOutput =
      brakeActions lamps.brake targetOutput.wanted.brake :=
    switchPlanned_code _ _ _ lamps.brake
  have hturn : plannedTurn lamps.toExecution targetOutput =
      turnActions lamps.turn targetOutput.wanted.turn :=
    selectorPlanned_code _ _ _ _ _ _ lamps.turn
  have hbeam : plannedBeam lamps.toExecution targetOutput =
      beamActions lamps.beam targetOutput.wanted.beam :=
    selectorPlanned_code _ _ _ _ _ _ lamps.beam
  have hposition : plannedPosition lamps.toExecution targetOutput =
      positionActions lamps.position targetOutput.wanted.position :=
    switchPlanned_code _ _ _ lamps.position
  rw [plannedActions, planBuild_eq, hbrake, hturn, hbeam, hposition]
  simp only [LampState.plan, List.append_assoc]

section Mirror

variable (vehicleSpeed : UInt16) (faultMode : UInt8) (lamps : LampState)

/-- The guard permits an action exactly when the limits do. -/
theorem guardVerdict_allowed (action : GpioAction) :
    (guardVerdict vehicleSpeed faultMode lamps.toExecution action).allowed =
      lamps.permits (limitsOf vehicleSpeed faultMode) action := by
  have hbrake : lamps.toExecution.brakeState ≠ 1 ↔ lamps.brake = false := by
    cases hcase : lamps.brake <;> simp [LampState.toExecution, switchCode, hcase]
  have hbeam : lamps.toExecution.beamState ≠ 2 ↔ lamps.beam ≠ .second := by
    cases hcase : lamps.beam <;>
      simp [LampState.toExecution, Selector.code, hcase]
  rw [Bool.eq_iff_iff, guardVerdict, guard_allows_iff]
  simp only [runtimeGuardContext, hbrake, hbeam]
  cases action <;>
    simp [LampState.permits, limitsOf, and_assoc]

theorem transition_toExecution (action : GpioAction) :
    applyExecutionStateTransition lamps.toExecution action =
      (lamps.perform action).toExecution := by
  obtain ⟨turn, beam, brake, position⟩ := lamps
  cases action <;> cases turn <;> cases beam <;> rfl

/-- One iteration of the loop is one step of the model. -/
theorem syncIteration_toExecution (action : GpioAction) :
    syncIteration vehicleSpeed faultMode lamps.toExecution action =
      (lamps.step (limitsOf vehicleSpeed faultMode) action).toExecution := by
  simp only [syncIteration, LampState.step, guardVerdict_allowed,
    transition_toExecution]
  split <;> rfl

/-- Running the loop over any actions is running the model over them. -/
theorem run_syncIteration_toExecution (actions : List GpioAction) :
    run (syncIteration vehicleSpeed faultMode) lamps.toExecution actions =
      (run (LampState.step (limitsOf vehicleSpeed faultMode)) lamps
        actions).toExecution :=
  run_simulation LampState.toExecution
    (fun state action => syncIteration_toExecution vehicleSpeed faultMode state
      action) lamps actions

theorem everyStep_syncIteration_toExecution
    {holds : LightExecutionState → GpioAction → Prop}
    (actions : List GpioAction) :
    EveryStep (syncIteration vehicleSpeed faultMode) holds lamps.toExecution
        actions ↔
      EveryStep (LampState.step (limitsOf vehicleSpeed faultMode))
        (fun state => holds state.toExecution) lamps actions :=
  everyStep_simulation LampState.toExecution
    (fun state action => syncIteration_toExecution vehicleSpeed faultMode state
      action) lamps actions

end Mirror

/-- A whole `sync_outputs` run settles the lamps at its target under the
limits of its speed and mode. -/
theorem syncOutputs_settles (shmem : LightShmem) (lamps : LampState)
    (faultModeCache : UInt8) :
    (syncOutputs shmem ⟨lamps.toExecution, faultModeCache⟩).1 =
      ⟨(lamps.settle (limitsOf shmem.vehicleSpeed shmem.faultMode)
        shmem.targetOutput.wanted).toExecution, shmem.faultMode⟩ := by
  simp only [syncOutputs, plannedActions_toExecution,
    run_syncIteration_toExecution, LampState.run_plan]

/-- Every reachable execution state is the code of a lamp state. -/
theorem ReachableExecution.exists_lamps {state : LightExecutionState}
    (hreach : ReachableExecution state) :
    ∃ lamps : LampState, state = lamps.toExecution := by
  obtain ⟨memory, hmemory, rfl⟩ := hreach
  refine Reachable.invariant
    (fun current : LightctlMemory =>
      ∃ lamps : LampState, current.executionState = lamps.toExecution)
    ?_ hmemory ⟨lampsOff, rfl⟩
  rintro ⟨executionState, faultModeCache⟩ shmem ⟨lamps, hlamps⟩
  obtain rfl : executionState = lamps.toExecution := hlamps
  exact ⟨_, congrArg LightctlMemory.executionState
    (syncOutputs_settles shmem lamps faultModeCache)⟩

end LightCtrl
