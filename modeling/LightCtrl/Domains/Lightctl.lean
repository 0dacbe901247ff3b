import LightCtrl.Core.Execution
import LightCtrl.Library.Runs

/-!
`src/domains/lightctl.c`: the protection domain that executes targets. One
iteration of the loop in `sync_outputs` is a step of the execution state and
emits one effect; the loop is the run over the actions of the plan. The
shared-state contract check is only logged and is left out.
-/

namespace LightCtrl

open Runs

structure LightctlMemory where
  executionState : LightExecutionState
  faultModeCache : UInt8
  deriving DecidableEq, Repr

/-- What lightctl does to other domains: a notification on a gpio channel, or
a code put into message register zero before notifying faultmg. -/
inductive LightctlEffect where
  | gpio (action : GpioAction)
  | fault (errorCode : UInt8)
  deriving DecidableEq, Repr

def lightctlInit : LightctlMemory where
  executionState := lightExecutionStateInit
  faultModeCache := FaultMode.normal.toByte

section Iteration

variable (vehicleSpeed : UInt16) (faultMode : UInt8)

def runtimeGuardContext (state : LightExecutionState) :
    LightRuntimeGuardContext where
  vehicleSpeed := vehicleSpeed
  lastTurnState := state.turnState
  lastBeamState := state.beamState
  lastBrakeState := state.brakeState
  lastPositionState := state.positionState
  faultMode := faultMode

/-- The guard's verdict on the action in the state reached so far. -/
def guardVerdict (state : LightExecutionState) (action : GpioAction) :
    LightRuntimeGuardResult :=
  lightRuntimeGuardCheckAction action
    (runtimeGuardContext vehicleSpeed faultMode state)

def applyExecutionStateTransition (state : LightExecutionState) :
    GpioAction → LightExecutionState
  | .turnLeftOn => state.setTurn 1
  | .turnLeftOff => if state.turnState = 1 then state.setTurn 0 else state
  | .turnRightOn => state.setTurn 2
  | .turnRightOff => if state.turnState = 2 then state.setTurn 0 else state
  | .brakeOn => state.setBrake 1
  | .brakeOff => state.setBrake 0
  | .lowBeamOn => state.setBeam 1
  | .lowBeamOff => if state.beamState = 1 then state.setBeam 0 else state
  | .highBeamOn => state.setBeam 2
  | .highBeamOff => if state.beamState = 2 then state.setBeam 0 else state
  | .positionOn => state.setPosition 1
  | .positionOff => state.setPosition 0

/-- One iteration of the loop, as a change of the execution state. -/
def syncIteration (state : LightExecutionState) (action : GpioAction) :
    LightExecutionState :=
  if (guardVerdict vehicleSpeed faultMode state action).allowed then
    applyExecutionStateTransition state action
  else state

/-- The effect of the same iteration. -/
def syncEffect (state : LightExecutionState) (action : GpioAction) :
    List LightctlEffect :=
  let result := guardVerdict vehicleSpeed faultMode state action
  if result.allowed then [.gpio action]
  else if result.reportFault then [.fault result.errorCode]
  else []

theorem syncEffect_of_allowed {state : LightExecutionState} {action : GpioAction}
    (hallowed :
      (guardVerdict vehicleSpeed faultMode state action).allowed = true) :
    syncEffect vehicleSpeed faultMode state action = [.gpio action] := by
  simp [syncEffect, hallowed]

/-- Every denial is reported to faultmg. -/
theorem syncEffect_of_denied {state : LightExecutionState} {action : GpioAction}
    (hdenied :
      (guardVerdict vehicleSpeed faultMode state action).allowed = false) :
    syncEffect vehicleSpeed faultMode state action =
      [.fault (guardVerdict vehicleSpeed faultMode state action).errorCode] := by
  have hreported :
      (guardVerdict vehicleSpeed faultMode state action).reportFault = true :=
    (guard_denied hdenied).1
  simp [syncEffect, hdenied, hreported]

end Iteration

/-- The actions `sync_outputs` plans in this state. -/
def plannedActions (state : LightExecutionState)
    (targetOutput : LightTargetOutput) : List GpioAction :=
  (lightExecutionPlanBuild state targetOutput).actions

def syncOutputs (shmem : LightShmem) (memory : LightctlMemory) :
    LightctlMemory × List LightctlEffect :=
  let actions := plannedActions memory.executionState shmem.targetOutput
  ({ executionState :=
       run (syncIteration shmem.vehicleSpeed shmem.faultMode)
         memory.executionState actions
     faultModeCache := shmem.faultMode },
   outputs (syncIteration shmem.vehicleSpeed shmem.faultMode)
     (syncEffect shmem.vehicleSpeed shmem.faultMode)
     memory.executionState actions)

def lightctlNotified (channel : MicrokitChannel) (shmem : LightShmem)
    (memory : LightctlMemory) : LightctlMemory × List LightctlEffect :=
  if channel ≠ LightCh.lightctlFromScheduler then
    (memory, [.fault LightErr.invalidCmd])
  else syncOutputs shmem memory

/-- An execution state that some sequence of `sync_outputs` runs reaches from
init, whatever the shared memory holds before each run. -/
def ReachableExecution (state : LightExecutionState) : Prop :=
  ∃ memory : LightctlMemory,
    Reachable (fun current shmem => (syncOutputs shmem current).1)
      lightctlInit memory ∧ memory.executionState = state

end LightCtrl
