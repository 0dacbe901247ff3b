import LightCtrl.Domains.Lightctl

/-!
What `light_execution_plan_build` plans for any bytes: four blocks in a fixed
order, each with the actions it adds and the code it leaves in its field of
the next state. The cap of `plan_add` is never met. Executing the actions one
by one in lightctl arrives at the next state the planner predicted.
-/

namespace LightCtrl

open Runs

section Blocks

variable (wanted firstWanted secondWanted current : UInt8)

/-- The actions a one-lamp block adds. -/
def switchPlanned (onAction offAction : GpioAction) : List GpioAction :=
  if wanted ≠ 0 then (if current ≠ 1 then [onAction] else [])
  else if current ≠ 0 then [offAction] else []

/-- The code a one-lamp block predicts. -/
def switchPredicted : UInt8 := if wanted ≠ 0 then 1 else 0

/-- The actions a two-lamp block adds. -/
def selectorPlanned (firstOn firstOff secondOn secondOff : GpioAction) :
    List GpioAction :=
  if firstWanted ≠ 0 then
    if current = 2 then [secondOff, firstOn]
    else if current ≠ 1 then [firstOn] else []
  else if secondWanted ≠ 0 then
    if current = 1 then [firstOff, secondOn]
    else if current ≠ 2 then [secondOn] else []
  else if current = 1 then [firstOff]
  else if current = 2 then [secondOff]
  else []

/-- The code a two-lamp block predicts. A code that is neither lamp's stays
when no lamp is wanted. -/
def selectorPredicted : UInt8 :=
  if firstWanted ≠ 0 then 1
  else if secondWanted ≠ 0 then 2
  else if current = 1 then 0
  else if current = 2 then 0
  else current

theorem switchPlanned_length (onAction offAction : GpioAction) :
    (switchPlanned wanted current onAction offAction).length ≤ 1 := by
  unfold switchPlanned
  split_ifs <;> simp

theorem selectorPlanned_length (firstOn firstOff secondOn secondOff : GpioAction) :
    (selectorPlanned firstWanted secondWanted current firstOn firstOff secondOn
      secondOff).length ≤ 2 := by
  unfold selectorPlanned
  split_ifs <;> simp

/-- A block that starts from its own prediction has nothing to do. -/
theorem switchPlanned_settled (onAction offAction : GpioAction) :
    switchPlanned wanted (switchPredicted wanted) onAction offAction = [] := by
  unfold switchPlanned switchPredicted
  split_ifs <;> first | rfl | contradiction

theorem selectorPlanned_settled (firstOn firstOff secondOn secondOff : GpioAction) :
    selectorPlanned firstWanted secondWanted
      (selectorPredicted firstWanted secondWanted current) firstOn firstOff
      secondOn secondOff = [] := by
  unfold selectorPlanned selectorPredicted
  split_ifs <;> simp_all

end Blocks

/-- A field of the execution state that one lamp's actions write. -/
structure SwitchField where
  get : LightExecutionState → UInt8
  set : LightExecutionState → UInt8 → LightExecutionState
  onAction : GpioAction
  offAction : GpioAction
  set_get : ∀ state, set state (get state) = state
  performs_on : ∀ state,
    applyExecutionStateTransition state onAction = set state 1
  performs_off : ∀ state,
    applyExecutionStateTransition state offAction = set state 0

/-- A field that the actions of a pair of lamps write. An OFF action only
matters while its own lamp is the lit one. -/
structure SelectorField where
  get : LightExecutionState → UInt8
  set : LightExecutionState → UInt8 → LightExecutionState
  firstOn : GpioAction
  firstOff : GpioAction
  secondOn : GpioAction
  secondOff : GpioAction
  set_get : ∀ state, set state (get state) = state
  set_set : ∀ state first second, set (set state first) second = set state second
  performs_firstOn : ∀ state,
    applyExecutionStateTransition state firstOn = set state 1
  performs_firstOff : ∀ state, get state = 1 →
    applyExecutionStateTransition state firstOff = set state 0
  performs_secondOn : ∀ state,
    applyExecutionStateTransition state secondOn = set state 2
  performs_secondOff : ∀ state, get state = 2 →
    applyExecutionStateTransition state secondOff = set state 0

def brakeField : SwitchField where
  get := (·.brakeState)
  set := .setBrake
  onAction := .brakeOn
  offAction := .brakeOff
  set_get _ := rfl
  performs_on _ := rfl
  performs_off _ := rfl

def positionField : SwitchField where
  get := (·.positionState)
  set := .setPosition
  onAction := .positionOn
  offAction := .positionOff
  set_get _ := rfl
  performs_on _ := rfl
  performs_off _ := rfl

def turnField : SelectorField where
  get := (·.turnState)
  set := .setTurn
  firstOn := .turnLeftOn
  firstOff := .turnLeftOff
  secondOn := .turnRightOn
  secondOff := .turnRightOff
  set_get _ := rfl
  set_set _ _ _ := rfl
  performs_firstOn _ := rfl
  performs_firstOff _ hlit := if_pos hlit
  performs_secondOn _ := rfl
  performs_secondOff _ hlit := if_pos hlit

def beamField : SelectorField where
  get := (·.beamState)
  set := .setBeam
  firstOn := .lowBeamOn
  firstOff := .lowBeamOff
  secondOn := .highBeamOn
  secondOff := .highBeamOff
  set_get _ := rfl
  set_set _ _ _ := rfl
  performs_firstOn _ := rfl
  performs_firstOff _ hlit := if_pos hlit
  performs_secondOn _ := rfl
  performs_secondOff _ hlit := if_pos hlit

section Switch

variable (field : SwitchField) (wanted : UInt8)

/-- The block plans and predicts as told above, as long as the plan has room. -/
theorem planSwitch_eq (plan : LightExecutionPlan)
    (hroom : plan.actions.length < lightExecutionPlanMaxActions) :
    planSwitch field.onAction field.offAction field.set wanted
        (field.get plan.nextState) plan =
      { actions := plan.actions ++ switchPlanned wanted (field.get plan.nextState)
          field.onAction field.offAction
        nextState := field.set plan.nextState (switchPredicted wanted) } := by
  unfold planSwitch switchPlanned switchPredicted planAdd
  have hkept := field.set_get plan.nextState
  split_ifs with hwanted hcurrent hcurrent
  · rfl
  · rw [not_not.mp hcurrent] at hkept
    rw [hkept, List.append_nil]
  · rfl
  · rw [not_not.mp hcurrent] at hkept
    rw [hkept, List.append_nil]

/-- Executing the actions of the block leads to its prediction. -/
theorem run_switchPlanned (state : LightExecutionState) :
    run applyExecutionStateTransition state
        (switchPlanned wanted (field.get state) field.onAction field.offAction) =
      field.set state (switchPredicted wanted) := by
  unfold switchPlanned switchPredicted
  have hkept := field.set_get state
  split_ifs with hwanted hcurrent hcurrent
  · exact field.performs_on state
  · rw [not_not.mp hcurrent] at hkept
    exact hkept.symm
  · exact field.performs_off state
  · rw [not_not.mp hcurrent] at hkept
    exact hkept.symm

end Switch

section Selector

variable (field : SelectorField) (firstWanted secondWanted : UInt8)

theorem planSelector_eq (plan : LightExecutionPlan)
    (hroom : plan.actions.length + 1 < lightExecutionPlanMaxActions) :
    planSelector field.firstOn field.firstOff field.secondOn field.secondOff
        field.set firstWanted secondWanted (field.get plan.nextState) plan =
      { actions := plan.actions ++ selectorPlanned firstWanted secondWanted
          (field.get plan.nextState) field.firstOn field.firstOff field.secondOn
          field.secondOff
        nextState := field.set plan.nextState
          (selectorPredicted firstWanted secondWanted
            (field.get plan.nextState)) } := by
  have hfirst : plan.actions.length < lightExecutionPlanMaxActions :=
    Nat.lt_of_succ_lt hroom
  have hkept := field.set_get plan.nextState
  unfold planSelector selectorPlanned selectorPredicted
  split_ifs with hwantFirst hother hlit hwantSecond hother hlit hleft hright
  · simp [planAdd, hfirst, hroom]
  · simp [planAdd, hfirst, hlit]
  · rw [not_not.mp hlit] at hkept ⊢
    simp [hkept]
  · simp [planAdd, hfirst, hroom]
  · simp [planAdd, hfirst, hlit]
  · rw [not_not.mp hlit] at hkept ⊢
    simp [hkept]
  · simp [planAdd, hfirst]
  · simp [planAdd, hfirst]
  · rw [hkept, List.append_nil]

/-- Switching sides passes through the dark state and ends at the other code. -/
theorem run_selectorPlanned (state : LightExecutionState) :
    run applyExecutionStateTransition state
        (selectorPlanned firstWanted secondWanted (field.get state) field.firstOn
          field.firstOff field.secondOn field.secondOff) =
      field.set state
        (selectorPredicted firstWanted secondWanted (field.get state)) := by
  unfold selectorPlanned selectorPredicted
  have hkept := field.set_get state
  split_ifs with hwantFirst hother hlit hwantSecond hother hlit hfirst hsecond
  · rw [run_cons, run_cons, run_nil, field.performs_secondOff state hother,
      field.performs_firstOn, field.set_set]
  · exact field.performs_firstOn state
  · rw [not_not.mp hlit] at hkept
    exact hkept.symm
  · rw [run_cons, run_cons, run_nil, field.performs_firstOff state hother,
      field.performs_secondOn, field.set_set]
  · exact field.performs_secondOn state
  · rw [not_not.mp hlit] at hkept
    exact hkept.symm
  · exact field.performs_firstOff state hfirst
  · exact field.performs_secondOff state hsecond
  · exact hkept.symm

end Selector

section Plan

variable (state : LightExecutionState) (targetOutput : LightTargetOutput)

def plannedBrake : List GpioAction :=
  switchPlanned targetOutput.brakeOn state.brakeState .brakeOn .brakeOff

def plannedTurn : List GpioAction :=
  selectorPlanned targetOutput.leftTurnOn targetOutput.rightTurnOn
    state.turnState .turnLeftOn .turnLeftOff .turnRightOn .turnRightOff

def plannedBeam : List GpioAction :=
  selectorPlanned targetOutput.lowBeamOn targetOutput.highBeamOn
    state.beamState .lowBeamOn .lowBeamOff .highBeamOn .highBeamOff

def plannedPosition : List GpioAction :=
  switchPlanned targetOutput.markerOn state.positionState .positionOn
    .positionOff

def predictedState : LightExecutionState where
  turnState := selectorPredicted targetOutput.leftTurnOn targetOutput.rightTurnOn
    state.turnState
  beamState := selectorPredicted targetOutput.lowBeamOn targetOutput.highBeamOn
    state.beamState
  brakeState := switchPredicted targetOutput.brakeOn
  positionState := switchPredicted targetOutput.markerOn

/-- At most one action a switch and two a selector. -/
theorem planned_lengths :
    (plannedBrake state targetOutput).length ≤ 1 ∧
      (plannedTurn state targetOutput).length ≤ 2 ∧
      (plannedBeam state targetOutput).length ≤ 2 ∧
      (plannedPosition state targetOutput).length ≤ 1 :=
  ⟨switchPlanned_length _ _ _ _, selectorPlanned_length _ _ _ _ _ _ _,
    selectorPlanned_length _ _ _ _ _ _ _, switchPlanned_length _ _ _ _⟩

/-- The whole plan. No block sees the cap, so no action is dropped. -/
theorem planBuild_eq :
    lightExecutionPlanBuild state targetOutput =
      { actions := plannedBrake state targetOutput ++
          plannedTurn state targetOutput ++ plannedBeam state targetOutput ++
          plannedPosition state targetOutput
        nextState := predictedState state targetOutput } := by
  have hmax : lightExecutionPlanMaxActions = 8 := rfl
  obtain ⟨hbrakeLength, hturnLength, hbeamLength, -⟩ :=
    planned_lengths state targetOutput
  set afterBrake : LightExecutionPlan :=
    ⟨plannedBrake state targetOutput,
      state.setBrake (switchPredicted targetOutput.brakeOn)⟩
  have hbrakeRoom : afterBrake.actions.length ≤ 1 := hbrakeLength
  have hbrake : planBrake state targetOutput ⟨[], state⟩ = afterBrake :=
    planSwitch_eq brakeField targetOutput.brakeOn ⟨[], state⟩
      (Nat.zero_lt_succ 7)
  set afterTurn : LightExecutionPlan :=
    ⟨afterBrake.actions ++ plannedTurn state targetOutput,
      afterBrake.nextState.setTurn (predictedState state targetOutput).turnState⟩
  have hturn : planTurn state targetOutput afterBrake = afterTurn := by
    apply planSelector_eq turnField _ _ afterBrake
    omega
  set afterBeam : LightExecutionPlan :=
    ⟨afterTurn.actions ++ plannedBeam state targetOutput,
      afterTurn.nextState.setBeam (predictedState state targetOutput).beamState⟩
  have hturnRoom : afterTurn.actions.length ≤ 3 := by
    rw [List.length_append]
    omega
  have hbeam : planBeam state targetOutput afterTurn = afterBeam := by
    apply planSelector_eq beamField _ _ afterTurn
    omega
  have hbeamRoom : afterBeam.actions.length ≤ 5 := by
    rw [List.length_append]
    omega
  have hposition := planSwitch_eq positionField targetOutput.markerOn afterBeam
    (by omega)
  calc lightExecutionPlanBuild state targetOutput
      = planPosition state targetOutput afterBeam := by
        rw [lightExecutionPlanBuild, hbrake, hturn, hbeam]
    _ = _ := hposition

theorem planBuild_length :
    (lightExecutionPlanBuild state targetOutput).actions.length ≤ 6 := by
  obtain ⟨hbrake, hturn, hbeam, hposition⟩ := planned_lengths state targetOutput
  rw [planBuild_eq]
  simp only [List.length_append]
  omega

/-- lightctl arrives at the state the planner predicted. -/
theorem run_planBuild :
    run applyExecutionStateTransition state
        (lightExecutionPlanBuild state targetOutput).actions =
      (lightExecutionPlanBuild state targetOutput).nextState := by
  set afterBrake := state.setBrake (switchPredicted targetOutput.brakeOn)
  have hbrake : run applyExecutionStateTransition state
      (plannedBrake state targetOutput) = afterBrake :=
    run_switchPlanned brakeField targetOutput.brakeOn state
  set afterTurn := afterBrake.setTurn (predictedState state targetOutput).turnState
  have hturn : run applyExecutionStateTransition afterBrake
      (plannedTurn state targetOutput) = afterTurn :=
    run_selectorPlanned turnField targetOutput.leftTurnOn targetOutput.rightTurnOn
      afterBrake
  set afterBeam := afterTurn.setBeam (predictedState state targetOutput).beamState
  have hbeam : run applyExecutionStateTransition afterTurn
      (plannedBeam state targetOutput) = afterBeam :=
    run_selectorPlanned beamField targetOutput.lowBeamOn targetOutput.highBeamOn
      afterTurn
  have hposition : run applyExecutionStateTransition afterBeam
      (plannedPosition state targetOutput) = predictedState state targetOutput :=
    run_switchPlanned positionField targetOutput.markerOn afterBeam
  rw [planBuild_eq]
  simp only [run_append, hbrake, hturn, hbeam, hposition]

/-- Planning again from the prediction finds nothing to do. -/
theorem planBuild_settled :
    (lightExecutionPlanBuild (lightExecutionPlanBuild state targetOutput).nextState
      targetOutput).actions = [] := by
  have hbrake : plannedBrake (predictedState state targetOutput) targetOutput = [] :=
    switchPlanned_settled _ _ _
  have hturn : plannedTurn (predictedState state targetOutput) targetOutput = [] :=
    selectorPlanned_settled _ _ _ _ _ _ _
  have hbeam : plannedBeam (predictedState state targetOutput) targetOutput = [] :=
    selectorPlanned_settled _ _ _ _ _ _ _
  have hposition :
      plannedPosition (predictedState state targetOutput) targetOutput = [] :=
    switchPlanned_settled _ _ _
  rw [planBuild_eq state, planBuild_eq (predictedState state targetOutput), hbrake,
    hturn, hbeam, hposition]
  rfl

end Plan

end LightCtrl
