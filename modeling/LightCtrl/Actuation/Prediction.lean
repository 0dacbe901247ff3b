import LightCtrl.Actuation.Planning

/-!
The planner against the executor, from any execution state and for any target
bytes. The order inside a plan matters as well: where a plan switches from one
lamp of a pair to the other, the lit lamp goes off first. Only the turn block
plans turn actions and only the beam block plans beam actions, so the order
inside each block is the order in the plan.
-/

namespace LightCtrl

open Runs

/-- The OFF action of one lamp of a pair with the ON action of the other. -/
def oppositeSides : List (GpioAction × GpioAction) :=
  [(.turnLeftOff, .turnRightOn), (.turnRightOff, .turnLeftOn),
    (.lowBeamOff, .highBeamOn), (.highBeamOff, .lowBeamOn)]

/-- The lamp an OFF action is for is lit. -/
def litBefore (state : LightExecutionState) : GpioAction → Bool
  | .turnLeftOff => state.turnState = 1
  | .turnRightOff => state.turnState = 2
  | .lowBeamOff => state.beamState = 1
  | .highBeamOff => state.beamState = 2
  | _ => false

/-- The two actions may stand in this order. -/
def InOrder (earlier later : GpioAction) : Prop :=
  (later, earlier) ∉ oppositeSides

instance (earlier later : GpioAction) : Decidable (InOrder earlier later) :=
  inferInstanceAs (Decidable (_ ∉ _))

def turnActionSet : List GpioAction :=
  [.turnLeftOn, .turnLeftOff, .turnRightOn, .turnRightOff]

def beamActionSet : List GpioAction :=
  [.lowBeamOn, .lowBeamOff, .highBeamOn, .highBeamOff]

section Order

variable (state : LightExecutionState) (targetOutput : LightTargetOutput)

theorem switchPlanned_subset (wanted current : UInt8)
    (onAction offAction : GpioAction) :
    switchPlanned wanted current onAction offAction ⊆ [onAction, offAction] := by
  unfold switchPlanned
  split_ifs <;> simp

theorem plannedTurn_subset : plannedTurn state targetOutput ⊆ turnActionSet := by
  unfold plannedTurn selectorPlanned
  split_ifs <;> decide

theorem plannedBeam_subset : plannedBeam state targetOutput ⊆ beamActionSet := by
  unfold plannedBeam selectorPlanned
  split_ifs <;> decide

theorem plannedTurn_inOrder : (plannedTurn state targetOutput).Pairwise InOrder := by
  unfold plannedTurn selectorPlanned
  split_ifs <;> decide

theorem plannedBeam_inOrder : (plannedBeam state targetOutput).Pairwise InOrder := by
  unfold plannedBeam selectorPlanned
  split_ifs <;> decide

theorem inOrder_of_no_on {earlier : GpioAction}
    (hother : ∀ pair ∈ oppositeSides, pair.2 ≠ earlier) (later : GpioAction) :
    InOrder earlier later :=
  fun hpair => hother _ hpair rfl

theorem inOrder_of_no_off {later : GpioAction}
    (hother : ∀ pair ∈ oppositeSides, pair.1 ≠ later) (earlier : GpioAction) :
    InOrder earlier later :=
  fun hpair => hother _ hpair rfl

/-- Only the turn and beam blocks plan opposite actions, and neither plans an
action of the other's lamps. -/
theorem planBuild_inOrder :
    (lightExecutionPlanBuild state targetOutput).actions.Pairwise InOrder := by
  have hbrakeSet : plannedBrake state targetOutput ⊆ [.brakeOn, .brakeOff] :=
    switchPlanned_subset _ _ _ _
  have hpositionSet :
      plannedPosition state targetOutput ⊆ [.positionOn, .positionOff] :=
    switchPlanned_subset _ _ _ _
  have hbrakeFree : ∀ action ∈ plannedBrake state targetOutput,
      ∀ later, InOrder action later := by
    have hfree : ∀ action ∈ [GpioAction.brakeOn, .brakeOff],
        ∀ pair ∈ oppositeSides, pair.2 ≠ action := by decide
    exact fun action hmember => inOrder_of_no_on (hfree action (hbrakeSet hmember))
  have hpositionFree : ∀ action ∈ plannedPosition state targetOutput,
      ∀ earlier, InOrder earlier action := by
    have hfree : ∀ action ∈ [GpioAction.positionOn, .positionOff],
        ∀ pair ∈ oppositeSides, pair.1 ≠ action := by decide
    exact fun action hmember =>
      inOrder_of_no_off (hfree action (hpositionSet hmember))
  have hpairs : ∀ turn ∈ turnActionSet, ∀ beam ∈ beamActionSet,
      InOrder turn beam := by decide
  have hbrake : (plannedBrake state targetOutput).Pairwise InOrder :=
    List.pairwise_of_forall_mem_list fun action hmember later _ =>
      hbrakeFree action hmember later
  have hposition : (plannedPosition state targetOutput).Pairwise InOrder :=
    List.pairwise_of_forall_mem_list fun earlier _ action hmember =>
      hpositionFree action hmember earlier
  rw [planBuild_eq]
  simp only [List.pairwise_append]
  refine ⟨⟨⟨hbrake, plannedTurn_inOrder state targetOutput, ?_⟩,
    plannedBeam_inOrder state targetOutput, ?_⟩, hposition, ?_⟩
  · exact fun action hmember later _ => hbrakeFree action hmember later
  · intro earlier hearlier later hlater
    rcases List.mem_append.mp hearlier with hmember | hmember
    · exact hbrakeFree earlier hmember later
    · exact hpairs earlier (plannedTurn_subset _ _ hmember) later
        (plannedBeam_subset _ _ hlater)
  · exact fun earlier _ action hmember => hpositionFree action hmember earlier

theorem mem_planBuild {action : GpioAction} :
    action ∈ (lightExecutionPlanBuild state targetOutput).actions ↔
      action ∈ plannedBrake state targetOutput ∨
        action ∈ plannedTurn state targetOutput ∨
        action ∈ plannedBeam state targetOutput ∨
        action ∈ plannedPosition state targetOutput := by
  rw [planBuild_eq]
  simp only [List.mem_append, or_assoc]

theorem mem_plannedTurn {action : GpioAction} (hturn : action ∈ turnActionSet)
    (hmember : action ∈ (lightExecutionPlanBuild state targetOutput).actions) :
    action ∈ plannedTurn state targetOutput := by
  have hdisjoint : ∀ other ∈ turnActionSet,
      other ∉ [GpioAction.brakeOn, .brakeOff] ∧ other ∉ beamActionSet ∧
        other ∉ [GpioAction.positionOn, .positionOff] := by decide
  obtain ⟨hbrake, hbeam, hposition⟩ := hdisjoint action hturn
  rcases (mem_planBuild state targetOutput).mp hmember with h | h | h | h
  · exact absurd (switchPlanned_subset _ _ _ _ h) hbrake
  · exact h
  · exact absurd (plannedBeam_subset _ _ h) hbeam
  · exact absurd (switchPlanned_subset _ _ _ _ h) hposition

theorem mem_plannedBeam {action : GpioAction} (hbeam : action ∈ beamActionSet)
    (hmember : action ∈ (lightExecutionPlanBuild state targetOutput).actions) :
    action ∈ plannedBeam state targetOutput := by
  have hdisjoint : ∀ other ∈ beamActionSet,
      other ∉ [GpioAction.brakeOn, .brakeOff] ∧ other ∉ turnActionSet ∧
        other ∉ [GpioAction.positionOn, .positionOff] := by decide
  obtain ⟨hbrake, hturn, hposition⟩ := hdisjoint action hbeam
  rcases (mem_planBuild state targetOutput).mp hmember with h | h | h | h
  · exact absurd (switchPlanned_subset _ _ _ _ h) hbrake
  · exact absurd (plannedTurn_subset _ _ h) hturn
  · exact h
  · exact absurd (switchPlanned_subset _ _ _ _ h) hposition

/-- A block that turns the second lamp on puts a lit first lamp out. -/
theorem selectorPlanned_second_off (firstWanted secondWanted : UInt8)
    {firstOn firstOff secondOn secondOff : GpioAction}
    (hown : secondOn ≠ firstOff)
    (hon : secondOn ∈ selectorPlanned firstWanted secondWanted 1 firstOn firstOff
      secondOn secondOff) :
    firstOff ∈ selectorPlanned firstWanted secondWanted 1 firstOn firstOff
      secondOn secondOff := by
  by_cases hfirst : firstWanted = 0 <;> by_cases hsecond : secondWanted = 0 <;>
    simp [selectorPlanned, hfirst, hsecond, hown] at hon ⊢

theorem selectorPlanned_first_off (firstWanted secondWanted : UInt8)
    {firstOn firstOff secondOn secondOff : GpioAction}
    (hown : firstOn ≠ secondOff)
    (hon : firstOn ∈ selectorPlanned firstWanted secondWanted 2 firstOn firstOff
      secondOn secondOff) :
    secondOff ∈ selectorPlanned firstWanted secondWanted 2 firstOn firstOff
      secondOn secondOff := by
  by_cases hfirst : firstWanted = 0 <;> by_cases hsecond : secondWanted = 0 <;>
    simp [selectorPlanned, hfirst, hsecond, hown] at hon ⊢

/-- A plan that lights one lamp of a pair puts out the other if that is lit. -/
theorem planBuild_puts_out {off on : GpioAction}
    (hpair : (off, on) ∈ oppositeSides) (hlit : litBefore state off = true)
    (hon : on ∈ (lightExecutionPlanBuild state targetOutput).actions) :
    off ∈ (lightExecutionPlanBuild state targetOutput).actions := by
  have hturnPart : ∀ action ∈ plannedTurn state targetOutput,
      action ∈ (lightExecutionPlanBuild state targetOutput).actions :=
    fun _ hmember => (mem_planBuild state targetOutput).mpr (Or.inr (Or.inl hmember))
  have hbeamPart : ∀ action ∈ plannedBeam state targetOutput,
      action ∈ (lightExecutionPlanBuild state targetOutput).actions :=
    fun _ hmember => (mem_planBuild state targetOutput).mpr
      (Or.inr (Or.inr (Or.inl hmember)))
  simp only [oppositeSides, List.mem_cons, Prod.mk.injEq, List.not_mem_nil,
    or_false] at hpair
  rcases hpair with ⟨rfl, rfl⟩ | ⟨rfl, rfl⟩ | ⟨rfl, rfl⟩ | ⟨rfl, rfl⟩
  · have hcode : state.turnState = 1 := by simpa [litBefore] using hlit
    have hblock := mem_plannedTurn state targetOutput (by decide) hon
    apply hturnPart
    rw [plannedTurn, hcode] at hblock ⊢
    exact selectorPlanned_second_off _ _ (by decide) hblock
  · have hcode : state.turnState = 2 := by simpa [litBefore] using hlit
    have hblock := mem_plannedTurn state targetOutput (by decide) hon
    apply hturnPart
    rw [plannedTurn, hcode] at hblock ⊢
    exact selectorPlanned_first_off _ _ (by decide) hblock
  · have hcode : state.beamState = 1 := by simpa [litBefore] using hlit
    have hblock := mem_plannedBeam state targetOutput (by decide) hon
    apply hbeamPart
    rw [plannedBeam, hcode] at hblock ⊢
    exact selectorPlanned_second_off _ _ (by decide) hblock
  · have hcode : state.beamState = 2 := by simpa [litBefore] using hlit
    have hblock := mem_plannedBeam state targetOutput (by decide) hon
    apply hbeamPart
    rw [plannedBeam, hcode] at hblock ⊢
    exact selectorPlanned_first_off _ _ (by decide) hblock

/-- Wherever a plan lights a lamp, the OFF action of the other lamp of its
pair does not come later, and it has come before if that lamp was lit. -/
theorem planBuild_off_first {off on : GpioAction}
    (hpair : (off, on) ∈ oppositeSides) {before after : List GpioAction}
    (hsplit : (lightExecutionPlanBuild state targetOutput).actions =
      before ++ on :: after) :
    off ∉ after ∧ (litBefore state off = true → off ∈ before) := by
  have horder := planBuild_inOrder state targetOutput
  rw [hsplit, List.pairwise_append, List.pairwise_cons] at horder
  have hlater : off ∉ after :=
    fun hmember => horder.2.1.1 off hmember hpair
  refine ⟨hlater, fun hlit => ?_⟩
  have hdistinct : ∀ pair ∈ oppositeSides, pair.1 ≠ pair.2 := by decide
  have hplanned := planBuild_puts_out state targetOutput hpair hlit
    (by rw [hsplit]; simp)
  rw [hsplit, List.mem_append, List.mem_cons] at hplanned
  rcases hplanned with hmember | hmember | hmember
  · exact hmember
  · exact absurd hmember (hdistinct _ hpair)
  · exact absurd hmember hlater

/-- From every execution state and for every target: executing the plan leads
to the predicted state, planning again from there finds nothing to do, the
plan has at most six actions, and in it the OFF action of one lamp of a pair
comes before the ON action of the other. -/
theorem planner_executor_agree :
    run applyExecutionStateTransition state
        (lightExecutionPlanBuild state targetOutput).actions =
      (lightExecutionPlanBuild state targetOutput).nextState ∧
    (lightExecutionPlanBuild
      (lightExecutionPlanBuild state targetOutput).nextState
      targetOutput).actions = [] ∧
    (lightExecutionPlanBuild state targetOutput).actions.length ≤ 6 ∧
    ∀ off on, (off, on) ∈ oppositeSides → ∀ before after,
      (lightExecutionPlanBuild state targetOutput).actions =
          before ++ on :: after →
        off ∉ after ∧ (litBefore state off = true → off ∈ before) := by
  refine ⟨run_planBuild state targetOutput, planBuild_settled state targetOutput,
    planBuild_length state targetOutput, ?_⟩
  intro off on hpair before after hsplit
  exact planBuild_off_first state targetOutput hpair hsplit

end Order

end LightCtrl
