import LightCtrl.Core.Protocol
import LightCtrl.Library.Runs

/-!
What actuation is for, without bytes, channels or registers. Two selectors
(turn and beam) each light at most one of two lamps, and two switches (brake
and position) light one lamp each, so a state with both lamps of a pair lit
cannot be written down. A plan takes the lamps to a wanted state one action at
a time, and limits may refuse some of the actions on the way.
-/

namespace LightCtrl

open Runs

/-- A pair of lamps of which at most one is lit. -/
inductive Selector where
  | off
  | first
  | second
  deriving DecidableEq, Repr

/-- First of `turn` is left, first of `beam` is low. -/
structure LampState where
  turn : Selector
  beam : Selector
  brake : Bool
  position : Bool
  deriving DecidableEq, Repr

/-- Which risky actions the surroundings leave open. -/
structure Limits where
  turn : Bool
  highBeam : Bool
  deriving DecidableEq, Repr

def lampsOff : LampState where
  turn := .off
  beam := .off
  brake := false
  position := false

/-- A turn lamp goes on only within the limits and while the brake lamp is
dark; the low beam never goes off under a lit high beam. -/
def LampState.permits (limits : Limits) (lamps : LampState) : GpioAction → Bool
  | .turnLeftOn => limits.turn && !lamps.brake
  | .turnRightOn => limits.turn && !lamps.brake
  | .highBeamOn => limits.highBeam
  | .lowBeamOff => lamps.beam ≠ .second
  | _ => true

def LampState.perform (lamps : LampState) : GpioAction → LampState
  | .turnLeftOn => { lamps with turn := .first }
  | .turnLeftOff => if lamps.turn = .first then { lamps with turn := .off } else lamps
  | .turnRightOn => { lamps with turn := .second }
  | .turnRightOff => if lamps.turn = .second then { lamps with turn := .off } else lamps
  | .brakeOn => { lamps with brake := true }
  | .brakeOff => { lamps with brake := false }
  | .lowBeamOn => { lamps with beam := .first }
  | .lowBeamOff => if lamps.beam = .first then { lamps with beam := .off } else lamps
  | .highBeamOn => { lamps with beam := .second }
  | .highBeamOff => if lamps.beam = .second then { lamps with beam := .off } else lamps
  | .positionOn => { lamps with position := true }
  | .positionOff => { lamps with position := false }

/-- A refused action leaves the lamps as they are. -/
def LampState.step (limits : Limits) (lamps : LampState) (action : GpioAction) :
    LampState :=
  if lamps.permits limits action then lamps.perform action else lamps

def switchActions (onAction offAction : GpioAction) :
    Bool → Bool → List GpioAction
  | false, true => [onAction]
  | true, false => [offAction]
  | _, _ => []

/-- From the current side to the wanted one, with the other side off first. -/
def selectorActions (firstOn firstOff secondOn secondOff : GpioAction) :
    Selector → Selector → List GpioAction
  | .off, .first => [firstOn]
  | .off, .second => [secondOn]
  | .first, .off => [firstOff]
  | .first, .second => [firstOff, secondOn]
  | .second, .off => [secondOff]
  | .second, .first => [secondOff, firstOn]
  | _, _ => []

abbrev brakeActions := switchActions .brakeOn .brakeOff
abbrev turnActions :=
  selectorActions .turnLeftOn .turnLeftOff .turnRightOn .turnRightOff
abbrev beamActions :=
  selectorActions .lowBeamOn .lowBeamOff .highBeamOn .highBeamOff
abbrev positionActions := switchActions .positionOn .positionOff

def LampState.plan (lamps wanted : LampState) : List GpioAction :=
  brakeActions lamps.brake wanted.brake ++
    (turnActions lamps.turn wanted.turn ++
      (beamActions lamps.beam wanted.beam ++
        positionActions lamps.position wanted.position))

/-- The turn lamps may go to the wanted side, judged with the brake lamp as
wanted, since it is set first. -/
def TurnGranted (limits : Limits) (lamps wanted : LampState) : Prop :=
  wanted.turn = .off ∨ wanted.turn = lamps.turn ∨
    (limits.turn = true ∧ wanted.brake = false)

/-- The forward lamps may go to the wanted beam. -/
def BeamGranted (limits : Limits) (lamps wanted : LampState) : Prop :=
  wanted.beam ≠ .second ∨ wanted.beam = lamps.beam ∨ limits.highBeam = true

instance (limits : Limits) (lamps wanted : LampState) :
    Decidable (TurnGranted limits lamps wanted) :=
  inferInstanceAs (Decidable (_ ∨ _ ∨ _))

instance (limits : Limits) (lamps wanted : LampState) :
    Decidable (BeamGranted limits lamps wanted) :=
  inferInstanceAs (Decidable (_ ∨ _ ∨ _))

/-- The other lamp of the pair is dark when this one is to go on. -/
def LampState.OtherSideDark (lamps : LampState) : GpioAction → Prop
  | .turnLeftOn => lamps.turn ≠ .second
  | .turnRightOn => lamps.turn ≠ .first
  | .lowBeamOn => lamps.beam ≠ .second
  | .highBeamOn => lamps.beam ≠ .first
  | _ => True

/-- Where a plan ends: at the wanted state, except that a pair whose new side
is refused ends dark. -/
def LampState.settle (limits : Limits) (lamps wanted : LampState) : LampState where
  turn := if TurnGranted limits lamps wanted then wanted.turn else .off
  beam := if BeamGranted limits lamps wanted then wanted.beam else .off
  brake := wanted.brake
  position := wanted.position

section Blocks

variable (limits : Limits) (lamps : LampState)

private theorem run_brakeActions (wanted : Bool) :
    run (LampState.step limits) lamps (brakeActions lamps.brake wanted) =
      { lamps with brake := wanted } := by
  obtain ⟨turn, beam, brake, position⟩ := lamps
  cases brake <;> cases wanted <;> rfl

private theorem run_positionActions (wanted : Bool) :
    run (LampState.step limits) lamps (positionActions lamps.position wanted) =
      { lamps with position := wanted } := by
  obtain ⟨turn, beam, brake, position⟩ := lamps
  cases position <;> cases wanted <;> rfl

private theorem run_turnActions (wanted : LampState)
    (hbrake : lamps.brake = wanted.brake) :
    run (LampState.step limits) lamps (turnActions lamps.turn wanted.turn) =
      { lamps with
        turn := if TurnGranted limits lamps wanted then wanted.turn else .off } := by
  obtain ⟨turn, beam, brake, position⟩ := lamps
  obtain ⟨wantedTurn, wantedBeam, wantedBrake, wantedPosition⟩ := wanted
  obtain ⟨limitTurn, limitHigh⟩ := limits
  obtain rfl : brake = wantedBrake := hbrake
  cases turn <;> cases wantedTurn <;> cases brake <;> cases limitTurn <;> rfl

private theorem run_beamActions (wanted : LampState) :
    run (LampState.step limits) lamps (beamActions lamps.beam wanted.beam) =
      { lamps with
        beam := if BeamGranted limits lamps wanted then wanted.beam else .off } := by
  obtain ⟨turn, beam, brake, position⟩ := lamps
  obtain ⟨wantedTurn, wantedBeam, wantedBrake, wantedPosition⟩ := wanted
  obtain ⟨limitTurn, limitHigh⟩ := limits
  cases beam <;> cases wantedBeam <;> cases limitHigh <;> rfl

end Blocks

/-- The lamps between the blocks of a plan. -/
def LampState.afterBrake (lamps wanted : LampState) : LampState :=
  { lamps with brake := wanted.brake }

def LampState.afterTurn (limits : Limits) (lamps wanted : LampState) : LampState :=
  { lamps.afterBrake wanted with
    turn := if TurnGranted limits lamps wanted then wanted.turn else .off }

def LampState.afterBeam (limits : Limits) (lamps wanted : LampState) : LampState :=
  { lamps.afterTurn limits wanted with
    beam := if BeamGranted limits lamps wanted then wanted.beam else .off }

section Plans

variable (limits : Limits) (lamps wanted : LampState)

private theorem run_throughTurn :
    run (LampState.step limits) (lamps.afterBrake wanted)
        (turnActions lamps.turn wanted.turn) = lamps.afterTurn limits wanted :=
  run_turnActions limits (lamps.afterBrake wanted) wanted rfl

private theorem run_throughBeam :
    run (LampState.step limits) (lamps.afterTurn limits wanted)
        (beamActions lamps.beam wanted.beam) = lamps.afterBeam limits wanted :=
  run_beamActions limits (lamps.afterTurn limits wanted) wanted

/-- The run lemma: executing a plan under limits ends in the settled state. -/
theorem LampState.run_plan :
    run (LampState.step limits) lamps (lamps.plan wanted) =
      lamps.settle limits wanted := by
  rw [LampState.plan, run_append, run_append, run_append, run_brakeActions]
  change run _ (run _ (run _ (lamps.afterBrake wanted) _) _) _ = _
  rw [run_throughTurn, run_throughBeam]
  exact run_positionActions limits (lamps.afterBeam limits wanted) wanted.position

/-- A property of every step of a plan is a property of every step of its
four blocks, each started where the one before it ends. -/
theorem LampState.everyStep_plan_iff {holds : LampState → GpioAction → Prop} :
    EveryStep (LampState.step limits) holds lamps (lamps.plan wanted) ↔
      EveryStep (LampState.step limits) holds lamps
          (brakeActions lamps.brake wanted.brake) ∧
        EveryStep (LampState.step limits) holds (lamps.afterBrake wanted)
          (turnActions lamps.turn wanted.turn) ∧
        EveryStep (LampState.step limits) holds (lamps.afterTurn limits wanted)
          (beamActions lamps.beam wanted.beam) ∧
        EveryStep (LampState.step limits) holds (lamps.afterBeam limits wanted)
          (positionActions lamps.position wanted.position) := by
  rw [LampState.plan, everyStep_append, everyStep_append, everyStep_append,
    run_brakeActions]
  change _ ∧ EveryStep _ _ (lamps.afterBrake wanted) _ ∧
    EveryStep _ _ (run _ (lamps.afterBrake wanted) _) _ ∧
    EveryStep _ _ (run _ (run _ (lamps.afterBrake wanted) _) _) _ ↔ _
  rw [run_throughTurn, run_throughBeam]

/-- A property of both actions of a switch is a property of its block. -/
private theorem everyStep_switch (holds : LampState → GpioAction → Prop)
    (onAction offAction : GpioAction)
    (hon : ∀ state : LampState, holds state onAction)
    (hoff : ∀ state : LampState, holds state offAction)
    (current target : Bool) :
    EveryStep (LampState.step limits) holds lamps
      (switchActions onAction offAction current target) := by
  cases current <;> cases target <;> simp [switchActions, EveryStep, hon, hoff]

private theorem turn_permitted_iff :
    EveryStep (LampState.step limits)
        (fun state action => state.permits limits action = true)
        (lamps.afterBrake wanted) (turnActions lamps.turn wanted.turn) ↔
      TurnGranted limits lamps wanted := by
  obtain ⟨turn, beam, brake, position⟩ := lamps
  obtain ⟨wantedTurn, wantedBeam, wantedBrake, wantedPosition⟩ := wanted
  cases turn <;> cases wantedTurn <;>
    simp [selectorActions, EveryStep, TurnGranted, LampState.permits,
      LampState.step, LampState.perform, LampState.afterBrake]

private theorem beam_permitted_iff :
    EveryStep (LampState.step limits)
        (fun state action => state.permits limits action = true)
        (lamps.afterTurn limits wanted) (beamActions lamps.beam wanted.beam) ↔
      BeamGranted limits lamps wanted := by
  obtain ⟨turn, beam, brake, position⟩ := lamps
  obtain ⟨wantedTurn, wantedBeam, wantedBrake, wantedPosition⟩ := wanted
  cases beam <;> cases wantedBeam <;>
    simp [selectorActions, EveryStep, BeamGranted, LampState.permits,
      LampState.afterTurn, LampState.afterBrake]

/-- A plan runs without a refusal exactly when both pairs are granted. -/
theorem LampState.plan_permitted_iff :
    EveryStep (LampState.step limits)
        (fun state action => state.permits limits action = true)
        lamps (lamps.plan wanted) ↔
      TurnGranted limits lamps wanted ∧ BeamGranted limits lamps wanted := by
  rw [LampState.everyStep_plan_iff, turn_permitted_iff, beam_permitted_iff]
  have hbrake := everyStep_switch limits lamps
    (fun state action => state.permits limits action = true)
    .brakeOn .brakeOff (fun _ => rfl) (fun _ => rfl) lamps.brake wanted.brake
  have hposition := everyStep_switch limits (lamps.afterBeam limits wanted)
    (fun state action => state.permits limits action = true)
    .positionOn .positionOff (fun _ => rfl) (fun _ => rfl)
    lamps.position wanted.position
  simp only [hbrake, hposition, true_and, and_true]

/-- No step of a plan lights a lamp while the other one of its pair is lit,
whatever the limits refuse before it. -/
theorem LampState.plan_otherSideDark :
    EveryStep (LampState.step limits) LampState.OtherSideDark lamps
      (lamps.plan wanted) := by
  rw [LampState.everyStep_plan_iff]
  refine ⟨?_, ?_, ?_, ?_⟩
  · exact everyStep_switch limits lamps _ .brakeOn .brakeOff
      (fun _ => trivial) (fun _ => trivial) _ _
  · obtain ⟨turn, beam, brake, position⟩ := lamps
    cases turn <;> cases wanted.turn <;>
      simp [selectorActions, EveryStep, LampState.OtherSideDark,
        LampState.step, LampState.permits, LampState.perform,
        LampState.afterBrake]
  · obtain ⟨turn, beam, brake, position⟩ := lamps
    cases beam <;> cases wanted.beam <;>
      simp [selectorActions, EveryStep, LampState.OtherSideDark,
        LampState.step, LampState.permits, LampState.perform,
        LampState.afterTurn, LampState.afterBrake]
  · exact everyStep_switch limits _ _ .positionOn .positionOff
      (fun _ => trivial) (fun _ => trivial) _ _

/-- What is left to do for the wanted state after a plan is only what the
limits refuse, however often it is tried. -/
theorem LampState.settled_plan_refused :
    EveryStep (LampState.step limits)
      (fun state action => state.permits limits action = false)
      (lamps.settle limits wanted) ((lamps.settle limits wanted).plan wanted) := by
  rw [LampState.everyStep_plan_iff]
  refine ⟨?_, ?_, ?_, ?_⟩
  · cases hbrake : wanted.brake <;>
      simp [LampState.settle, switchActions, EveryStep, hbrake]
  · by_cases hturn : TurnGranted limits lamps wanted
    · cases hwanted : wanted.turn <;>
        simp [LampState.settle, selectorActions, EveryStep, hturn, hwanted]
    · obtain ⟨hlit, -, hlimits⟩ : wanted.turn ≠ .off ∧
          wanted.turn ≠ lamps.turn ∧
          ¬ (limits.turn = true ∧ wanted.brake = false) := by
        simpa [TurnGranted, not_or] using hturn
      have hdark : (lamps.settle limits wanted).turn = .off := if_neg hturn
      have hrefused : (limits.turn && !wanted.brake) = false := by
        simpa using hlimits
      rw [hdark]
      cases hwanted : wanted.turn with
      | off => exact absurd hwanted hlit
      | first =>
          simp [selectorActions, EveryStep, LampState.permits,
            LampState.afterBrake, hrefused]
      | second =>
          simp [selectorActions, EveryStep, LampState.permits,
            LampState.afterBrake, hrefused]
  · by_cases hbeam : BeamGranted limits lamps wanted
    · cases hwanted : wanted.beam <;>
        simp [LampState.settle, selectorActions, EveryStep, hbeam, hwanted]
    · obtain ⟨hhigh, -, hlimits⟩ : wanted.beam = .second ∧
          wanted.beam ≠ lamps.beam ∧ limits.highBeam = false := by
        simpa [BeamGranted, not_or] using hbeam
      simp [LampState.settle, selectorActions, EveryStep, hbeam, hhigh,
        LampState.permits, hlimits]
  · cases hposition : wanted.position <;>
      simp [LampState.settle, switchActions, EveryStep, hposition]

/-- Performed without a guard, a plan ends at the wanted lamps. -/
theorem LampState.run_perform_plan :
    run LampState.perform lamps (lamps.plan wanted) = wanted := by
  obtain ⟨turn, beam, brake, position⟩ := lamps
  obtain ⟨wantedTurn, wantedBeam, wantedBrake, wantedPosition⟩ := wanted
  have hbrake : run LampState.perform ⟨turn, beam, brake, position⟩
      (brakeActions brake wantedBrake) = ⟨turn, beam, wantedBrake, position⟩ := by
    cases brake <;> cases wantedBrake <;> rfl
  have hturn : run LampState.perform ⟨turn, beam, wantedBrake, position⟩
      (turnActions turn wantedTurn) = ⟨wantedTurn, beam, wantedBrake, position⟩ := by
    cases turn <;> cases wantedTurn <;> rfl
  have hbeam : run LampState.perform ⟨wantedTurn, beam, wantedBrake, position⟩
      (beamActions beam wantedBeam) =
        ⟨wantedTurn, wantedBeam, wantedBrake, position⟩ := by
    cases beam <;> cases wantedBeam <;> rfl
  rw [LampState.plan, run_append, run_append, run_append, hbrake, hturn, hbeam]
  cases position <;> cases wantedPosition <;> rfl

theorem LampState.plan_length : (lamps.plan wanted).length ≤ 6 := by
  have hswitch : ∀ onAction offAction current target,
      (switchActions onAction offAction current target).length ≤ 1 := by
    intro onAction offAction current target
    cases current <;> cases target <;> simp [switchActions]
  have hselector : ∀ firstOn firstOff secondOn secondOff current target,
      (selectorActions firstOn firstOff secondOn secondOff current target).length ≤ 2 := by
    intro firstOn firstOff secondOn secondOff current target
    cases current <;> cases target <;> simp [selectorActions]
  have hbrake : (brakeActions lamps.brake wanted.brake).length ≤ 1 := hswitch ..
  have hturn : (turnActions lamps.turn wanted.turn).length ≤ 2 := hselector ..
  have hbeam : (beamActions lamps.beam wanted.beam).length ≤ 2 := hselector ..
  have hposition : (positionActions lamps.position wanted.position).length ≤ 1 :=
    hswitch ..
  simp only [LampState.plan, List.length_append]
  omega

end Plans

theorem LampState.plan_self (lamps : LampState) : lamps.plan lamps = [] := by
  obtain ⟨turn, beam, brake, position⟩ := lamps
  cases turn <;> cases beam <;> cases brake <;> cases position <;> rfl

end LightCtrl
