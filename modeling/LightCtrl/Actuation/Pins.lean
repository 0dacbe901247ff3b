import LightCtrl.Actuation.Refinement
import LightCtrl.Domains.Gpio

/-!
lightctl and gpio together. gpio runs at a higher priority, so each action
notification is handled before lightctl sends the next one: an iteration of
the loop is one step of both. The execution bytes and the output register then
show the same lamp state after every single action, whatever the shared memory
asked for and whatever the guard refused on the way.
-/

namespace LightCtrl

open Runs

structure ActuationState where
  execution : LightExecutionState
  gpio : GpioMemory
  deriving DecidableEq, Repr

section Machine

variable (faultModeSlot : UInt8) (vehicleSpeed : UInt16) (faultMode : UInt8)

/-- gpio's side of an effect: a notification runs its handler, and a message
to faultmg does not concern it. -/
def deliverEffect (gpio : GpioMemory) : LightctlEffect → GpioMemory
  | .gpio action => gpioNotified action.channel faultModeSlot gpio
  | .fault _ => gpio

def actuationIteration (state : ActuationState) (action : GpioAction) :
    ActuationState where
  execution := syncIteration vehicleSpeed faultMode state.execution action
  gpio := (syncEffect vehicleSpeed faultMode state.execution action).foldl
    (deliverEffect faultModeSlot) state.gpio

/-- One `sync_outputs` run together with the handlers it wakes. -/
def actuationSync (state : ActuationState) (shmem : LightShmem) :
    ActuationState :=
  run (actuationIteration faultModeSlot shmem.vehicleSpeed shmem.faultMode)
    state (plannedActions state.execution shmem.targetOutput)

theorem run_actuationIteration (state : ActuationState)
    (actions : List GpioAction) :
    run (actuationIteration faultModeSlot vehicleSpeed faultMode) state actions =
      { execution :=
          run (syncIteration vehicleSpeed faultMode) state.execution actions
        gpio :=
          (outputs (syncIteration vehicleSpeed faultMode)
            (syncEffect vehicleSpeed faultMode) state.execution actions).foldl
              (deliverEffect faultModeSlot) state.gpio } := by
  induction actions generalizing state with
  | nil => rfl
  | cons action rest ih =>
      rw [run_cons, ih, run_cons]
      simp only [actuationIteration, outputs, List.foldl_append]

/-- The joint run is lightctl's `sync_outputs` and gpio's `notified` on the
effects it sends. -/
theorem actuationSync_eq (state : ActuationState) (shmem : LightShmem)
    (faultModeCache : UInt8) :
    actuationSync faultModeSlot state shmem =
      { execution :=
          (syncOutputs shmem ⟨state.execution, faultModeCache⟩).1.executionState
        gpio :=
          (syncOutputs shmem ⟨state.execution, faultModeCache⟩).2.foldl
            (deliverEffect faultModeSlot) state.gpio } :=
  run_actuationIteration _ _ _ state _

end Machine

/-- The lamp behind a pin number. -/
def LampState.lit (lamps : LampState) (pin : Nat) : Bool :=
  if pin = pinLowBeam then lamps.beam = .first
  else if pin = pinHighBeam then lamps.beam = .second
  else if pin = pinTurnLeft then lamps.turn = .first
  else if pin = pinTurnRight then lamps.turn = .second
  else if pin = pinBrake then lamps.brake
  else if pin = pinPosition then lamps.position
  else false

/-- The six lamp pins show the lamp state. -/
def PinsShow (lamps : LampState) (gpioOut : BitVec 32) : Prop :=
  ∀ pin < 6, gpioOut.getLsbD pin = lamps.lit pin

/-- An action changes exactly the lamp its pin drives, when the other lamp of
the pair is dark. -/
theorem perform_lit {lamps : LampState} {action : GpioAction}
    (hdark : lamps.OtherSideDark action) (pin : Nat) (hpin : pin < 6) :
    (lamps.perform action).lit pin =
      if pin = gpioActionPin action then action.level else lamps.lit pin := by
  obtain ⟨turn, beam, brake, position⟩ := lamps
  cases action
  case turnLeftOn | turnLeftOff | turnRightOn | turnRightOff =>
    interval_cases pin <;> cases turn <;>
      simp_all [LampState.perform, LampState.lit, LampState.OtherSideDark,
        gpioActionPin, GpioAction.level] <;> rfl
  case lowBeamOn | lowBeamOff | highBeamOn | highBeamOff =>
    interval_cases pin <;> cases beam <;>
      simp_all [LampState.perform, LampState.lit, LampState.OtherSideDark,
        gpioActionPin, GpioAction.level] <;> rfl
  all_goals
    interval_cases pin <;>
      simp [LampState.perform, LampState.lit, gpioActionPin,
        GpioAction.level] <;> rfl

/-- The iteration lemma: bytes and register stay two codes of one lamp state,
and only the six lamp pins can move. -/
theorem actuationIteration_keeps_pins (faultModeSlot : UInt8)
    (vehicleSpeed : UInt16) (faultMode : UInt8) {lamps : LampState}
    {gpio : GpioMemory} {action : GpioAction}
    (hpins : PinsShow lamps gpio.gpioOut)
    (hdark : lamps.OtherSideDark action) :
    let next := actuationIteration faultModeSlot vehicleSpeed faultMode
      ⟨lamps.toExecution, gpio⟩ action
    let lampsAfter := lamps.step (limitsOf vehicleSpeed faultMode) action
    next.execution = lampsAfter.toExecution ∧
      PinsShow lampsAfter next.gpio.gpioOut ∧
      ∀ bit, 6 ≤ bit → next.gpio.gpioOut.getLsbD bit =
        gpio.gpioOut.getLsbD bit := by
  intro next lampsAfter
  refine ⟨syncIteration_toExecution vehicleSpeed faultMode lamps action, ?_⟩
  have hallowed := guardVerdict_allowed vehicleSpeed faultMode lamps action
  have hlow := gpioActionPin_lt action
  cases hpermits : lamps.permits (limitsOf vehicleSpeed faultMode) action with
  | true =>
      have hgpio : next.gpio.gpioOut =
          gpioSetPin gpio.gpioOut (gpioActionPin action) action.level := by
        rw [← gpioHandleAction_gpioOut, ← gpioNotified_channel action faultModeSlot]
        simp only [next, actuationIteration,
          syncEffect_of_allowed _ _ (hallowed.trans hpermits)]
        rfl
      have hlamps : lampsAfter = lamps.perform action := by
        simp [lampsAfter, LampState.step, hpermits]
      rw [hgpio, hlamps]
      constructor
      · intro pin hpin
        rw [getLsbD_gpioSetPin _ (by omega), perform_lit hdark pin hpin,
          hpins pin hpin]
      · intro bit hbit
        rw [getLsbD_gpioSetPin _ (by omega), if_neg (by omega)]
  | false =>
      have hgpio : next.gpio = gpio := by
        simp only [next, actuationIteration,
          syncEffect_of_denied _ _ (hallowed.trans hpermits)]
        rfl
      have hlamps : lampsAfter = lamps := by
        simp [lampsAfter, LampState.step, hpermits]
      rw [hgpio, hlamps]
      exact ⟨hpins, fun _ _ => rfl⟩

/-- The six lamp pins equal the execution bytes. -/
structure PinsFollow (execution : LightExecutionState) (gpioOut : BitVec 32) :
    Prop where
  left : gpioOut.getLsbD pinTurnLeft = decide (execution.turnState = 1)
  right : gpioOut.getLsbD pinTurnRight = decide (execution.turnState = 2)
  low : gpioOut.getLsbD pinLowBeam = decide (execution.beamState = 1)
  high : gpioOut.getLsbD pinHighBeam = decide (execution.beamState = 2)
  brake : gpioOut.getLsbD pinBrake = decide (execution.brakeState = 1)
  position : gpioOut.getLsbD pinPosition = decide (execution.positionState = 1)

/-- The execution bytes are in range, the pins equal them, the two beams are
not lit together, and the other bits of the register are as they were. -/
structure ActuationSafe (initialOut : BitVec 32) (state : ActuationState) :
    Prop where
  turn_range : state.execution.turnState ≤ 2
  beam_range : state.execution.beamState ≤ 2
  brake_range : state.execution.brakeState ≤ 1
  position_range : state.execution.positionState ≤ 1
  pins : PinsFollow state.execution state.gpio.gpioOut
  beams_exclusive : ¬ (state.gpio.gpioOut.getLsbD pinLowBeam = true ∧
    state.gpio.gpioOut.getLsbD pinHighBeam = true)
  other_bits : ∀ bit, 6 ≤ bit →
    state.gpio.gpioOut.getLsbD bit = initialOut.getLsbD bit

/-- On codes of a lamp state, following the bytes is showing the lamps. -/
theorem pinsFollow_iff (lamps : LampState) (gpioOut : BitVec 32) :
    PinsFollow lamps.toExecution gpioOut ↔ PinsShow lamps gpioOut := by
  have hturn : decide (lamps.toExecution.turnState = 1) = lamps.lit pinTurnLeft ∧
      decide (lamps.toExecution.turnState = 2) = lamps.lit pinTurnRight := by
    cases hcase : lamps.turn <;>
      simp [LampState.toExecution, LampState.lit, Selector.code, hcase]
  have hbeam : decide (lamps.toExecution.beamState = 1) = lamps.lit pinLowBeam ∧
      decide (lamps.toExecution.beamState = 2) = lamps.lit pinHighBeam := by
    cases hcase : lamps.beam <;>
      simp [LampState.toExecution, LampState.lit, Selector.code, hcase]
  have hbrake :
      decide (lamps.toExecution.brakeState = 1) = lamps.lit pinBrake := by
    cases hcase : lamps.brake <;>
      simp [LampState.toExecution, LampState.lit, switchCode, hcase]
  have hposition :
      decide (lamps.toExecution.positionState = 1) = lamps.lit pinPosition := by
    cases hcase : lamps.position <;>
      simp [LampState.toExecution, LampState.lit, switchCode, hcase]
  constructor
  · rintro ⟨hleft, hright, hlow, hhigh, hbrakePin, hpositionPin⟩ pin hpin
    interval_cases pin
    · exact hlow.trans hbeam.1
    · exact hhigh.trans hbeam.2
    · exact hleft.trans hturn.1
    · exact hright.trans hturn.2
    · exact hbrakePin.trans hbrake
    · exact hpositionPin.trans hposition
  · intro hpins
    exact {
      left := (hpins pinTurnLeft (by decide)).trans hturn.1.symm
      right := (hpins pinTurnRight (by decide)).trans hturn.2.symm
      low := (hpins pinLowBeam (by decide)).trans hbeam.1.symm
      high := (hpins pinHighBeam (by decide)).trans hbeam.2.symm
      brake := (hpins pinBrake (by decide)).trans hbrake.symm
      position := (hpins pinPosition (by decide)).trans hposition.symm }

/-- What one emitted action was allowed under. -/
structure EmissionSafe (vehicleSpeed : UInt16) (faultMode : UInt8)
    (state : ActuationState) (emitted : GpioAction) : Prop where
  high_beam : emitted = .highBeamOn → 10 ≤ vehicleSpeed ∧
    faultMode ≠ FaultMode.degraded.toByte ∧
    faultMode ≠ FaultMode.safeMode.toByte
  turn : emitted = .turnLeftOn ∨ emitted = .turnRightOn →
    vehicleSpeed ≤ 120 ∧ faultMode ≠ FaultMode.safeMode.toByte ∧
      state.gpio.gpioOut.getLsbD pinBrake = false

/-- Bytes and register are codes of one lamp state, and the rest of the
register is untouched. -/
def ShowsLamps (initialOut : BitVec 32) (state : ActuationState)
    (lamps : LampState) : Prop :=
  state.execution = lamps.toExecution ∧ PinsShow lamps state.gpio.gpioOut ∧
    ∀ bit, 6 ≤ bit → state.gpio.gpioOut.getLsbD bit = initialOut.getLsbD bit

theorem ShowsLamps.actuationSafe {initialOut : BitVec 32}
    {state : ActuationState} {lamps : LampState}
    (h : ShowsLamps initialOut state lamps) : ActuationSafe initialOut state := by
  obtain ⟨execution, gpio⟩ := state
  obtain ⟨rfl, hpins, hother⟩ := h
  have hlow := hpins pinLowBeam (by decide)
  have hhigh := hpins pinHighBeam (by decide)
  refine ⟨lamps.turn.code_le, lamps.beam.code_le, switchCode_le lamps.brake,
    switchCode_le lamps.position, (pinsFollow_iff lamps _).mpr hpins, ?_, hother⟩
  rw [hlow, hhigh]
  cases hbeam : lamps.beam <;> simp [LampState.lit, hbeam]

theorem ShowsLamps.emissionSafe {initialOut : BitVec 32}
    {state : ActuationState} {lamps : LampState}
    (h : ShowsLamps initialOut state lamps) {vehicleSpeed : UInt16}
    {faultMode : UInt8} {action emitted : GpioAction}
    (hemitted : .gpio emitted ∈
      syncEffect vehicleSpeed faultMode state.execution action) :
    EmissionSafe vehicleSpeed faultMode state emitted := by
  have hbrake := h.actuationSafe.pins.brake
  cases hverdict :
      (guardVerdict vehicleSpeed faultMode state.execution action).allowed with
  | false =>
      rw [syncEffect_of_denied _ _ hverdict] at hemitted
      simp at hemitted
  | true =>
      rw [syncEffect_of_allowed _ _ hverdict] at hemitted
      obtain rfl : emitted = action := by simpa using hemitted
      have hallowed := (guard_allows_iff _ _).mp hverdict
      obtain ⟨hturn, hhigh, -⟩ := hallowed
      constructor
      · intro hcase
        obtain ⟨hsafe, hdegraded, hspeed⟩ := hhigh hcase
        exact ⟨hspeed, hdegraded, hsafe⟩
      · intro hcase
        obtain ⟨hsafe, hspeed, hlast⟩ := hturn hcase
        refine ⟨hspeed, hsafe, ?_⟩
        rw [hbrake]
        exact decide_eq_false hlast

/-- The run lemma over the actions of a plan. -/
theorem everyStep_showsLamps (initialOut : BitVec 32) (faultModeSlot : UInt8)
    (vehicleSpeed : UInt16) (faultMode : UInt8) (actions : List GpioAction)
    {lamps : LampState} {state : ActuationState}
    (h : ShowsLamps initialOut state lamps)
    (hdark : EveryStep (LampState.step (limitsOf vehicleSpeed faultMode))
      LampState.OtherSideDark lamps actions) :
    EveryStep (actuationIteration faultModeSlot vehicleSpeed faultMode)
        (fun current action =>
          (∀ emitted, .gpio emitted ∈
              syncEffect vehicleSpeed faultMode current.execution action →
            EmissionSafe vehicleSpeed faultMode current emitted) ∧
          ActuationSafe initialOut
            (actuationIteration faultModeSlot vehicleSpeed faultMode current
              action))
        state actions ∧
      ShowsLamps initialOut
        (run (actuationIteration faultModeSlot vehicleSpeed faultMode) state
          actions)
        (run (LampState.step (limitsOf vehicleSpeed faultMode)) lamps
          actions) := by
  induction actions generalizing lamps state with
  | nil => exact ⟨trivial, h⟩
  | cons action rest ih =>
      obtain ⟨hhead, hrest⟩ := hdark
      have hnext : ShowsLamps initialOut
          (actuationIteration faultModeSlot vehicleSpeed faultMode state action)
          (lamps.step (limitsOf vehicleSpeed faultMode) action) := by
        obtain ⟨execution, gpio⟩ := state
        obtain ⟨rfl, hpins, hother⟩ := h
        obtain ⟨hexecution, hpinsAfter, hotherAfter⟩ :=
          actuationIteration_keeps_pins faultModeSlot vehicleSpeed faultMode
            hpins hhead
        exact ⟨hexecution, hpinsAfter,
          fun bit hbit => (hotherAfter bit hbit).trans (hother bit hbit)⟩
      obtain ⟨hsteps, hfinal⟩ := ih hnext hrest
      exact ⟨⟨⟨fun _ hemitted => h.emissionSafe hemitted, hnext.actuationSafe⟩,
        hsteps⟩, hfinal⟩

/-- The sync lemma: a run of `sync_outputs` on any shared memory takes a state
showing some lamps to the state showing them settled. -/
theorem actuationSync_showsLamps {initialOut : BitVec 32} (faultModeSlot : UInt8)
    {lamps : LampState} {state : ActuationState}
    (h : ShowsLamps initialOut state lamps) (shmem : LightShmem) :
    ShowsLamps initialOut (actuationSync faultModeSlot state shmem)
      (lamps.settle (limitsOf shmem.vehicleSpeed shmem.faultMode)
        shmem.targetOutput.wanted) := by
  have hplan : plannedActions state.execution shmem.targetOutput =
      lamps.plan shmem.targetOutput.wanted := by
    rw [h.1, plannedActions_toExecution]
  rw [actuationSync, hplan, ← LampState.run_plan]
  exact (everyStep_showsLamps initialOut faultModeSlot shmem.vehicleSpeed
    shmem.faultMode _ h (LampState.plan_otherSideDark _ lamps _)).2

/-- A state before a `sync_outputs` run is safe, and so is every action of the
run: emitted under safe conditions, and leaving a safe state. -/
def SyncSafe (faultModeSlot : UInt8) (initialOut : BitVec 32)
    (state : ActuationState) (shmem : LightShmem) : Prop :=
  ActuationSafe initialOut state ∧
    EveryStep
      (actuationIteration faultModeSlot shmem.vehicleSpeed shmem.faultMode)
      (fun current action =>
        (∀ emitted, .gpio emitted ∈ syncEffect shmem.vehicleSpeed
            shmem.faultMode current.execution action →
          EmissionSafe shmem.vehicleSpeed shmem.faultMode current emitted) ∧
        ActuationSafe initialOut
          (actuationIteration faultModeSlot shmem.vehicleSpeed shmem.faultMode
            current action))
      state (plannedActions state.execution shmem.targetOutput)

/-- Any sequence of `sync_outputs` runs from init is safe at every action,
with arbitrary shared memory before each run. -/
theorem actuation_safe_against_any_memory (faultModeSlot : UInt8)
    (initialOut : BitVec 32) (hoff : ∀ pin < 6, initialOut.getLsbD pin = false)
    (shmems : List LightShmem) :
    EveryStep (actuationSync faultModeSlot) (SyncSafe faultModeSlot initialOut)
      ⟨lightExecutionStateInit, gpioInit initialOut⟩ shmems := by
  refine everyStep_of_invariant
    (fun state => ∃ lamps, ShowsLamps initialOut state lamps) ?_ ?_ _ ?_ shmems
  · rintro state shmem ⟨lamps, hlamps⟩
    exact ⟨_, actuationSync_showsLamps faultModeSlot hlamps shmem⟩
  · rintro state shmem ⟨lamps, hlamps⟩
    refine ⟨hlamps.actuationSafe, ?_⟩
    have hplan : plannedActions state.execution shmem.targetOutput =
        lamps.plan shmem.targetOutput.wanted := by
      rw [hlamps.1, plannedActions_toExecution]
    rw [hplan]
    exact (everyStep_showsLamps initialOut faultModeSlot shmem.vehicleSpeed
      shmem.faultMode _ hlamps (LampState.plan_otherSideDark _ lamps _)).1
  · refine ⟨lampsOff, rfl, ?_, fun _ _ => rfl⟩
    intro pin hpin
    have hdark : lampsOff.lit pin = false := by
      interval_cases pin <;> rfl
    rw [hdark]
    exact hoff pin hpin

/-- Two runs on a memory that asks for both turn lamps and both beams at an
undefined fault mode, with every other bit of the register set. -/
theorem actuation_safe_against_conflicting_memory :
    EveryStep (actuationSync 0) (SyncSafe 0 0xFFFFFFC0#32)
      ⟨lightExecutionStateInit, gpioInit 0xFFFFFFC0#32⟩
      [{ lightShmemZeroed with
          targetOutput := ⟨1, 1, 1, 1, 0, 0⟩, faultMode := 0x55 },
        { lightShmemZeroed with
          targetOutput := ⟨0, 1, 0, 1, 1, 1⟩, vehicleSpeed := 200 }] :=
  actuation_safe_against_any_memory 0 0xFFFFFFC0#32 (by decide) _

end LightCtrl
