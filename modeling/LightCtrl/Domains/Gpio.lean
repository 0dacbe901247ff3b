import LightCtrl.Core.FaultMode

/-!
`src/domains/gpio.c`: the protection domain that owns the lamp pins. Only the
output register is modelled; the direction register and the timer are written
once at init and never read. The six `g_output_*` flags mirror the pins for
the log.
-/

namespace LightCtrl

abbrev pinLowBeam : Nat := 0
abbrev pinHighBeam : Nat := 1
abbrev pinTurnLeft : Nat := 2
abbrev pinTurnRight : Nat := 3
abbrev pinBrake : Nat := 4
abbrev pinPosition : Nat := 5

structure GpioMemory where
  gpioOut : BitVec 32
  faultModeCache : FaultMode
  outputBrake : Bool
  outputTurnLeft : Bool
  outputTurnRight : Bool
  outputLowBeam : Bool
  outputHighBeam : Bool
  outputPosition : Bool
  deriving DecidableEq, Repr

/-- The statics and the mode cache after `init`, over whatever the output
register held. -/
def gpioInit (gpioOut : BitVec 32) : GpioMemory where
  gpioOut := gpioOut
  faultModeCache := .normal
  outputBrake := false
  outputTurnLeft := false
  outputTurnRight := false
  outputLowBeam := false
  outputHighBeam := false
  outputPosition := false

def gpioActionPin : GpioAction → Nat
  | .turnLeftOn => pinTurnLeft
  | .turnLeftOff => pinTurnLeft
  | .turnRightOn => pinTurnRight
  | .turnRightOff => pinTurnRight
  | .brakeOn => pinBrake
  | .brakeOff => pinBrake
  | .lowBeamOn => pinLowBeam
  | .lowBeamOff => pinLowBeam
  | .highBeamOn => pinHighBeam
  | .highBeamOff => pinHighBeam
  | .positionOn => pinPosition
  | .positionOff => pinPosition

/-- `*gpio_out |= (1 << pin)` or `*gpio_out &= ~(1 << pin)`. -/
def gpioSetPin (gpioOut : BitVec 32) (pin : Nat) (level : Bool) : BitVec 32 :=
  if level then gpioOut ||| (1#32 <<< pin) else gpioOut &&& ~~~ (1#32 <<< pin)

/-- The twelve action cases of the switch in `notified`. -/
def gpioHandleAction (memory : GpioMemory) : GpioAction → GpioMemory
  | .turnLeftOn => { memory with
      gpioOut := gpioSetPin memory.gpioOut pinTurnLeft true
      outputTurnLeft := true }
  | .turnLeftOff => { memory with
      gpioOut := gpioSetPin memory.gpioOut pinTurnLeft false
      outputTurnLeft := false }
  | .turnRightOn => { memory with
      gpioOut := gpioSetPin memory.gpioOut pinTurnRight true
      outputTurnRight := true }
  | .turnRightOff => { memory with
      gpioOut := gpioSetPin memory.gpioOut pinTurnRight false
      outputTurnRight := false }
  | .brakeOn => { memory with
      gpioOut := gpioSetPin memory.gpioOut pinBrake true
      outputBrake := true }
  | .brakeOff => { memory with
      gpioOut := gpioSetPin memory.gpioOut pinBrake false
      outputBrake := false }
  | .lowBeamOn => { memory with
      gpioOut := gpioSetPin memory.gpioOut pinLowBeam true
      outputLowBeam := true }
  | .lowBeamOff => { memory with
      gpioOut := gpioSetPin memory.gpioOut pinLowBeam false
      outputLowBeam := false }
  | .highBeamOn => { memory with
      gpioOut := gpioSetPin memory.gpioOut pinHighBeam true
      outputHighBeam := true }
  | .highBeamOff => { memory with
      gpioOut := gpioSetPin memory.gpioOut pinHighBeam false
      outputHighBeam := false }
  | .positionOn => { memory with
      gpioOut := gpioSetPin memory.gpioOut pinPosition true
      outputPosition := true }
  | .positionOff => { memory with
      gpioOut := gpioSetPin memory.gpioOut pinPosition false
      outputPosition := false }

/-- `notified`. `faultModeSlot` is the content of the compact mode slot. -/
def gpioNotified (channel : MicrokitChannel) (faultModeSlot : UInt8)
    (memory : GpioMemory) : GpioMemory :=
  if channel = LightCh.gpioFromFaultmg then
    { memory with
      faultModeCache := lightFaultModeTransportDecode faultModeSlot }
  else
    match GpioAction.ofChannel? channel with
    | some action => gpioHandleAction memory action
    | none => memory

/-- The level an action drives its pin to. -/
def GpioAction.level : GpioAction → Bool
  | .turnLeftOn => true
  | .turnLeftOff => false
  | .turnRightOn => true
  | .turnRightOff => false
  | .brakeOn => true
  | .brakeOff => false
  | .lowBeamOn => true
  | .lowBeamOff => false
  | .highBeamOn => true
  | .highBeamOff => false
  | .positionOn => true
  | .positionOff => false

@[simp] theorem gpioNotified_channel (action : GpioAction)
    (faultModeSlot : UInt8) (memory : GpioMemory) :
    gpioNotified action.channel faultModeSlot memory =
      gpioHandleAction memory action := by
  cases action <;> rfl

theorem gpioHandleAction_gpioOut (memory : GpioMemory) (action : GpioAction) :
    (gpioHandleAction memory action).gpioOut =
      gpioSetPin memory.gpioOut (gpioActionPin action) action.level := by
  cases action <;> rfl

/-- Driving one pin changes that pin and no other bit. -/
theorem getLsbD_gpioSetPin (gpioOut : BitVec 32) {pin : Nat} (hpin : pin < 32)
    (level : Bool) (i : Nat) :
    (gpioSetPin gpioOut pin level).getLsbD i =
      if i = pin then level else gpioOut.getLsbD i := by
  unfold gpioSetPin
  rw [← BitVec.twoPow_eq]
  by_cases hsame : i = pin
  · subst hsame
    cases level <;> simp [hpin]
  · have hother : ¬ pin = i := fun h => hsame h.symm
    cases level
    · simp only [Bool.false_eq_true, if_false, if_neg hsame,
        BitVec.getLsbD_and, BitVec.getLsbD_not, BitVec.getLsbD_twoPow]
      simpa [hother] using BitVec.lt_of_getLsbD
    · simp [hsame, hother]

theorem gpioActionPin_lt (action : GpioAction) : gpioActionPin action < 6 := by
  cases action <;> decide

end LightCtrl
