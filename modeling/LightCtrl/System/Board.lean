import LightCtrl.Domains.Console
import LightCtrl.Domains.Faultmg
import LightCtrl.Domains.Gpio
import LightCtrl.Domains.Lightctl
import LightCtrl.Domains.Scheduler
import LightCtrl.Domains.VehicleState
import LightCtrl.Library.Preemption
import LightCtrl.System.Topology

/-!
The whole board: the six domains of `systems/light.system` over the memory
they share. Scheduler, gpio and commandin run their handlers in one piece,
since nothing that could wake a domain above them runs meanwhile. The other
three can be preempted, so their handlers are taken apart: vehicle_state
stores before it notifies, faultmg publishes one field after the other, and
lightctl takes the loop of `sync_outputs` one action at a time, reading the
speed again for each, and changes its execution state only after gpio had its
chance to act. Every notification is a piece of its own. The copy of a whole
record from or to a region is taken to be one access, and so are the reads of
the target and of the mode at the start of `sync_outputs`.
-/

namespace LightCtrl

open Runs Preemption

/-- The statics of the domains and the regions between them. The shared memory
and the mode slot are the ones in faultmg's memory; `console` is everything
sent over the UART. `remaining` is what is left of the plan lightctl is executing,
and `triggered` the action it has let through whose transition is still to be
applied. -/
structure BoardMemory where
  parser : LightTransportParser
  console : List Int
  inputBuffer : LightTransportMessage
  faultmg : FaultmgMemory
  lightctl : LightctlMemory
  remaining : List GpioAction
  triggered : Option GpioAction
  gpio : GpioMemory
  deriving DecidableEq, Repr

abbrev BoardMemory.shmem (memory : BoardMemory) : LightShmem := memory.faultmg.shmem

def BoardMemory.withShmem (memory : BoardMemory) (shmem : LightShmem) : BoardMemory :=
  { memory with faultmg := { memory.faultmg with shmem := shmem } }

/-- What a piece reads outside of the memory: the receive register of the UART
(`none` for an empty FIFO), an array not yet written, message register zero. -/
structure BoardReading where
  received : Option UInt32
  digits : Vector UInt8 uartDigitsSize
  mr0 : UInt64
  deriving DecidableEq, Repr

/-- The stores of `publish_fault_state`, in the order of the source. -/
inductive FaultStore where
  | mode
  | lifecycle
  | recoveryTicks
  | recoveryElapsedMs
  | recoveryWindowMs
  | activeFaultMask
  | lastFaultCode
  | totalFaultCount
  | transport
  deriving DecidableEq, Repr

def faultStores : List FaultStore :=
  [.mode, .lifecycle, .recoveryTicks, .recoveryElapsedMs, .recoveryWindowMs,
    .activeFaultMask, .lastFaultCode, .totalFaultCount, .transport]

/-- One store into the shared memory. -/
def FaultStore.shared (memory : FaultmgMemory) : FaultStore → LightShmem
  | .mode => { memory.shmem with faultMode := memory.faultState.mode.toByte }
  | .lifecycle =>
      { memory.shmem with faultLifecycle := memory.faultState.lifecycle.toByte }
  | .recoveryTicks =>
      { memory.shmem with faultRecoveryTicks := memory.faultState.recoveryTicks }
  | .recoveryElapsedMs =>
      { memory.shmem with
        faultRecoveryElapsedMs := memory.faultState.recoveryElapsedMs }
  | .recoveryWindowMs =>
      { memory.shmem with faultRecoveryWindowMs := lightFaultRecoveryWindowMs }
  | .activeFaultMask =>
      { memory.shmem with activeFaultMask := memory.faultState.activeFaultMask }
  | .lastFaultCode =>
      { memory.shmem with lastFaultCode := memory.faultState.lastFaultCode }
  | .totalFaultCount =>
      { memory.shmem with totalFaultCount := memory.totalErrorCount }
  | .transport => memory.shmem

/-- The last store goes to the compact slot gpio reads. -/
def FaultStore.slot (memory : FaultmgMemory) : FaultStore → UInt8
  | .transport => lightFaultModeTransportEncode memory.faultState.mode
  | _ => memory.faultModeSlot

def FaultStore.perform (memory : FaultmgMemory) (store : FaultStore) :
    FaultmgMemory :=
  { memory with shmem := store.shared memory, faultModeSlot := store.slot memory }

/-- The stores one after the other are `publish_fault_state`. -/
theorem foldl_faultStores (memory : FaultmgMemory) :
    faultStores.foldl FaultStore.perform memory =
      (publishFaultState memory).memory := by
  simp only [faultStores, List.foldl_cons, List.foldl_nil, FaultStore.perform,
    FaultStore.shared, FaultStore.slot, publishFaultState, publishedFaultFields]

/-- A piece of a handler: its first part, `publish_fault_state` with the stores
it has left, the loop of `sync_outputs` from one notification to the next, or one
`microkit_notify`. -/
inductive BoardPiece where
  | notified (channel : MicrokitChannel)
  | publish (stores : List FaultStore)
  | iterate
  | send (channel : MicrokitChannel)
  deriving DecidableEq, Repr

abbrev BoardEffect := Effect MicrokitChannel BoardPiece BoardMemory

/-- A handler that changes the shared memory first and notifies at its end. -/
def sharedEffect (memory : BoardMemory) (handled : Handled LightShmem) : BoardEffect where
  memory := memory.withShmem handled.memory
  notified := []
  next := handled.notified.map .send

/-- commandin's `notified`; an access outside of an array leaves everything as
it is. -/
def commandinEffect (channel : MicrokitChannel) (reading : BoardReading)
    (memory : BoardMemory) : BoardEffect :=
  match commandinNotified channel reading.received reading.digits memory.shmem
      memory.parser with
  | none => ⟨memory, [], []⟩
  | some handled =>
      { memory := { memory with
          parser := handled.parser
          console := memory.console ++ handled.sent
          inputBuffer := handled.written.getD memory.inputBuffer }
        notified := []
        next := handled.notified.map .send }

/-- faultmg's `notified` up to `publish_fault_state`, which is still to come
whenever the handler notifies anybody. -/
def faultmgEffect (channel : MicrokitChannel) (reading : BoardReading)
    (memory : BoardMemory) : BoardEffect :=
  let handled := faultmgNotified channel reading.mr0 memory.inputBuffer memory.faultmg
  { memory := { memory with
      faultmg := { handled.memory with
        shmem := memory.shmem
        faultModeSlot := memory.faultmg.faultModeSlot } }
    notified := []
    next :=
      if handled.notified = [] then [] else [.publish faultStores] }

/-- One store of `publish_fault_state`, or its notifications after the last. -/
def publishEffect (memory : BoardMemory) : List FaultStore → BoardEffect
  | [] => ⟨memory, [], (publishFaultState memory.faultmg).notified.map .send⟩
  | store :: rest =>
      ⟨{ memory with faultmg := store.perform memory.faultmg }, [], [.publish rest]⟩

/-- `g_execution_state` as lightctl finds it when it goes on: the transition of the
action it triggered last comes first. -/
def BoardMemory.execution (memory : BoardMemory) : LightExecutionState :=
  memory.triggered.elim memory.lightctl.executionState
    (applyExecutionStateTransition memory.lightctl.executionState)

def BoardMemory.applied (memory : BoardMemory) : BoardMemory :=
  { memory with
    lightctl := { memory.lightctl with executionState := memory.execution }
    triggered := none }

/-- lightctl's `notified` up to the loop of `sync_outputs`. -/
def lightctlEffect (channel : MicrokitChannel) (memory : BoardMemory) : BoardEffect :=
  if channel ≠ LightCh.lightctlFromScheduler then
    ⟨memory, [], [.send LightCh.lightctlToFaultmg]⟩
  else
    { memory := { memory.applied with
        lightctl := ⟨memory.execution, memory.shmem.faultMode⟩
        remaining := plannedActions memory.execution memory.shmem.targetOutput }
      notified := []
      next := [.iterate] }

/-- The channel an effect of lightctl is notified on. -/
def LightctlEffect.channel : LightctlEffect → MicrokitChannel
  | .gpio action => action.channel
  | .fault _ => LightCh.lightctlToFaultmg

/-- The loop from one notification to the next: the transition of the action
triggered last, then the guard's verdict on the next one. The notification is a
piece of its own, so gpio may act before lightctl changes its execution state. -/
def iterateEffect (memory : BoardMemory) : BoardEffect :=
  match memory.remaining with
  | [] => ⟨memory.applied, [], []⟩
  | action :: rest =>
      let speed := memory.shmem.vehicleSpeed
      let mode := memory.lightctl.faultModeCache
      { memory := { memory.applied with
          remaining := rest
          triggered :=
            if (guardVerdict speed mode memory.execution action).allowed then some action
            else none }
        notified := []
        next := (syncEffect speed mode memory.execution action).map
          (fun effect => .send effect.channel) ++ [.iterate] }

/-- What a piece of a domain does. The last case is never left to do. -/
def performPiece (domain : ProtectionDomain) (piece : BoardPiece)
    (reading : BoardReading) (memory : BoardMemory) : BoardEffect :=
  match domain, piece with
  | _, .send channel => ⟨memory, [channel], []⟩
  | .scheduler, .notified channel =>
      sharedEffect memory
        (schedulerNotified channel memory.inputBuffer memory.shmem)
  | .vehicleState, .notified channel =>
      sharedEffect memory
        (vehicleStateNotified channel memory.inputBuffer memory.shmem)
  | .commandin, .notified channel => commandinEffect channel reading memory
  | .faultmg, .notified channel => faultmgEffect channel reading memory
  | .lightctl, .notified channel => lightctlEffect channel memory
  | .gpio, .notified channel =>
      { memory := { memory with
          gpio := gpioNotified channel memory.faultmg.faultModeSlot memory.gpio }
        notified := []
        next := [] }
  | .faultmg, .publish stores => publishEffect memory stores
  | .lightctl, .iterate => iterateEffect memory
  | _, _ => ⟨memory, [], []⟩

/-- Only a `microkit_notify` notifies. -/
theorem performPiece_notified (domain : ProtectionDomain) (piece : BoardPiece)
    (reading : BoardReading) (memory : BoardMemory) :
    (performPiece domain piece reading memory).notified =
      match piece with
      | .send channel => [channel]
      | _ => [] := by
  cases piece with
  | send channel => cases domain <;> rfl
  | publish stores =>
      cases domain with
      | faultmg => cases stores <;> rfl
      | _ => rfl
  | iterate =>
      cases domain with
      | lightctl =>
          simp only [performPiece, iterateEffect]
          cases memory.remaining <;> rfl
      | _ => rfl
  | notified channel =>
      cases domain with
      | lightctl =>
          simp only [performPiece, lightctlEffect]
          split_ifs <;> rfl
      | commandin =>
          simp only [performPiece, commandinEffect]
          cases commandinNotified channel reading.received reading.digits
            memory.shmem memory.parser <;> rfl
      | _ => rfl

abbrev BoardState := State ProtectionDomain MicrokitChannel BoardPiece BoardMemory
abbrev BoardEvent := Event ProtectionDomain MicrokitChannel BoardReading

def board :
    Program ProtectionDomain MicrokitChannel BoardPiece BoardReading BoardMemory where
  peer := channelPeer
  external := interruptTable
  entry := fun _ channel => [.notified channel]
  perform := performPiece

abbrev BoardEvent.step (state : BoardState) (event : BoardEvent) : BoardState :=
  board.step state event

/-- What the regions, the output register and the parser's static hold before
anything runs. -/
structure BoardRegions where
  shmem : LightShmem
  faultModeSlot : UInt8
  inputBuffer : LightTransportMessage
  gpioOut : BitVec 32
  parser : LightTransportParser
  digits : Vector UInt8 uartDigitsSize
  deriving DecidableEq, Repr

/-- The state once every `init` has run, in the order of the priorities, and
before any domain has taken a notification of theirs. -/
def boardInit (regions : BoardRegions) : BoardState :=
  let vehicle := vehicleStateInit (schedulerInit regions.shmem)
  let faultmg := faultmgInit vehicle.memory regions.faultModeSlot
  let commandin := (commandinInit regions.digits regions.parser).getD
    ⟨regions.parser, none, [], []⟩
  { memory := {
      parser := commandin.parser
      console := commandin.sent
      inputBuffer := regions.inputBuffer
      faultmg := faultmg.memory
      lightctl := lightctlInit
      remaining := []
      triggered := none
      gpio := gpioInit regions.gpioOut }
    pending := board.targets .vehicleState vehicle.notified ∪
      board.targets .faultmg faultmg.notified
    woken := ∅
    script := fun _ => [] }

end LightCtrl
