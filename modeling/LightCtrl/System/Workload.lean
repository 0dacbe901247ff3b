import LightCtrl.Library.Backlog
import LightCtrl.System.Integrity

/-!
How much there is to do. Every flag and every piece has a price that pays for
all it can lead to, down to the last notification of gpio. Only two things add
to the bill: an interrupt, and a denial of lightctl's guard, which starts a
publication and a further sync. So between them the board comes to rest.
-/

namespace LightCtrl

open Runs Preemption

/-- What a flag costs until nothing of it is left. -/
def flagPrice : ChannelEnd → Nat
  | (.scheduler, _) => 37
  | (.gpio, _) => 2
  | (.lightctl, _) => 33
  | (.commandin, _) => 59
  | (.faultmg, _) => 55
  | (.vehicleState, _) => 41

/-- A notification pays for the flag it sets. -/
def sendPrice (domain : ProtectionDomain) (channel : MicrokitChannel) : Nat :=
  ((channelPeer domain channel).map fun channelEnd => flagPrice channelEnd + 2).getD 0

def piecePrice : ProtectionDomain → BoardPiece → Nat
  | domain, .send channel => sendPrice domain channel
  | .faultmg, .publish stores => 44 + stores.length
  | .lightctl, .iterate => 1
  | .scheduler, .notified _ => 36
  | .gpio, .notified _ => 1
  | .lightctl, .notified _ => 32
  | .commandin, .notified _ => 58
  | .faultmg, .notified _ => 54
  | .vehicleState, .notified _ => 40
  | _, _ => 0

/-- Each action left of a plan costs a round, a notification and what gpio
makes of it. -/
def boardPrices : Prices ProtectionDomain MicrokitChannel BoardPiece BoardMemory where
  flag := flagPrice
  piece := piecePrice
  memory := fun memory => 5 * memory.remaining.length

/-- The next action of the plan is refused by the guard. -/
def Denying (memory : BoardMemory) : Prop :=
  ∃ action ∈ memory.remaining.head?,
    (guardVerdict memory.shmem.vehicleSpeed memory.lightctl.faultModeCache
      memory.execution action).allowed = false

instance (memory : BoardMemory) : Decidable (Denying memory) :=
  match hhead : memory.remaining.head? with
  | none => isFalse (by simp [Denying, hhead])
  | some action =>
      decidable_of_iff
        ((guardVerdict memory.shmem.vehicleSpeed memory.lightctl.faultModeCache
          memory.execution action).allowed = false)
        (by simp [Denying, hhead])

/-- One for a round of lightctl's loop whose action the guard refuses. -/
def refusal (domain : ProtectionDomain) (piece : BoardPiece) (memory : BoardMemory) : Nat :=
  if domain = .lightctl ∧ piece = .iterate ∧ Denying memory then 1 else 0

/-- A denial is paid for when it happens. -/
def denialCredit (domain : ProtectionDomain) (piece : BoardPiece) (_ : BoardReading)
    (memory : BoardMemory) : Nat :=
  53 * refusal domain piece memory

theorem denying_of_refused {memory : BoardMemory} {lamps : LampState}
    {action : GpioAction} {rest : List GpioAction}
    (hlamps : memory.execution = lamps.toExecution)
    (hremaining : memory.remaining = action :: rest)
    (hpermits : lamps.permits memory.limits action = false) : Denying memory := by
  refine ⟨action, by simp [hremaining], ?_⟩
  rw [hlamps, guardVerdict_allowed]
  exact hpermits

theorem board_targets_singleton {domain : ProtectionDomain} {channel : MicrokitChannel}
    {channelEnd : ChannelEnd} (hpeer : channelPeer domain channel = some channelEnd) :
    board.targets domain [channel] = {channelEnd} := by
  simp [Program.targets, board, hpeer]

/-- The bill of a piece, outcome by outcome. -/
theorem outcome_affordable {reading : BoardReading} {memory : BoardMemory}
    {domain : ProtectionDomain} {piece : BoardPiece} {effect : BoardEffect}
    (houtcome : PieceOutcome reading memory domain piece effect) :
    (effect.next.map (piecePrice domain)).sum +
        ∑ channelEnd ∈ board.targets domain effect.notified,
          (flagPrice channelEnd + 1) +
        5 * effect.memory.remaining.length + 1 ≤
      piecePrice domain piece + 5 * memory.remaining.length +
        denialCredit domain piece reading memory := by
  have hnone : ∑ channelEnd ∈ board.targets domain [], (flagPrice channelEnd + 1) = 0 :=
    rfl
  cases houtcome with
  | sent _ channel hsent =>
      obtain ⟨channelEnd, hpeer, -, -⟩ := sent_channel_connected domain channel hsent
      have hprice : sendPrice domain channel = flagPrice channelEnd + 2 := by
        rw [sendPrice, hpeer]
        rfl
      simp only [board_targets_singleton hpeer, Finset.sum_singleton, List.map_nil,
        List.sum_nil, piecePrice, hprice]
      omega
  | planned lamps _ =>
      have hplan := lamps.plan_length memory.shmem.targetOutput.wanted
      simp only [hnone, List.map_cons, List.map_nil, List.sum_singleton, piecePrice]
      omega
  | allowed lamps action rest _ hremaining _ =>
      have hsend : sendPrice .lightctl action.channel = 4 := by
        cases action <;> rfl
      simp only [hnone, hremaining, List.map_cons, List.map_nil, List.sum_cons,
        List.sum_nil, List.length_cons, piecePrice, hsend]
      omega
  | denied lamps action rest hlamps hremaining hpermits =>
      have hcredit : denialCredit .lightctl .iterate reading memory = 53 :=
        congrArg (53 * ·)
          (if_pos ⟨rfl, rfl, denying_of_refused hlamps hremaining hpermits⟩)
      have hsend : sendPrice .lightctl LightCh.lightctlToFaultmg = 57 := rfl
      simp only [hnone, hremaining, List.map_cons, List.map_nil, List.sum_cons,
        List.sum_nil, List.length_cons, hcredit, piecePrice, hsend]
      omega
  | answered typed parser answer _ _ hanswer =>
      have hsent : ∀ channel ∈ ProtectionDomain.commandin.sentChannels,
          sendPrice .commandin channel ≤ 57 := by decide
      rcases consoleAnswer_notified memory.shmem parser
        (lineStep typed (uartGetChar reading.received)).2.2 with
        hquiet | ⟨channel, hknown, hone⟩
      · simp only [hanswer, hquiet, hnone, List.map_nil, List.sum_nil, piecePrice,
          BoardMemory.afterAnswer]
        omega
      · have hprice := hsent channel hknown
        simp only [hanswer, hone, hnone, List.map_cons, List.map_nil, List.sum_singleton,
          piecePrice, BoardMemory.afterAnswer]
        omega
  | recomputed channel request uartCmd _ =>
      have hsend : sendPrice .scheduler LightCh.schedulerToLightctl = 35 := rfl
      simp only [hnone, List.map_cons, List.map_nil, List.sum_singleton, piecePrice, hsend,
        BoardMemory.withShmem]
      omega
  | vehicleStored =>
      have hsend : sendPrice .vehicleState LightCh.vehicleStateToScheduler = 39 := rfl
      simp only [hnone, List.map_cons, List.map_nil, List.sum_singleton, piecePrice, hsend,
        BoardMemory.withShmem]
      omega
  | requestHandled channel request _ =>
      have hstores : faultStores.length = 9 := rfl
      simp only [hnone, List.map_cons, List.map_nil, List.sum_singleton, piecePrice,
        hstores, BoardMemory.afterRequest]
      omega
  | published =>
      have hgpio : sendPrice .faultmg LightCh.faultmgToGpio = 4 := rfl
      have hscheduler : sendPrice .faultmg LightCh.faultmgToScheduler = 39 := rfl
      simp only [hnone, List.map_cons, List.map_nil, List.sum_cons, List.sum_nil,
        List.length_nil, piecePrice, hgpio, hscheduler]
      omega
  | _ =>
      simp only [hnone, List.map_cons, List.map_nil, List.sum_singleton, List.sum_nil,
        List.length_cons, piecePrice]
      omega

theorem board_affordable :
    Affordable board HandledEnd BoardRuns BoardSafe boardPrices denialCredit where
  entry := by
    intro domain channel _
    cases domain <;> exact Nat.le_refl _
  perform := fun _ _ reading _ hruns hsafe =>
    outcome_affordable (performPiece_outcome reading hruns hsafe.line hsafe.lamps)

/-- One for an interrupt the board takes. -/
def interrupted (_ : BoardState) : BoardEvent → Nat
  | .interrupt channelEnd => if channelEnd ∈ interruptTable then 1 else 0
  | _ => 0

/-- The refusals among the events. -/
def refused (state : BoardState) : BoardEvent → Nat
  | .advance domain _ =>
      (state.script domain).head?.elim 0 fun piece => refusal domain piece state.memory
  | _ => 0

theorem board_granted (state : BoardState) (event : BoardEvent) :
    granted board boardPrices denialCredit state event =
      60 * interrupted state event + 53 * refused state event := by
  cases event with
  | interrupt channelEnd =>
      have hprice : ∀ known ∈ interruptTable, flagPrice known + 1 = 60 := by decide
      by_cases hknown : channelEnd ∈ interruptTable
      · have hexternal : channelEnd ∈ board.external := hknown
        simp only [granted, interrupted, refused, if_pos hknown, if_pos hexternal]
        rw [show boardPrices.flag channelEnd = flagPrice channelEnd from rfl,
          hprice channelEnd hknown]
      · have hexternal : channelEnd ∉ board.external := hknown
        simp only [granted, interrupted, refused, if_neg hknown, if_neg hexternal]
  | wake domain => rfl
  | enter domain channel => rfl
  | advance domain reading =>
      simp only [granted, interrupted, refused]
      cases (state.script domain).head? with
      | none => rfl
      | some piece => exact (Nat.zero_add _).symm

theorem boardInit_workload (regions : BoardRegions) :
    workload boardPrices (boardInit regions) = 79 := by
  have htally : tally boardPrices.flag boardPrices.piece (boardInit regions) =
      ∑ channelEnd ∈ (boardInit regions).pending, flagPrice channelEnd := by
    simp only [tally, boardInit, Finset.sum_empty, List.map_nil, List.sum_nil,
      Finset.sum_const_zero, add_zero]
    rfl
  have hmemory : boardPrices.memory (boardInit regions).memory = 0 := rfl
  rw [workload, htally, hmemory, boardInit_pending]
  decide

instance : Nonempty BoardReading :=
  ⟨⟨none, Vector.replicate uartDigitsSize 0, 0⟩⟩

/-- Along every run the domains take flags, start handlers and perform pieces
at most 79 times, and 60 times more for each interrupt and 53 times more for
each denial. Until nothing is left, the ready domain of the highest priority
can do one of these, so the board falls silent only when it is at rest. -/
theorem board_work_bounded (regions : BoardRegions) (events : List BoardEvent) :
    total BoardEvent.step done (boardInit regions) events ≤
        79 + 60 * total BoardEvent.step interrupted (boardInit regions) events +
          53 * total BoardEvent.step refused (boardInit regions) events ∧
      let state := run BoardEvent.step (boardInit regions) events
      (Resting state ∨ ∃ event : BoardEvent, (∀ channelEnd, event ≠ .interrupt channelEnd) ∧
        Respects ProtectionDomain.priority state event ∧ done state event = 1) := by
  refine ⟨?_, ?_⟩
  · have hrun := board_affordable.run board_closed (boardInit_sound regions) events
    have hgranted : total board.step (granted board boardPrices denialCredit)
        (boardInit regions) events = _ :=
      total_linear board_granted (boardInit regions) events
    rw [boardInit_workload, hgranted, ← Nat.add_assoc] at hrun
    exact (Nat.le_add_left _ _).trans hrun
  · by_cases hrest : Resting (run BoardEvent.step (boardInit regions) events)
    · exact Or.inl hrest
    · exact Or.inr (exists_progress ProtectionDomain.priority hrest)

end LightCtrl
