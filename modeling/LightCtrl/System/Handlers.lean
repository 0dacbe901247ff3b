import LightCtrl.Library.Completion
import LightCtrl.System.Convergence

/-!
The pieces of a handler are the handler. A domain that starts a handler and is
not preempted leaves the memory as its `notified` does and has made the same
notifications, at every point of every run. So the pieces only add what a
preemption can see.
-/

namespace LightCtrl

open Runs Preemption

/-- `notified` of a domain as a whole: the memory and the channels notified. -/
def boardHandler (domain : ProtectionDomain) (channel : MicrokitChannel)
    (reading : BoardReading) (memory : BoardMemory) : BoardMemory × List MicrokitChannel :=
  match domain with
  | .scheduler =>
      let handled := schedulerNotified channel memory.inputBuffer memory.shmem
      (memory.withShmem handled.memory, handled.notified)
  | .gpio =>
      ({ memory with
        gpio := gpioNotified channel memory.faultmg.faultModeSlot memory.gpio }, [])
  | .lightctl =>
      let handled := lightctlNotified channel memory.shmem memory.lightctl
      ({ memory with lightctl := handled.1 }, handled.2.map LightctlEffect.channel)
  | .commandin =>
      match commandinNotified channel reading.received reading.digits memory.shmem
          memory.parser with
      | none => (memory, [])
      | some handled => (memory.afterAnswer handled, handled.notified)
  | .faultmg =>
      let handled := faultmgNotified channel reading.mr0 memory.inputBuffer memory.faultmg
      ({ memory with faultmg := handled.memory }, handled.notified)
  | .vehicleState =>
      let handled := vehicleStateNotified channel memory.inputBuffer memory.shmem
      (memory.withShmem handled.memory, handled.notified)

section Pieces

variable {domain : ProtectionDomain} {reading : BoardReading} {memory final : BoardMemory}
  {rest : List BoardPiece} {notified : List MicrokitChannel}

/-- Notifications left to make are made. -/
theorem completes_sends (channels : List MicrokitChannel)
    (h : Completes board domain reading memory rest final notified) :
    Completes board domain reading memory (channels.map .send ++ rest) final
      (channels ++ notified) := by
  induction channels with
  | nil => exact h
  | cons channel more ih =>
      have heffect : board.perform domain (.send channel) reading memory =
          ⟨memory, [channel], []⟩ := by
        cases domain <;> rfl
      exact Completes.step heffect ih

/-- A handler that changes the memory first and notifies at its end. -/
theorem completes_of_effect {piece : BoardPiece} {channels : List MicrokitChannel}
    (heffect : board.perform domain piece reading memory =
      ⟨final, [], channels.map .send⟩) :
    Completes board domain reading memory [piece] final channels := by
  have hdone : Completes board domain reading final [] final [] := .nil final
  have hsends := completes_sends channels hdone
  rw [List.append_nil channels] at hsends
  exact Completes.step heffect hsends

/-- `publish_fault_state` with the stores it has left. -/
theorem completes_publish (stores : List FaultStore) :
    Completes board .faultmg reading memory [.publish stores]
      { memory with faultmg := stores.foldl FaultStore.perform memory.faultmg }
      [LightCh.faultmgToGpio, LightCh.faultmgToScheduler] := by
  induction stores generalizing memory with
  | nil => exact completes_of_effect rfl
  | cons store more ih =>
      have heffect : board.perform .faultmg (.publish (store :: more)) reading memory =
          ⟨{ memory with faultmg := store.perform memory.faultmg }, [],
            [.publish more]⟩ := rfl
      exact Completes.step heffect ih

/-- The loop of `sync_outputs` over the actions it has left. A transition that is
still due comes first. -/
theorem completes_iterate (actions : List GpioAction)
    (hremaining : memory.remaining = actions) :
    let iteration := syncIteration memory.shmem.vehicleSpeed memory.lightctl.faultModeCache
    let effect := syncEffect memory.shmem.vehicleSpeed memory.lightctl.faultModeCache
    Completes board .lightctl reading memory [.iterate]
      { memory with
        lightctl := ⟨run iteration memory.execution actions, memory.lightctl.faultModeCache⟩
        remaining := []
        triggered := none }
      ((outputs iteration effect memory.execution actions).map LightctlEffect.channel) := by
  induction actions generalizing memory with
  | nil =>
      refine completes_of_effect ?_
      simp only [board, performPiece, iterateEffect, BoardMemory.applied, hremaining,
        outputs, run_nil, List.map_nil]
  | cons action more ih =>
      let speed := memory.shmem.vehicleSpeed
      let mode := memory.lightctl.faultModeCache
      let next : BoardMemory := { memory with
        lightctl := ⟨memory.execution, mode⟩
        remaining := more
        triggered :=
          if (guardVerdict speed mode memory.execution action).allowed then some action
          else none }
      have heffect : board.perform .lightctl .iterate reading memory =
          ⟨next, [], ((syncEffect speed mode memory.execution action).map
            LightctlEffect.channel).map BoardPiece.send ++ [.iterate]⟩ := by
        simp only [board, performPiece, iterateEffect, hremaining, List.map_map]
        rfl
      have hexecution : next.execution = syncIteration speed mode memory.execution action := by
        have helim : next.execution = next.triggered.elim memory.execution
            (applyExecutionStateTransition memory.execution) := rfl
        rw [helim, syncIteration]
        by_cases hallowed : (guardVerdict speed mode memory.execution action).allowed = true
        · have htriggered : next.triggered = some action := if_pos hallowed
          rw [htriggered, if_pos hallowed]
          rfl
        · have htriggered : next.triggered = none := if_neg hallowed
          rw [htriggered, if_neg hallowed]
          rfl
      have hrest := @ih next rfl
      rw [hexecution] at hrest
      simp only [outputs, run_cons, List.map_append]
      refine Completes.step heffect ?_
      rw [List.append_nil]
      exact completes_sends _ hrest

/-- faultmg's handler does nothing, or publishes what it leaves. -/
theorem faultmgNotified_publishes (channel : MicrokitChannel) (mr0 : UInt64)
    (message : LightTransportMessage) (memory : FaultmgMemory) :
    faultmgNotified channel mr0 message memory = ⟨memory, []⟩ ∨
      ∃ before, before.shmem = memory.shmem ∧
        before.faultModeSlot = memory.faultModeSlot ∧
        faultmgNotified channel mr0 message memory = publishFaultState before := by
  rw [faultmgNotified_eq]
  cases faultRequest? channel mr0 message with
  | none => exact Or.inl rfl
  | some request =>
      cases request with
      | report errorCode => refine Or.inr ⟨_, ?_, ?_, rfl⟩ <;> rfl
      | clear scope =>
          by_cases hscope : scope = lightTransportFaultClearAll
          · subst hscope
            refine Or.inr ⟨_, ?_, ?_, rfl⟩ <;> rfl
          · exact Or.inl (handleFaultClear_of_other_scope _ hscope)

theorem completes_faultmg (channel : MicrokitChannel) :
    let handled := faultmgNotified channel reading.mr0 memory.inputBuffer memory.faultmg
    Completes board .faultmg reading memory [.notified channel]
      { memory with faultmg := handled.memory } handled.notified := by
  rcases faultmgNotified_publishes channel reading.mr0 memory.inputBuffer memory.faultmg
    with hquiet | ⟨before, (hshmem : before.shmem = memory.shmem), hslot, hpublished⟩
  · have heffect : board.perform .faultmg (.notified channel) reading memory =
        ⟨memory, [], []⟩ := by
      simp only [board, performPiece, faultmgEffect, hquiet, if_true]
    rw [hquiet]
    exact completes_of_effect heffect
  · have hkept : ({ (publishFaultState before).memory with
        shmem := memory.shmem
        faultModeSlot := memory.faultmg.faultModeSlot } : FaultmgMemory) = before := by
      rw [← hshmem, ← hslot]
      rfl
    have heffect : board.perform .faultmg (.notified channel) reading memory =
        ⟨{ memory with faultmg := before }, [], [.publish faultStores]⟩ := by
      simp only [board, performPiece, faultmgEffect, hpublished, hkept]
      rfl
    have hstored : Completes board .faultmg reading { memory with faultmg := before }
        [.publish faultStores] _ _ := completes_publish faultStores
    rw [foldl_faultStores] at hstored
    rw [hpublished]
    exact Completes.step heffect hstored

end Pieces

/-- The pieces of a handler, one after the other, are the handler. -/
theorem completes_handler (domain : ProtectionDomain) (channel : MicrokitChannel)
    (reading : BoardReading) {memory : BoardMemory}
    (hidle : domain = .lightctl → memory.remaining = [] ∧ memory.triggered = none) :
    Completes board domain reading memory [.notified channel]
      (boardHandler domain channel reading memory).1
      (boardHandler domain channel reading memory).2 := by
  cases domain with
  | scheduler => exact completes_of_effect rfl
  | vehicleState => exact completes_of_effect rfl
  | gpio => exact completes_of_effect rfl
  | faultmg => exact completes_faultmg channel
  | commandin =>
      refine completes_of_effect ?_
      simp only [board, performPiece, commandinEffect, boardHandler]
      cases commandinNotified channel reading.received reading.digits memory.shmem
        memory.parser <;> rfl
  | lightctl =>
      by_cases hchannel : channel = LightCh.lightctlFromScheduler
      · subst hchannel
        obtain ⟨parser, console, buffer, faultmg, lightctl, remaining, triggered, gpio⟩ :=
          memory
        obtain ⟨rfl, rfl⟩ : remaining = [] ∧ triggered = none := hidle rfl
        exact Completes.step rfl (completes_iterate _ rfl)
      · have heffect : board.perform .lightctl (.notified channel) reading memory =
            ⟨memory, [], [LightCh.lightctlToFaultmg].map .send⟩ := by
          simp only [board, performPiece, lightctlEffect, ne_eq, hchannel,
            not_false_eq_true, if_true]
          rfl
        simp only [boardHandler, lightctlNotified, ne_eq, hchannel, not_false_eq_true,
          if_true]
        exact completes_of_effect heffect

/-- At every point of every run: a domain that starts the handler of a flag and
is left alone leaves the memory as its `notified` does, has set the flags of
everything that notified, and is in no handler again. -/
theorem board_runs_handlers (regions : BoardRegions) (events : List BoardEvent)
    (domain : ProtectionDomain) (channel : MicrokitChannel) (reading : BoardReading)
    (hfree : (run BoardEvent.step (boardInit regions) events).script domain = [])
    (hwoken : (domain, channel) ∈
      (run BoardEvent.step (boardInit regions) events).woken) :
    let state := run BoardEvent.step (boardInit regions) events
    let handled := boardHandler domain channel reading state.memory
    ∃ count, run BoardEvent.step state
        (.enter domain channel :: List.replicate count (.advance domain reading)) =
      { memory := handled.1
        pending := state.pending ∪ board.targets domain handled.2
        woken := state.woken.erase (domain, channel)
        script := state.script } := by
  intro state handled
  have hidle : domain = .lightctl →
      state.memory.remaining = [] ∧ state.memory.triggered = none := by
    rintro rfl
    exact ⟨kept_outside_loop remaining_kept rfl hfree,
      kept_outside_loop triggered_kept rfl hfree⟩
  exact Completes.run_entered hfree hwoken
    (completes_handler domain channel reading hidle)

/-- lightctl's first `sync_outputs` after init. -/
theorem board_runs_handlers_first_sync :
    let state := run BoardEvent.step (boardInit zeroRegions) (bootEvents.take 11)
    ∃ count, (run BoardEvent.step state
        (.enter .lightctl LightCh.lightctlFromScheduler ::
          List.replicate count (.advance .lightctl noReading))).memory.lightctl =
      (syncOutputs state.memory.shmem state.memory.lightctl).1 := by
  obtain ⟨count, hrun⟩ := board_runs_handlers zeroRegions (bootEvents.take 11) .lightctl
    LightCh.lightctlFromScheduler noReading rfl (by decide +kernel)
  refine ⟨count, ?_⟩
  rw [hrun]
  rfl

end LightCtrl
