import LightCtrl.System.Convergence
import LightCtrl.System.Workload

/-!
Why the board comes to rest once nobody types. lightctl is the lowest domain,
so whenever it moves the inputs are final and the target is the decision for
them. A plan made then is refused nothing, unless hazard lights are asked for
while the guard refuses the turn lamps. What may still be refused are the
actions left of an older plan.
-/

namespace LightCtrl

open Runs Preemption

/-- What may still change the operator request or the vehicle state. -/
def InputOwes (channelEnd : ChannelEnd) : Prop :=
  channelEnd.1 = .commandin ∨ channelEnd.1 = .vehicleState ∨
    channelEnd = (.scheduler, LightCh.schedulerFromCommandin)

def InputPays (domain : ProtectionDomain) (piece : BoardPiece) : Prop :=
  domain = .commandin ∨ domain = .vehicleState ∨
    domain = .scheduler ∧ piece = .notified LightCh.schedulerFromCommandin

instance (channelEnd : ChannelEnd) : Decidable (InputOwes channelEnd) :=
  inferInstanceAs (Decidable (_ ∨ _ ∨ _))

def InputsFinal (state : BoardState) : Prop := ¬ Owed InputOwes InputPays state

/-- Hazard lights are asked for and the guard refuses the turn lamps. -/
def HazardBlocked (shmem : LightShmem) : Prop :=
  ignitionOn shmem.vehicleState = true ∧ hazardActive shmem.vehicleState = true ∧
    (brakeActive shmem.operatorRequest shmem.vehicleState = true ∨
      120 < shmem.vehicleState.speedKph)

instance (shmem : LightShmem) : Decidable (HazardBlocked shmem) :=
  inferInstanceAs (Decidable (_ ∧ _ ∧ _))

/-- The inputs of a decision are the same. -/
def SameInputs (left right : LightShmem) : Prop :=
  left.operatorRequest = right.operatorRequest ∧ left.vehicleState = right.vehicleState

theorem SameInputs.blocked_iff {left right : LightShmem} (h : SameInputs left right) :
    HazardBlocked left ↔ HazardBlocked right := by
  rw [HazardBlocked, h.1, h.2, HazardBlocked]

section Inputs

variable {reading : BoardReading} {memory : BoardMemory} {domain : ProtectionDomain}
  {piece : BoardPiece} {effect : BoardEffect}

/-- A piece that does not belong to the inputs leaves them, and brings nothing
that belongs to them. -/
theorem outcome_keeps_inputs (houtcome : PieceOutcome reading memory domain piece effect)
    (hfree : ¬ InputPays domain piece) :
    ¬ effect.Hands board InputOwes InputPays domain ∧
      SameInputs effect.memory.shmem memory.shmem := by
  obtain ⟨hcommandin, hvehicle, hscheduler⟩ : domain ≠ .commandin ∧
      domain ≠ .vehicleState ∧
        (domain = .scheduler → piece ≠ .notified LightCh.schedulerFromCommandin) := by
    simpa [InputPays] using hfree
  have hsent : ∀ domain : ProtectionDomain, ∀ channel ∈ domain.sentChannels,
      domain = .commandin ∨ domain = .vehicleState ∨
        ∀ channelEnd ∈ channelPeer domain channel, ¬ InputOwes channelEnd := by
    intro domain
    cases domain <;> decide
  have hnothing : effect.notified = [] →
      (∀ later ∈ effect.next, ∀ channel, later ≠ .notified channel) →
        ¬ effect.Hands board InputOwes InputPays domain := by
    intro hquiet hnext
    refine Effect.not_hands_of_quiet hquiet ?_
    rintro later hlater (hpays | hpays | ⟨-, hpays⟩)
    · exact hcommandin hpays
    · exact hvehicle hpays
    · exact hnext later hlater _ hpays
  cases houtcome with
  | sent _ channel h =>
      refine ⟨?_, rfl, rfl⟩
      rintro (⟨later, hlater, -⟩ | ⟨sent, hnotified, channelEnd, hpeer, howes⟩)
      · exact absurd hlater List.not_mem_nil
      · obtain rfl := List.mem_singleton.mp hnotified
        rcases hsent domain sent h with hsame | hsame | hclear
        · exact hcommandin hsame
        · exact hvehicle hsame
        · exact hclear channelEnd hpeer howes
  | commandIgnored => exact absurd rfl (hscheduler rfl)
  | recomputed channel request uartCmd hrequest =>
      refine ⟨hnothing rfl (by simp), ?_, rfl⟩
      rcases hrequest with hsame | ⟨hchannel, -⟩
      · exact hsame
      · exact absurd (congrArg BoardPiece.notified hchannel) (hscheduler rfl)
  | answered _ _ _ _ _ _ => exact absurd rfl hcommandin
  | vehicleIgnored => exact absurd rfl hvehicle
  | vehicleStored => exact absurd rfl hvehicle
  | stored store rest =>
      obtain ⟨-, hstate, hrequest, -⟩ := store.perform_frame memory.faultmg
      exact ⟨hnothing rfl (by simp), hrequest, hstate⟩
  | _ => exact ⟨hnothing rfl (by simp), rfl, rfl⟩

/-- The step lemma: final inputs stay final, and the same. -/
theorem InputsFinal.step {state : BoardState} (hfinal : InputsFinal state)
    (hsound : Sound HandledEnd BoardRuns BoardSafe state) {event : BoardEvent}
    (hquiet : ∀ channelEnd, event ≠ .interrupt channelEnd) :
    InputsFinal (BoardEvent.step state event) ∧
      SameInputs (BoardEvent.step state event).memory.shmem state.memory.shmem := by
  have hpiece : ∀ domain reading piece rest, state.script domain = piece :: rest →
      PieceOutcome reading state.memory domain piece
          (performPiece domain piece reading state.memory) ∧
        ¬ InputPays domain piece := by
    intro domain reading piece rest hscript
    have hmember : piece ∈ state.script domain := by simp [hscript]
    exact ⟨performPiece_outcome reading (hsound.script domain piece hmember)
      hsound.memory.line hsound.memory.lamps,
      fun hpays => hfinal (Or.inr ⟨domain, piece, hmember, hpays⟩)⟩
  constructor
  · refine not_owed_step hfinal event (fun channelEnd h => absurd h (hquiet channelEnd))
      ?_ ?_
    · intro domain channel piece hmember hpays
      obtain rfl := List.mem_singleton.mp hmember
      rcases hpays with hdomain | hdomain | ⟨hdomain, hchannel⟩
      · exact Or.inl hdomain
      · exact Or.inr (Or.inl hdomain)
      · cases hchannel
        exact Or.inr (Or.inr (congrArg (·, LightCh.schedulerFromCommandin) hdomain))
    · intro domain reading piece rest _ hscript
      obtain ⟨houtcome, hfree⟩ := hpiece domain reading piece rest hscript
      exact (outcome_keeps_inputs houtcome hfree).1
  · refine board.step_rule
      (motive := fun next => SameInputs next.memory.shmem state.memory.shmem)
      ⟨rfl, rfl⟩ (fun _ _ _ => ⟨rfl, rfl⟩) (fun _ _ _ => ⟨rfl, rfl⟩)
      (fun _ _ _ _ _ => ⟨rfl, rfl⟩) ?_
    intro domain reading piece rest _ hscript
    obtain ⟨houtcome, hfree⟩ := hpiece domain reading piece rest hscript
    exact (outcome_keeps_inputs houtcome hfree).2

/-- The run lemma. -/
theorem InputsFinal.run {state : BoardState} (hfinal : InputsFinal state)
    (hsound : Sound HandledEnd BoardRuns BoardSafe state) {events : List BoardEvent}
    (hquiet : ∀ event ∈ events, ∀ channelEnd, event ≠ .interrupt channelEnd) :
    SameInputs (Runs.run BoardEvent.step state events).memory.shmem
      state.memory.shmem := by
  induction events generalizing state with
  | nil => exact ⟨rfl, rfl⟩
  | cons event rest ih =>
      obtain ⟨hnext, hsame⟩ := hfinal.step hsound (hquiet event (by simp))
      have hrest := ih hnext (board_closed.step hsound event)
        fun later hlater => hquiet later (List.mem_cons_of_mem _ hlater)
      exact ⟨hrest.1.trans hsame.1, hrest.2.trans hsame.2⟩

end Inputs

/-- lightctl is the lowest domain: all others are idle when it moves. -/
theorem idle_of_lightctl_moves {state : BoardState}
    (habove : ∀ higher, ProtectionDomain.priority .lightctl < higher.priority →
      Idle state higher) {domain : ProtectionDomain} (hother : domain ≠ .lightctl) :
    Idle state domain := by
  refine habove domain ?_
  cases domain with
  | lightctl => exact absurd rfl hother
  | _ => decide

section Plans

/-- The rest of the plan is refused nothing at the current speed. -/
structure PlanPermitted (memory : BoardMemory) : Prop where
  speed : memory.shmem.vehicleSpeed = memory.shmem.vehicleState.speedKph
  permitted : ∃ lamps : LampState, memory.execution = lamps.toExecution ∧
    EveryStep (LampState.step memory.limits)
      (fun state action => state.permits memory.limits action = true) lamps
      memory.remaining

variable {memory : BoardMemory}

/-- A plan for the decision is refused nothing but a blocked hazard. -/
theorem planPermitted_of_decision (lamps : LampState) {mode : FaultMode}
    (htarget : recomputeTargetOutput memory.shmem = memory.shmem)
    (hmode : memory.shmem.faultMode = mode.toByte)
    (hfree : ¬ HazardBlocked memory.shmem) :
    PlanPermitted { memory with
      lightctl := ⟨lamps.toExecution, memory.shmem.faultMode⟩
      remaining := lamps.plan memory.shmem.targetOutput.wanted
      triggered := none } := by
  have hspeed : memory.shmem.vehicleSpeed = memory.shmem.vehicleState.speedKph :=
    congrArg LightShmem.vehicleSpeed htarget.symm
  have hwanted : memory.shmem.targetOutput.wanted =
      (arbitratedState memory.shmem.operatorRequest memory.shmem.vehicleState
        mode.toByte).wanted := by
    rw [← targetOutputFromState_wanted, ← computeTargetOutput_eq, ← hmode]
    exact congrArg (fun shmem : LightShmem => shmem.targetOutput.wanted) htarget.symm
  refine ⟨hspeed, lamps, rfl, ?_⟩
  simp only [BoardMemory.limits, BoardMemory.shmem] at hspeed hmode hwanted ⊢
  rw [LampState.plan_permitted_iff, hspeed, hmode, hwanted]
  refine ⟨(arbitrated_turnGranted_iff _ lamps).mpr ?_, arbitrated_beamGranted _ _ _ _⟩
  rintro ⟨hignition, hhazard, -, hrefused, -⟩
  exact hfree ⟨hignition, hhazard, hrefused⟩

theorem PlanPermitted.of_same {next : BoardMemory} (h : PlanPermitted memory)
    (hspeed : next.shmem.vehicleSpeed = memory.shmem.vehicleSpeed)
    (hstate : next.shmem.vehicleState = memory.shmem.vehicleState)
    (hcache : next.lightctl.faultModeCache = memory.lightctl.faultModeCache)
    (hexecution : next.execution = memory.execution)
    (hremaining : next.remaining = memory.remaining) : PlanPermitted next := by
  obtain ⟨hsame, lamps, hlamps, hpermitted⟩ := h
  refine ⟨by rw [hspeed, hstate, hsame], lamps, hexecution.trans hlamps, ?_⟩
  simp only [BoardMemory.limits, hspeed, hcache, hremaining]
  exact hpermitted

/-- The refusals of a piece come off the plan, or a plan follows that will be
refused nothing. -/
theorem outcome_refusals {reading : BoardReading} {domain : ProtectionDomain}
    {piece : BoardPiece} {effect : BoardEffect} {mode : FaultMode}
    (houtcome : PieceOutcome reading memory domain piece effect)
    (hplan : domain = .lightctl → recomputeTargetOutput memory.shmem = memory.shmem ∧
      memory.shmem.faultMode = mode.toByte ∧ ¬ HazardBlocked memory.shmem) :
    (refusal domain piece memory + effect.memory.remaining.length ≤
        memory.remaining.length ∨
      domain = .lightctl ∧ refusal domain piece memory = 0 ∧
        PlanPermitted effect.memory) ∧
    (¬ InputPays domain piece → PlanPermitted memory →
      refusal domain piece memory = 0 ∧ PlanPermitted effect.memory) := by
  have hquiet : piece ≠ .iterate → refusal domain piece memory = 0 :=
    fun hpiece => if_neg fun h => hpiece h.2.1
  cases houtcome with
  | recomputed channel request uartCmd _ =>
      rw [hquiet (by simp), Nat.zero_add]
      refine ⟨Or.inl le_rfl, fun _ h => ⟨rfl, rfl, ?_⟩⟩
      obtain ⟨hspeed, hpermitted⟩ := h
      simp only [BoardMemory.limits, BoardMemory.shmem] at hspeed hpermitted ⊢
      rw [hspeed] at hpermitted
      exact hpermitted
  | planned lamps _ =>
      obtain ⟨htarget, hmode, hfree⟩ := hplan rfl
      have hpermitted := planPermitted_of_decision lamps htarget hmode hfree
      exact ⟨Or.inr ⟨rfl, hquiet (by simp), hpermitted⟩,
        fun _ _ => ⟨hquiet (by simp), hpermitted⟩⟩
  | ended lamps hlamps hremaining =>
      have hnone : refusal .lightctl .iterate memory = 0 := by
        refine if_neg ?_
        rintro ⟨-, -, action, haction, -⟩
        simp [hremaining] at haction
      rw [hnone, Nat.zero_add]
      exact ⟨Or.inl le_rfl, fun _ h => ⟨rfl, h.of_same rfl rfl rfl hlamps.symm rfl⟩⟩
  | allowed lamps action rest hlamps hremaining hpermits =>
      have hnone : refusal .lightctl .iterate memory = 0 := by
        refine if_neg ?_
        rintro ⟨-, -, other, hother, hverdict⟩
        rw [hremaining] at hother
        obtain rfl : action = other := Option.some.inj hother
        rw [hlamps, guardVerdict_allowed] at hverdict
        exact absurd (hpermits.symm.trans hverdict) (by decide)
      rw [hnone, Nat.zero_add, hremaining]
      refine ⟨Or.inl (Nat.le_succ _), fun _ h => ⟨rfl, h.speed, lamps.perform action,
        transition_toExecution lamps action, ?_⟩⟩
      obtain ⟨-, current, hcurrent, hpermitted⟩ := h
      obtain rfl := LampState.toExecution_injective (hcurrent.symm.trans hlamps)
      rw [hremaining] at hpermitted
      have hrest := hpermitted.2
      rw [LampState.step, if_pos hpermits] at hrest
      exact hrest
  | denied lamps action rest hlamps hremaining hpermits =>
      constructor
      · left
        have hone : refusal .lightctl .iterate memory ≤ 1 := by
          unfold refusal
          split_ifs <;> decide
        rw [hremaining, List.length_cons, Nat.add_comm]
        exact Nat.add_le_add_left hone rest.length
      · rintro - ⟨-, current, hcurrent, hpermitted⟩
        obtain rfl := LampState.toExecution_injective (hcurrent.symm.trans hlamps)
        rw [hremaining] at hpermitted
        exact absurd (hpermitted.1.symm.trans hpermits) (by decide)
  | stored store rest =>
      obtain ⟨-, hstate, -, -, -, hspeed⟩ := store.perform_frame memory.faultmg
      rw [hquiet (by simp), Nat.zero_add]
      exact ⟨Or.inl le_rfl, fun _ h => ⟨rfl, h.of_same hspeed hstate rfl rfl rfl⟩⟩
  | vehicleStored =>
      rw [hquiet (by simp), Nat.zero_add]
      exact ⟨Or.inl le_rfl, fun hfree => absurd (Or.inr (Or.inl rfl)) hfree⟩
  | _ =>
      rw [hquiet (by simp), Nat.zero_add]
      exact ⟨Or.inl le_rfl, fun _ h => ⟨rfl, h.of_same rfl rfl rfl rfl rfl⟩⟩

end Plans

section Refusals

/-- The state is sound, and its target and published mode are current or owed. -/
structure DecisionKept (state : BoardState) : Prop where
  sound : Sound HandledEnd BoardRuns BoardSafe state
  target : recomputeTargetOutput state.memory.shmem = state.memory.shmem ∨
    Owed TargetOwes TargetPays state
  mode : FaultStore.mode.Current state.memory.faultmg ∨
    Owed (fun _ => False) (StorePays .mode) state

variable {state : BoardState}

theorem DecisionKept.step (h : DecisionKept state) (event : BoardEvent) :
    DecisionKept (BoardEvent.step state event) :=
  ⟨board_closed.step h.sound event, target_kept.step h.sound h.target event,
    (store_kept .mode).step h.sound h.mode event⟩

theorem decisionKept_run (regions : BoardRegions) (events : List BoardEvent) :
    DecisionKept (run BoardEvent.step (boardInit regions) events) := by
  refine run_invariant DecisionKept (fun _ event h => h.step event) _ ?_ events
  have hpending : (.scheduler, LightCh.schedulerFromFaultmg) ∈
      (boardInit regions).pending := by
    rw [boardInit_pending]
    decide
  exact ⟨boardInit_sound regions, Or.inr (owed_of_pending hpending (Or.inl rfl)),
    Or.inl rfl⟩

/-- When lightctl moves, the inputs are final and the target is current. -/
theorem DecisionKept.of_idle (h : DecisionKept state)
    (hidle : ∀ domain, domain ≠ .lightctl → Idle state domain) :
    InputsFinal state ∧ recomputeTargetOutput state.memory.shmem = state.memory.shmem ∧
      state.memory.shmem.faultMode = state.memory.faultmg.faultState.mode.toByte := by
  have hpublication : ∀ domain piece, PublicationPays domain piece →
      domain = .faultmg := by
    intro domain piece hpays
    cases domain with
    | faultmg => rfl
    | _ => exact hpays.elim
  refine ⟨not_owed_of_idle ?_ ?_, h.target.resolve_right (not_owed_of_idle ?_ ?_),
    h.mode.resolve_right (not_owed_of_idle (fun _ howes => howes.elim) ?_)⟩
  · rintro ⟨domain, channel⟩ (howes | howes | howes)
    · exact hidle _ (ne_of_eq_of_ne howes (by decide))
    · exact hidle _ (ne_of_eq_of_ne howes (by decide))
    · exact hidle _ (ne_of_eq_of_ne (congrArg Prod.fst howes) (by decide))
  · rintro domain piece (rfl | rfl | ⟨rfl, -⟩) <;> exact hidle _ (by decide)
  · rintro ⟨domain, channel⟩ (howes | howes) <;>
      exact hidle _ (ne_of_eq_of_ne (congrArg Prod.fst howes) (by decide))
  · rintro domain piece (hpays | ⟨rfl, -⟩ | ⟨rfl, -⟩)
    · exact hidle _ (ne_of_eq_of_ne (hpublication domain piece hpays) (by decide))
    · exact hidle _ (by decide)
    · exact hidle _ (by decide)
  · intro domain piece hpays
    cases domain with
    | faultmg => exact hidle _ (by decide)
    | _ => exact hpays.elim

/-- The step lemma of the refusals, without an interrupt. -/
theorem refused_step (h : DecisionKept state) {event : BoardEvent}
    (hquiet : ∀ channelEnd, event ≠ .interrupt channelEnd)
    (hrespects : Respects ProtectionDomain.priority state event)
    (hfree : InputsFinal state → ¬ HazardBlocked state.memory.shmem) :
    let next := BoardEvent.step state event
    (refused state event + next.memory.remaining.length ≤
        state.memory.remaining.length ∨
      refused state event = 0 ∧ InputsFinal next ∧ PlanPermitted next.memory) ∧
    (InputsFinal state → PlanPermitted state.memory →
      refused state event = 0 ∧ InputsFinal next ∧ PlanPermitted next.memory) := by
  intro next
  have hfinal : InputsFinal state → InputsFinal next := fun h' => (h'.step h.sound hquiet).1
  cases event with
  | interrupt channelEnd => exact absurd rfl (hquiet channelEnd)
  | wake domain =>
      have hmemory : next.memory = state.memory := by
        simp only [next, Program.step]
        split_ifs <;> rfl
      rw [hmemory]
      exact ⟨Or.inl (Nat.zero_add _).le, fun h' hpermitted => ⟨rfl, hfinal h', hpermitted⟩⟩
  | enter domain channel =>
      have hmemory : next.memory = state.memory := by
        simp only [next, Program.step]
        split_ifs <;> rfl
      rw [hmemory]
      exact ⟨Or.inl (Nat.zero_add _).le, fun h' hpermitted => ⟨rfl, hfinal h', hpermitted⟩⟩
  | advance domain reading =>
      cases hscript : state.script domain with
      | nil =>
          have hmemory : next.memory = state.memory := by
            simp only [next, Program.step, hscript]
          have hnone : refused state (.advance domain reading) = 0 := by
            simp only [refused, hscript, List.head?_nil, Option.elim_none]
          rw [hmemory, hnone, Nat.zero_add]
          exact ⟨Or.inl le_rfl, fun h' hpermitted => ⟨rfl, hfinal h', hpermitted⟩⟩
      | cons piece rest =>
          have hmember : piece ∈ state.script domain := by simp [hscript]
          have hmemory : next.memory =
              (performPiece domain piece reading state.memory).memory := by
            simp only [next, Program.step, hscript]
            rfl
          have hrefused : refused state (.advance domain reading) =
              refusal domain piece state.memory := by
            simp only [refused, hscript, List.head?_cons, Option.elim_some]
          have hplan : domain = .lightctl → InputsFinal state ∧
              recomputeTargetOutput state.memory.shmem = state.memory.shmem ∧
              state.memory.shmem.faultMode =
                state.memory.faultmg.faultState.mode.toByte := by
            rintro rfl
            exact h.of_idle fun other hother => idle_of_lightctl_moves hrespects hother
          obtain ⟨hoff, hkept⟩ := outcome_refusals
            (performPiece_outcome reading (h.sound.script domain piece hmember)
              h.sound.memory.line h.sound.memory.lamps)
            fun hdomain => ⟨(hplan hdomain).2.1, (hplan hdomain).2.2,
              hfree (hplan hdomain).1⟩
          rw [hmemory, hrefused]
          refine ⟨hoff.imp_right ?_, ?_⟩
          · rintro ⟨hdomain, hnone, hpermitted⟩
            exact ⟨hnone, hfinal (hplan hdomain).1, hpermitted⟩
          · intro h' hpermitted
            have hpiece : ¬ InputPays domain piece := fun hpays =>
              h' (Or.inr ⟨domain, piece, hmember, hpays⟩)
            exact ⟨(hkept hpiece hpermitted).1, hfinal h', (hkept hpiece hpermitted).2⟩

/-- The run lemma of the refusals. -/
theorem refused_run (h : DecisionKept state) {events : List BoardEvent}
    (hquiet : ∀ event ∈ events, ∀ channelEnd, event ≠ .interrupt channelEnd)
    (hrespects : EveryStep BoardEvent.step (Respects ProtectionDomain.priority) state
      events)
    (hfree : ¬ HazardBlocked (run BoardEvent.step state events).memory.shmem) :
    total BoardEvent.step refused state events ≤ state.memory.remaining.length ∧
      (InputsFinal state → PlanPermitted state.memory →
        total BoardEvent.step refused state events = 0) := by
  induction events generalizing state with
  | nil => exact ⟨Nat.zero_le _, fun _ _ => rfl⟩
  | cons event rest ih =>
      have hnow : InputsFinal state → ¬ HazardBlocked state.memory.shmem :=
        fun hfinal hblocked => hfree ((hfinal.run h.sound hquiet).blocked_iff.mpr hblocked)
      obtain ⟨hoff, hkept⟩ := refused_step h (hquiet event (by simp)) hrespects.1 hnow
      obtain ⟨hbound, hnone⟩ := ih (h.step event)
        (fun later hlater => hquiet later (List.mem_cons_of_mem _ hlater)) hrespects.2 hfree
      have htotal : total BoardEvent.step refused state (event :: rest) =
          refused state event +
            total BoardEvent.step refused (BoardEvent.step state event) rest := by
        simp only [total, outputs, List.singleton_append, List.sum_cons]
      rw [htotal]
      constructor
      · rcases hoff with hless | ⟨hzero, hfinal, hpermitted⟩
        · omega
        · rw [hzero, hnone hfinal hpermitted]
          exact Nat.zero_le _
      · intro hfinal hpermitted
        obtain ⟨hzero, hfinal', hpermitted'⟩ := hkept hfinal hpermitted
        rw [hzero, hnone hfinal' hpermitted']

end Refusals

/-- A plan is never longer than six actions, nor is what is left of it. -/
theorem remaining_length_le (regions : BoardRegions) (events : List BoardEvent) :
    (run BoardEvent.step (boardInit regions) events).memory.remaining.length ≤ 6 := by
  have hshort : Keeps board BoardRuns BoardSafe (fun _ => False) (fun _ _ => False)
      (fun memory => memory.remaining.length ≤ 6) := by
    refine Route.keeps ⟨fun _ _ howes => howes.elim, fun _ _ hpays => hpays.elim⟩ ?_
    intro reading memory domain piece effect houtcome _
    cases houtcome with
    | planned lamps _ => exact Or.inl (lamps.plan_length _)
    | allowed lamps action rest _ hremaining _ =>
        refine Or.inr (Or.inr ⟨id, fun hlength => ?_⟩)
        rw [hremaining] at hlength
        exact (Nat.le_succ _).trans hlength
    | denied lamps action rest _ hremaining _ =>
        refine Or.inr (Or.inr ⟨id, fun hlength => ?_⟩)
        rw [hremaining] at hlength
        exact (Nat.le_succ _).trans hlength
    | _ => exact Or.inr (Or.inr ⟨id, id⟩)
  refine (hshort.run board_closed (boardInit_sound regions)
    (Or.inl (Nat.zero_le 6)) events).resolve_right ?_
  rintro (⟨_, -, howes⟩ | ⟨_, _, -, hpays⟩)
  · exact howes
  · exact hpays

private theorem interrupted_eq_zero {state : BoardState} {events : List BoardEvent}
    (hquiet : ∀ event ∈ events, ∀ channelEnd, event ≠ .interrupt channelEnd) :
    total BoardEvent.step interrupted state events = 0 := by
  induction events generalizing state with
  | nil => rfl
  | cons event rest ih =>
      have hnone : interrupted state event = 0 := by
        cases event with
        | interrupt channelEnd => exact absurd rfl (hquiet _ (by simp) channelEnd)
        | _ => rfl
      have hrest : total BoardEvent.step interrupted (BoardEvent.step state event) rest = 0 :=
        ih fun later hlater => hquiet later (List.mem_cons_of_mem _ hlater)
      simp only [total, outputs, List.singleton_append, List.sum_cons] at hrest ⊢
      rw [hnone, hrest]

/-- After the last interrupt, with the ready domain of the highest priority
moving, the guard refuses at most the six actions of one plan, unless blocked
hazard lights are asked for in the end. So the board does at most what was left
to do at that point and what six reports bring, and then rests. -/
theorem board_settles (regions : BoardRegions) (before after : List BoardEvent)
    (hrespects : EveryStep BoardEvent.step (Respects ProtectionDomain.priority)
      (boardInit regions) (before ++ after))
    (hquiet : ∀ event ∈ after, ∀ channelEnd, event ≠ .interrupt channelEnd)
    (hfree : ¬ HazardBlocked
      (run BoardEvent.step (boardInit regions) (before ++ after)).memory.shmem) :
    let state := run BoardEvent.step (boardInit regions) before
    total BoardEvent.step refused state after ≤ 6 ∧
      total BoardEvent.step done state after ≤ workload boardPrices state + 318 := by
  intro state
  rw [run_append] at hfree
  obtain ⟨-, hrest⟩ := (everyStep_append _ _ _).mp hrespects
  have hkept := decisionKept_run regions before
  have hsix : total BoardEvent.step refused state after ≤ 6 :=
    (refused_run hkept hquiet hrest hfree).1.trans (remaining_length_le regions before)
  refine ⟨hsix, ?_⟩
  have hrun := board_affordable.run board_closed hkept.sound after
  have hgranted : total board.step (granted board boardPrices denialCredit) state after =
      60 * total BoardEvent.step interrupted state after +
        53 * total BoardEvent.step refused state after :=
    total_linear board_granted state after
  rw [interrupted_eq_zero hquiet] at hgranted
  refine (Nat.le_add_left _ _).trans (hrun.trans (Nat.add_le_add_left ?_ _))
  rw [hgranted]
  omega

theorem board_settles_after_boot :
    total BoardEvent.step refused (boardInit zeroRegions) bootEvents ≤ 6 ∧
      total BoardEvent.step done (boardInit zeroRegions) bootEvents ≤
        workload boardPrices (boardInit zeroRegions) + 318 :=
  board_settles zeroRegions [] bootEvents bootEvents_respects (by simp [bootEvents])
    (by decide +kernel)

end LightCtrl
