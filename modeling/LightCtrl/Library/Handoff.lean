import Mathlib.Algebra.Order.BigOperators.Group.Multiset
import LightCtrl.Library.Backlog

/-!
A domain that hands items to another one, where the receiver has taken an item
before the sender hands over the next: because it is above the sender, or
because the sender is given time. So at most one item is under way, and nothing
is lost, doubled or overtaken although a notification carries no data and does
not count. What the item means is a relation between the memory, what was
recorded so far and the item under way.
-/

namespace LightCtrl.Preemption

open Runs

variable {δ χ ω ε μ α ι : Type*}

/-- At most one item. -/
def weigh : Option α → Multiset α
  | none => 0
  | some item => {item}

theorem weigh_card_le (item : Option α) : (weigh item).card ≤ 1 := by
  cases item <;> simp [weigh]

theorem weigh_injective : Function.Injective (weigh : Option α → Multiset α) := by
  intro left right heq
  cases left <;> cases right <;> simp_all [weigh]

/-- What an event adds to the record. -/
def recorded (record : δ → ω → ε → μ → List ι) (state : State δ χ ω μ) :
    Event δ χ ε → List ι
  | .advance domain reading =>
      (state.script domain).head?.elim []
        fun piece => record domain piece reading state.memory
  | _ => []

/-- Which flags and pieces carry an item from whom to whom. -/
structure Parcels (δ χ ω α : Type*) where
  sender : δ
  receiver : δ
  flag : δ × χ → Option α
  piece : δ → ω → Option α

/-- The items under way. -/
def Parcels.underWay [Fintype δ] (parcels : Parcels δ χ ω α)
    (state : State δ χ ω μ) : Multiset α :=
  tally (fun endpoint => weigh (parcels.flag endpoint))
    (fun domain piece => weigh (parcels.piece domain piece)) state

section Pieces

variable [DecidableEq δ] [DecidableEq χ]

/-- The items in the pieces and flags an effect leaves. -/
def Parcels.passedOn (parcels : Parcels δ χ ω α) (program : Program δ χ ω ε μ)
    (domain : δ) (effect : Effect χ ω μ) : Multiset α :=
  (effect.next.map fun piece => weigh (parcels.piece domain piece)).sum +
    ∑ endpoint ∈ program.targets domain effect.notified,
      weigh (parcels.flag endpoint)

/-- Without a notification only the pieces count. -/
theorem Parcels.passedOn_quiet {parcels : Parcels δ χ ω α} {program : Program δ χ ω ε μ}
    {domain : δ} {effect : Effect χ ω μ} (hquiet : effect.notified = []) :
    parcels.passedOn program domain effect =
      (effect.next.map fun piece => weigh (parcels.piece domain piece)).sum := by
  rw [passedOn, hquiet]
  exact add_zero _

/-- A notification passes its item on to the flag it sets. -/
theorem Parcels.passedOn_sent {parcels : Parcels δ χ ω α} {program : Program δ χ ω ε μ}
    {domain : δ} {channel : χ} {endpoint : δ × χ} {memory : μ}
    (hpeer : program.peer domain channel = some endpoint) :
    parcels.passedOn program domain ⟨memory, [channel], []⟩ =
      weigh (parcels.flag endpoint) := by
  have htargets : program.targets domain [channel] = {endpoint} := by
    simp [Program.targets, hpeer]
  rw [passedOn, htargets, Finset.sum_singleton]
  exact zero_add _

/-- A piece passes on what it carries, or is the sender's and hands over a new
item or none where it may, or takes the item it carries. -/
inductive Parcels.Moves (parcels : Parcels δ χ ω α) (program : Program δ χ ω ε μ)
    (related : List ι → μ → Option α → Prop) (mayHand : Prop) (memory : μ)
    (entry : List ι) (domain : δ) (piece : ω) (effect : Effect χ ω μ) : Prop where
  | passes
      (same : parcels.passedOn program domain effect =
        weigh (parcels.piece domain piece))
      (kept : ∀ past item, related past memory item →
        related (past ++ entry) effect.memory item)
  | hands (item : Option α) (sends : domain = parcels.sender)
      (may : mayHand) (empty : parcels.piece domain piece = none)
      (handed : parcels.passedOn program domain effect = weigh item)
      (kept : ∀ past, related past memory none →
        related (past ++ entry) effect.memory item)
  | takes (item : α) (carried : parcels.piece domain piece = some item)
      (rest : parcels.passedOn program domain effect = 0)
      (kept : ∀ past, related past memory (some item) →
        related (past ++ entry) effect.memory none)

/-- Only the sender and the receiver carry items, and flags only to the latter. -/
structure Confined (parcels : Parcels δ χ ω α) : Prop where
  flags : ∀ endpoint, endpoint.1 ≠ parcels.receiver → parcels.flag endpoint = none
  pieces : ∀ domain, domain ≠ parcels.sender → domain ≠ parcels.receiver →
    ∀ piece, parcels.piece domain piece = none

/-- Whenever the sender may hand over an item and its step is allowed, nothing is
under way; and it has at most one piece left that carries an item. -/
structure Handoff [Fintype δ] (program : Program δ χ ω ε μ)
    (allowed : State δ χ ω μ → Event δ χ ε → Prop) (mayHand : ω → ε → μ → Prop)
    (known : δ × χ → Prop) (runs : δ → ω → Prop) (invariant : μ → Prop)
    (parcels : Parcels δ χ ω α) (record : δ → ω → ε → μ → List ι)
    (related : List ι → μ → Option α → Prop) : Prop where
  ready : ∀ {state : State δ χ ω μ} {piece : ω} {rest : List ω} {reading : ε},
    state.script parcels.sender = piece :: rest → mayHand piece reading state.memory →
      (∀ left ∈ piece :: rest, parcels.piece parcels.sender left = none) →
        allowed state (.advance parcels.sender reading) → parcels.underWay state = 0
  external : ∀ endpoint ∈ program.external, parcels.flag endpoint = none
  entry : ∀ domain channel, known (domain, channel) →
    ((program.entry domain channel).map
      fun piece => weigh (parcels.piece domain piece)).sum =
        weigh (parcels.flag (domain, channel))
  entryTail : ∀ channel, ∀ later ∈ (program.entry parcels.sender channel).tail,
    parcels.piece parcels.sender later = none
  nextTail : ∀ piece reading memory, runs parcels.sender piece → invariant memory →
    ∀ later ∈ (program.perform parcels.sender piece reading memory).next.tail,
      parcels.piece parcels.sender later = none
  perform : ∀ domain piece reading memory, runs domain piece → invariant memory →
    parcels.Moves program related (mayHand piece reading memory) memory
      (record domain piece reading memory) domain piece
      (program.perform domain piece reading memory)

/-- At most one item is under way, it is the one the relation speaks of, and
the sender carries it, if at all, in its next piece. -/
structure HandedOver [Fintype δ] (parcels : Parcels δ χ ω α)
    (related : List ι → μ → Option α → Prop) (past : List ι)
    (state : State δ χ ω μ) : Prop where
  tail : ∀ later ∈ (state.script parcels.sender).tail,
    parcels.piece parcels.sender later = none
  item : ∃ item, parcels.underWay state = weigh item ∧ related past state.memory item

end Pieces

section Steps

variable [DecidableEq δ] [DecidableEq χ] [Fintype δ] {program : Program δ χ ω ε μ}
  {allowed : State δ χ ω μ → Event δ χ ε → Prop} {mayHand : ω → ε → μ → Prop}
  {known : δ × χ → Prop} {runs : δ → ω → Prop} {invariant : μ → Prop}
  {parcels : Parcels δ χ ω α}
  {record : δ → ω → ε → μ → List ι} {related : List ι → μ → Option α → Prop}
  {state : State δ χ ω μ}

omit [DecidableEq δ] [DecidableEq χ] in
/-- What a piece carries is under way, and so is what the flags carry. -/
theorem Parcels.le_underWay {domain : δ} {piece : ω} {rest : List ω}
    (hscript : state.script domain = piece :: rest) (flags : Finset (δ × χ))
    (hflags : flags ⊆ state.pending) :
    weigh (parcels.piece domain piece) +
        ∑ endpoint ∈ flags, weigh (parcels.flag endpoint) ≤
      parcels.underWay state := by
  have hpiece : weigh (parcels.piece domain piece) ≤
      ∑ other, ((state.script other).map
        fun left => weigh (parcels.piece other left)).sum := by
    refine le_trans ?_ (Finset.single_le_sum (fun _ _ => Multiset.zero_le _)
      (Finset.mem_univ domain))
    rw [hscript, List.map_cons, List.sum_cons]
    exact le_add_of_nonneg_right (Multiset.zero_le _)
  have hpending := Finset.sum_le_sum_of_subset
    (f := fun endpoint => weigh (parcels.flag endpoint)) hflags
  rw [underWay, tally, add_comm]
  refine add_le_add (hpending.trans ?_) hpiece
  exact le_add_of_nonneg_right (Multiset.zero_le _)

omit [DecidableEq δ] [DecidableEq χ] in
/-- Nothing is under way where no flag and no piece left carries anything. -/
theorem Parcels.underWay_eq_zero
    (hpending : ∀ endpoint ∈ state.pending, parcels.flag endpoint = none)
    (hwoken : ∀ endpoint ∈ state.woken, parcels.flag endpoint = none)
    (hpieces : ∀ domain, ∀ piece ∈ state.script domain,
      parcels.piece domain piece = none) :
    parcels.underWay state = 0 := by
  have hflags : ∀ flags : Finset (δ × χ),
      (∀ endpoint ∈ flags, parcels.flag endpoint = none) →
        ∑ endpoint ∈ flags, weigh (parcels.flag endpoint) = 0 := by
    intro flags hempty
    refine Finset.sum_eq_zero ?_
    intro endpoint hmember
    rw [hempty endpoint hmember]
    rfl
  have hscripts : ∀ domain, ((state.script domain).map
      fun left => weigh (parcels.piece domain left)).sum = 0 := by
    intro domain
    refine List.sum_eq_zero ?_
    intro weight hweight
    obtain ⟨left, hleft, rfl⟩ := List.mem_map.mp hweight
    rw [hpieces domain left hleft]
    rfl
  rw [underWay, tally, hflags _ hpending, hflags _ hwoken,
    Finset.sum_eq_zero (fun domain _ => hscripts domain), add_zero, add_zero]

omit [DecidableEq δ] [DecidableEq χ] in
/-- Nothing is under way while the receiver is idle and no piece of the sender
carries anything. -/
theorem Confined.underWay_eq_zero (h : Confined parcels) (hidle : Idle state parcels.receiver)
    (hempty : ∀ piece ∈ state.script parcels.sender,
      parcels.piece parcels.sender piece = none) :
    parcels.underWay state = 0 := by
  obtain ⟨hreceiver, hpending, hwoken⟩ := hidle
  refine Parcels.underWay_eq_zero (fun endpoint hmember => h.flags endpoint
    (hpending endpoint hmember)) (fun endpoint hmember => h.flags endpoint
    (hwoken endpoint hmember)) ?_
  intro domain left hleft
  by_cases hsender : domain = parcels.sender
  · subst hsender
    exact hempty left hleft
  · by_cases hother : domain = parcels.receiver
    · subst hother
      rw [hreceiver] at hleft
      exact absurd hleft List.not_mem_nil
    · exact h.pieces domain hsender hother left

omit [DecidableEq δ] [DecidableEq χ] in
/-- Where only the ready domain of the highest priority moves, a receiver above
the sender has taken what it was handed. -/
theorem Confined.ready_of_above (h : Confined parcels) {priority : δ → Nat}
    (habove : priority parcels.sender < priority parcels.receiver) {piece : ω}
    {rest : List ω} {reading : ε} (hscript : state.script parcels.sender = piece :: rest)
    (hempty : ∀ left ∈ piece :: rest, parcels.piece parcels.sender left = none)
    (hrespects : Respects priority state
      (.advance parcels.sender reading : Event δ χ ε)) : parcels.underWay state = 0 :=
  h.underWay_eq_zero (hrespects _ habove) (hscript ▸ hempty)

/-- No flag that is set again carries an item, for then there would be two. -/
private theorem repeated_flags_empty (hone : (parcels.underWay state).card ≤ 1)
    {domain : δ} {piece : ω} {rest : List ω} {effect : Effect χ ω μ}
    (hscript : state.script domain = piece :: rest)
    (hpassed : parcels.passedOn program domain effect ≤
      weigh (parcels.piece domain piece)) :
    ∑ endpoint ∈ program.targets domain effect.notified ∩ state.pending,
      weigh (parcels.flag endpoint) = 0 := by
  set repeated := program.targets domain effect.notified ∩ state.pending
  have hbelow : ∑ endpoint ∈ repeated, weigh (parcels.flag endpoint) ≤
      weigh (parcels.piece domain piece) := by
    refine le_trans ?_ hpassed
    rw [Parcels.passedOn]
    refine (Finset.sum_le_sum_of_subset Finset.inter_subset_left).trans ?_
    exact le_add_of_nonneg_left (Multiset.zero_le _)
  have hwhole := Multiset.card_le_card
    (parcels.le_underWay hscript repeated Finset.inter_subset_right)
  have hcard := Multiset.card_le_card hbelow
  rw [Multiset.card_add] at hwhole
  exact Multiset.card_eq_zero.mp (by omega)

variable (program parcels) in
/-- What is under way after a piece, if no flag that is set again carries an
item. -/
private theorem underWay_performed {domain : δ} {piece : ω} {rest : List ω}
    (hscript : state.script domain = piece :: rest) (reading : ε) :
    let effect := program.perform domain piece reading state.memory
    ∑ endpoint ∈ program.targets domain effect.notified ∩ state.pending,
        weigh (parcels.flag endpoint) = 0 →
      parcels.underWay (program.performed state domain reading piece rest) +
          weigh (parcels.piece domain piece) =
        parcels.underWay state + parcels.passedOn program domain effect := by
  intro effect hrepeated
  have htally : parcels.underWay (program.performed state domain reading piece rest) +
      weigh (parcels.piece domain piece) = _ := tally_performed hscript reading
  have hsplit := Finset.sum_inter_add_sum_sdiff
    (program.targets domain effect.notified) state.pending
    (fun endpoint => weigh (parcels.flag endpoint))
  rw [htally, add_assoc, Parcels.passedOn, ← hsplit, hrepeated, zero_add]
  rfl

private theorem tail_performed
    (h : Handoff program allowed mayHand known runs invariant parcels record related)
    (htail : ∀ later ∈ (state.script parcels.sender).tail,
      parcels.piece parcels.sender later = none)
    {domain : δ} {piece : ω} {rest : List ω}
    (hscript : state.script domain = piece :: rest) (hruns : runs domain piece)
    (hmemory : invariant state.memory) (reading : ε) :
    ∀ later ∈ ((program.performed state domain reading piece rest).script
      parcels.sender).tail, parcels.piece parcels.sender later = none := by
  by_cases hsender : parcels.sender = domain
  · subst hsender
    rw [hscript, List.tail_cons] at htail
    have hnext := h.nextTail piece reading state.memory hruns hmemory
    rw [Program.performed_script_self]
    cases hafter : (program.perform parcels.sender piece reading state.memory).next with
    | nil => exact fun later hlater => htail later (List.mem_of_mem_tail hlater)
    | cons first more =>
        rw [hafter, List.tail_cons] at hnext
        intro later hlater
        rw [List.cons_append, List.tail_cons] at hlater
        exact (List.mem_append.mp hlater).elim (hnext later) (htail later)
  · rw [Program.performed_script_of_ne _ _ _ _ _ hsender]
    exact htail

/-- The step lemma of a handoff, for a piece. -/
theorem Handoff.performed
    (h : Handoff program allowed mayHand known runs invariant parcels record related)
    {past : List ι} (hover : HandedOver parcels related past state)
    {domain : δ} {piece : ω} {rest : List ω}
    (hscript : state.script domain = piece :: rest)
    {reading : ε} (hallowed : allowed state (.advance domain reading))
    (hruns : runs domain piece) (hmemory : invariant state.memory) :
    HandedOver parcels related (past ++ record domain piece reading state.memory)
      (program.performed state domain reading piece rest) := by
  obtain ⟨htail, item, hitem, hrelated⟩ := hover
  refine ⟨tail_performed h htail hscript hruns hmemory reading, ?_⟩
  have hone : (parcels.underWay state).card ≤ 1 := hitem ▸ weigh_card_le item
  have hbalance := underWay_performed program parcels hscript reading
  have hmoves := h.perform domain piece reading state.memory hruns hmemory
  simp only at hbalance
  change ∃ item, _ ∧ related _
    (program.perform domain piece reading state.memory).memory item
  generalize program.perform domain piece reading state.memory = effect at *
  cases hmoves with
  | passes hsame hkept =>
      refine ⟨item, ?_, hkept past item hrelated⟩
      have hafter := hbalance (repeated_flags_empty hone hscript hsame.le)
      rw [hsame] at hafter
      exact (add_right_cancel hafter).trans hitem
  | hands handed hsends hmay hempty hhanded hkept =>
      subst hsends
      have hzero := h.ready hscript hmay (by simpa [hscript, hempty] using htail) hallowed
      obtain rfl : item = none := weigh_injective (hitem.symm.trans hzero)
      have hrepeated := parcels.le_underWay hscript _
        (Finset.inter_subset_right :
          program.targets parcels.sender effect.notified ∩ state.pending ⊆ _)
      rw [hempty, hzero, weigh, zero_add, Multiset.le_zero] at hrepeated
      have hafter := hbalance hrepeated
      rw [hempty, hzero, hhanded, weigh, add_zero, zero_add] at hafter
      exact ⟨handed, hafter, hkept past hrelated⟩
  | takes taken hcarried hrest hkept =>
      have hafter := hbalance
        (repeated_flags_empty hone hscript (hrest ▸ Multiset.zero_le _))
      rw [hrest, hcarried, add_zero, hitem] at hafter
      have hcard := congrArg Multiset.card hafter
      rw [Multiset.card_add, weigh, Multiset.card_singleton] at hcard
      have hnone := Multiset.card_eq_zero.mp
        (Nat.le_zero.mp (Nat.le_of_succ_le_succ (hcard.le.trans (weigh_card_le item))))
      rw [hnone, zero_add] at hafter
      obtain rfl : some taken = item := weigh_injective hafter
      exact ⟨none, hnone, hkept past hrelated⟩

omit [DecidableEq δ] [DecidableEq χ] in
/-- Flags that come or are taken change nothing of a handoff. -/
private theorem HandedOver.of_same {past : List ι} {next : State δ χ ω μ}
    (hover : HandedOver parcels related past state)
    (htail : ∀ later ∈ (next.script parcels.sender).tail,
      parcels.piece parcels.sender later = none)
    (hsame : parcels.underWay next = parcels.underWay state)
    (hmemory : next.memory = state.memory) :
    HandedOver parcels related (past ++ []) next := by
  obtain ⟨-, item, hitem, hrelated⟩ := hover
  refine ⟨htail, item, hsame.trans hitem, ?_⟩
  rw [hmemory, List.append_nil]
  exact hrelated

/-- The step lemma of a handoff. -/
theorem Handoff.step
    (h : Handoff program allowed mayHand known runs invariant parcels record related)
    (hsound : Sound known runs invariant state) {past : List ι}
    (hover : HandedOver parcels related past state) (event : Event δ χ ε)
    (hallowed : allowed state event) :
    HandedOver parcels related (past ++ recorded record state event)
      (program.step state event) := by
  cases event with
  | interrupt endpoint =>
      rw [Program.step]
      split_ifs with hexternal
      · refine hover.of_same hover.tail ?_ rfl
        by_cases hset : endpoint ∈ state.pending
        · rw [State.flagged, Finset.insert_eq_of_mem hset]
        · refine (tally_flagged hset).trans ?_
          rw [h.external endpoint hexternal]
          exact add_zero _
      · exact hover.of_same hover.tail rfl rfl
  | wake domain =>
      rw [Program.step]
      split_ifs with hreceiving
      · exact hover.of_same hover.tail (tally_taken hreceiving) rfl
      · exact hover.of_same hover.tail rfl rfl
  | enter domain channel =>
      rw [Program.step]
      split_ifs with henter
      · obtain ⟨hfree, hwoken⟩ := henter
        have htally : parcels.underWay (program.entered state domain channel) +
            weigh (parcels.flag (domain, channel)) = _ := tally_entered hfree hwoken
        rw [h.entry domain channel (hsound.woken _ hwoken)] at htally
        refine hover.of_same ?_ (add_right_cancel htally) rfl
        by_cases hsender : parcels.sender = domain
        · subst hsender
          rw [Program.entered_script_self]
          exact h.entryTail channel
        · rw [Program.entered_script_of_ne _ _ _ hsender]
          exact hover.tail
      · exact hover.of_same hover.tail rfl rfl
  | advance domain reading =>
      simp only [Program.step, recorded]
      cases hscript : state.script domain with
      | nil => exact hover.of_same hover.tail rfl rfl
      | cons piece rest =>
          exact h.performed hover hscript hallowed
            (hsound.script domain piece (by simp [hscript])) hsound.memory

/-- The run lemma of a handoff: in every run whose steps are all allowed the
relation holds of all that was recorded. -/
theorem Handoff.run
    (h : Handoff program allowed mayHand known runs invariant parcels record related)
    (hclosed : Closed program known runs invariant)
    (hsound : Sound known runs invariant state) {past : List ι}
    (hover : HandedOver parcels related past state) (events : List (Event δ χ ε))
    (hallowed : EveryStep program.step allowed state events) :
    HandedOver parcels related
      (past ++ outputs program.step (recorded record) state events)
      (run program.step state events) := by
  induction events generalizing state past with
  | nil => rw [outputs, List.append_nil]; exact hover
  | cons event rest ih =>
      have hnext := h.step hsound hover event hallowed.1
      rw [outputs, ← List.append_assoc]
      exact ih (hclosed.step hsound event) hnext hallowed.2

omit [DecidableEq δ] [DecidableEq χ] in
/-- The receiver has caught up whenever nothing is under way. -/
theorem HandedOver.settled {past : List ι} (hover : HandedOver parcels related past state)
    (hzero : parcels.underWay state = 0) : related past state.memory none := by
  obtain ⟨-, item, hitem, hrelated⟩ := hover
  obtain rfl : item = none := weigh_injective (hitem.symm.trans hzero)
  exact hrelated

end Steps

section Accounts

variable [DecidableEq δ] [DecidableEq χ] {program : Program δ χ ω ε μ}
  {known : δ × χ → Prop} {runs : δ → ω → Prop} {invariant : μ → Prop}
  {record : δ → ω → ε → μ → List ι} {state : State δ χ ω μ} {σ κ : Type*}

/-- A part of the memory that every piece takes on by what it records is, after
every run, what the record makes of it. -/
theorem account_run (hclosed : Closed program known runs invariant)
    (hsound : Sound known runs invariant state) (read : μ → σ) (decode : ι → Option κ)
    {apply : σ → κ → σ}
    (hpiece : ∀ domain piece reading memory, runs domain piece → invariant memory →
      read (program.perform domain piece reading memory).memory =
        run apply (read memory) ((record domain piece reading memory).filterMap decode))
    (events : List (Event δ χ ε)) :
    read (run program.step state events).memory =
      run apply (read state.memory)
        ((outputs program.step (recorded record) state events).filterMap decode) := by
  induction events generalizing state with
  | nil => rfl
  | cons event rest ih =>
      rw [run_cons, ih (hclosed.step hsound event), outputs, List.filterMap_append,
        run_append]
      congr 1
      cases event with
      | interrupt endpoint => rw [Program.step]; split_ifs <;> rfl
      | wake domain => rw [Program.step]; split_ifs <;> rfl
      | enter domain channel => rw [Program.step]; split_ifs <;> rfl
      | advance domain reading =>
          simp only [Program.step, recorded]
          cases hscript : state.script domain with
          | nil => rfl
          | cons piece rest =>
              exact hpiece domain piece reading state.memory
                (hsound.script domain piece (by simp [hscript])) hsound.memory

end Accounts

end LightCtrl.Preemption
