import Mathlib.Algebra.BigOperators.Group.List.Basic
import Mathlib.Algebra.BigOperators.Group.Finset.Piecewise
import Mathlib.Algebra.Order.BigOperators.Group.Finset
import Mathlib.Data.Fintype.BigOperators
import LightCtrl.Library.Runs

/-!
Event-driven domains over one shared memory. A domain is woken by binary
notifications: flags of its notification word, which it takes whole when it
has nothing left to do, and for each of which it then runs one handler. A
handler is a sequence of pieces, and another domain may run between any two of
them. A piece may change the memory, notify channels of its domain, and put
further pieces in front of the rest of its handler. A channel leads to an
endpoint of another domain, if it is connected at all.

What the domains compute is a parameter. The rules below are about what stays
true over whole runs: of the memory and the flags together, of a derived value
that some piece still owes, of the work left, and of runs in which only the
ready domain of the highest priority moves.
-/

namespace LightCtrl.Preemption

open Runs

variable {δ χ ω ε μ : Type*}

/-- What one piece leaves: the memory, the channels it notified in order, and
the pieces its handler goes on with. -/
structure Effect (χ ω μ : Type*) where
  memory : μ
  notified : List χ
  next : List ω

/-- `peer` is the other end of a channel and `external` the endpoints that are
flagged from outside. `ε` is what a piece may read outside of the memory. -/
structure Program (δ χ ω ε μ : Type*) where
  peer : δ → χ → Option (δ × χ)
  external : List (δ × χ)
  entry : δ → χ → List ω
  perform : δ → ω → ε → μ → Effect χ ω μ

/-- `pending` are the flags nobody has taken yet, `woken` the flags taken by
their domain and not handled yet, and `script` what is left of the handler a
domain is in. -/
structure State (δ χ ω μ : Type*) where
  memory : μ
  pending : Finset (δ × χ)
  woken : Finset (δ × χ)
  script : δ → List ω

/-- An endpoint is flagged from outside, a domain takes its word, a domain
starts the handler of one flag, or a domain performs its next piece. -/
inductive Event (δ χ ε : Type*) where
  | interrupt (endpoint : δ × χ)
  | wake (domain : δ)
  | enter (domain : δ) (channel : χ)
  | advance (domain : δ) (reading : ε)
  deriving DecidableEq, Repr

/-- The domain has nothing flagged and is in no handler. -/
def Idle (state : State δ χ ω μ) (domain : δ) : Prop :=
  state.script domain = [] ∧ (∀ endpoint ∈ state.pending, endpoint.1 ≠ domain) ∧
    ∀ endpoint ∈ state.woken, endpoint.1 ≠ domain

instance [DecidableEq δ] (state : State δ χ ω μ) (domain : δ) :
    Decidable (Idle state domain) :=
  inferInstanceAs (Decidable (_ ∧ _ ∧ _))

/-- Nothing is left to do anywhere. -/
def Resting (state : State δ χ ω μ) : Prop :=
  state.pending = ∅ ∧ state.woken = ∅ ∧ ∀ domain, state.script domain = []

section Machine

variable [DecidableEq δ] [DecidableEq χ] (program : Program δ χ ω ε μ)

/-- The endpoints flagged when the domain notifies the channels. -/
def Program.targets (domain : δ) (notified : List χ) : Finset (δ × χ) :=
  (notified.filterMap (program.peer domain)).toFinset

instance (endpoint : δ × χ) : Decidable (endpoint ∈ program.external) :=
  inferInstanceAs (Decidable (endpoint ∈ (program.external : List (δ × χ))))

/-- The domain may take its word: it is in no handler and has handled every
flag of the last one. -/
def Receiving (state : State δ χ ω μ) (domain : δ) : Prop :=
  state.script domain = [] ∧ ∀ endpoint ∈ state.woken, endpoint.1 ≠ domain

instance (state : State δ χ ω μ) (domain : δ) :
    Decidable (Receiving state domain) :=
  inferInstanceAs (Decidable (_ ∧ _))

/-- The endpoint is flagged from outside. -/
def State.flagged (state : State δ χ ω μ) (endpoint : δ × χ) : State δ χ ω μ :=
  { state with pending := insert endpoint state.pending }

/-- The domain takes its word. -/
def State.taken (state : State δ χ ω μ) (domain : δ) : State δ χ ω μ :=
  { state with
    pending := state.pending.filter (fun endpoint => endpoint.1 ≠ domain)
    woken := state.woken ∪
      state.pending.filter (fun endpoint => endpoint.1 = domain) }

/-- The domain starts the handler of a flag. -/
def Program.entered (state : State δ χ ω μ) (domain : δ) (channel : χ) :
    State δ χ ω μ :=
  { state with
    woken := state.woken.erase (domain, channel)
    script := Function.update state.script domain (program.entry domain channel) }

/-- The domain performs the first piece of its handler. -/
def Program.performed (state : State δ χ ω μ) (domain : δ) (reading : ε)
    (piece : ω) (rest : List ω) : State δ χ ω μ :=
  let effect := program.perform domain piece reading state.memory
  { memory := effect.memory
    pending := state.pending ∪ program.targets domain effect.notified
    woken := state.woken
    script := Function.update state.script domain (effect.next ++ rest) }

@[simp] theorem Program.entered_script_self (state : State δ χ ω μ) (domain : δ)
    (channel : χ) : (program.entered state domain channel).script domain =
      program.entry domain channel :=
  Function.update_self ..

theorem Program.entered_script_of_ne (state : State δ χ ω μ) {domain other : δ}
    (channel : χ) (hother : other ≠ domain) :
    (program.entered state domain channel).script other = state.script other :=
  Function.update_of_ne hother ..

@[simp] theorem Program.performed_script_self (state : State δ χ ω μ)
    (domain : δ) (reading : ε) (piece : ω) (rest : List ω) :
    (program.performed state domain reading piece rest).script domain =
      (program.perform domain piece reading state.memory).next ++ rest :=
  Function.update_self ..

theorem Program.performed_script_of_ne (state : State δ χ ω μ)
    {domain other : δ} (reading : ε) (piece : ω) (rest : List ω)
    (hother : other ≠ domain) :
    (program.performed state domain reading piece rest).script other =
      state.script other :=
  Function.update_of_ne hother ..

/-- An event that cannot happen in the state changes nothing. -/
def Program.step (state : State δ χ ω μ) : Event δ χ ε → State δ χ ω μ
  | .interrupt endpoint =>
      if endpoint ∈ program.external then state.flagged endpoint else state
  | .wake domain => if Receiving state domain then state.taken domain else state
  | .enter domain channel =>
      if state.script domain = [] ∧ (domain, channel) ∈ state.woken then
        program.entered state domain channel
      else state
  | .advance domain reading =>
      match state.script domain with
      | [] => state
      | piece :: rest => program.performed state domain reading piece rest

/-- What a step can do: one of four changes, or nothing. -/
theorem Program.step_rule {motive : State δ χ ω μ → Prop} {state : State δ χ ω μ}
    {event : Event δ χ ε} (idle : motive state)
    (interrupt : ∀ endpoint ∈ program.external, event = .interrupt endpoint →
      motive (state.flagged endpoint))
    (wake : ∀ domain, event = .wake domain → Receiving state domain →
      motive (state.taken domain))
    (enter : ∀ domain channel, event = .enter domain channel →
      state.script domain = [] → (domain, channel) ∈ state.woken →
      motive (program.entered state domain channel))
    (advance : ∀ domain reading piece rest, event = .advance domain reading →
      state.script domain = piece :: rest →
      motive (program.performed state domain reading piece rest)) :
    motive (program.step state event) := by
  cases event with
  | interrupt endpoint =>
      rw [Program.step]
      split_ifs with hexternal
      · exact interrupt endpoint hexternal rfl
      · exact idle
  | wake domain =>
      rw [Program.step]
      split_ifs with hreceiving
      · exact wake domain rfl hreceiving
      · exact idle
  | enter domain channel =>
      rw [Program.step]
      split_ifs with henter
      · exact enter domain channel rfl henter.1 henter.2
      · exact idle
  | advance domain reading =>
      rw [Program.step]
      cases hscript : state.script domain with
      | nil => exact idle
      | cons piece rest => exact advance domain reading piece rest rfl hscript

/-- One for an event that gets something done: a domain takes a flag, starts a
handler or performs a piece. -/
def done (state : State δ χ ω μ) : Event δ χ ε → Nat
  | .interrupt _ => 0
  | .wake domain =>
      if Receiving state domain ∧ ∃ endpoint ∈ state.pending, endpoint.1 = domain
        then 1 else 0
  | .enter domain channel =>
      if state.script domain = [] ∧ (domain, channel) ∈ state.woken then 1 else 0
  | .advance domain _ =>
      match state.script domain with
      | [] => 0
      | _ :: _ => 1

/-- Only a domain moves above which every domain is idle. Flags from outside
come at any time. -/
def Respects (priority : δ → Nat) (state : State δ χ ω μ) : Event δ χ ε → Prop
  | .interrupt _ => True
  | .wake domain => ∀ higher, priority domain < priority higher → Idle state higher
  | .enter domain _ =>
      ∀ higher, priority domain < priority higher → Idle state higher
  | .advance domain _ =>
      ∀ higher, priority domain < priority higher → Idle state higher

instance [Fintype δ] (priority : δ → Nat)
    (state : State δ χ ω μ) :
    ∀ event : Event δ χ ε, Decidable (Respects priority state event)
  | .interrupt _ => isTrue trivial
  | .wake _ => inferInstanceAs (Decidable (∀ _, _))
  | .enter _ _ => inferInstanceAs (Decidable (∀ _, _))
  | .advance _ _ => inferInstanceAs (Decidable (∀ _, _))

/-- A domain that is not idle can get something done. -/
theorem exists_done_of_not_idle [Nonempty ε] {state : State δ χ ω μ} {domain : δ}
    (hbusy : ¬ Idle state domain) :
    ∃ event : Event δ χ ε, done state event = 1 ∧
      (event = .wake domain ∨ (∃ channel, event = .enter domain channel) ∨
        ∃ reading, event = .advance domain reading) := by
  obtain ⟨reading⟩ := ‹Nonempty ε›
  cases hscript : state.script domain with
  | cons piece rest =>
      refine ⟨.advance domain reading, ?_, Or.inr (Or.inr ⟨reading, rfl⟩)⟩
      simp only [done, hscript]
  | nil =>
      by_cases hwoken : ∃ endpoint ∈ state.woken, endpoint.1 = domain
      · obtain ⟨⟨_, channel⟩, hmember, rfl⟩ := hwoken
        refine ⟨.enter _ channel, ?_, Or.inr (Or.inl ⟨channel, rfl⟩)⟩
        exact if_pos ⟨hscript, hmember⟩
      · have hhandled : ∀ endpoint ∈ state.woken, endpoint.1 ≠ domain :=
          fun endpoint hmember hsame => hwoken ⟨endpoint, hmember, hsame⟩
        have hflagged : ∃ endpoint ∈ state.pending, endpoint.1 = domain := by
          by_contra hnone
          exact hbusy ⟨hscript,
            fun endpoint hmember hsame => hnone ⟨endpoint, hmember, hsame⟩, hhandled⟩
        exact ⟨.wake domain, if_pos ⟨⟨hscript, hhandled⟩, hflagged⟩, Or.inl rfl⟩

/-- Unless nothing is left to do, the ready domain of the highest priority can
get something done. -/
theorem exists_progress [Fintype δ] [Nonempty ε] (priority : δ → Nat)
    {state : State δ χ ω μ} (hbusy : ¬ Resting state) :
    ∃ event : Event δ χ ε, (∀ endpoint, event ≠ .interrupt endpoint) ∧
      Respects priority state event ∧ done state event = 1 := by
  have hsome : (Finset.univ.filter (fun domain => ¬ Idle state domain)).Nonempty := by
    by_contra hnone
    have hidle : ∀ domain, Idle state domain := by
      intro domain
      by_contra hnot
      exact hnone ⟨domain, Finset.mem_filter.mpr ⟨Finset.mem_univ _, hnot⟩⟩
    refine hbusy ⟨?_, ?_, fun domain => (hidle domain).1⟩
    · exact Finset.eq_empty_of_forall_notMem fun endpoint hmember =>
        (hidle endpoint.1).2.1 endpoint hmember rfl
    · exact Finset.eq_empty_of_forall_notMem fun endpoint hmember =>
        (hidle endpoint.1).2.2 endpoint hmember rfl
  obtain ⟨domain, hmember, hhighest⟩ := Finset.exists_max_image _ priority hsome
  have habove : ∀ higher, priority domain < priority higher → Idle state higher := by
    intro higher hlt
    by_contra hnot
    exact absurd (hhighest higher (Finset.mem_filter.mpr ⟨Finset.mem_univ _, hnot⟩))
      (Nat.not_le.mpr hlt)
  obtain ⟨event, hdone, hevent⟩ : ∃ event : Event δ χ ε, done state event = 1 ∧
      (event = .wake domain ∨ (∃ channel, event = .enter domain channel) ∨
        ∃ reading, event = .advance domain reading) :=
    exists_done_of_not_idle (Finset.mem_filter.mp hmember).2
  rcases hevent with rfl | ⟨channel, rfl⟩ | ⟨reading, rfl⟩
  · exact ⟨.wake domain, fun _ h => (nomatch h), habove, hdone⟩
  · exact ⟨.enter domain channel, fun _ h => (nomatch h), habove, hdone⟩
  · exact ⟨.advance domain reading, fun _ h => (nomatch h), habove, hdone⟩

theorem Program.mem_targets {domain : δ} {notified : List χ} {endpoint : δ × χ} :
    endpoint ∈ program.targets domain notified ↔
      ∃ channel ∈ notified, program.peer domain channel = some endpoint := by
  simp [Program.targets]

end Machine

section Scope

variable [DecidableEq δ] [DecidableEq χ] {program : Program δ χ ω ε μ}

/-- Endpoints that can be flagged, pieces that can be left to do and an
invariant of the memory, closed together under whatever the domains do. Each
channel they notify is connected, and to an endpoint of this kind. -/
structure Closed (program : Program δ χ ω ε μ) (known : δ × χ → Prop)
    (runs : δ → ω → Prop) (invariant : μ → Prop) : Prop where
  external : ∀ endpoint ∈ program.external, known endpoint
  entry : ∀ domain channel, known (domain, channel) →
    ∀ piece ∈ program.entry domain channel, runs domain piece
  memory : ∀ domain piece reading memory, runs domain piece → invariant memory →
    invariant (program.perform domain piece reading memory).memory
  next : ∀ domain piece reading memory, runs domain piece → invariant memory →
    ∀ later ∈ (program.perform domain piece reading memory).next, runs domain later
  notified : ∀ domain piece reading memory, runs domain piece → invariant memory →
    ∀ channel ∈ (program.perform domain piece reading memory).notified,
      ∃ endpoint, program.peer domain channel = some endpoint ∧ known endpoint

/-- A state within such a scope. -/
structure Sound (known : δ × χ → Prop) (runs : δ → ω → Prop)
    (invariant : μ → Prop) (state : State δ χ ω μ) : Prop where
  memory : invariant state.memory
  pending : ∀ endpoint ∈ state.pending, known endpoint
  woken : ∀ endpoint ∈ state.woken, known endpoint
  script : ∀ domain, ∀ piece ∈ state.script domain, runs domain piece

variable {known : δ × χ → Prop} {runs : δ → ω → Prop} {invariant : μ → Prop}

/-- The step lemma of a scope. -/
theorem Closed.step (hclosed : Closed program known runs invariant)
    {state : State δ χ ω μ} (h : Sound known runs invariant state)
    (event : Event δ χ ε) :
    Sound known runs invariant (program.step state event) := by
  refine program.step_rule h ?_ ?_ ?_ ?_
  · intro endpoint hexternal _
    refine ⟨h.memory, ?_, h.woken, h.script⟩
    intro flagged hflagged
    rcases Finset.mem_insert.mp hflagged with rfl | hbefore
    · exact hclosed.external flagged hexternal
    · exact h.pending flagged hbefore
  · intro domain _ _
    refine ⟨h.memory, ?_, ?_, h.script⟩
    · exact fun endpoint hleft => h.pending endpoint (Finset.mem_filter.mp hleft).1
    · intro endpoint hwoken
      rcases Finset.mem_union.mp hwoken with hbefore | htaken
      · exact h.woken endpoint hbefore
      · exact h.pending endpoint (Finset.mem_filter.mp htaken).1
  · intro domain channel _ _ hwoken
    refine ⟨h.memory, h.pending, ?_, ?_⟩
    · exact fun endpoint hleft => h.woken endpoint (Finset.mem_of_mem_erase hleft)
    · intro other piece hpiece
      by_cases hsame : other = domain
      · subst hsame
        rw [Program.entered_script_self] at hpiece
        exact hclosed.entry other channel (h.woken _ hwoken) piece hpiece
      · rw [Program.entered_script_of_ne _ _ _ hsame] at hpiece
        exact h.script other piece hpiece
  · intro domain reading piece rest _ hscript
    have hruns : ∀ left ∈ piece :: rest, runs domain left := by
      rw [← hscript]
      exact h.script domain
    have hpiece := hruns piece (by simp)
    refine ⟨hclosed.memory domain piece reading _ hpiece h.memory, ?_, h.woken, ?_⟩
    · intro endpoint hflagged
      rcases Finset.mem_union.mp hflagged with hbefore | htarget
      · exact h.pending endpoint hbefore
      · obtain ⟨channel, hnotified, hpeer⟩ := program.mem_targets.mp htarget
        obtain ⟨reached, hreached, hknown⟩ :=
          hclosed.notified domain piece reading _ hpiece h.memory channel hnotified
        obtain rfl := Option.some.inj (hpeer.symm.trans hreached)
        exact hknown
    · intro other left hleft
      by_cases hsame : other = domain
      · subst hsame
        rw [Program.performed_script_self] at hleft
        rcases List.mem_append.mp hleft with hnext | hrest
        · exact hclosed.next other piece reading _ hpiece h.memory left hnext
        · exact hruns left (by simp [hrest])
      · rw [Program.performed_script_of_ne _ _ _ _ _ hsame] at hleft
        exact h.script other left hleft

/-- The run lemma of a scope. -/
theorem Closed.run (hclosed : Closed program known runs invariant)
    {start : State δ χ ω μ} (hstart : Sound known runs invariant start)
    (events : List (Event δ χ ε)) :
    Sound known runs invariant (run program.step start events) :=
  run_invariant (Sound known runs invariant)
    (fun _ event h => hclosed.step h event) start hstart events

end Scope

/-- Some flagged endpoint, or some piece left to do, will bring the derived
value up to date. -/
def Owed (owes : δ × χ → Prop) (pays : δ → ω → Prop) (state : State δ χ ω μ) :
    Prop :=
  (∃ endpoint, (endpoint ∈ state.pending ∨ endpoint ∈ state.woken) ∧
    owes endpoint) ∨ ∃ domain, ∃ piece ∈ state.script domain, pays domain piece

theorem Resting.not_owed {owes : δ × χ → Prop} {pays : δ → ω → Prop}
    {state : State δ χ ω μ} (h : Resting state) :
    ¬ Owed owes pays state := by
  obtain ⟨hpending, hwoken, hscript⟩ := h
  rintro (⟨endpoint, hflagged, -⟩ | ⟨domain, piece, hpiece, -⟩)
  · simp [hpending, hwoken] at hflagged
  · simp [hscript domain] at hpiece

theorem not_owed_of_idle {owes : δ × χ → Prop} {pays : δ → ω → Prop}
    {state : State δ χ ω μ} (howes : ∀ endpoint, owes endpoint → Idle state endpoint.1)
    (hpays : ∀ domain piece, pays domain piece → Idle state domain) :
    ¬ Owed owes pays state := by
  rintro (⟨endpoint, hflagged, h⟩ | ⟨domain, piece, hpiece, h⟩)
  · obtain ⟨-, hpending, hwoken⟩ := howes endpoint h
    rcases hflagged with hmember | hmember
    · exact hpending endpoint hmember rfl
    · exact hwoken endpoint hmember rfl
  · rw [(hpays domain piece h).1] at hpiece
    exact absurd hpiece List.not_mem_nil

section Obligations

variable [DecidableEq δ] [DecidableEq χ] {program : Program δ χ ω ε μ}
  {known : δ × χ → Prop} {runs : δ → ω → Prop} {invariant : μ → Prop}
  {owes : δ × χ → Prop} {pays : δ → ω → Prop} {current : μ → Prop}

/-- The piece left somebody owing the derived value. -/
def Effect.Hands (program : Program δ χ ω ε μ) (owes : δ × χ → Prop)
    (pays : δ → ω → Prop) (domain : δ) (effect : Effect χ ω μ) : Prop :=
  (∃ later ∈ effect.next, pays domain later) ∨
    ∃ channel ∈ effect.notified, ∃ endpoint,
      program.peer domain channel = some endpoint ∧ owes endpoint

omit [DecidableEq δ] [DecidableEq χ] in
theorem Effect.not_hands_of_quiet {effect : Effect χ ω μ} {domain : δ}
    (hquiet : effect.notified = []) (hnext : ∀ later ∈ effect.next, ¬ pays domain later) :
    ¬ effect.Hands program owes pays domain := by
  rintro (⟨later, hlater, hpays⟩ | ⟨channel, hnotified, -⟩)
  · exact hnext later hlater hpays
  · rw [hquiet] at hnotified
    exact absurd hnotified List.not_mem_nil

/-- Nothing comes to be owed that no interrupt, no handler of a flag that does
not owe and no piece brings. -/
theorem not_owed_step {state : State δ χ ω μ} (hnot : ¬ Owed owes pays state)
    (event : Event δ χ ε)
    (hinterrupt : ∀ endpoint, event = .interrupt endpoint → ¬ owes endpoint)
    (hentry : ∀ domain channel, ∀ piece ∈ program.entry domain channel,
      pays domain piece → owes (domain, channel))
    (hperform : ∀ domain reading piece rest, event = .advance domain reading →
      state.script domain = piece :: rest →
        ¬ (program.perform domain piece reading state.memory).Hands program owes pays
          domain) :
    ¬ Owed owes pays (program.step state event) := by
  have hflag : ∀ endpoint, endpoint ∈ state.pending ∨ endpoint ∈ state.woken →
      ¬ owes endpoint := fun endpoint hmember howes =>
    hnot (Or.inl ⟨endpoint, hmember, howes⟩)
  have hleft : ∀ domain, ∀ piece ∈ state.script domain, ¬ pays domain piece :=
    fun domain piece hmember hpays => hnot (Or.inr ⟨domain, piece, hmember, hpays⟩)
  refine program.step_rule (motive := fun next => ¬ Owed owes pays next) hnot
    ?_ ?_ ?_ ?_
  · rintro endpoint - hevent (⟨flagged, hmember, howes⟩ | howed)
    · rcases hmember with hpending | hwoken
      · rcases Finset.mem_insert.mp hpending with rfl | hbefore
        · exact hinterrupt flagged hevent howes
        · exact hflag flagged (Or.inl hbefore) howes
      · exact hflag flagged (Or.inr hwoken) howes
    · exact hnot (Or.inr howed)
  · rintro domain - - (⟨flagged, hmember, howes⟩ | howed)
    · refine hflag flagged ?_ howes
      rcases hmember with hpending | hwoken
      · exact Or.inl (Finset.mem_filter.mp hpending).1
      · exact (Finset.mem_union.mp hwoken).symm.imp_left
          fun htaken => (Finset.mem_filter.mp htaken).1
    · exact hnot (Or.inr howed)
  · rintro domain channel - - hwoken (⟨flagged, hmember, howes⟩ | ⟨other, piece, hpiece, hpays⟩)
    · exact hflag flagged (hmember.imp_right Finset.mem_of_mem_erase) howes
    · by_cases hsame : other = domain
      · subst hsame
        rw [Program.entered_script_self] at hpiece
        exact hflag _ (Or.inr hwoken) (hentry other channel piece hpiece hpays)
      · rw [Program.entered_script_of_ne _ _ _ hsame] at hpiece
        exact hleft other piece hpiece hpays
  · intro domain reading piece rest hevent hscript howed
    have hhands := hperform domain reading piece rest hevent hscript
    rcases howed with ⟨flagged, hmember, howes⟩ | ⟨other, left, hmember, hpays⟩
    · rcases hmember with hpending | hwoken
      · rcases Finset.mem_union.mp hpending with hbefore | htarget
        · exact hflag flagged (Or.inl hbefore) howes
        · obtain ⟨channel, hnotified, hpeer⟩ := program.mem_targets.mp htarget
          exact hhands (Or.inr ⟨channel, hnotified, flagged, hpeer, howes⟩)
      · exact hflag flagged (Or.inr hwoken) howes
    · by_cases hsame : other = domain
      · subst hsame
        rw [Program.performed_script_self] at hmember
        rcases List.mem_append.mp hmember with hnext | hrest
        · exact hhands (Or.inl ⟨left, hnext, hpays⟩)
        · exact hleft other left (by simp [hscript, hrest]) hpays
      · rw [Program.performed_script_of_ne _ _ _ _ _ hsame] at hmember
        exact hleft other left hmember hpays

/-- No piece in the scope loses the derived value: one that may leave it out of
date, or that owed it, leaves it up to date or hands it on. -/
structure Keeps (program : Program δ χ ω ε μ) (runs : δ → ω → Prop)
    (invariant : μ → Prop) (owes : δ × χ → Prop) (pays : δ → ω → Prop)
    (current : μ → Prop) : Prop where
  entry : ∀ domain channel, owes (domain, channel) →
    ∃ piece ∈ program.entry domain channel, pays domain piece
  perform : ∀ domain piece reading memory, runs domain piece → invariant memory →
    let effect := program.perform domain piece reading memory
    current effect.memory ∨ effect.Hands program owes pays domain ∨
      (¬ pays domain piece ∧ (current memory → current effect.memory))

/-- What is owed before a piece that does not pay is owed after it. -/
theorem Owed.performed {state : State δ χ ω μ} (howed : Owed owes pays state)
    {domain : δ} {piece : ω} {rest : List ω}
    (hscript : state.script domain = piece :: rest)
    (hpiece : ¬ pays domain piece) (reading : ε) :
    Owed owes pays (program.performed state domain reading piece rest) := by
  rcases howed with ⟨endpoint, hflagged, howes⟩ | ⟨other, left, hleft, hpays⟩
  · refine Or.inl ⟨endpoint, ?_, howes⟩
    rcases hflagged with hpending | hwoken
    · exact Or.inl (Finset.mem_union_left _ hpending)
    · exact Or.inr hwoken
  · refine Or.inr ⟨other, left, ?_, hpays⟩
    by_cases hsame : other = domain
    · subst hsame
      rw [hscript, List.mem_cons] at hleft
      rcases hleft with rfl | hrest
      · exact absurd hpays hpiece
      · rw [Program.performed_script_self]
        exact List.mem_append_right _ hrest
    · rw [Program.performed_script_of_ne _ _ _ _ _ hsame]
      exact hleft

/-- What a piece hands on is owed after it. -/
theorem Effect.Hands.owed {state : State δ χ ω μ} {domain : δ} {reading : ε}
    {piece : ω} (rest : List ω)
    (h : (program.perform domain piece reading state.memory).Hands program owes
      pays domain) :
    Owed owes pays (program.performed state domain reading piece rest) := by
  rcases h with ⟨later, hlater, hpays⟩ | ⟨channel, hnotified, endpoint, hpeer, howes⟩
  · refine Or.inr ⟨domain, later, ?_, hpays⟩
    rw [Program.performed_script_self]
    exact List.mem_append_left _ hlater
  · refine Or.inl ⟨endpoint, Or.inl (Finset.mem_union_right _ ?_), howes⟩
    exact program.mem_targets.mpr ⟨channel, hnotified, hpeer⟩

/-- The step lemma of an obligation. -/
theorem Keeps.step (hkeeps : Keeps program runs invariant owes pays current)
    {state : State δ χ ω μ} (hsound : Sound known runs invariant state)
    (h : current state.memory ∨ Owed owes pays state) (event : Event δ χ ε) :
    current (program.step state event).memory ∨
      Owed owes pays (program.step state event) := by
  refine program.step_rule
    (motive := fun next => current next.memory ∨ Owed owes pays next) h ?_ ?_ ?_ ?_
  · intro endpoint _ _
    refine h.imp_right ?_
    rintro (⟨flagged, hflagged, howes⟩ | howed)
    · exact Or.inl ⟨flagged, hflagged.imp_left (Finset.mem_insert_of_mem), howes⟩
    · exact Or.inr howed
  · intro domain _ _
    refine h.imp_right ?_
    rintro (⟨endpoint, hflagged, howes⟩ | howed)
    · refine Or.inl ⟨endpoint, ?_, howes⟩
      by_cases hsame : endpoint.1 = domain
      · right
        rcases hflagged with hpending | hwoken
        · exact Finset.mem_union_right _ (Finset.mem_filter.mpr ⟨hpending, hsame⟩)
        · exact Finset.mem_union_left _ hwoken
      · rcases hflagged with hpending | hwoken
        · exact Or.inl (Finset.mem_filter.mpr ⟨hpending, hsame⟩)
        · exact Or.inr (Finset.mem_union_left _ hwoken)
    · exact Or.inr howed
  · intro domain channel _ hfree _
    refine h.imp_right ?_
    rintro (⟨endpoint, hflagged, howes⟩ | ⟨other, piece, hpiece, hpays⟩)
    · by_cases hsame : endpoint = (domain, channel)
      · subst hsame
        obtain ⟨piece, hpiece, hpays⟩ := hkeeps.entry domain channel howes
        refine Or.inr ⟨domain, piece, ?_, hpays⟩
        rw [Program.entered_script_self]
        exact hpiece
      · refine Or.inl ⟨endpoint, ?_, howes⟩
        exact hflagged.imp_right (fun hwoken => Finset.mem_erase.mpr ⟨hsame, hwoken⟩)
    · refine Or.inr ⟨other, piece, ?_, hpays⟩
      have hother : other ≠ domain := by
        rintro rfl
        rw [hfree] at hpiece
        cases hpiece
      rw [Program.entered_script_of_ne _ _ _ hother]
      exact hpiece
  · intro domain reading piece rest _ hscript
    have hpiece : runs domain piece := hsound.script domain piece (by simp [hscript])
    rcases hkeeps.perform domain piece reading _ hpiece hsound.memory with
      hcurrent | hhands | ⟨hfree, hkept⟩
    · exact Or.inl hcurrent
    · exact Or.inr (hhands.owed rest)
    · exact h.imp hkept (fun howed => howed.performed hscript hfree reading)

/-- The run lemma of an obligation: the derived value is up to date unless it
is owed. -/
theorem Keeps.run (hkeeps : Keeps program runs invariant owes pays current)
    (hclosed : Closed program known runs invariant) {start : State δ χ ω μ}
    (hsound : Sound known runs invariant start)
    (hstart : current start.memory ∨ Owed owes pays start)
    (events : List (Event δ χ ε)) :
    let state := run program.step start events
    current state.memory ∨ Owed owes pays state := by
  have hboth := run_invariant
    (fun state => Sound known runs invariant state ∧
      (current state.memory ∨ Owed owes pays state))
    (fun state event h => ⟨hclosed.step h.1 event, hkeeps.step h.1 h.2 event⟩)
    start ⟨hsound, hstart⟩ events
  exact hboth.2

end Obligations

end LightCtrl.Preemption
