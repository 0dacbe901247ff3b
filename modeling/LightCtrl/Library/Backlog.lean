import LightCtrl.Library.Preemption

/-!
What the domains of a preemptible program have left to do, counted. A tally
adds up a weight of every flag and of every piece left; moving a flag from the
word to the batch does not change it, and starting a handler trades the weight
of its flag for the weights of its pieces. In the natural numbers it is a
workload, in multisets the list of the things still to happen.
-/

namespace LightCtrl.Preemption

open Runs

variable {δ χ ω ε μ : Type*}

/-- The sum of a number over the steps of a run. -/
def total {σ ι : Type*} (step : σ → ι → σ) (count : σ → ι → Nat) (state : σ)
    (inputs : List ι) : Nat :=
  (outputs step (fun current input => [count current input]) state inputs).sum

/-- A measure that every step balances is balanced over a run. -/
theorem total_balance {σ ι : Type*} {step : σ → ι → σ} (invariant : σ → Prop)
    {measure : σ → Nat} {spent granted : σ → ι → Nat}
    (preserved : ∀ state input, invariant state → invariant (step state input))
    (balanced : ∀ state input, invariant state →
      measure (step state input) + spent state input ≤
        measure state + granted state input)
    (state : σ) (hstart : invariant state) (inputs : List ι) :
    measure (run step state inputs) + total step spent state inputs ≤
      measure state + total step granted state inputs := by
  induction inputs generalizing state with
  | nil => simp [total, outputs]
  | cons input rest ih =>
      have hhead := balanced state input hstart
      have hrest := ih (step state input) (preserved state input hstart)
      simp only [total, outputs, List.singleton_append, List.sum_cons, run_cons] at hrest ⊢
      omega

theorem total_linear {σ ι : Type*} {step : σ → ι → σ} {count first second : σ → ι → Nat}
    {left right : Nat}
    (h : ∀ state input,
      count state input = left * first state input + right * second state input)
    (state : σ) (inputs : List ι) :
    total step count state inputs =
      left * total step first state inputs + right * total step second state inputs := by
  induction inputs generalizing state with
  | nil => rfl
  | cons input rest ih =>
      have hrest := ih (step state input)
      simp only [total, outputs, List.singleton_append, List.sum_cons] at hrest ⊢
      rw [hrest, h, Nat.mul_add, Nat.mul_add]
      omega

section Tally

variable {M : Type*} [AddCancelCommMonoid M] [Fintype δ]

def tally (flag : δ × χ → M) (left : δ → ω → M) (state : State δ χ ω μ) : M :=
  ∑ endpoint ∈ state.pending, flag endpoint +
    ∑ endpoint ∈ state.woken, flag endpoint +
      ∑ domain, ((state.script domain).map (left domain)).sum

variable {flag : δ × χ → M} {left : δ → ω → M} {state : State δ χ ω μ}

theorem tally_of_resting (h : Resting state) : tally flag left state = 0 := by
  simp [tally, h.1, h.2.1, h.2.2]

variable [DecidableEq δ] [DecidableEq χ] {program : Program δ χ ω ε μ}

/-- Replacing one handler's rest trades its weight. -/
private theorem sum_update (left : δ → ω → M) (script : δ → List ω) (domain : δ)
    (replaced : List ω) :
    ∑ other, ((Function.update script domain replaced other).map (left other)).sum +
        ((script domain).map (left domain)).sum =
      ∑ other, ((script other).map (left other)).sum +
        (replaced.map (left domain)).sum := by
  have hothers : ∑ other ∈ Finset.univ.erase domain,
      ((Function.update script domain replaced other).map (left other)).sum =
        ∑ other ∈ Finset.univ.erase domain, ((script other).map (left other)).sum := by
    refine Finset.sum_congr rfl ?_
    intro other hother
    rw [Function.update_of_ne (Finset.ne_of_mem_erase hother)]
  rw [← Finset.sum_erase_add _ _ (Finset.mem_univ domain),
    ← Finset.sum_erase_add Finset.univ (fun other => ((script other).map (left other)).sum)
      (Finset.mem_univ domain), hothers, Function.update_self]
  exact add_right_comm _ _ _

theorem tally_flagged {endpoint : δ × χ} (hnew : endpoint ∉ state.pending) :
    tally flag left (state.flagged endpoint) =
      tally flag left state + flag endpoint := by
  simp only [tally, State.flagged, Finset.sum_insert hnew]
  abel

/-- Taking the word moves flags and loses none. -/
theorem tally_taken {domain : δ} (hreceiving : Receiving state domain) :
    tally flag left (state.taken domain) = tally flag left state := by
  have hdisjoint : Disjoint state.woken
      (state.pending.filter (fun endpoint => endpoint.1 = domain)) := by
    rw [Finset.disjoint_left]
    intro endpoint hwoken htaken
    exact hreceiving.2 endpoint hwoken (Finset.mem_filter.mp htaken).2
  simp only [tally, State.taken, Finset.sum_union hdisjoint]
  rw [← Finset.sum_filter_add_sum_filter_not state.pending
    (fun endpoint => endpoint.1 = domain)]
  abel

/-- Starting a handler trades the weight of its flag for that of its pieces. -/
theorem tally_entered {domain : δ} {channel : χ} (hfree : state.script domain = [])
    (hwoken : (domain, channel) ∈ state.woken) :
    tally flag left (program.entered state domain channel) + flag (domain, channel) =
      tally flag left state +
        ((program.entry domain channel).map (left domain)).sum := by
  have hscripts := sum_update left state.script domain
    (program.entry domain channel)
  simp only [hfree, List.map_nil, List.sum_nil, add_zero] at hscripts
  simp only [tally, Program.entered, hscripts]
  rw [← Finset.sum_erase_add _ _ hwoken]
  abel

/-- A piece trades its weight for those of the pieces it goes on with and of
the flags it newly sets. -/
theorem tally_performed {domain : δ} {piece : ω} {rest : List ω}
    (hscript : state.script domain = piece :: rest) (reading : ε) :
    let effect := program.perform domain piece reading state.memory
    tally flag left (program.performed state domain reading piece rest) +
        left domain piece =
      tally flag left state + (effect.next.map (left domain)).sum +
        ∑ endpoint ∈ program.targets domain effect.notified \ state.pending,
          flag endpoint := by
  intro effect
  have hscripts := sum_update left state.script domain (effect.next ++ rest)
  rw [hscript, List.map_cons, List.sum_cons, List.map_append, List.sum_append,
    ← add_assoc, ← add_assoc] at hscripts
  have htraded := add_right_cancel hscripts
  have hflags : ∑ endpoint ∈ state.pending ∪ program.targets domain effect.notified,
      flag endpoint = ∑ endpoint ∈ state.pending, flag endpoint +
        ∑ endpoint ∈ program.targets domain effect.notified \ state.pending,
          flag endpoint := by
    rw [← Finset.union_sdiff_self_eq_union, Finset.sum_union Finset.disjoint_sdiff]
  change ∑ endpoint ∈ state.pending ∪ program.targets domain effect.notified,
      flag endpoint + ∑ endpoint ∈ state.woken, flag endpoint +
        ∑ other, ((Function.update state.script domain (effect.next ++ rest)
          other).map (left other)).sum + left domain piece = _
  rw [add_assoc, htraded, hflags, tally]
  abel

end Tally

section Workload

variable [DecidableEq δ] [DecidableEq χ]

/-- What a flag, a piece left and the memory itself may still cost. -/
structure Prices (δ χ ω μ : Type*) where
  flag : δ × χ → Nat
  piece : δ → ω → Nat
  memory : μ → Nat

/-- A flag pays for its handler. A piece pays for what it goes on with and for
the flags it sets, out of its own price, the memory's and a credit. -/
structure Affordable (program : Program δ χ ω ε μ) (known : δ × χ → Prop)
    (runs : δ → ω → Prop) (invariant : μ → Prop) (prices : Prices δ χ ω μ)
    (credit : δ → ω → ε → μ → Nat) : Prop where
  entry : ∀ domain channel, known (domain, channel) →
    ((program.entry domain channel).map (prices.piece domain)).sum + 1 ≤
      prices.flag (domain, channel)
  perform : ∀ domain piece reading memory, runs domain piece → invariant memory →
    let effect := program.perform domain piece reading memory
    (effect.next.map (prices.piece domain)).sum +
        ∑ endpoint ∈ program.targets domain effect.notified,
          (prices.flag endpoint + 1) +
        prices.memory effect.memory + 1 ≤
      prices.piece domain piece + prices.memory memory +
        credit domain piece reading memory

/-- What an event adds to the workload at most. -/
def granted (program : Program δ χ ω ε μ) (prices : Prices δ χ ω μ)
    (credit : δ → ω → ε → μ → Nat) (state : State δ χ ω μ) : Event δ χ ε → Nat
  | .interrupt endpoint =>
      if endpoint ∈ program.external then prices.flag endpoint + 1 else 0
  | .advance domain reading =>
      (state.script domain).head?.elim 0
        fun piece => credit domain piece reading state.memory
  | _ => 0

variable [Fintype δ]

/-- Everything that is left to do, at its price; a flag nobody took costs one
more. -/
def workload (prices : Prices δ χ ω μ) (state : State δ χ ω μ) : Nat :=
  tally prices.flag prices.piece state + state.pending.card +
    prices.memory state.memory

variable {program : Program δ χ ω ε μ} {known : δ × χ → Prop}
  {runs : δ → ω → Prop} {invariant : μ → Prop} {prices : Prices δ χ ω μ}
  {credit : δ → ω → ε → μ → Nat}

private theorem workload_flagged (state : State δ χ ω μ) (endpoint : δ × χ) :
    workload prices (state.flagged endpoint) ≤
      workload prices state + (prices.flag endpoint + 1) := by
  by_cases hset : endpoint ∈ state.pending
  · have hsame : state.flagged endpoint = state := by
      rw [State.flagged, Finset.insert_eq_of_mem hset]
    rw [hsame]
    omega
  · have htally : tally prices.flag prices.piece (state.flagged endpoint) = _ :=
      tally_flagged hset
    have hcard : (state.flagged endpoint).pending.card = state.pending.card + 1 :=
      Finset.card_insert_of_notMem hset
    have hmemory : (state.flagged endpoint).memory = state.memory := rfl
    simp only [workload, htally, hcard, hmemory]
    omega

private theorem workload_taken {state : State δ χ ω μ} {domain : δ}
    (hreceiving : Receiving state domain)
    (hflagged : ∃ endpoint ∈ state.pending, endpoint.1 = domain) :
    workload prices (state.taken domain) + 1 ≤ workload prices state := by
  have htally : tally prices.flag prices.piece (state.taken domain) = _ :=
    tally_taken hreceiving
  have hcard : (state.taken domain).pending.card < state.pending.card := by
    obtain ⟨endpoint, hpending, hdomain⟩ := hflagged
    refine Finset.card_lt_card (Finset.filter_ssubset.mpr ⟨endpoint, hpending, ?_⟩)
    simp [hdomain]
  have hmemory : (state.taken domain).memory = state.memory := rfl
  simp only [workload, htally, hmemory]
  omega

private theorem workload_entered
    (hafford : Affordable program known runs invariant prices credit)
    {state : State δ χ ω μ} (hsound : Sound known runs invariant state) {domain : δ}
    {channel : χ} (hfree : state.script domain = [])
    (hwoken : (domain, channel) ∈ state.woken) :
    workload prices (program.entered state domain channel) + 1 ≤
      workload prices state := by
  have htally : tally prices.flag prices.piece (program.entered state domain channel) +
      prices.flag (domain, channel) = _ := tally_entered hfree hwoken
  have hpaid := hafford.entry domain channel (hsound.woken _ hwoken)
  have hsame : (program.entered state domain channel).pending = state.pending ∧
      (program.entered state domain channel).memory = state.memory := ⟨rfl, rfl⟩
  simp only [workload, hsame]
  omega

private theorem workload_performed
    (hafford : Affordable program known runs invariant prices credit)
    {state : State δ χ ω μ} (hsound : Sound known runs invariant state) {domain : δ}
    {piece : ω} {rest : List ω} (hscript : state.script domain = piece :: rest)
    (reading : ε) :
    workload prices (program.performed state domain reading piece rest) + 1 ≤
      workload prices state + credit domain piece reading state.memory := by
  have htally : tally prices.flag prices.piece
      (program.performed state domain reading piece rest) +
        prices.piece domain piece = _ := tally_performed hscript reading
  have hpaid := hafford.perform domain piece reading state.memory
    (hsound.script domain piece (by simp [hscript])) hsound.memory
  simp only at htally hpaid
  set effect := program.perform domain piece reading state.memory
  set new := program.targets domain effect.notified \ state.pending
  have hnew : ∑ endpoint ∈ new, (prices.flag endpoint + 1) ≤
      ∑ endpoint ∈ program.targets domain effect.notified,
        (prices.flag endpoint + 1) :=
    Finset.sum_le_sum_of_subset Finset.sdiff_subset
  rw [Finset.sum_add_distrib, Finset.sum_const, smul_eq_mul, mul_one] at hnew
  have hcard : (program.performed state domain reading piece rest).pending.card =
      state.pending.card + new.card := by
    change (state.pending ∪ program.targets domain effect.notified).card = _
    rw [← Finset.union_sdiff_self_eq_union,
      Finset.card_union_of_disjoint Finset.disjoint_sdiff]
  have hmemory : (program.performed state domain reading piece rest).memory =
      effect.memory := rfl
  simp only [workload, hcard, hmemory]
  omega

/-- The step lemma of a workload: an event that gets something done takes at
least one off, up to what it is granted. -/
theorem Affordable.step
    (hafford : Affordable program known runs invariant prices credit)
    {state : State δ χ ω μ} (hsound : Sound known runs invariant state)
    (event : Event δ χ ε) :
    workload prices (program.step state event) + done state event ≤
      workload prices state + granted program prices credit state event := by
  cases event with
  | interrupt endpoint =>
      simp only [Program.step, granted, done]
      split_ifs
      · exact workload_flagged state endpoint
      · exact Nat.le_refl _
  | wake domain =>
      simp only [Program.step, granted, done]
      by_cases hreceiving : Receiving state domain
      · by_cases hflagged : ∃ endpoint ∈ state.pending, endpoint.1 = domain
        · rw [if_pos hreceiving, if_pos ⟨hreceiving, hflagged⟩]
          exact workload_taken hreceiving hflagged
        · have hnone : ∀ endpoint ∈ state.pending, endpoint.1 ≠ domain :=
            fun endpoint hpending heq => hflagged ⟨endpoint, hpending, heq⟩
          have hsame : state.taken domain = state := by
            simp only [State.taken, Finset.filter_true_of_mem hnone,
              Finset.filter_false_of_mem hnone, Finset.union_empty]
          rw [if_pos hreceiving, if_neg (fun h => hflagged h.2), hsame]
      · rw [if_neg hreceiving, if_neg (fun h => hreceiving h.1)]
  | enter domain channel =>
      simp only [Program.step, granted, done]
      split_ifs with henter
      · exact workload_entered hafford hsound henter.1 henter.2
      · exact Nat.le_refl _
  | advance domain reading =>
      simp only [Program.step, granted, done]
      cases hscript : state.script domain with
      | nil => exact Nat.le_refl _
      | cons piece rest => exact workload_performed hafford hsound hscript reading

/-- The run lemma of a workload: what a run gets done was there at the start or
was granted on the way. -/
theorem Affordable.run
    (hafford : Affordable program known runs invariant prices credit)
    (hclosed : Closed program known runs invariant) {start : State δ χ ω μ}
    (hsound : Sound known runs invariant start) (events : List (Event δ χ ε)) :
    workload prices (run program.step start events) +
        total program.step done start events ≤
      workload prices start +
        total program.step (granted program prices credit) start events :=
  total_balance (Sound known runs invariant)
    (fun _ event h => hclosed.step h event)
    (fun _ event h => hafford.step h event) start hsound events

end Workload

section Tokens

variable [DecidableEq δ] [DecidableEq χ]

/-- Flags and pieces that hold tokens: no handler holds more of them than its
flag, and no piece hands on more than it holds. One comes from outside at a
time. -/
structure HandedOn (program : Program δ χ ω ε μ) (known : δ × χ → Prop)
    (runs : δ → ω → Prop) (invariant : μ → Prop) (flag : δ × χ → Nat)
    (left : δ → ω → Nat) : Prop where
  external : ∀ endpoint ∈ program.external, flag endpoint ≤ 1
  entry : ∀ domain channel, known (domain, channel) →
    ((program.entry domain channel).map (left domain)).sum ≤ flag (domain, channel)
  perform : ∀ domain piece reading memory, runs domain piece → invariant memory →
    let effect := program.perform domain piece reading memory
    (effect.next.map (left domain)).sum +
        ∑ endpoint ∈ program.targets domain effect.notified, flag endpoint ≤
      left domain piece

variable [Fintype δ] {program : Program δ χ ω ε μ} {known : δ × χ → Prop}
  {runs : δ → ω → Prop} {invariant : μ → Prop} {flag : δ × χ → Nat}
  {left : δ → ω → Nat} {state : State δ χ ω μ}

/-- The outside waits until no token is left. -/
def Awaited (flag : δ × χ → Nat) (left : δ → ω → Nat) (state : State δ χ ω μ) :
    Event δ χ ε → Prop
  | .interrupt _ => tally flag left state = 0
  | _ => True

/-- The step lemma of the tokens: there is never a second one. -/
theorem HandedOn.step (h : HandedOn program known runs invariant flag left)
    (hsound : Sound known runs invariant state) {event : Event δ χ ε}
    (hawaited : Awaited flag left state event) (hone : tally flag left state ≤ 1) :
    tally flag left (program.step state event) ≤ 1 := by
  refine program.step_rule (motive := fun next => tally flag left next ≤ 1) hone
    ?_ ?_ ?_ ?_
  · rintro endpoint hexternal rfl
    by_cases hset : endpoint ∈ state.pending
    · rw [State.flagged, Finset.insert_eq_of_mem hset]
      exact hone
    · rw [tally_flagged hset, hawaited, Nat.zero_add]
      exact h.external endpoint hexternal
  · rintro domain - hreceiving
    rw [tally_taken hreceiving]
    exact hone
  · rintro domain channel - hfree hwoken
    have htraded : tally flag left (program.entered state domain channel) +
        flag (domain, channel) = _ := tally_entered hfree hwoken
    have hentry := h.entry domain channel (hsound.woken _ hwoken)
    omega
  · rintro domain reading piece rest - hscript
    have htraded : tally flag left (program.performed state domain reading piece rest) +
        left domain piece = _ := tally_performed hscript reading
    have hkept := h.perform domain piece reading state.memory
      (hsound.script domain piece (by simp [hscript])) hsound.memory
    simp only at htraded hkept
    set targets := program.targets domain
      (program.perform domain piece reading state.memory).notified
    have hnew := Finset.sum_le_sum_of_subset (f := flag)
      (Finset.sdiff_subset : targets \ state.pending ⊆ targets)
    omega

/-- The run lemma of the tokens. -/
theorem HandedOn.run (h : HandedOn program known runs invariant flag left)
    (hclosed : Closed program known runs invariant)
    (hsound : Sound known runs invariant state) (hone : tally flag left state ≤ 1)
    {events : List (Event δ χ ε)}
    (hawaited : EveryStep program.step (Awaited flag left) state events) :
    EveryStep program.step
      (fun current _ => Sound known runs invariant current ∧ tally flag left current ≤ 1)
      state events := by
  induction events generalizing state with
  | nil => trivial
  | cons event rest ih =>
      exact ⟨⟨hsound, hone⟩, ih (hclosed.step hsound event)
        (h.step hsound hawaited.1 hone) hawaited.2⟩

omit [DecidableEq χ] in
/-- A piece that holds the only token leaves none for the flags and for the other
domains. -/
theorem none_beside (hone : tally flag left state ≤ 1) {domain : δ} {piece : ω}
    {rest : List ω} (hscript : state.script domain = piece :: rest)
    (hholds : left domain piece = 1) :
    (∀ endpoint ∈ state.pending, flag endpoint = 0) ∧
      (∀ endpoint ∈ state.woken, flag endpoint = 0) ∧
        ∀ other, other ≠ domain → ∀ later ∈ state.script other, left other later = 0 := by
  have hothers := Finset.add_sum_erase Finset.univ
    (fun other => ((state.script other).map (left other)).sum) (Finset.mem_univ domain)
  have hhere : ((state.script domain).map (left domain)).sum =
      1 + (rest.map (left domain)).sum := by
    rw [hscript, List.map_cons, List.sum_cons, hholds]
  rw [tally, ← hothers] at hone
  simp only [hhere] at hone
  refine ⟨?_, ?_, ?_⟩
  · exact Finset.sum_eq_zero_iff.mp (by omega)
  · exact Finset.sum_eq_zero_iff.mp (by omega)
  · intro other hother later hlater
    have hzero : ∑ next ∈ Finset.univ.erase domain,
        ((state.script next).map (left next)).sum = 0 := by
      omega
    have hscript := Finset.sum_eq_zero_iff.mp hzero other
      (Finset.mem_erase.mpr ⟨hother, Finset.mem_univ other⟩)
    exact List.sum_eq_zero_iff.mp hscript _ (List.mem_map_of_mem hlater)

end Tokens

end LightCtrl.Preemption
