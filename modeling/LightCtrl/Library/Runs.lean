import Mathlib.Tactic

/-!
Runs of a deterministic machine whose step takes one input. The machine is
only a function `σ → ι → σ`; nothing here depends on what it computes. Two
predicates describe a whole run: `EveryState` speaks about each state the
run visits, `EveryStep` about each state together with the input taken there.
The rules below turn a fact about one step into a fact about every run.
-/

namespace LightCtrl.Runs

variable {σ ι : Type*}

/-- The state after a finite sequence of inputs. -/
def run (step : σ → ι → σ) : σ → List ι → σ
  | state, [] => state
  | state, input :: rest => run step (step state input) rest

/-- `finish` is the end of some run from `start`. -/
def Reachable (step : σ → ι → σ) (start finish : σ) : Prop :=
  ∃ inputs, run step start inputs = finish

/-- The predicate holds in the first state and in every later state. -/
def EveryState (step : σ → ι → σ) (holds : σ → Prop) : σ → List ι → Prop
  | state, [] => holds state
  | state, input :: rest =>
      holds state ∧ EveryState step holds (step state input) rest

/-- The predicate holds of every state together with the input taken in it. -/
def EveryStep (step : σ → ι → σ) (holds : σ → ι → Prop) : σ → List ι → Prop
  | _, [] => True
  | state, input :: rest =>
      holds state input ∧ EveryStep step holds (step state input) rest

instance EveryStep.decidable (step : σ → ι → σ) (holds : σ → ι → Prop)
    [∀ state input, Decidable (holds state input)] :
    ∀ state inputs, Decidable (EveryStep step holds state inputs)
  | _, [] => isTrue trivial
  | state, input :: rest =>
      have := EveryStep.decidable step holds (step state input) rest
      inferInstanceAs (Decidable (_ ∧ _))

/-- Everything the steps of a run emit, in order. -/
def outputs {ο : Type*} (step : σ → ι → σ) (emit : σ → ι → List ο) :
    σ → List ι → List ο
  | _, [] => []
  | state, input :: rest =>
      emit state input ++ outputs step emit (step state input) rest

variable {step : σ → ι → σ}

@[simp] theorem run_nil (state : σ) : run step state [] = state := rfl

@[simp] theorem run_cons (state : σ) (input : ι) (rest : List ι) :
    run step state (input :: rest) = run step (step state input) rest := rfl

theorem run_append (state : σ) (first second : List ι) :
    run step state (first ++ second) =
      run step (run step state first) second := by
  induction first generalizing state with
  | nil => rfl
  | cons input rest ih => exact ih (step state input)

theorem outputs_append {ο : Type*} (emit : σ → ι → List ο) (state : σ)
    (first second : List ι) :
    outputs step emit state (first ++ second) =
      outputs step emit state first ++
        outputs step emit (run step state first) second := by
  induction first generalizing state with
  | nil => rfl
  | cons input rest ih =>
      simp only [List.cons_append, outputs, run_cons, ih, List.append_assoc]

theorem outputs_filterMap {ο κ : Type*} (emit : σ → ι → List ο) (select : ο → Option κ)
    (state : σ) (inputs : List ι) :
    (outputs step emit state inputs).filterMap select =
      outputs step (fun current input => (emit current input).filterMap select) state
        inputs := by
  induction inputs generalizing state with
  | nil => rfl
  | cons input rest ih => simp only [outputs, List.filterMap_append, ih]

theorem everyStep_append {holds : σ → ι → Prop} (state : σ)
    (first second : List ι) :
    EveryStep step holds state (first ++ second) ↔
      EveryStep step holds state first ∧
        EveryStep step holds (run step state first) second := by
  induction first generalizing state with
  | nil => simp [EveryStep]
  | cons input rest ih =>
      simp only [List.cons_append, EveryStep, run_cons, ih, and_assoc]

/-- What holds of everything a run emits holds step by step. -/
theorem forall_outputs_iff {ο : Type*} {emit : σ → ι → List ο} {good : ο → Prop}
    (state : σ) (inputs : List ι) :
    (∀ output ∈ outputs step emit state inputs, good output) ↔
      EveryStep step
        (fun current input => ∀ output ∈ emit current input, good output)
        state inputs := by
  induction inputs generalizing state with
  | nil => simp [outputs, EveryStep]
  | cons input rest ih =>
      simp only [outputs, EveryStep, List.forall_mem_append, ih]

/-- Preservation is only asked of the inputs the run really contains. -/
theorem run_invariant_on (invariant : σ → Prop) (inputs : List ι)
    (preserved : ∀ state, ∀ input ∈ inputs,
      invariant state → invariant (step state input))
    (state : σ) (hstart : invariant state) :
    invariant (run step state inputs) := by
  induction inputs generalizing state with
  | nil => exact hstart
  | cons input rest ih =>
      have hnext := preserved state input (by simp) hstart
      apply ih _ (step state input) hnext
      intro later other hmember
      exact preserved later other (List.mem_cons_of_mem input hmember)

theorem run_invariant (invariant : σ → Prop)
    (preserved : ∀ state input, invariant state → invariant (step state input))
    (state : σ) (hstart : invariant state) (inputs : List ι) :
    invariant (run step state inputs) :=
  run_invariant_on invariant inputs
    (fun later input _ => preserved later input) state hstart

/-- When one repeated input takes one off a measure each time, as many inputs
as the measure counts exhaust it. -/
theorem run_replicate_exhausts (invariant : σ → Prop) (measure : σ → Nat)
    (input : ι)
    (preserved : ∀ state, invariant state → invariant (step state input))
    (decreases : ∀ state, invariant state →
      measure (step state input) = measure state - 1)
    (count : Nat) (state : σ) (hstart : invariant state)
    (hcount : measure state ≤ count) :
    measure (run step state (List.replicate count input)) = 0 := by
  induction count generalizing state with
  | zero => exact Nat.le_zero.mp hcount
  | succ count ih =>
      have hnext := decreases state hstart
      exact ih (step state input) (preserved state hstart) (by omega)

theorem Reachable.refl (state : σ) : Reachable step state state := ⟨[], rfl⟩

theorem Reachable.invariant (invariant : σ → Prop)
    (preserved : ∀ state input, invariant state → invariant (step state input))
    {start finish : σ} (hreach : Reachable step start finish)
    (hstart : invariant start) : invariant finish := by
  obtain ⟨inputs, rfl⟩ := hreach
  exact run_invariant invariant preserved start hstart inputs

/-- The recursive predicate is the same as one quantifier over the places
where the run can be cut. -/
theorem everyStep_iff {holds : σ → ι → Prop} (state : σ) (inputs : List ι) :
    EveryStep step holds state inputs ↔
      ∀ before input after, inputs = before ++ input :: after →
        holds (run step state before) input := by
  induction inputs generalizing state with
  | nil => simp [EveryStep]
  | cons head rest ih =>
      simp only [EveryStep, ih]
      constructor
      · rintro ⟨hhead, hrest⟩ before input after heq
        cases before with
        | nil =>
            simp only [List.nil_append, List.cons.injEq] at heq
            obtain ⟨rfl, -⟩ := heq
            exact hhead
        | cons first more =>
            simp only [List.cons_append, List.cons.injEq] at heq
            obtain ⟨rfl, heq⟩ := heq
            exact hrest more input after heq
      · intro hall
        refine ⟨hall [] head rest rfl, ?_⟩
        intro before input after heq
        exact hall (head :: before) input after (by simp [heq])

theorem EveryStep.mono {weak strong : σ → ι → Prop}
    (himplies : ∀ state input, strong state input → weak state input)
    {state : σ} {inputs : List ι} (h : EveryStep step strong state inputs) :
    EveryStep step weak state inputs := by
  induction inputs generalizing state with
  | nil => trivial
  | cons input rest ih => exact ⟨himplies state input h.1, ih h.2⟩

/-- An invariant that gives a property of each step gives it for every step
of a run. -/
theorem everyStep_of_invariant (invariant : σ → Prop) {holds : σ → ι → Prop}
    (preserved : ∀ state input, invariant state → invariant (step state input))
    (gives : ∀ state input, invariant state → holds state input)
    (state : σ) (hstart : invariant state) (inputs : List ι) :
    EveryStep step holds state inputs := by
  induction inputs generalizing state with
  | nil => trivial
  | cons input rest ih =>
      refine ⟨gives state input hstart, ?_⟩
      exact ih (step state input) (preserved state input hstart)

/-- Under an invariant, two step predicates that agree on every single step
agree on every run. -/
theorem everyStep_congr (invariant : σ → Prop) {left right : σ → ι → Prop}
    (inputs : List ι)
    (preserved : ∀ state, ∀ input ∈ inputs,
      invariant state → invariant (step state input))
    (agree : ∀ state, ∀ input ∈ inputs,
      invariant state → (left state input ↔ right state input))
    (state : σ) (hstart : invariant state) :
    EveryStep step left state inputs ↔ EveryStep step right state inputs := by
  induction inputs generalizing state with
  | nil => exact Iff.rfl
  | cons input rest ih =>
      have hnext := preserved state input (by simp) hstart
      have hrest := ih
        (fun later other hmember =>
          preserved later other (List.mem_cons_of_mem input hmember))
        (fun later other hmember =>
          agree later other (List.mem_cons_of_mem input hmember))
        (step state input) hnext
      simp only [EveryStep, agree state input (by simp) hstart, hrest]

/-- An invariant that gives the property of a state, is kept by the steps that
meet a condition, and is followed by the property only after such steps, makes
the property of all states the condition on all steps. -/
theorem everyState_iff_everyStep_of (invariant : σ → Prop) {holds : σ → Prop}
    {condition : σ → ι → Prop}
    (gives : ∀ state, invariant state → holds state)
    (kept : ∀ state input, invariant state → condition state input →
      invariant (step state input))
    (needed : ∀ state input, invariant state → holds (step state input) →
      condition state input)
    (state : σ) (hstart : invariant state) (inputs : List ι) :
    EveryState step holds state inputs ↔
      EveryStep step condition state inputs := by
  induction inputs generalizing state with
  | nil => exact ⟨fun _ => trivial, fun _ => gives state hstart⟩
  | cons input rest ih =>
      constructor
      · rintro ⟨_, hrest⟩
        have hafter : holds (step state input) := by
          cases rest with
          | nil => exact hrest
          | cons _ _ => exact hrest.1
        have hcondition := needed state input hstart hafter
        have hnext := kept state input hstart hcondition
        exact ⟨hcondition, (ih (step state input) hnext).mp hrest⟩
      · rintro ⟨hcondition, hrest⟩
        have hnext := kept state input hstart hcondition
        exact ⟨gives state hstart, (ih (step state input) hnext).mpr hrest⟩

/-- A state property that starts true, and that a step keeps exactly when the
step meets a condition, holds throughout a run exactly when every step of the
run meets the condition. -/
theorem everyState_iff_everyStep (invariant : σ → Prop) {holds : σ → Prop}
    {condition : σ → ι → Prop}
    (preserved : ∀ state input, invariant state → invariant (step state input))
    (exact_step : ∀ state input, invariant state → holds state →
      (holds (step state input) ↔ condition state input))
    (state : σ) (hstart : invariant state) (hholds : holds state)
    (inputs : List ι) :
    EveryState step holds state inputs ↔
      EveryStep step condition state inputs := by
  refine everyState_iff_everyStep_of
    (fun current => invariant current ∧ holds current) ?_ ?_ ?_ state
    ⟨hstart, hholds⟩ inputs
  · exact fun _ h => h.2
  · rintro current input ⟨hcurrent, hnow⟩ hcondition
    exact ⟨preserved current input hcurrent,
      (exact_step current input hcurrent hnow).mpr hcondition⟩
  · rintro current input ⟨hcurrent, hnow⟩ hafter
    exact (exact_step current input hcurrent hnow).mp hafter

section History

theorem run_concat (state : σ) (past : List ι) (input : ι) :
    run step state (past ++ [input]) = step (run step state past) input := by
  rw [run_append, run_cons, run_nil]

/-- The invariant may speak about the whole input sequence so far, and not
only about the state it led to. -/
theorem run_history_invariant (start : σ) (invariant : List ι → σ → Prop)
    (hstart : invariant [] start)
    (preserved : ∀ past input, invariant past (run step start past) →
      invariant (past ++ [input]) (step (run step start past) input))
    (inputs : List ι) : invariant inputs (run step start inputs) := by
  induction inputs using List.reverseRecOn with
  | nil => exact hstart
  | append_singleton past input ih =>
      rw [run_concat]
      exact preserved past input ih

end History

section Simulation

variable {τ : Type*} {concrete : τ → ι → τ} (represent : σ → τ)

/-- A machine that mirrors each step of another mirrors its runs. -/
theorem run_simulation
    (mirrors : ∀ state input,
      concrete (represent state) input = represent (step state input))
    (state : σ) (inputs : List ι) :
    run concrete (represent state) inputs = represent (run step state inputs) := by
  induction inputs generalizing state with
  | nil => rfl
  | cons input rest ih => rw [run_cons, run_cons, mirrors, ih]

/-- The same when the steps are only mirrored in the states an invariant
describes. -/
theorem run_simulation_on (invariant : σ → Prop)
    (preserved : ∀ state input, invariant state → invariant (step state input))
    (mirrors : ∀ state input, invariant state →
      concrete (represent state) input = represent (step state input))
    (state : σ) (hstart : invariant state) (inputs : List ι) :
    run concrete (represent state) inputs = represent (run step state inputs) := by
  induction inputs generalizing state with
  | nil => rfl
  | cons input rest ih =>
      have hnext := preserved state input hstart
      rw [run_cons, run_cons, mirrors state input hstart]
      exact ih (step state input) hnext

/-- A part of a machine that changes only by what it decodes from the inputs is
the outcome of what it decodes. -/
theorem run_part {κ : Type*} {whole : τ → κ → τ} (part : τ → σ) (decode : κ → Option ι)
    (changes : ∀ state input,
      part (whole state input) = (decode input).elim (part state) (step (part state)))
    (state : τ) (inputs : List κ) :
    part (run whole state inputs) = run step (part state) (inputs.filterMap decode) := by
  induction inputs generalizing state with
  | nil => rfl
  | cons input rest ih =>
      rw [run_cons, ih, changes, List.filterMap_cons]
      cases decode input <;> rfl

theorem everyStep_simulation
    (mirrors : ∀ state input,
      concrete (represent state) input = represent (step state input))
    {holds : τ → ι → Prop} (state : σ) (inputs : List ι) :
    EveryStep concrete holds (represent state) inputs ↔
      EveryStep step (fun current => holds (represent current)) state inputs := by
  induction inputs generalizing state with
  | nil => exact Iff.rfl
  | cons input rest ih => simp only [EveryStep, mirrors, ih]

end Simulation

end LightCtrl.Runs
