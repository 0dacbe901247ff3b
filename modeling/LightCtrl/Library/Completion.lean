import LightCtrl.Library.Preemption

/-!
A handler that is left alone. Its pieces one after the other take the memory
to its end and notify some channels in order; `Completes` is this as a whole.
A domain that moves without a preemption does exactly that.
-/

namespace LightCtrl.Preemption

open Runs

variable {δ χ ω ε μ : Type*} {program : Program δ χ ω ε μ} {domain : δ} {reading : ε}

/-- From `memory` the pieces of the domain end at `final` and notify `notified`. -/
inductive Completes (program : Program δ χ ω ε μ) (domain : δ) (reading : ε) :
    μ → List ω → μ → List χ → Prop where
  | nil (memory : μ) : Completes program domain reading memory [] memory []
  | cons {memory : μ} {piece : ω} {rest : List ω} {final : μ} {notified : List χ}
      (h : Completes program domain reading
        (program.perform domain piece reading memory).memory
        ((program.perform domain piece reading memory).next ++ rest) final notified) :
      Completes program domain reading memory (piece :: rest) final
        ((program.perform domain piece reading memory).notified ++ notified)

/-- One more piece in front, given by its effect. -/
theorem Completes.step {memory : μ} {piece : ω} {rest : List ω} {final : μ}
    {notified : List χ} {effect : Effect χ ω μ}
    (heffect : program.perform domain piece reading memory = effect)
    (h : Completes program domain reading effect.memory (effect.next ++ rest) final
      notified) :
    Completes program domain reading memory (piece :: rest) final
      (effect.notified ++ notified) := by
  subst heffect
  exact .cons h

section Runs

variable [DecidableEq δ] [DecidableEq χ]

theorem targets_append (first second : List χ) :
    program.targets domain (first ++ second) =
      program.targets domain first ∪ program.targets domain second := by
  simp [Program.targets, List.filterMap_append]

/-- The run of a domain that is left alone until its handler ends. -/
theorem Completes.run {memory final : μ} {script : List ω} {notified : List χ}
    (h : Completes program domain reading memory script final notified)
    {state : State δ χ ω μ} (hmemory : state.memory = memory)
    (hscript : state.script domain = script) :
    ∃ count, Runs.run program.step state
        (List.replicate count (.advance domain reading)) =
      { memory := final
        pending := state.pending ∪ program.targets domain notified
        woken := state.woken
        script := Function.update state.script domain [] } := by
  induction h generalizing state with
  | nil memory =>
      refine ⟨0, ?_⟩
      have hempty : program.targets domain [] = ∅ := rfl
      rw [List.replicate_zero, run_nil, hempty, Finset.union_empty, ← hmemory, ← hscript,
        Function.update_eq_self]
  | @cons memory piece rest final notified _ ih =>
      subst hmemory
      have hsame : (program.performed state domain reading piece rest).memory =
          (program.perform domain piece reading state.memory).memory := rfl
      obtain ⟨count, hrest⟩ := ih hsame (Program.performed_script_self ..)
      refine ⟨count + 1, ?_⟩
      have hstep : program.step state (.advance domain reading) =
          program.performed state domain reading piece rest := by
        simp only [Program.step, hscript]
      rw [List.replicate_succ, run_cons, hstep, hrest, targets_append, ← Finset.union_assoc]
      simp only [Program.performed, Function.update_idem]

/-- A domain that starts a handler and is left alone performs it as a whole. -/
theorem Completes.run_entered {state : State δ χ ω μ} {channel : χ} {final : μ}
    {notified : List χ} (hfree : state.script domain = [])
    (hwoken : (domain, channel) ∈ state.woken)
    (h : Completes program domain reading state.memory (program.entry domain channel)
      final notified) :
    ∃ count, Runs.run program.step state
        (.enter domain channel :: List.replicate count (.advance domain reading)) =
      { memory := final
        pending := state.pending ∪ program.targets domain notified
        woken := state.woken.erase (domain, channel)
        script := state.script } := by
  have hsame : (program.entered state domain channel).memory = state.memory := rfl
  obtain ⟨count, hrun⟩ := h.run hsame (Program.entered_script_self ..)
  have hstep : program.step state (.enter domain channel) =
      program.entered state domain channel := if_pos ⟨hfree, hwoken⟩
  refine ⟨count, ?_⟩
  rw [run_cons, hstep, hrun]
  simp only [Program.entered, Function.update_idem, ← hfree, Function.update_eq_self]

end Runs

end LightCtrl.Preemption
