import LightCtrl.Library.Runs

/-!
Registers that remember the last input written to them. A register is any
function of the state of a machine, and an input is relevant to it when the
step stores a value there. One equation about a step is then enough to know
the register after every run.
-/

namespace LightCtrl.LastWrite

open Runs

variable {σ ι ν : Type*}

/-- The last of the inputs that are relevant. -/
def lastRelevant (relevant : ι → Bool) (inputs : List ι) : Option ι :=
  (inputs.filter relevant).getLast?

theorem lastRelevant_concat (relevant : ι → Bool) (inputs : List ι) (input : ι) :
    lastRelevant relevant (inputs ++ [input]) =
      if relevant input then some input else lastRelevant relevant inputs := by
  cases hinput : relevant input with
  | true => simp [lastRelevant, List.filter_append, hinput]
  | false => simp [lastRelevant, List.filter_append, hinput]

/-- What is said of a last relevant input it is said of an input of the list
that is relevant. -/
theorem lastRelevant_some {relevant : ι → Bool} {inputs : List ι} {input : ι}
    (hlast : lastRelevant relevant inputs = some input) :
    input ∈ inputs ∧ relevant input = true := by
  have hmember : input ∈ inputs.filter relevant := List.mem_of_getLast? hlast
  exact List.mem_filter.mp hmember

variable {step : σ → ι → σ}

/-- A register that relevant inputs overwrite and all others leave alone
holds what the last relevant input wrote, or its first content. -/
theorem register_run (read : σ → ν) {relevant : ι → Bool} {written : ι → ν}
    (hstep : ∀ state input, read (step state input) =
      if relevant input then written input else read state)
    (state : σ) (inputs : List ι) :
    read (run step state inputs) =
      ((lastRelevant relevant inputs).map written).getD (read state) := by
  induction inputs using List.reverseRecOn with
  | nil => rfl
  | append_singleton past input ih =>
      rw [run_concat, hstep, lastRelevant_concat]
      split_ifs with hinput
      · rfl
      · exact ih

end LightCtrl.LastWrite
