import LightCtrl.Fault.Thresholds

/-!
The hardware fault counter of an active phase has 32 bits and only a clear
sets it back. Once as many reports as it can hold have come in, it starts
again from zero and the threshold of SAFE_MODE is no longer met, although
every report was a hardware fault.
-/

namespace LightCtrl

open Runs

/-- The hardware faults recorded since the last effective clear. -/
def hardwareFaults (operations : List FaultOperation) : Nat :=
  (recordedSinceClear operations).count LightErr.hwStateErr

/-- At every hardware fault of the run that finds two of them in its phase
already, the mode is SAFE_MODE afterwards. -/
def SeveritySurvives (operations : List FaultOperation) : Prop :=
  ∀ before after,
    operations = before ++ .recordError LightErr.hwStateErr :: after →
    2 ≤ hardwareFaults before →
    (run FaultOperation.apply lightFaultStateReset
      (before ++ [.recordError LightErr.hwStateErr])).mode = .safeMode

/-- No such fault brings the number of its phase to a multiple of 2^32, or to
one more. -/
def CounterUnwrapped (operations : List FaultOperation) : Prop :=
  ∀ before after,
    operations = before ++ .recordError LightErr.hwStateErr :: after →
    2 ≤ hardwareFaults before → 2 ≤ (hardwareFaults before + 1) % 2 ^ 32

theorem deriveMode_safeMode_iff (counters : FaultCounters) :
    deriveMode counters = .safeMode ↔ 2 ≤ counters.hwStateErrors := by
  rw [← safeMode_le_deriveMode_iff]
  exact ⟨fun heq => heq.ge, FaultMode.eq_safeMode_of_le⟩

/-- The step lemma: in an active phase the report meets the threshold exactly
when the wrapped count does. -/
theorem hardwareFault_mode_iff {operations : List FaultOperation}
    (hphase : recordedSinceClear operations ≠ []) :
    (run FaultOperation.apply lightFaultStateReset
        (operations ++ [.recordError LightErr.hwStateErr])).mode = .safeMode ↔
      2 ≤ (hardwareFaults operations + 1) % 2 ^ 32 := by
  have hinvariant := phaseInvariant_run operations
  have hactive := hinvariant.active_iff.mpr hphase
  set codes := recordedSinceClear operations
  set state := run FaultOperation.apply lightFaultStateReset operations
  have hcounter : (countedErrors (codes ++ [LightErr.hwStateErr])).hwStateErrors.toNat
      = (hardwareFaults operations + 1) % 2 ^ 32 := by
    have hcounted := errorCounter_countedErrors_mod
      (Or.inr (Or.inr (Or.inr rfl))) (codes ++ [LightErr.hwStateErr])
    rwa [List.count_append, List.count_singleton_self] at hcounted
  have hmode : (lightFaultModeRecordError state LightErr.hwStateErr).1.mode =
      deriveMode (countedErrors (codes ++ [LightErr.hwStateErr])) := by
    rw [recordError_mode_of_not_recovering state _ (by simp [hactive]),
      hinvariant.counted, countedErrors_concat]
  rw [run_concat]
  change (lightFaultModeRecordError state LightErr.hwStateErr).1.mode = _ ↔ _
  rw [hmode, deriveMode_safeMode_iff, ← hcounter, UInt32.le_iff_toNat_le]
  rfl

theorem hardwareFaults_phase {operations : List FaultOperation}
    (hfaults : 2 ≤ hardwareFaults operations) :
    recordedSinceClear operations ≠ [] := by
  intro hempty
  simp [hardwareFaults, hempty] at hfaults

/-- In every run, of any length, the hardware faults keep SAFE_MODE exactly as
long as the counter of their phase does not wrap. -/
theorem severity_survives_iff (operations : List FaultOperation) :
    SeveritySurvives operations ↔ CounterUnwrapped operations := by
  unfold SeveritySurvives CounterUnwrapped
  refine forall₂_congr fun before after => ?_
  refine imp_congr_right fun _ => imp_congr_right fun hfaults => ?_
  exact hardwareFault_mode_iff (hardwareFaults_phase hfaults)

theorem recordedSinceClear_replicate (count : Nat) :
    recordedSinceClear
        (List.replicate count (.recordError LightErr.hwStateErr)) =
      List.replicate count LightErr.hwStateErr := by
  induction count with
  | zero => rfl
  | succ count ih =>
      rw [List.replicate_succ', recordedSinceClear_concat, ih, recordedAfter,
        List.replicate_succ']

/-- An endlessly repeated hardware fault, at its report number 2^32: the phase
has seen all of them and no clear, and the mode is no longer SAFE_MODE. -/
theorem repeated_fault_wraps :
    ¬ SeveritySurvives
      (List.replicate (2 ^ 32) (.recordError LightErr.hwStateErr)) := by
  intro hsurvives
  set reports := List.replicate (2 ^ 32 - 1)
    (FaultOperation.recordError LightErr.hwStateErr) with hreports
  have hfaults : hardwareFaults reports = 2 ^ 32 - 1 := by
    rw [hardwareFaults, hreports, recordedSinceClear_replicate,
      List.count_replicate_self]
  have hsplit : List.replicate (2 ^ 32)
      (FaultOperation.recordError LightErr.hwStateErr) =
        reports ++ [.recordError LightErr.hwStateErr] :=
    List.replicate_succ'
  have hmany : 2 ≤ hardwareFaults reports := by omega
  have hsafe := hsurvives reports [] hsplit hmany
  have hcount := (hardwareFault_mode_iff (hardwareFaults_phase hmany)).mp hsafe
  omega

end LightCtrl
