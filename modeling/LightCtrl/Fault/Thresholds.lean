import LightCtrl.Fault.Severity
import LightCtrl.Library.Streaks

/-!
The escalation thresholds in terms of the errors a run records. The active
counters are what the codes since the last effective clear count up to, so
the derived mode is a function of that list. The mode can only exceed it when
the phase began by interrupting a recovery, and then only until the next
error.
-/

namespace LightCtrl

open Runs Streaks

/-- The codes a list of operations records, in order. -/
def recordedCodes (operations : List FaultOperation) : List UInt8 :=
  operations.filterMap fun
    | .recordError errorCode => some errorCode
    | _ => none

@[simp] theorem recordedCodes_append (first second : List FaultOperation) :
    recordedCodes (first ++ second) = recordedCodes first ++ recordedCodes second :=
  List.filterMap_append

theorem recordedSinceClear_concat (past : List FaultOperation)
    (operation : FaultOperation) :
    recordedSinceClear (past ++ [operation]) =
      recordedAfter (run FaultOperation.apply lightFaultStateReset past)
        (recordedSinceClear past) operation := by
  unfold recordedSinceClear
  rw [run_concat, ← faultStepWithHistory_fst past lightFaultStateReset []]
  rfl

/-- The codes of the phase are the last ones recorded at all. -/
theorem recordedSinceClear_suffix (operations : List FaultOperation) :
    recordedSinceClear operations <:+ recordedCodes operations := by
  induction operations using List.reverseRecOn with
  | nil => exact List.nil_suffix
  | append_singleton past operation ih =>
      rw [recordedSinceClear_concat, recordedCodes_append]
      cases operation with
      | recordError errorCode =>
          obtain ⟨earlier, heq⟩ := ih
          refine ⟨earlier, ?_⟩
          rw [← heq]
          simp [recordedAfter, recordedCodes]
      | clearActive =>
          simp only [recordedAfter]
          split_ifs
          · simpa [recordedCodes] using ih
          · exact List.nil_suffix
      | observeRecoveryAt nowMs => simpa [recordedAfter, recordedCodes] using ih
      | observeRecovery => simpa [recordedAfter, recordedCodes] using ih

/-- What the codes count up to from zero. -/
def countedErrors (codes : List UInt8) : FaultCounters :=
  codes.foldl applyErrorToCounters faultCountersReset

theorem countedErrors_concat (codes : List UInt8) (errorCode : UInt8) :
    countedErrors (codes ++ [errorCode]) =
      applyErrorToCounters (countedErrors codes) errorCode := by
  simp only [countedErrors, List.foldl_append, List.foldl_cons, List.foldl_nil]

private theorem toNat_succ {counter : UInt32} (h : counter.toNat + 1 < 2 ^ 32) :
    (counter + 1).toNat = counter.toNat + 1 := by
  rw [UInt32.toNat_add]
  exact Nat.mod_eq_of_lt h

/-- Each counter counts its own code, modulo its width. -/
theorem errorCounter_countedErrors_mod {probe : UInt8}
    (hprobe : RecognisedError probe) (codes : List UInt8) :
    (errorCounter (countedErrors codes) probe).toNat =
      codes.count probe % 2 ^ 32 := by
  induction codes using List.reverseRecOn with
  | nil => rcases hprobe with rfl | rfl | rfl | rfl <;> rfl
  | append_singleton codes errorCode ih =>
      rw [countedErrors_concat, errorCounter_applyErrorToCounters _ hprobe,
        List.count_append]
      by_cases hsame : errorCode = probe
      · subst hsame
        rw [if_pos rfl, List.count_singleton_self, UInt32.toNat_add, ih]
        exact Nat.mod_add_mod _ _ _
      · rw [if_neg hsame, List.count_singleton, if_neg (by simpa using hsame)]
        exact ih

/-- With fewer errors than a counter can hold, it counts them exactly. -/
theorem errorCounter_countedErrors {probe : UInt8} (hprobe : RecognisedError probe)
    (codes : List UInt8) (hlength : codes.length < 2 ^ 32) :
    (errorCounter (countedErrors codes) probe).toNat = codes.count probe := by
  have hcount := List.count_le_length (a := probe) (l := codes)
  rw [errorCounter_countedErrors_mod hprobe]
  exact Nat.mod_eq_of_lt (by omega)

theorem streak_countedErrors (codes : List UInt8)
    (hlength : codes.length < 2 ^ 32) :
    (countedErrors codes).consecutiveModeConflicts.toNat =
      streak LightErr.modeConflict codes := by
  induction codes using List.reverseRecOn with
  | nil => rfl
  | append_singleton codes errorCode ih =>
      rw [List.length_append, List.length_singleton] at hlength
      have hcounted := ih (by omega)
      have hstreak := streak_le_length LightErr.modeConflict codes
      rw [countedErrors_concat, applyErrorToCounters_consecutiveModeConflicts, streak_concat]
      split_ifs
      · rw [toNat_succ (by omega), hcounted]
      · rfl

/-- The current phase began with an error that found a recovery running at
this mode, and no effective clear came after it. -/
def InterruptedRecovery (operations : List FaultOperation)
    (mode : FaultMode) : Prop :=
  ∃ before first after,
    operations = before ++ .recordError first :: after ∧
      recordedSinceClear operations = first :: recordedCodes after ∧
      (run FaultOperation.apply lightFaultStateReset before).lifecycle =
        .recovering ∧
      (run FaultOperation.apply lightFaultStateReset before).mode = mode

/-- The active phase in terms of the codes recorded in it. -/
structure PhaseInvariant (operations : List FaultOperation)
    (state : LightFaultState) : Prop where
  counted : state.activeCounters = countedErrors (recordedSinceClear operations)
  active_iff : state.lifecycle = .active ↔ recordedSinceClear operations ≠ []
  derived : state.lifecycle = .active →
    state.mode = deriveMode state.activeCounters ∨
      ∃ mode, InterruptedRecovery operations mode ∧
        state.mode = max mode (deriveMode state.activeCounters)

theorem phaseInvariant_reset : PhaseInvariant [] lightFaultStateReset where
  counted := rfl
  active_iff := by simp [recordedSinceClear, lightFaultStateReset]
  derived := by simp [lightFaultStateReset]

private theorem InterruptedRecovery.concat {past : List FaultOperation}
    {mode : FaultMode} (h : InterruptedRecovery past mode)
    {operation : FaultOperation} (hcodes : recordedCodes [operation] = [])
    (hsame : recordedSinceClear (past ++ [operation]) = recordedSinceClear past) :
    InterruptedRecovery (past ++ [operation]) mode := by
  obtain ⟨before, first, after, rfl, hrecorded, hrecovering, hmode⟩ := h
  refine ⟨before, first, after ++ [operation], by simp, ?_, hrecovering, hmode⟩
  rw [hsame, hrecorded, recordedCodes_append, hcodes, List.append_nil]

/-- An operation that records nothing, and leaves the counters and the mode
of a phase alone, keeps the invariant. -/
private theorem PhaseInvariant.quiet {past : List FaultOperation}
    {state next : LightFaultState} (h : PhaseInvariant past state)
    {operation : FaultOperation} (hcodes : recordedCodes [operation] = [])
    (hsame : recordedSinceClear (past ++ [operation]) = recordedSinceClear past)
    (hcounters : next.activeCounters = state.activeCounters)
    (hlifecycle : next.lifecycle = .active ↔ state.lifecycle = .active)
    (hmode : state.lifecycle = .active → next.mode = state.mode) :
    PhaseInvariant (past ++ [operation]) next where
  counted := by rw [hcounters, h.counted, hsame]
  active_iff := by rw [hlifecycle, h.active_iff, hsame]
  derived := by
    intro hactive
    have hbefore := hlifecycle.mp hactive
    rw [hmode hbefore, hcounters]
    rcases h.derived hbefore with hderived | ⟨mode, hinterrupted, hmax⟩
    · exact Or.inl hderived
    · exact Or.inr ⟨mode, hinterrupted.concat hcodes hsame, hmax⟩

/-- An observation touches neither the counters nor an active phase. -/
private theorem observeRecoveryAt_active_frame (state : LightFaultState)
    (nowMs : UInt32) :
    (lightFaultModeObserveRecoveryAt state nowMs).1.activeCounters =
        state.activeCounters ∧
      ((lightFaultModeObserveRecoveryAt state nowMs).1.lifecycle = .active ↔
        state.lifecycle = .active) ∧
      (state.lifecycle = .active →
        (lightFaultModeObserveRecoveryAt state nowMs).1.mode = state.mode) := by
  have houtcome := observeRecoveryAt_outcome state nowMs
  generalize (lightFaultModeObserveRecoveryAt state nowMs).1 = next at houtcome ⊢
  cases houtcome with
  | ignored _ => exact ⟨rfl, Iff.rfl, fun _ => rfl⟩
  | opened _ _ _ => exact ⟨rfl, Iff.rfl, fun _ => rfl⟩
  | progressed _ _ _ _ => exact ⟨rfl, Iff.rfl, fun _ => rfl⟩
  | stepped hwindow =>
      have hrecovering := hwindow.lifecycle
      refine ⟨rfl, ?_, ?_⟩
      · rcases steppedDown_outcome hrecovering nowMs with
          ⟨hleft, -⟩ | ⟨hleft, -⟩ <;> simp [hleft, hrecovering]
      · intro hactive
        exact absurd (hrecovering.symm.trans hactive) (by simp)

private theorem phaseInvariant_recordError {past : List FaultOperation}
    (h : PhaseInvariant past
      (run FaultOperation.apply lightFaultStateReset past))
    (errorCode : UInt8) :
    PhaseInvariant (past ++ [.recordError errorCode])
      (lightFaultModeRecordError
        (run FaultOperation.apply lightFaultStateReset past) errorCode).1 := by
  have hrecorded := recordedSinceClear_concat past (.recordError errorCode)
  set state := run FaultOperation.apply lightFaultStateReset past with hstate
  rw [recordedAfter] at hrecorded
  refine ⟨?_, ?_, fun _ => ?_⟩
  · rw [hrecorded, countedErrors_concat, ← h.counted]
    rfl
  · simp [hrecorded]
  · cases hlifecycle : state.lifecycle with
    | stable =>
        left
        exact recordError_mode_of_not_recovering state errorCode (by simp [hlifecycle])
    | active =>
        left
        exact recordError_mode_of_not_recovering state errorCode (by simp [hlifecycle])
    | recovering =>
        right
        have hempty : recordedSinceClear past = [] := by
          by_contra hne
          have hactive := h.active_iff.mpr hne
          exact absurd (hlifecycle.symm.trans hactive) (by simp)
        refine ⟨state.mode, ⟨past, errorCode, [], rfl, ?_, hlifecycle, rfl⟩, ?_⟩
        · rw [hrecorded, hempty]
          rfl
        · exact recordError_mode_of_recovering state errorCode hlifecycle

private theorem phaseInvariant_clearActive {past : List FaultOperation}
    (h : PhaseInvariant past
      (run FaultOperation.apply lightFaultStateReset past)) :
    PhaseInvariant (past ++ [.clearActive])
      (lightFaultModeClearActive
        (run FaultOperation.apply lightFaultStateReset past)).1 := by
  have hrecorded := recordedSinceClear_concat past .clearActive
  set state := run FaultOperation.apply lightFaultStateReset past with hstate
  rw [recordedAfter] at hrecorded
  by_cases hmask : state.activeFaultMask = 0
  · rw [if_pos hmask] at hrecorded
    rw [clearActive_of_mask_zero state hmask]
    exact h.quiet rfl hrecorded rfl Iff.rfl fun _ => rfl
  · rw [if_neg hmask] at hrecorded
    have hinactive : (lightFaultModeClearActive state).1.lifecycle ≠ .active := by
      rcases clearActive_outcome state hmask with
        ⟨hleft, -⟩ | ⟨hleft, -⟩ <;> simp [hleft]
    refine ⟨?_, ?_, fun hactive => absurd hactive hinactive⟩
    · rw [hrecorded, clearActive_of_mask_ne state hmask]
      rfl
    · simp [hrecorded, hinactive]

/-- The step lemma, for an error of any code. -/
theorem phaseInvariant_step {past : List FaultOperation}
    (h : PhaseInvariant past
      (run FaultOperation.apply lightFaultStateReset past))
    (operation : FaultOperation) :
    PhaseInvariant (past ++ [operation])
      (operation.apply (run FaultOperation.apply lightFaultStateReset past)) := by
  cases operation with
  | recordError errorCode => exact phaseInvariant_recordError h errorCode
  | clearActive => exact phaseInvariant_clearActive h
  | observeRecoveryAt nowMs =>
      obtain ⟨hcounters, hlifecycle, hmode⟩ := observeRecoveryAt_active_frame
        (run FaultOperation.apply lightFaultStateReset past) nowMs
      exact h.quiet rfl (recordedSinceClear_concat past _) hcounters hlifecycle hmode
  | observeRecovery =>
      obtain ⟨hcounters, hlifecycle, hmode⟩ := observeRecoveryAt_active_frame
        (openRecoveryWindow (run FaultOperation.apply lightFaultStateReset past))
        (recoveryObservationTime
          (run FaultOperation.apply lightFaultStateReset past))
      exact h.quiet rfl (recordedSinceClear_concat past _) hcounters hlifecycle hmode

theorem phaseInvariant_run (operations : List FaultOperation) :
    PhaseInvariant operations
      (run FaultOperation.apply lightFaultStateReset operations) :=
  run_history_invariant lightFaultStateReset PhaseInvariant phaseInvariant_reset
    (fun _ operation h => phaseInvariant_step h operation) operations

theorem FaultMode.eq_safeMode_of_le {mode : FaultMode} (h : .safeMode ≤ mode) :
    mode = .safeMode := by
  cases mode with
  | safeMode => rfl
  | normal => exact absurd h (by decide)
  | warn => exact absurd h (by decide)
  | degraded => exact absurd h (by decide)

/-- Three mode conflicts in a row. -/
def conflictBurst : List UInt8 := List.replicate 3 LightErr.modeConflict

section Derived

variable {codes : List UInt8} (hlength : codes.length < 2 ^ 32)
include hlength

theorem two_le_hwStateErrors_iff :
    2 ≤ (countedErrors codes).hwStateErrors ↔
      2 ≤ codes.count LightErr.hwStateErr := by
  have hcount : (countedErrors codes).hwStateErrors.toNat =
      codes.count LightErr.hwStateErr :=
    errorCounter_countedErrors (Or.inr (Or.inr (Or.inr rfl))) codes hlength
  rw [← hcount, UInt32.le_iff_toNat_le]
  rfl

theorem derived_safeMode_iff :
    deriveMode (countedErrors codes) = .safeMode ↔
      2 ≤ codes.count LightErr.hwStateErr := by
  have hsafe := safeMode_le_deriveMode_iff (countedErrors codes)
  rw [two_le_hwStateErrors_iff hlength] at hsafe
  rw [← hsafe]
  cases deriveMode (countedErrors codes) <;> decide

theorem degraded_le_derived_iff :
    .degraded ≤ deriveMode (countedErrors codes) ↔
      2 ≤ codes.count LightErr.hwStateErr ∨ conflictBurst <:+ codes := by
  have hstreak : 3 ≤ (countedErrors codes).consecutiveModeConflicts ↔
      conflictBurst <:+ codes := by
    rw [conflictBurst, ← le_streak_iff, ← streak_countedErrors codes hlength,
      UInt32.le_iff_toNat_le]
    rfl
  rw [degraded_le_deriveMode_iff, two_le_hwStateErrors_iff hlength, hstreak]

theorem warn_le_derived_of_recognised {errorCode : UInt8}
    (hmember : errorCode ∈ codes) (hcode : RecognisedError errorCode) :
    .warn ≤ deriveMode (countedErrors codes) := by
  have hcounted := errorCounter_countedErrors hcode codes hlength
  have hpositive : 0 < codes.count errorCode := List.count_pos_iff.mpr hmember
  rw [warn_le_deriveMode_iff]
  rintro ⟨-, hspeed, hconflict, hinvalid, hhardware⟩
  have hzero : errorCounter (countedErrors codes) errorCode = 0 := by
    rcases hcode with rfl | rfl | rfl | rfl
    · exact hspeed
    · exact hconflict
    · exact hinvalid
    · exact hhardware
  rw [hzero] at hcounted
  have hnone : (0 : UInt32).toNat = 0 := rfl
  omega

end Derived

/-- The mode an active phase stands in, against the codes recorded in it and
the recovery it may have interrupted. -/
structure EscalationExact (operations : List FaultOperation)
    (recorded : List UInt8) (mode : FaultMode) : Prop where
  hardware : 2 ≤ recorded.count LightErr.hwStateErr → mode = .safeMode
  conflicts : conflictBurst <:+ recorded → .degraded ≤ mode
  recognised : (∃ errorCode ∈ recorded, RecognisedError errorCode) → .warn ≤ mode
  safe_only : mode = .safeMode →
    2 ≤ recorded.count LightErr.hwStateErr ∨
      InterruptedRecovery operations .safeMode
  degraded_only : .degraded ≤ mode →
    2 ≤ recorded.count LightErr.hwStateErr ∨
      (∃ codes, codes <+: recorded ∧ conflictBurst <:+ codes) ∨
      ∃ standing, .degraded ≤ standing ∧ InterruptedRecovery operations standing

theorem PhaseInvariant.escalationExact {operations : List FaultOperation}
    {state : LightFaultState} (h : PhaseInvariant operations state)
    (hactive : state.lifecycle = .active)
    (hlength : (recordedSinceClear operations).length < 2 ^ 32) :
    EscalationExact operations (recordedSinceClear operations) state.mode := by
  have hderived := h.derived hactive
  rw [h.counted] at hderived
  generalize hrecorded : recordedSinceClear operations = recorded at hderived hlength ⊢
  have hleast : deriveMode (countedErrors recorded) ≤ state.mode := by
    rcases hderived with heq | ⟨mode, -, heq⟩
    · exact heq.ge
    · rw [heq]
      exact le_max_right _ _
  refine ⟨?_, ?_, ?_, ?_, ?_⟩
  · intro hhardware
    have hsafe := (derived_safeMode_iff hlength).mpr hhardware
    exact FaultMode.eq_safeMode_of_le (hsafe ▸ hleast)
  · intro hburst
    exact le_trans ((degraded_le_derived_iff hlength).mpr (Or.inr hburst)) hleast
  · rintro ⟨errorCode, hmember, hcode⟩
    exact le_trans (warn_le_derived_of_recognised hlength hmember hcode) hleast
  · intro hsafe
    rw [hsafe] at hderived
    rcases hderived with heq | ⟨mode, hinterrupted, heq⟩
    · exact Or.inl ((derived_safeMode_iff hlength).mp heq.symm)
    · rcases max_choice mode (deriveMode (countedErrors recorded)) with hmax | hmax
      · rw [hmax] at heq
        exact Or.inr (heq ▸ hinterrupted)
      · rw [hmax] at heq
        exact Or.inl ((derived_safeMode_iff hlength).mp heq.symm)
  · intro hdegraded
    have hreached : .degraded ≤ deriveMode (countedErrors recorded) ∨
        ∃ standing, .degraded ≤ standing ∧
          InterruptedRecovery operations standing := by
      rcases hderived with heq | ⟨mode, hinterrupted, heq⟩
      · exact Or.inl (heq ▸ hdegraded)
      · rw [heq, le_max_iff] at hdegraded
        rcases hdegraded with hstanding | hcodes
        · exact Or.inr ⟨mode, hstanding, hinterrupted⟩
        · exact Or.inl hcodes
    rcases hreached with hcodes | hstanding
    · rcases (degraded_le_derived_iff hlength).mp hcodes with hhardware | hburst
      · exact Or.inl hhardware
      · exact Or.inr (Or.inl ⟨recorded, List.prefix_rfl, hburst⟩)
    · exact Or.inr (Or.inr hstanding)

/-- Every run that records fewer than 2^32 errors, at every point where some
were recorded since the last effective clear: the phase is ACTIVE, and its
mode misses no threshold and claims none that was not reached. -/
theorem escalation_exact (operations : List FaultOperation)
    (hcount : (recordedCodes operations).length < 2 ^ 32)
    (hphase : recordedSinceClear operations ≠ []) :
    let final := run FaultOperation.apply lightFaultStateReset operations
    final.lifecycle = .active ∧
      EscalationExact operations (recordedSinceClear operations) final.mode := by
  have hinvariant := phaseInvariant_run operations
  have hactive := hinvariant.active_iff.mpr hphase
  have hlength := (recordedSinceClear_suffix operations).length_le
  exact ⟨hactive, hinvariant.escalationExact hactive (by omega)⟩

/-- A speed fault that interrupts a recovery in SAFE_MODE. -/
theorem escalation_exact_interrupted :
    let operations : List FaultOperation :=
      [.recordError LightErr.hwStateErr, .recordError LightErr.hwStateErr,
        .clearActive, .recordError LightErr.speedLimit]
    let final := run FaultOperation.apply lightFaultStateReset operations
    final.lifecycle = .active ∧
      EscalationExact operations (recordedSinceClear operations) final.mode :=
  escalation_exact _ (by decide) (by decide)

end LightCtrl
