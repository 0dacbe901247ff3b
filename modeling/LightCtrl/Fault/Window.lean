import LightCtrl.Fault.Operations

/-!
How early a recovery on the clock may step down. The window start is a single
millisecond count in which zero means that no window is open. The invariant
traces a non-zero start back to the observation that wrote it: everything the
run did since then belongs to one recovery that no error and no step down has
interrupted.
-/

namespace LightCtrl

open Runs

/-- The operation reads the clock itself and does not make a reading up. -/
def FaultOperation.Timed : FaultOperation → Prop
  | .observeRecovery => False
  | _ => True

instance : ∀ operation : FaultOperation, Decidable operation.Timed
  | .recordError _ => isTrue trivial
  | .clearActive => isTrue trivial
  | .observeRecovery => isFalse id
  | .observeRecoveryAt _ => isTrue trivial

/-- A recovery is running, and the operation neither records an error nor
steps the mode down. -/
structure Uninterrupted (state : LightFaultState)
    (operation : FaultOperation) : Prop where
  recovering : state.lifecycle = .recovering
  no_error : ∀ errorCode, operation ≠ .recordError errorCode
  no_step : (operation.apply state).mode = state.mode

/-- The run observed a recovery at `openedMs`, and that recovery goes on
uninterrupted to the end of the run. -/
def ObservedAt (operations : List FaultOperation) (openedMs : UInt32) : Prop :=
  ∃ earlier since,
    operations = earlier ++ .observeRecoveryAt openedMs :: since ∧
      (run FaultOperation.apply lightFaultStateReset earlier).lifecycle =
        .recovering ∧
      EveryStep FaultOperation.apply Uninterrupted
        (run FaultOperation.apply lightFaultStateReset
          (earlier ++ [.observeRecoveryAt openedMs])) since

/-- An open window belongs to a running recovery with an empty mask, and its
start is the clock of an observation of that recovery. -/
def WindowTraced (operations : List FaultOperation)
    (state : LightFaultState) : Prop :=
  state.recoveryWindowStartMs ≠ 0 →
    state.lifecycle = .recovering ∧ state.activeFaultMask = 0 ∧
      ∃ openedMs, state.recoveryWindowStartMs = windowStart openedMs ∧
        ObservedAt operations openedMs

theorem windowStart_toNat (nowMs : UInt32) :
    (windowStart nowMs).toNat = max nowMs.toNat 1 := by
  unfold windowStart
  split_ifs with hzero
  · subst hzero
    rfl
  · have hpositive : nowMs.toNat ≠ 0 := fun h => hzero (UInt32.toNat_inj.mp h)
    omega

/-- Readings are compared as numbers, not around the wrap. -/
theorem recoveryElapsed_lt_window_iff (state : LightFaultState) (nowMs : UInt32) :
    recoveryElapsed state nowMs < lightFaultRecoveryWindowMs ↔
      nowMs.toNat < state.recoveryWindowStartMs.toNat + 2000 := by
  have hwindow : lightFaultRecoveryWindowMs.toNat = 2000 := rfl
  unfold recoveryElapsed
  rw [UInt32.lt_iff_toNat_lt, hwindow]
  split_ifs with hle
  · rw [UInt32.le_iff_toNat_le] at hle
    rw [UInt32.toNat_zero]
    omega
  · rw [UInt32.not_le, UInt32.lt_iff_toNat_lt] at hle
    have hsub := UInt32.toNat_sub_of_le nowMs state.recoveryWindowStartMs
      (UInt32.le_iff_toNat_le.mpr hle.le)
    rw [hsub]
    omega

/-- A satisfied window is a full window on the clock, counted without
wrapping. -/
theorem WindowSatisfied.start_add_le {state : LightFaultState} {nowMs : UInt32}
    (h : WindowSatisfied state nowMs) :
    state.recoveryWindowStartMs.toNat + 2000 ≤ nowMs.toNat :=
  Nat.not_lt.mp ((recoveryElapsed_lt_window_iff state nowMs).not.mp h.elapsed)

theorem faultModeStepDown_value {mode : FaultMode}
    (h : faultModeStepDown mode ≠ mode) :
    (faultModeStepDown mode).value + 1 = mode.value := by
  cases mode with
  | normal => exact absurd rfl h
  | warn => rfl
  | degraded => rfl
  | safeMode => rfl

/-- The observation that opens a window, or opens the next one, is its own
trace. -/
private theorem observedAt_concat {past : List FaultOperation} {nowMs : UInt32}
    (hrecovering : (run FaultOperation.apply lightFaultStateReset past).lifecycle
      = .recovering) :
    ObservedAt (past ++ [.observeRecoveryAt nowMs]) nowMs :=
  ⟨past, [], rfl, hrecovering, trivial⟩

/-- An operation that does not interrupt the recovery keeps its trace. -/
private theorem ObservedAt.concat {past : List FaultOperation}
    {openedMs : UInt32} (h : ObservedAt past openedMs)
    {operation : FaultOperation}
    (hoperation : Uninterrupted
      (run FaultOperation.apply lightFaultStateReset past) operation) :
    ObservedAt (past ++ [operation]) openedMs := by
  obtain ⟨earlier, since, rfl, hrecovering, hsince⟩ := h
  refine ⟨earlier, since ++ [operation], by simp, hrecovering, ?_⟩
  rw [everyStep_append]
  refine ⟨hsince, ?_, trivial⟩
  rw [← run_append]
  simpa using hoperation

theorem windowTraced_step {past : List FaultOperation}
    (h : WindowTraced past (run FaultOperation.apply lightFaultStateReset past))
    {operation : FaultOperation} (htimed : operation.Timed) :
    WindowTraced (past ++ [operation])
      (operation.apply (run FaultOperation.apply lightFaultStateReset past)) := by
  set state := run FaultOperation.apply lightFaultStateReset past with hstate
  cases operation with
  | recordError errorCode =>
      intro hopen
      exact absurd rfl hopen
  | clearActive =>
      by_cases hmask : state.activeFaultMask = 0
      · have hsame : FaultOperation.clearActive.apply state = state :=
          clearActive_of_mask_zero state hmask
        rw [hsame]
        intro hopen
        obtain ⟨hrecovering, -, openedMs, hstart, hobserved⟩ := h hopen
        refine ⟨hrecovering, hmask, openedMs, hstart, hobserved.concat ?_⟩
        exact ⟨hrecovering, by simp, by rw [← hstate, hsame]⟩
      · intro hopen
        simp [FaultOperation.apply, clearActive_of_mask_ne state hmask] at hopen
  | observeRecoveryAt nowMs =>
      have houtcome := observeRecoveryAt_outcome state nowMs
      have hresult : FaultOperation.apply state (.observeRecoveryAt nowMs) =
          (lightFaultModeObserveRecoveryAt state nowMs).1 := rfl
      rw [hresult]
      generalize hnext : (lightFaultModeObserveRecoveryAt state nowMs).1 = next
        at houtcome ⊢
      have hkept (hrecovering : state.lifecycle = .recovering)
          (hmode : next.mode = state.mode) :
          Uninterrupted state (.observeRecoveryAt nowMs) :=
        ⟨hrecovering, by simp, by rw [hresult, hnext, hmode]⟩
      cases houtcome with
      | ignored hidle =>
          intro hopen
          obtain ⟨hrecovering, hmask, -⟩ := h hopen
          exact absurd hidle (by simp [hrecovering, hmask])
      | opened hrecovering hmask _ =>
          intro _
          exact ⟨hrecovering, hmask, nowMs, rfl, observedAt_concat hrecovering⟩
      | progressed hrecovering hmask hstart _ =>
          intro _
          obtain ⟨-, -, openedMs, hopened, hobserved⟩ := h hstart
          exact ⟨hrecovering, hmask, openedMs, hopened,
            hobserved.concat (hkept hrecovering rfl)⟩
      | stepped hwindow =>
          intro hopen
          -- the step down that ends in NORMAL closes the window for good
          rcases steppedDown_outcome hwindow.lifecycle nowMs with
            ⟨-, hnormal⟩ | ⟨hrecovering, habove⟩
          · exact absurd (if_pos hnormal) hopen
          · exact ⟨hrecovering, hwindow.mask, nowMs, if_neg habove,
              observedAt_concat hwindow.lifecycle⟩
  | observeRecovery => exact absurd htimed (by simp [FaultOperation.Timed])

theorem windowTraced_run (operations : List FaultOperation)
    (htimed : ∀ operation ∈ operations, operation.Timed) :
    WindowTraced operations
      (run FaultOperation.apply lightFaultStateReset operations) := by
  revert htimed
  refine run_history_invariant lightFaultStateReset
    (fun past state => (∀ operation ∈ past, operation.Timed) →
      WindowTraced past state) ?_ ?_ operations
  · intro _ hopen
    exact absurd rfl hopen
  · intro past operation ih htimed
    simp only [List.forall_mem_append, List.forall_mem_singleton] at htimed
    exact windowTraced_step (ih htimed.1) htimed.2

/-- What an observation on the clock may do after a run: leave the mode, or
lower it by one level a full window after an observation of the same
recovery. -/
def StepsDownInTime (operations : List FaultOperation) (nowMs : UInt32) : Prop :=
  let before := run FaultOperation.apply lightFaultStateReset operations
  let after := (lightFaultModeObserveRecoveryAt before nowMs).1
  after.mode ≠ before.mode →
    after.mode.value + 1 = before.mode.value ∧
      ∃ openedMs, ObservedAt operations openedMs ∧
        max openedMs.toNat 1 + 2000 ≤ nowMs.toNat

theorem stepsDownInTime_of_traced {operations : List FaultOperation}
    (h : WindowTraced operations
      (run FaultOperation.apply lightFaultStateReset operations))
    (nowMs : UInt32) : StepsDownInTime operations nowMs := by
  unfold StepsDownInTime
  intro before after hchanged
  have htraced : WindowTraced operations before := h
  have houtcome : ObserveOutcome before nowMs after :=
    observeRecoveryAt_outcome before nowMs
  clear_value after before
  cases houtcome with
  | ignored _ => exact absurd rfl hchanged
  | opened _ _ _ => exact absurd rfl hchanged
  | progressed _ _ _ _ => exact absurd rfl hchanged
  | stepped hwindow =>
      obtain ⟨-, -, openedMs, hstart, hobserved⟩ := htraced hwindow.started
      refine ⟨faultModeStepDown_value hchanged, openedMs, hobserved, ?_⟩
      rw [← windowStart_toNat, ← hstart]
      exact hwindow.start_add_le

/-- After any run of errors, clears and observations at any clock readings, a
clear keeps the mode, and an observation steps down by one level only, and
only a full window after an earlier observation of the same recovery. -/
theorem elapsed_recovery_in_time (operations : List FaultOperation)
    (htimed : ∀ operation ∈ operations, operation.Timed) :
    let final := run FaultOperation.apply lightFaultStateReset operations
    (lightFaultModeClearActive final).1.mode = final.mode ∧
      ∀ nowMs, StepsDownInTime operations nowMs :=
  ⟨clearActive_mode _, stepsDownInTime_of_traced (windowTraced_run operations htimed)⟩

/-- From SAFE_MODE, with one step down at time 2001 and a clock that then goes
back. -/
theorem elapsed_recovery_in_time_safeMode :
    let operations : List FaultOperation :=
      [.recordError LightErr.hwStateErr, .recordError LightErr.hwStateErr,
        .clearActive, .observeRecoveryAt 0, .observeRecoveryAt 2001,
        .observeRecoveryAt 5]
    let final := run FaultOperation.apply lightFaultStateReset operations
    (lightFaultModeClearActive final).1.mode = final.mode ∧
      ∀ nowMs, StepsDownInTime operations nowMs :=
  elapsed_recovery_in_time _ (by decide)

end LightCtrl
