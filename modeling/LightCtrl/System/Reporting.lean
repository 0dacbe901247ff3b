import LightCtrl.Domains.Faultmg
import LightCtrl.Domains.Lightctl
import LightCtrl.Domains.Scheduler
import LightCtrl.Library.Signals

/-!
Error reports from lightctl to faultmg. lightctl stores the code in its own
message register zero and notifies; the notification only sets the flag of the
channel, and faultmg reads message register zero of its own. faultmg may run
between two actions of one `sync_outputs`, so the loop is taken apart here into
one event an action. The codes reported are the guard's verdicts along a run, the
codes recorded are read off faultmg's memory.
-/

namespace LightCtrl

open Runs

/-- Both domains and the flag of the channel between them. `remaining` are the
actions left in the loop of `sync_outputs`, none outside of it. -/
structure ReportingState where
  lightctl : LightctlMemory
  remaining : List GpioAction
  faultmg : FaultmgMemory
  pending : Bool

def reportingInit (shmem : LightShmem) (faultModeSlot : UInt8) :
    ReportingState where
  lightctl := lightctlInit
  remaining := []
  faultmg := (faultmgInit shmem faultModeSlot).memory
  pending := false

/-- lightctl enters `notified`, lightctl takes the next action of its loop, or
faultmg runs `notified`. What is read from shared memory, from the input buffer
and from message register zero is part of the event. -/
inductive ReportingEvent where
  | lightctlWakes (channel : MicrokitChannel) (targetOutput : LightTargetOutput)
      (faultMode : UInt8)
  | lightctlActs (vehicleSpeed : UInt16)
  | faultmgWakes (channel : MicrokitChannel) (mr0 : UInt64)
      (message : LightTransportMessage)

/-- The code `guard_allows_action` reports when it denies the action. -/
def deniedCode? (vehicleSpeed : UInt16) (faultMode : UInt8)
    (state : LightExecutionState) (action : GpioAction) : Option UInt8 :=
  let result := guardVerdict vehicleSpeed faultMode state action
  if result.allowed then none
  else if result.reportFault then some result.errorCode
  else none

/-- The code lightctl reports: of a denied action, or for an unknown channel. -/
def ReportingEvent.report? (state : ReportingState) : ReportingEvent → Option UInt8
  | .lightctlWakes channel _ _ =>
      if state.remaining = [] ∧ channel ≠ LightCh.lightctlFromScheduler then
        some LightErr.invalidCmd
      else none
  | .lightctlActs vehicleSpeed =>
      state.remaining.head?.bind
        (deniedCode? vehicleSpeed state.lightctl.faultModeCache
          state.lightctl.executionState)
  | .faultmgWakes _ _ _ => none

/-- lightctl takes no notification inside its loop, and faultmg runs for the
channel only when its flag is set, which it clears. -/
def ReportingEvent.step (state : ReportingState) (event : ReportingEvent) :
    ReportingState :=
  match event with
  | .lightctlWakes channel targetOutput faultMode =>
      if state.remaining = [] ∧ channel = LightCh.lightctlFromScheduler then
        { state with
          lightctl := { state.lightctl with faultModeCache := faultMode }
          remaining := plannedActions state.lightctl.executionState targetOutput }
      else { state with pending := state.pending || (event.report? state).isSome }
  | .lightctlActs vehicleSpeed =>
      match state.remaining with
      | [] => state
      | action :: rest =>
          { state with
            lightctl := { state.lightctl with
              executionState := syncIteration vehicleSpeed
                state.lightctl.faultModeCache state.lightctl.executionState action }
            remaining := rest
            pending := state.pending || (event.report? state).isSome }
  | .faultmgWakes channel mr0 message =>
      let faultmg := (faultmgNotified channel mr0 message state.faultmg).memory
      if channel ≠ LightCh.faultmgFromLightctl then { state with faultmg := faultmg }
      else if state.pending then { state with faultmg := faultmg, pending := false }
      else state

/-- The code faultmg has recorded between two of its memories: the last one, if its
count of errors moved. -/
def FaultmgMemory.recordedCode? (before after : FaultmgMemory) : Option UInt8 :=
  if after.totalErrorCount = before.totalErrorCount then none
  else some after.faultState.lastFaultCode

/-- The code faultmg records from the channel of lightctl. -/
def ReportingEvent.recorded? (state : ReportingState) (event : ReportingEvent) :
    Option UInt8 :=
  match event with
  | .faultmgWakes channel _ _ =>
      if channel = LightCh.faultmgFromLightctl then
        state.faultmg.recordedCode? (event.step state).faultmg
      else none
  | _ => none

def codesReported (start : ReportingState) (events : List ReportingEvent) : List UInt8 :=
  outputs ReportingEvent.step (fun state event => (event.report? state).toList) start
    events

def codesRecorded (start : ReportingState) (events : List ReportingEvent) : List UInt8 :=
  outputs ReportingEvent.step (fun state event => (event.recorded? state).toList) start
    events

/-- Once faultmg has handled every notification, the codes it recorded are those
that lightctl reported. -/
def ReportsDelivered (start : ReportingState) (events : List ReportingEvent) : Prop :=
  (run ReportingEvent.step start events).pending = false →
    codesRecorded start events = codesReported start events

/-- Between a report and the wake-up that handles its notification lightctl reports
nothing else, and at that wake-up faultmg's own register zero holds the code. -/
def ReportsAlone (start : ReportingState) (events : List ReportingEvent) : Prop :=
  ∀ before event between mr0 message after code,
    events = before ++ event ::
        (between ++ .faultmgWakes LightCh.faultmgFromLightctl mr0 message :: after) →
      event.report? (run ReportingEvent.step start before) = some code →
      (∀ mr0 message,
        .faultmgWakes LightCh.faultmgFromLightctl mr0 message ∉ between) →
        codesReported (run ReportingEvent.step start (before ++ [event])) between = [] ∧
          mr0.toUInt8 = code

section Records

/-- Each report that faultmg handles moves the count and is the last code. -/
theorem recordedCode?_report (memory : FaultmgMemory) (mr0 : UInt64)
    (message : LightTransportMessage) :
    memory.recordedCode? (faultmgNotified LightCh.faultmgFromLightctl mr0 message
      memory).memory = some mr0.toUInt8 := by
  have hcount : memory.totalErrorCount + 1 ≠ memory.totalErrorCount := by
    intro hsame
    simp at hsame
  exact if_neg hcount

/-- What an event does to the notification. -/
def ReportingEvent.signal? (state : ReportingState) (event : ReportingEvent) :
    Option (Signals.Event UInt8) :=
  match event with
  | .faultmgWakes channel mr0 _ =>
      if channel = LightCh.faultmgFromLightctl then some (.handle mr0.toUInt8) else none
  | _ => (event.report? state).map .send

/-- The step lemma: the notification of the library follows the flag, what lightctl
reports and what faultmg records. -/
theorem step_mirrors (signal : Signals.Signal UInt8) {state : ReportingState}
    (hpending : signal.pending = state.pending) (event : ReportingEvent) :
    let next := (event.signal? state).elim signal (Signals.step signal)
    next.pending = (event.step state).pending ∧
      next.sent = signal.sent ++ (event.report? state).toList ∧
      next.received = signal.received ++ (event.recorded? state).toList := by
  cases event with
  | lightctlWakes channel targetOutput faultMode =>
      simp only [ReportingEvent.signal?, ReportingEvent.report?, ReportingEvent.step,
        ReportingEvent.recorded?]
      by_cases hidle : state.remaining = []
      · by_cases hchannel : channel = LightCh.lightctlFromScheduler
        · simp [hidle, hchannel, hpending]
        · simp [hidle, hchannel, Signals.step]
      · simp [hidle, hpending]
  | lightctlActs vehicleSpeed =>
      simp only [ReportingEvent.signal?, ReportingEvent.report?, ReportingEvent.step,
        ReportingEvent.recorded?]
      cases state.remaining with
      | nil => simp [hpending]
      | cons action rest =>
          simp only [List.head?_cons, Option.bind_some]
          cases deniedCode? vehicleSpeed state.lightctl.faultModeCache
            state.lightctl.executionState action with
          | none => simp [hpending]
          | some code => simp [Signals.step]
  | faultmgWakes channel mr0 message =>
      by_cases hchannel : channel = LightCh.faultmgFromLightctl
      · subst hchannel
        have hrecorded := recordedCode?_report state.faultmg mr0 message
        cases hflag : state.pending with
        | true =>
            simp [ReportingEvent.signal?, ReportingEvent.report?, ReportingEvent.step,
              ReportingEvent.recorded?, Signals.step, hpending, hflag, hrecorded]
        | false =>
            simp [ReportingEvent.signal?, ReportingEvent.report?, ReportingEvent.step,
              ReportingEvent.recorded?, Signals.step, hpending, hflag,
              FaultmgMemory.recordedCode?]
      · simp [ReportingEvent.signal?, ReportingEvent.report?, ReportingEvent.step,
          ReportingEvent.recorded?, hchannel, hpending]

/-- The notification after a run from init. -/
theorem signalAfter_mirrors (shmem : LightShmem) (faultModeSlot : UInt8)
    (events : List ReportingEvent) :
    let start := reportingInit shmem faultModeSlot
    let signal := Signals.signalAfter ReportingEvent.step ReportingEvent.signal? start
      events
    signal.pending = (run ReportingEvent.step start events).pending ∧
      signal.sent = codesReported start events ∧
      signal.received = codesRecorded start events := by
  intro start
  induction events using List.reverseRecOn with
  | nil => exact ⟨rfl, rfl, rfl⟩
  | append_singleton past event ih =>
      obtain ⟨hpending, hsent, hreceived⟩ := ih
      obtain ⟨hnext, hreport, hrecord⟩ := step_mirrors _ hpending event
      simp only [Signals.signalAfter_concat, run_concat]
      refine ⟨hnext, hreport.trans ?_, hrecord.trans ?_⟩
      · rw [hsent, codesReported, codesReported, outputs_append]
        simp [outputs]
      · rw [hreceived, codesRecorded, codesRecorded, outputs_append]
        simp [outputs]

end Records

section Delivery

variable (state : ReportingState)

theorem signal?_send_iff (event : ReportingEvent) (code : UInt8) :
    event.signal? state = some (.send code) ↔ event.report? state = some code := by
  cases event with
  | lightctlWakes channel targetOutput faultMode =>
      simp [ReportingEvent.signal?, ReportingEvent.report?]
  | lightctlActs vehicleSpeed => simp [ReportingEvent.signal?]
  | faultmgWakes channel mr0 message =>
      simp only [ReportingEvent.signal?, ReportingEvent.report?]
      split_ifs <;> simp

theorem signal?_handle_iff (event : ReportingEvent) (read : UInt8) :
    event.signal? state = some (.handle read) ↔ ∃ mr0 message,
      event = .faultmgWakes LightCh.faultmgFromLightctl mr0 message ∧
        mr0.toUInt8 = read := by
  cases event with
  | lightctlWakes channel targetOutput faultMode => simp [ReportingEvent.signal?]
  | lightctlActs vehicleSpeed => simp [ReportingEvent.signal?]
  | faultmgWakes channel mr0 message =>
      by_cases hchannel : channel = LightCh.faultmgFromLightctl
      · simp [ReportingEvent.signal?, hchannel]
      · simp [ReportingEvent.signal?, hchannel]

/-- Without a wake-up of faultmg from lightctl only reports come up. -/
theorem emitted_sends_iff (events : List ReportingEvent) :
    (∀ sent ∈ Signals.emitted ReportingEvent.step ReportingEvent.signal? state events,
        sent.sent?.isSome = true) ↔
      ∀ mr0 message, .faultmgWakes LightCh.faultmgFromLightctl mr0 message ∉ events := by
  induction events generalizing state with
  | nil => simp [Signals.emitted, outputs]
  | cons event rest ih =>
      have hevent : (∀ sent ∈ (event.signal? state).toList, sent.sent?.isSome = true) ↔
          ∀ mr0 message, .faultmgWakes LightCh.faultmgFromLightctl mr0 message ≠ event := by
        cases hsignal : event.signal? state with
        | none =>
            refine iff_of_true (by simp) ?_
            rintro mr0 message rfl
            simp [ReportingEvent.signal?] at hsignal
        | some signal =>
            cases signal with
            | send code =>
                refine iff_of_true (by simp [Signals.Event.sent?]) ?_
                rintro mr0 message rfl
                simp [ReportingEvent.signal?] at hsignal
            | handle read =>
                obtain ⟨mr0, message, rfl, -⟩ :=
                  (signal?_handle_iff state event read).mp hsignal
                simp [Signals.Event.sent?]
      simp only [Signals.emitted, outputs, List.forall_mem_append, List.mem_cons, not_or]
      rw [hevent]
      have hrest := ih (event.step state)
      rw [Signals.emitted] at hrest
      rw [hrest]
      exact ⟨fun h mr0 message => ⟨h.1 mr0 message, h.2 mr0 message⟩,
        fun h => ⟨fun mr0 message => (h mr0 message).1,
          fun mr0 message => (h mr0 message).2⟩⟩

theorem emitted_reports (events : List ReportingEvent) :
    (Signals.emitted ReportingEvent.step ReportingEvent.signal? state events).filterMap
      Signals.Event.sent? = codesReported state events := by
  rw [Signals.emitted, outputs_filterMap, codesReported]
  congr 1
  funext current event
  cases hsignal : event.signal? current with
  | none =>
      have hnone : event.report? current = none := by
        cases hreport : event.report? current with
        | none => rfl
        | some code =>
            rw [(signal?_send_iff current event code).mpr hreport] at hsignal
            cases hsignal
      rw [hnone]
      rfl
  | some signal =>
      cases signal with
      | send code =>
          rw [(signal?_send_iff current event code).mp hsignal]
          rfl
      | handle read =>
          obtain ⟨mr0, message, rfl, -⟩ :=
            (signal?_handle_iff current event read).mp hsignal
          rfl

/-- Seen from the notification: lightctl sends what it reports, and a wake-up of
faultmg from lightctl handles. -/
theorem alone_iff (start : ReportingState) (events : List ReportingEvent) :
    Signals.Alone ReportingEvent.step ReportingEvent.signal? start events ↔
      ReportsAlone start events := by
  constructor
  · intro halone before event between mr0 message after code heq hreport hbetween
    have hhandle := (signal?_handle_iff (run ReportingEvent.step start
      (before ++ event :: between)) _ _).mpr ⟨mr0, message, rfl, rfl⟩
    obtain ⟨hnone, hread⟩ := halone before event between _ after code _ heq
      ((signal?_send_iff _ event code).mpr hreport) hhandle
      ((emitted_sends_iff _ between).mpr hbetween)
    rw [← emitted_reports, hnone]
    exact ⟨rfl, hread⟩
  · intro halone before event between last after code read heq hsend hhandle hbetween
    obtain ⟨mr0, message, rfl, rfl⟩ := (signal?_handle_iff _ last read).mp hhandle
    obtain ⟨hnone, hread⟩ := halone before event between mr0 message after code heq
      ((signal?_send_iff _ event code).mp hsend)
      ((emitted_sends_iff _ between).mp hbetween)
    obtain ⟨values, hvalues⟩ := Signals.exists_sends hbetween
    rw [← emitted_reports, hvalues] at hnone
    have hempty : values = [] := by
      simpa [List.filterMap_map, Function.comp_def, Signals.Event.sent?] using hnone
    rw [hvalues, hempty]
    exact ⟨rfl, hread⟩

/-- In a run from init, in any interleaving: the codes faultmg recorded are those
lightctl reported whenever no notification is left to handle, exactly when each
report is alone as its notification is handled and faultmg's own register zero then
holds its code. -/
theorem reports_delivered_throughout_iff (shmem : LightShmem)
    (faultModeSlot : UInt8) (events : List ReportingEvent) :
    (∀ past, past <+: events → ReportsDelivered (reportingInit shmem faultModeSlot) past) ↔
      ReportsAlone (reportingInit shmem faultModeSlot) events := by
  rw [← alone_iff, ← Signals.delivered_iff_alone]
  refine forall_congr' fun past => imp_congr_right fun _ => ?_
  obtain ⟨hpending, hsent, hreceived⟩ := signalAfter_mirrors shmem faultModeSlot past
  rw [ReportsDelivered, Signals.Delivered, hpending, hsent, hreceived]

/-- Hazard lights while the brake pedal is pressed: the guard denies the left
turn lamp and reports MODE_CONFLICT, and with zero in its own register faultmg
records the code zero. -/
theorem denial_recorded_as_zero :
    let vehicleState := { lightVehicleStateDefault with
      hazard := 1, brakePedal := 1 }
    let targetOutput := lightControlComputeTargetOutput lightOperatorRequestInit
      vehicleState FaultMode.normal.toByte
    let start := reportingInit lightShmemZeroed 0
    let events := [.lightctlWakes LightCh.lightctlFromScheduler targetOutput
        FaultMode.normal.toByte,
      .lightctlActs vehicleState.speedKph, .lightctlActs vehicleState.speedKph,
      .faultmgWakes LightCh.faultmgFromLightctl 0 makeQueryMessage]
    let faultmg := (run ReportingEvent.step start events).faultmg
    codesReported start events = [LightErr.modeConflict] ∧
      codesRecorded start events = [0] ∧
      faultmg.totalErrorCount = 1 ∧ faultmg.faultState.lastFaultCode = 0 ∧
      faultmg.faultState.activeFaultMask = 0 ∧
      ¬ ReportsDelivered start events := by
  refine ⟨by decide +kernel, by decide +kernel, by decide +kernel, by decide +kernel,
    by decide +kernel, ?_⟩
  intro hdelivered
  exact absurd (hdelivered (by decide +kernel)) (by decide +kernel)

/-- Nothing is made up: in every run faultmg records at most as many codes as
lightctl reported. -/
theorem recorded_le_reported (shmem : LightShmem) (faultModeSlot : UInt8)
    (events : List ReportingEvent) :
    (codesRecorded (reportingInit shmem faultModeSlot) events).length ≤
      (codesReported (reportingInit shmem faultModeSlot) events).length := by
  obtain ⟨-, hsent, hreceived⟩ := signalAfter_mirrors shmem faultModeSlot events
  rw [← hsent, ← hreceived]
  exact Signals.received_le_sent _

end Delivery

end LightCtrl
