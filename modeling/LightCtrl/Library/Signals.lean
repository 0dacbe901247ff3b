import LightCtrl.Library.Runs

/-!
A binary notification that announces values. Sending sets the flag and takes
the value nowhere; handling clears the flag and yields whatever the receiver
reads on its own side. So the values received are the values sent exactly when
each notification that is handled stands for one value, and that one is read.
-/

namespace LightCtrl.Signals

open Runs

variable {α : Type*}

/-- `outstanding` holds the values sent since the flag was last handled; the lists
are kept only to be compared. -/
structure Signal (α : Type*) where
  pending : Bool
  outstanding : List α
  sent : List α
  received : List α
  deriving DecidableEq

inductive Event (α : Type*) where
  | send (value : α)
  | handle (read : α)

def Event.sent? : Event α → Option α
  | .send value => some value
  | .handle _ => none

def Signal.idle : Signal α := ⟨false, [], [], []⟩

/-- A flag that is not set is not handled. -/
def step (signal : Signal α) : Event α → Signal α
  | .send value =>
      { signal with
        pending := true
        outstanding := signal.outstanding ++ [value]
        sent := signal.sent ++ [value] }
  | .handle read =>
      if signal.pending then
        { signal with
          pending := false
          outstanding := []
          received := signal.received ++ [read] }
      else signal

/-- When no notification is left to handle, the values received are the values
sent. -/
def Delivered (signal : Signal α) : Prop :=
  signal.pending = false → signal.received = signal.sent

/-- The flag tells whether something is outstanding. -/
theorem flag_step {signal : Signal α}
    (h : signal.pending = false ↔ signal.outstanding = []) (event : Event α) :
    (step signal event).pending = false ↔ (step signal event).outstanding = [] := by
  cases event with
  | send value => simp [step]
  | handle read =>
      cases hpending : signal.pending with
      | false => simpa [step, hpending] using h.mp hpending
      | true => simp [step, hpending]

theorem flag_run (events : List (Event α)) :
    (run step Signal.idle events).pending = false ↔
      (run step (Signal.idle : Signal α) events).outstanding = [] :=
  run_invariant
    (fun signal : Signal α => signal.pending = false ↔ signal.outstanding = [])
    (fun _ event h => flag_step h event) Signal.idle
    (Iff.intro (fun _ => rfl) (fun _ => rfl)) events

/-- The values received and the ones still outstanding are the values sent. -/
structure Accounted (signal : Signal α) : Prop where
  flag : signal.pending = false ↔ signal.outstanding = []
  accounted : signal.received ++ signal.outstanding = signal.sent

theorem accounted_idle : Accounted (Signal.idle : Signal α) :=
  ⟨Iff.intro (fun _ => rfl) (fun _ => rfl), rfl⟩

theorem Accounted.delivered {signal : Signal α} (h : Accounted signal) :
    Delivered signal := by
  intro hidle
  rw [← h.accounted, h.flag.mp hidle, List.append_nil]

/-- The notification handled stands for one value, and this is the value read. -/
def SoleRead (signal : Signal α) : Event α → Prop
  | .send _ => True
  | .handle read => signal.pending = true → signal.outstanding = [read]

theorem Accounted.step {signal : Signal α} (h : Accounted signal) {event : Event α}
    (hsole : SoleRead signal event) : Accounted (step signal event) where
  flag := flag_step h.flag event
  accounted := by
    cases event with
    | send value =>
        simp only [Signals.step]
        rw [← h.accounted, List.append_assoc]
    | handle read =>
        cases hpending : signal.pending with
        | false =>
            simp only [Signals.step, hpending, Bool.false_eq_true, if_false]
            exact h.accounted
        | true =>
            simp only [Signals.step, hpending, if_true]
            rw [List.append_nil, ← hsole hpending, h.accounted]

/-- Nothing else leaves the receiver with the values sent. -/
theorem Accounted.soleRead {signal : Signal α} (h : Accounted signal) {event : Event α}
    (hdelivered : Delivered (Signals.step signal event)) : SoleRead signal event := by
  cases event with
  | send value => trivial
  | handle read =>
      intro hpending
      simp only [Signals.step, hpending, if_true, Delivered, forall_const] at hdelivered
      rw [← h.accounted] at hdelivered
      exact (List.append_cancel_left hdelivered).symm

/-- Only sends pile up. -/
theorem outstanding_sends (signal : Signal α) (values : List α) :
    (run step signal (values.map Event.send)).outstanding =
      signal.outstanding ++ values := by
  induction values generalizing signal with
  | nil => exact (List.append_nil _).symm
  | cons value rest ih =>
      rw [List.map_cons, run_cons, ih]
      simp [step]

theorem exists_sends {events : List (Event α)}
    (h : ∀ event ∈ events, event.sent?.isSome = true) :
    ∃ values : List α, events = values.map .send := by
  induction events with
  | nil => exact ⟨[], rfl⟩
  | cons event rest ih =>
      obtain ⟨hevent, hrest⟩ := List.forall_mem_cons.mp h
      obtain ⟨values, rfl⟩ := ih hrest
      cases event with
      | send value => exact ⟨value :: values, rfl⟩
      | handle read => exact absurd hevent Bool.noConfusion

/-- Whatever is read, no more values are received than were sent. -/
theorem received_le_sent (events : List (Event α)) :
    (run step Signal.idle events).received.length ≤
      (run step (Signal.idle : Signal α) events).sent.length := by
  have hcounted : ∀ signal : Signal α, ∀ event : Event α,
      signal.received.length + signal.pending.toNat ≤ signal.sent.length →
        (step signal event).received.length + (step signal event).pending.toNat ≤
          (step signal event).sent.length := by
    intro signal event h
    cases event with
    | send value =>
        simp only [step, List.length_append, List.length_singleton, Bool.toNat_true]
        omega
    | handle read =>
        cases hpending : signal.pending with
        | false => simpa [step, hpending] using h
        | true => simpa [step, hpending] using h
  have hrun := run_invariant
    (fun signal : Signal α =>
      signal.received.length + signal.pending.toNat ≤ signal.sent.length)
    hcounted Signal.idle (Nat.le_refl 0) events
  omega

section Machine

variable {σ ι : Type*} (transition : σ → ι → σ) (emit : σ → ι → Option (Event α))

/-- What a run of a machine does to the notification. -/
def emitted (start : σ) (inputs : List ι) : List (Event α) :=
  outputs transition (fun state input => (emit state input).toList) start inputs

def signalAfter (start : σ) (inputs : List ι) : Signal α :=
  run step Signal.idle (emitted transition emit start inputs)

/-- Between a send and the handling of its notification nothing else is sent, and
the value sent is the one read. -/
def Alone (start : σ) (inputs : List ι) : Prop :=
  ∀ before input between last after value read,
    inputs = before ++ input :: (between ++ last :: after) →
      emit (run transition start before) input = some (.send value) →
      emit (run transition start (before ++ input :: between)) last =
        some (.handle read) →
      (∀ event ∈ emitted transition emit (run transition start (before ++ [input])) between,
        event.sent?.isSome = true) →
        emitted transition emit (run transition start (before ++ [input])) between = [] ∧
          read = value

variable {transition emit} {start : σ} {inputs : List ι}

theorem emitted_split (before between : List ι) (input : ι) :
    emitted transition emit start (before ++ input :: between) =
      emitted transition emit start before ++
        ((emit (run transition start before) input).toList ++
          emitted transition emit (run transition start (before ++ [input])) between) := by
  rw [emitted, outputs_append, run_concat]
  rfl

theorem signalAfter_concat (past : List ι) (input : ι) :
    signalAfter transition emit start (past ++ [input]) =
      (emit (run transition start past) input).elim
        (signalAfter transition emit start past)
        (step (signalAfter transition emit start past)) := by
  rw [signalAfter, emitted_split, run_append, run_append]
  cases emit (run transition start past) input <;> rfl

/-- The account is kept as long as every handling is sole where it is reached with
the account kept. -/
private theorem accounted_of_past {past : List ι}
    (hsole : ∀ before input rest, past = before ++ input :: rest →
      Accounted (signalAfter transition emit start before) →
        ∀ event, emit (run transition start before) input = some event →
          SoleRead (signalAfter transition emit start before) event) :
    Accounted (signalAfter transition emit start past) := by
  induction past using List.reverseRecOn with
  | nil => exact accounted_idle
  | append_singleton past input ih =>
      have hpast := ih fun before first rest heq =>
        hsole before first (rest ++ [input]) (by simp [heq])
      rw [signalAfter_concat]
      cases hemit : emit (run transition start past) input with
      | none => exact hpast
      | some event => exact hpast.step (hsole past input [] rfl hpast event hemit)

theorem delivered_iff_soleRead :
    (∀ past, past <+: inputs → Delivered (signalAfter transition emit start past)) ↔
      ∀ past input rest, inputs = past ++ input :: rest →
        ∀ event, emit (run transition start past) input = some event →
          SoleRead (signalAfter transition emit start past) event := by
  constructor
  · intro hdelivered
    have hstep : ∀ past input rest, inputs = past ++ input :: rest →
        Accounted (signalAfter transition emit start past) →
          ∀ event, emit (run transition start past) input = some event →
            SoleRead (signalAfter transition emit start past) event := by
      rintro past input rest rfl haccounted event hemit
      refine haccounted.soleRead ?_
      have hnext := hdelivered (past ++ [input]) ⟨rest, by simp⟩
      rwa [signalAfter_concat, hemit] at hnext
    intro past input rest heq
    refine hstep past input rest heq (accounted_of_past ?_)
    rintro before first more rfl
    exact hstep before first (more ++ input :: rest) (by simp [heq])
  · rintro hsole past ⟨rest, rfl⟩
    refine (accounted_of_past ?_).delivered
    rintro before first more rfl -
    exact hsole before first (more ++ rest) (by simp)

/-- What is outstanding was sent by some input, with nothing but sends since. -/
theorem outstanding_sent {past : List ι} {value : α} {more : List α}
    (h : (signalAfter transition emit start past).outstanding = value :: more) :
    ∃ before input between, past = before ++ input :: between ∧
      emit (run transition start before) input = some (.send value) ∧
      emitted transition emit (run transition start (before ++ [input])) between =
        more.map .send := by
  induction past using List.reverseRecOn generalizing value more with
  | nil => exact absurd h (List.cons_ne_nil _ _).symm
  | append_singleton past input ih =>
      rw [signalAfter_concat] at h
      have hlonger : ∀ {first : α} {rest : List α},
          (signalAfter transition emit start past).outstanding = first :: rest →
            ∃ before other between, past ++ [input] = before ++ other :: between ∧
              emit (run transition start before) other = some (.send first) ∧
              emitted transition emit (run transition start (before ++ [other])) between =
                rest.map .send ++
                  (emit (run transition start past) input).toList := by
        intro first rest hpast
        obtain ⟨before, other, between, rfl, hsend, hrest⟩ := ih hpast
        refine ⟨before, other, between ++ [input], by simp, hsend, ?_⟩
        rw [emitted_split, hrest, ← run_append]
        simp [emitted, outputs]
      cases hemit : emit (run transition start past) input with
      | none =>
          rw [hemit] at h
          obtain ⟨before, other, between, hsplit, hsend, hrest⟩ := hlonger h
          refine ⟨before, other, between, hsplit, hsend, ?_⟩
          rw [hrest, hemit]
          exact List.append_nil _
      | some event =>
          rw [hemit] at h
          cases event with
          | send last =>
              cases hpast : (signalAfter transition emit start past).outstanding with
              | nil =>
                  simp only [Option.elim_some, step, hpast, List.nil_append,
                    List.cons.injEq] at h
                  obtain ⟨rfl, rfl⟩ := h
                  exact ⟨past, input, [], rfl, hemit, rfl⟩
              | cons first rest =>
                  simp only [Option.elim_some, step, hpast, List.cons_append,
                    List.cons.injEq] at h
                  obtain ⟨rfl, rfl⟩ := h
                  obtain ⟨before, other, between, hsplit, hsend, hrest⟩ := hlonger hpast
                  refine ⟨before, other, between, hsplit, hsend, ?_⟩
                  rw [hrest, hemit, List.map_append]
                  rfl
          | handle read =>
              have hflag := flag_run (emitted transition emit start past)
              cases hpending : (signalAfter transition emit start past).pending with
              | false =>
                  have hnone := hflag.mp hpending
                  simp only [Option.elim_some, step, hpending, Bool.false_eq_true,
                    if_false] at h
                  exact absurd (hnone.symm.trans h) (List.cons_ne_nil _ _).symm
              | true =>
                  simp only [Option.elim_some, step, hpending, if_true] at h
                  exact absurd h (List.cons_ne_nil _ _).symm

/-- The values received are the values sent, whenever no notification is left to
handle, exactly when each value is alone as its notification is handled. -/
theorem delivered_iff_alone :
    (∀ past, past <+: inputs → Delivered (signalAfter transition emit start past)) ↔
      Alone transition emit start inputs := by
  rw [delivered_iff_soleRead]
  constructor
  · intro hsole before input between last after value read heq hsend hhandle honly
    obtain ⟨values, hvalues⟩ := exists_sends honly
    have houtstanding : (signalAfter transition emit start
        (before ++ input :: between)).outstanding =
          (signalAfter transition emit start before).outstanding ++ value :: values := by
      rw [signalAfter, emitted_split, hsend, hvalues, run_append]
      exact outstanding_sends _ (value :: values)
    have hpending : (signalAfter transition emit start
        (before ++ input :: between)).pending = true := by
      rw [← Bool.not_eq_false]
      intro hclear
      have hempty := (flag_run _).mp hclear
      rw [signalAfter] at houtstanding
      rw [houtstanding] at hempty
      exact absurd hempty (List.append_ne_nil_of_right_ne_nil _ (List.cons_ne_nil _ _))
    have hone : (signalAfter transition emit start before).outstanding ++ value :: values =
        [read] :=
      houtstanding.symm.trans
        (hsole (before ++ input :: between) last after (by simp [heq]) _ hhandle hpending)
    obtain ⟨-, hlast⟩ := List.append_eq_singleton_iff.mp hone |>.resolve_right fun h =>
      absurd h.2 (List.cons_ne_nil _ _)
    obtain ⟨rfl, rfl⟩ := List.cons.inj hlast
    exact ⟨hvalues, rfl⟩
  · intro halone past last after heq event hevent
    cases event with
    | send value => trivial
    | handle read =>
        intro hpending
        cases houtstanding : (signalAfter transition emit start past).outstanding with
        | nil =>
            have hclear := (flag_run (emitted transition emit start past)).mpr houtstanding
            exact absurd (hpending.symm.trans hclear) Bool.noConfusion
        | cons value more =>
            obtain ⟨before, input, between, rfl, hsend, hbetween⟩ :=
              outstanding_sent houtstanding
            obtain ⟨hnone, rfl⟩ := halone before input between last after value read
              (by simp [heq]) hsend hevent (by simp [hbetween, Event.sent?])
            rw [hbetween, List.map_eq_nil_iff] at hnone
            rw [hnone]

end Machine

end LightCtrl.Signals
