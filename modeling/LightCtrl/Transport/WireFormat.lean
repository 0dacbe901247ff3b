import LightCtrl.Core.ControlLogic
import LightCtrl.Core.VehicleState
import LightCtrl.Domains.Faultmg
import LightCtrl.Transport.LineTracking

/-!
The two ends of the transport agree. Ranges, opcodes, scopes and lengths are
written down once where the parser builds a message and again in the contract
check and in each consumer. Every message the parser delivers, for every
stream of characters, is one that its destination accepts.
-/

namespace LightCtrl

/-- The scope is not turned away: faultmg acts and publishes, whatever state
it is in. -/
def ScopeHonoured (scope : UInt8) : Prop :=
  ∀ memory, (handleFaultClear memory scope).notified =
    [LightCh.faultmgToGpio, LightCh.faultmgToScheduler]

theorem scopeHonoured_clearAll : ScopeHonoured lightTransportFaultClearAll :=
  fun _ => rfl

/-- The request is applied in every vehicle state, or it is a speed above the
maximum and is turned down for its value in every vehicle state. -/
def RequestAgreed (request : LightVehicleStateRequest) : Prop :=
  ∀ state : LightVehicleState,
    if request.field = LightVehicleField.speedKph ∧ 180 < request.value then
      (lightVehicleStateApplyRequest state request).accepted = false ∧
        (lightVehicleStateApplyRequest state request).reason = .invalidValue
    else (lightVehicleStateApplyRequest state request).accepted = true

/-- What the check, the routing and the consumer of its type each ask of a
message. -/
structure WireAgreed (message : LightTransportMessage) : Prop where
  checked : Dispatchable message
  routed : lightTransportRouteForMessage message ≠ .none
  lightCmd : message.type = LightTransportMsg.lightCmd →
    ∀ request : LightOperatorRequest, (lightControlApplyOperatorCommand request
      message.payload.lightCmd).accepted = true
  faultInject : message.type = LightTransportMsg.faultInject →
    (lightFaultTaxonomyLookup message.payload.faultErrorCode).isSome
  faultClear : message.type = LightTransportMsg.faultClear →
    ScopeHonoured message.payload.faultClearScope
  vehicleState : message.type = LightTransportMsg.vehicleStateUpdate →
    RequestAgreed message.payload.vehicleStateUpdate

section Messages

/-- The check knows a length for the types that have a route, and for no
other. -/
theorem routed_of_dispatchable {message : LightTransportMessage}
    (h : Dispatchable message) : lightTransportRouteForMessage message ≠ .none := by
  obtain ⟨-, -, hlength, -⟩ := (transport_check_ok_iff message message.type).mp h
  unfold expectedTransportLen at hlength
  unfold lightTransportRouteForMessage
  split_ifs at hlength ⊢ <;> simp_all

/-- The twelve characters stand for twelve opcodes of the control logic. -/
theorem decodeChar_commands {ch : Int} {cmd : UInt8}
    (h : lightCommandDecodeChar ch = some cmd) (request : LightOperatorRequest) :
    (lightControlApplyOperatorCommand request cmd).accepted = true := by
  unfold lightCommandDecodeChar at h
  split at h <;> cases h <;> rfl

theorem lightCmd_agreed {cmd : UInt8}
    (h : ∀ request : LightOperatorRequest,
      (lightControlApplyOperatorCommand request cmd).accepted = true) :
    WireAgreed (makeLightCmdMessage cmd) where
  checked := rfl
  routed := routed_of_dispatchable rfl
  lightCmd _ := h
  faultInject htype := by cases htype
  faultClear htype := by cases htype
  vehicleState htype := by cases htype

theorem faultInject_agreed {errorCode : UInt8}
    (h : (lightFaultTaxonomyLookup errorCode).isSome) :
    WireAgreed (makeFaultInjectMessage errorCode) where
  checked := rfl
  routed := routed_of_dispatchable rfl
  lightCmd htype := by cases htype
  faultInject _ := h
  faultClear htype := by cases htype
  vehicleState htype := by cases htype

theorem query_agreed : WireAgreed makeQueryMessage where
  checked := rfl
  routed := routed_of_dispatchable rfl
  lightCmd htype := by cases htype
  faultInject htype := by cases htype
  faultClear htype := by cases htype
  vehicleState htype := by cases htype

theorem faultClear_agreed {scope : UInt8} (h : ScopeHonoured scope) :
    WireAgreed (makeFaultClearMessage scope) where
  checked := rfl
  routed := routed_of_dispatchable rfl
  lightCmd htype := by cases htype
  faultInject htype := by cases htype
  faultClear _ := h
  vehicleState htype := by cases htype

theorem vehicleState_agreed {request : LightVehicleStateRequest}
    (h : RequestAgreed request) : WireAgreed (makeVehicleStateMessage request) where
  checked := rfl
  routed := routed_of_dispatchable rfl
  lightCmd htype := by cases htype
  faultInject htype := by cases htype
  faultClear htype := by cases htype
  vehicleState _ := h

theorem immediateMessage_agreed {ch : Int} {message : LightTransportMessage}
    (h : immediateMessage ch = some message) : WireAgreed message := by
  rcases immediateMessage_cases h with rfl | rfl | rfl | rfl
  · exact faultInject_agreed rfl
  · exact faultInject_agreed rfl
  · exact query_agreed
  · exact faultClear_agreed scopeHonoured_clearAll

end Messages

section Requests

/-- A request for a known field is accepted or turned down by its value
alone. -/
theorem applyRequest_of_known {request : LightVehicleStateRequest}
    (hknown : requestFieldIsKnown request = true) (state : LightVehicleState) :
    if requestValueIsValid request = true then
      (lightVehicleStateApplyRequest state request).accepted = true
    else
      (lightVehicleStateApplyRequest state request).accepted = false ∧
        (lightVehicleStateApplyRequest state request).reason = .invalidValue := by
  unfold lightVehicleStateApplyRequest
  by_cases hvalid : requestValueIsValid request = true
  · simp only [hknown, hvalid, Bool.not_true, Bool.false_eq_true, if_false, if_true]
    unfold requestFieldIsKnown at hknown
    unfold writeRequestedField
    split_ifs <;> simp_all
  · simp [hknown, hvalid]

/-- A flag or a named value lies in the range its field allows. -/
theorem VehicleSentence.in_range {text : CText}
    {request : LightVehicleStateRequest} (h : VehicleSentence text request) :
    requestFieldIsKnown request = true ∧
      (request.field = LightVehicleField.speedKph ∨
        requestValueIsValid request = true) := by
  have hflags : ∀ entry ∈ flagFields, ∀ value : UInt16, value ≤ 1 →
      requestFieldIsKnown ⟨entry.2, value⟩ = true ∧
        requestValueIsValid ⟨entry.2, value⟩ = true := by
    simp only [flagFields, List.forall_mem_cons]
    refine ⟨?_, ?_, ?_, by simp⟩ <;> intro value hvalue <;>
      exact ⟨rfl, decide_eq_true hvalue⟩
  have hnames : ∀ named ∈ namedFields, ∀ value : UInt16,
      value.toNat < named.names.length →
        requestFieldIsKnown ⟨named.field, value⟩ = true ∧
          requestValueIsValid ⟨named.field, value⟩ = true := by
    simp only [namedFields, List.forall_mem_cons]
    refine ⟨?_, ?_, ?_, by simp⟩ <;> intro value hvalue <;>
      exact ⟨rfl, decide_eq_true
        (UInt16.le_iff_toNat_le.mpr (Nat.le_of_lt_succ hvalue))⟩
  cases h with
  | speed => exact ⟨rfl, Or.inl rfl⟩
  | flagOff hfield =>
      obtain ⟨hknown, hvalid⟩ := hflags _ hfield 0 (by decide)
      exact ⟨hknown, Or.inr hvalid⟩
  | flagOn hfield =>
      obtain ⟨hknown, hvalid⟩ := hflags _ hfield 1 (by decide)
      exact ⟨hknown, Or.inr hvalid⟩
  | name hnamed hname =>
      obtain ⟨hindex, -⟩ := List.getElem?_eq_some_iff.mp hname
      obtain ⟨hknown, hvalid⟩ := hnames _ hnamed _ hindex
      exact ⟨hknown, Or.inr hvalid⟩
  | number hnamed _ hrange =>
      obtain ⟨hknown, hvalid⟩ := hnames _ hnamed _ hrange
      exact ⟨hknown, Or.inr hvalid⟩

/-- What a sentence denotes is what the consumer of vehicle updates takes. -/
theorem VehicleSentence.agreed {text : CText}
    {request : LightVehicleStateRequest} (h : VehicleSentence text request) :
    RequestAgreed request := by
  intro state
  obtain ⟨hknown, hrange⟩ := h.in_range
  have happlied := applyRequest_of_known hknown state
  have hspeed : request.field = LightVehicleField.speedKph →
      (requestValueIsValid request = true ↔ ¬ 180 < request.value) := by
    intro hfield
    rw [requestValueIsValid, if_pos hfield, decide_eq_true_iff, UInt16.not_lt]
  split_ifs with hfast
  · rwa [if_neg (fun hvalid => (hspeed hfast.1).mp hvalid hfast.2)] at happlied
  · rcases hrange with hfield | hvalid
    · rwa [if_pos ((hspeed hfield).mpr fun hhigh => hfast ⟨hfield, hhigh⟩)]
        at happlied
    · rwa [if_pos hvalid] at happlied

end Requests

/-- The step lemma: whatever one character makes ready is agreed. -/
theorem ready_agreed {parser : LightTransportParser} {ch : Int}
    {result : FeedResult}
    (hfeed : lightTransportParserFeedChar parser ch = some result)
    (hready : result.status = .messageReady) :
    ∃ message, result.written = some message ∧ WireAgreed message := by
  rcases ready_cases hfeed hready with
    ⟨_, request, -, hparsed, hmade⟩ | ⟨message, himmediate, hmade⟩ |
      ⟨cmd, hdecode, hmade⟩
  · obtain ⟨text, _, -, hsentence⟩ := lightVehicleStateParseLine_sound hparsed
    exact ⟨_, hmade, vehicleState_agreed hsentence.agreed⟩
  · exact ⟨_, hmade, immediateMessage_agreed himmediate⟩
  · exact ⟨_, hmade, lightCmd_agreed (decodeChar_commands hdecode)⟩

/-- The parser's output for one character is fine for its consumer. -/
def OutputAgreed
    (output : LightTransportFeedStatus × Option LightTransportMessage) : Prop :=
  output.1 = .messageReady → ∃ message, output.2 = some message ∧ WireAgreed message

private theorem feedChars_agreed {parser : LightTransportParser}
    {line : List Int} (h : Tracks parser line) (codes : List Int) :
    ∃ final outputs, feedChars parser codes = some (final, outputs) ∧
      ∀ output ∈ outputs, OutputAgreed output := by
  induction codes generalizing parser line with
  | nil => exact ⟨parser, [], rfl, by simp⟩
  | cons ch rest ih =>
      obtain ⟨next, hnext, htracks⟩ := feedTracked_tracks h ch
      obtain ⟨result, hfeed, rfl⟩ := Option.map_eq_some_iff.mp hnext
      obtain ⟨final, outputs, hfinal, hagreed⟩ := ih htracks
      refine ⟨final, (result.status, result.written) :: outputs, ?_, ?_⟩
      · simp only [feedChars, hfeed, Option.bind_eq_bind, Option.bind_some, hfinal]
        rfl
      · intro output hmember
        rcases List.mem_cons.mp hmember with rfl | hlater
        · exact ready_agreed hfeed
        · exact hagreed output hlater

/-- From init, every stream of characters is consumed, and every message it
makes ready passes the contract check for its own type, has a route, and is
accepted by the core logic at the end of it. -/
theorem ready_messages_agreed (raw : LightTransportParser) (codes : List Int) :
    ∃ final outputs,
      (lightTransportParserInit raw).bind (feedChars · codes) =
        some (final, outputs) ∧
      ∀ output ∈ outputs, output.1 = .messageReady →
        ∃ message, output.2 = some message ∧ WireAgreed message := by
  obtain ⟨start, hinit, hidle⟩ := parserReset_spec raw
  obtain ⟨final, outputs, hfed, hagreed⟩ :=
    feedChars_agreed (tracks_empty hidle) codes
  refine ⟨final, outputs, ?_, hagreed⟩
  rw [lightTransportParserInit, hinit, Option.bind_some, hfed]

end LightCtrl
