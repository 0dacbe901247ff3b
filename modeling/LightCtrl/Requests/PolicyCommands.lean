import LightCtrl.Actuation.FlagWord
import LightCtrl.Library.FlagSets
import LightCtrl.Requests.OperatorCommands

/-!
`light_policy_apply_command` over whole command sequences, as its callers use
it: the flag word of a result is the one the next command starts from. Its flag
words are those of the operator requests that the accepted commands lead to, so
the policy is the plain command interpreter behind a gate. The gate keeps out
both turn flags together and a high beam without a low beam, and nothing else.
-/

namespace LightCtrl

open Runs FlagSets

/-- The six `LIGHT_ALLOW_*` flags. -/
inductive AllowFlag where
  | brake
  | turnLeft
  | turnRight
  | lowBeam
  | highBeam
  | position
  deriving DecidableEq, Repr

instance : Fintype AllowFlag where
  elems := {.brake, .turnLeft, .turnRight, .lowBeam, .highBeam, .position}
  complete := by
    intro flag
    cases flag <;> decide

def AllowFlag.mask : AllowFlag → UInt32
  | .brake => LightAllow.brake
  | .turnLeft => LightAllow.turnLeft
  | .turnRight => LightAllow.turnRight
  | .lowBeam => LightAllow.lowBeam
  | .highBeam => LightAllow.highBeam
  | .position => LightAllow.position

/-- The field of a request that a flag stands for. -/
def AllowFlag.requested (request : LightOperatorRequest) : AllowFlag → UInt8
  | .brake => request.brakeReq
  | .turnLeft => request.leftTurnReq
  | .turnRight => request.rightTurnReq
  | .lowBeam => request.lowBeamReq
  | .highBeam => request.highBeamReq
  | .position => request.markerReq

def AllowFlag.bit : AllowFlag → Nat
  | .brake => 0
  | .turnLeft => 1
  | .turnRight => 2
  | .lowBeam => 3
  | .highBeam => 4
  | .position => 5

theorem AllowFlag.mask_toBitVec (flag : AllowFlag) :
    flag.mask.toBitVec = BitVec.twoPow 32 flag.bit := by
  cases flag <;> rfl

theorem AllowFlag.bit_injective : Function.Injective AllowFlag.bit := by
  intro left right hbit
  cases left <;> cases right <;> first | rfl | exact absurd hbit (by decide)

theorem AllowFlag.bit_of_lt {bit : Nat} (hbit : bit < 6) : ∃ flag, AllowFlag.bit flag = bit := by
  interval_cases bit
  · exact ⟨.brake, rfl⟩
  · exact ⟨.turnLeft, rfl⟩
  · exact ⟨.turnRight, rfl⟩
  · exact ⟨.lowBeam, rfl⟩
  · exact ⟨.highBeam, rfl⟩
  · exact ⟨.position, rfl⟩

theorem AllowFlag.getLsbD_mask (flag : AllowFlag) (bit : Nat) :
    flag.mask.toBitVec.getLsbD bit = true ↔ flag.bit = bit := by
  have hsmall : flag.bit < 32 := by cases flag <;> decide
  rw [flag.mask_toBitVec, BitVec.getLsbD_twoPow]
  simp [hsmall]

theorem allowFlags_separate : Separate fun flag : AllowFlag => flag.mask.toBitVec where
  nonempty flag := ⟨flag.bit, (flag.getLsbD_mask _).mpr rfl⟩
  disjoint left right bit hleft hright :=
    AllowFlag.bit_injective
      (((left.getLsbD_mask bit).mp hleft).trans ((right.getLsbD_mask bit).mp hright).symm)

/-- The flag word carries exactly these flags. -/
def Carries (allowFlags : UInt32) (flags : Finset AllowFlag) : Prop :=
  Holds (fun flag : AllowFlag => flag.mask.toBitVec) allowFlags.toBitVec flags

section Words

variable {allowFlags other : UInt32} {flags : Finset AllowFlag}

theorem Carries.unique (h : Carries allowFlags flags) (hother : Carries other flags) :
    allowFlags = other :=
  UInt32.toBitVec_inj.mp (Holds.word_unique h hother)

theorem Carries.test (h : Carries allowFlags flags) (flag : AllowFlag) :
    allowFlags &&& flag.mask ≠ 0 ↔ flag ∈ flags := by
  rw [← Holds.test h allowFlags_separate flag, ← UInt32.toBitVec_and, ne_eq, ne_eq,
    ← UInt32.toBitVec_inj]
  rfl

theorem Carries.untested (h : Carries allowFlags flags) (flag : AllowFlag) :
    allowFlags &&& flag.mask = 0 ↔ flag ∉ flags := by
  rw [← h.test flag, ne_eq, not_not]

theorem Carries.set (h : Carries allowFlags flags) (flag : AllowFlag) :
    Carries (allowFlags ||| flag.mask) (insert flag flags) := by
  rw [Carries, UInt32.toBitVec_or]
  exact Holds.insert h flag

theorem Carries.clear (h : Carries allowFlags flags) (flag : AllowFlag) :
    Carries (allowFlags &&& ~~~flag.mask) (flags.erase flag) := by
  rw [Carries, UInt32.toBitVec_and, UInt32.toBitVec_not]
  exact Holds.erase h allowFlags_separate flag

/-- The bits of the six flags. -/
def allowMask : UInt32 := 0x3F

/-- A word with no other bits carries the flags it tests for. -/
theorem carries_tested (hforeign : allowFlags &&& ~~~allowMask = 0) :
    Carries allowFlags (Finset.univ.filter fun flag => allowFlags &&& flag.mask ≠ 0) := by
  have htests : (Finset.univ.filter fun flag : AllowFlag => allowFlags &&& flag.mask ≠ 0) =
      Finset.univ.filter fun flag : AllowFlag =>
        allowFlags.toBitVec &&& flag.mask.toBitVec ≠ 0#32 := by
    ext flag
    rw [Finset.mem_filter, Finset.mem_filter, ne_eq, ← UInt32.toBitVec_inj]
    rfl
  rw [htests]
  apply holds_tested
  · intro flag hset
    rw [flag.mask_toBitVec, BitVec.and_twoPow] at hset ⊢
    by_cases hbit : allowFlags.toBitVec.getLsbD flag.bit = true
    · rw [if_pos hbit]
    · rw [if_neg hbit] at hset
      exact absurd rfl hset
  · intro bit hbit
    have hsmall : bit < 6 := by
      by_contra hlarge
      have hclear : (allowFlags.toBitVec &&& ~~~allowMask.toBitVec).getLsbD bit = false := by
        rw [← UInt32.toBitVec_not, ← UInt32.toBitVec_and, hforeign]
        exact BitVec.getLsbD_zero
      have houtside : allowMask.toBitVec.getLsbD bit = false :=
        Nat.testBit_lt_two_pow
          (lt_of_lt_of_le (by decide : 63 < 2 ^ 6) (Nat.pow_le_pow_right two_pos (by omega)))
      rw [BitVec.getLsbD_and, BitVec.getLsbD_not, hbit, houtside] at hclear
      simp [BitVec.lt_of_getLsbD hbit] at hclear
    obtain ⟨flag, hflag⟩ := AllowFlag.bit_of_lt hsmall
    exact ⟨flag, (flag.getLsbD_mask bit).mpr hflag⟩

end Words

/-- The flags of the fields that a request sets. -/
def requestFlags (request : LightOperatorRequest) : Finset AllowFlag :=
  Finset.univ.filter fun flag => flag.requested request ≠ 0

@[simp] theorem mem_requestFlags {request : LightOperatorRequest} {flag : AllowFlag} :
    flag ∈ requestFlags request ↔ flag.requested request ≠ 0 := by
  simp [requestFlags]

/-- What `light_policy_apply_command` asks for before it accepts a command. -/
@[mk_iff]
structure PolicyPermits (flags : Finset AllowFlag) (cmd : UInt8) : Prop where
  known : cmd ∈ operatorOpcodes
  highBeam : cmd = LightCmd.highBeamOn → .lowBeam ∈ flags ∧ .brake ∉ flags
  leftTurn : cmd = LightCmd.leftTurnOn → .brake ∉ flags ∧ .turnRight ∉ flags
  rightTurn : cmd = LightCmd.rightTurnOn → .brake ∉ flags ∧ .turnLeft ∉ flags

instance (flags : Finset AllowFlag) (cmd : UInt8) : Decidable (PolicyPermits flags cmd) :=
  decidable_of_iff _ (policyPermits_iff flags cmd).symm

/-- A command is accepted, with the flags of the request it leads to, or it is
rejected with a reason. -/
inductive PolicyOutcome (state : LightPolicyState) (request : LightOperatorRequest)
    (cmd : UInt8) : LightPolicyResult → Prop
  | accepted (next : UInt32) (permits : PolicyPermits (requestFlags request) cmd)
      (carries : Carries next (requestFlags (operatorStep request cmd))) :
      PolicyOutcome state request cmd (acceptCommand state cmd next)
  | rejected (reason : LightPolicyReason) (named : reason ≠ .ok)
      (refused : ¬ PolicyPermits (requestFlags request) cmd) :
      PolicyOutcome state request cmd (rejectCommand state cmd reason)

theorem PolicyOutcome.answer {state : LightPolicyState} {request : LightOperatorRequest}
    {cmd : UInt8} {result : LightPolicyResult} (h : PolicyOutcome state request cmd result) :
    (result.accepted = true ↔ PolicyPermits (requestFlags request) cmd) ∧
      result.notify = result.accepted ∧
      (result.reason = .ok ↔ result.accepted = true) ∧
      (result.accepted = false → result.nextAllowFlags = result.prevAllowFlags) := by
  cases h with
  | accepted next hpermits hcarries => simp [acceptCommand, hpermits]
  | rejected reason hnamed hrefused => simp [rejectCommand, hrefused, hnamed]

section Step

variable {state : LightPolicyState} {request : LightOperatorRequest} {cmd : UInt8}

/-- Commands other than the three gated ones are permitted. -/
theorem policyPermits_ungated {flags : Finset AllowFlag} (hknown : cmd ∈ operatorOpcodes)
    (hgated : cmd ∉ [LightCmd.highBeamOn, LightCmd.leftTurnOn, LightCmd.rightTurnOn]) :
    PolicyPermits flags cmd := by
  simp only [List.mem_cons, List.not_mem_nil, or_false, not_or] at hgated
  exact ⟨hknown, fun h => absurd h hgated.1, fun h => absurd h hgated.2.1,
    fun h => absurd h hgated.2.2⟩

/-- A command that sets one field of the request and its flag. -/
theorem policyOutcome_on (flag : AllowFlag)
    (h : Carries state.allowFlags (requestFlags request))
    (hpermits : PolicyPermits (requestFlags request) cmd)
    (hset : AllowFlag.requested (operatorStep request cmd) =
      Function.update (AllowFlag.requested request) flag 1) :
    PolicyOutcome state request cmd
      (acceptCommand state cmd (state.allowFlags ||| flag.mask)) := by
  have hswitch : requestFlags (operatorStep request cmd) =
      insert flag (requestFlags request) := by
    ext other
    rw [mem_requestFlags, hset, Finset.mem_insert, mem_requestFlags]
    by_cases hsame : other = flag
    · subst hsame
      simp
    · simp [hsame]
  exact .accepted _ hpermits (hswitch ▸ h.set flag)

/-- A command that clears one field of the request and its flag. -/
theorem policyOutcome_off (flag : AllowFlag)
    (h : Carries state.allowFlags (requestFlags request))
    (hpermits : PolicyPermits (requestFlags request) cmd)
    (hcleared : AllowFlag.requested (operatorStep request cmd) =
      Function.update (AllowFlag.requested request) flag 0) :
    PolicyOutcome state request cmd
      (acceptCommand state cmd (state.allowFlags &&& ~~~flag.mask)) := by
  have hswitch : requestFlags (operatorStep request cmd) =
      (requestFlags request).erase flag := by
    ext other
    rw [mem_requestFlags, hcleared, Finset.mem_erase, mem_requestFlags]
    by_cases hsame : other = flag
    · subst hsame
      simp
    · simp [hsame]
  exact .accepted _ hpermits (hswitch ▸ h.clear flag)

/-- LOW_OFF clears the flags of both beams. -/
theorem policyOutcome_lowBeamOff (h : Carries state.allowFlags (requestFlags request)) :
    PolicyOutcome state request LightCmd.lowBeamOff
      (lightPolicyApplyCommand state LightCmd.lowBeamOff) := by
  have hswitch : requestFlags (operatorStep request LightCmd.lowBeamOff) =
      ((requestFlags request).erase .lowBeam).erase .highBeam := by
    have hstep : operatorStep request LightCmd.lowBeamOff =
        { request with lowBeamReq := 0, highBeamReq := 0 } := rfl
    ext flag
    rw [hstep]
    cases flag <;> simp [AllowFlag.requested]
  refine .accepted _ (policyPermits_ungated (by decide) (by decide)) ?_
  rw [hswitch]
  exact (h.clear .lowBeam).clear .highBeam

/-- The high beam asks for the low beam and for no brake. -/
theorem policyOutcome_highBeamOn (h : Carries state.allowFlags (requestFlags request)) :
    PolicyOutcome state request LightCmd.highBeamOn
      (lightPolicyApplyCommand state LightCmd.highBeamOn) := by
  have hresult : lightPolicyApplyCommand state LightCmd.highBeamOn =
      if state.allowFlags &&& AllowFlag.lowBeam.mask = 0 then
        rejectCommand state LightCmd.highBeamOn .rejectLowBeamRequired
      else if state.allowFlags &&& AllowFlag.brake.mask ≠ 0 then
        rejectCommand state LightCmd.highBeamOn .rejectBrakeActive
      else acceptCommand state LightCmd.highBeamOn
        (state.allowFlags ||| AllowFlag.highBeam.mask) := rfl
  rw [hresult]
  by_cases hlow : .lowBeam ∈ requestFlags request
  case neg =>
    rw [if_pos ((h.untested _).mpr hlow)]
    exact .rejected _ (by decide) fun hpermits => hlow (hpermits.highBeam rfl).1
  rw [if_neg ((h.test _).mpr hlow)]
  by_cases hbrake : .brake ∈ requestFlags request
  · rw [if_pos ((h.test _).mpr hbrake)]
    exact .rejected _ (by decide) fun hpermits => (hpermits.highBeam rfl).2 hbrake
  · rw [if_neg (not_not.mpr ((h.untested _).mpr hbrake))]
    have hallowed : PolicyPermits (requestFlags request) LightCmd.highBeamOn :=
      ⟨by decide, fun _ => ⟨hlow, hbrake⟩, fun hcmd => absurd hcmd (by decide),
        fun hcmd => absurd hcmd (by decide)⟩
    exact policyOutcome_on .highBeam h hallowed
      (funext fun other => by cases other <;> rfl)

/-- A turn flag asks for no brake and for the opposite flag to be off. -/
theorem policyOutcome_turnOn (flag opposite : AllowFlag) (reason : LightPolicyReason)
    (hreason : reason ≠ .ok) (h : Carries state.allowFlags (requestFlags request))
    (hresult : lightPolicyApplyCommand state cmd =
      if state.allowFlags &&& AllowFlag.brake.mask ≠ 0 then
        rejectCommand state cmd .rejectBrakeActive
      else if state.allowFlags &&& opposite.mask ≠ 0 then rejectCommand state cmd reason
      else acceptCommand state cmd (state.allowFlags ||| flag.mask))
    (hpermits : PolicyPermits (requestFlags request) cmd ↔
      .brake ∉ requestFlags request ∧ opposite ∉ requestFlags request)
    (hset : opposite.requested request = 0 →
      AllowFlag.requested (operatorStep request cmd) =
        Function.update (AllowFlag.requested request) flag 1) :
    PolicyOutcome state request cmd (lightPolicyApplyCommand state cmd) := by
  rw [hresult]
  by_cases hbrake : .brake ∈ requestFlags request
  · rw [if_pos ((h.test _).mpr hbrake)]
    exact .rejected _ (by decide) fun hallowed => (hpermits.mp hallowed).1 hbrake
  rw [if_neg (not_not.mpr ((h.untested _).mpr hbrake))]
  by_cases hopposite : opposite ∈ requestFlags request
  · rw [if_pos ((h.test _).mpr hopposite)]
    exact .rejected _ hreason fun hallowed => (hpermits.mp hallowed).2 hopposite
  · rw [if_neg (not_not.mpr ((h.untested _).mpr hopposite))]
    have hoff : opposite.requested request = 0 := by simpa using hopposite
    exact policyOutcome_on flag h (hpermits.mpr ⟨hbrake, hopposite⟩) (hset hoff)

theorem policyOutcome_leftTurnOn (h : Carries state.allowFlags (requestFlags request)) :
    PolicyOutcome state request LightCmd.leftTurnOn
      (lightPolicyApplyCommand state LightCmd.leftTurnOn) := by
  refine policyOutcome_turnOn .turnLeft .turnRight .rejectRightTurnActive (by decide) h rfl
    ?_ ?_
  · exact ⟨fun hpermits => hpermits.leftTurn rfl, fun hoff => ⟨by decide,
      fun hcmd => absurd hcmd (by decide), fun _ => hoff,
      fun hcmd => absurd hcmd (by decide)⟩⟩
  · intro hright
    funext other
    cases other <;> first | rfl | exact hright.symm

theorem policyOutcome_rightTurnOn (h : Carries state.allowFlags (requestFlags request)) :
    PolicyOutcome state request LightCmd.rightTurnOn
      (lightPolicyApplyCommand state LightCmd.rightTurnOn) := by
  refine policyOutcome_turnOn .turnRight .turnLeft .rejectLeftTurnActive (by decide) h rfl
    ?_ ?_
  · exact ⟨fun hpermits => hpermits.rightTurn rfl, fun hoff => ⟨by decide,
      fun hcmd => absurd hcmd (by decide), fun hcmd => absurd hcmd (by decide),
      fun _ => hoff⟩⟩
  · intro hleft
    funext other
    cases other <;> first | rfl | exact hleft.symm

/-- A byte that is no opcode falls to the default case. -/
theorem policyCommand_unknown (state : LightPolicyState) (hunknown : cmd ∉ operatorOpcodes) :
    lightPolicyApplyCommand state cmd = rejectCommand state cmd .rejectInvalidCmd := by
  simp only [operatorOpcodes, List.mem_cons, not_or] at hunknown
  obtain ⟨h0, h1, h2, h3, h4, h5, h6, h7, h8, h9, h10, h11, -⟩ := hunknown
  simp only [lightPolicyApplyCommand, h0, h1, h2, h3, h4, h5, h6, h7, h8, h9, h10, h11,
    if_false]

theorem policyCommand_outcome (h : Carries state.allowFlags (requestFlags request))
    (cmd : UInt8) :
    PolicyOutcome state request cmd (lightPolicyApplyCommand state cmd) := by
  by_cases hknown : cmd ∈ operatorOpcodes
  case neg =>
    rw [policyCommand_unknown state hknown]
    exact .rejected _ (by decide) fun hpermits => hknown hpermits.known
  have hungated : cmd ∉ [LightCmd.highBeamOn, LightCmd.leftTurnOn, LightCmd.rightTurnOn] →
      PolicyPermits (requestFlags request) cmd := policyPermits_ungated hknown
  simp only [operatorOpcodes, List.mem_cons, List.not_mem_nil, or_false] at hknown
  rcases hknown with rfl | rfl | rfl | rfl | rfl | rfl | rfl | rfl | rfl | rfl | rfl | rfl
  · exact policyOutcome_lowBeamOff h
  · exact policyOutcome_on .lowBeam h (hungated (by decide))
      (funext fun other => by cases other <;> rfl)
  · exact policyOutcome_off .highBeam h (hungated (by decide))
      (funext fun other => by cases other <;> rfl)
  · exact policyOutcome_highBeamOn h
  · exact policyOutcome_off .turnLeft h (hungated (by decide))
      (funext fun other => by cases other <;> rfl)
  · exact policyOutcome_leftTurnOn h
  · exact policyOutcome_off .turnRight h (hungated (by decide))
      (funext fun other => by cases other <;> rfl)
  · exact policyOutcome_rightTurnOn h
  · exact policyOutcome_off .position h (hungated (by decide))
      (funext fun other => by cases other <;> rfl)
  · exact policyOutcome_on .position h (hungated (by decide))
      (funext fun other => by cases other <;> rfl)
  · exact policyOutcome_off .brake h (hungated (by decide))
      (funext fun other => by cases other <;> rfl)
  · exact policyOutcome_on .brake h (hungated (by decide))
      (funext fun other => by cases other <;> rfl)

end Step

/-- No two turn flags, and no high beam without the low beam. -/
structure ConsistentFlags (flags : Finset AllowFlag) : Prop where
  turns : .turnLeft ∉ flags ∨ .turnRight ∉ flags
  beams : .highBeam ∈ flags → .lowBeam ∈ flags

instance (flags : Finset AllowFlag) : Decidable (ConsistentFlags flags) :=
  decidable_of_iff ((.turnLeft ∉ flags ∨ .turnRight ∉ flags) ∧
      (.highBeam ∈ flags → .lowBeam ∈ flags))
    ⟨fun h => ⟨h.1, h.2⟩, fun h => ⟨h.turns, h.beams⟩⟩

/-- The gate on the high beam keeps it above the low beam. -/
theorem ConsistentFlags.step {request : LightOperatorRequest} {cmd : UInt8}
    (h : ConsistentFlags (requestFlags request))
    (hpermits : PolicyPermits (requestFlags request) cmd) :
    ConsistentFlags (requestFlags (operatorStep request cmd)) where
  turns := by
    have hbefore := h.turns
    simp only [mem_requestFlags, ne_eq, not_not] at hbefore ⊢
    exact operatorStep_turn_exclusive request cmd hbefore
  beams := by
    have hbefore := h.beams
    simp only [mem_requestFlags, AllowFlag.requested] at hbefore ⊢
    have hlow := lowBeamReq_commandedBy request cmd
    have hhigh := highBeamReq_commandedBy request cmd
    simp only at hlow hhigh
    rw [hlow, hhigh]
    by_cases hon : cmd = LightCmd.highBeamOn
    · subst hon
      exact fun _ => mem_requestFlags.mp (hpermits.highBeam rfl).1
    by_cases hlowOff : cmd = LightCmd.lowBeamOff
    · subst hlowOff
      exact fun hlit => absurd rfl hlit
    by_cases hhighOff : cmd = LightCmd.highBeamOff
    · subst hhighOff
      exact fun hlit => absurd rfl hlit
    by_cases hlowOn : cmd = LightCmd.lowBeamOn
    · subst hlowOn
      exact fun _ => (by decide : (1 : UInt8) ≠ 0)
    simpa [hon, hlowOff, hhighOff, hlowOn] using hbefore

section Sequences

/-- A command as the callers of the policy apply it. -/
def policyStep (state : LightPolicyState) (cmd : UInt8) : LightPolicyState :=
  { state with allowFlags := (lightPolicyApplyCommand state cmd).nextAllowFlags }

/-- The command, if the policy accepts it. -/
def policyAccepts (state : LightPolicyState) (cmd : UInt8) : List UInt8 :=
  if (lightPolicyApplyCommand state cmd).accepted then [cmd] else []

/-- The request that the accepted ones of the commands lead to. -/
def acceptedRequest (commands : List UInt8) : LightOperatorRequest :=
  operatorRequestAfter (outputs policyStep policyAccepts lightPolicyInitState commands)

theorem acceptedRequest_concat (commands : List UInt8) (cmd : UInt8) :
    acceptedRequest (commands ++ [cmd]) = run operatorStep (acceptedRequest commands)
      (policyAccepts (run policyStep lightPolicyInitState commands) cmd) := by
  simp only [acceptedRequest, operatorRequestAfter, outputs_append, run_append, outputs,
    List.append_nil]

/-- The policy state that belongs to a request. -/
structure PolicyFollows (state : LightPolicyState) (request : LightOperatorRequest) :
    Prop where
  speed : state.vehicleSpeed = lightPolicyInitState.vehicleSpeed
  carries : Carries state.allowFlags (requestFlags request)
  consistent : ConsistentFlags (requestFlags request)

theorem policyInit_follows : PolicyFollows lightPolicyInitState lightOperatorRequestInit where
  speed := rfl
  carries := by
    have hnone : Carries 0 ∅ := holds_empty
    have hinit : requestFlags lightOperatorRequestInit = insert .position ∅ := by decide
    rw [hinit]
    exact hnone.set .position
  consistent := by decide

theorem PolicyFollows.step {state : LightPolicyState} {request : LightOperatorRequest}
    (h : PolicyFollows state request) (cmd : UInt8) :
    PolicyFollows (policyStep state cmd)
      (run operatorStep request (policyAccepts state cmd)) := by
  have houtcome := policyCommand_outcome h.carries cmd
  unfold policyStep policyAccepts
  generalize lightPolicyApplyCommand state cmd = result at houtcome ⊢
  cases houtcome with
  | accepted next hpermits hcarries =>
      exact ⟨h.speed, hcarries, h.consistent.step hpermits⟩
  | rejected reason hnamed hrefused => exact h

theorem policy_follows (commands : List UInt8) :
    PolicyFollows (run policyStep lightPolicyInitState commands)
      (acceptedRequest commands) := by
  induction commands using List.reverseRecOn with
  | nil => exact policyInit_follows
  | append_singleton past cmd ih =>
      rw [run_concat, acceptedRequest_concat]
      exact ih.step cmd

/-- A request as a target, without any arbitration. -/
def requestedOutput (request : LightOperatorRequest) : LightTargetOutput where
  lowBeamOn := request.lowBeamReq
  highBeamOn := request.highBeamReq
  leftTurnOn := request.leftTurnReq
  rightTurnOn := request.rightTurnReq
  markerOn := request.markerReq
  brakeOn := request.brakeReq

theorem toAllowFlags_foreign (targetOutput : LightTargetOutput) :
    lightTargetOutputToAllowFlags targetOutput &&& ~~~allowMask = 0 := by
  have houtside : ∀ flag ∈ (outputFlags targetOutput).map Prod.fst,
      flag &&& ~~~allowMask = 0 := by
    have hflags : (outputFlags targetOutput).map Prod.fst =
        [0x01, 0x02, 0x04, 0x08, 0x10, 0x20] := rfl
    have hclear : ([0x01, 0x02, 0x04, 0x08, 0x10, 0x20] : List UInt32).all
        (fun flag => flag &&& ~~~allowMask = 0) = true := by decide
    rw [hflags]
    exact fun flag hflag => of_decide_eq_true (List.all_eq_true.mp hclear flag hflag)
  rw [toAllowFlags_eq_setFlags]
  by_contra hnonzero
  rcases (setFlags_and_ne_zero_iff _ _ _).mp hnonzero with hzero | ⟨field, hfield, -, hbit⟩
  · exact hzero UInt32.zero_and
  · exact hbit (houtside _ (List.mem_map_of_mem hfield))

theorem carries_requestedOutput (request : LightOperatorRequest) :
    Carries (lightTargetOutputToAllowFlags (requestedOutput request))
      (requestFlags request) := by
  have hflags : requestFlags request = Finset.univ.filter fun flag =>
      lightTargetOutputToAllowFlags (requestedOutput request) &&& flag.mask ≠ 0 := by
    ext flag
    have hfield : (flag.mask, decide (flag.requested request ≠ 0)) ∈
        outputFlags (requestedOutput request) := by
      cases flag <;> repeat first | exact .head _ | apply List.Mem.tail
    rw [mem_requestFlags, Finset.mem_filter, toAllowFlags_has_iff _ hfield, decide_eq_true_iff]
    exact (and_iff_right (Finset.mem_univ flag)).symm
  rw [hflags]
  exact carries_tested (toAllowFlags_foreign _)

/-- Commands that lead to the flags: the beams and turns first, since a brake
keeps them out. -/
def commandsFor (flags : Finset AllowFlag) : List UInt8 :=
  (if .position ∈ flags then [] else [LightCmd.positionOff]) ++
    (if .turnLeft ∈ flags then [LightCmd.leftTurnOn] else []) ++
    (if .turnRight ∈ flags then [LightCmd.rightTurnOn] else []) ++
    (if .lowBeam ∈ flags then [LightCmd.lowBeamOn] else []) ++
    (if .highBeam ∈ flags then [LightCmd.highBeamOn] else []) ++
    (if .brake ∈ flags then [LightCmd.brakeOn] else [])

theorem acceptedRequest_commandsFor : ∀ flags, ConsistentFlags flags →
    requestFlags (acceptedRequest (commandsFor flags)) = flags := by
  decide +kernel

/-- The flag words that commands lead to are exactly those without foreign
bits, without both turn flags and without a high beam above no low beam. -/
theorem policy_words_reachable_iff (allowFlags : UInt32) :
    (∃ commands, (run policyStep lightPolicyInitState commands).allowFlags = allowFlags) ↔
      allowFlags &&& ~~~allowMask = 0 ∧
        (allowFlags &&& LightAllow.turnLeft = 0 ∨ allowFlags &&& LightAllow.turnRight = 0) ∧
        (allowFlags &&& LightAllow.highBeam ≠ 0 → allowFlags &&& LightAllow.lowBeam ≠ 0) := by
  constructor
  · rintro ⟨commands, rfl⟩
    have hfollows := policy_follows commands
    have hword := hfollows.carries.unique (carries_requestedOutput (acceptedRequest commands))
    refine ⟨?_, ?_, ?_⟩
    · rw [hword]
      exact toAllowFlags_foreign _
    · exact hfollows.consistent.turns.imp (hfollows.carries.untested .turnLeft).mpr
        (hfollows.carries.untested .turnRight).mpr
    · intro hhigh
      exact (hfollows.carries.test .lowBeam).mpr
        (hfollows.consistent.beams ((hfollows.carries.test .highBeam).mp hhigh))
  · rintro ⟨hforeign, hturns, hbeams⟩
    have hcarries := carries_tested hforeign
    generalize (Finset.univ.filter fun flag : AllowFlag => allowFlags &&& flag.mask ≠ 0) =
      flags at hcarries
    have hconsistent : ConsistentFlags flags :=
      ⟨hturns.imp (hcarries.untested .turnLeft).mp (hcarries.untested .turnRight).mp,
        fun hhigh => (hcarries.test .lowBeam).mp (hbeams ((hcarries.test .highBeam).mpr hhigh))⟩
    have hreached := (policy_follows (commandsFor flags)).carries
    rw [acceptedRequest_commandsFor flags hconsistent] at hreached
    exact ⟨commandsFor flags, hreached.unique hcarries⟩

/-- What the policy shows of the flags of a request: a high beam hides the low
beam under it. -/
theorem Carries.policyTarget {allowFlags : UInt32} {request : LightOperatorRequest}
    (h : Carries allowFlags (requestFlags request))
    (hconsistent : ConsistentFlags (requestFlags request)) :
    lightPolicyTargetFromFlags allowFlags =
      { brake := request.brakeReq ≠ 0
        turnLeft := request.leftTurnReq ≠ 0
        turnRight := request.rightTurnReq ≠ 0
        lowBeam := request.lowBeamReq ≠ 0 ∧ request.highBeamReq = 0
        highBeam := request.highBeamReq ≠ 0
        position := request.markerReq ≠ 0 } := by
  have htest : ∀ flag : AllowFlag,
      allowFlags &&& flag.mask ≠ 0 ↔ flag.requested request ≠ 0 :=
    fun flag => (h.test flag).trans mem_requestFlags
  have hbrake : allowFlags &&& LightAllow.brake ≠ 0 ↔ request.brakeReq ≠ 0 := htest .brake
  have hleft : allowFlags &&& LightAllow.turnLeft ≠ 0 ↔ request.leftTurnReq ≠ 0 :=
    htest .turnLeft
  have hright : allowFlags &&& LightAllow.turnRight ≠ 0 ↔ request.rightTurnReq ≠ 0 :=
    htest .turnRight
  have hlow : allowFlags &&& LightAllow.lowBeam ≠ 0 ↔ request.lowBeamReq ≠ 0 :=
    htest .lowBeam
  have hhigh : allowFlags &&& LightAllow.highBeam ≠ 0 ↔ request.highBeamReq ≠ 0 :=
    htest .highBeam
  have hmarker : allowFlags &&& LightAllow.position ≠ 0 ↔ request.markerReq ≠ 0 :=
    htest .position
  have hturns : request.leftTurnReq = 0 ∨ request.rightTurnReq = 0 := by
    simpa [AllowFlag.requested] using hconsistent.turns
  simp only [lightPolicyTargetFromFlags, hbrake, hleft, hright, hlow, hhigh, hmarker]
  congr 1
  · rcases hturns with hnoLeft | hnoRight
    · simp [hnoLeft]
    · simp [hnoRight]
  · by_cases hnoHigh : request.highBeamReq = 0 <;> simp [hnoHigh]

/-- After every command sequence the flag word is that of the operator request
that the accepted commands lead to, and it shows each field of it, save the low
beam under the high beam. The next command is accepted exactly when the gate
permits it; otherwise it leaves the flags, tells nobody and names a reason. -/
theorem policy_follows_accepted_commands (commands : List UInt8) :
    (run policyStep lightPolicyInitState commands).vehicleSpeed =
        lightPolicyInitState.vehicleSpeed ∧
      let state := run policyStep lightPolicyInitState commands
      let request := acceptedRequest commands
      state.allowFlags = lightTargetOutputToAllowFlags (requestedOutput request) ∧
      lightPolicyTargetFromFlags state.allowFlags =
        { brake := request.brakeReq ≠ 0
          turnLeft := request.leftTurnReq ≠ 0
          turnRight := request.rightTurnReq ≠ 0
          lowBeam := request.lowBeamReq ≠ 0 ∧ request.highBeamReq = 0
          highBeam := request.highBeamReq ≠ 0
          position := request.markerReq ≠ 0 } ∧
      ∀ cmd,
        let result := lightPolicyApplyCommand state cmd
        (result.accepted = true ↔ PolicyPermits (requestFlags request) cmd) ∧
          result.notify = result.accepted ∧
          (result.reason = .ok ↔ result.accepted = true) ∧
          (result.accepted = false → result.nextAllowFlags = result.prevAllowFlags) := by
  obtain ⟨hspeed, hcarries, hconsistent⟩ := policy_follows commands
  refine ⟨hspeed, hcarries.unique (carries_requestedOutput _), ?_, fun cmd => ?_⟩
  · exact hcarries.policyTarget hconsistent
  · exact (policyCommand_outcome hcarries cmd).answer

end Sequences

end LightCtrl
