import LightCtrl.Core.Names
import LightCtrl.Library.Delimited
import LightCtrl.Transport.DecimalOutput

/-!
`src/core/light_status_snapshot.c`: the status captured from the shared memory
and its text. The format string is cut at its conversions into labelled fields,
whose text tells every field. No status is too long for the buffer of the
callers, so their line is never cut short.
-/

namespace LightCtrl

open Delimited Positional

structure LightStatusSnapshot where
  layoutVersion : UInt32
  contractStatus : UInt8
  faultMode : UInt8
  lifecycle : UInt8
  recoveryTicks : UInt8
  recoveryElapsedMs : UInt32
  recoveryWindowMs : UInt32
  activeFaultMask : UInt8
  vehicleState : LightVehicleState
  targetOutput : LightTargetOutput
  allowFlags : UInt32
  lastFaultCode : UInt8
  totalFaultCount : UInt32
  deriving DecidableEq, Repr

def lightStatusSnapshotCapture (shmem : LightShmem) : LightStatusSnapshot where
  layoutVersion := shmem.layoutVersion
  contractStatus := (lightContractCheckSharedState (some shmem)).status.toByte
  faultMode := shmem.faultMode
  lifecycle := shmem.faultLifecycle
  recoveryTicks := shmem.faultRecoveryTicks
  recoveryElapsedMs := shmem.faultRecoveryElapsedMs
  recoveryWindowMs := shmem.faultRecoveryWindowMs
  activeFaultMask := shmem.activeFaultMask
  vehicleState := shmem.vehicleState
  targetOutput := shmem.targetOutput
  allowFlags := shmem.allowFlags
  lastFaultCode := shmem.lastFaultCode
  totalFaultCount := shmem.totalFaultCount

section Conversions

/-- The lower case character of a hexadecimal digit. -/
def hexDigitByte (digit : Nat) : UInt8 :=
  if digit < 10 then digitByte digit else UInt8.ofNat (0x61 + (digit - 10))

/-- `%02x`: at least two digits. -/
def hexText (value : Nat) : CText :=
  let digits := (numeral 16 value).map hexDigitByte
  List.replicate (2 - digits.length) charDigit0 ++ digits

/-- `snprintf`, once the text of its arguments is known: what the buffer holds
then, and the result. -/
def snprintf (buf : CText) (bufSize : Nat) (text : CText) : CText × Nat :=
  if bufSize = 0 then (buf, text.length)
  else
    let kept := text.take (bufSize - 1)
    (kept ++ 0 :: buf.drop (kept.length + 1), text.length)

end Conversions

/-- The labels and values of a status line. The gear, the ambient light and the
drive mode are given as they are shown. -/
def statusFields (gear ambientLight driveMode : CText) (snapshot : LightStatusSnapshot) :
    List (CText × CText) :=
  [(cText "STATUS_SNAPSHOT fault=", lightFaultModeName snapshot.faultMode),
    (cText " lifecycle=", lightFaultLifecycleName snapshot.lifecycle),
    (cText " recovery_ticks=", decimalText snapshot.recoveryTicks.toNat),
    (cText "/", decimalText lightFaultRecoveryWindowTicks.toNat),
    (cText " recovery_elapsed_ms=", decimalText snapshot.recoveryElapsedMs.toNat),
    (cText "/", decimalText snapshot.recoveryWindowMs.toNat),
    (cText " active_faults=0x", hexText snapshot.activeFaultMask.toNat),
    (cText " speed=", decimalText snapshot.vehicleState.speedKph.toNat),
    (cText " ignition=", decimalText snapshot.vehicleState.ignitionOn.toNat),
    (cText " brake_pedal=", decimalText snapshot.vehicleState.brakePedal.toNat),
    (cText " gear=", gear),
    (cText " ambient=", ambientLight),
    (cText " hazard=", decimalText snapshot.vehicleState.hazard.toNat),
    (cText " drive_mode=", driveMode),
    (cText " target[low=", decimalText snapshot.targetOutput.lowBeamOn.toNat),
    (cText " high=", decimalText snapshot.targetOutput.highBeamOn.toNat),
    (cText " left=", decimalText snapshot.targetOutput.leftTurnOn.toNat),
    (cText " right=", decimalText snapshot.targetOutput.rightTurnOn.toNat),
    (cText " marker=", decimalText snapshot.targetOutput.markerOn.toNat),
    (cText " brake=", decimalText snapshot.targetOutput.brakeOn.toNat),
    (cText "] allow=0x", hexText snapshot.allowFlags.toNat),
    (cText " last_fault=0x", hexText snapshot.lastFaultCode.toNat),
    (cText " last_fault_name=", lightFaultCodeName snapshot.lastFaultCode),
    (cText " total_faults=", decimalText snapshot.totalFaultCount.toNat),
    (cText " layout=", decimalText snapshot.layoutVersion.toNat),
    (cText " contract=", lightContractStatusName snapshot.contractStatus)]

/-- The text of the format string for a snapshot; the three are numbers in it. -/
def lightStatusSnapshotText (snapshot : LightStatusSnapshot) : CText :=
  render (statusFields (decimalText snapshot.vehicleState.gear.toNat)
    (decimalText snapshot.vehicleState.ambientLight.toNat)
    (decimalText snapshot.vehicleState.driveMode.toNat) snapshot)

def lightStatusSnapshotFormat (buf : CText) (bufSize : Nat)
    (snapshot : LightStatusSnapshot) : CText × Nat :=
  snprintf buf bufSize (lightStatusSnapshotText snapshot)

section Values

/-- Characters a value of a status line consists of: no end of a string, and no
space, slash, bracket or line end, with which the labels start. -/
def ValueChar (ch : UInt8) : Prop := ch ∉ [0x00, 0x20, 0x2F, 0x5D, 0x0D]

instance : DecidablePred ValueChar := fun _ => inferInstanceAs (Decidable (_ ∉ _))

theorem valueChar_of_digit {ch : UInt8} (h : IsDigit ch) : ValueChar ch := by
  intro hdelimiter
  have hlow : charDigit0 ≤ ch := h.1
  have hhigh : ch ≤ charDigit9 := h.2
  simp only [List.mem_cons, List.not_mem_nil, or_false] at hdelimiter
  rcases hdelimiter with rfl | rfl | rfl | rfl | rfl <;> revert hlow hhigh <;> decide

theorem decimalText_valueChar (value : Nat) : ∀ ch ∈ decimalText value, ValueChar ch :=
  fun ch hch => valueChar_of_digit ((decimalText_canonical value).numeral.isDigit ch hch)

theorem decimalText_injective : Function.Injective decimalText := by
  intro left right htext
  rw [← (decimalText_canonical left).numeral.denotes,
    ← (decimalText_canonical right).numeral.denotes, htext]

theorem decimalText_length_le {value count : Nat} (hcount : 0 < count)
    (hvalue : value < 10 ^ count) : (decimalText value).length ≤ count := by
  unfold decimalText
  split_ifs
  · exact hcount
  · rw [List.length_map, numeral, List.length_reverse]
    exact (Nat.digits_length_le_iff (by decide) value).mpr hvalue

/-- The number behind a hexadecimal character. -/
def hexDigitValue (ch : UInt8) : Nat :=
  if IsDigit ch then digitValue ch else ch.toNat - 0x61 + 10

theorem hexDigitValue_hexDigitByte {digit : Nat} (hdigit : digit < 16) :
    hexDigitValue (hexDigitByte digit) = digit := by
  interval_cases digit <;> decide

theorem hexDigitByte_valueChar {digit : Nat} (hdigit : digit < 16) :
    ValueChar (hexDigitByte digit) := by
  interval_cases digit <;> decide

theorem hexText_valueChar (value : Nat) : ∀ ch ∈ hexText value, ValueChar ch := by
  intro ch hch
  rcases List.mem_append.mp hch with hzero | hdigit
  · rw [List.eq_of_mem_replicate hzero]
    decide
  · obtain ⟨digit, hmember, rfl⟩ := List.mem_map.mp hdigit
    exact hexDigitByte_valueChar (lt_of_mem_numeral (by decide) hmember)

theorem horner_replicate_zero (base count : Nat) :
    horner base 0 (List.replicate count 0) = 0 := by
  induction count with
  | zero => rfl
  | succ count ih => simpa [horner, List.replicate_succ] using ih

/-- The digits of `%02x` denote the number, leading zeros or not. -/
theorem hexText_denotes (value : Nat) :
    horner 16 0 ((hexText value).map hexDigitValue) = value := by
  have hback : ((numeral 16 value).map hexDigitByte).map hexDigitValue = numeral 16 value := by
    have hdigit : ∀ digit ∈ numeral 16 value,
        (hexDigitValue ∘ hexDigitByte) digit = id digit := fun digit hdigit =>
      hexDigitValue_hexDigitByte (lt_of_mem_numeral (by decide) hdigit)
    rw [List.map_map, List.map_congr_left hdigit, List.map_id]
  have hzero : hexDigitValue charDigit0 = 0 := by decide
  have hpadded : (hexText value).map hexDigitValue =
      List.replicate (2 - (numeral 16 value).length) 0 ++ numeral 16 value := by
    rw [hexText, List.map_append, List.map_replicate, hzero, hback, List.length_map]
  rw [hpadded, horner, List.foldl_append, ← horner, ← horner, horner_replicate_zero,
    horner_numeral]

theorem hexText_injective : Function.Injective hexText := by
  intro left right htext
  rw [← hexText_denotes left, ← hexText_denotes right, htext]

theorem hexText_length_le {value count : Nat} (hcount : 2 ≤ count)
    (hvalue : value < 16 ^ count) : (hexText value).length ≤ count := by
  have hdigits : (Nat.digits 16 value).length ≤ count :=
    (Nat.digits_length_le_iff (by decide) value).mpr hvalue
  rw [hexText, List.length_append, List.length_replicate, List.length_map, numeral,
    List.length_reverse]
  omega

end Values

section NameTables

variable {names : List (UInt8 × String)}

/-- What holds of every name and of UNKNOWN holds of what the table gives. -/
theorem nameIn_forall {p : CText → Prop} (hunknown : p (cText "UNKNOWN"))
    (hnames : ∀ entry ∈ names, p (cText entry.2)) (number : UInt8) :
    p (nameIn names number) := by
  rw [nameIn]
  cases hfound : names.find? (fun entry => entry.1 = number) with
  | none => exact hunknown
  | some entry => exact hnames entry (List.mem_of_find?_eq_some hfound)

theorem nameIn_valueChar (hnames : (names.all fun entry =>
      (cText entry.2).all fun ch => ValueChar ch) = true) (number : UInt8) :
    ∀ ch ∈ nameIn names number, ValueChar ch := by
  have htext : ∀ {text : CText}, (text.all fun ch => ValueChar ch) = true →
      ∀ ch ∈ text, ValueChar ch := fun hall ch hch =>
    of_decide_eq_true (List.all_eq_true.mp hall ch hch)
  have hunknown : ((cText "UNKNOWN").all fun ch => ValueChar ch) = true := by decide
  exact nameIn_forall (p := fun text => ∀ ch ∈ text, ValueChar ch) (htext hunknown)
    (fun entry hentry => htext (List.all_eq_true.mp hnames entry hentry)) number

/-- A number with a name is told by it. -/
theorem nameIn_injective (hdistinct : NamesDistinct names) {number other : UInt8}
    (hlisted : number ∈ names.map Prod.fst) (hsame : nameIn names number = nameIn names other) :
    number = other := by
  obtain ⟨listed, hmember, hnumber⟩ := List.mem_map.mp hlisted
  have hsome : (names.find? fun entry => entry.1 = number).isSome := by
    rw [List.find?_isSome]
    exact ⟨listed, hmember, decide_eq_true hnumber⟩
  obtain ⟨entry, hentry⟩ := Option.isSome_iff_exists.mp hsome
  have hentryMember := List.mem_of_find?_eq_some hentry
  have hentryNumber : entry.1 = number := by simpa using List.find?_some hentry
  have hname : nameIn names number = cText entry.2 := by rw [nameIn, hentry]
  cases hother : names.find? fun found => found.1 = other with
  | none =>
      have hunknown : nameIn names other = cText "UNKNOWN" := by rw [nameIn, hother]
      refine absurd ?_ hdistinct.2
      rw [← hunknown, ← hsame, hname]
      exact List.mem_map_of_mem hentryMember
  | some found =>
      have hfound : nameIn names other = cText found.2 := by rw [nameIn, hother]
      have hequal : entry = found :=
        List.inj_on_of_nodup_map hdistinct.1 hentryMember (List.mem_of_find?_eq_some hother)
          (hname.symm.trans (hsame.trans hfound))
      have hfoundNumber : found.1 = other := by simpa using List.find?_some hother
      rw [← hentryNumber, hequal, hfoundNumber]

end NameTables

section Fields

/-- The labels, in the order of the format string. -/
def statusLabels : List CText :=
  (statusFields [] [] [] (lightStatusSnapshotCapture lightShmemZeroed)).map Prod.fst

variable {gear ambientLight driveMode : CText}

theorem statusFields_labels (gear ambientLight driveMode : CText)
    (snapshot : LightStatusSnapshot) :
    (statusFields gear ambientLight driveMode snapshot).map Prod.fst = statusLabels := rfl

theorem statusLabels_separate : Separates ValueChar statusLabels.tail := by
  have hheads : ∀ label ∈ statusLabels.tail,
      label.head?.any (fun ch => ¬ ValueChar ch) = true := by decide
  intro label hlabel
  obtain ⟨ch, hhead, hdelimiter⟩ := (Option.any_eq_true _ _).mp (hheads label hlabel)
  refine ⟨?_, ?_⟩
  · rintro rfl
    cases hhead
  · intro first hfirst
    rw [hhead] at hfirst
    obtain rfl := Option.some.inj hfirst
    exact of_decide_eq_true hdelimiter

theorem statusFields_valueChar (hgear : ∀ ch ∈ gear, ValueChar ch)
    (hambient : ∀ ch ∈ ambientLight, ValueChar ch) (hmode : ∀ ch ∈ driveMode, ValueChar ch)
    (snapshot : LightStatusSnapshot) :
    ∀ field ∈ statusFields gear ambientLight driveMode snapshot,
      ∀ ch ∈ field.2, ValueChar ch := by
  have hnumber := decimalText_valueChar
  have hhex := hexText_valueChar
  simp only [statusFields, List.forall_mem_cons]
  exact ⟨nameIn_valueChar (by decide) _, nameIn_valueChar (by decide) _, hnumber _, hnumber _,
    hnumber _, hnumber _, hhex _, hnumber _, hnumber _, hnumber _, hgear, hambient, hnumber _,
    hmode, hnumber _, hnumber _, hnumber _, hnumber _, hnumber _, hnumber _, hhex _, hhex _,
    nameIn_valueChar (by decide) _, hnumber _, hnumber _, nameIn_valueChar (by decide) _,
    List.forall_mem_nil _⟩

variable {otherGear otherAmbient otherMode : CText} {left right : LightStatusSnapshot}

/-- What a status line tells: everything, the fault mode, the lifecycle, the
contract status and the three given texts by their text. -/
structure LinesAgree (gear ambientLight driveMode otherGear otherAmbient otherMode : CText)
    (left right : LightStatusSnapshot) : Prop where
  faultMode : lightFaultModeName left.faultMode = lightFaultModeName right.faultMode
  lifecycle : lightFaultLifecycleName left.lifecycle =
    lightFaultLifecycleName right.lifecycle
  contractStatus : lightContractStatusName left.contractStatus =
    lightContractStatusName right.contractStatus
  gear : gear = otherGear
  ambientLight : ambientLight = otherAmbient
  driveMode : driveMode = otherMode
  numbers : { left with
      faultMode := right.faultMode
      lifecycle := right.lifecycle
      contractStatus := right.contractStatus
      vehicleState := { left.vehicleState with
        gear := right.vehicleState.gear
        ambientLight := right.vehicleState.ambientLight
        driveMode := right.vehicleState.driveMode } } = right

theorem statusFields_injective
    (hfields : statusFields gear ambientLight driveMode left =
      statusFields otherGear otherAmbient otherMode right) :
    LinesAgree gear ambientLight driveMode otherGear otherAmbient otherMode left right := by
  simp only [statusFields, List.cons.injEq, Prod.mk.injEq, true_and, and_true,
    decimalText_injective.eq_iff, hexText_injective.eq_iff, UInt8.toNat_inj, UInt16.toNat_inj,
    UInt32.toNat_inj] at hfields
  obtain ⟨hmode, hlifecycle, hticks, helapsed, hwindow, hmask, hspeed, hignition, hbrake, hgear,
    hambient, hhazard, hdriveMode, hlow, hhigh, hleft, hright, hmarker, hbrakeOn, hallow, hlast,
    -, htotal, hlayout, hcontract⟩ := hfields
  refine ⟨hmode, hlifecycle, hcontract, hgear, hambient, hdriveMode, ?_⟩
  obtain ⟨_, _, _, _, _, _, _, _, ⟨_, _, _, _, _, _, _⟩, ⟨_, _, _, _, _, _⟩, _, _, _⟩ := left
  obtain ⟨_, _, _, _, _, _, _, _, ⟨_, _, _, _, _, _, _⟩, ⟨_, _, _, _, _, _⟩, _, _, _⟩ := right
  simp only at *
  subst_vars
  rfl

/-- Two status lines that agree, whatever follows them, tell the same. -/
theorem statusLine_unique {tail more : CText}
    (hleft : ∀ field ∈ statusFields gear ambientLight driveMode left,
      ∀ ch ∈ field.2, ValueChar ch)
    (hright : ∀ field ∈ statusFields otherGear otherAmbient otherMode right,
      ∀ ch ∈ field.2, ValueChar ch)
    (htail : Stops ValueChar tail) (hmore : Stops ValueChar more)
    (htext : render (statusFields gear ambientLight driveMode left) ++ tail =
      render (statusFields otherGear otherAmbient otherMode right) ++ more) :
    LinesAgree gear ambientLight driveMode otherGear otherAmbient otherMode left right ∧
      tail = more := by
  have hlabels : (statusFields gear ambientLight driveMode left).map Prod.fst =
      (statusFields otherGear otherAmbient otherMode right).map Prod.fst := rfl
  obtain ⟨hfields, hbehind⟩ :=
    render_unique hlabels statusLabels_separate hleft hright htail hmore htext
  exact ⟨statusFields_injective hfields, hbehind⟩

theorem stops_nil : Stops ValueChar [] := by
  intro ch hhead
  cases hhead

end Fields

section Format

theorem sum_length_le {values : List CText} {bounds : List Nat}
    (h : List.Forall₂ (fun value bound => value.length ≤ bound) values bounds) :
    (values.map List.length).sum ≤ bounds.sum := by
  induction h with
  | nil => exact le_refl 0
  | cons hvalue _ ih =>
      rw [List.map_cons, List.sum_cons, List.sum_cons]
      exact Nat.add_le_add hvalue ih

/-- The longest each value of a line can get. -/
def statusBounds : List Nat :=
  [9, 10, 3, 10, 10, 10, 2, 5, 3, 3, 3, 3, 3, 3, 3, 3, 3, 3, 3, 3, 8, 2, 13, 10, 10, 17]

theorem statusText_length_lt (snapshot : LightStatusSnapshot) :
    (lightStatusSnapshotText snapshot).length < 512 := by
  have hbyte : ∀ value : UInt8, (decimalText value.toNat).length ≤ 3 := fun value =>
    decimalText_length_le (by decide) (lt_of_lt_of_le value.toNat_lt (by decide))
  have hword : ∀ value : UInt32, (decimalText value.toNat).length ≤ 10 := fun value =>
    decimalText_length_le (by decide) (lt_of_lt_of_le value.toNat_lt (by decide))
  have hspeed : (decimalText snapshot.vehicleState.speedKph.toNat).length ≤ 5 :=
    decimalText_length_le (by decide) (lt_of_lt_of_le (UInt16.toNat_lt _) (by decide))
  have hmask : ∀ value : UInt8, (hexText value.toNat).length ≤ 2 := fun value =>
    hexText_length_le (by decide) (lt_of_lt_of_le value.toNat_lt (by decide))
  have hallow : (hexText snapshot.allowFlags.toNat).length ≤ 8 :=
    hexText_length_le (by decide) (lt_of_lt_of_le (UInt32.toNat_lt _) (by decide))
  have hname : ∀ {names : List (UInt8 × String)} {bound : Nat},
      (cText "UNKNOWN").length ≤ bound → (∀ entry ∈ names, (cText entry.2).length ≤ bound) →
        ∀ number, (nameIn names number).length ≤ bound := fun hunknown hnames number =>
    nameIn_forall (p := fun text => text.length ≤ _) hunknown hnames number
  have hvalues : List.Forall₂ (fun value bound => value.length ≤ bound)
      ((statusFields (decimalText snapshot.vehicleState.gear.toNat)
        (decimalText snapshot.vehicleState.ambientLight.toNat)
        (decimalText snapshot.vehicleState.driveMode.toNat) snapshot).map Prod.snd)
      statusBounds := by
    simp only [statusFields, statusBounds, List.map_cons, List.map_nil, List.forall₂_cons]
    exact ⟨hname (by decide) (by decide) _, hname (by decide) (by decide) _, hbyte _, hword _,
      hword _, hword _, hmask _, hspeed, hbyte _, hbyte _, hbyte _, hbyte _, hbyte _, hbyte _,
      hbyte _, hbyte _, hbyte _, hbyte _, hbyte _, hbyte _, hallow, hmask _,
      hname (by decide) (by decide) _, hword _, hword _, hname (by decide) (by decide) _,
      List.Forall₂.nil⟩
  have hlabels : (statusLabels.map List.length).sum + statusBounds.sum < 512 := by decide
  have hsum := sum_length_le hvalues
  rw [lightStatusSnapshotText, length_render, statusFields_labels]
  omega

/-- The text is a C string. -/
theorem statusText_no_nul (snapshot : LightStatusSnapshot) :
    0 ∉ lightStatusSnapshotText snapshot := by
  intro hnul
  rcases mem_render hnul with ⟨label, hlabel, hinside⟩ | ⟨field, hfield, hinside⟩
  · rw [statusFields_labels] at hlabel
    revert label
    decide
  · have hvalue := statusFields_valueChar (decimalText_valueChar _) (decimalText_valueChar _)
      (decimalText_valueChar _) snapshot field hfield 0 hinside
    exact absurd hvalue (by decide)

/-- Snapshots that differ at most in numbers without a name of their own. -/
structure SameStatus (left right : LightStatusSnapshot) : Prop where
  faultMode : lightFaultModeName left.faultMode = lightFaultModeName right.faultMode
  lifecycle : lightFaultLifecycleName left.lifecycle =
    lightFaultLifecycleName right.lifecycle
  contractStatus : lightContractStatusName left.contractStatus =
    lightContractStatusName right.contractStatus
  rest : { left with
      faultMode := right.faultMode
      lifecycle := right.lifecycle
      contractStatus := right.contractStatus } = right

theorem statusText_eq_iff (left right : LightStatusSnapshot) :
    lightStatusSnapshotText left = lightStatusSnapshotText right ↔ SameStatus left right := by
  constructor
  · intro htext
    have hnumber := decimalText_valueChar
    have hlines : lightStatusSnapshotText left ++ [] = lightStatusSnapshotText right ++ [] :=
      congrArg (· ++ []) htext
    obtain ⟨hmode, hlifecycle, hcontract, hgear, hambient, hdriveMode, hnumbers⟩ :=
      (statusLine_unique
        (statusFields_valueChar (hnumber _) (hnumber _) (hnumber _) left)
        (statusFields_valueChar (hnumber _) (hnumber _) (hnumber _) right)
        stops_nil stops_nil hlines).1
    simp only [decimalText_injective.eq_iff, UInt8.toNat_inj] at hgear hambient hdriveMode
    refine ⟨hmode, hlifecycle, hcontract, ?_⟩
    rw [← hgear, ← hambient, ← hdriveMode] at hnumbers
    exact hnumbers
  · rintro ⟨hmode, hlifecycle, hcontract, hrest⟩
    rw [← hrest]
    simp only [lightStatusSnapshotText, statusFields, hmode, hlifecycle, hcontract]

/-- A status line always fits into the buffer of 512 characters, is a string,
and tells the snapshot up to numbers without a name. -/
theorem status_snapshot_format_faithful (snapshot : LightStatusSnapshot) (buf : CText) :
    let formatted := lightStatusSnapshotFormat buf 512 snapshot
    formatted.1 = lightStatusSnapshotText snapshot ++ 0 :: buf.drop (formatted.2 + 1) ∧
      formatted.2 = (lightStatusSnapshotText snapshot).length ∧ formatted.2 < 512 ∧
      0 ∉ lightStatusSnapshotText snapshot ∧
      ∀ other, lightStatusSnapshotText other = lightStatusSnapshotText snapshot ↔
        SameStatus other snapshot := by
  have hfits := statusText_length_lt snapshot
  refine ⟨?_, rfl, hfits, statusText_no_nul snapshot, fun other => statusText_eq_iff other _⟩
  have hwhole : (lightStatusSnapshotText snapshot).take 511 =
      lightStatusSnapshotText snapshot := List.take_of_length_le (by omega)
  simp only [lightStatusSnapshotFormat, snprintf, OfNat.ofNat_ne_zero, if_false,
    Nat.reduceSub, hwhole]

end Format

end LightCtrl
