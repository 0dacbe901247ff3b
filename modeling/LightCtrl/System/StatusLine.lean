import LightCtrl.System.Convergence
import LightCtrl.Transport.StatusSnapshot

/-!
What the console tells of the board. The answer to `?` starts with the status
line of the captured snapshot, with the gear, the ambient light and the drive
mode by name. Since every point of a run is within the contract, no number goes
without a name, and the operator sees the snapshot itself.
-/

namespace LightCtrl

open Runs Preemption Delimited

section Text

theorem hex8Text_table : ∀ n < 256, hex8Text (UInt8.ofNat n) = hexText n := by
  decide +kernel

/-- `uart_put_hex8` writes what `0x%02x` does. -/
theorem hex8Text_eq (value : UInt8) : hex8Text value = hexText value.toNat := by
  have htable := hex8Text_table value.toNat value.toNat_lt
  rwa [UInt8.ofNat_toNat] at htable

theorem uartPutChar_cons (ch : UInt8) :
    ∃ fed, uartPutChar ch.toNat = (ch.toNat : Int) :: fed ∧
      fed = if (ch.toNat : Int) = charCarriageReturn then [0x0A] else [] := by
  unfold uartPutChar
  split_ifs
  · exact ⟨_, rfl, rfl⟩
  · exact ⟨_, rfl, rfl⟩

/-- A line feed behind each carriage return hides nothing. -/
theorem uartPutStr_injective : Function.Injective uartPutStr := by
  intro left
  induction left with
  | nil =>
      intro right hsent
      cases right with
      | nil => rfl
      | cons ch rest =>
          obtain ⟨fed, hfed, -⟩ := uartPutChar_cons ch
          rw [uartPutStr, uartPutStr, List.flatMap_cons, hfed] at hsent
          cases hsent
  | cons ch rest ih =>
      intro right hsent
      obtain ⟨fed, hfed, hfeed⟩ := uartPutChar_cons ch
      cases right with
      | nil =>
          rw [uartPutStr, uartPutStr, List.flatMap_cons, hfed] at hsent
          cases hsent
      | cons otherCh others =>
          obtain ⟨otherFed, hotherFed, hotherFeed⟩ := uartPutChar_cons otherCh
          rw [uartPutStr, uartPutStr, List.flatMap_cons, List.flatMap_cons, hfed, hotherFed,
            List.cons_append, List.cons_append] at hsent
          obtain ⟨hch, hbehind⟩ := List.cons.inj hsent
          obtain rfl : ch = otherCh := UInt8.toNat_inj.mp (Int.ofNat_inj.mp hch)
          rw [hfeed, hotherFeed] at hbehind
          rw [ih (List.append_cancel_left hbehind)]

theorem toAllowFlags_lt (targetOutput : LightTargetOutput) :
    (lightTargetOutputToAllowFlags targetOutput).toNat < 64 := by
  unfold lightTargetOutputToAllowFlags
  simp only
  split_ifs <;> decide

end Text

section Line

/-- What makes the console name every number. -/
structure Nameable (shmem : LightShmem) : Prop where
  contract : (lightContractCheckSharedState (some shmem)).status = .ok
  vehicle : VehicleInRange shmem.vehicleState
  window : shmem.faultRecoveryWindowMs = lightFaultRecoveryWindowMs
  allowFlags : shmem.allowFlags = lightTargetOutputToAllowFlags shmem.targetOutput

/-- The status line of the console, up to the end of the line. -/
def consoleFields (shmem : LightShmem) : List (CText × CText) :=
  statusFields (lightVehicleGearName shmem.vehicleState.gear)
    (lightVehicleAmbientLightName shmem.vehicleState.ambientLight)
    (lightVehicleDriveModeName shmem.vehicleState.driveMode)
    (lightStatusSnapshotCapture shmem)

variable {shmem other : LightShmem}

theorem Nameable.statusLine (h : Nameable shmem) :
    callsText (emitStatusSnapshot shmem) = render (consoleFields shmem) ++ cText "\r" := by
  have hallow : shmem.allowFlags.toUInt8.toNat = shmem.allowFlags.toNat := by
    have hsmall := toAllowFlags_lt shmem.targetOutput
    rw [← h.allowFlags] at hsmall
    rw [UInt32.toNat_toUInt8]
    omega
  have hfaults : cText " active_faults=0x" = cText " active_faults=" ++ cText "0x" := rfl
  have hflags : cText "] allow=0x" = cText "] allow=" ++ cText "0x" := rfl
  have hlast : cText " last_fault=0x" = cText " last_fault=" ++ cText "0x" := rfl
  have hslash : cText "/" = [0x2F] := rfl
  simp only [callsText, emitStatusSnapshot, consoleFields, statusFields, render,
    List.flatMap_cons, List.flatMap_nil, ConsoleCall.text, hex8Text_eq, hallow, hfaults, hflags,
    hlast, hslash, sharedStateContractName_eq, lightStatusSnapshotCapture, h.window,
    UInt8.toNat_toUInt32, UInt16.toNat_toUInt32, List.append_assoc, List.append_nil]

theorem mem_of_toNat_le {numbers : List UInt8} (bound : Nat)
    (hnumbers : ∀ n ≤ bound, UInt8.ofNat n ∈ numbers) {number : UInt8}
    (hnumber : number.toNat ≤ bound) : number ∈ numbers := by
  have hmember := hnumbers number.toNat hnumber
  rwa [UInt8.ofNat_toNat] at hmember

theorem Nameable.modes (h : Nameable shmem) :
    shmem.faultMode ∈ faultModeNames.map Prod.fst ∧
      shmem.faultLifecycle ∈ faultLifecycleNames.map Prod.fst := by
  obtain ⟨-, hmode, hlifecycle, -⟩ := (shared_state_check_ok_iff shmem).mp h.contract
  exact ⟨mem_of_toNat_le 3 (by decide) (UInt8.le_iff_toNat_le.mp hmode),
    mem_of_toNat_le 2 (by decide) (UInt8.le_iff_toNat_le.mp hlifecycle)⟩

/-- Whatever memory the same snapshot text comes from, it is the same
snapshot. -/
theorem Nameable.snapshot_unique (h : Nameable shmem)
    (htext : lightStatusSnapshotText (lightStatusSnapshotCapture other) =
      lightStatusSnapshotText (lightStatusSnapshotCapture shmem)) :
    lightStatusSnapshotCapture other = lightStatusSnapshotCapture shmem := by
  obtain ⟨hmode, hlifecycle, hcontract, hrest⟩ := (statusText_eq_iff _ _).mp htext
  have hsameMode : (lightStatusSnapshotCapture shmem).faultMode =
      (lightStatusSnapshotCapture other).faultMode :=
    nameIn_injective (by decide) h.modes.1 hmode.symm
  have hsameLifecycle : (lightStatusSnapshotCapture shmem).lifecycle =
      (lightStatusSnapshotCapture other).lifecycle :=
    nameIn_injective (by decide) h.modes.2 hlifecycle.symm
  have hok : (lightStatusSnapshotCapture shmem).contractStatus = 0 := by
    simp only [lightStatusSnapshotCapture, h.contract]
    rfl
  have hsameContract := nameIn_injective (by decide) (hok ▸ by decide) hcontract.symm
  rw [hsameMode, hsameLifecycle, hsameContract] at hrest
  exact hrest

/-- The gear, the ambient light and the drive mode are among those with names. -/
theorem Nameable.vehicleNames (h : Nameable shmem) :
    shmem.vehicleState.gear ∈ vehicleGearNames.map Prod.fst ∧
      shmem.vehicleState.ambientLight ∈ vehicleAmbientNames.map Prod.fst ∧
      shmem.vehicleState.driveMode ∈ vehicleDriveModeNames.map Prod.fst := by
  have hfield : ∀ (field : UInt8) {value : UInt8} {bound : Nat},
      vehicleFieldBound field = some (UInt16.ofNat bound) →
      vehicleFieldValue shmem.vehicleState field = value.toUInt16 → bound < 65536 →
        value.toNat ≤ bound := by
    intro field value bound hbound hvalue hsmall
    have hle := UInt16.le_iff_toNat_le.mp (hvalue ▸ h.vehicle field _ hbound)
    rw [UInt8.toNat_toUInt16, UInt16.toNat_ofNat', Nat.mod_eq_of_lt hsmall] at hle
    exact hle
  have hgear : shmem.vehicleState.gear.toNat ≤ 3 :=
    hfield LightVehicleField.gear rfl rfl (by decide)
  have hambient : shmem.vehicleState.ambientLight.toNat ≤ 2 :=
    hfield LightVehicleField.ambientLight rfl rfl (by decide)
  have hmode : shmem.vehicleState.driveMode.toNat ≤ 3 :=
    hfield LightVehicleField.driveMode rfl rfl (by decide)
  exact ⟨mem_of_toNat_le 3 (by decide) hgear, mem_of_toNat_le 2 (by decide) hambient,
    mem_of_toNat_le 3 (by decide) hmode⟩

theorem consoleFields_valueChar (shmem : LightShmem) :
    ∀ field ∈ consoleFields shmem, ∀ ch ∈ field.2, ValueChar ch :=
  statusFields_valueChar (nameIn_valueChar (by decide) _) (nameIn_valueChar (by decide) _)
    (nameIn_valueChar (by decide) _) _

/-- The console's line tells the snapshot, whatever is sent after it. -/
theorem Nameable.line_unique (h : Nameable shmem) (hother : Nameable other)
    {tail more : CText} (htext : callsText (emitStatusSnapshot shmem) ++ tail =
      callsText (emitStatusSnapshot other) ++ more) :
    lightStatusSnapshotCapture shmem = lightStatusSnapshotCapture other := by
  have hend : ∀ behind, Stops ValueChar (cText "\r" ++ behind) := by
    intro behind ch hhead
    have hreturn : cText "\r" ++ behind = 0x0D :: behind := rfl
    rw [hreturn] at hhead
    obtain rfl := Option.some.inj hhead
    decide
  rw [h.statusLine, hother.statusLine, List.append_assoc, List.append_assoc] at htext
  obtain ⟨hmode, hlifecycle, hcontract, hgear, hambient, hdriveMode, hnumbers⟩ :=
    (statusLine_unique (consoleFields_valueChar shmem) (consoleFields_valueChar other)
      (hend tail) (hend more) htext).1
  obtain ⟨hgearListed, hambientListed, hdriveModeListed⟩ := h.vehicleNames
  have hsame : lightStatusSnapshotText (lightStatusSnapshotCapture shmem) =
      lightStatusSnapshotText (lightStatusSnapshotCapture other) := by
    refine (statusText_eq_iff _ _).mpr ⟨hmode, hlifecycle, hcontract, ?_⟩
    have hsameGear : (lightStatusSnapshotCapture shmem).vehicleState.gear =
        (lightStatusSnapshotCapture other).vehicleState.gear :=
      nameIn_injective (by decide) hgearListed hgear
    have hsameAmbient : (lightStatusSnapshotCapture shmem).vehicleState.ambientLight =
        (lightStatusSnapshotCapture other).vehicleState.ambientLight :=
      nameIn_injective (by decide) hambientListed hambient
    have hsameMode : (lightStatusSnapshotCapture shmem).vehicleState.driveMode =
        (lightStatusSnapshotCapture other).vehicleState.driveMode :=
      nameIn_injective (by decide) hdriveModeListed hdriveMode
    rw [← hsameGear, ← hsameAmbient, ← hsameMode] at hnumbers
    exact hnumbers
  exact hother.snapshot_unique hsame

/-- What commandin sends for a query is a function of the snapshot. -/
theorem queryAnswer_congr (parser otherParser : LightTransportParser)
    (hsame : lightStatusSnapshotCapture shmem = lightStatusSnapshotCapture other) :
    (consoleAnswer shmem parser (some makeQueryMessage)).sent =
      (consoleAnswer other otherParser (some makeQueryMessage)).sent := by
  have hmode : shmem.faultMode = other.faultMode :=
    congrArg LightStatusSnapshot.faultMode hsame
  have hlifecycle : shmem.faultLifecycle = other.faultLifecycle :=
    congrArg LightStatusSnapshot.lifecycle hsame
  have hticks : shmem.faultRecoveryTicks = other.faultRecoveryTicks :=
    congrArg LightStatusSnapshot.recoveryTicks hsame
  have helapsed : shmem.faultRecoveryElapsedMs = other.faultRecoveryElapsedMs :=
    congrArg LightStatusSnapshot.recoveryElapsedMs hsame
  have hmask : shmem.activeFaultMask = other.activeFaultMask :=
    congrArg LightStatusSnapshot.activeFaultMask hsame
  have hvehicle : shmem.vehicleState = other.vehicleState :=
    congrArg LightStatusSnapshot.vehicleState hsame
  have htarget : shmem.targetOutput = other.targetOutput :=
    congrArg LightStatusSnapshot.targetOutput hsame
  have hallow : shmem.allowFlags = other.allowFlags :=
    congrArg LightStatusSnapshot.allowFlags hsame
  have hlast : shmem.lastFaultCode = other.lastFaultCode :=
    congrArg LightStatusSnapshot.lastFaultCode hsame
  have htotal : shmem.totalFaultCount = other.totalFaultCount :=
    congrArg LightStatusSnapshot.totalFaultCount hsame
  have hlayout : shmem.layoutVersion = other.layoutVersion :=
    congrArg LightStatusSnapshot.layoutVersion hsame
  have hcontract : sharedStateContractName shmem = sharedStateContractName other := by
    simp only [sharedStateContractName, hlayout, hmode, hlifecycle, hticks, helapsed, hmask]
  have hline : emitStatusSnapshot shmem = emitStatusSnapshot other := by
    simp only [emitStatusSnapshot, hmode, hlifecycle, hticks, helapsed, hmask, hvehicle,
      htarget, hallow, hlast, htotal, hlayout, hcontract]
  have hpanel : emitDemoStatusPanel shmem = emitDemoStatusPanel other := by
    simp only [emitDemoStatusPanel, demoFaultColor, hmode, hlifecycle, helapsed, hvehicle,
      htarget, hallow, hcontract]
  have hroute : lightTransportRouteForMessage makeQueryMessage = .commandin := rfl
  simp only [consoleAnswer, hroute, if_true, hline, hpanel]

theorem Nameable.queryAnswer_iff (h : Nameable shmem) (hother : Nameable other)
    (parser otherParser : LightTransportParser) :
    (consoleAnswer shmem parser (some makeQueryMessage)).sent =
        (consoleAnswer other otherParser (some makeQueryMessage)).sent ↔
      lightStatusSnapshotCapture shmem = lightStatusSnapshotCapture other := by
  refine ⟨?_, queryAnswer_congr parser otherParser⟩
  intro hsent
  have hroute : lightTransportRouteForMessage makeQueryMessage = .commandin := rfl
  simp only [consoleAnswer, hroute, if_true, ← uartPutStr_append] at hsent
  have htext := uartPutStr_injective hsent
  rw [List.append_assoc, List.append_assoc] at htext
  exact h.line_unique hother (List.append_cancel_left htext)

end Line

section Board

/-- faultmg stores the one window there is, and nobody else stores one. -/
theorem window_kept :
    Keeps board BoardRuns BoardSafe (fun _ => False) (fun _ _ => False)
      (fun memory => memory.shmem.faultRecoveryWindowMs = lightFaultRecoveryWindowMs) := by
  refine Route.keeps ⟨fun _ _ howes => howes.elim, fun _ _ hpays => hpays.elim⟩ ?_
  intro reading memory domain piece effect houtcome hpiece
  refine Or.inr (Or.inr ⟨id, ?_⟩)
  cases houtcome with
  | stored store rest =>
      intro hwindow
      cases store <;> first | exact hwindow | rfl
  | _ => exact id

theorem board_nameable (regions : BoardRegions) (events : List BoardEvent) :
    Nameable (run BoardEvent.step (boardInit regions) events).memory.shmem := by
  have hsafe := (board_sound regions events).memory
  refine ⟨(shared_state_check_ok_iff _).mpr ⟨hsafe.layout, hsafe.published⟩, hsafe.vehicle,
    ?_, hsafe.allowFlags⟩
  rcases window_kept.run board_closed (boardInit_sound regions) (Or.inl rfl) events with
    hwindow | (⟨_, _, howes⟩ | ⟨_, _, _, hpays⟩)
  · exact hwindow
  · exact howes.elim
  · exact hpays.elim

/-- At every point of every run of the board: the line commandin answers a
query with is the formatted snapshot, with the gear, the ambient light and the
drive mode by name; no shared memory with another captured snapshot gives the
same snapshot text; and two answers, of any two points of any two runs, are the
same exactly when the snapshots are. -/
theorem board_console_tells_snapshot (regions : BoardRegions) (events : List BoardEvent) :
    let shmem := (run BoardEvent.step (boardInit regions) events).memory.shmem
    callsText (emitStatusSnapshot shmem) = render (consoleFields shmem) ++ cText "\r" ∧
      (∀ other : LightShmem,
        lightStatusSnapshotText (lightStatusSnapshotCapture other) =
            lightStatusSnapshotText (lightStatusSnapshotCapture shmem) ↔
          lightStatusSnapshotCapture other = lightStatusSnapshotCapture shmem) ∧
      ∀ (otherRegions : BoardRegions) (otherEvents : List BoardEvent)
        (parser otherParser : LightTransportParser),
        let other := (run BoardEvent.step (boardInit otherRegions) otherEvents).memory.shmem
        (consoleAnswer shmem parser (some makeQueryMessage)).sent =
            (consoleAnswer other otherParser (some makeQueryMessage)).sent ↔
          lightStatusSnapshotCapture shmem = lightStatusSnapshotCapture other := by
  have h := board_nameable regions events
  exact ⟨h.statusLine, fun other => ⟨h.snapshot_unique, congrArg lightStatusSnapshotText⟩,
    fun otherRegions otherEvents parser otherParser =>
      h.queryAnswer_iff (board_nameable otherRegions otherEvents) parser otherParser⟩

end Board

end LightCtrl
