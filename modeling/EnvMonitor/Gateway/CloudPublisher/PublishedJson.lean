import EnvMonitor.Gateway.CloudPublisher.PublishedHealth
import EnvMonitor.Gateway.CloudPublisher.PublishedTelemetry

/-!
# The published JSON

The text of every message reads back as its members.
-/

namespace EnvMonitor.Gateway.CloudPublisher.Published

open FlatJson JsonText LifecycleController Numerics

/-!
## Alarms
-/

def alarmMembers (raised : RaisedAlarm) : List Field :=
  [⟨"sensor_id", (alarmNames_word raised.named).content, by decide +kernel⟩,
    ⟨"alarm_type", (alarmTypeStr_word raised.event.alarmType).content, by decide +kernel⟩,
    ⟨"measured_value_raw", .ld raised.event.measuredValueRaw.toInt, by decide +kernel⟩,
    ⟨"threshold_value_raw", .ld raised.event.thresholdValueRaw.toInt, by decide +kernel⟩,
    ⟨"source", (alarmSourceStr_word raised.event.source).content, by decide +kernel⟩]

theorem alarm_spells (echo : List UInt8) (raised : RaisedAlarm) :
    Spells echo 252 (alarmCalls raised.event) (alarmMessage raised.event) := by
  refine spells_fields (alarmMembers raised)
    [("sensor_id", convText), ("alarm_type", convText), ("measured_value_raw", convLd),
      ("threshold_value_raw", convLd), ("source", convText)]
    rfl rfl rfl (by decide +kernel) (by decide +kernel) ?_
  unfold alarmMembers
  simp only [List.forall_mem_cons]
  exact ⟨word_fits _, word_fits _, int32_fits _, int32_fits _, word_fits _, fun _ h => (by cases h)⟩

/-!
## Results of commands
-/

theorem req_spells (echo : List UInt8) {req : Option Nat}
    (h : forall n, req = some n -> n < 2 ^ 32) :
    Spells echo 41 (appendReq req) (optional "req" req) := by
  cases req with
  | none => exact Spells.nil
  | some n =>
      refine spells_fields [⟨"req", .lu n, by decide⟩] [("req", convLu)] rfl rfl rfl
        (by decide +kernel) (by decide +kernel) (forall_mem_one ?_)
      exact fits_lu (Nat.lt_trans (h n rfl) (by decide)) (by decide)

theorem key_spells {key : List UInt8} (hplain : PlainKey key) (hshort : key.length < cpCfgKeyLen) :
    Spells key 41 [prvPrint ",\"key\":\"%s\"" [.s key]] [(ascii "key", .str key)] := by
  have htext : (Content.string key hplain).text = 0x22 :: (key ++ [0x22]) := rfl
  have hquote : Utf8 [0x22] := utf8_of_all (by decide)
  refine spells_shapes [⟨"key", .string key hplain, by decide⟩] [("key", convText)] rfl rfl rfl
    (by decide +kernel) (by decide +kernel) (forall_mem_one ?_)
    (fun hecho => forall_mem_one (hquote.append (hecho.append hquote)))
  rw [htext, List.length_cons, List.length_append, List.length_singleton]
  change key.length < 33 at hshort
  change _ ≤ 34
  omega

theorem outcome_spells {status : CpCfgStatus} {key : List UInt8} (hplain : PlainKey key)
    (hshort : key.length < cpCfgKeyLen) :
    Spells key 129 (appendConfigOutcome status key)
      (if status = .ok then [(ascii "result", .str (ascii "applied"))]
      else
        [(ascii "result", .str (ascii "rejected")),
          (ascii "reason", .str (cpCfgReasonString status))] ++
          if key ≠ [] ∧ namesKey status = true then [(ascii "key", .str key)] else []) := by
  unfold appendConfigOutcome
  split
  · refine spells_fields
      [⟨"result", .fixed ['a', 'p', 'p', 'l', 'i', 'e', 'd'] (by decide), by decide⟩]
      [("result", ['"', 'a', 'p', 'p', 'l', 'i', 'e', 'd', '"'])] rfl rfl rfl
      (by decide +kernel) (by decide +kernel) (forall_mem_one ?_)
    exact fits_quoted rfl (utf8_of_all (by decide)) (by decide)
  · have hrejected : Spells key 88
        [prvPrint ",\"result\":\"rejected\",\"reason\":\"%s\"" [.s (cpCfgReasonString status)]]
        [(ascii "result", .str (ascii "rejected")),
          (ascii "reason", .str (cpCfgReasonString status))] := by
      refine spells_fields
        [⟨"result", .fixed ['r', 'e', 'j', 'e', 'c', 't', 'e', 'd'] (by decide), by decide⟩,
          ⟨"reason", (cfgReasonString_word status).content, by decide⟩]
        [("result", ['"', 'r', 'e', 'j', 'e', 'c', 't', 'e', 'd', '"']), ("reason", convText)]
        rfl rfl rfl (by decide +kernel) (by decide +kernel) ?_
      simp only [List.forall_mem_cons]
      exact ⟨fits_quoted rfl (utf8_of_all (by decide)) (by decide), word_fits _,
        fun _ h => (by cases h)⟩
    split
    · exact hrejected.append (key_spells hplain hshort)
    · have hnone : Spells key 41 [] [] := Spells.nil
      exact hrejected.append hnone

def configEvent : Field :=
  ⟨"event", .fixed ['c', 'o', 'n', 'f', 'i', 'g'] (by decide), by decide +kernel⟩

theorem configResult_spells (echoed : EchoedResult) :
    Spells echoed.result.key 213 (configCalls echoed.result) (configMessage echoed.result) := by
  have hevent : Spells echoed.result.key 43 [prvPrint ",\"event\":\"config\"" []]
      [(ascii "event", .str (ascii "config"))] := by
    refine spells_fields [configEvent]
      [("event", ['"', 'c', 'o', 'n', 'f', 'i', 'g', '"'])] rfl rfl rfl
      (by decide +kernel) (by decide +kernel) (forall_mem_one ?_)
    exact fits_quoted rfl (utf8_of_all (by decide)) (by decide)
  exact hevent.append ((req_spells _ echoed.req_fits).append
    (outcome_spells echoed.plain echoed.short))

def controlEvent (cmd : CpControlCmd) : List Field :=
  [⟨"event", .fixed ['c', 'o', 'n', 't', 'r', 'o', 'l'] (by decide), by decide +kernel⟩,
    ⟨"command", (controlName_word cmd).content, by decide +kernel⟩]

theorem controlResult_spells (echo : List UInt8) (cmd : CpControlCmd) (req : Option UInt32)
    (accepted : Bool) (reason : Option ControlReason) :
    Spells echo 217 (controlCalls cmd req accepted reason)
      (controlMessage cmd req accepted reason) := by
  have hevent : Spells echo 88
      [prvPrint ",\"event\":\"control\",\"command\":\"%s\"" [.s (cpControlName cmd)]]
      [(ascii "event", .str (ascii "control")), (ascii "command", .str (cpControlName cmd))] := by
    refine spells_fields (controlEvent cmd)
      [("event", ['"', 'c', 'o', 'n', 't', 'r', 'o', 'l', '"']), ("command", convText)]
      rfl rfl rfl (by decide +kernel) (by decide +kernel) ?_
    unfold controlEvent
    simp only [List.forall_mem_cons]
    exact ⟨fits_quoted rfl (utf8_of_all (by decide)) (by decide), word_fits _,
      fun _ h => (by cases h)⟩
  have hreq : Spells echo 41 (appendReq (req.map UInt32.toNat))
      (optional "req" (req.map UInt32.toNat)) := by
    apply req_spells
    intro n hn
    rcases Option.map_eq_some_iff.mp hn with ⟨word, _, hword⟩
    rw [← hword]
    exact word.toNat_lt
  have hresult : Spells echo 44
      [prvPrint ",\"result\":\"%s\"" [.s (acceptedText accepted)]]
      [(ascii "result", .str (acceptedText accepted))] :=
    spells_fields [⟨"result", (acceptedText_word accepted).content, by decide⟩]
      [("result", convText)] rfl rfl rfl (by decide +kernel) (by decide +kernel)
      (forall_mem_one (word_fits (acceptedText_word accepted)))
  have hreason : Spells echo 44 (appendControlReason reason)
      (reason.toList.map fun reason => (ascii "reason", .str (controlReasonText reason))) := by
    cases reason with
    | none => exact Spells.nil
    | some reason =>
        exact spells_fields [⟨"reason", (controlReasonText_word reason).content, by decide⟩]
          [("reason", convText)] rfl rfl rfl (by decide +kernel) (by decide +kernel)
          (forall_mem_one (word_fits (controlReasonText_word reason)))
  exact ((hevent.append hreq).append hresult).append hreason

/-!
## Firmware updates
-/

theorem slotLetter_word (slot : FirmwareStore.FirmwareSlot) : Word 32 [slotLetter slot] := by
  unfold slotLetter
  split
  · exact word_of_isWord (by decide)
  · exact word_of_isWord (by decide)

def requestMembers (req : UsChunkRequest) : List Field :=
  [⟨"job", .lu req.job.toNat, by decide +kernel⟩,
    ⟨"slot", .letter (slotLetter req.slot) (slotLetter_word req.slot).plain, by decide +kernel⟩,
    ⟨"offset", .lu req.offset.toNat, by decide +kernel⟩,
    ⟨"len", .lu req.len.toNat, by decide +kernel⟩]

theorem otaRequest_spells (echo : List UInt8) (req : UsChunkRequest) :
    Spells echo 168 (otaRequestCalls req) (otaRequestMessage req) := by
  refine spells_fields (requestMembers req)
    [("job", convLu), ("slot", ['"', '%', 'c', '"']), ("offset", convLu), ("len", convLu)]
    rfl rfl rfl (by decide +kernel) (by decide +kernel) ?_
  unfold requestMembers
  simp only [List.forall_mem_cons]
  have hone : [slotLetter req.slot].length + 2 ≤ contentMax := Nat.le_of_ble_eq_true rfl
  exact ⟨uint32_fits _, fits_quoted rfl (utf8_of_ascii (slotLetter_word req.slot).ascii) hone,
    uint32_fits _, uint32_fits _, fun _ h => (by cases h)⟩

def otaEvent : Field := ⟨"event", .fixed ['o', 't', 'a'] (by decide), by decide +kernel⟩

theorem otaReport_spells (echo : List UInt8) (rep : UsOtaReport) :
    Spells echo 264 (otaReportCalls rep) (otaReportMessage rep) := by
  have hevent : Spells echo 43 [prvPrint ",\"event\":\"ota\"" []]
      [(ascii "event", .str (ascii "ota"))] := by
    refine spells_fields [otaEvent]
      [("event", ['"', 'o', 't', 'a', '"'])] rfl rfl rfl
      (by decide +kernel) (by decide +kernel) (forall_mem_one ?_)
    exact fits_quoted rfl (utf8_of_all (by decide)) (by decide)
  have hjob : Spells echo 41 (appendJob rep.job) (optional "job" (rep.job.map UInt32.toNat)) := by
    cases rep.job with
    | none => exact Spells.nil
    | some job =>
        exact spells_fields [⟨"job", .lu job.toNat, by decide⟩] [("job", convLu)] rfl rfl rfl
          (by decide +kernel) (by decide +kernel) (forall_mem_one (uint32_fits _))
  have hresult : Spells echo 44 [prvPrint ",\"result\":\"%s\"" [.s (prvResultStr rep.result)]]
      [(ascii "result", .str (prvResultStr rep.result))] :=
    spells_fields [⟨"result", (resultStr_word rep.result).content, by decide⟩]
      [("result", convText)] rfl rfl rfl (by decide +kernel) (by decide +kernel)
      (forall_mem_one (word_fits (resultStr_word rep.result)))
  have hreason : Spells echo 44 (appendReason rep.reason)
      (if rep.reason = .none then []
      else [(ascii "reason", .str (updateServiceReasonString rep.reason))]) := by
    unfold appendReason
    split
    · exact Spells.nil
    · exact spells_fields [⟨"reason", (reasonString_word rep.reason).content, by decide⟩]
        [("reason", convText)] rfl rfl rfl (by decide +kernel) (by decide +kernel)
        (forall_mem_one (word_fits (reasonString_word rep.reason)))
  have hversion : Spells echo 92 (appendVersion rep.version rep.rollbackCount)
      (if rep.version = 0 then []
      else
        [(ascii "version", versionText rep.version),
          (ascii "rollbacks", .int rep.rollbackCount.toNat)]) := by
    unfold appendVersion
    split
    · exact Spells.nil
    · refine spells_fields
        [⟨"version", versionContent rep.version, by decide⟩,
          ⟨"rollbacks", .lu rep.rollbackCount.toNat, by decide⟩]
        [("version", convVersion), ("rollbacks", convLu)]
        rfl rfl rfl (by decide +kernel) (by decide +kernel) ?_
      simp only [List.forall_mem_cons]
      exact ⟨version_fits _, uint32_fits _, fun _ h => (by cases h)⟩
  exact (((hevent.append hjob).append hresult).append hreason).append hversion

/-!
## Every message
-/

section Main

variable {serial : DeviceSerial} {size : Nat} {start : List UInt8}

theorem complete_of_convertible (hserial : Word 32 serial.text) {p : Payload}
    (h : p.Convertible) (hsize : 1 ≤ size) (hroom : size ≤ start.length) :
    exists buf n, p.serialise size start serial = some (buf, n) ∧
      Complete serial p size start buf n := by
  cases p with
  | telemetry snap fd ts =>
      have hspells := (onboard_spells [] h.1 h.2.1 h.2.2).append (fieldDevice_spells [] fd)
      exact complete_of_spells hserial ts rfl (List.append_assoc ..) hspells
        (Nat.le_of_ble_eq_true rfl) hsize hroom
  | health snap fwVersion ts =>
      exact complete_of_spells hserial ts rfl rfl (health_spells [] snap fwVersion) (Nat.le_of_ble_eq_true rfl)
        hsize hroom
  | alarm raised =>
      exact complete_of_spells hserial raised.event.timestamp rfl rfl (alarm_spells [] raised)
        (Nat.le_of_ble_eq_true rfl) hsize hroom
  | configResult echoed ts =>
      exact complete_of_spells hserial ts rfl rfl (configResult_spells echoed) (Nat.le_of_ble_eq_true rfl)
        hsize hroom
  | controlResult cmd req accepted reason ts =>
      exact complete_of_spells hserial ts rfl rfl
        (controlResult_spells [] cmd req accepted reason) (Nat.le_of_ble_eq_true rfl) hsize hroom
  | otaRequest req ts =>
      exact complete_of_spells hserial ts rfl rfl (otaRequest_spells [] req) (Nat.le_of_ble_eq_true rfl)
        hsize hroom
  | otaReport rep ts =>
      exact complete_of_spells hserial ts rfl rfl (otaReport_spells [] rep) (Nat.le_of_ble_eq_true rfl)
        hsize hroom

theorem telemetry_undefined (hserial : Word 32 serial.text) {snap : SensorSnapshot}
    {fd : Option FdReading} {ts : TimeProviderTs}
    (h : ¬(Payload.telemetry snap fd ts).Convertible) (hsize : cpJsonBufSize ≤ size)
    (hroom : size ≤ start.length) :
    cpSerialiseTelemetry size start snap fd ts serial = none := by
  change 2048 ≤ size at hsize
  have hwhole : forall {calls message room}, Spells [] room calls message -> room ≤ 597 ->
      onboardCalls snap ++ prvAppendFieldDevice fd =
        calls ++ none :: (onboardCalls snap ++ prvAppendFieldDevice fd).drop (calls.length + 1) ->
      cpSerialiseTelemetry size start snap fd ts serial = none := by
    intro calls message room hspells hle hcalls
    unfold cpSerialiseTelemetry
    rw [hcalls]
    exact undefined_of_spells hserial ts hspells (by omega) hroom _
  by_cases htemp : (snap .temperature).value.toInt.natAbs + (5 : Int) < 2 ^ 31
  · have hfirst := opt_spells [] "temperature_deci_c" (by decide) (snap .temperature).valid
      (wire_temp (by omega : (snap .temperature).value.toInt.natAbs + 5 < 2 ^ 31))
    by_cases hhumidity : (snap .humidity).value.toInt.natAbs + (50 : Int) < 2 ^ 31
    · have hsecond := hfirst.append (opt_spells [] "humidity_pct" (by decide)
        (snap .humidity).valid
        (wire_humidity (by omega : (snap .humidity).value.toInt.natAbs + 50 < 2 ^ 31)))
      have hpressure : ¬(snap .pressure).value.toInt.natAbs + (5 : Int) < 2 ^ 31 := by
        intro hpressure
        exact h ⟨by omega, by omega, by omega⟩
      have hnone : prvWirePressure (snap .pressure).value.toInt = none := by
        unfold prvWirePressure
        rw [@prvDivRound_none (snap .pressure).value 10 5 rfl (by decide) hpressure]
        rfl
      refine hwhole hsecond (by decide +kernel) ?_
      unfold onboardCalls
      rw [hnone]
      rfl
    · have hnone : prvWireHumidity (snap .humidity).value.toInt = none := by
        unfold prvWireHumidity
        rw [@prvDivRound_none (snap .humidity).value 100 50 rfl (by decide) hhumidity]
        rfl
      refine hwhole hfirst (by decide +kernel) ?_
      unfold onboardCalls
      rw [hnone]
      rfl
  · have hnone : prvWireTemp (snap .temperature).value.toInt = none := by
      unfold prvWireTemp
      exact @prvDivRound_none (snap .temperature).value 10 5 rfl (by decide) htemp
    have hempty : Spells [] 0 [] [] := Spells.nil
    refine hwhole hempty (by decide) ?_
    unfold onboardCalls
    rw [hnone]
    rfl

end Main

/-- For every buffer, a message is complete or not there at all, exactly when its readings can be
rounded. -/
theorem published_complete_iff (uid0 uid1 uid2 : UInt32) (p : Payload) :
    (forall size start, 1 ≤ size -> size ≤ start.length ->
      exists buf n, p.serialise size start (prvReadDeviceSerial uid0 uid1 uid2) = some (buf, n) ∧
        Complete (prvReadDeviceSerial uid0 uid1 uid2) p size start buf n) ↔ p.Convertible := by
  have hserial := serial_word uid0 uid1 uid2
  constructor
  · intro h
    by_contra hnot
    cases p with
    | telemetry snap fd ts =>
        have hlength : (List.replicate cpJsonBufSize (0 : UInt8)).length = cpJsonBufSize :=
          List.length_replicate
        rcases h cpJsonBufSize (List.replicate cpJsonBufSize 0) (by decide)
          (le_of_eq hlength.symm) with ⟨buf, n, hrun, _⟩
        have hnone := telemetry_undefined hserial hnot le_rfl (le_of_eq hlength.symm)
        change cpSerialiseTelemetry _ _ snap fd ts _ = _ at hrun
        rw [hnone] at hrun
        cases hrun
    | _ => exact hnot trivial
  · intro h size start hsize hroom
    exact complete_of_convertible hserial h hsize hroom

def farSnapshot : SensorSnapshot := fun _ => ⟨2147483647, true⟩

/-- A rejected message whose key is not in UTF-8. -/
def strayMessage : List UInt8 := ascii "\x7b\"" ++ [0xFF] ++ ascii "\":1\x7d"

/-- The rounding of the largest reading overflows, and the stray key is echoed as it came. -/
theorem far_reading_and_stray_key :
    (cpSerialiseTelemetry cpJsonBufSize (List.replicate cpJsonBufSize 0) farSnapshot none
      ⟨0, .unsynchronised⟩ (prvReadDeviceSerial 0 0 0)).isNone = true ∧
    exists buf n, cpSerialiseConfigResult cpJsonBufSize (List.replicate cpJsonBufSize 0)
        (prvApplyConfig true strayMessage ConfigService.configServiceInit).1
        ⟨0, .unsynchronised⟩ (prvReadDeviceSerial 0 0 0) = some (buf, n) ∧
      n ≠ 0 ∧ ¬Utf8 (buf.take n) := by
  refine ⟨by decide +kernel, ?_⟩
  have hfacts : (cpSerialiseConfigResult cpJsonBufSize (List.replicate cpJsonBufSize 0)
      (prvApplyConfig true strayMessage ConfigService.configServiceInit).1
      ⟨0, .unsynchronised⟩ (prvReadDeviceSerial 0 0 0)).map
        (fun r => decide (r.2 ≠ 0 ∧ 0xFF ∈ r.1.take r.2)) = some true := by
    decide +kernel
  rcases Option.map_eq_some_iff.mp hfacts with ⟨⟨buf, n⟩, hrun, hfact⟩
  have hfact := of_decide_eq_true hfact
  exact ⟨buf, n, hrun, hfact.1, not_utf8_of_mem hfact.2⟩

end EnvMonitor.Gateway.CloudPublisher.Published
