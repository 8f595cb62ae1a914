import EnvMonitor.Gateway.CloudPublisher.ConfigGrammar
import EnvMonitor.Gateway.CloudPublisher.Published

/-!
# What is passed to the serialisers

The texts that reach a serialiser from outside: the serial number, the names of the sensors that
alarm, and the key of a /config message that was rejected.
-/

namespace EnvMonitor.Gateway.CloudPublisher.Published

open FlatJson JsonText ConfigService

/-!
## Echoed keys
-/

theorem plainKey_ascii {name : String} (h : name.toList.all plainChar = true) :
    PlainKey (ascii name) :=
  plainKey_bytesOf h

/-- A key that can be echoed. -/
structure EchoKey (key : List UInt8) : Prop where
  plain : PlainKey key
  short : key.length < cpCfgKeyLen

/-- What a result may take from a command. -/
structure Echoable (cmd : CpCfgCmd) : Prop where
  req : forall req, cmd.req = some req -> req < 2 ^ 32
  badKey : EchoKey cmd.badKey

theorem EchoKey.nil : EchoKey [] := ⟨fun _ h => (by cases h), by decide⟩

theorem EchoKey.name {d : CpKeyDef} (h : d ∈ cpKeys) : EchoKey (ascii d.name) := by
  have hall : cpKeys.all (fun d => d.name.toList.all plainChar) = true := by decide +kernel
  exact ⟨plainKey_ascii (List.all_eq_true.mp hall d h), cpKeys_short h⟩

theorem scanMember_echoKey {rest key left : List UInt8} {value : Int}
    (h : scanMember rest = some (key, value, left)) : EchoKey key := by
  unfold scanMember at h
  split at h
  · cases h
  · rename_i key' afterKey hkey
    rcases prvScanKey_iff.mp hkey with ⟨-, hplain, hshort⟩
    split at h
    · split at h
      · cases h
      · cases h
        exact ⟨hplain, hshort⟩
    · cases h

theorem Echoable.add {out : CpCfgCmd} (h : Echoable out) {key : List UInt8} (hkey : EchoKey key)
    (value : Int) : Echoable (prvAddMember out key value).2 := by
  unfold prvAddMember
  split
  · split
    · exact h
    · rename_i hfits
      refine ⟨fun req hreq => ?_, h.badKey⟩
      cases hreq
      omega
  · split
    · exact ⟨h.req, hkey⟩
    · split
      · exact ⟨h.req, hkey⟩
      · split
        · exact h
        · split
          · exact h
          · split
            · exact ⟨h.req, hkey⟩
            · exact ⟨h.req, h.badKey⟩

theorem parseMembers_echoable (fuel : Nat) (rest : List UInt8) {out : CpCfgCmd}
    (h : Echoable out) : Echoable (parseMembers fuel rest out).2 := by
  induction fuel generalizing rest out with
  | zero => exact h
  | succ fuel ih =>
      unfold parseMembers
      split
      · exact h
      · rename_i key value left hscan
        have hadded := h.add (scanMember_echoKey hscan) value
        split
        · rename_i out' hok
          rw [hok] at hadded
          split
          · rw [closeObject_pairs]
            exact hadded
          · exact ih _ hadded
          · exact hadded
        · exact hadded

theorem cpParseConfigCommand_echoable (payload : List UInt8) :
    Echoable (cpParseConfigCommand payload).2 := by
  have hempty : Echoable ⟨none, [], []⟩ := ⟨fun _ h => (by cases h), .nil⟩
  unfold cpParseConfigCommand
  dsimp only
  split
  · split
    · exact hempty
    · exact parseMembers_echoable _ _ hempty
  · exact hempty

/-- The pair that stops the loop is one of the command's. -/
theorem applyPairs_stop {changes applied : List Change} {s s' : Service} {pair : CpCfgPair}
    (h : applyPairs applied changes s = (some pair, s')) : pair ∈ changes.map Prod.fst := by
  induction changes generalizing applied s with
  | nil => cases h
  | cons change rest ih =>
      unfold applyPairs at h
      split at h
      · exact List.mem_cons_of_mem _ (ih h)
      · cases h
        exact List.mem_cons_self

theorem prvApplyConfig_echoable (operational : Bool) (payload : List UInt8) (s : Service) :
    (forall req, (prvApplyConfig operational payload s).1.req = some req -> req < 2 ^ 32) ∧
      EchoKey (prvApplyConfig operational payload s).1.key := by
  have hcmd := cpParseConfigCommand_echoable payload
  have hformed := cpParseConfigCommand_wellFormed payload
  unfold prvApplyConfig
  dsimp only
  split
  · exact ⟨hcmd.req, .nil⟩
  · split
    · exact ⟨hcmd.req, hcmd.badKey⟩
    · split
      · exact ⟨hcmd.req, .nil⟩
      · rename_i pair s' hstop
        have hpair := applyPairs_stop hstop
        rw [List.map_map] at hpair
        rcases List.mem_map.mp hpair with ⟨other, hother, heq⟩
        change other = pair at heq
        rw [heq] at hother
        rcases hformed.allowed pair hother with ⟨d, hd, -, -, hform⟩
        refine ⟨hcmd.req, ?_⟩
        rw [hform]
        exact .name hd

/-- A /config message with what it meets; its result is what `prv_apply_config` leaves. -/
structure EchoedResult where
  operational : Bool
  payload : List UInt8
  service : Service

namespace EchoedResult

def result (echoed : EchoedResult) : ConfigResult :=
  (prvApplyConfig echoed.operational echoed.payload echoed.service).1

theorem plain (echoed : EchoedResult) : PlainKey echoed.result.key :=
  (prvApplyConfig_echoable _ _ _).2.plain

theorem short (echoed : EchoedResult) : echoed.result.key.length < cpCfgKeyLen :=
  (prvApplyConfig_echoable _ _ _).2.short

theorem req_fits (echoed : EchoedResult) :
    forall req, echoed.result.req = some req -> req < 2 ^ 32 :=
  (prvApplyConfig_echoable _ _ _).1

end EchoedResult

/-!
## Names of sensors
-/

/-- The names that alarm events carry. -/
def alarmNames : List (List UInt8) :=
  [ascii "temperature", ascii "humidity", ascii "pressure"]

/-- An alarm that one of the two callbacks builds. -/
structure RaisedAlarm where
  event : AlarmEvent
  raised : (exists getLimit lastRaised sensor transition value ts,
      prvAlarmEventCb getLimit lastRaised sensor transition value ts = some event) ∨
    exists flagsBefore flagsNow fd ts, event ∈ prvFdAlarmCb flagsBefore flagsNow fd ts

theorem prvSensorName_named {sensor : SensorId} {name : String}
    (h : prvSensorName sensor = some name) : nameField name ∈ alarmNames := by
  cases sensor <;> cases h <;> decide +kernel

theorem fdChannelName_named (channel : Nat) : nameField (fdChannelName channel) ∈ alarmNames := by
  unfold fdChannelName
  split
  · decide +kernel
  · split <;> decide +kernel

theorem RaisedAlarm.named (alarm : RaisedAlarm) : alarm.event.sensorName ∈ alarmNames := by
  rcases alarm.raised with ⟨getLimit, lastRaised, sensor, transition, value, ts, hraised⟩ |
    ⟨flagsBefore, flagsNow, fd, ts, hraised⟩
  · rcases Option.map_eq_some_iff.mp hraised with ⟨name, hname, hevent⟩
    rw [← hevent]
    exact prvSensorName_named hname
  · rcases List.mem_map.mp hraised with ⟨bit, _, hevent⟩
    rw [← hevent]
    exact fdChannelName_named (bit / 2)

theorem alarmNames_word {name : List UInt8} (h : name ∈ alarmNames) : Word 32 name := by
  have hall : forall name, name ∈ alarmNames -> isWord 32 name = true := by decide +kernel
  exact word_of_isWord (hall name h)

/-!
## The serial number
-/

theorem hexDigit_bounds {n : Nat} (h : n < 16) :
    0x30 ≤ (hexDigit n).toNat ∧ (hexDigit n).toNat < 0x5C ∨
      0x61 ≤ (hexDigit n).toNat ∧ (hexDigit n).toNat < 0x67 := by
  unfold hexDigit
  split
  · rw [UInt8.toNat_ofNat']
    omega
  · rw [UInt8.toNat_ofNat']
    omega

theorem mem_hexWord {w : UInt32} {c : UInt8} (h : c ∈ hexWord w) :
    exists n, n < 16 ∧ c = hexDigit n := by
  rcases List.mem_map.mp h with ⟨i, _, hc⟩
  exact ⟨w.toNat / 16 ^ i % 16, Nat.mod_lt _ (by decide), hc.symm⟩

theorem mem_serial {uid0 uid1 uid2 : UInt32} {c : UInt8}
    (h : c ∈ (prvReadDeviceSerial uid0 uid1 uid2).text) : exists n, n < 16 ∧ c = hexDigit n := by
  rcases List.mem_append.mp h with h | h
  · rcases List.mem_append.mp h with h | h
    · exact mem_hexWord h
    · exact mem_hexWord h
  · exact mem_hexWord h

theorem serial_word (uid0 uid1 uid2 : UInt32) :
    Word 32 (prvReadDeviceSerial uid0 uid1 uid2).text := by
  have hbounds : forall c, c ∈ (prvReadDeviceSerial uid0 uid1 uid2).text ->
      0x30 ≤ c.toNat ∧ c.toNat < 0x5C ∨ 0x61 ≤ c.toNat ∧ c.toNat < 0x67 := by
    intro c hc
    rcases mem_serial hc with ⟨n, hn, heq⟩
    rw [heq]
    exact hexDigit_bounds hn
  have hne : forall c d, c ∈ (prvReadDeviceSerial uid0 uid1 uid2).text ->
      (d = 0x22 ∨ d = 0x5C) -> c ≠ d := by
    rintro c d hc (hd | hd) heq
    · rw [heq, hd] at hc
      exact absurd (hbounds 0x22 hc) (by decide)
    · rw [heq, hd] at hc
      exact absurd (hbounds 0x5C hc) (by decide)
  constructor
  · intro c hc
    have hrange := hbounds c hc
    refine ⟨?_, hne c 0x22 hc (.inl rfl), hne c 0x5C hc (.inr rfl)⟩
    rw [UInt8.le_iff_toNat_le]
    change 32 ≤ _
    omega
  · intro c hc
    have hrange := hbounds c hc
    omega
  · have hshort := (prvReadDeviceSerial uid0 uid1 uid2).short
    exact le_trans (Nat.le_of_lt hshort) (by decide)

end EnvMonitor.Gateway.CloudPublisher.Published
