import EnvMonitor.Gateway.ConfigService.Sound

/-!
# Parsing a /config command

A flat JSON object of integers.  The scanners take the bytes that are left and return what is left
after them.
-/

namespace EnvMonitor.Gateway.CloudPublisher

open ConfigService

/-- The bytes of a string literal. -/
def ascii (s : String) : List UInt8 := s.toList.map fun c => UInt8.ofNat c.toNat

abbrev cpCfgMaxKeys : Nat := 8
abbrev cpCfgKeyLen : Nat := 33
abbrev cpMaxDigits : Nat := 15

inductive CpCfgStatus where
  | ok
  | badJson
  | unknownKey
  | notRemote
  | tooManyKeys
  | invalidValue
  | busy
  deriving DecidableEq, Repr

/-- `cp_key_def_t` -/
structure CpKeyDef where
  name : String
  id : ConfigParamId
  size : Nat
  isSigned : Bool
  remote : Bool

/-- `s_keys` -/
def cpKeys : List CpKeyDef :=
  [⟨"polling_interval_ms", .numeric .pollInterval, 4, false, true⟩,
   ⟨"modbus_poll_period_ms", .numeric .modbusPollPeriod, 4, false, true⟩,
   ⟨"telemetry_interval_ms", .numeric .telemetryInterval, 4, false, true⟩,
   ⟨"health_interval_ms", .numeric .healthInterval, 4, false, true⟩,
   ⟨"temp_alarm_high", .numeric (.channel .temp .alarmHigh), 2, true, true⟩,
   ⟨"temp_alarm_low", .numeric (.channel .temp .alarmLow), 2, true, true⟩,
   ⟨"temp_hysteresis", .numeric (.channel .temp .hysteresis), 2, true, true⟩,
   ⟨"humidity_alarm_high", .numeric (.channel .humidity .alarmHigh), 2, false, true⟩,
   ⟨"humidity_alarm_low", .numeric (.channel .humidity .alarmLow), 2, false, true⟩,
   ⟨"humidity_hysteresis", .numeric (.channel .humidity .hysteresis), 2, false, true⟩,
   ⟨"pressure_alarm_high", .numeric (.channel .pressure .alarmHigh), 2, false, true⟩,
   ⟨"pressure_alarm_low", .numeric (.channel .pressure .alarmLow), 2, false, true⟩,
   ⟨"pressure_hysteresis", .numeric (.channel .pressure .hysteresis), 2, false, true⟩,
   ⟨"filter_alpha", .numeric .filterAlpha, 2, false, false⟩,
   ⟨"temp_range_min", .numeric (.channel .temp .rangeMin), 2, true, false⟩,
   ⟨"temp_range_max", .numeric (.channel .temp .rangeMax), 2, true, false⟩,
   ⟨"humidity_range_min", .numeric (.channel .humidity .rangeMin), 2, false, false⟩,
   ⟨"humidity_range_max", .numeric (.channel .humidity .rangeMax), 2, false, false⟩,
   ⟨"pressure_range_min", .numeric (.channel .pressure .rangeMin), 2, false, false⟩,
   ⟨"pressure_range_max", .numeric (.channel .pressure .rangeMax), 2, false, false⟩,
   ⟨"modbus_slave_addr", .numeric .modbusSlaveAddr, 2, false, false⟩,
   ⟨"mqtt_broker", .mqttBroker, 2, false, false⟩,
   ⟨"mqtt_port", .numeric .mqttPort, 2, false, false⟩,
   ⟨"ntp_servers", .ntpServers, 2, false, false⟩,
   ⟨"ntp_server_count", .numeric .ntpServerCount, 2, false, false⟩,
   ⟨"ntp_interval_min", .numeric .ntpIntervalMin, 2, false, false⟩]

/-- `prv_find_key` -/
def prvFindKey (key : List UInt8) : Option CpKeyDef := cpKeys.find? fun d => ascii d.name == key

/-- The C type of a field, by size and sign. -/
def fieldType (size : Nat) (isSigned : Bool) : FieldKind :=
  if size = 4 then .u32 else if isSigned then .i16 else .u16

/-- `prv_fits` -/
def prvFits (key : CpKeyDef) (value : Int) : Bool :=
  let kind := fieldType key.size key.isSigned
  kind.lo ≤ value && value ≤ kind.hi

/-- `cp_cfg_pair_t`; the identifier stands for the offset too. -/
structure CpCfgPair where
  key : String
  id : ConfigParamId
  size : Nat
  isSigned : Bool
  value : Int

/-- `cp_cfg_cmd_t` -/
structure CpCfgCmd where
  req : Option Nat
  pairs : List CpCfgPair
  badKey : List UInt8

/-!
## Scanners
-/

def prvIsSpace (c : UInt8) : Bool := c == 0x20 || c == 0x09 || c == 0x0D || c == 0x0A

/-- `prv_skip_space` -/
def prvSkipSpace (rest : List UInt8) : List UInt8 := rest.dropWhile prvIsSpace

/-- The loop of `prv_scan_key`, after `n` characters. -/
def scanKeyBody (n : Nat) (key : List UInt8) : List UInt8 -> Option (List UInt8 × List UInt8)
  | [] => none
  | c :: rest =>
      if c = 0x22 then some (key.reverse, rest)
      else if c < 0x20 ∨ c = 0x5C ∨ cpCfgKeyLen - 1 ≤ n then none
      else scanKeyBody (n + 1) (c :: key) rest

/-- `prv_scan_key` -/
def prvScanKey : List UInt8 -> Option (List UInt8 × List UInt8)
  | [] => none
  | c :: rest => if c = 0x22 then scanKeyBody 0 [] rest else none

def isDigit (c : UInt8) : Bool := 0x30 ≤ c && c ≤ 0x39

/-- The loop of `prv_scan_int`, after `digits` digits of value `v`. -/
def scanDigits (digits v : Nat) : List UInt8 -> Option (Nat × Nat × List UInt8)
  | [] => some (digits, v, [])
  | c :: rest =>
      if isDigit c then
        if cpMaxDigits < digits + 1 then none
        else scanDigits (digits + 1) (v * 10 + (c.toNat - 0x30)) rest
      else some (digits, v, c :: rest)

/-- Nothing but a delimiter follows an integer. -/
def delimited : List UInt8 -> Bool
  | [] => true
  | c :: _ => prvIsSpace c || c == 0x2C || c == 0x7D

/-- `prv_scan_int` -/
def prvScanInt (rest : List UInt8) : Option (Int × List UInt8) :=
  let negative := rest.head? = some 0x2D
  match scanDigits 0 0 (if negative then rest.tail else rest) with
  | none => none
  | some (digits, v, left) =>
      if digits = 0 then none
      else if !delimited left then none
      else some (if negative then -(v : Int) else v, left)

/-!
## Members
-/

/-- `prv_add_member` -/
def prvAddMember (out : CpCfgCmd) (key : List UInt8) (value : Int) : CpCfgStatus × CpCfgCmd :=
  if key = ascii "req" then
    if out.req.isSome ∨ value < 0 ∨ 0xFFFFFFFF < value then (.badJson, out)
    else (.ok, { out with req := some value.toNat })
  else
    match prvFindKey key with
    | none => (.unknownKey, { out with badKey := key })
    | some d =>
        if !d.remote then (.notRemote, { out with badKey := key })
        else if out.pairs.any (fun pair => pair.id = d.id) then (.badJson, out)
        else if cpCfgMaxKeys ≤ out.pairs.length then (.tooManyKeys, out)
        else if !prvFits d value then (.invalidValue, { out with badKey := key })
        else
          (.ok, { out with pairs := out.pairs ++ [⟨d.name, d.id, d.size, d.isSigned, value⟩] })

/-- One `"key": value`, with the white space before it. -/
def scanMember (rest : List UInt8) : Option (List UInt8 × Int × List UInt8) :=
  match prvScanKey (prvSkipSpace rest) with
  | none => none
  | some (key, afterKey) =>
      match prvSkipSpace afterKey with
      | 0x3A :: afterColon =>
          match prvScanInt (prvSkipSpace afterColon) with
          | none => none
          | some (value, left) => some (key, value, left)
      | _ => none

/-- What ends the object: white space only, and at least one parameter. -/
def closeObject (out : CpCfgCmd) (rest : List UInt8) : CpCfgStatus × CpCfgCmd :=
  if prvSkipSpace rest ≠ [] ∨ out.pairs = [] then (.badJson, out) else (.ok, out)

/-- The loop of `cp_parse_config_command`; every member takes at least one byte. -/
def parseMembers : Nat -> List UInt8 -> CpCfgCmd -> CpCfgStatus × CpCfgCmd
  | 0, _, out => (.badJson, out)
  | fuel + 1, rest, out =>
      match scanMember rest with
      | none => (.badJson, out)
      | some (key, value, left) =>
          match prvAddMember out key value with
          | (.ok, out) =>
              match prvSkipSpace left with
              | 0x7D :: rest => closeObject out rest
              | 0x2C :: rest => parseMembers fuel rest out
              | _ => (.badJson, out)
          | refused => refused

/-- `cp_parse_config_command` -/
def cpParseConfigCommand (payload : List UInt8) : CpCfgStatus × CpCfgCmd :=
  let out : CpCfgCmd := ⟨none, [], []⟩
  match prvSkipSpace payload with
  | 0x7B :: rest =>
      match prvSkipSpace rest with
      | 0x7D :: _ => (.badJson, out)
      | _ => parseMembers (payload.length + 1) rest out
  | _ => (.badJson, out)

/-!
## What is accepted
-/

/-- A parameter of the key table that may be set remotely, with a value that fits its field. -/
def CpCfgPair.Allowed (pair : CpCfgPair) : Prop :=
  exists d, d ∈ cpKeys ∧ d.remote = true ∧ prvFits d pair.value = true ∧
    pair = ⟨d.name, d.id, d.size, d.isSigned, pair.value⟩

structure CpCfgCmd.WellFormed (cmd : CpCfgCmd) : Prop where
  allowed : forall pair, pair ∈ cmd.pairs -> pair.Allowed
  distinct : cmd.pairs.Pairwise (fun a b => a.id ≠ b.id)
  few : cmd.pairs.length ≤ cpCfgMaxKeys

theorem CpCfgCmd.WellFormed.empty : CpCfgCmd.WellFormed ⟨none, [], []⟩ where
  allowed := fun _ h => (by cases h)
  distinct := List.Pairwise.nil
  few := Nat.zero_le _

theorem CpCfgCmd.WellFormed.of_pairs {cmd cmd' : CpCfgCmd} (h : cmd.WellFormed)
    (hpairs : cmd'.pairs = cmd.pairs) : cmd'.WellFormed where
  allowed := hpairs ▸ h.allowed
  distinct := hpairs ▸ h.distinct
  few := hpairs ▸ h.few

variable {out : CpCfgCmd} {key rest : List UInt8}

theorem prvAddMember_wellFormed (h : out.WellFormed) (key : List UInt8) (value : Int) :
    (prvAddMember out key value).2.WellFormed := by
  unfold prvAddMember
  split
  · split
    · exact h
    · exact h.of_pairs rfl
  · split
    · exact h.of_pairs rfl
    · rename_i d hfind
      split
      · exact h.of_pairs rfl
      · rename_i hremote
        split
        · exact h
        · rename_i hnew
          split
          · exact h
          · rename_i hroom
            split
            · exact h.of_pairs rfl
            · rename_i hfits
              have hmem : d ∈ cpKeys := List.mem_of_find?_eq_some hfind
              constructor
              · intro pair hpair
                rcases List.mem_append.mp hpair with hold | hadded
                · exact h.allowed pair hold
                · rw [List.mem_singleton.mp hadded]
                  exact ⟨d, hmem, by simpa using hremote, by simpa using hfits, rfl⟩
              · rw [List.pairwise_append]
                refine ⟨h.distinct, List.pairwise_singleton _ _, ?_⟩
                intro pair hpair added hadded heq
                rw [List.mem_singleton.mp hadded] at heq
                apply hnew
                rw [List.any_eq_true]
                exact ⟨pair, hpair, decide_eq_true heq⟩
              · change (out.pairs ++ [_]).length ≤ cpCfgMaxKeys
                rw [List.length_append, List.length_singleton]
                exact Nat.lt_of_not_le hroom

theorem closeObject_pairs (out : CpCfgCmd) (rest : List UInt8) :
    (closeObject out rest).2 = out := by
  unfold closeObject
  split <;> rfl

theorem parseMembers_wellFormed (fuel : Nat) (rest : List UInt8) (h : out.WellFormed) :
    (parseMembers fuel rest out).2.WellFormed := by
  induction fuel generalizing rest out with
  | zero => exact h
  | succ fuel ih =>
      unfold parseMembers
      split
      · exact h
      · rename_i key value left _
        have hadded := prvAddMember_wellFormed h key value
        split
        · rename_i out' hok
          rw [hok] at hadded
          split
          · rw [closeObject_pairs]
            exact hadded
          · exact ih _ hadded
          · exact hadded
        · exact hadded

/-- Whatever the bytes, a command holds only parameters that may be set remotely, each once and
with a value that fits its field. -/
theorem cpParseConfigCommand_wellFormed (payload : List UInt8) :
    (cpParseConfigCommand payload).2.WellFormed := by
  unfold cpParseConfigCommand
  dsimp only
  split
  · split
    · exact CpCfgCmd.WellFormed.empty
    · exact parseMembers_wellFormed _ _ CpCfgCmd.WellFormed.empty
  · exact CpCfgCmd.WellFormed.empty

/-!
## What a member leaves
-/

theorem scanKeyBody_shorter {n : Nat} {result : List UInt8 × List UInt8}
    (h : scanKeyBody n key rest = some result) : result.2.length < rest.length := by
  induction rest generalizing n key with
  | nil => cases h
  | cons c rest ih =>
      unfold scanKeyBody at h
      split at h
      · cases h
        exact Nat.lt_succ_self _
      · split at h
        · cases h
        · exact Nat.lt_succ_of_lt (ih h)

theorem prvSkipSpace_le (rest : List UInt8) : (prvSkipSpace rest).length ≤ rest.length :=
  (List.dropWhile_suffix _).length_le

theorem scanDigits_le {digits v : Nat} {result : Nat × Nat × List UInt8}
    (h : scanDigits digits v rest = some result) : result.2.2.length ≤ rest.length := by
  induction rest generalizing digits v with
  | nil =>
      cases h
      exact Nat.le_refl _
  | cons c rest ih =>
      unfold scanDigits at h
      split at h
      · split at h
        · cases h
        · exact Nat.le_succ_of_le (ih h)
      · cases h
        exact Nat.le_refl _

theorem prvScanInt_le {result : Int × List UInt8} (h : prvScanInt rest = some result) :
    result.2.length ≤ rest.length := by
  unfold prvScanInt at h
  dsimp only at h
  split at h
  · cases h
  · rename_i digits v left hdigits
    split at h
    · cases h
    · split at h
      · cases h
      · cases h
        have hle := scanDigits_le hdigits
        dsimp only at hle ⊢
        split at hle
        · exact Nat.le_trans hle (by rw [List.length_tail]; exact Nat.sub_le _ _)
        · exact hle

theorem scanMember_shorter {left : List UInt8} {value : Int}
    (h : scanMember rest = some (key, value, left)) : left.length < rest.length := by
  unfold scanMember at h
  split at h
  · cases h
  · rename_i key' afterKey hkey
    have hshort : afterKey.length < (prvSkipSpace rest).length := by
      unfold prvScanKey at hkey
      split at hkey
      · cases hkey
      · rename_i c tail heq
        rw [heq]
        split at hkey
        · exact Nat.lt_succ_of_lt (scanKeyBody_shorter hkey)
        · cases hkey
    have hskip := prvSkipSpace_le rest
    split at h
    · rename_i afterColon hcolon
      have hcolon_le := prvSkipSpace_le afterKey
      rw [hcolon, List.length_cons] at hcolon_le
      split at h
      · cases h
      · rename_i value' left' hint
        cases h
        have hint_le := prvScanInt_le hint
        have hspace := prvSkipSpace_le afterColon
        dsimp only at hint_le
        omega
    · cases h

end EnvMonitor.Gateway.CloudPublisher
