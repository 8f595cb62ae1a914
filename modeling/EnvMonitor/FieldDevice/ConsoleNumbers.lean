import EnvMonitor.FieldDevice.Console
import EnvMonitor.Numerics.Strtol

/-!
# Numbers typed at the field device's console

The text of a value becomes a 32-bit `long`; the check reads the low bytes of it at the type of the
parameter, and so does staging.
-/

namespace EnvMonitor.FieldDevice.Console

open Numerics
open ConfigService (ConfigParamId validateParamInternal)

/-- A word of a command line. -/
structure Token where
  bytes : List UInt8
  nonempty : bytes ≠ []
  noSpace : forall c, c ∈ bytes -> isspace c = false

def firstToken (line : List UInt8) (h : line.dropWhile isspace ≠ []) : Token where
  bytes := (line.dropWhile isspace).takeWhile (!isspace ·)
  nonempty := by
    intro hnone
    have hfirst := List.head_dropWhile_not isspace h
    cases hrest : line.dropWhile isspace with
    | nil => exact h hrest
    | cons c rest =>
        simp only [hrest, List.head_cons] at hfirst
        rw [hrest, List.takeWhile_cons_of_pos (by rw [hfirst]; rfl)] at hnone
        exact List.cons_ne_nil _ _ hnone
  noSpace := by
    intro c hc
    have hnot := List.mem_takeWhile_imp hc
    rwa [Bool.not_eq_true'] at hnot

/-- `tokenise`, with room for `maxArgv` words. -/
def tokenise : Nat -> List UInt8 -> List Token
  | 0, _ => []
  | maxArgv + 1, line =>
      if h : line.dropWhile isspace ≠ [] then
        firstToken line h ::
          tokenise maxArgv ((line.dropWhile isspace).dropWhile (!isspace ·))
      else []

abbrev longMin : Int := -2 ^ 31
abbrev longMax : Int := 2 ^ 31 - 1

/-- What `strtol` makes of a word, if its end pointer is where it has to be. -/
def parseLong (val : Token) : Option Int := wholeNumber longMin longMax val.bytes

/-- The number that was typed. -/
def typedNumber (val : Token) : Option Int := numeral val.bytes

theorem parseLong_eq (val : Token) :
    parseLong val = (typedNumber val).map (clamp longMin longMax) :=
  wholeNumber_eq longMin longMax val.noSpace

/-- `config set <key> <val>` -/
def configSet (key : String) (val : Token) (live : ConfigService.ConfigParams)
    (pending : CfgPending) : ConsoleErr × CfgPending :=
  cmdConfigSet key (parseLong val) live pending

/-- `prov set <key> <val>` -/
def provSet (key : String) (val : Token) (pending : ProvPending) : ConsoleErr × ProvPending :=
  cmdProvSet key (parseLong val) pending

/-!
## What was typed and what is staged
-/

/-- A value of the parameter's C type with that number. -/
def Fits (id : ConfigParamId) (n : Int) : Prop := exists value : id.Value, id.num value = n

/-- The number is valid for the parameter beside the live configuration. -/
def ValidNumber (id : ConfigParamId) (n : Int) (live : ConfigService.ConfigParams) : Prop :=
  exists value : id.Value, id.num value = n ∧ validateParamInternal id value live = true

/-- `config set` is accepted exactly for a numeral that is valid, and stages its number. -/
def ConfigStagesTyped (key : String) (id : ConfigParamId) (val : Token)
    (live : ConfigService.ConfigParams) (pending : CfgPending) : Prop :=
  let result := configSet key val live pending
  (result.1 = .ok ↔ exists n, typedNumber val = some n ∧ ValidNumber id n live) ∧
    (result.1 = .ok ->
      exists n, typedNumber val = some n ∧ (result.2.staged id).map id.num = some n)

def ProvStagesTyped (val : Token) (pending : ProvPending) : Prop :=
  let result := provSet "modbus-addr" val pending
  (result.1 = .ok ↔ exists n, typedNumber val = some n ∧ 1 ≤ n ∧ n ≤ 247) ∧
    (result.1 = .ok -> exists n, typedNumber val = some n ∧ (result.2.modbusSlaveAddr.toNat : Int) = n)

/-- A numeral outside the C type whose low bytes, after clamping to a `long`, are valid. -/
def ConfigWraps (id : ConfigParamId) (val : Token) (live : ConfigService.ConfigParams) : Prop :=
  exists n, typedNumber val = some n ∧ ¬Fits id n ∧
    validateParamInternal id (ofLong id (clamp longMin longMax n)) live = true

def ProvWraps (val : Token) : Prop :=
  exists n, typedNumber val = some n ∧ ¬(0 ≤ n ∧ n ≤ 255) ∧
    validateModbusAddr (UInt8.ofInt (clamp longMin longMax n)) = true

/-!
## Narrowing
-/

theorem uint8_ofInt (v : UInt8) : UInt8.ofInt (v.toNat : Int) = v := by
  have hlt := v.toNat_lt
  change UInt8.ofNat ((v.toNat : Int) % 2 ^ 8).toNat = v
  have hback : ((v.toNat : Int) % 2 ^ 8).toNat = v.toNat := by omega
  rw [hback, UInt8.ofNat_toNat]

theorem uint16_ofInt (v : UInt16) : UInt16.ofInt (v.toNat : Int) = v := by
  have hlt := v.toNat_lt
  change UInt16.ofNat ((v.toNat : Int) % 2 ^ 16).toNat = v
  have hback : ((v.toNat : Int) % 2 ^ 16).toNat = v.toNat := by omega
  rw [hback, UInt16.ofNat_toNat]

theorem uint32_ofInt (v : UInt32) : UInt32.ofInt (v.toNat : Int) = v := by
  have hlt := v.toNat_lt
  change UInt32.ofNat ((v.toNat : Int) % 2 ^ 32).toNat = v
  have hback : ((v.toNat : Int) % 2 ^ 32).toNat = v.toNat := by omega
  rw [hback, UInt32.ofNat_toNat]

theorem ofLong_num (id : ConfigParamId) (value : id.Value) : ofLong id (id.num value) = value := by
  cases id with
  | pollInterval => exact uint32_ofInt value
  | filterAlpha => exact uint16_ofInt value
  | channel sensor field =>
      cases sensor with
      | temperature => exact Int16.ofInt_toInt value
      | humidity => exact uint16_ofInt value
      | pressure => exact uint16_ofInt value
  | modbusSlaveAddr => exact uint8_ofInt value
  | modbusPollPeriod => exact uint32_ofInt value

theorem uint32_ofInt_longMax : (UInt32.ofInt longMax).toNat = 2147483647 := by decide

variable {id : ConfigParamId} {live : ConfigService.ConfigParams} {n : Int} {key : String}

theorem num_range (value : id.Value) (h : id ≠ .pollInterval ∧ id ≠ .modbusPollPeriod) :
    longMin ≤ id.num value ∧ id.num value ≤ longMax := by
  have hword : forall v : UInt16, longMin ≤ (v.toNat : Int) ∧ (v.toNat : Int) ≤ longMax := by
    intro v
    have hlt := v.toNat_lt
    change (-2147483648 : Int) ≤ _ ∧ _ ≤ (2147483647 : Int)
    omega
  cases id with
  | pollInterval => exact absurd rfl h.1
  | modbusPollPeriod => exact absurd rfl h.2
  | filterAlpha => exact hword value
  | channel sensor field =>
      cases sensor with
      | temperature =>
          have hlow := Int16.le_toInt value
          have hhigh := Int16.toInt_lt value
          change (-2147483648 : Int) ≤ Int16.toInt value ∧ Int16.toInt value ≤ (2147483647 : Int)
          omega
      | humidity => exact hword value
      | pressure => exact hword value
  | modbusSlaveAddr =>
      have hlt := UInt8.toNat_lt value
      change (-2147483648 : Int) ≤ (UInt8.toNat value : Int) ∧
        (UInt8.toNat value : Int) ≤ (2147483647 : Int)
      omega

theorem period_valid {v : UInt32} (h : ConfigService.inRange (v.toNat : Int) 100 60000 = true) :
    (v.toNat : Int) ≤ 60000 := (ConfigService.inRange_eq_true.mp h).2

theorem num_of_valid {value : id.Value} (h : validateParamInternal id value live = true) :
    clamp longMin longMax (id.num value) = id.num value := by
  have hperiod : forall v : UInt32, ConfigService.inRange (v.toNat : Int) 100 60000 = true ->
      clamp longMin longMax (v.toNat : Int) = v.toNat := by
    intro v hv
    have hmax := period_valid hv
    apply clamp_eq
    · change (-2147483648 : Int) ≤ _
      omega
    · change _ ≤ (2147483647 : Int)
      omega
  by_cases hid : id ≠ .pollInterval ∧ id ≠ .modbusPollPeriod
  · have hrange := num_range value hid
    exact clamp_eq hrange.1 hrange.2
  · cases id with
    | pollInterval => exact hperiod value h
    | modbusPollPeriod => exact hperiod value h
    | _ => exact absurd ⟨fun hp => (nomatch hp), fun hp => (nomatch hp)⟩ hid

theorem num_of_clamped {value : id.Value}
    (h : validateParamInternal id (ofLong id (clamp longMin longMax (id.num value))) live = true) :
    clamp longMin longMax (id.num value) = id.num value := by
  have hperiod : forall v : UInt32,
      ConfigService.inRange ((UInt32.ofInt (clamp longMin longMax (v.toNat : Int))).toNat : Int) 100
        60000 = true ->
      clamp longMin longMax (v.toNat : Int) = v.toNat := by
    intro v hv
    by_cases hmax : (v.toNat : Int) ≤ longMax
    · apply clamp_eq _ hmax
      change (-2147483648 : Int) ≤ _
      omega
    · have hclamped : clamp longMin longMax (v.toNat : Int) = longMax := by
        unfold clamp
        rw [min_eq_left (Int.le_of_not_le hmax)]
        rfl
      rw [hclamped] at hv
      have hsmall := period_valid hv
      rw [uint32_ofInt_longMax] at hsmall
      exact absurd hsmall (by decide)
  by_cases hid : id ≠ .pollInterval ∧ id ≠ .modbusPollPeriod
  · have hrange := num_range value hid
    exact clamp_eq hrange.1 hrange.2
  · cases id with
    | pollInterval => exact hperiod value h
    | modbusPollPeriod => exact hperiod value h
    | _ => exact absurd ⟨fun hp => (nomatch hp), fun hp => (nomatch hp)⟩ hid

theorem validNumber_iff (hfits : Fits id n) :
    validateParamInternal id (ofLong id (clamp longMin longMax n)) live = true ↔
      ValidNumber id n live := by
  rcases hfits with ⟨value, rfl⟩
  constructor
  · intro h
    rw [num_of_clamped h, ofLong_num] at h
    exact ⟨value, rfl, h⟩
  · intro h
    rcases h with ⟨other, hnum, hvalid⟩
    cases id.num_injective hnum
    rw [num_of_valid hvalid, ofLong_num]
    exact hvalid

/-!
## Commands
-/

/-- A command that accepts a typed number by a check of its narrowed value.  Where the number has the
type, the check agrees with validity; so the command is right unless a number outside the type
passes. -/
theorem accepted_as_typed_iff {typed : Option Int} {fits accepts valid staged : Int -> Prop}
    {ok : Prop} (hok : ok ↔ exists n, typed = some n ∧ accepts n)
    (hvalid : forall n, fits n -> (accepts n ↔ valid n)) (hfits : forall n, valid n -> fits n)
    (hstaged : forall n, typed = some n -> valid n -> staged n) :
    ((ok ↔ exists n, typed = some n ∧ valid n) ∧ (ok -> exists n, typed = some n ∧ staged n)) ↔
      ¬exists n, typed = some n ∧ ¬fits n ∧ accepts n := by
  constructor
  · intro hgood hwraps
    rcases hwraps with ⟨n, hn, hnot, haccepts⟩
    -- what is accepted was to be valid, so of the type
    rcases hgood.1.mp (hok.mpr ⟨n, hn, haccepts⟩) with ⟨m, hm, hm'⟩
    rw [hn] at hm
    cases hm
    exact hnot (hfits n hm')
  · intro hkept
    have hnumber : ok -> exists n, typed = some n ∧ valid n := by
      intro h
      rcases hok.mp h with ⟨n, hn, haccepts⟩
      have hfit : fits n := by
        by_contra hnot
        exact hkept ⟨n, hn, hnot, haccepts⟩
      exact ⟨n, hn, (hvalid n hfit).mp haccepts⟩
    refine ⟨⟨hnumber, fun h => ?_⟩, fun h => ?_⟩
    · rcases h with ⟨n, hn, hv⟩
      exact hok.mpr ⟨n, hn, (hvalid n (hfits n hv)).mpr hv⟩
    · rcases hnumber h with ⟨n, hn, hv⟩
      exact ⟨n, hn, hstaged n hn hv⟩

theorem configSet_eq (hkey : cfgKeys.lookup key = some id) (val : Token)
    (live : ConfigService.ConfigParams) (pending : CfgPending) :
    configSet key val live pending =
      match typedNumber val with
      | none => (.validation, pending)
      | some n =>
          let value := ofLong id (clamp longMin longMax n)
          if validateParamInternal id value live then (.ok, pending.stage id value)
          else (.validation, pending) := by
  unfold configSet cmdConfigSet
  rw [hkey, parseLong_eq]
  cases typedNumber val <;> rfl

theorem configSet_ok (hkey : cfgKeys.lookup key = some id) (val : Token)
    (live : ConfigService.ConfigParams) (pending : CfgPending) :
    (configSet key val live pending).1 = .ok ↔ exists n, typedNumber val = some n ∧
      validateParamInternal id (ofLong id (clamp longMin longMax n)) live = true := by
  rw [configSet_eq hkey]
  cases typedNumber val with
  | none =>
      refine ⟨fun h => (nomatch h), fun h => ?_⟩
      rcases h with ⟨n, hn, _⟩
      cases hn
  | some n =>
      dsimp only
      constructor
      · intro h
        split at h
        · rename_i hvalid
          exact ⟨n, rfl, hvalid⟩
        · cases h
      · intro h
        rcases h with ⟨m, hm, hvalid⟩
        cases hm
        rw [if_pos hvalid]

theorem configStagesTyped_iff (hkey : cfgKeys.lookup key = some id) (val : Token)
    (live : ConfigService.ConfigParams) (pending : CfgPending) :
    ConfigStagesTyped key id val live pending ↔ ¬ConfigWraps id val live := by
  apply accepted_as_typed_iff (configSet_ok hkey val live pending)
  · exact fun n hfits => validNumber_iff hfits
  · intro n hnumber
    rcases hnumber with ⟨value, hnum, _⟩
    exact ⟨value, hnum⟩
  · intro n htyped hnumber
    rcases hnumber with ⟨value, rfl, hvalue⟩
    have haccepted := (validNumber_iff ⟨value, rfl⟩).mpr ⟨value, rfl, hvalue⟩
    rw [configSet_eq hkey, htyped]
    dsimp only
    rw [if_pos haccepted]
    change Option.map id.num (Function.update pending.staged id _ id) = _
    rw [Function.update_self, num_of_valid hvalue, ofLong_num]
    rfl

theorem provSet_eq (val : Token) (pending : ProvPending) :
    provSet "modbus-addr" val pending =
      match typedNumber val with
      | none => (.validation, pending)
      | some n =>
          let value := UInt8.ofInt (clamp longMin longMax n)
          if validateModbusAddr value then (.ok, ⟨true, value⟩) else (.validation, pending) := by
  unfold provSet cmdProvSet
  rw [if_pos rfl, parseLong_eq]
  cases typedNumber val <;> rfl

theorem provSet_ok (val : Token) (pending : ProvPending) :
    (provSet "modbus-addr" val pending).1 = .ok ↔ exists n, typedNumber val = some n ∧
      validateModbusAddr (UInt8.ofInt (clamp longMin longMax n)) = true := by
  rw [provSet_eq]
  cases typedNumber val with
  | none =>
      refine ⟨fun h => (nomatch h), fun h => ?_⟩
      rcases h with ⟨n, hn, _⟩
      cases hn
  | some n =>
      dsimp only
      constructor
      · intro h
        split at h
        · rename_i hvalid
          exact ⟨n, rfl, hvalid⟩
        · cases h
      · intro h
        rcases h with ⟨m, hm, hvalid⟩
        cases hm
        rw [if_pos hvalid]

theorem addr_narrowed (hfits : 0 ≤ n ∧ n ≤ 255) :
    ((UInt8.ofInt (clamp longMin longMax n)).toNat : Int) = n := by
  have hclamp : clamp longMin longMax n = n := by
    apply clamp_eq
    · change (-2147483648 : Int) ≤ n
      omega
    · change n ≤ (2147483647 : Int)
      omega
  rw [hclamp]
  change ((UInt8.ofNat (n % 2 ^ 8).toNat).toNat : Int) = n
  rw [UInt8.toNat_ofNat']
  omega

theorem provStagesTyped_iff (val : Token) (pending : ProvPending) :
    ProvStagesTyped val pending ↔ ¬ProvWraps val := by
  apply accepted_as_typed_iff (provSet_ok val pending)
  · intro n hfits
    have hback := addr_narrowed hfits
    unfold validateModbusAddr
    rw [Bool.and_eq_true, decide_eq_true_eq, decide_eq_true_eq]
    omega
  · intro n hvalid
    omega
  · intro n htyped hvalid
    have hback := addr_narrowed (n := n) (by omega)
    have haccepted : validateModbusAddr (UInt8.ofInt (clamp longMin longMax n)) = true := by
      unfold validateModbusAddr
      rw [Bool.and_eq_true, decide_eq_true_eq, decide_eq_true_eq]
      omega
    rw [provSet_eq, htyped]
    dsimp only
    rw [if_pos haccepted]
    exact hback

/-- Both commands stage what was typed unless the numeral is outside the C type and its low bytes
are valid. -/
theorem staged_as_typed_iff (val : Token) :
    (forall key id live pending, cfgKeys.lookup key = some id ->
      (ConfigStagesTyped key id val live pending ↔ ¬ConfigWraps id val live)) ∧
    forall pending, ProvStagesTyped val pending ↔ ¬ProvWraps val :=
  ⟨fun _ _ live pending hkey => configStagesTyped_iff hkey val live pending,
    provStagesTyped_iff val⟩

/-- `73536` -/
def typed73536 : Token where
  bytes := [0x37, 0x33, 0x35, 0x33, 0x36]
  nonempty := by decide
  noSpace := by decide +kernel

theorem staged_as_typed_humidity :
    cfgKeys.lookup "humidity-alarm-high" = some (.channel .humidity .alarmHigh) ∧
      (ConfigStagesTyped "humidity-alarm-high" (.channel .humidity .alarmHigh) typed73536
          ConfigService.applyDefaults .cleared ↔
        ¬ConfigWraps (.channel .humidity .alarmHigh) typed73536 ConfigService.applyDefaults) :=
  ⟨by decide, (staged_as_typed_iff typed73536).1 _ _ _ _ (by decide)⟩

/-- 73536 is staged as 8000. -/
theorem wrapped_number_is_staged :
    ¬forall (val : Token) key id live pending, cfgKeys.lookup key = some id ->
      ConfigStagesTyped key id val live pending := by
  intro hclaim
  have hgood := hclaim typed73536 "humidity-alarm-high" (.channel .humidity .alarmHigh)
    ConfigService.applyDefaults .cleared (by decide)
  rcases hgood.2 (by decide +kernel) with ⟨n, hn, hstaged⟩
  have htyped : typedNumber typed73536 = some 73536 := by decide +kernel
  rw [htyped] at hn
  cases hn
  exact absurd hstaged (by decide +kernel)

end EnvMonitor.FieldDevice.Console
