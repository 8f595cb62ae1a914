import Mathlib.Data.List.TakeWhile
import EnvMonitor.Gateway.ConfigService.Service

/-!
# What holds of every configuration

Each call checks one parameter beside the others.  What all of them together keep is less than
what a reboot asks for: a range limit may move past an alarm threshold.
-/

namespace EnvMonitor.Gateway.ConfigService

variable {v : Int} {ch : Channel} {p p' : ConfigParams} {other param : NumericParam}
variable {value : List UInt8}

theorem prvInRange_iff {lo hi : Int} : prvInRange v lo hi = true ↔ lo ≤ v ∧ v ≤ hi := by
  simp [prvInRange]

/-- The rules of a channel that every call keeps. -/
structure ChannelSound (p : ConfigParams) (ch : Channel) : Prop where
  min_ge : ch.rule.absMin ≤ p.num (.channel ch .rangeMin)
  max_le : p.num (.channel ch .rangeMax) ≤ ch.rule.absMax
  apart : p.num (.channel ch .rangeMin) + ch.rule.gap ≤ p.num (.channel ch .rangeMax)
  hyst_pos : 0 < p.num (.channel ch .hysteresis)
  band : 2 * p.num (.channel ch .hysteresis) <
    p.num (.channel ch .alarmHigh) - p.num (.channel ch .alarmLow)

/-- The rule a change of the range limits may break. -/
structure AlarmsInRange (p : ConfigParams) (ch : Channel) : Prop where
  high_ge : p.num (.channel ch .rangeMin) ≤ p.num (.channel ch .alarmHigh)
  high_le : p.num (.channel ch .alarmHigh) ≤ p.num (.channel ch .rangeMax)
  low_ge : p.num (.channel ch .rangeMin) ≤ p.num (.channel ch .alarmLow)
  low_le : p.num (.channel ch .alarmLow) ≤ p.num (.channel ch .rangeMax)

/-- Parameters with a rule of their own. -/
def NumericParam.IsScalar : NumericParam -> Prop
  | .channel _ _ => False
  | .ntpServerCount => False
  | _ => True

structure Sound (p : ConfigParams) : Prop where
  channel : forall ch, ChannelSound p ch
  scalar : forall param, param.IsScalar -> p.holds (.numeric param) = true
  count : p.num .ntpServerCount = 0 ∨ prvInRange (p.num .ntpServerCount) 1 4 = true
  broker : p.holds .mqttBroker = true ∨ p.mqttBroker = prvApplyDefaults.mqttBroker
  servers : p.holds .ntpServers = true

/-!
## The rules field by field
-/

theorem holds_rangeMin :
    p.holds (.numeric (.channel ch .rangeMin)) = true ↔
      ch.rule.absMin ≤ p.num (.channel ch .rangeMin) ∧
        p.num (.channel ch .rangeMin) ≤ p.num (.channel ch .rangeMax) - ch.rule.gap :=
  prvInRange_iff

theorem holds_rangeMax :
    p.holds (.numeric (.channel ch .rangeMax)) = true ↔
      p.num (.channel ch .rangeMin) + ch.rule.gap ≤ p.num (.channel ch .rangeMax) ∧
        p.num (.channel ch .rangeMax) ≤ ch.rule.absMax :=
  prvInRange_iff

theorem validate_alarmHigh :
    prvValidateChannel ch .alarmHigh v p = true ↔
      (p.num (.channel ch .rangeMin) ≤ v ∧ v ≤ p.num (.channel ch .rangeMax)) ∧
        2 * p.num (.channel ch .hysteresis) < v - p.num (.channel ch .alarmLow) := by
  simp [prvValidateChannel, prvInRange]

theorem validate_alarmLow :
    prvValidateChannel ch .alarmLow v p = true ↔
      (p.num (.channel ch .rangeMin) ≤ v ∧ v ≤ p.num (.channel ch .rangeMax)) ∧
        2 * p.num (.channel ch .hysteresis) < p.num (.channel ch .alarmHigh) - v := by
  simp [prvValidateChannel, prvInRange]

theorem validate_hysteresis :
    prvValidateChannel ch .hysteresis v p = true ↔
      0 < v ∧ 2 * v < p.num (.channel ch .alarmHigh) - p.num (.channel ch .alarmLow) := by
  simp [prvValidateChannel]

theorem channel_holds_iff :
    (forall field, p.holds (.numeric (.channel ch field)) = true) ↔
      ChannelSound p ch ∧ AlarmsInRange p ch := by
  constructor
  · intro h
    have hmin := holds_rangeMin.mp (h .rangeMin)
    have hmax := holds_rangeMax.mp (h .rangeMax)
    have hhigh := validate_alarmHigh.mp (h .alarmHigh)
    have hlow := validate_alarmLow.mp (h .alarmLow)
    have hhyst := validate_hysteresis.mp (h .hysteresis)
    exact
      ⟨{ min_ge := hmin.1
         max_le := hmax.2
         apart := hmax.1
         hyst_pos := hhyst.1
         band := hhyst.2 },
       { high_ge := hhigh.1.1
         high_le := hhigh.1.2
         low_ge := hlow.1.1
         low_le := hlow.1.2 }⟩
  · rintro ⟨hsound, hin⟩ field
    cases field with
    | rangeMin => exact holds_rangeMin.mpr ⟨hsound.min_ge, Int.le_sub_right_of_add_le hsound.apart⟩
    | rangeMax => exact holds_rangeMax.mpr ⟨hsound.apart, hsound.max_le⟩
    | alarmHigh => exact validate_alarmHigh.mpr ⟨⟨hin.high_ge, hin.high_le⟩, hsound.band⟩
    | alarmLow => exact validate_alarmLow.mpr ⟨⟨hin.low_ge, hin.low_le⟩, hsound.band⟩
    | hysteresis => exact validate_hysteresis.mpr ⟨hsound.hyst_pos, hsound.band⟩

theorem prvChannelsValid_iff :
    prvChannelsValid p = true ↔
      p.holds (.numeric .pollInterval) = true ∧ p.holds (.numeric .filterAlpha) = true ∧
        forall ch, ChannelSound p ch ∧ AlarmsInRange p ch := by
  have hchain : prvChannelsValid p = true ↔
      p.holds (.numeric .pollInterval) = true ∧ p.holds (.numeric .filterAlpha) = true ∧
        forall ch field, p.holds (.numeric (.channel ch field)) = true := by
    unfold prvChannelsValid chainParams
    rw [List.all_eq_true]
    constructor
    · intro h
      refine ⟨h _ (by simp), h _ (by simp), ?_⟩
      intro ch field
      apply h
      cases ch <;> cases field <;> simp
    · rintro ⟨hpoll, halpha, hchannel⟩ param hmem
      cases param with
      | pollInterval => exact hpoll
      | filterAlpha => exact halpha
      | channel ch field => exact hchannel ch field
      | _ => simp at hmem
  rw [hchain]
  simp only [channel_holds_iff]

/-!
## Writing a field
-/

theorem num_write_same (p : ConfigParams) (param : NumericParam) (value : param.Value) :
    (prvWriteField p (.numeric param) value).num param = value.val := by
  unfold prvWriteField ConfigParams.num
  dsimp only
  rw [Function.update_self]

theorem num_write_other (p : ConfigParams) (value : param.Value) (h : other ≠ param) :
    (prvWriteField p (.numeric param) value).num other = p.num other := by
  unfold prvWriteField ConfigParams.num
  dsimp only
  rw [Function.update_of_ne h]

theorem validate_scalar (h : param.IsScalar) (v : Int) (ctx ctx' : ConfigParams) :
    prvValidateNumeric param v ctx = prvValidateNumeric param v ctx' := by
  cases param with
  | channel ch field => exact h.elim
  | ntpServerCount => exact h.elim
  | _ => rfl

theorem holds_of_num_eq (h : param.IsScalar) (hnum : p'.num param = p.num param)
    (hp : p.holds (.numeric param) = true) : p'.holds (.numeric param) = true := by
  change prvValidateNumeric param (p'.num param) p' = true
  rw [hnum, validate_scalar h _ p' p]
  exact hp

theorem ChannelSound.congr (h : ChannelSound p ch)
    (hnum : forall field, p'.num (.channel ch field) = p.num (.channel ch field)) :
    ChannelSound p' ch := by
  constructor
  · rw [hnum]
    exact h.min_ge
  · rw [hnum]
    exact h.max_le
  · rw [hnum, hnum]
    exact h.apart
  · rw [hnum]
    exact h.hyst_pos
  · rw [hnum, hnum, hnum]
    exact h.band

theorem ChannelSound.write (h : ChannelSound p ch) {field : ChannelField}
    {value : (NumericParam.channel ch field).Value}
    (hvalid : prvValidateChannel ch field value.val p = true) :
    ChannelSound (prvWriteField p (.numeric (.channel ch field)) value) ch := by
  have hsame := num_write_same p (.channel ch field) value
  have hother : forall other, other ≠ field ->
      (prvWriteField p (.numeric (.channel ch field)) value).num (.channel ch other) =
        p.num (.channel ch other) := by
    intro other hne
    apply num_write_other
    intro heq
    injection heq with _ hfield
    exact hne hfield
  rcases h with ⟨hmin, hmax, hapart, hhyst, hband⟩
  cases field with
  | rangeMin =>
      have hrange := prvInRange_iff.mp hvalid
      constructor <;> simp only [hsame, hother, ne_eq, reduceCtorEq, not_false_eq_true] <;> omega
  | rangeMax =>
      have hrange := prvInRange_iff.mp hvalid
      constructor <;> simp only [hsame, hother, ne_eq, reduceCtorEq, not_false_eq_true] <;> omega
  | alarmHigh =>
      have hrange := validate_alarmHigh.mp hvalid
      constructor <;> simp only [hsame, hother, ne_eq, reduceCtorEq, not_false_eq_true] <;> omega
  | alarmLow =>
      have hrange := validate_alarmLow.mp hvalid
      constructor <;> simp only [hsame, hother, ne_eq, reduceCtorEq, not_false_eq_true] <;> omega
  | hysteresis =>
      have hrange := validate_hysteresis.mp hvalid
      constructor <;> simp only [hsame, hother, ne_eq, reduceCtorEq, not_false_eq_true] <;> omega

theorem cString_eq (size : Nat) (bytes : List UInt8) :
    cString size bytes = (bytes.takeWhile (· ≠ 0)).take size :=
  List.take_takeWhile.symm

theorem cString_write (h : (cString configMaxBrokerLen value).length < configMaxBrokerLen) :
    cString configMaxBrokerLen (prvWriteField prvApplyDefaults .mqttBroker value).mqttBroker =
      cString configMaxBrokerLen value := by
  have hlen : (value.takeWhile (· ≠ 0)).length < 128 := by
    rw [cString_eq, List.length_take] at h
    change min 128 _ < 128 at h
    omega
  have hshort : cString 127 value = value.takeWhile (· ≠ 0) := by
    rw [cString_eq]
    exact List.take_of_length_le (Nat.le_of_lt_succ hlen)
  have hlong : cString 128 value = value.takeWhile (· ≠ 0) := by
    rw [cString_eq]
    exact List.take_of_length_le (Nat.le_of_lt hlen)
  have hnonzero : forall b, b ∈ value.takeWhile (· ≠ 0) -> decide (b ≠ 0) = true :=
    fun b hb => @List.mem_takeWhile_imp _ (fun x => decide (x ≠ 0)) value b hb
  change cString 128 (cString 127 value ++
    List.replicate (128 - (cString 127 value).length) 0) = cString 128 value
  rw [hshort, hlong, cString_eq, List.takeWhile_append_of_pos hnonzero, List.takeWhile_replicate,
    if_neg (by decide), List.append_nil]
  exact List.take_of_length_le (Nat.le_of_lt hlen)

theorem holds_broker_write (h : prvValidate .mqttBroker value p = true) :
    (prvWriteField p .mqttBroker value).holds .mqttBroker = true := by
  have hlen : (cString configMaxBrokerLen value).length < configMaxBrokerLen := by
    change (decide _ && decide _) = true at h
    rw [Bool.and_eq_true] at h
    exact of_decide_eq_true h.2
  change (let len := (cString configMaxBrokerLen
      (prvWriteField prvApplyDefaults .mqttBroker value).mqttBroker).length
    decide (0 < len) && decide (len < configMaxBrokerLen)) = true
  rw [cString_write hlen]
  exact h

theorem holds_scalar_write (h : Sound p) {value : param.Value}
    (hvalid : prvValidateNumeric param value.val p = true) (hother : other.IsScalar) :
    (prvWriteField p (.numeric param) value).holds (.numeric other) = true := by
  by_cases hsame : other = param
  · subst hsame
    change prvValidateNumeric other
      ((prvWriteField p (.numeric other) value).num other) _ = true
    rw [num_write_same, validate_scalar hother _ _ p]
    exact hvalid
  · exact holds_of_num_eq hother (num_write_other p value hsame) (h.scalar other hother)

theorem Sound.write_numeric (h : Sound p) {value : param.Value}
    (hvalid : prvValidateNumeric param value.val p = true) :
    Sound (prvWriteField p (.numeric param) value) where
  channel := by
    intro ch
    by_cases hfield : exists field, param = .channel ch field
    · rcases hfield with ⟨field, rfl⟩
      exact (h.channel ch).write hvalid
    · apply (h.channel ch).congr
      intro field
      exact num_write_other p value (fun heq => hfield ⟨field, heq.symm⟩)
  scalar := fun other hother => holds_scalar_write h hvalid hother
  count := by
    by_cases hcount : NumericParam.ntpServerCount = param
    · subst hcount
      right
      rw [num_write_same]
      change (prvInRange value.val 1 4 && _) = true at hvalid
      rw [Bool.and_eq_true] at hvalid
      exact hvalid.1
    · rw [num_write_other p value hcount]
      exact h.count
  broker := h.broker
  servers := h.servers

theorem Sound.write (h : Sound p) {id : ConfigParamId} {value : id.Value}
    (hvalid : prvValidate id value p = true) : Sound (prvWriteField p id value) := by
  cases id with
  | numeric param => exact h.write_numeric hvalid
  | mqttBroker =>
      exact
        { channel := fun ch => (h.channel ch).congr (fun _ => rfl)
          scalar := fun param hscalar =>
            @holds_of_num_eq p _ param hscalar rfl (h.scalar param hscalar)
          count := h.count
          broker := Or.inl (holds_broker_write hvalid)
          servers := h.servers }
  | ntpServers =>
      exact
        { channel := fun ch => (h.channel ch).congr (fun _ => rfl)
          scalar := fun param hscalar =>
            @holds_of_num_eq p _ param hscalar rfl (h.scalar param hscalar)
          count := h.count
          broker := h.broker
          servers := hvalid }

theorem prvApplyDefaults_channel (ch : Channel) :
    ChannelSound prvApplyDefaults ch ∧ AlarmsInRange prvApplyDefaults ch := by
  rw [← channel_holds_iff]
  intro field
  cases ch <;> cases field <;> decide

theorem prvApplyDefaults_sound : Sound prvApplyDefaults where
  channel := fun ch => (prvApplyDefaults_channel ch).1
  scalar := by
    intro param hscalar
    cases param with
    | channel ch field => exact hscalar.elim
    | ntpServerCount => exact hscalar.elim
    | _ => decide
  count := Or.inl rfl
  broker := Or.inr rfl
  servers := by decide

end EnvMonitor.Gateway.ConfigService
