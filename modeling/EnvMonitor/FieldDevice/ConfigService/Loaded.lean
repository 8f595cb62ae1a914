import EnvMonitor.FieldDevice.ConfigService.Reload

/-!
# Configurations that come out of a stored blob

A blob with the current schema holds any values.  Loading checks the fields one after another, each
beside the repaired fields before it and the stored ones after it, and a default that replaces a
field is not checked beside anything.
-/

namespace EnvMonitor.FieldDevice.ConfigService

/-- The fields of one channel. -/
structure Channel where
  rangeMin : Int
  rangeMax : Int
  alarmHigh : Int
  alarmLow : Int
  hysteresis : Int

def ConfigParams.channel (p : ConfigParams) (sensor : SensorId) : Channel where
  rangeMin := p.num (.channel sensor .rangeMin)
  rangeMax := p.num (.channel sensor .rangeMax)
  alarmHigh := p.num (.channel sensor .alarmHigh)
  alarmLow := p.num (.channel sensor .alarmLow)
  hysteresis := p.num (.channel sensor .hysteresis)

structure ChannelCoherent (sensor : SensorId) (c : Channel) : Prop where
  absolute : (channelRule sensor).absMin ≤ c.rangeMin ∧ c.rangeMax ≤ (channelRule sensor).absMax
  gap : c.rangeMin + (channelRule sensor).gap ≤ c.rangeMax
  low : c.rangeMin ≤ c.alarmLow ∧ c.alarmLow ≤ c.rangeMax
  high : c.rangeMin ≤ c.alarmHigh ∧ c.alarmHigh ≤ c.rangeMax
  hysteresis : 0 < 2 * c.hysteresis ∧ 2 * c.hysteresis < c.alarmHigh - c.alarmLow

structure Coherent (p : ConfigParams) : Prop where
  pollInterval : 100 ≤ p.num .pollInterval ∧ p.num .pollInterval ≤ 60000
  filterAlpha : 1 ≤ p.num .filterAlpha ∧ p.num .filterAlpha ≤ 999
  modbusSlaveAddr : 1 ≤ p.num .modbusSlaveAddr ∧ p.num .modbusSlaveAddr ≤ 247
  modbusPollPeriod : 100 ≤ p.num .modbusPollPeriod ∧ p.num .modbusPollPeriod ≤ 60000
  channel : forall sensor, ChannelCoherent sensor (p.channel sensor)

/-!
## Defaults that fit the fields kept beside them

`c` are the stored fields of a channel and `d` its defaults.
-/

/-- With the alarm limits `high` and `low`, the stored hysteresis is usable or the default is. -/
def HysteresisFits (d c : Channel) (high low : Int) : Prop :=
  (0 < c.hysteresis ∧ 2 * c.hysteresis < high - low) ∨ 2 * d.hysteresis < high - low

/-- The stored lower alarm limit is kept, or the default is not below the range. -/
def LowAlarmFits (d c : Channel) (rmin high : Int) : Prop :=
  if rmin ≤ c.alarmLow ∧ c.alarmLow < high then HysteresisFits d c high c.alarmLow
  else rmin ≤ d.alarmLow ∧ HysteresisFits d c high d.alarmLow

/-- The stored upper alarm limit is kept, or the default is inside the range. -/
def AlarmsFit (d c : Channel) (rmin rmax : Int) : Prop :=
  if rmin ≤ c.alarmHigh ∧ c.alarmHigh ≤ rmax then LowAlarmFits d c rmin c.alarmHigh
  else (rmin ≤ d.alarmHigh ∧ d.alarmHigh ≤ rmax) ∧ LowAlarmFits d c rmin d.alarmHigh

instance (sensor : SensorId) (rmin rmax : Int) : Decidable (RangeApart sensor rmin rmax) := 
  match sensor with
  | .temperature => Int.decLt _ _
  | .humidity | .pressure => Int.decLe _ _

/-- The lower range limit is judged beside the stored upper one, and stays when the upper one is
replaced for its own sake. -/
def ChannelFits (sensor : SensorId) (d c : Channel) : Prop :=
  let rule := channelRule sensor
  if rule.absMin ≤ c.rangeMin ∧ RangeApart sensor c.rangeMin c.rangeMax then
    if c.rangeMax ≤ rule.absMax then AlarmsFit d c c.rangeMin c.rangeMax
    else c.rangeMin + rule.gap ≤ d.rangeMax ∧ AlarmsFit d c c.rangeMin d.rangeMax
  else if c.rangeMax ≤ rule.absMax ∧ RangeApart sensor d.rangeMin c.rangeMax then
    AlarmsFit d c d.rangeMin c.rangeMax
  else AlarmsFit d c d.rangeMin d.rangeMax

/-!
## The repaired fields of a channel
-/

/-- The place of a field in the order in which the fields of its channel are checked. -/
def ChannelField.rank : ChannelField -> Nat
  | .rangeMin => 0
  | .rangeMax => 1
  | .alarmHigh => 2
  | .alarmLow => 3
  | .hysteresis => 4

/-- The fields checked before a field. -/
def checkedBefore (id : ConfigParamId) : List ConfigParamId := repairOrder.takeWhile (· ≠ id)

def checkedAfter (id : ConfigParamId) : List ConfigParamId :=
  (repairOrder.dropWhile (· ≠ id)).tail

theorem repairOrder_split (id : ConfigParamId) :
    repairOrder = checkedBefore id ++ id :: checkedAfter id := by
  cases id with
  | channel sensor field => cases sensor <;> cases field <;> decide
  | _ => decide

theorem mem_checkedBefore (sensor : SensorId) (f g : ChannelField) :
    ConfigParamId.channel sensor f ∈ checkedBefore (.channel sensor g) ↔ f.rank < g.rank := by
  cases sensor <;> cases f <;> cases g <;> decide

section Repaired

variable (p : ConfigParams)

theorem repairFields_eq :
    repairFields p.get =
      Config.repairAll fieldNeedsRepair applyDefaults.get repairOrder p.get := by
  delta repairFields
  with_reducible rfl

/-- The record beside which a field is checked. -/
def seenBy (id : ConfigParamId) : ConfigParams where
  get j := if j ∈ checkedBefore id then (repairCandidate p).get j else p.get j

theorem repairCandidate_get (id : ConfigParamId) :
    (repairCandidate p).get id =
      if needsRepair id (seenBy p id) = true then applyDefaults.get id else p.get id := by
  have hsplit := repairOrder_split id
  have hnodup : (checkedBefore id ++ id :: checkedAfter id).Nodup := hsplit ▸ repairOrder_nodup
  have hat := @Config.repairAll_at _ _ _ fieldNeedsRepair applyDefaults.get (checkedBefore id)
    (checkedAfter id) id hnodup p.get
  rw [← hsplit, ← repairFields_eq] at hat
  change _ = if fieldNeedsRepair id (seenBy p id).get = true then _ else _
  exact hat

theorem seenBy_num (sensor : SensorId) (f g : ChannelField) :
    (seenBy p (.channel sensor g)).num (.channel sensor f) =
      if f.rank < g.rank then (repairCandidate p).num (.channel sensor f)
      else p.num (.channel sensor f) := by
  have hmem := mem_checkedBefore sensor f g
  unfold ConfigParams.num seenBy
  dsimp only
  by_cases hbefore : f.rank < g.rank
  · rw [if_pos (hmem.mpr hbefore), if_pos hbefore]
  · rw [if_neg (fun h => hbefore (hmem.mp h)), if_neg hbefore]

end Repaired

/-- Beside the other fields of the channel, the field is not replaced. -/
def FieldKept (sensor : SensorId) (c : Channel) : ChannelField -> Prop
  | .rangeMin =>
      (channelRule sensor).absMin ≤ c.rangeMin ∧ RangeApart sensor c.rangeMin c.rangeMax
  | .rangeMax =>
      c.rangeMax ≤ (channelRule sensor).absMax ∧ RangeApart sensor c.rangeMin c.rangeMax
  | .alarmHigh => c.rangeMin ≤ c.alarmHigh ∧ c.alarmHigh ≤ c.rangeMax
  | .alarmLow => c.rangeMin ≤ c.alarmLow ∧ c.alarmLow < c.alarmHigh
  | .hysteresis =>
      0 < c.hysteresis ∧ 2 * c.hysteresis < alarmSpan sensor c.alarmHigh c.alarmLow

instance (sensor : SensorId) (c : Channel) (field : ChannelField) :
    Decidable (FieldKept sensor c field) :=
  match field with
  | .rangeMin | .rangeMax | .alarmHigh | .alarmLow | .hysteresis => instDecidableAnd

theorem channelNeedsRepair_iff (sensor : SensorId) (field : ChannelField) (p : ConfigParams) :
    channelNeedsRepair sensor field p = true ↔ ¬FieldKept sensor (p.channel sensor) field := by
  cases field with
  | rangeMin =>
      cases sensor with
      | temperature =>
          simp only [channelNeedsRepair, FieldKept, RangeApart, ConfigParams.channel,
            Bool.or_eq_true, decide_eq_true_eq]
          omega
      | humidity =>
          have hmin : (channelRule .humidity).absMin ≤ p.num (.channel .humidity .rangeMin) :=
            ConfigParamId.num_channel_nonneg (by decide) _
          simp only [channelNeedsRepair, FieldKept, RangeApart, ConfigParams.channel,
            decide_eq_true_eq]
          omega
      | pressure =>
          have hmin : (channelRule .pressure).absMin ≤ p.num (.channel .pressure .rangeMin) :=
            ConfigParamId.num_channel_nonneg (by decide) _
          simp only [channelNeedsRepair, FieldKept, RangeApart, ConfigParams.channel,
            decide_eq_true_eq]
          omega
  | rangeMax =>
      cases sensor <;>
        simp only [channelNeedsRepair, FieldKept, RangeApart, ConfigParams.channel,
          Bool.or_eq_true, decide_eq_true_eq] <;>
        omega
  | alarmHigh =>
      simp only [channelNeedsRepair, FieldKept, ConfigParams.channel, Bool.or_eq_true,
        decide_eq_true_eq]
      omega
  | alarmLow =>
      simp only [channelNeedsRepair, FieldKept, ConfigParams.channel, Bool.or_eq_true,
        decide_eq_true_eq]
      omega
  | hysteresis =>
      simp only [channelNeedsRepair, FieldKept, ConfigParams.channel, Bool.or_eq_true,
        decide_eq_true_eq]
      omega

section Channel

variable (p : ConfigParams) (sensor : SensorId)

theorem repairCandidate_num (field : ChannelField) :
    (repairCandidate p).num (.channel sensor field) =
      if FieldKept sensor ((seenBy p (.channel sensor field)).channel sensor) field then
        p.num (.channel sensor field)
      else applyDefaults.num (.channel sensor field) := by
  have hget := repairCandidate_get p (.channel sensor field)
  change _ = if channelNeedsRepair sensor field _ = true then _ else _ at hget
  have hbad := channelNeedsRepair_iff sensor field (seenBy p (.channel sensor field))
  unfold ConfigParams.num
  rw [hget]
  by_cases hkept : FieldKept sensor ((seenBy p (.channel sensor field)).channel sensor) field
  · rw [if_neg (fun h => hbad.mp h hkept), if_pos hkept]
  · rw [if_pos (hbad.mpr hkept), if_neg hkept]

end Channel

/-- `r` comes out of the stored fields `c` with the defaults `d`.  The lower range limit is judged
beside the stored upper one, every later field beside fields that are already repaired. -/
structure RepairedAs (sensor : SensorId) (d c r : Channel) : Prop where
  rangeMin : r.rangeMin =
    if (channelRule sensor).absMin ≤ c.rangeMin ∧ RangeApart sensor c.rangeMin c.rangeMax then
      c.rangeMin
    else d.rangeMin
  rangeMax : r.rangeMax =
    if c.rangeMax ≤ (channelRule sensor).absMax ∧ RangeApart sensor r.rangeMin c.rangeMax then
      c.rangeMax
    else d.rangeMax
  alarmHigh : r.alarmHigh =
    if r.rangeMin ≤ c.alarmHigh ∧ c.alarmHigh ≤ r.rangeMax then c.alarmHigh else d.alarmHigh
  alarmLow : r.alarmLow =
    if r.rangeMin ≤ c.alarmLow ∧ c.alarmLow < r.alarmHigh then c.alarmLow else d.alarmLow
  hysteresis : r.hysteresis =
    if 0 < c.hysteresis ∧ 2 * c.hysteresis < alarmSpan sensor r.alarmHigh r.alarmLow then
      c.hysteresis
    else d.hysteresis

theorem repairCandidate_repairedAs (p : ConfigParams) (sensor : SensorId) :
    RepairedAs sensor (applyDefaults.channel sensor) (p.channel sensor)
      ((repairCandidate p).channel sensor) := by
  have hnum := repairCandidate_num p sensor
  constructor
  · have hfield := hnum .rangeMin
    simp only [FieldKept, ConfigParams.channel, seenBy_num, ChannelField.rank] at hfield
    exact hfield
  · have hfield := hnum .rangeMax
    simp only [FieldKept, ConfigParams.channel, seenBy_num, ChannelField.rank] at hfield
    exact hfield
  · have hfield := hnum .alarmHigh
    simp only [FieldKept, ConfigParams.channel, seenBy_num, ChannelField.rank] at hfield
    exact hfield
  · have hfield := hnum .alarmLow
    simp only [FieldKept, ConfigParams.channel, seenBy_num, ChannelField.rank] at hfield
    exact hfield
  · have hfield := hnum .hysteresis
    simp only [FieldKept, ConfigParams.channel, seenBy_num, ChannelField.rank] at hfield
    exact hfield

/-!
## When the repaired channel is coherent
-/

section Fits

variable {sensor : SensorId} {d c r : Channel}

theorem alarmSpan_eq {high low : Int} (hle : low ≤ high) (hbound : high - low < 2 ^ 32) :
    alarmSpan sensor high low = high - low := by
  cases sensor with
  | temperature => rfl
  | humidity => exact Int.emod_eq_of_lt (Int.sub_nonneg_of_le hle) hbound
  | pressure => exact Int.emod_eq_of_lt (Int.sub_nonneg_of_le hle) hbound

theorem hysteresisFits_iff (h : RepairedAs sensor d c r) (hd : 0 < d.hysteresis)
    (hbound : r.alarmHigh - r.alarmLow < 2 ^ 32) :
    (0 < 2 * r.hysteresis ∧ 2 * r.hysteresis < r.alarmHigh - r.alarmLow) ↔
      HysteresisFits d c r.alarmHigh r.alarmLow := by
  have heq := h.hysteresis
  unfold HysteresisFits
  by_cases hle : r.alarmLow ≤ r.alarmHigh
  · rw [alarmSpan_eq hle hbound] at heq
    by_cases hkept : 0 < c.hysteresis ∧ 2 * c.hysteresis < r.alarmHigh - r.alarmLow
    · rw [if_pos hkept] at heq
      omega
    · rw [if_neg hkept] at heq
      omega
  · omega

theorem lowAlarmFits_iff (h : RepairedAs sensor d c r) (hd : 0 < d.hysteresis)
    (hmin : (channelRule sensor).absMin ≤ r.rangeMin)
    (hhigh : r.alarmHigh ≤ (channelRule sensor).absMax) :
    (r.rangeMin ≤ r.alarmLow ∧
        (0 < 2 * r.hysteresis ∧ 2 * r.hysteresis < r.alarmHigh - r.alarmLow)) ↔
      LowAlarmFits d c r.rangeMin r.alarmHigh := by
  have hspan : (channelRule sensor).absMax - (channelRule sensor).absMin < 2 ^ 32 := by
    cases sensor <;> decide
  have heq := h.alarmLow
  unfold LowAlarmFits
  by_cases hkept : r.rangeMin ≤ c.alarmLow ∧ c.alarmLow < r.alarmHigh
  · rw [if_pos hkept] at heq
    have hfits := hysteresisFits_iff h hd (by omega)
    rw [if_pos hkept, hfits, heq]
    exact and_iff_right hkept.1
  · rw [if_neg hkept] at heq
    rw [if_neg hkept, ← heq]
    constructor
    · intro hgood
      exact ⟨hgood.1, (hysteresisFits_iff h hd (by omega)).mp hgood.2⟩
    · intro hgood
      exact ⟨hgood.1, (hysteresisFits_iff h hd (by omega)).mpr hgood.2⟩

theorem alarmsFit_iff (h : RepairedAs sensor d c r) (hd : 0 < d.hysteresis)
    (hmin : (channelRule sensor).absMin ≤ r.rangeMin)
    (hmax : r.rangeMax ≤ (channelRule sensor).absMax) :
    ((r.rangeMin ≤ r.alarmHigh ∧ r.alarmHigh ≤ r.rangeMax) ∧ r.rangeMin ≤ r.alarmLow ∧
        (0 < 2 * r.hysteresis ∧ 2 * r.hysteresis < r.alarmHigh - r.alarmLow)) ↔
      AlarmsFit d c r.rangeMin r.rangeMax := by
  have heq := h.alarmHigh
  have hlow : r.alarmHigh ≤ r.rangeMax ->
      ((r.rangeMin ≤ r.alarmLow ∧
          (0 < 2 * r.hysteresis ∧ 2 * r.hysteresis < r.alarmHigh - r.alarmLow)) ↔
        LowAlarmFits d c r.rangeMin r.alarmHigh) :=
    fun hhigh => lowAlarmFits_iff h hd hmin (Int.le_trans hhigh hmax)
  unfold AlarmsFit
  by_cases hkept : r.rangeMin ≤ c.alarmHigh ∧ c.alarmHigh ≤ r.rangeMax
  · rw [if_pos hkept] at heq
    rw [if_pos hkept, ← heq]
    rw [← heq] at hkept
    rw [hlow hkept.2]
    exact and_iff_right hkept
  · rw [if_neg hkept] at heq
    rw [if_neg hkept, ← heq]
    exact and_congr_right fun hin => hlow hin.2

theorem RangeApart.gap_le {rmin rmax : Int} (h : RangeApart sensor rmin rmax) :
    rmin + (channelRule sensor).gap ≤ rmax := by
  cases sensor with
  | temperature => exact Int.le_of_lt h
  | humidity => exact h
  | pressure => exact h

theorem coherent_iff_alarmsFit (h : RepairedAs sensor d c r) (hd : 0 < d.hysteresis)
    (hmin : (channelRule sensor).absMin ≤ r.rangeMin)
    (hmax : r.rangeMax ≤ (channelRule sensor).absMax) :
    ChannelCoherent sensor r ↔
      r.rangeMin + (channelRule sensor).gap ≤ r.rangeMax ∧
        AlarmsFit d c r.rangeMin r.rangeMax := by
  have hfit := alarmsFit_iff h hd hmin hmax
  constructor
  · intro hgood
    exact ⟨hgood.gap, hfit.mp ⟨hgood.high, hgood.low.1, hgood.hysteresis⟩⟩
  · intro hgood
    rcases hfit.mpr hgood.2 with ⟨hhigh, hlow, hhyst⟩
    exact
      { absolute := ⟨hmin, hmax⟩
        gap := hgood.1
        low := ⟨hlow, by omega⟩
        high := hhigh
        hysteresis := hhyst }

theorem channelFits_iff (h : RepairedAs sensor d c r) (hd : ChannelCoherent sensor d) :
    ChannelCoherent sensor r ↔ ChannelFits sensor d c := by
  have hdhyst : 0 < d.hysteresis := by
    have hpos := hd.hysteresis.1
    omega
  -- each limit keeps inside its absolute limit, stored or default
  have hmin : (channelRule sensor).absMin ≤ r.rangeMin := by
    rw [h.rangeMin]
    split
    · rename_i hkept
      exact hkept.1
    · exact hd.absolute.1
  have hmax : r.rangeMax ≤ (channelRule sensor).absMax := by
    rw [h.rangeMax]
    split
    · rename_i hkept
      exact hkept.1
    · exact hd.absolute.2
  rw [coherent_iff_alarmsFit h hdhyst hmin hmax]
  have hrmin := h.rangeMin
  have hrmax := h.rangeMax
  unfold ChannelFits
  dsimp only
  by_cases hlower : (channelRule sensor).absMin ≤ c.rangeMin ∧
      RangeApart sensor c.rangeMin c.rangeMax
  · rw [if_pos hlower] at hrmin
    rw [if_pos hlower, hrmin]
    rw [hrmin] at hrmax
    by_cases hupper : c.rangeMax ≤ (channelRule sensor).absMax
    · rw [if_pos ⟨hupper, hlower.2⟩] at hrmax
      rw [if_pos hupper, hrmax]
      exact and_iff_right hlower.2.gap_le
    · rw [if_neg (fun hkept => hupper hkept.1)] at hrmax
      rw [if_neg hupper, hrmax]
  · rw [if_neg hlower] at hrmin
    rw [if_neg hlower, hrmin]
    rw [hrmin] at hrmax
    by_cases hupper : c.rangeMax ≤ (channelRule sensor).absMax ∧
        RangeApart sensor d.rangeMin c.rangeMax
    · rw [if_pos hupper] at hrmax
      rw [if_pos hupper, hrmax]
      exact and_iff_right hupper.2.gap_le
    · rw [if_neg hupper] at hrmax
      rw [if_neg hupper, hrmax]
      exact and_iff_right hd.gap

end Fits

theorem applyDefaults_channel (sensor : SensorId) :
    ChannelCoherent sensor (applyDefaults.channel sensor) := by
  cases sensor <;> constructor <;> decide

/-- Every field of a loaded configuration that is not part of a channel is inside its bounds. -/
theorem coherent_iff_channels {p : ConfigParams} (h : Sound p) :
    Coherent p ↔ forall sensor, ChannelCoherent sensor (p.channel sensor) :=
  ⟨fun hgood => hgood.channel,
    fun hchannel => ⟨h .pollInterval, h .filterAlpha, h .modbusSlaveAddr, h .modbusPollPeriod,
      hchannel⟩⟩

/-- A loaded configuration is coherent exactly when, on every channel, each default that takes the
place of a stored field fits the stored fields that stay. -/
theorem loaded_coherent_iff (schemaVersion : UInt32) (stored : ConfigParams) (s : Service) :
    Coherent (configServiceApplyLoaded (.full schemaVersion stored) s).2.params ↔
      (schemaVersion = configSchemaVersion ->
        forall sensor, ChannelFits sensor (applyDefaults.channel sensor) (stored.channel sensor)) := by
  unfold configServiceApplyLoaded
  dsimp only
  by_cases hversion : schemaVersion = configSchemaVersion
  · rw [if_neg (not_not_intro hversion), coherent_iff_channels (repairCandidate_sound stored)]
    have hfits := fun sensor => channelFits_iff (repairCandidate_repairedAs stored sensor)
      (applyDefaults_channel sensor)
    constructor
    · exact fun hgood _ sensor => (hfits sensor).mp (hgood sensor)
    · exact fun hgood sensor => (hfits sensor).mpr (hgood hversion sensor)
  · rw [if_pos hversion]
    constructor
    · exact fun _ h => absurd h hversion
    · exact fun _ => (coherent_iff_channels applyDefaults_sound).mpr applyDefaults_channel

/-- The defaults with a narrow humidity range at the top and a stored upper alarm limit below it. -/
def narrowHumidity : ConfigParams where
  get
    | .channel .humidity .rangeMin => (9000 : UInt16)
    | .channel .humidity .rangeMax => (9500 : UInt16)
    | .channel .humidity .alarmHigh => (5000 : UInt16)
    | id => applyDefaults.get id

/-- The default alarm limits are put beside a range that does not hold them. -/
theorem default_alarm_outside_range :
    ¬forall (schemaVersion : UInt32) (stored : ConfigParams) (s : Service),
      Coherent (configServiceApplyLoaded (.full schemaVersion stored) s).2.params := by
  intro h
  have hchannel := (h configSchemaVersion narrowHumidity (configServiceInit none)).channel .humidity
  exact absurd hchannel.high (by decide +kernel)

end EnvMonitor.FieldDevice.ConfigService
