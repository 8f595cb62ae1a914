import EnvMonitor.FieldDevice.ConfigService.Service

/-!
# Configuration of the field device across a reboot

When the blob of a configuration that came about by accepted changes gives that configuration
back.
-/

namespace EnvMonitor.FieldDevice.ConfigService

/-- What both writing and loading ensure of one field, whatever the others are. -/
def FieldSound (id : ConfigParamId) (value : id.Value) : Prop :=
  match id with
  | .pollInterval | .modbusPollPeriod =>
      100 ≤ ConfigParamId.num _ value ∧ ConfigParamId.num _ value ≤ 60000
  | .filterAlpha => 1 ≤ ConfigParamId.num _ value ∧ ConfigParamId.num _ value ≤ 999
  | .channel sensor .rangeMin => (channelRule sensor).absMin ≤ ConfigParamId.num _ value
  | .channel sensor .rangeMax => ConfigParamId.num _ value ≤ (channelRule sensor).absMax
  | .channel _ .hysteresis => 0 < ConfigParamId.num _ value
  | .channel _ .alarmHigh | .channel _ .alarmLow => True
  | .modbusSlaveAddr => 1 ≤ ConfigParamId.num _ value ∧ ConfigParamId.num _ value ≤ 247

def Sound (p : ConfigParams) : Prop := forall id, FieldSound id (p.get id)

variable {id : ConfigParamId} {p : ConfigParams} {s : Service}

theorem fieldSound_of_valid {value : id.Value} {cur : ConfigParams}
    (h : validateParamInternal id value cur = true) : FieldSound id value := by
  cases id with
  | channel sensor field =>
      change validateChannel sensor field _ cur = true at h
      cases field with
      | rangeMin => exact (inRange_eq_true.mp h).1
      | rangeMax => exact (inRange_eq_true.mp h).2
      | alarmHigh => trivial
      | alarmLow => trivial
      | hysteresis =>
          have hboth := Bool.and_eq_true_iff.mp h
          have hpos : 0 < ConfigParamId.num _ value := of_decide_eq_true hboth.1
          exact hpos
  | pollInterval => exact inRange_eq_true.mp h
  | filterAlpha => exact inRange_eq_true.mp h
  | modbusSlaveAddr => exact inRange_eq_true.mp h
  | modbusPollPeriod => exact inRange_eq_true.mp h

theorem ConfigParamId.num_channel_nonneg {sensor : SensorId} {field : ChannelField}
    (h : sensor ≠ .temperature) (value : (ConfigParamId.channel sensor field).Value) :
    0 ≤ ConfigParamId.num (.channel sensor field) value := by
  cases sensor with
  | temperature => exact absurd rfl h
  | humidity => exact Int.natCast_nonneg _
  | pressure => exact Int.natCast_nonneg _

theorem fieldSound_of_kept (h : needsRepair id p = false) : FieldSound id (p.get id) := by
  cases id with
  | channel sensor field =>
      change channelNeedsRepair sensor field p = false at h
      cases field with
      | rangeMin =>
          cases sensor with
          | temperature =>
              have hlow := of_decide_eq_false (Bool.or_eq_false_iff.mp h).1
              exact Int.not_lt.mp hlow
          | humidity => exact ConfigParamId.num_channel_nonneg (by decide) _
          | pressure => exact ConfigParamId.num_channel_nonneg (by decide) _
      | rangeMax =>
          have hhigh : ¬(channelRule sensor).absMax < p.num (.channel sensor .rangeMax) := by
            cases sensor <;> exact of_decide_eq_false (Bool.or_eq_false_iff.mp h).1
          exact Int.not_lt.mp hhigh
      | alarmHigh => trivial
      | alarmLow => trivial
      | hysteresis =>
          have hpos := of_decide_eq_false (Bool.or_eq_false_iff.mp h).1
          exact Int.not_le.mp hpos
  | pollInterval =>
      have hboth := Bool.or_eq_false_iff.mp h
      exact ⟨Int.not_lt.mp (of_decide_eq_false hboth.1), Int.not_lt.mp (of_decide_eq_false hboth.2)⟩
  | filterAlpha =>
      have hboth := Bool.or_eq_false_iff.mp h
      have hzero := of_decide_eq_false hboth.1
      have hmax := of_decide_eq_false hboth.2
      have hnonneg : 0 ≤ p.num .filterAlpha := Int.natCast_nonneg _
      change 1 ≤ p.num .filterAlpha ∧ p.num .filterAlpha ≤ 999
      omega
  | modbusSlaveAddr =>
      have hboth := Bool.or_eq_false_iff.mp h
      exact ⟨Int.not_lt.mp (of_decide_eq_false hboth.1), Int.not_lt.mp (of_decide_eq_false hboth.2)⟩
  | modbusPollPeriod =>
      have hboth := Bool.or_eq_false_iff.mp h
      exact ⟨Int.not_lt.mp (of_decide_eq_false hboth.1), Int.not_lt.mp (of_decide_eq_false hboth.2)⟩

theorem applyDefaults_sound : Sound applyDefaults :=
  fun id => fieldSound_of_kept (applyDefaults_valid id).2

theorem repairCandidate_sound (candidate : ConfigParams) : Sound (repairCandidate candidate) := by
  intro id
  have hgood : forall p : (i : ConfigParamId) -> i.Value,
      fieldNeedsRepair id p = false -> FieldSound id (p id) :=
    fun p hkept => @fieldSound_of_kept id ⟨p⟩ hkept
  change FieldSound id (repairFields candidate.get id)
  unfold repairFields
  exact Config.repairAll_field repairOrder_nodup (mem_repairOrder id) hgood
    (applyDefaults_sound id) candidate.get

theorem Sound.write (h : Sound p) {value : id.Value}
    (hvalid : validateParamInternal id value p = true) : Sound (applyParamToStruct p id value) := by
  intro other
  by_cases hother : other = id
  · subst hother
    have hself : (applyParamToStruct p other value).get other = value :=
      Function.update_self other value p.get
    rw [hself]
    exact fieldSound_of_valid hvalid
  · have hkept : (applyParamToStruct p id value).get other = p.get other :=
      Function.update_of_ne hother value p.get
    rw [hkept]
    exact h other

/-- Live parameters and snapshot. -/
structure Service.Sound (s : Service) : Prop where
  params : ConfigService.Sound s.params
  snapshot : forall p, s.snapshot = some p -> ConfigService.Sound p

theorem Service.Sound.persist (h : s.Sound) (outcome : SaveOutcome) :
    (persistToStore outcome s).2.Sound where
  params := (persistToStore_params outcome s).symm ▸ h.params
  snapshot := (persistToStore_snapshot outcome s).symm ▸ h.snapshot

theorem Service.Sound.after (h : s.Sound) (call : ConfigCall) : (s.after call).Sound := by
  cases call with
  | applyLoaded blob =>
      change (configServiceApplyLoaded blob s).2.Sound
      cases blob with
      | short => exact h
      | full schemaVersion candidate =>
          unfold configServiceApplyLoaded
          dsimp only
          split
          · exact ⟨applyDefaults_sound, h.snapshot⟩
          · exact ⟨repairCandidate_sound candidate, h.snapshot⟩
  | setParam outcome id value =>
      change (configServiceSetParam outcome id value s).2.Sound
      by_cases hvalid : validateParamInternal id value s.params = true
      · rw [configServiceSetParam_accepted hvalid]
        have hwritten : ({ s with params := applyParamToStruct s.params id value } : Service).Sound :=
          ⟨h.params.write hvalid, h.snapshot⟩
        exact hwritten.persist outcome
      · rw [configServiceSetParam_rejected hvalid]
        exact h
  | takeSnapshot =>
      exact ⟨h.params, fun p hp => Option.some.inj hp ▸ h.params⟩
  | restoreSnapshot outcome =>
      change (configServiceRestoreSnapshot outcome s).2.Sound
      unfold configServiceRestoreSnapshot
      split
      · exact h
      · rename_i p hsnapshot
        have hrestored : ({ s with params := p } : Service).Sound :=
          ⟨h.snapshot p hsnapshot, h.snapshot⟩
        exact hrestored.persist outcome
  | flush outcome => exact h.persist outcome

theorem ConfigReached.sound (h : ConfigReached s) : s.Sound := by
  induction h with
  | init stored => exact ⟨applyDefaults_sound, fun p hp => nomatch hp⟩
  | call _ call ih => exact ih.after call

/-!
## Reloading
-/

/-- The range limits keep the distance that loading asks for. -/
def RangeApart (sensor : SensorId) (rmin rmax : Int) : Prop :=
  match sensor with
  | .temperature => rmin + (channelRule sensor).gap < rmax
  | .humidity | .pressure => rmin + (channelRule sensor).gap ≤ rmax

/-- Loading finds nothing to replace in a channel, or would replace it by what it already is. -/
structure ChannelReloads (p : ConfigParams) (sensor : SensorId) : Prop where
  range : RangeApart sensor (p.num (.channel sensor .rangeMin)) (p.num (.channel sensor .rangeMax))
  high : (p.num (.channel sensor .rangeMin) ≤ p.num (.channel sensor .alarmHigh) ∧
      p.num (.channel sensor .alarmHigh) ≤ p.num (.channel sensor .rangeMax)) ∨
    p.get (.channel sensor .alarmHigh) = channelDefault sensor .alarmHigh
  low : (p.num (.channel sensor .rangeMin) ≤ p.num (.channel sensor .alarmLow) ∧
      p.num (.channel sensor .alarmLow) < p.num (.channel sensor .alarmHigh)) ∨
    p.get (.channel sensor .alarmLow) = channelDefault sensor .alarmLow
  hysteresis : 2 * p.num (.channel sensor .hysteresis) <
      alarmSpan sensor (p.num (.channel sensor .alarmHigh)) (p.num (.channel sensor .alarmLow)) ∨
    p.get (.channel sensor .hysteresis) = channelDefault sensor .hysteresis

theorem channelDefault_apart (sensor : SensorId) :
    RangeApart sensor (ConfigParamId.num _ (channelDefault sensor .rangeMin))
      (ConfigParamId.num _ (channelDefault sensor .rangeMax)) := by
  cases sensor <;> unfold RangeApart <;> decide

theorem rangeMin_needsRepair (h : Sound p) (sensor : SensorId) :
    channelNeedsRepair sensor .rangeMin p = true ↔
      ¬RangeApart sensor (p.num (.channel sensor .rangeMin)) (p.num (.channel sensor .rangeMax)) := by
  have hmin : (channelRule sensor).absMin ≤ p.num (.channel sensor .rangeMin) :=
    h (.channel sensor .rangeMin)
  cases sensor with
  | temperature =>
      simp only [channelNeedsRepair, RangeApart, Bool.or_eq_true, decide_eq_true_eq]
      omega
  | humidity =>
      simp only [channelNeedsRepair, RangeApart, decide_eq_true_eq]
      omega
  | pressure =>
      simp only [channelNeedsRepair, RangeApart, decide_eq_true_eq]
      omega

theorem rangeMax_needsRepair (h : Sound p) (sensor : SensorId) :
    channelNeedsRepair sensor .rangeMax p = true ↔
      ¬RangeApart sensor (p.num (.channel sensor .rangeMin)) (p.num (.channel sensor .rangeMax)) := by
  have hmax : p.num (.channel sensor .rangeMax) ≤ (channelRule sensor).absMax :=
    h (.channel sensor .rangeMax)
  cases sensor <;>
    simp only [channelNeedsRepair, RangeApart, Bool.or_eq_true, decide_eq_true_eq] <;> omega

theorem channel_kept_iff (h : Sound p) (sensor : SensorId) :
    (forall field, channelNeedsRepair sensor field p = true ->
      p.get (.channel sensor field) = channelDefault sensor field) ↔ ChannelReloads p sensor := by
  have hpos : 0 < p.num (.channel sensor .hysteresis) := h (.channel sensor .hysteresis)
  have hhigh : channelNeedsRepair sensor .alarmHigh p = true ↔
      ¬(p.num (.channel sensor .rangeMin) ≤ p.num (.channel sensor .alarmHigh) ∧
        p.num (.channel sensor .alarmHigh) ≤ p.num (.channel sensor .rangeMax)) := by
    simp only [channelNeedsRepair, Bool.or_eq_true, decide_eq_true_eq]
    omega
  have hlow : channelNeedsRepair sensor .alarmLow p = true ↔
      ¬(p.num (.channel sensor .rangeMin) ≤ p.num (.channel sensor .alarmLow) ∧
        p.num (.channel sensor .alarmLow) < p.num (.channel sensor .alarmHigh)) := by
    simp only [channelNeedsRepair, Bool.or_eq_true, decide_eq_true_eq]
    omega
  have hhyst : channelNeedsRepair sensor .hysteresis p = true ↔
      ¬2 * p.num (.channel sensor .hysteresis) <
        alarmSpan sensor (p.num (.channel sensor .alarmHigh))
          (p.num (.channel sensor .alarmLow)) := by
    simp only [channelNeedsRepair, Bool.or_eq_true, decide_eq_true_eq]
    omega
  constructor
  · intro hkept
    exact
      { range := by
          by_contra hclose
          -- both limits would already be the defaults, and these are apart
          have hmin := hkept .rangeMin ((rangeMin_needsRepair h sensor).mpr hclose)
          have hmax := hkept .rangeMax ((rangeMax_needsRepair h sensor).mpr hclose)
          have hdefault := channelDefault_apart sensor
          rw [← hmin, ← hmax] at hdefault
          exact hclose hdefault
        high := Decidable.or_iff_not_imp_left.mpr fun hout => hkept .alarmHigh (hhigh.mpr hout)
        low := Decidable.or_iff_not_imp_left.mpr fun hout => hkept .alarmLow (hlow.mpr hout)
        hysteresis :=
          Decidable.or_iff_not_imp_left.mpr fun hout => hkept .hysteresis (hhyst.mpr hout) }
  · intro hreloads field hbad
    cases field with
    | rangeMin => exact absurd hreloads.range ((rangeMin_needsRepair h sensor).mp hbad)
    | rangeMax => exact absurd hreloads.range ((rangeMax_needsRepair h sensor).mp hbad)
    | alarmHigh => exact hreloads.high.resolve_left (hhigh.mp hbad)
    | alarmLow => exact hreloads.low.resolve_left (hlow.mp hbad)
    | hysteresis => exact hreloads.hysteresis.resolve_left (hhyst.mp hbad)

theorem scalar_kept (h : Sound p) (id : ConfigParamId)
    (hscalar : forall sensor field, id ≠ .channel sensor field) : needsRepair id p = false := by
  have hsound := h id
  cases id with
  | channel sensor field => exact absurd rfl (hscalar sensor field)
  | filterAlpha =>
      change 1 ≤ p.num .filterAlpha ∧ p.num .filterAlpha ≤ 999 at hsound
      simp only [needsRepair, Bool.or_eq_false_iff, decide_eq_false_iff_not]
      omega
  | pollInterval =>
      change 100 ≤ p.num .pollInterval ∧ p.num .pollInterval ≤ 60000 at hsound
      simp only [needsRepair, Bool.or_eq_false_iff, decide_eq_false_iff_not]
      omega
  | modbusSlaveAddr =>
      change 1 ≤ p.num .modbusSlaveAddr ∧ p.num .modbusSlaveAddr ≤ 247 at hsound
      simp only [needsRepair, Bool.or_eq_false_iff, decide_eq_false_iff_not]
      omega
  | modbusPollPeriod =>
      change 100 ≤ p.num .modbusPollPeriod ∧ p.num .modbusPollPeriod ≤ 60000 at hsound
      simp only [needsRepair, Bool.or_eq_false_iff, decide_eq_false_iff_not]
      omega

theorem repairCandidate_eq_iff : repairCandidate p = p ↔ repairFields p.get = p.get := by
  rw [repairCandidate]
  generalize repairFields p.get = fields
  exact ConfigParams.ext_iff

theorem repairFields_eq_iff :
    repairFields p.get = p.get ↔
      forall id, needsRepair id p = true -> p.get id = applyDefaults.get id := by
  unfold repairFields
  have hall := @Config.repairAll_eq_self_iff _ _ _ fieldNeedsRepair applyDefaults.get repairOrder
    repairOrder_nodup p.get
  exact ⟨fun h id => hall.mp h id (mem_repairOrder id), fun h => hall.mpr fun id _ => h id⟩

theorem repairCandidate_self_iff (h : Sound p) :
    repairCandidate p = p ↔ forall sensor, ChannelReloads p sensor := by
  have hfields := Iff.trans (repairCandidate_eq_iff (p := p)) repairFields_eq_iff
  constructor
  · intro hself sensor
    have hkept := hfields.mp hself
    exact (channel_kept_iff h sensor).mp fun field hbad => hkept (.channel sensor field) hbad
  · intro hreloads
    apply hfields.mpr
    intro id hbad
    by_cases hchannel : exists sensor field, id = .channel sensor field
    · rcases hchannel with ⟨sensor, field, rfl⟩
      exact (channel_kept_iff h sensor).mpr (hreloads sensor) field hbad
    · have hkept := scalar_kept h id fun sensor field hid => hchannel ⟨sensor, field, hid⟩
      exact absurd hbad (Bool.eq_false_iff.mp hkept)

/-- The saved blob gives the live parameters back after a reboot exactly when each channel meets
the rules of loading, which differ from those of writing. -/
theorem parameters_survive_reboot_iff {s : Service} (h : ConfigReached s) (booted : Service) :
    (configServiceApplyLoaded s.blob booted).2.params = s.params ↔
      forall sensor, ChannelReloads s.params sensor :=
  repairCandidate_self_iff h.sound.params

/-- Two parameters are set, and the second save fails. -/
def changedService : Service :=
  ((configServiceInit none).after
    (.setParam .saved (.channel .temperature .rangeMin) (-3000 : Int16))).after
    (.setParam (.failed none) (.channel .temperature .alarmLow) (-500 : Int16))

theorem parameters_survive_reboot_iff_changed :
    changedService.params.num (.channel .temperature .rangeMin) = -3000 ∧
      changedService.params.num (.channel .temperature .alarmLow) = -500 ∧
      (configServiceApplyLoaded changedService.blob (configServiceInit none)).2.params =
        changedService.params := by
  have hreached : ConfigReached changedService := ((ConfigReached.init none).call _).call _
  refine ⟨by decide +kernel, by decide +kernel,
    (parameters_survive_reboot_iff hreached (configServiceInit none)).mpr ?_⟩
  intro sensor
  have hrange : RangeApart sensor (changedService.params.num (.channel sensor .rangeMin))
      (changedService.params.num (.channel sensor .rangeMax)) := by
    cases sensor <;> unfold RangeApart <;> decide +kernel
  refine ⟨hrange, .inl ?_, .inl ?_, .inl ?_⟩ <;> cases sensor <;> decide +kernel

/-- A temperature range exactly one degree wide is accepted and saved, and its lower limit is
replaced by the default at the next boot. -/
theorem narrow_range_is_replaced :
    ¬forall (s booted : Service), ConfigReached s ->
      (configServiceApplyLoaded s.blob booted).2.params = s.params := by
  intro hclaim
  have hreached := (ConfigReached.init none).call
    (.setParam .saved (.channel .temperature .rangeMin) (8400 : Int16))
  have hreload := hclaim _ (configServiceInit none) hreached
  have hnum := congrArg (fun p => ConfigParams.num p (.channel .temperature .rangeMin)) hreload
  revert hnum
  decide +kernel

end EnvMonitor.FieldDevice.ConfigService
