import EnvMonitor.Gateway.ConfigService.Sound

/-!
# Configuration across a reboot

When the blob of a configuration that came about by accepted changes gives that configuration
back.
-/

namespace EnvMonitor.Gateway.ConfigService

/-- The rules a repaired and accepted configuration meets, beside those of every configuration. -/
theorem loadParams_channel (loaded : ConfigParams) (ch : Channel) :
    ChannelSound (loadParams loaded) ch ∧ AlarmsInRange (loadParams loaded) ch := by
  unfold loadParams
  dsimp only
  split
  · rename_i hvalid
    exact (prvChannelsValid_iff.mp hvalid).2.2 ch
  · exact prvApplyDefaults_channel ch

variable {param : NumericParam} {s : Service} {p : ConfigParams}

theorem prvRepair_scalar (loaded : ConfigParams) (h : param.IsScalar) :
    (prvRepair loaded prvApplyDefaults).holds (.numeric param) = true := by
  by_cases hvalid : loaded.holds (.numeric param) = true
  · have hkept : (prvRepair loaded prvApplyDefaults).num param = loaded.num param := by
      unfold prvRepair ConfigParams.num
      dsimp only
      rw [if_pos hvalid]
    exact holds_of_num_eq h hkept hvalid
  · have hreplaced :
        (prvRepair loaded prvApplyDefaults).num param = prvApplyDefaults.num param := by
      unfold prvRepair ConfigParams.num
      dsimp only
      rw [if_neg hvalid]
    exact holds_of_num_eq h hreplaced (prvApplyDefaults_sound.scalar param h)

theorem loadParams_sound (loaded : ConfigParams) : Sound (loadParams loaded) := by
  have hchannel := fun ch => (loadParams_channel loaded ch).1
  unfold loadParams at hchannel ⊢
  dsimp only at hchannel ⊢
  split
  · rename_i hvalid
    rw [if_pos hvalid] at hchannel
    exact
      { channel := hchannel
        scalar := fun param hscalar => prvRepair_scalar loaded hscalar
        count := by
          unfold prvRepair ConfigParams.num
          dsimp only
          split
          · rename_i hcount
            right
            change (prvInRange _ 1 4 && _) = true at hcount
            rw [Bool.and_eq_true] at hcount
            exact hcount.1
          · exact Or.inl rfl
        broker := by
          by_cases hbroker : loaded.holds .mqttBroker = true
          · left
            have hkept : (prvRepair loaded prvApplyDefaults).mqttBroker = loaded.mqttBroker :=
              if_pos hbroker
            unfold ConfigParams.holds ConfigParams.get prvValidate
            dsimp only
            rw [hkept]
            exact hbroker
          · exact Or.inr (if_neg hbroker)
        servers := by
          by_cases hservers : loaded.holds .ntpServers = true
          · have hkept : (prvRepair loaded prvApplyDefaults).ntpServers = loaded.ntpServers :=
              if_pos hservers
            unfold ConfigParams.holds ConfigParams.get prvValidate
            dsimp only
            rw [hkept]
            exact hservers
          · have hreplaced : (prvRepair loaded prvApplyDefaults).ntpServers =
                prvApplyDefaults.ntpServers := if_neg hservers
            unfold ConfigParams.holds ConfigParams.get prvValidate
            dsimp only
            rw [hreplaced]
            exact prvApplyDefaults_sound.servers }
  · exact prvApplyDefaults_sound

/-- Live parameters and snapshot. -/
structure Service.Sound (s : Service) : Prop where
  params : ConfigService.Sound s.params
  snapshot : forall p, s.snapshot = some p -> ConfigService.Sound p

theorem prvPersist_params (saved : Bool) (s : Service) :
    (prvPersist saved s).2.params = s.params ∧ (prvPersist saved s).2.snapshot = s.snapshot := by
  cases saved <;> exact ⟨rfl, rfl⟩

theorem Service.Sound.congr {s' : Service} (h : s.Sound) (hparams : s'.params = s.params)
    (hsnapshot : s'.snapshot = s.snapshot) : s'.Sound where
  params := hparams ▸ h.params
  snapshot := hsnapshot ▸ h.snapshot

theorem Service.Sound.apply (h : s.Sound) (id : ConfigParamId) (value : id.Value) :
    (prvApply id value s).2.Sound := by
  unfold prvApply
  split
  · rename_i hvalid
    exact ⟨h.params.write hvalid, h.snapshot⟩
  · exact h

theorem Service.Sound.after (h : s.Sound) (call : ConfigCall) : (s.after call).Sound := by
  cases call with
  | applyLoaded blob =>
      change (configServiceApplyLoaded blob s).2.Sound
      have hload := fun loaded => loadParams_sound loaded
      cases blob with
      | current schemaVersion params profiles =>
          unfold configServiceApplyLoaded
          dsimp only
          split
          · exact ⟨hload params, h.snapshot⟩
          · exact ⟨prvApplyDefaults_sound, h.snapshot⟩
      | first schemaVersion params =>
          unfold configServiceApplyLoaded
          dsimp only
          split
          · exact ⟨hload params, h.snapshot⟩
          · exact ⟨prvApplyDefaults_sound, h.snapshot⟩
      | otherLength => exact ⟨prvApplyDefaults_sound, h.snapshot⟩
  | setParam saved id value =>
      change (configServiceSetParam saved id value s).2.Sound
      have happly := h.apply id value
      unfold configServiceSetParam
      split
      · rename_i s' heq
        rw [heq] at happly
        have hkept := prvPersist_params saved s'
        exact happly.congr hkept.1 hkept.2
      · exact happly
  | setParamDeferred id value => exact h.apply id value
  | takeSnapshot =>
      refine ⟨h.params, ?_⟩
      intro p hp
      cases hp
      exact h.params
  | restoreSnapshot saved =>
      change (configServiceRestoreSnapshot saved s).2.Sound
      unfold configServiceRestoreSnapshot
      split
      · exact h
      · rename_i params hsnapshot
        have hkept := prvPersist_params saved { s with params := params, dirty := true }
        have hrestored : Service.Sound { s with params := params, dirty := true } :=
          ⟨h.snapshot params hsnapshot, h.snapshot⟩
        exact hrestored.congr hkept.1 hkept.2

theorem ConfigReached.sound (h : ConfigReached s) : s.Sound := by
  induction h with
  | init => exact ⟨prvApplyDefaults_sound, fun p hp => by cases hp⟩
  | call reached call ih => exact ih.after call

/-!
## What survives
-/

/-- The alarm thresholds lie within the range limits, and each counted NTP server has a name. -/
structure Survives (p : ConfigParams) : Prop where
  alarms : forall ch, AlarmsInRange p ch
  servers : p.num .ntpServerCount = 0 ∨ p.serversNamed (p.num .ntpServerCount) = true

/-- The reboot accepts the blob and takes all parameters from it. -/
def Reloads (s : Service) (booted : Service) : Prop :=
  (configServiceApplyLoaded s.blob booted).1 = .ok ∧
    (configServiceApplyLoaded s.blob booted).2.params = s.params

theorem reloads_iff (s booted : Service) : Reloads s booted ↔ loadParams s.params = s.params := by
  unfold Reloads Service.blob configServiceApplyLoaded
  dsimp only
  rw [if_pos rfl]
  exact ⟨fun h => h.2, fun h => ⟨rfl, h⟩⟩

theorem holds_count_iff (h : Sound p) :
    p.num .ntpServerCount = 0 ∨ p.holds (.numeric .ntpServerCount) = true ↔
      (p.num .ntpServerCount = 0 ∨ p.serversNamed (p.num .ntpServerCount) = true) := by
  constructor
  · rintro (hzero | hholds)
    · exact Or.inl hzero
    · change (prvInRange _ 1 4 && p.serversNamed (p.num .ntpServerCount)) = true at hholds
      rw [Bool.and_eq_true] at hholds
      exact Or.inr hholds.2
  · rintro (hzero | hnamed)
    · exact Or.inl hzero
    · rcases h.count with hzero | hrange
      · exact Or.inl hzero
      · right
        change (prvInRange (p.num .ntpServerCount) 1 4 &&
          p.serversNamed (p.num .ntpServerCount)) = true
        rw [Bool.and_eq_true]
        exact ⟨hrange, hnamed⟩

theorem prvRepair_numeric (h : p.holds (.numeric param) = true ∨ p.num param = param.default) :
    (prvRepair p prvApplyDefaults).numeric param = p.numeric param := by
  unfold prvRepair
  dsimp only
  split
  · rfl
  · rename_i hinvalid
    rcases h with hvalid | hdefault
    · exact absurd hvalid hinvalid
    · apply Subtype.ext
      exact hdefault.symm

theorem prvRepair_eq (h : Sound p) (hs : Survives p) : prvRepair p prvApplyDefaults = p := by
  have hnumeric : (prvRepair p prvApplyDefaults).numeric = p.numeric := by
    funext param
    apply prvRepair_numeric
    cases param with
    | channel ch field =>
        exact Or.inl (channel_holds_iff.mpr ⟨h.channel ch, hs.alarms ch⟩ field)
    | ntpServerCount => exact ((holds_count_iff h).mpr hs.servers).symm
    | _ => exact Or.inl (h.scalar _ trivial)
  have hbroker : (prvRepair p prvApplyDefaults).mqttBroker = p.mqttBroker := by
    unfold prvRepair
    dsimp only
    split
    · rfl
    · rename_i hinvalid
      rcases h.broker with hvalid | hdefault
      · exact absurd hvalid hinvalid
      · exact hdefault.symm
  have hservers : (prvRepair p prvApplyDefaults).ntpServers = p.ntpServers :=
    if_pos h.servers
  exact ConfigParams.ext hnumeric hbroker hservers

theorem loadParams_eq (h : Sound p) (hs : Survives p) : loadParams p = p := by
  have hvalid : prvChannelsValid p = true :=
    prvChannelsValid_iff.mpr ⟨h.scalar _ trivial, h.scalar _ trivial,
      fun ch => ⟨h.channel ch, hs.alarms ch⟩⟩
  unfold loadParams
  dsimp only
  rw [prvRepair_eq h hs, if_pos hvalid]

theorem survives_of_loadParams_eq (heq : loadParams p = p) : Survives p where
  alarms := fun ch => heq ▸ (loadParams_channel p ch).2
  servers := by
    by_cases hvalid : p.holds (.numeric .ntpServerCount) = true
    · right
      change (prvInRange _ 1 4 && p.serversNamed (p.num .ntpServerCount)) = true at hvalid
      rw [Bool.and_eq_true] at hvalid
      exact hvalid.2
    · left
      have hcount : (loadParams p).num .ntpServerCount = 0 := by
        unfold loadParams
        dsimp only
        split
        · have hreplaced : (prvRepair p prvApplyDefaults).numeric .ntpServerCount =
              prvApplyDefaults.numeric .ntpServerCount := if_neg hvalid
          unfold ConfigParams.num
          rw [hreplaced]
          rfl
        · rfl
      rw [heq] at hcount
      exact hcount

/-- A configuration that came about by accepted changes survives a reboot exactly if its alarm
thresholds lie within the range limits and its NTP servers have names. -/
theorem reloads_iff_survives {s : Service} (h : ConfigReached s) (booted : Service) :
    Reloads s booted ↔ Survives s.params := by
  rw [reloads_iff]
  constructor
  · intro heq
    exact survives_of_loadParams_eq heq
  · intro hs
    exact loadParams_eq h.sound.params hs

/-- The range of the temperature is narrowed from below, then its low threshold follows. -/
def narrowedRange : Service :=
  (configServiceInit.after
    (.setParam true (.numeric (.channel .temp .rangeMin)) ⟨-3000, by decide⟩)).after
    (.setParamDeferred (.numeric (.channel .temp .alarmLow)) ⟨-500, by decide⟩)

theorem reloads_narrowed :
    narrowedRange.params.num (.channel .temp .rangeMin) = -3000 ∧
      narrowedRange.params.num (.channel .temp .alarmLow) = -500 ∧
      Reloads narrowedRange configServiceInit := by
  have hreached : ConfigReached narrowedRange := (ConfigReached.init.call _).call _
  refine ⟨by decide +kernel, by decide +kernel,
    (reloads_iff_survives hreached configServiceInit).mpr ⟨?_, .inl (by decide +kernel)⟩⟩
  intro ch
  cases ch <;> constructor <;> decide +kernel

/-- The lower range limit of the temperature moves past the low alarm threshold. -/
def raisedRange : Service :=
  configServiceInit.after (.setParam true (.numeric (.channel .temp .rangeMin)) ⟨1000, by decide⟩)

/-- The change is accepted and saved, and the reboot falls back to the defaults. -/
theorem accepted_change_not_reloaded :
    ConfigReached raisedRange ∧
      (configServiceSetParam true (.numeric (.channel .temp .rangeMin)) ⟨1000, by decide⟩
        configServiceInit).1 = .ok ∧
      ¬Reloads raisedRange configServiceInit := by
  refine ⟨ConfigReached.init.call _, by decide +kernel, ?_⟩
  rw [reloads_iff]
  intro h
  have hlow := (survives_of_loadParams_eq h).alarms .temp
  exact absurd hlow.low_ge (by decide +kernel)

end EnvMonitor.Gateway.ConfigService
