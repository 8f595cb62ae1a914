import EnvMonitor.Gateway.ConfigService.Reload

/-!
# Configurations that come out of a stored blob

Every blob of one of the two lengths is a version and parameters with any values in them.  The
repair judges each field beside the others as they were stored; a second check covers the sensor
channels, but not the NTP fields.
-/

namespace EnvMonitor.Gateway.ConfigService

/-- Server strings before the first empty one. -/
def leadingServers (p : ConfigParams) : Nat :=
  ((List.finRange configMaxNtpServers).takeWhile fun i => (p.ntpServers i).headD 0 ≠ 0).length

/-- Every parameter is valid beside the others or the default, the channels meet their rules,
and no NTP server without a name is counted. -/
structure Coherent (p : ConfigParams) : Prop where
  field : forall id, p.holds id = true ∨ p.get id = prvApplyDefaults.get id
  channel : forall ch, ChannelSound p ch ∧ AlarmsInRange p ch
  servers : p.num .ntpServerCount ≤ leadingServers p

/-- The parameters of a blob whose version fits its length. -/
def ConfigBlob.stored : ConfigBlob -> Option ConfigParams
  | .current schemaVersion params _ =>
      if schemaVersion = configSchemaVersion then some params else none
  | .first schemaVersion params =>
      if schemaVersion = configSchemaVersionV1 then some params else none
  | .otherLength => none

/-- The stored server count is valid beside the stored names, but the names are not terminated;
and the channels, with defaults for their invalid fields, are kept. -/
def CountOutlivesNames (stored : ConfigParams) : Prop :=
  prvChannelsValid (prvRepair stored prvApplyDefaults) = true ∧
    stored.holds (.numeric .ntpServerCount) = true ∧ stored.holds .ntpServers = false

theorem applyLoaded_params (blob : ConfigBlob) (s : Service) :
    (configServiceApplyLoaded blob s).2.params =
      match blob.stored with
      | some stored => loadParams stored
      | none => prvApplyDefaults := by
  cases blob with
  | current schemaVersion params profiles =>
      unfold configServiceApplyLoaded ConfigBlob.stored
      dsimp only
      split <;> rfl
  | first schemaVersion params =>
      unfold configServiceApplyLoaded ConfigBlob.stored
      dsimp only
      split <;> rfl
  | otherLength => rfl

section Servers

variable {p : ConfigParams}

theorem le_length_takeWhile {α : Type} {q : α -> Bool} (xs : List α) (k : Nat)
    (hk : k ≤ xs.length) (h : forall i (hi : i < xs.length), i < k -> q xs[i] = true) :
    k ≤ (xs.takeWhile q).length := by
  induction xs generalizing k with
  | nil => exact hk
  | cons x xs ih =>
      cases k with
      | zero => exact Nat.zero_le _
      | succ k =>
          have hx : q x = true := h 0 (Nat.succ_pos _) (Nat.succ_pos _)
          rw [List.takeWhile_cons_of_pos hx]
          apply Nat.succ_le_succ
          apply ih k (Nat.le_of_succ_le_succ hk)
          intro i hi hik
          exact h (i + 1) (Nat.succ_lt_succ hi) (Nat.succ_lt_succ hik)

theorem leadingServers_defaults : leadingServers prvApplyDefaults = 0 := by
  decide

theorem count_le_leadingServers {count : Int}
    (hcount : prvInRange count 1 configMaxNtpServers = true)
    (hnamed : p.serversNamed count = true) : count ≤ leadingServers p := by
  rcases prvInRange_iff.mp hcount with ⟨hmin, hmax⟩
  have hle : count.toNat ≤ leadingServers p := by
    apply le_length_takeWhile
    · rw [List.length_finRange]
      omega
    · intro i hi hcounted
      rw [List.getElem_finRange]
      rw [List.length_finRange] at hi
      have hname := List.all_eq_true.mp hnamed ⟨i, hi⟩ (List.mem_finRange _)
      have hbefore : (i : Int) < count := by omega
      simpa [hbefore] using hname
  omega

end Servers

theorem prvApplyDefaults_coherent : Coherent prvApplyDefaults where
  field := fun _ => .inr rfl
  channel := prvApplyDefaults_channel
  servers := by decide

/-!
## The repaired configuration
-/

section Repaired

variable {stored : ConfigParams}

theorem prvRepair_get (stored : ConfigParams) (id : ConfigParamId) :
    (prvRepair stored prvApplyDefaults).get id =
      if stored.holds id = true then stored.get id else prvApplyDefaults.get id := by
  cases id <;> rfl

/-- A field whose rule looks at no other field, and the server strings, come out valid or as the
default. -/
theorem prvRepair_field (id : ConfigParamId)
    (hown : forall p : ConfigParams, p.get id = stored.get id -> stored.holds id = true ->
      p.holds id = true) :
    (prvRepair stored prvApplyDefaults).holds id = true ∨
      (prvRepair stored prvApplyDefaults).get id = prvApplyDefaults.get id := by
  have hget := prvRepair_get stored id
  by_cases hvalid : stored.holds id = true
  · rw [if_pos hvalid] at hget
    exact .inl (hown _ hget hvalid)
  · rw [if_neg hvalid] at hget
    exact .inr hget

theorem prvRepair_count (hvalid : stored.holds (.numeric .ntpServerCount) = true) :
    (prvRepair stored prvApplyDefaults).num .ntpServerCount = stored.num .ntpServerCount := by
  have hget := prvRepair_get stored (.numeric .ntpServerCount)
  rw [if_pos hvalid] at hget
  exact congrArg Subtype.val hget

theorem prvRepair_coherent_iff
    (hchannels : prvChannelsValid (prvRepair stored prvApplyDefaults) = true) :
    Coherent (prvRepair stored prvApplyDefaults) ↔
      ¬ (stored.holds (.numeric .ntpServerCount) = true ∧ stored.holds .ntpServers = false) := by
  have hservers := prvRepair_get stored .ntpServers
  constructor
  · intro hcoherent hlost
    rcases hlost with ⟨hcount, hnames⟩
    -- a count of at least one, and no name left
    rw [if_neg (by rw [hnames]; decide)] at hservers
    have hle := hcoherent.servers
    have hnone : leadingServers (prvRepair stored prvApplyDefaults) = 0 := by
      have hsame : leadingServers (prvRepair stored prvApplyDefaults) =
          leadingServers prvApplyDefaults := by
        unfold leadingServers
        change (prvRepair stored prvApplyDefaults).ntpServers = prvApplyDefaults.ntpServers
          at hservers
        rw [hservers]
      rw [hsame, leadingServers_defaults]
    rw [hnone, prvRepair_count hcount] at hle
    change (prvInRange (stored.num .ntpServerCount) 1 configMaxNtpServers &&
      stored.serversNamed (stored.num .ntpServerCount)) = true at hcount
    rw [Bool.and_eq_true, prvInRange_iff] at hcount
    have hmin := hcount.1.1
    omega
  · intro hkept
    have hcountHolds : stored.holds (.numeric .ntpServerCount) = true ->
        (prvRepair stored prvApplyDefaults).holds (.numeric .ntpServerCount) = true := by
      intro hcount
      have hnames : stored.holds .ntpServers = true := by
        cases hnames : stored.holds .ntpServers with
        | true => rfl
        | false => exact absurd ⟨hcount, hnames⟩ hkept
      rw [if_pos hnames] at hservers
      change (prvRepair stored prvApplyDefaults).ntpServers = stored.ntpServers at hservers
      change prvValidateNtpCount ((prvRepair stored prvApplyDefaults).num .ntpServerCount)
        (prvRepair stored prvApplyDefaults) = true
      rw [prvRepair_count hcount]
      unfold prvValidateNtpCount ConfigParams.serversNamed
      rw [hservers]
      exact hcount
    have hchain := (prvChannelsValid_iff.mp hchannels).2.2
    have hscalar : forall param : NumericParam, param.IsScalar ->
        (prvRepair stored prvApplyDefaults).holds (.numeric param) = true :=
      fun param hscalar => prvRepair_scalar stored hscalar
    constructor
    · intro id
      cases id with
      | mqttBroker =>
          apply prvRepair_field
          intro p hget hvalid
          unfold ConfigParams.holds
          rw [hget]
          exact hvalid
      | ntpServers =>
          apply prvRepair_field
          intro p hget hvalid
          unfold ConfigParams.holds
          rw [hget]
          exact hvalid
      | numeric param =>
          cases param with
          | channel ch field => exact .inl (channel_holds_iff.mpr (hchain ch) field)
          | ntpServerCount =>
              by_cases hcount : stored.holds (.numeric .ntpServerCount) = true
              · exact .inl (hcountHolds hcount)
              · right
                rw [prvRepair_get, if_neg hcount]
          | _ => exact .inl (hscalar _ trivial)
    · exact hchain
    · by_cases hcount : stored.holds (.numeric .ntpServerCount) = true
      · have hvalid := hcountHolds hcount
        change (prvInRange _ 1 configMaxNtpServers &&
          (prvRepair stored prvApplyDefaults).serversNamed _) = true at hvalid
        rw [Bool.and_eq_true] at hvalid
        exact count_le_leadingServers hvalid.1 hvalid.2
      · have hzero := congrArg Subtype.val (prvRepair_get stored (.numeric .ntpServerCount))
        rw [if_neg hcount] at hzero
        change (prvRepair stored prvApplyDefaults).num .ntpServerCount = 0 at hzero
        rw [hzero]
        exact Int.natCast_nonneg _

end Repaired

/-- What comes out of a blob is coherent exactly if its server count does not outlive its server
names. -/
theorem applyLoaded_coherent_iff (blob : ConfigBlob) (s : Service) :
    Coherent (configServiceApplyLoaded blob s).2.params ↔
      forall stored, blob.stored = some stored -> ¬ CountOutlivesNames stored := by
  rw [applyLoaded_params]
  cases hstored : blob.stored with
  | none =>
      constructor
      · exact fun _ _ h => nomatch h
      · exact fun _ => prvApplyDefaults_coherent
  | some stored =>
      dsimp only
      unfold loadParams CountOutlivesNames
      dsimp only
      by_cases hchannels : prvChannelsValid (prvRepair stored prvApplyDefaults) = true
      · rw [if_pos hchannels, prvRepair_coherent_iff hchannels]
        constructor
        · intro hkept _ heq hlost
          cases heq
          exact hkept hlost.2
        · intro hkept hlost
          exact hkept stored rfl ⟨hchannels, hlost⟩
      · rw [if_neg hchannels]
        constructor
        · intro _ _ heq hlost
          cases heq
          exact hchannels hlost.1
        · exact fun _ => prvApplyDefaults_coherent

/-- The defaults with one NTP server, whose name fills all 64 bytes. -/
def unterminatedServer : ConfigParams where
  numeric := Function.update prvApplyDefaults.numeric .ntpServerCount ⟨1, by decide⟩
  mqttBroker := prvApplyDefaults.mqttBroker
  ntpServers := fun i => if i = 0 then List.replicate configMaxNtpHostLen 97
    else List.replicate configMaxNtpHostLen 0

/-- The name is dropped and the count is not: one server is counted and none has a name. -/
theorem counted_server_without_name :
    ¬ forall (blob : ConfigBlob) (s : Service),
      Coherent (configServiceApplyLoaded blob s).2.params := by
  intro h
  have hcoherent := h (.current configSchemaVersion unterminatedServer ⟨0, []⟩) configServiceInit
  exact absurd hcoherent.servers (by decide +kernel)

end EnvMonitor.Gateway.ConfigService
