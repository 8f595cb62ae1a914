import EnvMonitor.Gateway.ConfigService.Params

/-!
# ConfigService

The live parameters, the blob they are stored as, and what a reboot makes of it.
-/

namespace EnvMonitor.Gateway.ConfigService

inductive ConfigServiceErr where
  | ok
  | invalid
  | persist
  deriving DecidableEq, Repr

abbrev configSchemaVersion : Nat := 2
abbrev configSchemaVersionV1 : Nat := 1
abbrev deviceProfileMax : Nat := 8

/-- `config_profiles_t` -/
structure ConfigProfiles where
  count : Nat
  entries : List DeviceProfile

/-- A stored blob by its length: `config_blob_t`, `config_blob_v1_t`, or neither. -/
inductive ConfigBlob where
  | current (schemaVersion : Nat) (params : ConfigParams) (profiles : ConfigProfiles)
  | first (schemaVersion : Nat) (params : ConfigParams)
  | otherLength

structure Service where
  params : ConfigParams
  snapshot : Option ConfigParams
  dirty : Bool
  profiles : ConfigProfiles

def configServiceInit : Service where
  params := prvApplyDefaults
  snapshot := none
  dirty := false
  profiles := ⟨0, []⟩

/-- The blob that `prv_persist_ex` saves. -/
def Service.blob (s : Service) : ConfigBlob :=
  .current configSchemaVersion s.params s.profiles

/-- `prv_persist`; `saved` is how the save of the blob ended. -/
def prvPersist (saved : Bool) (s : Service) : ConfigServiceErr × Service :=
  if saved then (.ok, { s with dirty := false }) else (.persist, { s with dirty := true })

/-- `prv_apply` -/
def prvApply (id : ConfigParamId) (value : id.Value) (s : Service) : ConfigServiceErr × Service :=
  if prvValidate id value s.params then
    (.ok, { s with params := prvWriteField s.params id value, dirty := true })
  else (.invalid, s)

def configServiceSetParam (saved : Bool) (id : ConfigParamId) (value : id.Value) (s : Service) :
    ConfigServiceErr × Service :=
  match prvApply id value s with
  | (.ok, s') => prvPersist saved s'
  | refused => refused

def configServiceSetParamDeferred (id : ConfigParamId) (value : id.Value) (s : Service) :
    ConfigServiceErr × Service :=
  prvApply id value s

def configServiceSnapshot (s : Service) : Service := { s with snapshot := some s.params }

def configServiceRestoreSnapshot (saved : Bool) (s : Service) : ConfigServiceErr × Service :=
  match s.snapshot with
  | none => (.invalid, s)
  | some params => prvPersist saved { s with params := params, dirty := true }

/-!
## Loading
-/

/-- The range / alarm / hysteresis chain, with the two parameters before it. -/
def chainParams : List NumericParam :=
  [.pollInterval, .filterAlpha,
   .channel .temp .rangeMin, .channel .temp .rangeMax,
   .channel .humidity .rangeMin, .channel .humidity .rangeMax,
   .channel .pressure .rangeMin, .channel .pressure .rangeMax,
   .channel .temp .alarmHigh, .channel .temp .alarmLow, .channel .temp .hysteresis,
   .channel .humidity .alarmHigh, .channel .humidity .alarmLow, .channel .humidity .hysteresis,
   .channel .pressure .alarmHigh, .channel .pressure .alarmLow, .channel .pressure .hysteresis]

/-- The stored value of a parameter is valid beside the others. -/
def ConfigParams.holds (p : ConfigParams) (id : ConfigParamId) : Bool := prvValidate id (p.get id) p

def prvChannelsValid (p : ConfigParams) : Bool :=
  chainParams.all fun param => p.holds (.numeric param)

/-- `prv_repair`: all checks are made before the first field is replaced. -/
def prvRepair (loaded defaults : ConfigParams) : ConfigParams where
  numeric := fun param =>
    if loaded.holds (.numeric param) then loaded.numeric param else defaults.numeric param
  mqttBroker := if loaded.holds .mqttBroker then loaded.mqttBroker else defaults.mqttBroker
  ntpServers := if loaded.holds .ntpServers then loaded.ntpServers else defaults.ntpServers

/-- The parameters that a usable blob leaves. -/
def loadParams (loaded : ConfigParams) : ConfigParams :=
  let repaired := prvRepair loaded prvApplyDefaults
  if prvChannelsValid repaired then repaired else prvApplyDefaults

def configServiceApplyLoaded (blob : ConfigBlob) (s : Service) : ConfigServiceErr × Service :=
  match blob with
  | .current schemaVersion params profiles =>
      if schemaVersion = configSchemaVersion then
        (.ok, { s with params := loadParams params,
                       profiles := if profiles.count ≤ deviceProfileMax then profiles
                                   else ⟨0, []⟩ })
      else (.invalid, { s with params := prvApplyDefaults, profiles := ⟨0, []⟩ })
  | .first schemaVersion params =>
      if schemaVersion = configSchemaVersionV1 then
        (.ok, { s with params := loadParams params, profiles := ⟨0, []⟩ })
      else (.invalid, { s with params := prvApplyDefaults, profiles := ⟨0, []⟩ })
  | .otherLength => (.invalid, { s with params := prvApplyDefaults, profiles := ⟨0, []⟩ })

/-!
## Configurations that can come about
-/

/-- Calls after `config_service_init`, in any number and order. -/
inductive ConfigCall where
  | applyLoaded (blob : ConfigBlob)
  | setParam (saved : Bool) (id : ConfigParamId) (value : id.Value)
  | setParamDeferred (id : ConfigParamId) (value : id.Value)
  | takeSnapshot
  | restoreSnapshot (saved : Bool)

def Service.after (s : Service) : ConfigCall -> Service
  | .applyLoaded blob => (configServiceApplyLoaded blob s).2
  | .setParam saved id value => (configServiceSetParam saved id value s).2
  | .setParamDeferred id value => (configServiceSetParamDeferred id value s).2
  | .takeSnapshot => configServiceSnapshot s
  | .restoreSnapshot saved => (configServiceRestoreSnapshot saved s).2

inductive ConfigReached : Service -> Prop
  | init : ConfigReached configServiceInit
  | call {s : Service} (reached : ConfigReached s) (call : ConfigCall) :
      ConfigReached (s.after call)

end EnvMonitor.Gateway.ConfigService
