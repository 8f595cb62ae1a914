import EnvMonitor.Config.Repair
import EnvMonitor.FieldDevice.ConfigService.Params

/-!
# ConfigService of the field device

The live parameters, the snapshot of an edit session, and the blob that the store holds.
-/

namespace EnvMonitor.FieldDevice.ConfigService

inductive ConfigServiceErr where
  | ok
  | invalid
  | persist
  deriving DecidableEq, Repr

abbrev configSchemaVersion : UInt32 := 1

/-- A loaded blob: at least `sizeof(config_blob_t)` bytes, or fewer. -/
inductive ConfigBlob where
  | full (schemaVersion : UInt32) (params : ConfigParams)
  | short

structure Service where
  params : ConfigParams
  snapshot : Option ConfigParams
  /-- What `config_store_load` finds. -/
  stored : Option ConfigBlob

/-- How `save` of the store ended, with what it leaves for a load when it failed. -/
inductive SaveOutcome where
  | saved
  | failed (left : Option ConfigBlob)

def configServiceInit (stored : Option ConfigBlob) : Service where
  params := applyDefaults
  snapshot := none
  stored := stored

def fieldNeedsRepair (id : ConfigParamId) (fields : (id : ConfigParamId) -> id.Value) : Bool :=
  needsRepair id ⟨fields⟩

@[irreducible]
def repairFields (fields : (id : ConfigParamId) -> id.Value) : (id : ConfigParamId) -> id.Value :=
  Config.repairAll fieldNeedsRepair applyDefaults.get repairOrder fields

/-- The parameters left of a stored blob whose schema is the current one. -/
def repairCandidate (candidate : ConfigParams) : ConfigParams := ⟨repairFields candidate.get⟩

def configServiceApplyLoaded (blob : ConfigBlob) (s : Service) : ConfigServiceErr × Service :=
  match blob with
  | .short => (.invalid, s)
  | .full schemaVersion candidate =>
      if schemaVersion ≠ configSchemaVersion then (.ok, { s with params := applyDefaults })
      else (.ok, { s with params := repairCandidate candidate })

/-- The blob that `persist_to_store` saves. -/
def Service.blob (s : Service) : ConfigBlob := .full configSchemaVersion s.params

def persistToStore (outcome : SaveOutcome) (s : Service) : ConfigServiceErr × Service :=
  match outcome with
  | .saved => (.ok, { s with stored := some s.blob })
  | .failed left => (.persist, { s with stored := left })

/-- `config_service_set_param`.  The callbacks are called exactly when it returns OK. -/
def configServiceSetParam (outcome : SaveOutcome) (id : ConfigParamId) (value : id.Value)
    (s : Service) : ConfigServiceErr × Service :=
  if validateParamInternal id value s.params then
    -- a failed save leaves the new value in `params`
    persistToStore outcome { s with params := applyParamToStruct s.params id value }
  else (.invalid, s)

def configServiceSnapshot (s : Service) : Service := { s with snapshot := some s.params }

/-- `config_service_restore_snapshot`; it calls no callback. -/
def configServiceRestoreSnapshot (outcome : SaveOutcome) (s : Service) :
    ConfigServiceErr × Service :=
  match s.snapshot with
  | none => (.invalid, s)
  | some params => persistToStore outcome { s with params := params }

def configServiceFlush (outcome : SaveOutcome) (s : Service) : ConfigServiceErr × Service :=
  persistToStore outcome s

/-!
## What a call leaves
-/

@[simp] theorem persistToStore_params (outcome : SaveOutcome) (s : Service) :
    (persistToStore outcome s).2.params = s.params := by
  cases outcome <;> rfl

@[simp] theorem persistToStore_snapshot (outcome : SaveOutcome) (s : Service) :
    (persistToStore outcome s).2.snapshot = s.snapshot := by
  cases outcome <;> rfl

variable {s : Service} {id : ConfigParamId} {outcome : SaveOutcome}

theorem configServiceSetParam_accepted {value : id.Value}
    (h : validateParamInternal id value s.params = true) :
    configServiceSetParam outcome id value s =
      persistToStore outcome { s with params := applyParamToStruct s.params id value } :=
  if_pos h

theorem configServiceSetParam_rejected {value : id.Value}
    (h : ¬validateParamInternal id value s.params = true) :
    configServiceSetParam outcome id value s = (.invalid, s) :=
  if_neg h

/-!
## Configurations that can come about
-/

/-- Calls after `config_service_init`, in any number and order. -/
inductive ConfigCall where
  | applyLoaded (blob : ConfigBlob)
  | setParam (outcome : SaveOutcome) (id : ConfigParamId) (value : id.Value)
  | takeSnapshot
  | restoreSnapshot (outcome : SaveOutcome)
  | flush (outcome : SaveOutcome)

def Service.after (s : Service) : ConfigCall -> Service
  | .applyLoaded blob => (configServiceApplyLoaded blob s).2
  | .setParam outcome id value => (configServiceSetParam outcome id value s).2
  | .takeSnapshot => configServiceSnapshot s
  | .restoreSnapshot outcome => (configServiceRestoreSnapshot outcome s).2
  | .flush outcome => (configServiceFlush outcome s).2

inductive ConfigReached : Service -> Prop
  | init (stored : Option ConfigBlob) : ConfigReached (configServiceInit stored)
  | call {s : Service} (reached : ConfigReached s) (call : ConfigCall) :
      ConfigReached (s.after call)

end EnvMonitor.FieldDevice.ConfigService
