import EnvMonitor.Config.Commit
import EnvMonitor.FieldDevice.ConfigService.Sequence

/-!
# The field device's console: staged changes

`config set` and `prov set` stage a value after ConfigService has checked it alone beside the
live configuration.  The commit hands the staged values to `config_service_set_param` one by one
and goes on behind a call that fails.
-/

namespace EnvMonitor.FieldDevice.Console

open ConfigService

inductive ConsoleErr where
  | ok
  | unknownKey
  | validation
  | timeout
  | applyFailed
  deriving DecidableEq, Repr

/-- `s_cfg_keys` -/
def cfgKeys : List (String × ConfigParamId) := [
  ("polling-interval-ms", .pollInterval),
  ("temp-alarm-high", .channel .temperature .alarmHigh),
  ("temp-alarm-low", .channel .temperature .alarmLow),
  ("temp-hysteresis", .channel .temperature .hysteresis),
  ("humidity-alarm-high", .channel .humidity .alarmHigh),
  ("humidity-alarm-low", .channel .humidity .alarmLow),
  ("humidity-hysteresis", .channel .humidity .hysteresis),
  ("pressure-alarm-high", .channel .pressure .alarmHigh),
  ("pressure-alarm-low", .channel .pressure .alarmLow),
  ("pressure-hysteresis", .channel .pressure .hysteresis)]

theorem cfgKeys_nodup : (cfgKeys.map (·.2)).Nodup := by decide

/-- The low bytes of a `long`, read at the type of the parameter. -/
def ofLong : (id : ConfigParamId) -> Int -> id.Value
  | .pollInterval, n => UInt32.ofInt n
  | .filterAlpha, n => UInt16.ofInt n
  | .channel .temperature _, n => Int16.ofInt n
  | .channel .humidity _, n => UInt16.ofInt n
  | .channel .pressure _, n => UInt16.ofInt n
  | .modbusSlaveAddr, n => UInt8.ofInt n
  | .modbusPollPeriod, n => UInt32.ofInt n

/-- `cfg_pending_t`: a value is there for each key whose bit of `staged` is set. -/
structure CfgPending where
  dirty : Bool
  staged : (id : ConfigParamId) -> Option id.Value
  clean : dirty = false -> forall id, staged id = none

/-- As `memset` leaves it. -/
def CfgPending.cleared : CfgPending where
  dirty := false
  staged := fun _ => none
  clean := fun _ _ => rfl

def CfgPending.stage (p : CfgPending) (id : ConfigParamId) (value : id.Value) : CfgPending where
  dirty := true
  staged := Function.update p.staged id (some value)
  clean := fun h => nomatch h

/-- `prov_pending_t` -/
structure ProvPending where
  dirty : Bool
  modbusSlaveAddr : UInt8
  deriving DecidableEq, Repr

def ProvPending.cleared : ProvPending where
  dirty := false
  modbusSlaveAddr := 0

/-!
## Staging
-/

/-- `config set`; `parsed` is the number the whole value stands for, if it is one. -/
def cmdConfigSet (key : String) (parsed : Option Int) (live : ConfigService.ConfigParams)
    (pending : CfgPending) : ConsoleErr × CfgPending :=
  match cfgKeys.lookup key, parsed with
  | none, _ => (.unknownKey, pending)
  | some _, none => (.validation, pending)
  | some id, some number =>
      if validateParamInternal id (ofLong id number) live then
        (.ok, pending.stage id (ofLong id number))
      else (.validation, pending)

def validateModbusAddr (addr : UInt8) : Bool := 1 <= addr.toNat && addr.toNat <= 247

/-- `prov set` -/
def cmdProvSet (key : String) (parsed : Option Int) (pending : ProvPending) :
    ConsoleErr × ProvPending :=
  if key = "modbus-addr" then
    match parsed with
    | none => (.validation, pending)
    | some number =>
        if validateModbusAddr (UInt8.ofInt number) then (.ok, ⟨true, UInt8.ofInt number⟩)
        else (.validation, pending)
  else (.unknownKey, pending)

/-!
## Commit
-/

section

variable {rho : Type} (callback : ConfigParamId -> ConfigService.ConfigParams -> rho -> rho)

/-- The calls of a commit, in the order of the table. -/
def CfgPending.calls (pending : CfgPending) : List Call :=
  cfgKeys.filterMap fun key => (pending.staged key.2).map fun value => ⟨key.2, value⟩

def ProvPending.calls (pending : ProvPending) : List Call :=
  if pending.dirty then [⟨.modbusSlaveAddr, pending.modbusSlaveAddr⟩] else []

/-- Every call is made, also behind one that failed: whether all returned OK. -/
def applyEach : List Call -> Configured rho -> Bool × Configured rho
  | [], c => (true, c)
  | call :: calls, c =>
      let first := setParam callback call c
      let rest := applyEach calls first.2
      (first.1 && rest.1, rest.2)

/-- `config commit` -/
def cmdConfigCommit (confirmed : Bool) (pending : CfgPending) (c : Configured rho) :
    ConsoleErr × CfgPending × Configured rho :=
  if pending.dirty = false then (.ok, pending, c)
  else if confirmed = false then (.timeout, .cleared, c)
  else
    let applied := applyEach callback pending.calls c
    if applied.1 then (.ok, .cleared, applied.2) else (.applyFailed, pending, applied.2)

/-- `prov commit` -/
def cmdProvCommit (confirmed : Bool) (pending : ProvPending) (c : Configured rho) :
    ConsoleErr × ProvPending × Configured rho :=
  if pending.dirty = false then (.ok, pending, c)
  else if confirmed = false then (.timeout, .cleared, c)
  else
    let applied := setParam callback ⟨.modbusSlaveAddr, pending.modbusSlaveAddr⟩ c
    if applied.1 then (.ok, .cleared, applied.2) else (.applyFailed, pending, applied.2)

/-!
## What the calls leave
-/

/-- The configuration with every value of the calls in it. -/
def mergedWith (p : ConfigService.ConfigParams) (calls : List Call) : ConfigService.ConfigParams :=
  calls.foldl (fun p call => applyParamToStruct p call.1 call.2) p

/-- Every parameter passes its check beside the others. -/
def ValidConfig (p : ConfigService.ConfigParams) : Prop :=
  forall id, validateParamInternal id (p.get id) p = true

/-- What a save of the parameters leaves in the store. -/
def leftBy (outcome : SaveOutcome) (p : ConfigService.ConfigParams) : Option ConfigBlob :=
  match outcome with
  | .saved => some (.full configSchemaVersion p)
  | .failed left => left

theorem setParam_accepted {call : Call} {c : Configured rho}
    (h : validateParamInternal call.1 call.2 c.config.params = true) :
    (setParam callback call c).2.config.params = applyParamToStruct c.config.params call.1 call.2 ∧
      (setParam callback call c).2.config.stored = leftBy (c.saves.headD .saved)
        (applyParamToStruct c.config.params call.1 call.2) ∧
      (setParam callback call c).2.saves = c.saves.tail := by
  unfold setParam
  rw [configServiceSetParam_accepted h]
  cases c.saves.headD .saved with
  | saved => exact ⟨rfl, rfl, rfl⟩
  | failed left => exact ⟨rfl, rfl, rfl⟩

theorem applyEach_cons (call : Call) (calls : List Call) (c : Configured rho) :
    applyEach callback (call :: calls) c =
      ((setParam callback call c).1 && (applyEach callback calls (setParam callback call c).2).1,
        (applyEach callback calls (setParam callback call c).2).2) := rfl

theorem applyEach_ok_iff (calls : List Call) (c : Configured rho) :
    (applyEach callback calls c).1 = true ↔ Completes c.config.params c.saves calls := by
  induction calls generalizing c with
  | nil => exact ⟨fun _ => ⟨trivial, fun i hi => absurd hi (Nat.not_lt_zero i)⟩, fun _ => rfl⟩
  | cons call calls ih =>
      rw [completes_cons, applyEach_cons]
      rcases setParam_cases callback call c with hrej | hfail | hsaved
      · rw [hrej.2]
        exact ⟨fun h => (nomatch h), fun h => absurd h.1 hrej.1⟩
      · rcases hfail with ⟨_, left, hsave, hstop, _⟩
        rw [hstop, hsave]
        exact ⟨fun h => (nomatch h), fun h => (nomatch h.2.1)⟩
      · rcases hsaved with ⟨hvalid, hsave, hok, hparams, _, hsaves⟩
        dsimp only
        rw [hok, Bool.true_and, ih, hparams, hsaves]
        exact ⟨fun h => ⟨hvalid, hsave, h⟩, fun h => h.2.2⟩

theorem applyEach_params {calls : List Call} {c : Configured rho}
    (hok : (applyEach callback calls c).1 = true) :
    (applyEach callback calls c).2.config.params = mergedWith c.config.params calls := by
  induction calls generalizing c with
  | nil => rfl
  | cons call calls ih =>
      rw [applyEach_cons] at hok ⊢
      have hboth := Bool.and_eq_true_iff.mp hok
      rcases setParam_cases callback call c with hrej | hfail | hsaved
      · rw [hrej.2] at hboth
        exact nomatch hboth.1
      · rcases hfail with ⟨_, left, _, hstop, _⟩
        rw [hstop] at hboth
        exact nomatch hboth.1
      · rcases hsaved with ⟨_, _, _, hparams, _⟩
        dsimp only
        rw [ih hboth.2, hparams]
        rfl

theorem applyEach_other {calls : List Call} {id : ConfigParamId} (c : Configured rho)
    (hnot : forall call, call ∈ calls -> call.1 ≠ id) :
    (applyEach callback calls c).2.config.params.get id = c.config.params.get id := by
  induction calls generalizing c with
  | nil => rfl
  | cons call calls ih =>
      have hne : id ≠ call.1 := (hnot call List.mem_cons_self).symm
      rw [applyEach_cons]
      dsimp only
      rw [ih _ fun other hother => hnot other (List.mem_cons_of_mem call hother)]
      by_cases hvalid : validateParamInternal call.1 call.2 c.config.params = true
      · rw [(setParam_accepted callback hvalid).1]
        exact applyParamToStruct_other call.2 hne
      · rw [setParam_rejected callback hvalid]

/-- What the store holds behind the calls, as long as none of them changes a parameter. -/
def storedBehind (p : ConfigService.ConfigParams) :
    Option ConfigBlob -> List SaveOutcome -> List Call -> Option ConfigBlob
  | stored, _, [] => stored
  | stored, saves, call :: calls =>
      if validateParamInternal call.1 call.2 p = true then
        storedBehind p (leftBy (saves.headD .saved) p) saves.tail calls
      else storedBehind p stored saves calls

/-- No call has an effect: each value that is accepted beside the live configuration is the live
one, and the saves leave `original` in the store. -/
def WithoutEffect (original : Option ConfigBlob) (p : ConfigService.ConfigParams) (stored : Option ConfigBlob)
    (saves : List SaveOutcome) (calls : List Call) : Prop :=
  (forall call, call ∈ calls -> validateParamInternal call.1 call.2 p = true ->
      p.get call.1 = call.2) ∧
    storedBehind p stored saves calls = original

theorem applyEach_unchanged_iff {calls : List Call} (hsep : Separate calls)
    (original : Option ConfigBlob) (c : Configured rho) :
    ((applyEach callback calls c).2.config.params = c.config.params ∧
      (applyEach callback calls c).2.config.stored = original) ↔
    WithoutEffect original c.config.params c.config.stored c.saves calls := by
  induction calls generalizing c with
  | nil => exact ⟨fun h => ⟨fun _ hcall => absurd hcall List.not_mem_nil, h.2⟩, fun h => ⟨rfl, h.2⟩⟩
  | cons call calls ih =>
      have hcons := separate_cons hsep
      rw [applyEach_cons]
      unfold WithoutEffect
      rw [List.forall_mem_cons, storedBehind]
      by_cases hvalid : validateParamInternal call.1 call.2 c.config.params = true
      · have haccepted := setParam_accepted callback hvalid
        rw [if_pos hvalid]
        by_cases hlive : c.config.params.get call.1 = call.2
        · have hsame : applyParamToStruct c.config.params call.1 call.2 = c.config.params :=
            applyParamToStruct_eq_self.mpr hlive
          have hrest := ih hcons.2 (setParam callback call c).2
          rw [haccepted.1, haccepted.2.1, haccepted.2.2, hsame] at hrest
          dsimp only
          rw [hrest]
          exact ⟨fun h => ⟨⟨fun _ => hlive, h.1⟩, h.2⟩, fun h => ⟨h.1.2, h.2⟩⟩
        · -- the new value stays to the end
          constructor
          · intro h
            refine absurd ?_ hlive
            rw [← h.1]
            dsimp only
            rw [applyEach_other callback _ hcons.1, haccepted.1]
            exact applyParamToStruct_self c.config.params call.1 call.2
          · intro h
            exact absurd (h.1.1 hvalid) hlive
      · rw [if_neg hvalid, setParam_rejected callback hvalid]
        dsimp only
        rw [ih hcons.2]
        exact ⟨fun h => ⟨⟨fun h' => absurd h' hvalid, h.1⟩, h.2⟩, fun h => ⟨h.1.2, h.2⟩⟩

/-!
## Commits as a whole
-/

theorem pairs_nodup {keys : List (String × ConfigParamId)} (hkeys : (keys.map (·.2)).Nodup)
    (staged : (id : ConfigParamId) -> Option id.Value) :
    Separate (keys.filterMap fun key => (staged key.2).map fun value => ⟨key.2, value⟩) := by
  unfold Separate
  induction keys with
  | nil => exact List.nodup_nil
  | cons key keys ih =>
      rw [List.map_cons, List.nodup_cons] at hkeys
      have hrest := ih hkeys.2
      cases hvalue : staged key.2 with
      | none =>
          rw [List.filterMap_cons_none (by rw [hvalue]; rfl)]
          exact hrest
      | some value =>
          rw [List.filterMap_cons_some (b := ⟨key.2, value⟩) (by rw [hvalue]; rfl), List.map_cons,
            List.nodup_cons]
          refine ⟨fun hmem => hkeys.1 ?_, hrest⟩
          rcases List.mem_map.mp hmem with ⟨call, hcall, hid⟩
          rcases List.mem_filterMap.mp hcall with ⟨other, hother, hsome⟩
          rcases Option.map_eq_some_iff.mp hsome with ⟨_, _, rfl⟩
          change other.2 = key.2 at hid
          rw [← hid]
          exact List.mem_map_of_mem hother

theorem CfgPending.calls_separate (pending : CfgPending) : Separate pending.calls :=
  pairs_nodup cfgKeys_nodup pending.staged

theorem CfgPending.calls_clean {pending : CfgPending} (h : pending.dirty = false) :
    pending.calls = [] := by
  apply List.filterMap_eq_nil_iff.mpr
  intro key _
  rw [pending.clean h key.2]
  rfl

/-- The live and the stored parameters. -/
def liveAndStored (s : Service) : ConfigService.ConfigParams × Option ConfigBlob :=
  (s.params, s.stored)

/-- The calls go through one after another, or they have no effect and what was staged does not
make a valid configuration. -/
def CommitOk (s : Service) (saves : List SaveOutcome) (calls : List Call) : Prop :=
  Completes s.params saves calls ∨
    (WithoutEffect s.stored s.params s.stored saves calls ∧
      ¬ ValidConfig (mergedWith s.params calls))

theorem applyEach_allOrNothing_iff {calls : List Call} (hsep : Separate calls)
    (c : Configured rho) :
    Config.AllOrNothing ValidConfig (mergedWith c.config.params calls) (liveAndStored c.config)
      (liveAndStored (applyEach callback calls c).2.config)
      ((applyEach callback calls c).1 = false) ↔ CommitOk c.config c.saves calls := by
  unfold CommitOk
  rw [← applyEach_ok_iff callback]
  cases hok : (applyEach callback calls c).1 with
  | true =>
      refine ⟨fun _ => .inl rfl, fun _ => ?_⟩
      exact .of_done (fun h => nomatch h) (applyEach_params callback hok)
  | false =>
      rw [Config.AllOrNothing.failed_iff rfl, ← applyEach_unchanged_iff callback hsep]
      unfold liveAndStored
      rw [Prod.mk.injEq]
      exact ⟨fun h => .inr h, fun h => h.resolve_left (fun h => nomatch h)⟩

theorem cmdConfigCommit_iff (pending : CfgPending) (c : Configured rho) :
    Config.AllOrNothing ValidConfig (mergedWith c.config.params pending.calls)
      (liveAndStored c.config)
      (liveAndStored (cmdConfigCommit callback true pending c).2.2.config)
      ((cmdConfigCommit callback true pending c).1 ≠ .ok) ↔
    CommitOk c.config c.saves pending.calls := by
  have happly := applyEach_allOrNothing_iff callback pending.calls_separate c
  unfold cmdConfigCommit
  cases hdirty : pending.dirty with
  | false =>
      rw [if_pos rfl, CfgPending.calls_clean hdirty]
      refine ⟨fun _ => .inl ((applyEach_ok_iff callback [] c).mp rfl), fun _ => ?_⟩
      exact .of_done (fun h => h rfl) rfl
  | true =>
      rw [if_neg (by simp), if_neg (by simp)]
      cases hok : (applyEach callback pending.calls c).1 with
      | true =>
          rw [hok] at happly
          simpa [hok] using happly
      | false =>
          rw [hok] at happly
          simpa [hok] using happly

theorem cmdProvCommit_iff (pending : ProvPending) (c : Configured rho) :
    Config.AllOrNothing ValidConfig (mergedWith c.config.params pending.calls)
      (liveAndStored c.config)
      (liveAndStored (cmdProvCommit callback true pending c).2.2.config)
      ((cmdProvCommit callback true pending c).1 ≠ .ok) ↔
    CommitOk c.config c.saves pending.calls := by
  have hsep : Separate pending.calls := by
    unfold ProvPending.calls Separate
    split
    · exact List.nodup_singleton _
    · exact List.nodup_nil
  have happly := applyEach_allOrNothing_iff callback hsep c
  unfold cmdProvCommit
  cases hdirty : pending.dirty with
  | false =>
      have hnone : pending.calls = [] := by
        unfold ProvPending.calls
        rw [hdirty]
        rfl
      rw [if_pos rfl, hnone]
      refine ⟨fun _ => .inl ((applyEach_ok_iff callback [] c).mp rfl), fun _ => ?_⟩
      exact .of_done (fun h => h rfl) rfl
  | true =>
      have hone : pending.calls = [⟨.modbusSlaveAddr, pending.modbusSlaveAddr⟩] := by
        unfold ProvPending.calls
        rw [hdirty]
        rfl
      rw [hone] at happly ⊢
      rw [if_neg (by simp), if_neg (by simp)]
      rw [applyEach_cons] at happly
      cases hok : (setParam callback ⟨.modbusSlaveAddr, pending.modbusSlaveAddr⟩ c).1 with
      | true =>
          rw [hok] at happly
          simpa [hok, applyEach] using happly
      | false =>
          rw [hok] at happly
          simpa [hok, applyEach] using happly

end

end EnvMonitor.FieldDevice.Console
