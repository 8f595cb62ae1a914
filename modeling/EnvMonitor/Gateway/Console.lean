import EnvMonitor.Config.Commit
import EnvMonitor.Gateway.ConfigService.Sound

/-!
# The gateway's console: staged changes

`config set` and `prov set` stage a value after ConfigService has checked it alone beside the
live configuration.  A confirmed commit hands the staged values to
`config_service_set_param_deferred` one by one and stops at the first one refused; the flash
write follows at the end of the console's cycle.
-/

namespace EnvMonitor.Gateway.Console

open ConfigService

inductive ConsoleErr where
  | ok
  | unknownKey
  | validation
  | applyFailed
  deriving DecidableEq, Repr

/-- `cfg_key_t`, less the number of decimals shown -/
structure CfgKey where
  key : String
  id : NumericParam
  kind : FieldKind
  scale : Nat
  deriving DecidableEq, Repr

/-- `s_cfg_keys` -/
def cfgKeys : List CfgKey := [
  ⟨"polling-interval-ms", .pollInterval, .u32, 1⟩,
  ⟨"filter-alpha", .filterAlpha, .u16, 1⟩,
  ⟨"modbus-poll-period-ms", .modbusPollPeriod, .u32, 1⟩,
  ⟨"telemetry-interval-ms", .telemetryInterval, .u32, 1⟩,
  ⟨"health-interval-ms", .healthInterval, .u32, 1⟩,
  ⟨"mqtt-port", .mqttPort, .u16, 1⟩,
  ⟨"ntp-interval-min", .ntpIntervalMin, .u16, 1⟩,
  ⟨"temp-range-min", .channel .temp .rangeMin, .i16, 100⟩,
  ⟨"temp-range-max", .channel .temp .rangeMax, .i16, 100⟩,
  ⟨"humidity-range-min", .channel .humidity .rangeMin, .u16, 100⟩,
  ⟨"humidity-range-max", .channel .humidity .rangeMax, .u16, 100⟩,
  ⟨"pressure-range-min", .channel .pressure .rangeMin, .u16, 10⟩,
  ⟨"pressure-range-max", .channel .pressure .rangeMax, .u16, 10⟩]

theorem cfgKeys_nodup : (cfgKeys.map (·.id)).Nodup := by decide

def prvLower (c : Char) : Char :=
  if 'A' <= c ∧ c <= 'Z' then Char.ofNat (c.toNat + 32) else c

def prvIeq (a b : String) : Bool := a.toList.map prvLower = b.toList.map prvLower

/-- A number converted to the type of a field. -/
def FieldKind.wrap (kind : FieldKind) (n : Int) : Int :=
  kind.lo + (n - kind.lo) % (kind.hi - kind.lo + 1)

theorem FieldKind.wrap_fits (kind : FieldKind) (n : Int) :
    kind.lo <= FieldKind.wrap kind n ∧ FieldKind.wrap kind n <= kind.hi := by
  have hwidth : 0 < kind.hi - kind.lo + 1 := by cases kind <;> decide
  have hlow := Int.emod_nonneg (n - kind.lo) (Int.ne_of_gt hwidth)
  have hhigh := Int.emod_lt_of_pos (n - kind.lo) hwidth
  unfold FieldKind.wrap
  generalize (n - kind.lo) % (kind.hi - kind.lo + 1) = rest at hlow hhigh
  omega

def valueOf (param : NumericParam) (fixed : Int) : param.Value :=
  ⟨FieldKind.wrap param.kind fixed, FieldKind.wrap_fits param.kind fixed⟩

/-!
## Pending changes
-/

/-- `cfg_pending_t`: a number is there for each key whose bit of `mask` is set. -/
structure CfgPending where
  dirty : Bool
  staged : NumericParam -> Option Int
  clean : dirty = false -> forall param, staged param = none

def CfgPending.cleared : CfgPending where
  dirty := false
  staged := fun _ => none
  clean := fun _ _ => rfl

def CfgPending.stage (p : CfgPending) (param : NumericParam) (fixed : Int) : CfgPending where
  dirty := true
  staged := Function.update p.staged param (some fixed)
  clean := fun h => nomatch h

def CfgPending.unstage (p : CfgPending) (param : NumericParam) : CfgPending where
  dirty := p.dirty
  staged := Function.update p.staged param none
  clean := by
    intro h other
    by_cases hsame : other = param
    · subst hsame
      exact Function.update_self ..
    · rw [Function.update_of_ne hsame]
      exact p.clean h other

def isEndpointByte (c : UInt8) : Bool :=
  (97 <= c.toNat && c.toNat <= 122) || (65 <= c.toNat && c.toNat <= 90) ||
    (48 <= c.toNat && c.toNat <= 57) || c == 46 || c == 45

/-- `prv_valid_endpoint`: letters, digits, '.' and '-', the last two not in front. -/
def prvValidEndpoint (s : List UInt8) : Bool :=
  s.length ≠ 0 && s.length <= 127 && s.head? ≠ some 46 && s.head? ≠ some 45 &&
    s.all isEndpointByte

/-- `prov_pending_t`; what is staged has passed the checks of `prov set`. -/
structure ProvPending where
  endpoint : Option { s : List UInt8 // prvValidEndpoint s = true }
  addr : Option { n : UInt8 // 1 <= n.toNat ∧ n.toNat <= 247 }

def ProvPending.cleared : ProvPending := ⟨none, none⟩

/-- Both keys set the flag, and it is cleared with them. -/
def ProvPending.dirty (p : ProvPending) : Bool := p.endpoint.isSome || p.addr.isSome

/-!
## Staging
-/

/-- `config set`; `parse` is `fmt_parse_fixed` on the value, at a scale. -/
def cmdConfigSet (key : String) (parse : Nat -> Option Int) (live : ConfigParams)
    (pending : CfgPending) : ConsoleErr × CfgPending :=
  match cfgKeys.find? (fun k => prvIeq key k.key) with
  | none => (.unknownKey, pending)
  | some k =>
      match parse k.scale with
      | none => (.validation, pending)
      | some fixed =>
          if k.kind.lo <= fixed ∧ fixed <= k.kind.hi ∧
              prvValidate (.numeric k.id) (valueOf k.id fixed) live = true then
            (.ok, pending.stage k.id fixed)
          else (.validation, pending)

def cmdProvSetEndpoint (value : List UInt8) (pending : ProvPending) : ConsoleErr × ProvPending :=
  if h : prvValidEndpoint value = true then (.ok, { pending with endpoint := some ⟨value, h⟩ })
  else (.validation, pending)

theorem unitAddr_fits {n : Nat} (h : 1 <= n ∧ n <= 247) :
    1 <= (UInt8.ofNat n).toNat ∧ (UInt8.ofNat n).toNat <= 247 := by
  rw [UInt8.toNat_ofNat', Nat.mod_eq_of_lt (by omega)]
  exact h

/-- `parsed` is `fmt_parse_u32` on the value. -/
def cmdProvSetAddr (parsed : Option Nat) (pending : ProvPending) : ConsoleErr × ProvPending :=
  match parsed with
  | none => (.validation, pending)
  | some n =>
      if h : 1 <= n ∧ n <= 247 then
        (.ok, { pending with addr := some ⟨UInt8.ofNat n, unitAddr_fits h⟩ })
      else (.validation, pending)

/-!
## Commit
-/

/-- A change of one parameter. -/
abbrev Call : Type := (id : ConfigParamId) × id.Value

/-- `prv_cfg_apply_all`'s loop: a key that is applied is staged no longer. -/
def applyKeys : List CfgKey -> CfgPending -> Service -> Bool × CfgPending × Service
  | [], pending, s => (true, pending, s)
  | k :: keys, pending, s =>
      match pending.staged k.id with
      | none => applyKeys keys pending s
      | some fixed =>
          let applied := configServiceSetParamDeferred (.numeric k.id) (valueOf k.id fixed) s
          if applied.1 = .ok then applyKeys keys (pending.unstage k.id) applied.2
          else (false, pending, applied.2)

/-- What a confirmed commit answers, leaves staged, does to the service, and whether a flash
write is due. -/
structure Applied (Pending : Type) where
  err : ConsoleErr
  pending : Pending
  service : Service
  persistDue : Bool

def prvCfgApplyAll (pending : CfgPending) (s : Service) : Applied CfgPending :=
  let applied := applyKeys cfgKeys pending s
  if applied.1 then ⟨.ok, .cleared, applied.2.2, true⟩
  else ⟨.applyFailed, applied.2.1, applied.2.2, false⟩

/-- The broker's name as the console's buffer holds it. -/
def endpointBuffer (endpoint : List UInt8) : List UInt8 := endpoint ++ [0]

def prvProvApply (pending : ProvPending) (s : Service) : Applied ProvPending :=
  let broker :=
    match pending.endpoint with
    | none => (ConfigServiceErr.ok, s)
    | some endpoint => configServiceSetParamDeferred .mqttBroker (endpointBuffer endpoint.val) s
  if broker.1 = .ok then
    let addr :=
      match pending.addr with
      | none => (ConfigServiceErr.ok, broker.2)
      | some addr =>
          configServiceSetParamDeferred (.numeric .modbusSlaveAddr)
            (valueOf .modbusSlaveAddr addr.val.toNat) broker.2
    if addr.1 = .ok then ⟨.ok, .cleared, addr.2, true⟩
    else ⟨.applyFailed, pending, addr.2, false⟩
  else ⟨.applyFailed, pending, broker.2, false⟩

/-- `config commit`, answered with yes. -/
def cmdConfigCommit (pending : CfgPending) (s : Service) : Applied CfgPending :=
  if pending.dirty = false then ⟨.ok, pending, s, false⟩ else prvCfgApplyAll pending s

/-- `prov commit`, answered with yes. -/
def cmdProvCommit (pending : ProvPending) (s : Service) : Applied ProvPending :=
  if pending.dirty = false then ⟨.ok, pending, s, false⟩ else prvProvApply pending s

/-- How `config_store_save` ended, with what it leaves for a load when it failed. -/
inductive SaveOutcome where
  | saved
  | failed (left : Option ConfigBlob)

/-- `config_service_persist_pending` at the end of the cycle, if it is due: the service and what
the store holds. -/
def persistIfDue (due : Bool) (outcome : SaveOutcome) (s : Service) (stored : Option ConfigBlob) :
    Service × Option ConfigBlob :=
  if due = true ∧ s.dirty = true then
    match outcome with
    | .saved => ((prvPersist true s).2, some s.blob)
    | .failed left => ((prvPersist false s).2, left)
  else (s, stored)

/-- The cycle of the console in which a commit was answered with yes. -/
def commitCycle {Pending : Type} (applied : Applied Pending) (outcome : SaveOutcome)
    (stored : Option ConfigBlob) : Service × Option ConfigBlob :=
  persistIfDue applied.persistDue outcome applied.service stored

/-!
## Changes one after another
-/

/-- The configuration with every change in it. -/
def mergedWith (p : ConfigParams) (calls : List Call) : ConfigParams :=
  calls.foldl (fun p call => prvWriteField p call.1 call.2) p

/-- Each value is accepted beside what the ones before it made of the configuration. -/
def AcceptedInTurn : ConfigParams -> List Call -> Prop
  | _, [] => True
  | p, call :: calls =>
      prvValidate call.1 call.2 p = true ∧ AcceptedInTurn (prvWriteField p call.1 call.2) calls

/-- A value is refused, and every value before it was the live one already. -/
def RefusedWithoutEffect (p : ConfigParams) : List Call -> Prop
  | [] => False
  | call :: calls =>
      prvValidate call.1 call.2 p = true ->
        prvWriteField p call.1 call.2 = p ∧ RefusedWithoutEffect p calls

/-- The range, alarm and hysteresis chain is valid, and so is every parameter with a rule of its
own. -/
def ValidConfig (p : ConfigParams) : Prop :=
  prvChannelsValid p = true ∧ forall param, param.IsScalar -> p.holds (.numeric param) = true

/-- The calls of a `config commit`, in the order of the table. -/
def CfgPending.calls (pending : CfgPending) : List Call :=
  cfgKeys.filterMap fun k => (pending.staged k.id).map fun fixed => ⟨.numeric k.id, valueOf k.id fixed⟩

def ProvPending.calls (pending : ProvPending) : List Call :=
  (pending.endpoint.map fun endpoint =>
      (⟨.mqttBroker, endpointBuffer endpoint.val⟩ : Call)).toList ++
    (pending.addr.map fun addr =>
      (⟨.numeric .modbusSlaveAddr, valueOf .modbusSlaveAddr addr.val.toNat⟩ : Call)).toList

/-- Until the first value refused. -/
def applyDeferred : List Call -> Service -> Bool × Service
  | [], s => (true, s)
  | call :: calls, s =>
      let applied := configServiceSetParamDeferred call.1 call.2 s
      if applied.1 = .ok then applyDeferred calls applied.2 else (false, applied.2)

variable {s : Service} {call : Call} {id : ConfigParamId} {p : ConfigParams} {keys : List CfgKey}

theorem applyDeferred_accepted {calls : List Call} (h : prvValidate call.1 call.2 s.params = true) :
    applyDeferred (call :: calls) s = applyDeferred calls
      { s with params := prvWriteField s.params call.1 call.2, dirty := true } := by
  rw [applyDeferred]
  unfold configServiceSetParamDeferred prvApply
  rw [if_pos h]
  rfl

theorem applyDeferred_refused {calls : List Call} (h : ¬ prvValidate call.1 call.2 s.params = true)
    : applyDeferred (call :: calls) s = (false, s) := by
  rw [applyDeferred]
  unfold configServiceSetParamDeferred prvApply
  rw [if_neg h]
  rfl

theorem applyDeferred_ok_iff (calls : List Call) (s : Service) :
    (applyDeferred calls s).1 = true ↔ AcceptedInTurn s.params calls := by
  induction calls generalizing s with
  | nil => exact ⟨fun _ => trivial, fun _ => rfl⟩
  | cons call calls ih =>
      by_cases hvalid : prvValidate call.1 call.2 s.params = true
      · rw [applyDeferred_accepted hvalid, ih]
        exact ⟨fun h => ⟨hvalid, h⟩, fun h => h.2⟩
      · rw [applyDeferred_refused hvalid]
        exact ⟨fun h => (nomatch h), fun h => absurd h.1 hvalid⟩

theorem applyDeferred_params {calls : List Call} (hok : (applyDeferred calls s).1 = true) :
    (applyDeferred calls s).2.params = mergedWith s.params calls := by
  induction calls generalizing s with
  | nil => rfl
  | cons call calls ih =>
      by_cases hvalid : prvValidate call.1 call.2 s.params = true
      · rw [applyDeferred_accepted hvalid] at hok ⊢
        rw [ih hok]
        rfl
      · rw [applyDeferred_refused hvalid] at hok
        cases hok

theorem prvWriteField_other {other : ConfigParamId} (value : id.Value) (hne : other ≠ id) :
    (prvWriteField p id value).get other = p.get other := by
  cases id with
  | numeric param =>
      cases other with
      | numeric otherParam =>
          have hparam : otherParam ≠ param := fun h => hne (by rw [h])
          exact Function.update_of_ne hparam value p.numeric
      | mqttBroker => rfl
      | ntpServers => rfl
  | mqttBroker =>
      cases other with
      | numeric otherParam => rfl
      | mqttBroker => exact absurd rfl hne
      | ntpServers => rfl
  | ntpServers =>
      cases other with
      | numeric otherParam => rfl
      | mqttBroker => rfl
      | ntpServers => exact absurd rfl hne

theorem prvWriteField_same {value : id.Value} (h : (prvWriteField p id value).get id = p.get id) :
    prvWriteField p id value = p := by
  cases id with
  | numeric param =>
      apply ConfigParams.ext
      · funext other
        by_cases hsame : other = param
        · subst hsame
          exact h
        · exact Function.update_of_ne hsame value p.numeric
      · rfl
      · rfl
  | mqttBroker =>
      apply ConfigParams.ext
      · rfl
      · exact h
      · rfl
  | ntpServers =>
      apply ConfigParams.ext
      · rfl
      · rfl
      · exact h

theorem applyDeferred_other {calls : List Call} (s : Service)
    (hnot : forall call, call ∈ calls -> call.1 ≠ id) :
    (applyDeferred calls s).2.params.get id = s.params.get id := by
  induction calls generalizing s with
  | nil => rfl
  | cons call calls ih =>
      have hne : id ≠ call.1 := (hnot call List.mem_cons_self).symm
      by_cases hvalid : prvValidate call.1 call.2 s.params = true
      · rw [applyDeferred_accepted hvalid,
          ih _ fun other hother => hnot other (List.mem_cons_of_mem call hother)]
        exact prvWriteField_other call.2 hne
      · rw [applyDeferred_refused hvalid]

/-- No two calls name one parameter. -/
def Separate (calls : List Call) : Prop := (calls.map (·.1)).Nodup

theorem applyDeferred_unchanged_iff {calls : List Call} (hsep : Separate calls) (s : Service) :
    ((applyDeferred calls s).1 = false ∧ (applyDeferred calls s).2.params = s.params) ↔
      RefusedWithoutEffect s.params calls := by
  induction calls generalizing s with
  | nil => exact ⟨fun h => (nomatch h.1), fun h => h.elim⟩
  | cons call calls ih =>
      unfold Separate at hsep
      rw [List.map_cons, List.nodup_cons] at hsep
      have hnot : forall other, other ∈ calls -> other.1 ≠ call.1 :=
        fun other hother hsame => hsep.1 (hsame ▸ List.mem_map_of_mem hother)
      rw [RefusedWithoutEffect]
      by_cases hvalid : prvValidate call.1 call.2 s.params = true
      · rw [applyDeferred_accepted hvalid]
        by_cases hsame : prvWriteField s.params call.1 call.2 = s.params
        · have hrest := ih hsep.2 { s with params := s.params, dirty := true }
          rw [hsame]
          exact ⟨fun h _ => ⟨rfl, hrest.mp h⟩, fun h => hrest.mpr (h hvalid).2⟩
        · constructor
          · intro h
            refine absurd (prvWriteField_same ?_) hsame
            have hstays := applyDeferred_other
              { s with params := prvWriteField s.params call.1 call.2, dirty := true } hnot
            rw [h.2] at hstays
            exact hstays.symm
          · intro h
            exact absurd (h hvalid).1 hsame
      · rw [applyDeferred_refused hvalid]
        exact ⟨fun _ h => absurd h hvalid, fun _ => ⟨rfl, rfl⟩⟩

/-!
## Commits as a whole
-/

theorem calls_separate (hkeys : (keys.map (·.id)).Nodup) (staged : NumericParam -> Option Int) :
    Separate (keys.filterMap fun k =>
      (staged k.id).map fun fixed => ⟨.numeric k.id, valueOf k.id fixed⟩) := by
  unfold Separate
  induction keys with
  | nil => exact List.nodup_nil
  | cons k keys ih =>
      rw [List.map_cons, List.nodup_cons] at hkeys
      have hrest := ih hkeys.2
      cases hfixed : staged k.id with
      | none =>
          rw [List.filterMap_cons_none (by rw [hfixed]; rfl)]
          exact hrest
      | some fixed =>
          rw [List.filterMap_cons_some (b := ⟨.numeric k.id, valueOf k.id fixed⟩)
            (by rw [hfixed]; rfl), List.map_cons, List.nodup_cons]
          refine ⟨fun hmem => hkeys.1 ?_, hrest⟩
          rcases List.mem_map.mp hmem with ⟨call, hcall, hid⟩
          rcases List.mem_filterMap.mp hcall with ⟨other, hother, hsome⟩
          rcases Option.map_eq_some_iff.mp hsome with ⟨_, _, rfl⟩
          have hsame : other.id = k.id := ConfigParamId.numeric.inj hid
          rw [← hsame]
          exact List.mem_map_of_mem hother

theorem applyKeys_eq (hkeys : (keys.map (·.id)).Nodup) (pending : CfgPending) (s : Service) :
    ((applyKeys keys pending s).1, (applyKeys keys pending s).2.2) =
      applyDeferred (keys.filterMap fun k =>
        (pending.staged k.id).map fun fixed => ⟨.numeric k.id, valueOf k.id fixed⟩) s := by
  induction keys generalizing pending s with
  | nil => rfl
  | cons k keys ih =>
      rw [List.map_cons, List.nodup_cons] at hkeys
      rw [applyKeys]
      cases hfixed : pending.staged k.id with
      | none =>
          rw [List.filterMap_cons_none (by rw [hfixed]; rfl)]
          exact ih hkeys.2 pending s
      | some fixed =>
          rw [List.filterMap_cons_some (b := ⟨.numeric k.id, valueOf k.id fixed⟩)
            (by rw [hfixed]; rfl), applyDeferred]
          dsimp only
          by_cases hok : (configServiceSetParamDeferred (.numeric k.id) (valueOf k.id fixed) s).1 = .ok
          · rw [if_pos hok, if_pos hok, ih hkeys.2]
            -- the keys behind this one are other keys
            congr 1
            apply List.filterMap_congr
            intro other hother
            have hne : other.id ≠ k.id := by
              intro hsame
              apply hkeys.1
              rw [← hsame]
              exact List.mem_map_of_mem hother
            change Option.map _ (Function.update pending.staged k.id none other.id) = _
            rw [Function.update_of_ne hne]
          · rw [if_neg hok, if_neg hok]

/-- The live and the stored parameters. -/
def liveAndStored (s : Service × Option ConfigBlob) : ConfigParams × Option ConfigBlob :=
  (s.1.params, s.2)

/-- The calls go through one after another, or they have no effect and what was staged does not
make a valid configuration. -/
def CommitOk (p : ConfigParams) (calls : List Call) : Prop :=
  AcceptedInTurn p calls ∨ (RefusedWithoutEffect p calls ∧ ¬ ValidConfig (mergedWith p calls))

theorem persistIfDue_params (due : Bool) (outcome : SaveOutcome) (s : Service)
    (stored : Option ConfigBlob) : (persistIfDue due outcome s stored).1.params = s.params := by
  unfold persistIfDue
  split
  · cases outcome <;> rfl
  · rfl

theorem applyDeferred_allOrNothing_iff {calls : List Call} (hsep : Separate calls) (s : Service)
    (outcome : SaveOutcome) (stored : Option ConfigBlob) :
    Config.AllOrNothing ValidConfig (mergedWith s.params calls) (liveAndStored (s, stored))
      (liveAndStored (persistIfDue (applyDeferred calls s).1 outcome (applyDeferred calls s).2
        stored))
      ((applyDeferred calls s).1 = false) ↔ CommitOk s.params calls := by
  unfold CommitOk
  rw [← applyDeferred_ok_iff calls s]
  cases hok : (applyDeferred calls s).1 with
  | true =>
      refine ⟨fun _ => .inl rfl, fun _ => ?_⟩
      refine .of_done (fun h => nomatch h) ?_
      exact (persistIfDue_params _ _ _ _).trans (applyDeferred_params hok)
  | false =>
      rw [Config.AllOrNothing.failed_iff rfl, ← applyDeferred_unchanged_iff hsep s, hok]
      change ((applyDeferred calls s).2.params, stored) = (s.params, stored) ∧ _ ↔ _
      rw [Prod.mk.injEq]
      constructor
      · exact fun h => .inr ⟨⟨rfl, h.1.1⟩, h.2⟩
      · intro h
        rcases h with h | h
        · cases h
        · exact ⟨⟨h.1.2, rfl⟩, h.2⟩

theorem CfgPending.calls_clean {pending : CfgPending} (h : pending.dirty = false) :
    pending.calls = [] := by
  apply List.filterMap_eq_nil_iff.mpr
  intro k _
  rw [pending.clean h k.id]
  rfl

theorem cmdConfigCommit_iff (pending : CfgPending) (s : Service) (outcome : SaveOutcome)
    (stored : Option ConfigBlob) :
    Config.AllOrNothing ValidConfig (mergedWith s.params pending.calls) (liveAndStored (s, stored))
      (liveAndStored (commitCycle (cmdConfigCommit pending s) outcome stored))
      ((cmdConfigCommit pending s).err ≠ .ok) ↔ CommitOk s.params pending.calls := by
  have happly := applyDeferred_allOrNothing_iff (calls_separate cfgKeys_nodup pending.staged) s
    outcome stored
  have heq := applyKeys_eq cfgKeys_nodup pending s
  change _ = applyDeferred pending.calls s at heq
  change Config.AllOrNothing ValidConfig (mergedWith s.params pending.calls) _
    (liveAndStored (persistIfDue (applyDeferred pending.calls s).1 outcome
      (applyDeferred pending.calls s).2 stored))
    ((applyDeferred pending.calls s).1 = false) ↔ CommitOk s.params pending.calls at happly
  unfold cmdConfigCommit
  cases hdirty : pending.dirty with
  | false =>
      rw [if_pos rfl, CfgPending.calls_clean hdirty]
      exact ⟨fun _ => .inl trivial, fun _ => .of_done (fun h => h rfl) rfl⟩
  | true =>
      rw [if_neg (by simp)]
      unfold prvCfgApplyAll commitCycle
      rw [← heq] at happly
      cases hok : (applyKeys cfgKeys pending s).1 with
      | true =>
          rw [hok] at happly
          simpa [hok] using happly
      | false =>
          rw [hok] at happly
          simpa [hok] using happly

/-!
## Provisioning
-/

theorem isEndpointByte_ne_zero {c : UInt8} (h : isEndpointByte c = true) : c ≠ 0 := by
  intro hzero
  subst hzero
  revert h
  decide

theorem cString_endpointBuffer {endpoint : List UInt8} (h : prvValidEndpoint endpoint = true) :
    cString configMaxBrokerLen (endpointBuffer endpoint) = endpoint := by
  unfold prvValidEndpoint at h
  simp only [Bool.and_eq_true, decide_eq_true_eq] at h
  have hlen : (endpointBuffer endpoint).length <= configMaxBrokerLen := by
    rw [endpointBuffer, List.length_append]
    change endpoint.length + 1 <= 128
    omega
  unfold cString
  rw [List.take_of_length_le hlen, endpointBuffer, List.takeWhile_append_of_pos]
  · simp
  · intro c hc
    simpa using isEndpointByte_ne_zero (List.all_eq_true.mp h.2 c hc)

theorem ProvPending.calls_accepted (pending : ProvPending) (p : ConfigParams) :
    AcceptedInTurn p pending.calls := by
  have haddr : forall q, AcceptedInTurn q (pending.addr.map fun addr =>
      (⟨.numeric .modbusSlaveAddr, valueOf .modbusSlaveAddr addr.val.toNat⟩ : Call)).toList := by
    intro q
    cases pending.addr with
    | none => trivial
    | some addr =>
        refine ⟨?_, trivial⟩
        have hbounds := addr.property
        have hvalue : (valueOf .modbusSlaveAddr addr.val.toNat).val = (addr.val.toNat : Int) := by
          change (0 : Int) + ((addr.val.toNat : Int) - 0) % 256 = _
          omega
        change prvInRange (valueOf .modbusSlaveAddr addr.val.toNat).val 1 247 = true
        rw [hvalue]
        exact prvInRange_iff.mpr (by omega)
  unfold ProvPending.calls
  cases hendpoint : pending.endpoint with
  | none => exact haddr p
  | some endpoint =>
      refine ⟨?_, haddr _⟩
      have htext := cString_endpointBuffer endpoint.property
      have hvalid := endpoint.property
      unfold prvValidEndpoint at hvalid
      simp only [Bool.and_eq_true, decide_eq_true_eq] at hvalid
      change (decide (0 < (cString configMaxBrokerLen (endpointBuffer endpoint.val)).length) &&
        decide ((cString configMaxBrokerLen (endpointBuffer endpoint.val)).length <
          configMaxBrokerLen)) = true
      rw [htext]
      simp only [Bool.and_eq_true, decide_eq_true_eq]
      change 0 < endpoint.val.length ∧ endpoint.val.length < 128
      omega

theorem applyDeferred_single (call : Call) (s : Service) :
    applyDeferred [call] s =
      (decide ((configServiceSetParamDeferred call.1 call.2 s).1 = .ok),
        (configServiceSetParamDeferred call.1 call.2 s).2) := by
  rw [applyDeferred]
  by_cases hok : (configServiceSetParamDeferred call.1 call.2 s).1 = .ok
  · rw [if_pos hok, hok]
    rfl
  · rw [if_neg hok, decide_eq_false hok]

theorem prvProvApply_eq (pending : ProvPending) (s : Service)
    (hok : (applyDeferred pending.calls s).1 = true) :
    prvProvApply pending s = ⟨.ok, .cleared, (applyDeferred pending.calls s).2, true⟩ := by
  unfold ProvPending.calls at hok ⊢
  unfold prvProvApply
  cases hendpoint : pending.endpoint with
  | none =>
      rw [hendpoint] at hok
      cases haddr : pending.addr with
      | none => rfl
      | some addr =>
          rw [haddr] at hok
          change (applyDeferred [_] s).1 = true at hok
          rw [applyDeferred_single] at hok
          change _ = Applied.mk ConsoleErr.ok ProvPending.cleared (applyDeferred [_] s).2 true
          rw [applyDeferred_single]
          dsimp only
          rw [if_pos rfl, if_pos (of_decide_eq_true hok)]
  | some endpoint =>
      rw [hendpoint] at hok
      cases haddr : pending.addr with
      | none =>
          rw [haddr] at hok
          change (applyDeferred [_] s).1 = true at hok
          rw [applyDeferred_single] at hok
          change _ = Applied.mk ConsoleErr.ok ProvPending.cleared (applyDeferred [_] s).2 true
          rw [applyDeferred_single]
          dsimp only
          rw [if_pos (of_decide_eq_true hok), if_pos rfl]
      | some addr =>
          rw [haddr] at hok
          change (applyDeferred [_, _] s).1 = true at hok
          change _ = Applied.mk ConsoleErr.ok ProvPending.cleared (applyDeferred [_, _] s).2 true
          rw [applyDeferred] at hok ⊢
          dsimp only at hok ⊢
          by_cases hbroker : (configServiceSetParamDeferred .mqttBroker
              (endpointBuffer endpoint.val) s).1 = .ok
          · rw [if_pos hbroker, applyDeferred_single] at hok
            rw [if_pos hbroker, if_pos hbroker, applyDeferred_single]
            rw [if_pos (of_decide_eq_true hok)]
          · rw [if_neg hbroker] at hok
            cases hok

theorem cmdProvCommit_allOrNothing (pending : ProvPending) (s : Service) (outcome : SaveOutcome)
    (stored : Option ConfigBlob) :
    Config.AllOrNothing ValidConfig (mergedWith s.params pending.calls) (liveAndStored (s, stored))
      (liveAndStored (commitCycle (cmdProvCommit pending s) outcome stored))
      ((cmdProvCommit pending s).err ≠ .ok) := by
  have hok := (applyDeferred_ok_iff pending.calls s).mpr (pending.calls_accepted s.params)
  unfold cmdProvCommit
  cases hdirty : pending.dirty with
  | false =>
      have hnone : pending.calls = [] := by
        unfold ProvPending.dirty at hdirty
        have hboth := Bool.or_eq_false_iff.mp hdirty
        unfold ProvPending.calls
        rw [Option.isSome_eq_false_iff.mp hboth.1 |> Option.isNone_iff_eq_none.mp,
          Option.isSome_eq_false_iff.mp hboth.2 |> Option.isNone_iff_eq_none.mp]
        rfl
      rw [if_pos rfl, hnone]
      exact .of_done (fun h => h rfl) rfl
  | true =>
      rw [if_neg (by simp), prvProvApply_eq pending s hok]
      refine .of_done (fun h => h rfl) ?_
      exact (persistIfDue_params _ _ _ _).trans (applyDeferred_params hok)

end EnvMonitor.Gateway.Console
