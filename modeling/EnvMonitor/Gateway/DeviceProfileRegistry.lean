import EnvMonitor.Gateway.ConfigService.Service
import EnvMonitor.Gateway.ModbusPoller.Provenance

/-!
# Device profile registry and its stored form

The registry keeps its table through ConfigService, whose blob holds the parameters beside it.
A reboot gives the live table back, except the empty one: nothing stored means the default profile.
-/

namespace EnvMonitor.Gateway

open ConfigService

/-!
## Storage callbacks
-/

namespace ConfigService

/-- An entry of a zeroed list. -/
def zeroProfile : DeviceProfile := ⟨0, 0, 0, List.replicate deviceProfileDescMax 0⟩

/-- What the profile list of the blob becomes. -/
def ConfigProfiles.of (table : List DeviceProfile) : ConfigProfiles where
  count := table.length
  entries := table ++ List.replicate (deviceProfileMax - table.length) zeroProfile

/-- `config_service_get_profiles`: the answer, and the entries it copies out. -/
def configServiceGetProfiles (max : Nat) (s : Service) : Bool × List DeviceProfile :=
  let n := if s.profiles.count < max then s.profiles.count else max
  (decide (0 < n), s.profiles.entries.take n)

/-- `config_service_set_profiles`; `saved` is how the save of the blob ended. -/
def configServiceSetProfiles (saved : Bool) (table : List DeviceProfile) (s : Service) :
    Bool × Service :=
  if deviceProfileMax < table.length then (false, s)
  else if saved then (true, { s with profiles := ConfigProfiles.of table, dirty := false })
  else (false, { s with dirty := true })

/-- Calls of the other users of ConfigService. -/
inductive ParamCall where
  | setParam (saved : Bool) (id : ConfigParamId) (value : id.Value)
  | setParamDeferred (id : ConfigParamId) (value : id.Value)
  | takeSnapshot
  | restoreSnapshot (saved : Bool)
  | flush (saved : Bool)

def ParamCall.run (s : Service) : ParamCall -> ConfigServiceErr × Service
  | .setParam saved id value => configServiceSetParam saved id value s
  | .setParamDeferred id value => configServiceSetParamDeferred id value s
  | .takeSnapshot => (.ok, configServiceSnapshot s)
  | .restoreSnapshot saved => configServiceRestoreSnapshot saved s
  | .flush saved => prvPersist saved s

/-- The call returns OK only after a save. -/
def ParamCall.saves : ParamCall -> Bool
  | .setParam .. | .restoreSnapshot _ | .flush _ => true
  | .setParamDeferred .. | .takeSnapshot => false

end ConfigService

/-!
## Registry
-/

inductive DeviceProfileRegistryErr where
  | ok
  | notFound
  | full
  | invalid
  | persist
  deriving DecidableEq, Repr

/-- The live table, ConfigService, and the blob last saved. -/
structure Registry where
  table : List DeviceProfile
  service : Service
  saved : Option ConfigBlob

/-- The loop body of the loader: the entry is valid and the first with its address. -/
def loadedOk (loaded : List DeviceProfile) (i : Nat) : Bool :=
  loaded[i]?.any fun profile =>
    profileValid profile && (findIn (loaded.take i) profile.slaveAddr).isNone

/-- The table after `device_profile_registry_load`, from what the load callback gives. -/
def deviceProfileRegistryLoad : Bool × List DeviceProfile -> List DeviceProfile
  | (ok, loaded) =>
      if ok && decide (0 < loaded.length ∧ loaded.length ≤ deviceProfileMax) &&
          (List.range loaded.length).all (loadedOk loaded) then loaded
      else [defaultProfile]

/-- ConfigService after `config_store_load`, and `config_service_apply_loaded` if it gave a blob. -/
def bootService (saved : Option ConfigBlob) : Service :=
  match saved with
  | none => configServiceInit
  | some blob => (configServiceApplyLoaded blob configServiceInit).2

def Registry.boot (saved : Option ConfigBlob) : Registry where
  table := deviceProfileRegistryLoad (configServiceGetProfiles deviceProfileMax (bootService saved))
  service := bootService saved
  saved := saved

namespace Registry

/-- `commit` of a candidate table. -/
def commit (saved : Bool) (candidate : List DeviceProfile) (r : Registry) :
    DeviceProfileRegistryErr × Registry :=
  match configServiceSetProfiles saved candidate r.service with
  | (true, service) => (.ok, { table := candidate, service := service, saved := some service.blob })
  | (false, service) => (.persist, { r with service := service })

def managerAddOrUpdate (saved : Bool) (profile : DeviceProfile) (r : Registry) :
    DeviceProfileRegistryErr × Registry :=
  if !profileValid profile then (.invalid, r)
  else
    match findIn r.table profile.slaveAddr with
    | some i => r.commit saved (r.table.set i profile)
    | none =>
        if deviceProfileMax ≤ r.table.length then (.full, r)
        else r.commit saved (r.table ++ [profile])

def managerRemove (saved : Bool) (slaveAddr : UInt8) (r : Registry) :
    DeviceProfileRegistryErr × Registry :=
  match removeProfile r.table slaveAddr with
  | none => (.notFound, r)
  | some candidate => r.commit saved candidate

end Registry

inductive RegistryCall where
  | addOrUpdate (profile : DeviceProfile) (saved : Bool)
  | remove (slaveAddr : UInt8) (saved : Bool)

def Registry.call (r : Registry) : RegistryCall -> DeviceProfileRegistryErr × Registry
  | .addOrUpdate profile saved => r.managerAddOrUpdate saved profile
  | .remove slaveAddr saved => r.managerRemove saved slaveAddr

/-- A call that changes parameters; a save writes the profiles of ConfigService with them. -/
def Registry.param (r : Registry) (call : ParamCall) : Registry :=
  let result := call.run r.service
  { r with service := result.2
           saved := if call.saves ∧ result.1 = .ok then some result.2.blob else r.saved }

/-- Calls after a boot, in any number and order. -/
inductive RegistryReached : Registry -> Prop
  | boot (saved : Option ConfigBlob) : RegistryReached (Registry.boot saved)
  | call {r : Registry} (reached : RegistryReached r) (call : RegistryCall) :
      RegistryReached (r.call call).2
  | param {r : Registry} (reached : RegistryReached r) (call : ParamCall) :
      RegistryReached (r.param call)

/-!
## The table stays well formed
-/

variable {i : Nat} {loaded table table' : List DeviceProfile} {s : Service} {r : Registry}

theorem loadedOk_iff :
    loadedOk loaded i = true ↔ exists profile, loaded[i]? = some profile ∧
      profileValid profile = true ∧ findIn (loaded.take i) profile.slaveAddr = none := by
  unfold loadedOk
  rw [Option.any_eq_true]
  simp

theorem registryOk_of_loaded (h : forall i, i < loaded.length -> loadedOk loaded i = true) :
    RegistryOk loaded := by
  have hentry : forall (i : Nat) (p : DeviceProfile), loaded[i]? = some p ->
      profileValid p = true ∧ findIn (loaded.take i) p.slaveAddr = none := by
    intro i p hi
    rcases loadedOk_iff.mp (h i (List.getElem?_eq_some_iff.mp hi).1) with ⟨p', hp', hok⟩
    rw [hi] at hp'
    cases hp'
    exact hok
  -- of two entries with one address the later one would have found the earlier
  have hfirst : forall (i j : Nat) (p q : DeviceProfile), loaded[i]? = some p ->
      loaded[j]? = some q -> p.slaveAddr = q.slaveAddr -> ¬ i < j := by
    intro i j p q hi hj hsame hlt
    apply findIn_none (hentry j q hj).2 i p _ hsame
    rw [List.getElem?_take_of_lt hlt, hi]
  constructor
  · intro p hp
    rcases List.getElem?_of_mem hp with ⟨i, hi⟩
    exact (hentry i p hi).1
  · intro i j p q hi hj hsame
    have hij := hfirst i j p q hi hj hsame
    have hji := hfirst j i q p hj hi hsame.symm
    omega

theorem loaded_of_registryOk (hok : RegistryOk table) (hi : i < table.length) :
    loadedOk table i = true := by
  apply loadedOk_iff.mpr
  have hentry := List.getElem?_eq_getElem hi
  refine ⟨table[i], hentry, hok.valid _ (List.getElem_mem hi), ?_⟩
  cases hfind : findIn (table.take i) table[i].slaveAddr with
  | none => rfl
  | some j =>
      rcases findIn_some hfind with ⟨p, hp, haddr⟩
      rw [List.getElem?_take] at hp
      split at hp
      · have hij := hok.unique j i p table[i] hp hentry haddr
        omega
      · cases hp

/-- What the loader would accept. -/
structure Loadable (table : List DeviceProfile) : Prop where
  ok : RegistryOk table
  length : table.length ≤ deviceProfileMax

theorem deviceProfileRegistryLoad_some (h : Loadable table) (hne : table ≠ []) :
    deviceProfileRegistryLoad (true, table) = table := by
  have hall : (List.range table.length).all (loadedOk table) = true := by
    apply List.all_eq_true.mpr
    intro i hi
    exact loaded_of_registryOk h.ok (List.mem_range.mp hi)
  have hlength : decide (0 < table.length ∧ table.length ≤ deviceProfileMax) = true :=
    decide_eq_true ⟨List.length_pos_iff.mpr hne, h.length⟩
  unfold deviceProfileRegistryLoad
  dsimp only
  rw [hall, hlength]
  rfl

theorem defaultProfile_loadable : Loadable [defaultProfile] := by
  constructor
  · apply registryOk_of_loaded
    intro i hi
    cases i with
    | zero => decide +kernel
    | succ i => simp at hi
  · decide

theorem deviceProfileRegistryLoad_loadable (stored : Bool × List DeviceProfile) :
    Loadable (deviceProfileRegistryLoad stored) ∧ deviceProfileRegistryLoad stored ≠ [] := by
  unfold deviceProfileRegistryLoad
  dsimp only
  split
  · rename_i hstored
    rw [Bool.and_eq_true, Bool.and_eq_true, decide_eq_true_iff] at hstored
    rcases hstored with ⟨⟨_, hpos, hmax⟩, hall⟩
    constructor
    · constructor
      · apply registryOk_of_loaded
        intro i hi
        exact List.all_eq_true.mp hall i (List.mem_range.mpr hi)
      · exact hmax
    · exact List.length_pos_iff.mp hpos
  · exact ⟨defaultProfile_loadable, by simp⟩

theorem addOrUpdate_length {profile : DeviceProfile} (h : addOrUpdate table profile = some table')
    (hlen : table.length ≤ deviceProfileMax) : table'.length ≤ deviceProfileMax := by
  rcases addOrUpdate_cases h with ⟨_, ⟨i, old, _, _, rfl⟩ | ⟨_, hroom, rfl⟩⟩
  · rw [List.length_set]
    exact hlen
  · rw [List.length_append, List.length_singleton]
    exact hroom

theorem removeProfile_length {slaveAddr : UInt8} (h : removeProfile table slaveAddr = some table') :
    table'.length ≤ table.length := by
  rcases removeProfile_cases h with ⟨i, old, last, _, _, _, _, rfl⟩
  rw [List.length_dropLast, List.length_set]
  exact Nat.sub_le ..

/-!
## What a call does
-/

/-- The table that a call saves. -/
def RegistryCall.candidate (table : List DeviceProfile) : RegistryCall -> Option (List DeviceProfile)
  | .addOrUpdate profile _ => Gateway.addOrUpdate table profile
  | .remove slaveAddr _ => removeProfile table slaveAddr

theorem RegistryCall.candidate_loadable {candidate : List DeviceProfile} {call : RegistryCall}
    (h : call.candidate table = some candidate) (hok : Loadable table) : Loadable candidate := by
  cases call with
  | addOrUpdate profile saved =>
      exact ⟨addOrUpdate_ok hok.ok h, addOrUpdate_length h hok.length⟩
  | remove slaveAddr saved =>
      exact ⟨removeProfile_ok hok.ok h, Nat.le_trans (removeProfile_length h) hok.length⟩

/-- A result without OK: table, profile list and flash are as before. -/
structure Refused (r : Registry) (result : DeviceProfileRegistryErr × Registry) : Prop where
  err : result.1 ≠ .ok
  table : result.2.table = r.table
  profiles : result.2.service.profiles = r.service.profiles
  saved : result.2.saved = r.saved

/-- A result with OK: the candidate is live and saved. -/
structure Committed (candidate : List DeviceProfile)
    (result : DeviceProfileRegistryErr × Registry) : Prop where
  err : result.1 = .ok
  table : result.2.table = candidate
  profiles : result.2.service.profiles = ConfigProfiles.of candidate
  saved : result.2.saved = some result.2.service.blob

theorem Registry.commit_cases (saved : Bool) (candidate : List DeviceProfile) (r : Registry) :
    Refused r (r.commit saved candidate) ∨ Committed candidate (r.commit saved candidate) := by
  unfold Registry.commit configServiceSetProfiles
  split
  · rename_i hset
    split at hset
    · cases hset
    · split at hset
      · cases hset
        exact .inr ⟨rfl, rfl, rfl, rfl⟩
      · cases hset
  · rename_i hset
    split at hset
    · cases hset
      exact .inl ⟨(fun h => nomatch h), rfl, rfl, rfl⟩
    · split at hset
      · cases hset
      · cases hset
        exact .inl ⟨(fun h => nomatch h), rfl, rfl, rfl⟩

theorem Registry.call_cases (r : Registry) (call : RegistryCall) :
    Refused r (r.call call) ∨
      exists candidate, call.candidate r.table = some candidate ∧
        Committed candidate (r.call call) := by
  have hcommit : forall saved candidate, call.candidate r.table = some candidate ->
      r.call call = r.commit saved candidate ->
      Refused r (r.call call) ∨ exists candidate, call.candidate r.table = some candidate ∧
        Committed candidate (r.call call) := by
    intro saved candidate hcandidate hcall
    rw [hcall]
    rcases r.commit_cases saved candidate with hrefused | hcommitted
    · exact .inl hrefused
    · exact .inr ⟨candidate, hcandidate, hcommitted⟩
  cases call with
  | addOrUpdate profile saved =>
      cases hvalid : profileValid profile with
      | false =>
          left
          change Refused r (r.managerAddOrUpdate saved profile)
          unfold Registry.managerAddOrUpdate
          rw [hvalid]
          exact ⟨(fun h => nomatch h), rfl, rfl, rfl⟩
      | true =>
          cases hfind : findIn r.table profile.slaveAddr with
          | some i =>
              apply hcommit saved (r.table.set i profile)
              · change addOrUpdate r.table profile = _
                unfold addOrUpdate
                rw [hvalid, hfind]
                rfl
              · change r.managerAddOrUpdate saved profile = _
                unfold Registry.managerAddOrUpdate
                rw [hvalid, hfind]
                rfl
          | none =>
              by_cases hfull : deviceProfileMax ≤ r.table.length
              · left
                change Refused r (r.managerAddOrUpdate saved profile)
                unfold Registry.managerAddOrUpdate
                rw [hvalid, hfind]
                dsimp only
                rw [if_pos hfull]
                exact ⟨(fun h => nomatch h), rfl, rfl, rfl⟩
              · apply hcommit saved (r.table ++ [profile])
                · change addOrUpdate r.table profile = _
                  unfold addOrUpdate
                  rw [hvalid, hfind]
                  exact if_neg hfull
                · change r.managerAddOrUpdate saved profile = _
                  unfold Registry.managerAddOrUpdate
                  rw [hvalid, hfind]
                  exact if_neg hfull
  | remove slaveAddr saved =>
      cases hremove : removeProfile r.table slaveAddr with
      | none =>
          left
          change Refused r (r.managerRemove saved slaveAddr)
          unfold Registry.managerRemove
          rw [hremove]
          exact ⟨(fun h => nomatch h), rfl, rfl, rfl⟩
      | some candidate =>
          apply hcommit saved candidate hremove
          change r.managerRemove saved slaveAddr = _
          unfold Registry.managerRemove
          rw [hremove]

theorem ConfigService.ParamCall.run_profiles (call : ParamCall) (s : Service) :
    (call.run s).2.profiles = s.profiles := by
  have hpersist : forall saved (s : Service), (prvPersist saved s).2.profiles = s.profiles := by
    intro saved s
    cases saved <;> rfl
  have happly : forall (id : ConfigParamId) (value : id.Value),
      (prvApply id value s).2.profiles = s.profiles := by
    intro id value
    unfold prvApply
    split <;> rfl
  cases call with
  | setParam saved id value =>
      change (configServiceSetParam saved id value s).2.profiles = _
      unfold configServiceSetParam
      split
      · rename_i s' hs'
        rw [hpersist, ← happly id value, hs']
      · exact happly id value
  | setParamDeferred id value => exact happly id value
  | takeSnapshot => rfl
  | restoreSnapshot saved =>
      change (configServiceRestoreSnapshot saved s).2.profiles = _
      unfold configServiceRestoreSnapshot
      split
      · rfl
      · exact hpersist ..
  | flush saved => exact hpersist ..

/-!
## The invariant
-/

theorem configServiceGetProfiles_congr {s' : Service} (h : s.profiles = s'.profiles) :
    configServiceGetProfiles deviceProfileMax s = configServiceGetProfiles deviceProfileMax s' := by
  unfold configServiceGetProfiles
  rw [h]

theorem configServiceGetProfiles_of (h : s.profiles = ConfigProfiles.of table)
    (hlen : table.length ≤ deviceProfileMax) :
    configServiceGetProfiles deviceProfileMax s = (decide (0 < table.length), table) := by
  have hcount : (if table.length < deviceProfileMax then table.length else deviceProfileMax) =
      table.length := by
    split
    · rfl
    · omega
  unfold configServiceGetProfiles
  rw [h]
  change ((decide (0 < if table.length < deviceProfileMax then table.length else deviceProfileMax)),
    (table ++ List.replicate (deviceProfileMax - table.length) zeroProfile).take
      (if table.length < deviceProfileMax then table.length else deviceProfileMax)) = _
  rw [hcount, List.take_left]

theorem bootService_blob (s : Service) (h : s.profiles.count ≤ deviceProfileMax) :
    (bootService (some s.blob)).profiles = s.profiles := by
  unfold bootService Service.blob configServiceApplyLoaded
  dsimp only
  rw [if_pos rfl]
  exact if_pos h

theorem bootService_count (saved : Option ConfigBlob) :
    (bootService saved).profiles.count ≤ deviceProfileMax := by
  have hnone : (⟨0, []⟩ : ConfigProfiles).count ≤ deviceProfileMax := Nat.zero_le _
  cases saved with
  | none => exact hnone
  | some blob =>
      unfold bootService
      cases blob with
      | current schemaVersion params profiles =>
          unfold configServiceApplyLoaded
          dsimp only
          split
          · change (if profiles.count ≤ ConfigService.deviceProfileMax then profiles
              else ⟨0, []⟩ : ConfigProfiles).count ≤ _
            split
            · assumption
            · exact hnone
          · exact hnone
      | first schemaVersion params =>
          unfold configServiceApplyLoaded
          dsimp only
          split <;> exact hnone
      | otherLength => exact hnone

/-- A reboot from flash finds the profile list that ConfigService holds, and in it the table. -/
structure StoredForm (r : Registry) : Prop where
  loadable : Loadable r.table
  count : r.service.profiles.count ≤ deviceProfileMax
  saved : (bootService r.saved).profiles = r.service.profiles
  restored : r.table ≠ [] ->
    deviceProfileRegistryLoad (configServiceGetProfiles deviceProfileMax r.service) = r.table
  emptied : r.table = [] -> (configServiceGetProfiles deviceProfileMax r.service).1 = false

theorem StoredForm.boot (saved : Option ConfigBlob) : StoredForm (Registry.boot saved) := by
  have hload := deviceProfileRegistryLoad_loadable
    (configServiceGetProfiles deviceProfileMax (bootService saved))
  exact {
    loadable := hload.1
    count := bootService_count saved
    saved := rfl
    restored := fun _ => rfl
    emptied := fun hempty => absurd hempty hload.2 }

theorem StoredForm.call (h : StoredForm r) (call : RegistryCall) : StoredForm (r.call call).2 := by
  rcases r.call_cases call with hrefused | ⟨candidate, hcandidate, hcommitted⟩
  · have hget := configServiceGetProfiles_congr hrefused.profiles
    constructor
    · rw [hrefused.table]
      exact h.loadable
    · rw [hrefused.profiles]
      exact h.count
    · rw [hrefused.saved, hrefused.profiles]
      exact h.saved
    · rw [hrefused.table, hget]
      exact h.restored
    · rw [hrefused.table, hget]
      exact h.emptied
  · have hloadable := RegistryCall.candidate_loadable hcandidate h.loadable
    have hget := configServiceGetProfiles_of hcommitted.profiles hloadable.length
    have hcount : (r.call call).2.service.profiles.count ≤ deviceProfileMax := by
      rw [hcommitted.profiles]
      exact hloadable.length
    constructor
    · rw [hcommitted.table]
      exact hloadable
    · exact hcount
    · rw [hcommitted.saved]
      exact bootService_blob _ hcount
    · rw [hcommitted.table, hget]
      intro hne
      rw [decide_eq_true (List.length_pos_iff.mpr hne)]
      exact deviceProfileRegistryLoad_some hloadable hne
    · rw [hcommitted.table, hget]
      intro hempty
      rw [hempty]
      rfl

theorem StoredForm.param (h : StoredForm r) (call : ParamCall) : StoredForm (r.param call) := by
  have hprofiles := call.run_profiles r.service
  have hget := configServiceGetProfiles_congr hprofiles
  have hcount : (call.run r.service).2.profiles.count ≤ deviceProfileMax := by
    rw [hprofiles]
    exact h.count
  constructor
  · exact h.loadable
  · exact hcount
  · change (bootService (if call.saves = true ∧ (call.run r.service).1 = .ok then _
      else r.saved)).profiles = (call.run r.service).2.profiles
    split
    · exact bootService_blob _ hcount
    · rw [h.saved, hprofiles]
  · change r.table ≠ [] -> deviceProfileRegistryLoad
      (configServiceGetProfiles deviceProfileMax (call.run r.service).2) = r.table
    rw [hget]
    exact h.restored
  · change r.table = [] ->
      (configServiceGetProfiles deviceProfileMax (call.run r.service).2).1 = false
    rw [hget]
    exact h.emptied

theorem RegistryReached.storedForm (h : RegistryReached r) : StoredForm r := by
  induction h with
  | boot saved => exact StoredForm.boot saved
  | call _ call ih => exact ih.call call
  | param _ call ih => exact ih.param call

theorem StoredForm.reboot (h : StoredForm r) :
    (Registry.boot r.saved).table =
      deviceProfileRegistryLoad (configServiceGetProfiles deviceProfileMax r.service) :=
  congrArg deviceProfileRegistryLoad (configServiceGetProfiles_congr h.saved)

/-- After any calls the table is valid and bounded, a call without OK leaves it, and a reboot
restores it; an empty one comes back as the default profile. -/
theorem registry_stored_form {r : Registry} (hreached : RegistryReached r) :
    RegistryOk r.table ∧ r.table.length ≤ deviceProfileMax ∧
      (forall call, (r.call call).1 ≠ .ok -> (r.call call).2.table = r.table) ∧
      (r.table ≠ [] -> (Registry.boot r.saved).table = r.table) ∧
      (r.table = [] -> (Registry.boot r.saved).table = [defaultProfile]) := by
  have hstored := hreached.storedForm
  refine ⟨hstored.loadable.ok, hstored.loadable.length, ?_, ?_, ?_⟩
  · intro call herr
    rcases r.call_cases call with hrefused | ⟨candidate, _, hcommitted⟩
    · exact hrefused.table
    · exact absurd hcommitted.err herr
  · intro hne
    rw [hstored.reboot]
    exact hstored.restored hne
  · intro hempty
    rw [hstored.reboot]
    have hnone := hstored.emptied hempty
    unfold deviceProfileRegistryLoad
    dsimp only
    rw [hnone]
    rfl

/-- A factory-blank device with two profiles, stored. -/
def twoProfiles : Registry :=
  ((Registry.boot none).call (.addOrUpdate { defaultProfile with slaveAddr := 2 } true)).2

theorem registry_stored_form_two :
    twoProfiles.table.length = 2 ∧ (Registry.boot twoProfiles.saved).table = twoProfiles.table := by
  have hlength : twoProfiles.table.length = 2 := by decide +kernel
  refine ⟨hlength, ?_⟩
  apply (registry_stored_form (.call (.boot none) _)).2.2.2.1
  intro hempty
  change twoProfiles.table = [] at hempty
  rw [hempty] at hlength
  cases hlength

/-- The only profile is removed; the reboot brings the default back. -/
theorem emptied_table_reseeded :
    ¬ forall r, RegistryReached r -> (Registry.boot r.saved).table = r.table := by
  intro h
  have hreached := (RegistryReached.boot none).call (.remove 1 true)
  have hsame := congrArg List.length (h _ hreached)
  have hdiffer : (Registry.boot ((Registry.boot none).call (.remove 1 true)).2.saved).table.length ≠
      ((Registry.boot none).call (.remove 1 true)).2.table.length := by decide +kernel
  exact hdiffer hsame

end EnvMonitor.Gateway
