import Mathlib.Logic.Relation
import EnvMonitor.Concurrency.Lock
import EnvMonitor.Gateway.ConfigService.Service

/-!
# Changes between RAM and flash

Any number of tasks call ConfigService.  What a task does under the data mutex is one step; the
save holds the persist mutex over several steps, and the pending flag is raised again outside
both.  When nothing is pending and no save is under way, flash holds the live configuration.
-/

namespace EnvMonitor.Gateway.ConfigService

open Concurrency

/-- Where a task is.  `replace` is the list of `config_service_set_profiles`. -/
inductive PersistPc where
  | idle
  | persist (replace : Option ConfigProfiles)
  | copying (replace : Option ConfigProfiles)
  | saving (replace : Option ConfigProfiles)
  | adopting
  | giving (ok : Bool)
  | failing

/-- The task holds the persist mutex. -/
def PersistPc.holdsPersist : PersistPc -> Bool
  | .copying _ | .saving _ | .adopting | .giving _ => true
  | _ => false

/-- The task is between taking the persist mutex and returning. -/
def PersistPc.inPersist : PersistPc -> Bool
  | .idle | .persist _ => false
  | _ => true

theorem PersistPc.inPersist_of_holds {pc : PersistPc} (h : pc.holdsPersist = true) :
    pc.inPersist = true := by
  cases pc with
  | idle => cases h
  | persist replace => cases h
  | _ => rfl

/-- The service, the persist mutex and its buffer, the last blob saved with OK, and the tasks. -/
structure ServiceTasks (Task : Type) where
  service : Service
  persistMutex : Option Task
  persistBlob : ConfigParams × ConfigProfiles
  saved : Option (ConfigParams × ConfigProfiles)
  pc : Task -> PersistPc

variable {Task : Type} [DecidableEq Task]

def ServiceTasks.goto (s : ServiceTasks Task) (t : Task) (pc : PersistPc) : ServiceTasks Task :=
  { s with pc := Function.update s.pc t pc }

/-- What the service holds in RAM. -/
def ServiceTasks.live (s : ServiceTasks Task) : ConfigParams × ConfigProfiles :=
  (s.service.params, s.service.profiles)

/-- One step of task `t`; the answer is whether its call returned OK, `none` while it goes on. -/
inductive ServiceStep (t : Task) : ServiceTasks Task -> Option Bool -> ServiceTasks Task -> Prop
  | setParam {s : ServiceTasks Task} (id : ConfigParamId) (value : id.Value) : s.pc t = .idle ->
      (prvApply id value s.service).1 = .ok ->
      ServiceStep t s none
        ({ s with service := (prvApply id value s.service).2 }.goto t (.persist none))
  | setParamInvalid {s : ServiceTasks Task} (id : ConfigParamId) (value : id.Value) :
      s.pc t = .idle -> (prvApply id value s.service).1 ≠ .ok -> ServiceStep t s (some false) s
  | setParamDeferred {s : ServiceTasks Task} (id : ConfigParamId) (value : id.Value) :
      s.pc t = .idle ->
      ServiceStep t s (some (decide ((configServiceSetParamDeferred id value s.service).1 = .ok)))
        { s with service := (configServiceSetParamDeferred id value s.service).2 }
  | persistPending {s : ServiceTasks Task} : s.pc t = .idle -> s.service.dirty = true ->
      ServiceStep t s none (s.goto t (.persist none))
  | nothingPending {s : ServiceTasks Task} : s.pc t = .idle -> s.service.dirty = false ->
      ServiceStep t s (some true) s
  | takeSnapshot {s : ServiceTasks Task} : s.pc t = .idle ->
      ServiceStep t s (some true) { s with service := configServiceSnapshot s.service }
  | restoreSnapshot {s : ServiceTasks Task} {params : ConfigParams} : s.pc t = .idle ->
      s.service.snapshot = some params ->
      ServiceStep t s none
        ({ s with service := { s.service with params := params, dirty := true } }.goto t
          (.persist none))
  | noSnapshot {s : ServiceTasks Task} : s.pc t = .idle -> s.service.snapshot = none ->
      ServiceStep t s (some false) s
  | flush {s : ServiceTasks Task} : s.pc t = .idle ->
      ServiceStep t s none (s.goto t (.persist none))
  | setProfiles {s : ServiceTasks Task} (profiles : ConfigProfiles) : s.pc t = .idle ->
      profiles.count ≤ deviceProfileMax ->
      ServiceStep t s none (s.goto t (.persist (some profiles)))
  | tooManyProfiles {s : ServiceTasks Task} (profiles : ConfigProfiles) : s.pc t = .idle ->
      deviceProfileMax < profiles.count -> ServiceStep t s (some false) s
  | take {s : ServiceTasks Task} {replace : Option ConfigProfiles} : s.pc t = .persist replace ->
      s.persistMutex = none ->
      ServiceStep t s none ({ s with persistMutex := some t }.goto t (.copying replace))
  | copy {s : ServiceTasks Task} {replace : Option ConfigProfiles} : s.pc t = .copying replace ->
      -- everything live at this instant is in the blob
      ServiceStep t s none
        ({ s with persistBlob := (s.service.params, replace.getD s.service.profiles)
                  service := { s.service with dirty := false } }.goto t (.saving replace))
  | saveOk {s : ServiceTasks Task} {replace : Option ConfigProfiles} : s.pc t = .saving replace ->
      ServiceStep t s none
        ({ s with saved := some s.persistBlob }.goto t
          (if replace.isSome then .adopting else .giving true))
  | saveFailed {s : ServiceTasks Task} {replace : Option ConfigProfiles} :
      s.pc t = .saving replace -> ServiceStep t s none (s.goto t (.giving false))
  | adopt {s : ServiceTasks Task} : s.pc t = .adopting ->
      ServiceStep t s none
        ({ s with service := { s.service with profiles := s.persistBlob.2 } }.goto t
          (.giving true))
  | giveOk {s : ServiceTasks Task} : s.pc t = .giving true ->
      ServiceStep t s (some true) ({ s with persistMutex := none }.goto t .idle)
  | giveFailed {s : ServiceTasks Task} : s.pc t = .giving false ->
      ServiceStep t s none ({ s with persistMutex := none }.goto t .failing)
  | fail {s : ServiceTasks Task} : s.pc t = .failing ->
      -- retry on the next `config_service_persist_pending`
      ServiceStep t s (some false)
        ({ s with service := { s.service with dirty := true } }.goto t .idle)

/-- After the boot: nobody calls, and what was saved, if anything, is live. -/
structure Booted (s : ServiceTasks Task) : Prop where
  idle : forall t, s.pc t = .idle
  persistMutex : s.persistMutex = none
  saved : forall blob, s.saved = some blob -> blob = s.live

inductive TasksReached : ServiceTasks Task -> Prop
  | boot {s : ServiceTasks Task} : Booted s -> TasksReached s
  | step {s s' : ServiceTasks Task} {t : Task} {answer : Option Bool} : TasksReached s ->
      ServiceStep t s answer s' -> TasksReached s'

/-!
## The invariant
-/

/-- Flash holds what is live, or a flag says or will say that it does not. -/
def Settled (s : ServiceTasks Task) : Prop :=
  s.service.dirty = true ∨ (exists t, s.pc t = .failing) ∨
    forall blob, s.saved = some blob -> blob = s.live

/-- What the task that holds the persist mutex knows at each place. -/
def Duty (s : ServiceTasks Task) : PersistPc -> Prop
  | .copying _ => Settled s
  | .saving replace => s.persistBlob.2 = replace.getD s.service.profiles ∧
      (s.service.dirty = true ∨ s.persistBlob.1 = s.service.params)
  | .adopting => s.saved = some s.persistBlob ∧
      (s.service.dirty = true ∨ s.persistBlob.1 = s.service.params)
  | .giving true => exists params, s.saved = some (params, s.service.profiles) ∧
      (s.service.dirty = true ∨ params = s.service.params)
  | _ => True

structure PersistInv (s : ServiceTasks Task) : Prop where
  lock : Agrees s.persistMutex fun t => (s.pc t).holdsPersist
  free : s.persistMutex = none -> Settled s
  duty : forall t, Duty s (s.pc t)

section Invariant

variable {s s' : ServiceTasks Task} {t : Task}

@[simp] theorem goto_pc_same (s : ServiceTasks Task) (t : Task) (pc : PersistPc) :
    (s.goto t pc).pc t = pc := Function.update_self ..

theorem goto_pc_other (s : ServiceTasks Task) {other : Task} (pc : PersistPc) (h : other ≠ t) :
    (s.goto t pc).pc other = s.pc other := Function.update_of_ne h ..

variable {pc : PersistPc} {answer : Option Bool} {changed : Prop}

omit [DecidableEq Task] in
theorem Duty.of_outside (h : pc.holdsPersist = false) : Duty s pc := by
  cases pc with
  | idle => trivial
  | persist replace => trivial
  | failing => trivial
  | _ => cases h

omit [DecidableEq Task] in
theorem Duty.dirty (hduty : Duty s pc) (hdirty : s'.service.dirty = true)
    (hprofiles : s'.service.profiles = s.service.profiles) (hblob : s'.persistBlob = s.persistBlob)
    (hsaved : s'.saved = s.saved) : Duty s' pc := by
  cases pc with
  | copying replace => exact .inl hdirty
  | saving replace =>
      constructor
      · rw [hblob, hprofiles]
        exact hduty.1
      · exact .inl hdirty
  | adopting =>
      constructor
      · rw [hsaved, hblob]
        exact hduty.1
      · exact .inl hdirty
  | giving ok =>
      cases ok with
      | false => trivial
      | true =>
          rcases hduty with ⟨params, hsave, _⟩
          exact ⟨params, by rw [hsaved, hprofiles]; exact hsave, .inl hdirty⟩
  | _ => trivial

/-- The step of a task leaves flag, configuration and flash as they are. -/
structure Quiet (s s' : ServiceTasks Task) : Prop where
  params : s'.service.params = s.service.params
  profiles : s'.service.profiles = s.service.profiles
  dirty : s'.service.dirty = s.service.dirty
  blob : s'.persistBlob = s.persistBlob
  saved : s'.saved = s.saved

omit [DecidableEq Task] in
theorem Quiet.settled (h : Quiet s s') (hfailing : forall t, s.pc t = .failing -> s'.pc t = .failing)
    (hsettled : Settled s) : Settled s' := by
  rcases hsettled with hdirty | ⟨t, ht⟩ | hsame
  · exact .inl (h.dirty.trans hdirty)
  · exact .inr (.inl ⟨t, hfailing t ht⟩)
  · right
    right
    intro blob hblob
    rw [h.saved] at hblob
    rw [hsame blob hblob]
    unfold ServiceTasks.live
    rw [h.params, h.profiles]

omit [DecidableEq Task] in
theorem Quiet.duty (h : Quiet s s') (hsettled : Settled s -> Settled s') (hduty : Duty s pc) :
    Duty s' pc := by
  cases pc with
  | copying replace => exact hsettled hduty
  | saving replace =>
      unfold Duty
      rw [h.blob, h.params, h.profiles, h.dirty]
      exact hduty
  | adopting =>
      unfold Duty
      rw [h.blob, h.saved, h.params, h.dirty]
      exact hduty
  | giving ok =>
      cases ok with
      | false => trivial
      | true =>
          unfold Duty
          rw [h.saved, h.params, h.profiles, h.dirty]
          exact hduty
  | _ => trivial

theorem PersistInv.quiet (hinv : PersistInv s) (hquiet : Quiet s s')
    (hmutex : s'.persistMutex = s.persistMutex) (hpc : s'.pc = Function.update s.pc t pc)
    (hbefore : (s.pc t).inPersist = false) (hafter : pc.holdsPersist = false) : PersistInv s' := by
  have houtside : (s.pc t).holdsPersist = false := by
    cases hheld : (s.pc t).holdsPersist with
    | false => rfl
    | true =>
        rw [PersistPc.inPersist_of_holds hheld] at hbefore
        cases hbefore
  have hfailing : forall other, s.pc other = .failing -> s'.pc other = .failing := by
    intro other hother
    have hne : other ≠ t := by
      intro heq
      rw [heq] at hother
      rw [hother] at hbefore
      cases hbefore
    rw [hpc, Function.update_of_ne hne]
    exact hother
  have hsettled := hquiet.settled hfailing
  constructor
  · rw [hmutex]
    apply hinv.lock.moves (t := t)
    · rw [hpc, Function.update_self, houtside, hafter]
      exact .stay _ _
    · intro other hne
      rw [hpc, Function.update_of_ne hne]
  · rw [hmutex]
    exact fun hfree => hsettled (hinv.free hfree)
  · intro other
    rw [hpc]
    by_cases hne : other = t
    · rw [hne, Function.update_self]
      exact Duty.of_outside hafter
    · rw [Function.update_of_ne hne]
      exact hquiet.duty hsettled (hinv.duty other)

theorem PersistInv.raise (hinv : PersistInv s) (hdirty : s'.service.dirty = true)
    (hprofiles : s'.service.profiles = s.service.profiles) (hblob : s'.persistBlob = s.persistBlob)
    (hsaved : s'.saved = s.saved) (hmutex : s'.persistMutex = s.persistMutex)
    (hpc : s'.pc = Function.update s.pc t pc) (hbefore : (s.pc t).holdsPersist = false)
    (hafter : pc.holdsPersist = false) : PersistInv s' := by
  constructor
  · rw [hmutex]
    apply hinv.lock.moves (t := t)
    · rw [hpc, Function.update_self, hbefore, hafter]
      exact .stay _ _
    · intro other hne
      rw [hpc, Function.update_of_ne hne]
  · exact fun _ => .inl hdirty
  · intro other
    rw [hpc]
    by_cases hne : other = t
    · rw [hne, Function.update_self]
      exact Duty.of_outside hafter
    · rw [Function.update_of_ne hne]
      exact (hinv.duty other).dirty hdirty hprofiles hblob hsaved

theorem PersistInv.hold (hinv : PersistInv s) (pc : PersistPc)
    (hbefore : (s.pc t).holdsPersist = true)
    (hmutex : s'.persistMutex = if pc.holdsPersist then some t else none)
    (hpc : s'.pc = Function.update s.pc t pc) (hsettled : pc.holdsPersist = false -> Settled s')
    (hduty : Duty s' pc) : PersistInv s' := by
  have howner : s.persistMutex = some t := (hinv.lock t).mpr hbefore
  constructor
  · apply hinv.lock.moves (t := t)
    · rw [hpc, Function.update_self, hbefore, howner, hmutex]
      cases pc.holdsPersist
      · exact .give _
      · exact .stay _ _
    · intro other hne
      rw [hpc, Function.update_of_ne hne]
  · intro hfree
    apply hsettled
    cases hholds : pc.holdsPersist with
    | false => rfl
    | true =>
        rw [hmutex, hholds] at hfree
        cases hfree
  · intro other
    rw [hpc]
    by_cases hne : other = t
    · rw [hne, Function.update_self]
      exact hduty
    · rw [Function.update_of_ne hne]
      exact Duty.of_outside (hinv.lock.not_held hbefore hne)

omit [DecidableEq Task] in
theorem prvApply_cases (id : ConfigParamId) (value : id.Value) (sv : Service) :
    (prvApply id value sv).2 = sv ∨
      ((prvApply id value sv).2.dirty = true ∧ (prvApply id value sv).2.profiles = sv.profiles) := by
  unfold prvApply
  split
  · exact .inr ⟨rfl, rfl⟩
  · exact .inl rfl

theorem update_same (h : s.pc t = .idle) : s.pc = Function.update s.pc t .idle := by
  rw [← h, Function.update_eq_self]

theorem PersistInv.step (hinv : PersistInv s) (hstep : ServiceStep t s answer s') :
    PersistInv s' := by
  cases hstep with
  | setParam id value hidle hok =>
      unfold prvApply at hok ⊢
      by_cases hvalid : prvValidate id value s.service.params = true
      · rw [if_pos hvalid]
        exact hinv.raise rfl rfl rfl rfl rfl rfl (by rw [hidle]; rfl) rfl
      · rw [if_neg hvalid] at hok
        cases hok
  | setParamInvalid => exact hinv
  | setParamDeferred id value hidle =>
      rcases prvApply_cases id value s.service with hsame | ⟨hdirty, hprofiles⟩
      · change PersistInv { s with service := (prvApply id value s.service).2 }
        rw [hsame]
        exact hinv
      · exact hinv.raise hdirty hprofiles rfl rfl rfl (update_same hidle) (by rw [hidle]; rfl) rfl
  | persistPending hidle _ =>
      exact hinv.quiet ⟨rfl, rfl, rfl, rfl, rfl⟩ rfl rfl (by rw [hidle]; rfl) rfl
  | nothingPending => exact hinv
  | takeSnapshot hidle =>
      exact hinv.quiet ⟨rfl, rfl, rfl, rfl, rfl⟩ rfl (update_same hidle) (by rw [hidle]; rfl) rfl
  | restoreSnapshot hidle _ =>
      exact hinv.raise rfl rfl rfl rfl rfl rfl (by rw [hidle]; rfl) rfl
  | noSnapshot => exact hinv
  | flush hidle =>
      exact hinv.quiet ⟨rfl, rfl, rfl, rfl, rfl⟩ rfl rfl (by rw [hidle]; rfl) rfl
  | setProfiles profiles hidle _ =>
      exact hinv.quiet ⟨rfl, rfl, rfl, rfl, rfl⟩ rfl rfl (by rw [hidle]; rfl) rfl
  | tooManyProfiles => exact hinv
  | @take replace hpersist hfree =>
      have houtside : forall other, (s.pc other).holdsPersist = false := by
        intro other
        have hagrees := hinv.lock
        rw [hfree] at hagrees
        exact hagrees.outside other
      constructor
      · apply hinv.lock.moves (t := t)
        · rw [hpersist, hfree, goto_pc_same]
          exact .take
        · intro other hne
          rw [goto_pc_other _ _ hne]
      · intro h
        cases h
      · intro other
        by_cases hne : other = t
        · rw [hne, goto_pc_same]
          have hsettled := hinv.free hfree
          have hquiet : Quiet s ({ s with persistMutex := some t }.goto t (.copying replace)) :=
            ⟨rfl, rfl, rfl, rfl, rfl⟩
          apply hquiet.settled _ hsettled
          intro other' hother'
          rw [goto_pc_other]
          · exact hother'
          · intro heq
            rw [heq, hpersist] at hother'
            cases hother'
        · rw [goto_pc_other _ _ hne]
          exact Duty.of_outside (houtside other)
  | @copy replace hcopying =>
      have hheld : (s.pc t).holdsPersist = true := by rw [hcopying]; rfl
      exact hinv.hold (.saving replace) hheld ((hinv.lock t).mpr hheld) rfl
        (fun h => nomatch h) ⟨rfl, .inr rfl⟩
  | @saveOk replace hsaving =>
      have hheld : (s.pc t).holdsPersist = true := by rw [hsaving]; rfl
      have hduty := hinv.duty t
      rw [hsaving] at hduty
      cases replace with
      | some profiles =>
          exact hinv.hold .adopting hheld ((hinv.lock t).mpr hheld) rfl
            (fun h => nomatch h) ⟨rfl, hduty.2⟩
      | none =>
          have hblob : s.persistBlob = (s.persistBlob.1, s.service.profiles) :=
            Prod.ext rfl hduty.1
          exact hinv.hold (.giving true) hheld ((hinv.lock t).mpr hheld) rfl
            (fun h => nomatch h) ⟨s.persistBlob.1, congrArg some hblob, hduty.2⟩
  | saveFailed hsaving =>
      have hheld : (s.pc t).holdsPersist = true := by rw [hsaving]; rfl
      exact hinv.hold (.giving false) hheld ((hinv.lock t).mpr hheld) rfl
        (fun h => nomatch h) trivial
  | adopt hadopting =>
      have hheld : (s.pc t).holdsPersist = true := by rw [hadopting]; rfl
      have hduty := hinv.duty t
      rw [hadopting] at hduty
      exact hinv.hold (.giving true) hheld ((hinv.lock t).mpr hheld) rfl
        (fun h => nomatch h) ⟨s.persistBlob.1, hduty.1, hduty.2⟩
  | giveOk hgiving =>
      have hduty := hinv.duty t
      rw [hgiving] at hduty
      apply hinv.hold .idle (by rw [hgiving]; rfl) rfl rfl
      · intro _
        rcases hduty with ⟨params, hsaved, hdirty | hparams⟩
        · exact .inl hdirty
        · right
          right
          intro blob hblob
          change s.saved = some blob at hblob
          rw [hsaved] at hblob
          cases hblob
          rw [hparams]
          rfl
      · trivial
  | giveFailed hgiving =>
      apply hinv.hold .failing (by rw [hgiving]; rfl) rfl rfl
      · exact fun _ => .inr (.inl ⟨t, goto_pc_same _ _ _⟩)
      · trivial
  | fail hfailing =>
      exact hinv.raise rfl rfl rfl rfl rfl rfl (by rw [hfailing]; rfl) rfl

theorem TasksReached.inv (h : TasksReached s) : PersistInv s := by
  induction h with
  | @boot s hboot =>
      constructor
      · intro t
        change s.persistMutex = some t ↔ (s.pc t).holdsPersist = true
        rw [hboot.persistMutex, hboot.idle t]
        exact ⟨(fun h => nomatch h), fun h => nomatch h⟩
      · exact fun _ => .inr (.inr hboot.saved)
      · intro t
        rw [hboot.idle t]
        trivial
  | step _ hstep ih => exact ih.step hstep

omit [DecidableEq Task] in
theorem PersistInv.synced (hinv : PersistInv s) (hclean : s.service.dirty = false)
    (hquiet : forall t, (s.pc t).inPersist = false) {blob : ConfigParams × ConfigProfiles}
    (hsaved : s.saved = some blob) : blob = s.live := by
  have hfree : s.persistMutex = none := by
    cases howner : s.persistMutex with
    | none => rfl
    | some t =>
        have hin := PersistPc.inPersist_of_holds ((hinv.lock t).mp howner)
        rw [hquiet t] at hin
        cases hin
  rcases hinv.free hfree with hdirty | ⟨t, ht⟩ | hsame
  · rw [hdirty] at hclean
    cases hclean
  · have hout := hquiet t
    rw [ht] at hout
    cases hout
  · exact hsame blob hsaved

/-!
## The profile list
-/

/-- A `config_service_set_profiles` of task `t` under way; `changed` says whether one of its own
steps has changed the live list. -/
inductive ProfilesCall (t : Task) : Prop -> ServiceTasks Task -> Prop
  | start {s : ServiceTasks Task} (profiles : ConfigProfiles) :
      s.pc t = .persist (some profiles) -> ProfilesCall t False s
  | own {s s' : ServiceTasks Task} {changed : Prop} : ProfilesCall t changed s ->
      ServiceStep t s none s' ->
      ProfilesCall t (changed ∨ s'.service.profiles ≠ s.service.profiles) s'
  | other {s s' : ServiceTasks Task} {changed : Prop} {t' : Task} {answer : Option Bool} :
      ProfilesCall t changed s -> t' ≠ t -> ServiceStep t' s answer s' -> ProfilesCall t changed s'

theorem ServiceStep.pc_other {t' : Task} (hne : t' ≠ t) (hstep : ServiceStep t' s answer s') :
    s'.pc t = s.pc t := by
  cases hstep <;> first | rfl | exact goto_pc_other _ _ hne.symm

theorem ServiceStep.profiles (hstep : ServiceStep t s answer s') :
    s'.service.profiles = s.service.profiles ∨ (answer = none ∧ s'.pc t = .giving true) := by
  cases hstep with
  | setParam id value _ _ =>
      rcases prvApply_cases id value s.service with hsame | ⟨_, hprofiles⟩
      · exact .inl (congrArg Service.profiles hsame)
      · exact .inl hprofiles
  | setParamDeferred id value _ =>
      rcases prvApply_cases id value s.service with hsame | ⟨_, hprofiles⟩
      · exact .inl (congrArg Service.profiles hsame)
      · exact .inl hprofiles
  | adopt => exact .inr ⟨rfl, goto_pc_same _ _ _⟩
  | _ => exact .inl rfl

theorem ServiceStep.of_giving (hstep : ServiceStep t s answer s') (hgiving : s.pc t = .giving true)
    : answer = some true := by
  cases hstep with
  | giveOk => rfl
  | _ => simp_all

theorem ProfilesCall.place (h : ProfilesCall t changed s) :
    s.pc t ≠ .idle ∧ (changed -> s.pc t = .giving true) := by
  induction h with
  | start profiles hpersist =>
      rw [hpersist]
      exact ⟨(fun h => nomatch h), False.elim⟩
  | @own s s' changed _ hstep ih =>
      rcases ih with ⟨hbusy, hchanged⟩
      have hstays : changed -> False := by
        intro h
        cases hstep.of_giving (hchanged h)
      constructor
      · cases hstep <;> first | exact absurd ‹_› hbusy | simp
        split <;> simp
      · intro h
        rcases h with h | hprofiles
        · exact (hstays h).elim
        · rcases hstep.profiles with hsame | ⟨_, hgiving⟩
          · exact absurd hsame hprofiles
          · exact hgiving
  | other _ hne hstep ih =>
      rw [hstep.pc_other hne]
      exact ih

theorem ProfilesCall.refused (h : ProfilesCall t changed s)
    (hstep : ServiceStep t s (some false) s') :
    ¬ changed ∧ s'.service.profiles = s.service.profiles := by
  constructor
  · intro hchanged
    cases hstep.of_giving (h.place.2 hchanged)
  · rcases hstep.profiles with hsame | ⟨hnone, _⟩
    · exact hsame
    · cases hnone

end Invariant

/-- In every reachable state: with nothing pending and no save under way the last saved blob is
the live configuration, and a `config_service_set_profiles` that fails has left the live profile
list alone. -/
theorem nothing_pending_means_saved {s : ServiceTasks Task} (hreached : TasksReached s) :
    (s.service.dirty = false -> (forall t, (s.pc t).inPersist = false) ->
      forall blob, s.saved = some blob -> blob = s.live) ∧
    forall t changed, ProfilesCall t changed s ->
      forall s', ServiceStep t s (some false) s' ->
        ¬ changed ∧ s'.service.profiles = s.service.profiles :=
  ⟨fun hclean hquiet _ hsaved => hreached.inv.synced hclean hquiet hsaved,
    fun _ _ hcall _ hstep => hcall.refused hstep⟩

/-- While a task saves its change, a second one defers another; the save fails, and the second
task's `config_service_persist_pending` saves both. -/
theorem nothing_pending_means_saved_retried :
    exists s : ServiceTasks Bool, TasksReached s ∧
      s.live.1.num (.channel .temp .rangeMin) = -3000 ∧
      s.live.1.num (.channel .temp .alarmLow) = -500 ∧ s.saved = some s.live := by
  let start : ServiceTasks Bool :=
    { service := configServiceInit, persistMutex := none,
      persistBlob := (prvApplyDefaults, ⟨0, []⟩), saved := none, pc := fun _ => .idle }
  have hboot : Booted start := ⟨fun _ => rfl, rfl, fun _ h => nomatch h⟩
  have hset := (TasksReached.boot hboot).step (t := true)
    (.setParam (.numeric (.channel .temp .rangeMin)) ⟨-3000, by decide⟩ rfl (by decide +kernel))
  have hcopy := (hset.step (t := true) (.take (goto_pc_same _ _ _) rfl)).step (t := true)
    (.copy (goto_pc_same _ _ _))
  -- the second task's change falls between the copy and the save
  have hdeferred := hcopy.step (t := false)
    (.setParamDeferred (.numeric (.channel .temp .alarmLow)) ⟨-500, by decide⟩ rfl)
  have hfailed := ((hdeferred.step (t := true) (.saveFailed rfl)).step (t := true)
    (.giveFailed (goto_pc_same _ _ _))).step (t := true) (.fail (goto_pc_same _ _ _))
  have hagain := ((hfailed.step (t := false) (.persistPending rfl rfl)).step (t := false)
    (.take (goto_pc_same _ _ _) rfl)).step (t := false) (.copy (goto_pc_same _ _ _))
  have hsaved := (hagain.step (t := false) (.saveOk (goto_pc_same _ _ _))).step (t := false)
    (.giveOk (goto_pc_same _ _ _))
  have hidle := (nothing_pending_means_saved hsaved).1 rfl fun t => by cases t <;> rfl
  exact ⟨_, hsaved, by decide +kernel, by decide +kernel, congrArg some (hidle _ rfl)⟩

end EnvMonitor.Gateway.ConfigService
