import EnvMonitor.Gateway.FirmwareStore.Authenticity

/-!
# The life of a device

Boots and application sessions take turns on one on-chip flash, and the power can go at any
point of either.  What a kind of records in force has to satisfy, so that no step of such a
life leaves it, is worked out here once.
-/

namespace EnvMonitor.Gateway.FirmwareStore

open Device Drivers Gateway.ConfigStore Bootloader

/-!
## Runs
-/

/-- In reset, behind a boot that ended with a report, or in the application. -/
inductive DevicePhase where
  | off
  | booted (report : BootReport)
  | up (fs : FsInst)

/-- The caller resets after a call that switched the slot to run. -/
def MustReset (call : FsCall) (answer : FsAnswer) : Prop :=
  (call = .activate ∨ call = .rollback) ∧ answer.err = .ok

instance (call : FsCall) (answer : FsAnswer) : Decidable (MustReset call answer) := by
  unfold MustReset
  infer_instance

/-- The life of a device from some phase and flash on: boots and calls whose on-chip faults are
`ok`, resets and power cuts at any point, and any staging content at each call.  The image that
runs makes only the calls it `may`. -/
inductive DeviceRun (crypto : OtaCrypto) (ok : Faults iflash -> Prop) (may : FsCall -> Prop)
    (phase₀ : DevicePhase) (m₀ : Memory) : DevicePhase -> Memory -> Prop where
  | start : DeviceRun crypto ok may phase₀ m₀ phase₀ m₀
  | boot {F : Faults iflash} {m m' : Memory} {report : BootReport} :
      DeviceRun crypto ok may phase₀ m₀ .off m -> ok F ->
      Program.Exec internalFlash F bootCoreRun m (some report) m' ->
      DeviceRun crypto ok may phase₀ m₀ (.booted report) m'
  | bootCut {F : Faults iflash} {m m' : Memory} :
      DeviceRun crypto ok may phase₀ m₀ .off m -> ok F ->
      Program.Exec internalFlash F bootCoreRun m none m' ->
      DeviceRun crypto ok may phase₀ m₀ .off m'
  | reset {phase : DevicePhase} {m : Memory} :
      DeviceRun crypto ok may phase₀ m₀ phase m -> DeviceRun crypto ok may phase₀ m₀ .off m
  | create {F : Faults iflash} {m m' : Memory} {report : BootReport} {fs : FsInst} :
      DeviceRun crypto ok may phase₀ m₀ (.booted report) m -> report.outcome = .run -> ok F ->
      Program.Exec internalFlash F (firmwareStoreCreate report.slotBase) m (some (some fs)) m' ->
      DeviceRun crypto ok may phase₀ m₀ (.up fs) m'
  | call {F : Faults storeIo} {m m' : Memory} {fs fs' : FsInst} {call : FsCall}
      {answer : FsAnswer} {t t' : (qspiFlash.sum cryptoDevice).State} :
      DeviceRun crypto ok may phase₀ m₀ (.up fs) m -> may call -> ok F.left ->
      Program.Exec storeDevice F (fsPerform crypto fs call) (m, t) (some (answer, fs')) (m', t') ->
      DeviceRun crypto ok may phase₀ m₀ (if MustReset call answer then .off else .up fs') m'
  | callCut {F : Faults storeIo} {m m' : Memory} {fs : FsInst} {call : FsCall}
      {t t' : (qspiFlash.sum cryptoDevice).State} :
      DeviceRun crypto ok may phase₀ m₀ (.up fs) m -> may call -> ok F.left ->
      Program.Exec storeDevice F (fsPerform crypto fs call) (m, t) none (m', t') ->
      DeviceRun crypto ok may phase₀ m₀ .off m'

/-!
## Records in force
-/

/-- The record in force is of the kind `K`. -/
def InForceIs (K : FirmwareBootMeta -> Prop) (m : Memory) : Prop :=
  exists c r, inForce m = some (c, r) ∧ K r

section

variable {K : FirmwareBootMeta -> Prop} {F : Faults iflash} {m m' : Memory} {c c' : Nat}
variable {r r' : FirmwareBootMeta}

theorem inForce_either (hc : c < 2) (hc' : c' < 2) (hne : c' ≠ c) (h : copyAt m c = some r) :
    inForce m = some (c, r) ∨
      exists r', copyAt m c' = some r' ∧ inForce m = some (c', r') := by
  rcases inForce_cases m with ⟨_, hA, hB⟩ | ⟨d, r₁, hforce, hlt, hcopy⟩
  · rcases copy_cases hc with hzero | hone
    · subst c
      rw [hA] at h
      cases h
    · subst c
      rw [hB] at h
      cases h
  · by_cases hequal : d = c
    · subst d
      rw [h] at hcopy
      cases hcopy
      exact .inl hforce
    · have hother : d = c' := by omega
      subst d
      exact .inr ⟨r₁, hcopy, hforce⟩

theorem InForceIs.underway (h : InForceIs K m) (hc : c < 2) (hc' : c' < 2) (hne : c' ≠ c)
    (hcopy : copyAt m c = some r) (hr : K r) (hr' : K r')
    (hunder : Underway F m c' r' m') (htorn : RejectsTorn F) : InForceIs K m' := by
  have hkept : copyAt m' c = some r := (hunder.otherCopy hc' hc (Ne.symm hne)).trans hcopy
  rcases inForce_either hc hc' hne hkept with hforce | ⟨r₁, hother, hforce⟩
  · exact ⟨c, r, hforce, hr⟩
  · rcases hunder.copy htorn with hnone | hsame | hsome
    · rw [hnone] at hother
      cases hother
    · have hequal : inForce m' = inForce m := by
        rcases copy_cases hc with hzero | hone
        · have hone : c' = 1 := by omega
          subst c c'
          exact inForce_congr (hkept.trans hcopy.symm) hsame
        · have hzero : c' = 0 := by omega
          subst c c'
          exact inForce_congr hsame (hkept.trans hcopy.symm)
      unfold InForceIs
      rw [hequal]
      exact h
    · rw [hsome] at hother
      cases hother
      exact ⟨c', _, hforce, hr'⟩

theorem written_underway (hvalid : RecordIsValid r) (hpad : r.pad = firmwareErasedWord)
    (m : Memory) (c : Nat) : Underway F m c r (written m c r 24) :=
  (Midway.programming 24 (by omega) (by omega)).underway hvalid hpad

theorem copyAt_writtenAll (hvalid : RecordIsValid r) (m : Memory) (c : Nat) :
    copyAt (written m c r 24) c = some r := by
  rw [copyAt_written m c r (Nat.le_refl 24), torn_all, metaParse_bytes hvalid]

theorem targetOf_ne (h : inForce m = some (c, r)) : c < 2 ∧ targetOf m ≠ c := by
  rcases inForce_target h with ⟨hc, htarget⟩ | ⟨hc, htarget⟩
  · omega
  · omega

/-!
## A boot
-/

theorem bootWrite_valid {cur : BootRecord} (h : BootWrite cur r')
    (hcur : forall c r, cur = some (c, r) -> RecordIsValid r) :
    RecordIsValid r' ∧ r'.pad = firmwareErasedWord := by
  cases h with
  | initial => exact ⟨fsMetaRecord_valid (.inl rfl) (.inr rfl) metaStateLegal_confirmed, rfl⟩
  | trial _ =>
      have hvalid := hcur _ _ rfl
      exact ⟨fsMetaRecord_valid hvalid.2.2.1 hvalid.2.2.2.1 metaStateLegal_trialRunning, rfl⟩
  | abandon _ _ =>
      have hvalid := hcur _ _ rfl
      exact ⟨fsMetaRecord_valid hvalid.2.2.2.1 hvalid.2.2.1 metaStateLegal_rolledBack, rfl⟩

/-- What a boot has in RAM when it comes to the slots: a record of the kind that stands on
flash, with one of the kind in force. -/
structure StageKept (K : FirmwareBootMeta -> Prop) (m : Memory) (c : Nat) (r : FirmwareBootMeta)
    (bank : UInt8) (m' : Memory) : Prop where
  copy_lt : c < 2
  copy : copyAt m' c = some r
  kind : K r
  inForce : InForceIs K m'
  slots : forall bank, Bootable m' bank ↔ Bootable m bank
  legal : metaBankLegal bank

variable {bank : UInt8} {r₁ : FirmwareBootMeta} {c₁ : Nat}

theorem bootStage_kept {failed : Bool} (h : BootStage F m c₁ r₁ bank m' failed)
    (htorn : RejectsTorn F) (hforce : inForce m = some (c, r)) (hr : K r)
    (hwrite : forall r', BootWrite (some (c, r)) r' -> K r') : StageKept K m c₁ r₁ bank m' := by
  have hvalid := inForce_valid hforce
  have hcopy := inForce_copy hforce
  have hin : InForceIs K m := ⟨c, r, hforce, hr⟩
  rcases targetOf_ne hforce with ⟨hlt, hne⟩
  have htarget := targetOf_lt m
  cases h with
  | settled hforce' _ _ =>
      rw [hforce] at hforce'
      cases hforce'
      exact ⟨hlt, hcopy, hr, hin, fun _ => Iff.rfl, hvalid.2.2.1⟩
  | recorded hboot =>
      rw [hforce] at hboot
      have hnew := bootWrite_valid hboot fun c' r' hsome => by
        cases hsome
        exact hvalid
      have hunder := written_underway (F := F) hnew.1 hnew.2 m (targetOf m)
      exact ⟨htarget, copyAt_writtenAll hnew.1 m _, hwrite _ hboot,
        hin.underway hlt htarget hne hcopy hr (hwrite _ hboot) hunder htorn,
        fun _ => bootable_metaPage hunder.sameOutside, hnew.1.2.2.1⟩
  | unrecorded hforce' hrunning hroom hunder _ =>
      rw [hforce] at hforce'
      cases hforce'
      exact ⟨hlt, (hunder.otherCopy htarget hlt (Ne.symm hne)).trans hcopy, hr,
        hin.underway hlt htarget hne hcopy hr (hwrite _ (.abandon hrunning hroom)) hunder htorn,
        fun _ => bootable_metaPage hunder.sameOutside, hvalid.2.2.2.1⟩

/-- A record is written at the slots only when the slot to run is refused and the other one is
not. -/
def FallsBack (F : Faults iflash) (m : Memory) (r : FirmwareBootMeta) (bank : UInt8) : Prop :=
  Refusable F m bank ∧ ¬ r.rollbackCount >= bootMaxRollbacks ∧ Bootable m (otherBank bank)

theorem StageKept.underway {m'' : Memory} (h : StageKept K m c₁ r₁ bank m') (htorn : RejectsTorn F)
    (hfall : K (fallbackRecord r₁ bank))
    (hunder : Underway F m' (recordTarget (some (c₁, r₁))) (fallbackRecord r₁ bank) m'') :
    InForceIs K m'' := by
  have htarget : recordTarget (some (c₁, r₁)) < 2 ∧ recordTarget (some (c₁, r₁)) ≠ c₁ := by
    rcases copy_cases h.copy_lt with hzero | hone
    · subst c₁
      exact ⟨Nat.one_lt_two, Nat.one_ne_zero⟩
    · subst c₁
      exact ⟨Nat.zero_lt_two, Nat.zero_ne_one⟩
  exact h.inForce.underway h.copy_lt htarget.1 htarget.2 h.copy h.kind hfall hunder htorn

theorem fallbackRecord_valid (r : FirmwareBootMeta) (h : metaBankLegal bank) :
    RecordIsValid (fallbackRecord r bank) ∧ (fallbackRecord r bank).pad = firmwareErasedWord :=
  ⟨fsMetaRecord_valid (otherBank_legal bank) h metaStateLegal_rolledBack, rfl⟩

/-- What a boot may write for the record in force to stay of the kind `K`. -/
structure BootKeeps (K : FirmwareBootMeta -> Prop) (F : Faults iflash) (m : Memory) (c : Nat)
    (r : FirmwareBootMeta) : Prop where
  write : forall r', BootWrite (some (c, r)) r' -> K r'
  fallback : forall c₁ r₁ bank m₁ failed, BootStage F m c₁ r₁ bank m₁ failed ->
    FallsBack F m₁ r₁ bank -> K (fallbackRecord r₁ bank)

/-- Every boot that returns leaves a record of the kind in force, and the slots as they were. -/
theorem bootExit_kept {report : BootReport} (h : BootExit F m report m') (htorn : RejectsTorn F)
    (hforce : inForce m = some (c, r)) (hr : K r) (hkeeps : BootKeeps K F m c r) :
    InForceIs K m' ∧ forall bank, Bootable m' bank ↔ Bootable m bank := by
  have hin : InForceIs K m := ⟨c, r, hforce, hr⟩
  cases h with
  | unreadable _ _ => exact ⟨hin, fun _ => Iff.rfl⟩
  | limit _ _ _ _ => exact ⟨hin, fun _ => Iff.rfl⟩
  | refused _ hboot _ hunder _ =>
      rw [hforce] at hboot
      rcases targetOf_ne hforce with ⟨hlt, hne⟩
      exact ⟨hin.underway hlt (targetOf_lt m) hne (inForce_copy hforce) hr
        (hkeeps.write _ hboot) hunder htorn, fun _ => bootable_metaPage hunder.sameOutside⟩
  | slots hstage _ hslots =>
      have hkept := bootStage_kept hstage htorn hforce hr hkeeps.write
      cases hslots with
      | ran _ => exact ⟨hkept.inForce, hkept.slots⟩
      | limit _ _ => exact ⟨hkept.inForce, hkept.slots⟩
      | noImage _ _ => exact ⟨hkept.inForce, hkept.slots⟩
      | fellBack hrefused hroom hother =>
          have hvalid := fun r => fallbackRecord_valid r hkept.legal
          exact ⟨hkept.underway htorn
            (hkeeps.fallback _ _ _ _ _ hstage ⟨hrefused, hroom, hother⟩)
            (written_underway (hvalid _).1 (hvalid _).2 _ _),
            fun bank => (bootable_metaPage (written_sameOutside _ _ _ 24)).trans
              (hkept.slots bank)⟩
      | unrecorded hrefused hroom hother hunder _ =>
          exact ⟨hkept.underway htorn
            (hkeeps.fallback _ _ _ _ _ hstage ⟨hrefused, hroom, hother⟩) hunder,
            fun bank => (bootable_metaPage hunder.sameOutside).trans (hkept.slots bank)⟩

theorem bootCut_kept (h : BootCut F m m') (htorn : RejectsTorn F)
    (hforce : inForce m = some (c, r)) (hr : K r) (hkeeps : BootKeeps K F m c r) :
    InForceIs K m' ∧ forall bank, Bootable m' bank ↔ Bootable m bank := by
  have hin : InForceIs K m := ⟨c, r, hforce, hr⟩
  cases h with
  | idle => exact ⟨hin, fun _ => Iff.rfl⟩
  | writing hboot hunder =>
      rw [hforce] at hboot
      rcases targetOf_ne hforce with ⟨hlt, hne⟩
      exact ⟨hin.underway hlt (targetOf_lt m) hne (inForce_copy hforce) hr
        (hkeeps.write _ hboot) hunder htorn, fun _ => bootable_metaPage hunder.sameOutside⟩
  | slots hstage hcut =>
      have hkept := bootStage_kept hstage htorn hforce hr hkeeps.write
      cases hcut with
      | idle => exact ⟨hkept.inForce, hkept.slots⟩
      | writing hrefused hroom hother hunder =>
          exact ⟨hkept.underway htorn
            (hkeeps.fallback _ _ _ _ _ hstage ⟨hrefused, hroom, hother⟩) hunder,
            fun bank => (bootable_metaPage hunder.sameOutside).trans (hkept.slots bank)⟩

end

/-!
## A session
-/

/-- A new image may be downloaded. -/
def Open (fs : FsInst) : Prop :=
  fs.boot.otaCapable = true ∧ fs.boot.state = .confirmed

instance (fs : FsInst) : Decidable (Open fs) := by
  unfold Open
  infer_instance

/-- The record in RAM is that of the copy `c`, and names the slot that runs. -/
structure Holding (fs : FsInst) (m : Memory) (c : Nat) (r : FirmwareBootMeta) : Prop where
  copy_lt : c < 2
  copy : copyAt m c = some r
  fsMeta : fs.fsMeta = fsMetaOf c r
  state : fs.boot.state = firmwareBootState r.bootState
  running : fsSlotFromBank r.activeBank = fs.boot.runningSlot
  started : r.bootState ≠ firmwareMetaStateTrialPending

/-- A session over records of the kind `K`.  The record in RAM need not be the one in force. -/
structure Running (K : FirmwareBootMeta -> Prop) (fs : FsInst) (m : Memory) : Prop where
  inv : StoreInv fs
  inForce : InForceIs K m
  idle : ¬ Open fs -> fs.op = .idle
  holding : fs.boot.otaCapable = true -> exists c r, Holding fs m c r ∧ K r

/-- The slot that a call leaves alone. -/
def Spared (fs : FsInst) (call : FsCall) (slot : FirmwareSlot) : Prop :=
  slot ≠ .none ∧ (slot = fs.boot.runningSlot ∨ ¬ Open fs) ∧
    (Requests fs call -> Settles call -> leftSlot fs ≠ slot)

section

variable {K : FirmwareBootMeta -> Prop} {fs fs' : FsInst} {m m' : Memory} {c : Nat}
variable {r : FirmwareBootMeta} {call : FsCall} {crypto : OtaCrypto}
variable {t t' : (qspiFlash.sum cryptoDevice).State}

variable {slot : FirmwareSlot} {F : Faults iflash} {err : FirmwareStoreErr}

theorem SlotSame.bootable (h : SlotSame slot m m') :
    Bootable m' (fsBankFromSlot slot) ↔ Bootable m (fsBankFromSlot slot) := by
  apply bootable_congr
  · rw [descAddr_slot]
    exact h.desc
  · rw [slotBase_slot]
    exact h.image

theorem firmwareBootState_cases (hvalid : RecordIsValid r)
    (h : r.bootState ≠ firmwareMetaStateTrialPending) :
    (r.bootState = firmwareMetaStateConfirmed ∧ firmwareBootState r.bootState = .confirmed) ∨
      (r.bootState = firmwareMetaStateTrialRunning ∧
        firmwareBootState r.bootState = .trialRunning) ∨
      (r.bootState = firmwareMetaStateRolledBack ∧
        firmwareBootState r.bootState = .rolledBack) := by
  by_cases hrunning : r.bootState = firmwareMetaStateTrialRunning
  · exact .inr (.inl ⟨hrunning, by rw [hrunning]; rfl⟩)
  · by_cases hrolled : r.bootState = firmwareMetaStateRolledBack
    · exact .inr (.inr ⟨hrolled, by rw [hrolled]; rfl⟩)
    · have hstate : firmwareBootState r.bootState = .confirmed := by
        unfold firmwareBootState
        rw [if_neg h, if_neg hrunning, if_neg hrolled]
      exact .inl ⟨firmwareBootState_confirmed hvalid hstate, hstate⟩

theorem Holding.bootState (h : Holding fs m c r) (hvalid : RecordIsValid r) :
    (fs.boot.state = .confirmed -> r.bootState = firmwareMetaStateConfirmed) ∧
      (fs.boot.state = .trialRunning -> r.bootState = firmwareMetaStateTrialRunning) ∧
      (fs.boot.state = .rolledBack -> r.bootState = firmwareMetaStateRolledBack) := by
  rw [h.state]
  rcases firmwareBootState_cases hvalid h.started with ⟨hstate, hcached⟩ | ⟨hstate, hcached⟩ |
    ⟨hstate, hcached⟩
  · rw [hcached]
    exact ⟨fun _ => hstate, fun h => (by cases h), fun h => (by cases h)⟩
  · rw [hcached]
    exact ⟨fun h => (by cases h), fun _ => hstate, fun h => (by cases h)⟩
  · rw [hcached]
    exact ⟨fun h => (by cases h), fun h => (by cases h), fun _ => hstate⟩

theorem running_created (h : InForceIs K m) (base : Nat) : Running K (createdStore m base) m := by
  refine ⟨createdStore_inv m base, h, fun _ => rfl, fun hota => ?_⟩
  rcases h with ⟨c, r, hforce, hr⟩
  have hmeta := fsMetaIn_some hforce
  change otaCapable (slotFromImageBase base) (fsMetaIn m) = true at hota
  rw [hmeta] at hota
  unfold otaCapable at hota
  rcases of_decide_eq_true hota with ⟨_, hselected, hrunning, hstate⟩
  refine ⟨c, r, ⟨(targetOf_ne hforce).1, inForce_copy hforce, hmeta, ?_, hrunning, ?_⟩, hr⟩
  · change (if (fsMetaIn m).selected ≠ fsMetaNone then firmwareBootState (fsMetaIn m).bootState
      else .confirmed) = _
    rw [hmeta, if_pos hselected]
    rfl
  · intro hpending
    change r.bootState = _ ∨ r.bootState = _ ∨ r.bootState = _ at hstate
    rw [hpending] at hstate
    revert hstate
    decide

theorem Running.legalBanks (h : Running K fs m) : LegalBanks fs := by
  intro hota
  rcases h.holding hota with ⟨c, r, hholding, _⟩
  have hvalid := copyAt_valid hholding.copy
  rw [hholding.fsMeta]
  exact ⟨hvalid.2.2.1, hvalid.2.2.2.1⟩

theorem within_closed (crypto : OtaCrypto) (hidle : fs.op = .idle) (hclosed : ¬ Open fs)
    (hcall : ¬ IsBootControl call) :
    StoreWithin nowhere (fun out => out.2.op = .idle ∧ Kept fs out.2)
      (fsPerform crypto fs call) := by
  have hsame : fs.op = .idle ∧ Kept fs fs := ⟨hidle, .refl fs⟩
  have hprecondition : sessionPrecondition fs ≠ .ok := by
    unfold sessionPrecondition
    unfold Open at hclosed
    cases hcapable : fs.boot.otaCapable with
    | false => simp
    | true =>
        rw [hcapable] at hclosed
        simp only [true_and] at hclosed
        simp [hclosed]
  have hcheck : forall imageId fileLen, sessionCheck fs imageId fileLen ≠ .ok := by
    intro imageId fileLen
    unfold sessionCheck
    rw [if_neg hprecondition]
    exact hprecondition
  cases call with
  | begin imageId fileLen =>
      change StoreWithin _ _ (doBegin fs imageId fileLen >>= _)
      unfold doBegin
      rw [if_pos (hcheck _ _)]
      exact hsame
  | resume imageId fileLen =>
      change StoreWithin _ _ (doResume fs imageId fileLen >>= _)
      unfold doResume
      rw [if_pos (hcheck _ _)]
      exact hsame
  | writeChunk offset data =>
      change StoreWithin _ _ (doWriteChunk fs offset data >>= _)
      unfold doWriteChunk
      rw [if_pos (by rw [hidle]; decide)]
      exact hsame
  | discard =>
      have hdiscard : StoreWithin nowhere (fun out => out.2.op = .idle ∧ Kept fs out.2)
          (doDiscard fs) := by
        unfold doDiscard
        rw [if_neg (by rw [hidle]; decide)]
        exact (within_onStaging _).bind fun err _ => ⟨rfl, rfl, rfl⟩
      exact hdiscard.bind fun _ h => h
  | verify =>
      change StoreWithin _ _ (doVerify crypto fs >>= _)
      unfold doVerify
      rw [if_neg (by rw [hidle]; decide), if_pos (by rw [hidle]; decide)]
      exact hsame
  | installBegin =>
      change StoreWithin _ _ (doInstallBegin fs >>= _)
      unfold doInstallBegin
      rw [if_pos (by rw [hidle]; decide)]
      exact hsame
  | installStep =>
      change StoreWithin _ _ (doInstallStep crypto fs >>= _)
      unfold doInstallStep
      rw [if_pos (by rw [hidle]; decide)]
      exact hsame
  | activate => exact absurd trivial hcall
  | confirm => exact absurd trivial hcall
  | rollback => exact absurd trivial hcall
  | acknowledgeRollback => exact absurd trivial hcall

theorem Running.within_quiet (h : Running K fs m) (crypto : OtaCrypto)
    (hcall : ¬ IsBootControl call) :
    StoreWithin (fun x => Open fs ∧ targetArea fs x)
      (fun out => Quiet fs out.2 ∧ (¬ Open fs -> out.2.op = .idle)) (fsPerform crypto fs call) := by
  by_cases hopen : Open fs
  · have hquiet := FirmwareStore.within_quiet crypto call h.inv (by rintro rfl; exact hcall trivial)
      (by rintro rfl; exact hcall trivial) (by rintro rfl; exact hcall trivial)
      (by rintro rfl; exact hcall trivial)
    refine (within_widen hquiet fun x hx => ⟨hopen, ?_⟩).mono (fun _ hop => hop)
      fun _ hout => ⟨hout, fun hclosed => absurd hopen hclosed⟩
    cases call with
    | installBegin => exact hx
    | installStep => exact hx
    | begin _ _ => exact hx.elim
    | resume _ _ => exact hx.elim
    | writeChunk _ _ => exact hx.elim
    | discard => exact hx.elim
    | verify => exact hx.elim
    | activate => exact (hcall trivial).elim
    | confirm => exact (hcall trivial).elim
    | rollback => exact (hcall trivial).elim
    | acknowledgeRollback => exact (hcall trivial).elim
  · refine (within_widen (within_closed crypto (h.idle hopen) hopen hcall)
      fun _ hx => hx.elim).mono (fun _ hop => hop) fun out hout => ⟨⟨hout.2, ?_⟩, fun _ => hout.1⟩
    apply StoreInv.of_notAccepted
    rw [accepted_of_eq .idle hout.1]
    decide

theorem Running.quiet_flash (h : Running K fs m) (call : FsCall)
    (hsame : SameBut m (fun x => Open fs ∧ targetArea fs x) m') :
    (forall c, copyAt m' c = copyAt m c) ∧
      forall slot, Spared fs call slot -> SlotSame slot m m' := by
  constructor
  · intro c
    apply copyAt_congr
    apply hsame.sameOn
    intro x _ hhi hx
    have hle := targetArea_le hx.2
    have hmeta := fsMetaAddr_below c
    omega
  · intro slot hspared
    rcases hspared.2.1 with hrunning | hclosed
    · have hout : forall x, descArea slot x ∨ imageArea slot x ->
          ¬ (Open fs ∧ targetArea fs x) := by
        intro x hx hin
        subst hrunning
        have htarget := h.inv.target hin.2.1
        have hne := fsOtherSlot_ne fs.boot.runningSlot
        rw [← htarget] at hne
        rcases hin.2.2 with hdesc | himage
        · rcases hx with hdesc' | himage'
          · exact descArea_disjoint hne.1 hspared.1 hne.2 hdesc hdesc'
          · exact desc_not_image hdesc himage'
        · rcases hx with hdesc' | himage'
          · exact desc_not_image hdesc' himage
          · exact imageArea_disjoint hne.1 hspared.1 hne.2 himage himage'
      exact hsame.slotSame (fun x hx => hout x (.inl hx)) fun x hx => hout x (.inr hx)
    · exact hsame.slotSame (fun _ _ hx => hclosed hx.1) fun _ _ hx => hclosed hx.1

theorem Running.quiet (h : Running K fs m) (hquiet : Quiet fs fs')
    (hidle : ¬ Open fs -> fs'.op = .idle) (hcopies : forall c, copyAt m' c = copyAt m c) :
    Running K fs' m' where
  inv := hquiet.inv
  inForce := by
    unfold InForceIs
    rw [inForce_congr (hcopies 0) (hcopies 1)]
    exact h.inForce
  idle := by
    unfold Open
    rw [hquiet.kept.1]
    exact hidle
  holding := by
    rw [hquiet.kept.1]
    intro hota
    rcases h.holding hota with ⟨c, r, hholding, hr⟩
    refine ⟨c, r, ⟨hholding.copy_lt, (hcopies c).trans hholding.copy, ?_, ?_, ?_,
      hholding.started⟩, hr⟩
    · rw [hquiet.kept.2]
      exact hholding.fsMeta
    · rw [hquiet.kept.1]
      exact hholding.state
    · rw [hquiet.kept.1]
      exact hholding.running

/-!
## Boot control in a session
-/

theorem Holding.target (h : Holding fs m c r) :
    fsMetaTarget fs.fsMeta < 2 ∧ fsMetaTarget fs.fsMeta ≠ c := by
  rw [h.fsMeta]
  rcases copy_cases h.copy_lt with hzero | hone
  · subst c
    exact ⟨Nat.one_lt_two, Nat.one_ne_zero⟩
  · subst c
    exact ⟨Nat.zero_lt_two, Nat.zero_ne_one⟩

theorem Running.written (h : Running K fs m) (htorn : RejectsTorn F) (hrequests : Requests fs call)
    (hkind : K (requestedRecord fs call))
    (hunder : Underway F m (fsMetaTarget fs.fsMeta) (requestedRecord fs call) m') :
    Running K fs m' := by
  rcases h.holding hrequests.capable with ⟨c, r, hholding, hr⟩
  rcases hholding.target with ⟨hlt, hne⟩
  refine ⟨h.inv, h.inForce.underway hholding.copy_lt hlt hne hholding.copy hr hkind hunder htorn,
    h.idle, fun _ => ⟨c, r, ⟨hholding.copy_lt, ?_, hholding.fsMeta, hholding.state,
      hholding.running, hholding.started⟩, hr⟩⟩
  exact (hunder.otherCopy hlt hholding.copy_lt (Ne.symm hne)).trans hholding.copy

theorem copyAt_descErased (m : Memory) (c : Nat) (slot : FirmwareSlot) (n : Nat) :
    copyAt (m.erase (fsDescAddr slot) n) c = copyAt m c := by
  apply copyAt_congr
  apply (Memory.erase_sameOutside m (fsDescAddr slot) n).sameOn
  left
  have hmeta := fsMetaAddr_below c
  have hdesc := (fsDescAddr_le slot).1
  omega

/-- A request that settled leaves the instance with its record, whatever became of the
descriptor behind it. -/
theorem Running.recorded (h : Running K fs m) (htorn : RejectsTorn F) (hrequests : Requests fs call)
    (hsettles : Settles call) (hkind : K (requestedRecord fs call)) {n : Nat} (hn : n <= 2048) :
    Running K (FirmwareStore.recorded fs call)
      ((FirmwareStore.written m (fsMetaTarget fs.fsMeta) (requestedRecord fs call) 24).erase
        (fsDescAddr (leftSlot fs)) n) := by
  have hcall : IsBootControl call := by
    cases call <;> first | exact trivial | exact hsettles.elim
  have hvalid := requestedRecord_valid h.legalBanks hrequests
  have hunder := written_underway (F := F) hvalid.1 hvalid.2.1 m (fsMetaTarget fs.fsMeta)
  rcases h.holding hrequests.capable with ⟨c, r, hholding, hr⟩
  rcases hholding.target with ⟨hlt, hne⟩
  have hmeta := recorded_meta fs hcall
  have hfields : (requestedRecord fs call).activeBank = r.activeBank ∧
      (requestedRecord fs call).bootState = firmwareMetaStateConfirmed ∧
      Open (FirmwareStore.recorded fs call) := by
    have hactive : fs.fsMeta.activeBank = r.activeBank := by
      rw [hholding.fsMeta]
      rfl
    have hcapable := hrequests.capable
    cases call <;> first | exact ⟨hactive, rfl, hcapable, rfl⟩ | exact hsettles.elim
  refine ⟨recorded_inv h.inv hcall, ?_, fun hclosed => absurd hfields.2.2 hclosed,
    fun _ => ⟨_, _, ⟨hlt, ?_, hmeta.1, hmeta.2, ?_, ?_⟩, hkind⟩⟩
  · have hin := h.inForce.underway hholding.copy_lt hlt hne hholding.copy hr hkind hunder htorn
    unfold InForceIs
    rw [inForce_descErased _ _ hn]
    exact hin
  · rw [copyAt_descErased]
    exact copyAt_writtenAll hvalid.1 m _
  · rw [hfields.1, recorded_runningSlot]
    exact hholding.running
  · rw [hfields.2.1]
    decide

/-- Every exit of a boot-control call leaves a record of the kind in force.  The session goes
on, unless the call switched the slot to run. -/
theorem Running.bootCalled (h : Running K fs m) (htorn : RejectsTorn F)
    (hkind : Requests fs call -> K (requestedRecord fs call))
    (hexit : BootCallExit F m fs call err fs' m') :
    InForceIs K m' ∧ (¬ ((call = .activate ∨ call = .rollback) ∧ err = .ok) -> Running K fs' m') := by
  cases hexit with
  | idle _ _ => exact ⟨h.inForce, fun _ => h⟩
  | failed hrequests _ hwrite =>
      have hvalid := requestedRecord_valid h.legalBanks hrequests
      have hafter := h.written htorn hrequests (hkind hrequests)
        (hwrite.midway.underway hvalid.1 hvalid.2.1)
      exact ⟨hafter.inForce, fun _ => hafter⟩
  | done hrequests hnot =>
      have hvalid := requestedRecord_valid h.legalBanks hrequests
      have hafter := h.written htorn hrequests (hkind hrequests)
        (written_underway hvalid.1 hvalid.2.1 m _)
      refine ⟨hafter.inForce, fun hgoes => absurd ⟨?_, rfl⟩ hgoes⟩
      cases call <;> first
        | exact .inl rfl
        | exact .inr rfl
        | exact absurd trivial hnot
        | exact hrequests.elim
  | settled hrequests hsettles =>
      have hafter := h.recorded htorn hrequests hsettles (hkind hrequests) (Nat.le_refl 2048)
      exact ⟨hafter.inForce, fun _ => hafter⟩
  | unsettled n hrequests hsettles _ =>
      have hafter := h.recorded htorn hrequests hsettles (hkind hrequests)
        (Nat.min_le_right n 2048)
      exact ⟨hafter.inForce, fun _ => hafter⟩

theorem Running.bootCut (h : Running K fs m) (htorn : RejectsTorn F)
    (hkind : Requests fs call -> K (requestedRecord fs call)) (hcut : BootCallCut F m fs call m') :
    InForceIs K m' := by
  cases hcut with
  | idle => exact h.inForce
  | writing hrequests hmidway =>
      have hvalid := requestedRecord_valid h.legalBanks hrequests
      exact (h.written htorn hrequests (hkind hrequests)
        (hmidway.underway hvalid.1 hvalid.2.1)).inForce
  | settling n hrequests hsettles hn =>
      exact (h.recorded htorn hrequests hsettles (hkind hrequests) hn).inForce

/-!
## Slots in a session
-/

theorem slotSame_meta (h : Memory.SameOutside m m' (fsMetaAddr c) 2048) : SlotSame slot m m' :=
  ⟨sameOn_desc_meta h slot, (slotsLeft_meta h).image slot⟩

theorem bootCallExit_slots (hlegal : LegalBanks fs) (hexit : BootCallExit F m fs call err fs' m')
    (hspared : Spared fs call slot) : SlotSame slot m m' := by
  cases hexit with
  | idle _ _ => exact .refl slot m
  | failed _ _ hwrite => exact slotSame_meta hwrite.midway.sameOutside
  | done _ _ => exact slotSame_meta (written_sameOutside _ _ _ 24)
  | settled hrequests hsettles =>
      exact (slotSame_meta (written_sameOutside _ _ _ 24)).trans
        (slotSame_erase hspared.1 (leftSlot_ne_none hlegal hrequests.capable)
          (Ne.symm (hspared.2.2 hrequests hsettles)) (Nat.le_refl _))
  | unsettled n hrequests hsettles _ =>
      exact (slotSame_meta (written_sameOutside _ _ _ 24)).trans
        (slotSame_erase hspared.1 (leftSlot_ne_none hlegal hrequests.capable)
          (Ne.symm (hspared.2.2 hrequests hsettles)) (Nat.min_le_right _ _))

theorem bootCallCut_slots (hlegal : LegalBanks fs) (hcut : BootCallCut F m fs call m')
    (hspared : Spared fs call slot) : SlotSame slot m m' := by
  cases hcut with
  | idle => exact .refl slot m
  | writing _ hmidway => exact slotSame_meta hmidway.sameOutside
  | settling n hrequests hsettles hn =>
      exact (slotSame_meta (written_sameOutside _ _ _ 24)).trans
        (slotSame_erase hspared.1 (leftSlot_ne_none hlegal hrequests.capable)
          (Ne.symm (hspared.2.2 hrequests hsettles)) hn)

/-!
## Calls
-/

/-- A call that returns leaves a record of the kind in force and spares the slots it must.  The
session goes on unless the caller has to reset. -/
theorem Running.called (h : Running K fs m) {F : Faults storeIo} (htorn : RejectsTorn F.left)
    (hkind : Requests fs call -> K (requestedRecord fs call)) {answer : FsAnswer}
    (hexec : Program.Exec storeDevice F (fsPerform crypto fs call) (m, t) (some (answer, fs'))
      (m', t')) :
    InForceIs K m' ∧ (¬ MustReset call answer -> Running K fs' m' ∧
      SameDevice fs fs') ∧ forall slot, Spared fs call slot -> SlotSame slot m m' := by
  by_cases hcall : IsBootControl call
  · have hexit : BootCallExit F.left m fs call answer.err fs' m' :=
      Program.wp_returns (wp_bootControl hcall h.legalBanks) hexec
    have hdevice := (Program.wp_returns (wp_storeWithin (within_fsPerform h.inv call)) hexec).1
    have hafter := h.bootCalled htorn hkind hexit
    exact ⟨hafter.1, fun hgoes => ⟨hafter.2 hgoes, hdevice⟩,
      fun slot hspared => bootCallExit_slots h.legalBanks hexit hspared⟩
  · rcases Program.wp_returns (wp_storeWithin (h.within_quiet crypto hcall)) hexec with
      ⟨⟨hquiet, hidle⟩, hsame⟩
    have hflash := h.quiet_flash call hsame
    have hafter := h.quiet hquiet hidle hflash.1
    exact ⟨hafter.inForce, fun _ => ⟨hafter, hquiet.sameDevice⟩, hflash.2⟩

theorem Running.callCut (h : Running K fs m) {F : Faults storeIo} (htorn : RejectsTorn F.left)
    (hkind : Requests fs call -> K (requestedRecord fs call))
    (hexec : Program.Exec storeDevice F (fsPerform crypto fs call) (m, t) none (m', t')) :
    InForceIs K m' ∧ forall slot, Spared fs call slot -> SlotSame slot m m' := by
  by_cases hcall : IsBootControl call
  · have hcut : BootCallCut F.left m fs call m' :=
      Program.wp_crash (wp_bootControl hcall h.legalBanks) hexec
    exact ⟨h.bootCut htorn hkind hcut,
      fun slot hspared => bootCallCut_slots h.legalBanks hcut hspared⟩
  · have hsame := Program.wp_crash (wp_storeWithin (h.within_quiet crypto hcall)) hexec
    have hflash := h.quiet_flash call hsame
    refine ⟨?_, hflash.2⟩
    unfold InForceIs
    rw [inForce_congr (hflash.1 0) (hflash.1 1)]
    exact h.inForce

end

/-!
## The run rule
-/

/-- A kind of records in force and a fact about the slots that no step of a life leaves. -/
structure RunKeeps (ok : Faults iflash -> Prop) (may : FsCall -> Prop)
    (K : FirmwareBootMeta -> Prop) (Q : Memory -> Prop) : Prop where
  torn : forall F, ok F -> RejectsTorn F
  boot : forall F m c r, ok F -> Q m -> inForce m = some (c, r) -> K r -> BootKeeps K F m c r
  booted : forall m m', (forall bank, Bootable m' bank ↔ Bootable m bank) -> Q m -> Q m'
  request : forall fs m call, Running K fs m -> may call -> Requests fs call ->
    K (requestedRecord fs call)
  called : forall fs m m' call, Running K fs m -> may call ->
    (forall slot, Spared fs call slot -> SlotSame slot m m') -> Q m -> Q m'

/-- What such a kind and fact mean in each phase. -/
def PhaseKept (K : FirmwareBootMeta -> Prop) (Q : Memory -> Prop) : DevicePhase -> Memory -> Prop
  | .up fs, m => Running K fs m ∧ Q m
  | _, m => InForceIs K m ∧ Q m

variable {m : Memory} {phase : DevicePhase} {Q : Memory -> Prop} {K : FirmwareBootMeta -> Prop}

theorem phaseKept_flash (h : PhaseKept K Q phase m) : InForceIs K m ∧ Q m := by
  cases phase with
  | off => exact h
  | booted report => exact h
  | up fs => exact ⟨h.1.inForce, h.2⟩

theorem DeviceRun.kept {crypto : OtaCrypto} {ok : Faults iflash -> Prop} {may : FsCall -> Prop}
    {phase₀ : DevicePhase} {m₀ : Memory} (hkeeps : RunKeeps ok may K Q)
    (hrun : DeviceRun crypto ok may phase₀ m₀ phase m) (h : PhaseKept K Q phase₀ m₀) :
    PhaseKept K Q phase m := by
  induction hrun with
  | start => exact h
  | boot _ hok hexec ih =>
      rcases ih with ⟨⟨c, r, hforce, hr⟩, hQ⟩
      have hafter := bootExit_kept (Program.wp_returns wp_bootCoreRun hexec) (hkeeps.torn _ hok)
        hforce hr (hkeeps.boot _ _ _ _ hok hQ hforce hr)
      exact ⟨hafter.1, hkeeps.booted _ _ hafter.2 hQ⟩
  | bootCut _ hok hexec ih =>
      rcases ih with ⟨⟨c, r, hforce, hr⟩, hQ⟩
      have hafter := bootCut_kept (Program.wp_crash wp_bootCoreRun hexec) (hkeeps.torn _ hok)
        hforce hr (hkeeps.boot _ _ _ _ hok hQ hforce hr)
      exact ⟨hafter.1, hkeeps.booted _ _ hafter.2 hQ⟩
  | reset _ ih => exact phaseKept_flash ih
  | create _ _ _ hexec ih =>
      rename_i F m m' report fs _ _ _
      rcases ih with ⟨hin, hQ⟩
      rcases Program.wp_returns (reads_firmwareStoreCreate F m report.slotBase) hexec with
        ⟨hsame, hfs | ⟨hnone, _⟩⟩
      · subst hsame
        cases hfs
        exact ⟨running_created hin _, hQ⟩
      · cases hnone
  | call _ hmay hok hexec ih =>
      rcases ih with ⟨hrunning, hQ⟩
      have hafter := hrunning.called (hkeeps.torn _ hok)
        (fun hrequests => hkeeps.request _ _ _ hrunning hmay hrequests) hexec
      have hslots := hkeeps.called _ _ _ _ hrunning hmay hafter.2.2 hQ
      split
      · exact ⟨hafter.1, hslots⟩
      · rename_i hgoes
        exact ⟨(hafter.2.1 hgoes).1, hslots⟩
  | callCut _ hmay hok hexec ih =>
      rcases ih with ⟨hrunning, hQ⟩
      have hafter := hrunning.callCut (hkeeps.torn _ hok)
        (fun hrequests => hkeeps.request _ _ _ hrunning hmay hrequests) hexec
      exact ⟨hafter.1, hkeeps.called _ _ _ _ hrunning hmay hafter.2 hQ⟩

/-!
## A small update
-/

/-- A confirmed image in slot A. -/
def settledRecord (count generation : UInt32) : FirmwareBootMeta :=
  fsMetaRecord firmwareBankA firmwareMetaStateConfirmed firmwareBankB count generation

theorem settledRecord_valid (count generation : UInt32) :
    RecordIsValid (settledRecord count generation) :=
  fsMetaRecord_valid (.inl rfl) (.inr rfl) metaStateLegal_confirmed

def settledDevice (count generation : UInt32) : FsInst × Memory :=
  (createdStore (deviceFlash .a (settledRecord count generation)) firmwareSlotABase,
    deviceFlash .a (settledRecord count generation))

def updateStaging : (qspiFlash.sum cryptoDevice).State :=
  sampleStaging 1 (smallImage .b)

/-- The device with the staged image installed. -/
def settledInstalled (count generation : UInt32) : FsInst × Memory :=
  callSample updateStaging .installStep (callSample updateStaging .installBegin
    (callSample updateStaging .verify (callSample updateStaging (.resume 1 136)
      (settledDevice count generation))))

/-- The flash with the installed image activated. -/
def settledActivated (count generation : UInt32) : Memory :=
  (callSample updateStaging .activate (settledInstalled count generation)).2

section

variable {ok : Faults iflash -> Prop} {count generation : UInt32}

theorem life_called {m₀ : Memory} {s : FsInst × Memory} (hnever : ok (Faults.never iflash))
    (call : FsCall) (h : DeviceRun openCrypto ok (fun _ => True) .off m₀ (.up s.1) s.2) :
    DeviceRun openCrypto ok (fun _ => True) .off m₀
      (if MustReset call (sampleAnswer updateStaging call s) then .off
        else .up (callSample updateStaging call s).1) (callSample updateStaging call s).2 :=
  h.call (F := Faults.never storeIo) trivial hnever
    (Program.exec_eval storeDevice (Faults.never storeIo) _ _)

theorem life_installed (count generation : UInt32) (hnever : ok (Faults.never iflash)) :
    DeviceRun openCrypto ok (fun _ => True) .off (deviceFlash .a (settledRecord count generation))
      (.up (settledInstalled count generation).1) (settledInstalled count generation).2 := by
  have hforce := inForce_deviceFlash .a (settledRecord_valid count generation)
  have hstate : (settledRecord count generation).bootState = firmwareMetaStateConfirmed := rfl
  rcases boot_settled hforce (by rw [hstate]; decide) (by rw [hstate]; decide)
    (bootable_deviceFlash .a (settledRecord count generation)) with ⟨start, _, heval⟩
  have hstart : DeviceRun openCrypto ok (fun _ => True) .off
      (deviceFlash .a (settledRecord count generation)) .off
      (deviceFlash .a (settledRecord count generation)) := .start
  have hup := (hstart.boot hnever (Program.exec_of_eval heval)).create (finish_outcome _ _ _)
    hnever (Program.exec_of_eval (reads_firmwareStoreCreate (Faults.never iflash)
      (deviceFlash .a (settledRecord count generation)) firmwareSlotABase).eval_eq)
  have hquiet : forall {call : FsCall} {s : FsInst × Memory}, ¬ IsBootControl call ->
      ¬ MustReset call (sampleAnswer updateStaging call s) := by
    rintro call s hcall ⟨hactivate | hrollback, _⟩
    · exact hcall (by rw [hactivate]; trivial)
    · exact hcall (by rw [hrollback]; trivial)
  have hresumed := life_called (s := settledDevice count generation) hnever (.resume 1 136) hup
  rw [if_neg (hquiet id)] at hresumed
  have hverified := life_called hnever .verify hresumed
  rw [if_neg (hquiet id)] at hverified
  have hbegun := life_called hnever .installBegin hverified
  rw [if_neg (hquiet id)] at hbegun
  have hinstalled := life_called hnever .installStep hbegun
  rw [if_neg (hquiet id)] at hinstalled
  exact hinstalled

theorem life_activated (hnever : ok (Faults.never iflash))
    (hok : (sampleAnswer updateStaging .activate (settledInstalled count generation)).err = .ok) :
    DeviceRun openCrypto ok (fun _ => True) .off (deviceFlash .a (settledRecord count generation))
      .off (settledActivated count generation) := by
  have hactivated := life_called hnever .activate (life_installed count generation hnever)
  rw [if_pos ⟨.inl rfl, hok⟩] at hactivated
  exact hactivated

end

end EnvMonitor.Gateway.FirmwareStore
