import EnvMonitor.Gateway.FirmwareStore.Resume

/-!
# The calls of the store, one by one

What UpdateService relies on: in which state of the instance a call is not refused, and in which
one it leaves it, with what is then staged.
-/

namespace EnvMonitor.Gateway.UpdateService

open Device Drivers FirmwareStore
open Program (wp wp_and wp_mono wp_seq)

/-- The device may be updated and runs a confirmed image. -/
structure Confirmed (fs : FsInst) : Prop where
  capable : fs.boot.otaCapable = true
  state : fs.boot.state = .confirmed

/-- What holds after each call. -/
structure StageKept (files : UInt32 -> List UInt8) (fs : FsInst) (flash : Memory) : Prop where
  stage : StageInv files fs flash
  inv : StoreInv fs

/-- What holds after each call that is no boot control. -/
structure Settled (files : UInt32 -> List UInt8) (fs fs' : FsInst) (flash : Memory) :
    Prop extends StageKept files fs' flash where
  boot : fs'.boot = fs.boot

variable {fs : FsInst}

theorem Settled.confirmed {files : UInt32 -> List UInt8} {fs' : FsInst} {flash : Memory}
    (h : Settled files fs fs' flash) (hconfirmed : Confirmed fs) : Confirmed fs' := by
  constructor
  · rw [h.boot]
    exact hconfirmed.capable
  · rw [h.boot]
    exact hconfirmed.state

theorem confirmed_of_check {imageId : UInt32} {fileLen : Nat}
    (h : sessionCheck fs imageId fileLen = .ok) : Confirmed fs :=
  ⟨(sessionCheck_ok_iff.mp h).1, (sessionCheck_ok_iff.mp h).2.1⟩

section

variable {crypto : OtaCrypto} {files : UInt32 -> List UInt8} {fs : FsInst}
variable {F : Faults storeIo} {bank m : Memory} {u : Unit} {imageId : UInt32} {fileLen : Nat}

/-!
## The staging area
-/

theorem within_doBegin_ok : StoreWithin nowhere
    (fun out => out.1 = .ok -> sessionCheck fs imageId fileLen = .ok ∧ out.2.op = .receiving ∧
      out.2.imageId = imageId ∧ out.2.fileLen = fileLen ∧ out.2.writeOffset = 0)
    (doBegin fs imageId fileLen) := by
  unfold doBegin
  apply Program.within_ite
  · intro hcheck hok
    exact absurd hok hcheck
  · intro hcheck
    refine (within_onStaging _).bind fun out _ => ?_
    rcases out with ⟨err, next⟩
    apply Program.within_ite
    · intro _ _
      exact ⟨not_not.mp hcheck, rfl, rfl, rfl, rfl⟩
    · intro hbad hok
      exact absurd hok hbad

theorem wp_begin (h : StageInv files fs m) (hinv : StoreInv fs) :
    (fsPerform crypto fs (.begin imageId fileLen)).wp storeDevice F
      (fun out s' => Settled files fs out.2 s'.2.1 ∧ (out.1.err = .ok ->
        Confirmed fs ∧ Continuing files out.2 s'.2.1 imageId fileLen 0))
      (fun s' => JournalSound files s'.2.1) (bank, m, u) := by
  apply wp_seq (wp_mono (fun _ _ h => h) (fun _ h => h.2)
    (wp_and (wp_storeWithin (@within_doBegin fs imageId fileLen))
      (wp_mono (fun _ _ h => h) (fun _ h => h.2)
        (wp_and (wp_storeWithin within_doBegin_ok) (wp_doBegin h)))))
  intro out s' hout
  rcases hout with ⟨⟨hgiven, _⟩, ⟨hshape, _⟩, hstage⟩
  have hquiet := hgiven.quiet hinv
  constructor
  · exact ⟨⟨hstage, hquiet.inv⟩, hquiet.kept.1⟩
  · intro hok
    rcases hshape hok with ⟨hcheck, hop, himage, hlen, hoffset⟩
    have hcontinuing := hstage.continuing hop
    rw [himage, hlen, hoffset] at hcontinuing
    exact ⟨confirmed_of_check hcheck, hcontinuing⟩

theorem wp_resume (h : StageInv files fs m) (hinv : StoreInv fs) :
    (fsPerform crypto fs (.resume imageId fileLen)).wp storeDevice F
      (fun out s' => Settled files fs out.2 s'.2.1 ∧ (out.1.err = .ok -> Confirmed fs ∧
        exists c, out.1.offset = some c ∧ Continuing files out.2 s'.2.1 imageId fileLen c))
      (fun s' => JournalSound files s'.2.1) (bank, m, u) := by
  by_cases hcheck : sessionCheck fs imageId fileLen = .ok
  · apply wp_seq (wp_mono (fun _ _ h => h) (fun _ h => h.2)
      (wp_and (wp_storeWithin (@within_doResume fs imageId fileLen))
        (wp_doResume h)))
    intro out s' hout
    rcases out with ⟨⟨err, offset⟩, after⟩
    rcases hout with ⟨⟨hgiven, _⟩, hstage, hok⟩
    have hquiet := hgiven.quiet hinv
    constructor
    · exact ⟨⟨hstage, hquiet.inv⟩, hquiet.kept.1⟩
    · intro herr
      rcases hok herr with ⟨c, hc, _, hcontinuing⟩
      exact ⟨confirmed_of_check hcheck, c, hc, hcontinuing⟩
  · change wp _ _ _ _ (doResume fs imageId fileLen >>= _) _
    unfold doResume
    rw [if_pos hcheck]
    exact ⟨⟨⟨h, hinv⟩, rfl⟩, fun hok => absurd hok hcheck⟩

variable {pos : Nat} {Q : FirmwareStoreErr × FsInst -> Prop} {A : Nat -> Prop}
variable {p : StoreIo (FirmwareStoreErr × FsInst)} {fs' : FsInst}

theorem wp_write {data : List UInt8} (h : Continuing files fs m imageId fileLen pos)
    (hinv : StoreInv fs) (hdata : data = ((files imageId).drop pos).take data.length)
    (hlen : data.length ≠ 0) (hfits : data.length <= fileLen - pos) :
    (fsPerform crypto fs (.writeChunk pos data)).wp storeDevice F
      (fun out s' => Settled files fs out.2 s'.2.1 ∧ (out.1.err = .ok ->
        Continuing files out.2 s'.2.1 imageId fileLen (pos + data.length)))
      (fun s' => JournalSound files s'.2.1) (bank, m, u) := by
  apply wp_seq (wp_mono (fun _ _ h => h) (fun _ h => h.2)
    (wp_and (wp_storeWithin (@within_doWriteChunk fs pos data))
      (wp_chunk h hdata hlen hfits)))
  intro out s' hout
  rcases hout with ⟨⟨hgiven, _⟩, hstage, hok, _⟩
  have hquiet := hgiven.quiet hinv
  exact ⟨⟨⟨hstage, hquiet.inv⟩, hquiet.kept.1⟩, fun herr => (hok herr).1⟩

theorem wp_discard (h : StageInv files fs m) (hinv : StoreInv fs) :
    (fsPerform crypto fs .discard).wp storeDevice F
      (fun out s' => Settled files fs out.2 s'.2.1) (fun s' => JournalSound files s'.2.1)
      (bank, m, u) := by
  apply wp_seq (wp_mono (fun _ _ h => h) (fun _ h => h.2)
    (wp_and (wp_storeWithin (@within_doDiscard fs)) (wp_doDiscard h)))
  intro out s' hout
  have hquiet := hout.1.1.quiet hinv
  exact ⟨⟨hout.2, hquiet.inv⟩, hquiet.kept.1⟩

/-!
## Verification and installation
-/

theorem wp_reading (h : StageInv files fs m) (hp : StoreReading A Q p) :
    (p >>= fun out => pure (fsCodeOnly out)).wp storeDevice F
      (fun out s' => s'.2.1 = m ∧ Q (out.1.err, out.2)) (fun s' => JournalSound files s'.2.1)
      (bank, m, u) := by
  apply wp_seq (wp_mono (fun _ _ h => h) (fun s' hs' => by
    rw [hs'.2]
    exact h.sound) (wp_storeReading hp))
  intro out s' hout
  constructor
  · rw [hout.2.2]
  · exact hout.1

theorem wp_verify (h : StageInv files fs m) (hinv : StoreInv fs) :
    (fsPerform crypto fs .verify).wp storeDevice F
      (fun out s' => Settled files fs out.2 s'.2.1 ∧ (out.1.err ≠ .ok -> out.2 = fs ∧ s'.2.1 = m) ∧
        (out.1.err = .ok -> out.2.op = .verified))
      (fun s' => JournalSound files s'.2.1) (bank, m, u) := by
  apply wp_mono _ (fun _ h => h) (wp_reading h (@within_doVerify crypto fs hinv))
  intro out s' hout
  rcases hout with ⟨hflash, ⟨hkept, hinv'⟩, hbad, hok⟩
  rw [hflash]
  by_cases herr : out.1.err = .ok
  · rcases hok herr with ⟨raw, _, _, _, _, hverified⟩
    have hop : out.2.op = .verified := congrArg FsInst.op hverified
    exact ⟨⟨⟨StageInv.of_idle h.sound (by rw [hop]; decide), hinv'⟩, hkept.1⟩,
      fun hbad => absurd herr hbad, fun _ => hop⟩
  · have hsame : out.2 = fs := hbad herr
    refine ⟨⟨⟨?_, hinv'⟩, hkept.1⟩, fun _ => ⟨hsame, rfl⟩, fun hok => absurd hok herr⟩
    rw [hsame]
    exact h

theorem wp_installBegin (h : StageInv files fs m) (hinv : StoreInv fs) (hop : fs.op = .verified) :
    (fsPerform crypto fs .installBegin).wp storeDevice F
      (fun out s' => Settled files fs out.2 s'.2.1 ∧ (out.1.err ≠ .ok -> out.2.op = .verified) ∧
        (out.1.err = .ok -> out.2.op = .installing ∧ out.2.installPage = 0))
      (fun s' => JournalSound files s'.2.1) (bank, m, u) := by
  apply wp_mono _ (fun _ h => h) (wp_reading h (within_doInstallBegin hinv))
  intro out s' hout
  rcases hout with ⟨hflash, ⟨hkept, hinv'⟩, hbad, hok⟩
  rw [hflash]
  by_cases herr : out.1.err = .ok
  · have hstarted : out.2 = installStarted fs := (hok herr).2
    have hinstalling : out.2.op = .installing := by
      rw [hstarted]
      rfl
    refine ⟨⟨⟨StageInv.of_idle h.sound (by rw [hinstalling]; decide), hinv'⟩, hkept.1⟩,
      fun hbad => absurd herr hbad, fun _ => ⟨hinstalling, ?_⟩⟩
    rw [hstarted]
    rfl
  · have hsame : out.2 = fs := hbad herr
    refine ⟨⟨⟨?_, hinv'⟩, hkept.1⟩, fun _ => ?_, fun hok => absurd hok herr⟩
    · rw [hsame]
      exact h
    · rw [hsame]
      exact hop

/-- What a step of the installation answers, and what it leaves. -/
structure Stepped (fs : FsInst) (err : FirmwareStoreErr) (done : Bool)
    (fs' : FsInst) : Prop where
  failed : err ≠ .ok -> fs'.op = .verified
  finished : err = .ok -> done = true -> fs'.op = .installed
  more : err = .ok -> done = false -> fs'.op = .installing ∧
    fs'.installPage = fs.installPage + 1 ∧ fs'.imageLen = fs.imageLen

theorem within_doInstallStep_op (hop : fs.op = .installing) :
    StoreReading (fun _ => True) (fun out => Stepped fs out.1.1 out.1.2 out.2)
      (doInstallStep crypto fs) := by
  have hshort : min (fs.imageLen - fs.installPage * fsPageBytes) fsPageBytes <= fsPageBytes :=
    Nat.min_le_right _ _
  unfold doInstallStep
  rw [if_neg (not_not.mpr hop)]
  refine (within_widen (within_installPageCopy _ hshort) fun _ _ => trivial).bind
    fun out hout => ?_
  rcases out with ⟨copied, after⟩
  have hfed : copied = .ok -> after.op = .installing ∧ after.installPage = fs.installPage ∧
      after.imageLen = fs.imageLen := by
    intro hok
    rcases hout.2 hok with ⟨page, _, hpage⟩
    change after = pageFed fs page at hpage
    subst hpage
    exact ⟨hop, rfl, rfl⟩
  apply Program.within_ite
  · intro hbad
    exact ⟨fun _ => rfl, fun hok => absurd hok hbad, fun hok => absurd hok hbad⟩
  · intro hcopied
    rcases hfed (not_not.mp hcopied) with ⟨hinstalling, hpage, hlen⟩
    apply Program.within_ite
    · intro _
      refine (within_widen (within_installFinish after) fun _ _ => trivial).bind
        fun sealed' _ => ?_
      apply Program.within_ite
      · intro hbad
        refine (within_widen (within_onFlash (within_fsDescErase after.targetSlot))
          fun _ _ => trivial).bind fun _ _ => ?_
        exact ⟨fun _ => rfl, fun hok => absurd hok hbad, fun hok => absurd hok hbad⟩
      · intro _
        exact ⟨fun hbad => absurd rfl hbad, fun _ _ => rfl, fun _ hmore => (by cases hmore)⟩
    · intro _
      refine ⟨fun hbad => absurd rfl hbad, fun _ hdone => (by cases hdone), fun _ _ => ?_⟩
      exact ⟨hinstalling, congrArg (· + 1) hpage, hlen⟩

theorem Stepped.not_receiving {err : FirmwareStoreErr} {done : Bool} (h : Stepped fs err done fs') :
    fs'.op ≠ .receiving := by
  by_cases herr : err = .ok
  · cases done with
    | true =>
        rw [h.finished herr rfl]
        decide
    | false =>
        rw [(h.more herr rfl).1]
        decide
  · rw [h.failed herr]
    decide

theorem wp_installStep (h : StageInv files fs m) (hinv : StoreInv fs)
    (hop : fs.op = .installing) :
    (fsPerform crypto fs .installStep).wp storeDevice F
      (fun out s' => Settled files fs out.2 s'.2.1 ∧ Stepped fs out.1.err out.1.done out.2)
      (fun s' => JournalSound files s'.2.1) (bank, m, u) := by
  apply wp_seq (wp_mono (fun _ _ h => h) (fun s' hs' => by
    rw [hs'.1.2]
    exact h.sound) (wp_and
      (wp_storeReading (@within_doInstallStep crypto fs hinv))
      (wp_storeReading (@within_doInstallStep_op crypto fs hop))))
  intro out s' hout
  rcases out with ⟨⟨err, done⟩, after⟩
  rcases hout with ⟨⟨hquiet, _, hflash⟩, hstepped, _⟩
  have hstage : StageInv files after s'.2.1 := by
    rw [hflash]
    exact .of_idle h.sound hstepped.not_receiving
  exact ⟨⟨⟨hstage, hquiet.inv⟩, hquiet.kept.1⟩, hstepped⟩

/-!
## Boot control
-/

/-- The session of one instance is that of the other. -/
structure SameSession (fs fs' : FsInst) : Prop where
  op : fs'.op = fs.op
  imageId : fs'.imageId = fs.imageId
  fileLen : fs'.fileLen = fs.fileLen
  writeOffset : fs'.writeOffset = fs.writeOffset
  journalNext : fs'.journalNext = fs.journalNext

theorem SameSession.refl (fs : FsInst) : SameSession fs fs :=
  ⟨rfl, rfl, rfl, rfl, rfl⟩

theorem SameSession.continuing (h : SameSession fs fs')
    (hcontinuing : Continuing files fs m imageId fileLen pos) :
    Continuing files fs' m imageId fileLen pos where
  sameImage := h.imageId.trans hcontinuing.sameImage
  sameLen := h.fileLen.trans hcontinuing.sameLen
  offset := h.writeOffset.trans hcontinuing.offset
  op := h.op.trans hcontinuing.op
  inside := hcontinuing.inside
  ready := by
    rw [h.journalNext]
    exact hcontinuing.ready
  accepted := hcontinuing.accepted

theorem SameSession.stage (h : SameSession fs fs') (hstage : StageInv files fs m) :
    StageInv files fs' m := by
  constructor
  · exact hstage.sound
  · intro hop
    rw [h.imageId, h.fileLen, h.writeOffset]
    exact h.continuing (hstage.continuing (h.op.symm.trans hop))

theorem reading_onFlash {α : Type} (p : IFlash α) :
    StoreReading (fun _ => True) (fun _ => True) (onFlash p) := by
  apply within_onFlash
  apply Program.Within.mono (Program.within_true p) _ (fun _ h => h)
  intro op _
  cases op with
  | read addr len => trivial
  | program addr data => exact fun _ _ _ => trivial
  | erasePage addr => exact fun _ _ _ => trivial

theorem reading_settleConfirmed : StoreReading (fun _ => True)
    (fun out => SameSession fs out.2) (settleConfirmed fs) := by
  unfold settleConfirmed
  refine (reading_onFlash _).bind fun out _ => ?_
  rcases out with ⟨err, fsMeta⟩
  apply Program.within_ite
  · intro _
    exact ⟨rfl, rfl, rfl, rfl, rfl⟩
  · intro _
    refine (reading_onFlash _).bind fun _ _ => ?_
    exact ⟨rfl, rfl, rfl, rfl, rfl⟩

theorem reading_doConfirm : StoreReading (fun _ => True)
    (fun out => SameSession fs out.2) (doConfirm fs) := by
  unfold doConfirm
  apply Program.within_ite
  · exact fun _ => .refl fs
  · intro _
    apply Program.within_ite
    · exact fun _ => .refl fs
    · intro _
      apply Program.within_ite
      · exact fun _ => reading_settleConfirmed
      · exact fun _ => .refl fs

theorem reading_doAcknowledgeRollback : StoreReading (fun _ => True)
    (fun out => SameSession fs out.2) (doAcknowledgeRollback fs) := by
  unfold doAcknowledgeRollback
  apply Program.within_ite
  · exact fun _ => .refl fs
  · intro _
    apply Program.within_ite
    · exact fun _ => .refl fs
    · intro _
      apply Program.within_ite
      · exact fun _ => reading_settleConfirmed
      · exact fun _ => .refl fs

theorem reading_doRollback : StoreReading (fun _ => True)
    (fun out => SameSession fs out.2 ∧ (fs.boot.state = .confirmed -> out.2 = fs))
    (doRollback fs) := by
  unfold doRollback
  apply Program.within_ite
  · exact fun _ => ⟨.refl fs, fun _ => rfl⟩
  · intro _
    apply Program.within_ite
    · exact fun _ => ⟨.refl fs, fun _ => rfl⟩
    · intro htrial
      refine (reading_onFlash _).bind fun out _ => ?_
      rcases out with ⟨err, fsMeta⟩
      have hnot : fs.boot.state ≠ .confirmed := by
        rw [not_not.mp htrial]
        decide
      apply Program.within_ite
      · exact fun _ => ⟨⟨rfl, rfl, rfl, rfl, rfl⟩, fun h => absurd h hnot⟩
      · exact fun _ => ⟨⟨rfl, rfl, rfl, rfl, rfl⟩, fun h => absurd h hnot⟩

theorem reading_doActivate : StoreReading (fun _ => True)
    (fun out => out.2.op = .activated ∨ SameSession fs out.2) (doActivate fs) := by
  unfold doActivate
  apply Program.within_ite
  · exact fun _ => .inr (.refl fs)
  · intro _
    apply Program.within_ite
    · exact fun _ => .inr (.refl fs)
    · intro _
      refine (reading_onFlash _).bind fun out _ => ?_
      rcases out with ⟨err, fsMeta⟩
      apply Program.within_ite
      · exact fun _ => .inl rfl
      · exact fun _ => .inr ⟨rfl, rfl, rfl, rfl, rfl⟩

theorem wp_control (h : StageInv files fs m)
    (hwithin : StoreWithin A (fun out => SameDevice fs out.2) p)
    (hreading : StoreReading (fun _ => True) Q p) :
    (p >>= fun out => pure (fsCodeOnly out)).wp storeDevice F
      (fun out s' => s'.2.1 = m ∧ StoreInv out.2 ∧ Q (out.1.err, out.2))
      (fun s' => JournalSound files s'.2.1) (bank, m, u) := by
  apply wp_seq (wp_mono (fun _ _ h => h) (fun s' hs' => by
    rw [hs'.2.2]
    exact h.sound) (wp_and (wp_storeWithin hwithin) (wp_storeReading hreading)))
  intro out s' hout
  rcases hout with ⟨⟨hsame, _⟩, hQ, _, hflash⟩
  constructor
  · rw [hflash]
  · exact ⟨hsame.inv, hQ⟩

theorem wp_activate (h : StageInv files fs m) (hinv : StoreInv fs) (hop : fs.op = .installed) :
    (fsPerform crypto fs .activate).wp storeDevice F
      (fun out s' => StageKept files out.2 s'.2.1)
      (fun s' => JournalSound files s'.2.1) (bank, m, u) := by
  apply wp_mono _ (fun _ h => h) (wp_control h (within_doActivate hinv)
    reading_doActivate)
  intro out s' hout
  rcases hout with ⟨hflash, hinv', hactivated | hsame⟩
  · rw [hflash]
    exact ⟨StageInv.of_idle h.sound (by rw [hactivated]; decide), hinv'⟩
  · rw [hflash]
    exact ⟨StageInv.of_idle h.sound (by rw [hsame.op, hop]; decide), hinv'⟩

theorem wp_confirm (h : StageInv files fs m) (hinv : StoreInv fs) :
    (fsPerform crypto fs .confirm).wp storeDevice F
      (fun out s' => StageKept files out.2 s'.2.1)
      (fun s' => JournalSound files s'.2.1) (bank, m, u) := by
  apply wp_mono _ (fun _ h => h) (wp_control h (within_doConfirm hinv)
    reading_doConfirm)
  intro out s' hout
  rcases hout with ⟨hflash, hinv', hsession⟩
  rw [hflash]
  exact ⟨hsession.stage h, hinv'⟩

theorem wp_acknowledge (h : StageInv files fs m) (hinv : StoreInv fs) :
    (fsPerform crypto fs .acknowledgeRollback).wp storeDevice F
      (fun out s' => StageKept files out.2 s'.2.1)
      (fun s' => JournalSound files s'.2.1) (bank, m, u) := by
  apply wp_mono _ (fun _ h => h) (wp_control h
    (within_doAcknowledgeRollback hinv) reading_doAcknowledgeRollback)
  intro out s' hout
  rcases hout with ⟨hflash, hinv', hsession⟩
  rw [hflash]
  exact ⟨hsession.stage h, hinv'⟩

theorem wp_rollback (h : StageInv files fs m) (hinv : StoreInv fs) :
    (fsPerform crypto fs .rollback).wp storeDevice F
      (fun out s' => StageKept files out.2 s'.2.1 ∧ s'.2.1 = m ∧
        (fs.boot.state = .confirmed -> out.2 = fs))
      (fun s' => JournalSound files s'.2.1) (bank, m, u) := by
  apply wp_mono _ (fun _ h => h) (wp_control h (within_doRollback hinv)
    reading_doRollback)
  intro out s' hout
  rcases hout with ⟨hflash, hinv', hsession, hsame⟩
  rw [hflash]
  exact ⟨⟨hsession.stage h, hinv'⟩, rfl, hsame⟩

end

end EnvMonitor.Gateway.UpdateService
