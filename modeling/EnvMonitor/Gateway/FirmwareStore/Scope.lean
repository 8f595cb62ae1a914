import EnvMonitor.Gateway.FirmwareStore.Agreement

/-!
# What an operation of the store can touch

Which on-chip addresses each operation can erase or program, and what it can leave in the
instance, whatever the flashes and the crypto library answer.
-/

namespace EnvMonitor.Gateway.FirmwareStore

open Device Drivers Gateway.ConfigStore Bootloader

/-!
## Address sets
-/

/-- A call erases and programs nothing outside `A`. -/
def OnlyAt (A : Nat -> Prop) : IFlashOp -> Prop
  | .read _ _ => True
  | .program addr data => forall x, addr <= x -> x < addr + data.length -> A x
  | .erasePage addr => forall x, addr <= x -> x < addr + internalFlashPageSizeBytes -> A x

/-- The calls that leave the staging flash alone. -/
def StagingReads : QspiOp -> Prop
  | .read _ _ => True
  | .writePage _ _ => False
  | .eraseSector _ => False

/-- On-chip calls inside `A`, calls of the staging flash from `B`, and any call of the crypto
library. -/
def StoreOnlyAt (A : Nat -> Prop) (B : QspiOp -> Prop) : storeIo.Op -> Prop :=
  Sum.elim (OnlyAt A) (Sum.elim B fun _ => True)

/-- A read that answers bytes answers as many as were asked for. -/
def iflashAnswer : (op : IFlashOp) -> IFlashResp op -> Prop
  | .read _ len, r => forall bytes, r = some bytes -> bytes.length = len
  | .program _ _, _ => True
  | .erasePage _, _ => True

def qspiAnswer : (op : QspiOp) -> QspiResp op -> Prop
  | .read _ len, r => forall bytes, r = some bytes -> bytes.length = len
  | .writePage _ _, _ => True
  | .eraseSector _, _ => True

abbrev storeAnswer : (op : storeIo.Op) -> storeIo.Resp op -> Prop :=
  Program.eitherAnswer iflashAnswer (Program.eitherAnswer qspiAnswer fun _ _ => True)

/-- Whatever the on-chip flash answers, `p` touches only `A` and answers by `Q`. -/
abbrev FlashWithin {α : Type} (A : Nat -> Prop) (Q : α -> Prop) (p : IFlash α) : Prop :=
  Program.Within iflashAnswer (OnlyAt A) Q p

/-- Whatever the devices answer, `p` touches only `A` of the on-chip flash and answers by
`Q`. -/
abbrev StoreWithin {α : Type} (A : Nat -> Prop) (Q : α -> Prop) (p : StoreIo α) : Prop :=
  Program.Within storeAnswer (StoreOnlyAt A fun _ => True) Q p

/-- The same, with reads only of the staging flash. -/
abbrev StoreReading {α : Type} (A : Nat -> Prop) (Q : α -> Prop) (p : StoreIo α) : Prop :=
  Program.Within storeAnswer (StoreOnlyAt A StagingReads) Q p

def nowhere (_ : Nat) : Prop := False

/-- The page of a slot's descriptor. -/
def descArea (slot : FirmwareSlot) (x : Nat) : Prop :=
  fsDescAddr slot <= x ∧ x < fsDescAddr slot + 2048

/-- The pages of a slot's image. -/
def imageArea (slot : FirmwareSlot) (x : Nat) : Prop :=
  fsSlotBase slot <= x ∧ x < fsSlotBase slot + firmwareSlotSize

/-- The page of a copy of the boot record. -/
def metaArea (c : Nat) (x : Nat) : Prop :=
  fsMetaAddr c <= x ∧ x < fsMetaAddr c + 2048

/-- The flash is as `m` outside `A`. -/
def SameBut (m : Memory) (A : Nat -> Prop) (m' : Memory) : Prop :=
  forall x, ¬ A x -> m' x = m x

section

variable {A A' : Nat -> Prop} {m m' : Memory}

theorem OnlyAt.mono {op : IFlashOp} (h : OnlyAt A op) (hsub : forall x, A x -> A' x) :
    OnlyAt A' op := by
  cases op with
  | read addr len => trivial
  | program addr data => exact fun x hlo hhi => hsub x (h x hlo hhi)
  | erasePage addr => exact fun x hlo hhi => hsub x (h x hlo hhi)

variable {op : storeIo.Op} {B : QspiOp -> Prop} {α : Type} {addr n : Nat}

theorem StoreOnlyAt.mono {B' : QspiOp -> Prop} (h : StoreOnlyAt A B op)
    (hsub : forall x, A x -> A' x) (hstaging : forall op, B op -> B' op) :
    StoreOnlyAt A' B' op := by
  cases op with
  | inl op => exact OnlyAt.mono h hsub
  | inr op =>
      cases op with
      | inl op => exact hstaging op h
      | inr op => trivial

theorem within_widen {Q : α -> Prop} {p : StoreIo α}
    (h : Program.Within storeAnswer (StoreOnlyAt A B) Q p) (hsub : forall x, A x -> A' x) :
    Program.Within storeAnswer (StoreOnlyAt A' B) Q p :=
  h.mono (fun _ hop => hop.mono hsub fun _ hB => hB) fun _ hQ => hQ

theorem within_of_reading {Q : α -> Prop} {p : StoreIo α} (h : StoreReading A Q p) :
    StoreWithin A Q p :=
  h.mono (fun _ hop => hop.mono (fun _ hA => hA) fun _ _ => trivial) fun _ hQ => hQ

theorem SameBut.mono (h : SameBut m A m') (hsub : forall x, A x -> A' x) : SameBut m A' m' :=
  fun x hx => h x fun hA => hx (hsub x hA)

theorem SameBut.trans {m'' : Memory} (h : SameBut m A m') (h' : SameBut m' A m'') :
    SameBut m A m'' :=
  fun x hx => (h' x hx).trans (h x hx)

theorem SameBut.sameOn {a : Nat} (h : SameBut m A m')
    (hout : forall x, a <= x -> x < a + n -> ¬ A x) : Memory.SameOn m m' a n :=
  fun x hlo hhi => h x (hout x hlo hhi)

theorem sameBut_program {data : List UInt8}
    (h : forall x, addr <= x -> x < addr + data.length -> A x) :
    SameBut m A (iflashProgramPart addr data n m) := by
  intro x hx
  unfold iflashProgramPart
  split
  · apply Memory.program_sameOutside
    rw [List.length_take]
    by_cases hlo : x < addr
    · exact .inl hlo
    · by_cases hhi : x < addr + data.length
      · exact absurd (h x (by omega) hhi) hx
      · right
        omega
  · rfl

theorem sameBut_erase (h : forall x, addr <= x -> x < addr + internalFlashPageSizeBytes -> A x) :
    SameBut m A (iflashErasePart addr n m) := by
  intro x hx
  unfold iflashErasePart
  split
  · apply Memory.erase_sameOutside
    by_cases hlo : x < addr
    · exact .inl hlo
    · by_cases hhi : x < addr + internalFlashPageSizeBytes
      · exact absurd (h x (by omega) hhi) hx
      · right
        omega
  · rfl

theorem keeps_onlyAt (m : Memory) {op : IFlashOp} (h : OnlyAt A op) :
    Program.Keeps internalFlash op (SameBut m A) := by
  cases op with
  | read addr len => exact ⟨fun _ hs => hs, fun _ _ hs => hs, fun _ _ hs => hs⟩
  | program addr data =>
      exact ⟨fun _ hs => hs.trans (sameBut_program h), fun _ _ hs => hs.trans (sameBut_program h),
        fun _ _ hs => hs.trans (sameBut_program h)⟩
  | erasePage addr =>
      exact ⟨fun _ hs => hs.trans (sameBut_erase h), fun _ _ hs => hs.trans (sameBut_erase h),
        fun _ _ hs => hs.trans (sameBut_erase h)⟩

theorem keeps_storeOnlyAt (m : Memory) (h : StoreOnlyAt A B op) :
    Program.Keeps storeDevice op (fun s => SameBut m A s.1) := by
  cases op with
  | inl op =>
      have keeps := keeps_onlyAt m h
      exact ⟨fun s hs => keeps.complete s.1 hs, fun n s hs => keeps.fail n s.1 hs,
        fun n s hs => keeps.lose n s.1 hs⟩
  | inr op => exact ⟨fun _ hs => hs, fun _ _ hs => hs, fun _ _ hs => hs⟩

theorem keeps_staging (m : Memory) (t : (qspiFlash.sum cryptoDevice).State)
    (h : StoreOnlyAt A StagingReads op) :
    Program.Keeps storeDevice op (fun s => SameBut m A s.1 ∧ s.2 = t) := by
  have keeps := keeps_storeOnlyAt m h
  cases op with
  | inl op =>
      exact ⟨fun s hs => ⟨keeps.complete s hs.1, hs.2⟩, fun n s hs => ⟨keeps.fail n s hs.1, hs.2⟩,
        fun n s hs => ⟨keeps.lose n s hs.1, hs.2⟩⟩
  | inr op =>
      cases op with
      | inl op =>
          cases op with
          | read addr len => exact ⟨fun _ hs => hs, fun _ _ hs => hs, fun _ _ hs => hs⟩
          | writePage addr data => exact h.elim
          | eraseSector addr => exact h.elim
      | inr op => exact ⟨fun _ hs => hs, fun _ _ hs => hs, fun _ _ hs => hs⟩

theorem sameBut_nowhere (h : SameBut m nowhere m') : m' = m :=
  funext fun x => h x fun hx => hx

end

/-!
## The parts of the operations
-/

section

variable {α : Type} {A : Nat -> Prop} {B : QspiOp -> Prop} {Q : α -> Prop}

theorem within_inStaging {p : Qspi α} (h : Program.Within qspiAnswer B Q p) :
    Program.Within storeAnswer (StoreOnlyAt A B) Q (onStaging p) := by
  refine Program.Within.mono h.inLeft.inRight ?_ (fun _ h => h)
  intro op hop
  cases op with
  | inl op => exact hop.elim
  | inr op =>
      cases op with
      | inl op => exact hop
      | inr op => exact hop.elim

theorem within_onStaging (p : Qspi α) :
    StoreWithin A (fun _ => True) (onStaging p) :=
  within_inStaging (Program.within_true p)

theorem within_qRead (addr len : Nat) :
    Program.Within qspiAnswer StagingReads
      (fun out => forall bytes, out = some bytes -> bytes.length = len) (qRead addr len) :=
  ⟨trivial, fun _ h => h⟩

theorem within_fsStageRead (pos len : Nat) :
    StoreReading A (fun out => forall bytes, out = some bytes -> bytes.length = len)
      (onStaging (fsStageRead pos len)) := by
  have hloop : forall fuel pos len, len <= fuel -> Program.Within qspiAnswer StagingReads
      (fun out => forall bytes, out = some bytes -> bytes.length = len)
      (fsStageReadLoop fuel pos len) := by
    intro fuel
    induction fuel with
    | zero =>
        intro pos len hlen bytes hsome
        cases hsome
        change 0 = len
        omega
    | succ fuel ih =>
        intro pos len hlen
        unfold fsStageReadLoop
        apply Program.within_ite
        · intro hpos
          refine (within_qRead _ _).bind fun chunk hchunk => ?_
          cases chunk with
          | none =>
              intro bytes hsome
              cases hsome
          | some chunk =>
              have hlenChunk := hchunk chunk rfl
              refine (ih (pos + min len fsReadChunk) (len - min len fsReadChunk) (by
                change len - min len 2048 <= fuel
                omega)).bind fun rest hrest => ?_
              cases rest with
              | none =>
                  intro bytes hsome
                  cases hsome
              | some rest =>
                  intro bytes hsome
                  cases hsome
                  rw [List.length_append, hlenChunk, hrest rest rfl]
                  omega
        · intro hpos bytes hsome
          cases hsome
          change 0 = len
          omega
  exact within_inStaging (hloop len pos len (Nat.le_refl _))

theorem within_cryptoCall :
    Program.Within storeAnswer (StoreOnlyAt A B) (fun _ => True) cryptoCall :=
  ⟨trivial, fun _ _ => trivial⟩

theorem within_onFlash {p : IFlash α} (h : FlashWithin A Q p) :
    Program.Within storeAnswer (StoreOnlyAt A B) Q (onFlash p) := by
  refine Program.Within.mono h.inLeft ?_ (fun _ h => h)
  intro op hop
  cases op with
  | inl op => exact hop
  | inr op => exact hop.elim

theorem within_fsIfRead (addr len : Nat) :
    FlashWithin A (fun _ => True) (fsIfRead addr len) :=
  ⟨trivial, fun _ _ => trivial⟩

variable {addr : Nat}

theorem within_fsIfErasePage
    (h : forall x, addr <= x -> x < addr + internalFlashPageSizeBytes -> A x) :
    FlashWithin A (fun _ => True) (fsIfErasePage addr) :=
  ⟨h, fun _ _ => trivial⟩

theorem within_fsIfProgram {data : List UInt8}
    (h : forall x, addr <= x -> x < addr + data.length -> A x) :
    FlashWithin A (fun _ => True) (fsIfProgram addr data) :=
  ⟨h, fun _ _ => trivial⟩

theorem within_fsDescErase (slot : FirmwareSlot) :
    FlashWithin (descArea slot) (fun _ => True) (fsDescErase slot) :=
  within_fsIfErasePage fun _ hlo hhi => ⟨hlo, hhi⟩

theorem within_fsDescWrite (slot : FirmwareSlot) (imageLen version crc : UInt32) :
    FlashWithin (descArea slot) (fun _ => True)
      (fsDescWrite slot imageLen version crc) := by
  unfold fsDescWrite
  refine (within_fsIfProgram ?_).bind fun body _ => ?_
  · intro x hlo hhi
    rw [List.length_take, FirmwareSlotDescriptor.bytes_length] at hhi
    exact ⟨hlo, by omega⟩
  · apply Program.within_ite
    · intro _
      refine (within_fsIfProgram ?_).bind fun tail _ => ?_
      · intro x hlo hhi
        rw [List.length_drop, FirmwareSlotDescriptor.bytes_length] at hhi
        exact ⟨by omega, by omega⟩
      · apply Program.within_ite
        · intro _
          refine (within_fsIfRead _ _).bind fun back _ => ?_
          cases back with
          | none => trivial
          | some back =>
              apply Program.within_ite
              · intro _
                trivial
              · intro _
                trivial
        · intro _
          trivial
    · intro _
      trivial

theorem within_fsMetaProgram (c : Nat) (r : FirmwareBootMeta) :
    FlashWithin (metaArea c) (fun _ => True) (fsMetaProgram (fsMetaAddr c) r) := by
  unfold fsMetaProgram
  refine (within_fsIfErasePage fun _ hlo hhi => ⟨hlo, hhi⟩).bind fun erased _ => ?_
  apply Program.within_ite
  · intro _
    refine (within_fsIfProgram ?_).bind fun body _ => ?_
    · intro x hlo hhi
      rw [List.length_take, FirmwareBootMeta.bytes_length] at hhi
      exact ⟨hlo, by omega⟩
    · apply Program.within_ite
      · intro _
        refine (within_fsIfProgram ?_).bind fun tail _ => ?_
        · intro x hlo hhi
          rw [List.length_drop, FirmwareBootMeta.bytes_length] at hhi
          exact ⟨by omega, by omega⟩
        · apply Program.within_ite
          · intro _
            refine (within_fsIfRead _ _).bind fun back _ => ?_
            cases back with
            | none => trivial
            | some back =>
                apply Program.within_ite
                · intro _
                  trivial
                · intro _
                  trivial
          · intro _
            trivial
      · intro _
        trivial
  · intro _
    trivial

/-- `fs_meta_write` touches the copy that is not selected; a failure leaves the record in RAM
as it was. -/
theorem within_fsMetaWrite (fsMeta : FsMeta) (active state previous : UInt8) (count : UInt32) :
    FlashWithin (metaArea (fsMetaTarget fsMeta))
      (fun out =>
        (out.1 = .ok ∧ out.2 = fsMetaOf (fsMetaTarget fsMeta)
          (fsMetaRecord active state previous count (fsMetaNextGeneration fsMeta))) ∨
        (out.1 ≠ .ok ∧ out.2 = fsMeta))
      (fsMetaWrite fsMeta active state previous count) := by
  unfold fsMetaWrite
  refine (within_fsMetaProgram _ _).bind fun err _ => ?_
  by_cases herr : err = .ok
  · rw [if_pos herr]
    exact .inl ⟨rfl, rfl⟩
  · rw [if_neg herr]
    exact .inr ⟨herr, rfl⟩

end

/-!
## The instance
-/

/-- An image has been verified and not been given up since. -/
def Accepted (fs : FsInst) : Prop :=
  fs.op = .verified ∨ fs.op = .installing ∨ fs.op = .installed

/-- What the fields about the image say while there is one. -/
structure StoreInv (fs : FsInst) : Prop where
  target : Accepted fs -> fs.targetSlot = fsOtherSlot fs.boot.runningSlot
  length : Accepted fs -> fsVectorProbeLen <= fs.imageLen ∧ fs.imageLen <= firmwareMaxImageLen
  page : fs.op = .installing -> fs.installPage * fsPageBytes < fs.imageLen

/-- The boot state and the boot record in RAM are as they were. -/
def Kept (fs fs' : FsInst) : Prop :=
  fs'.boot = fs.boot ∧ fs'.fsMeta = fs.fsMeta

theorem Kept.refl (fs : FsInst) : Kept fs fs :=
  ⟨rfl, rfl⟩

/-- What an operation on the staging area leaves: the instance as it was, or one without an
image. -/
structure GivenUp (fs fs' : FsInst) : Prop where
  kept : Kept fs fs'
  op : fs' = fs ∨ ¬ Accepted fs'

/-- What an operation other than boot control leaves. -/
structure Quiet (fs fs' : FsInst) : Prop where
  kept : Kept fs fs'
  inv : StoreInv fs'

variable {fs : FsInst}

theorem StoreInv.of_notAccepted (h : ¬ Accepted fs) : StoreInv fs where
  target := fun h' => absurd h' h
  length := fun h' => absurd h' h
  page := fun h' => absurd (.inr (.inl h')) h

theorem GivenUp.refl (fs : FsInst) : GivenUp fs fs :=
  ⟨.refl fs, .inl rfl⟩

theorem GivenUp.quiet {fs' : FsInst} (h : GivenUp fs fs') (hinv : StoreInv fs) : Quiet fs fs' where
  kept := h.kept
  inv := by
    rcases h.op with hsame | hnot
    · rw [hsame]
      exact hinv
    · exact .of_notAccepted hnot

theorem accepted_of_eq (op : FsOpState) (h : fs.op = op) :
    Accepted fs ↔ op = .verified ∨ op = .installing ∨ op = .installed := by
  unfold Accepted
  rw [h]

section

variable {crypto : OtaCrypto} {fs : FsInst}

theorem createdStore_inv (m : Memory) (base : Nat) : StoreInv (createdStore m base) := by
  apply StoreInv.of_notAccepted
  rw [accepted_of_eq .idle rfl]
  decide

theorem within_doBegin (imageId : UInt32) (fileLen : Nat) :
    StoreWithin nowhere (fun out => GivenUp fs out.2)
      (doBegin fs imageId fileLen) := by
  unfold doBegin
  apply Program.within_ite
  · intro _
    exact .refl fs
  · intro _
    refine (within_onStaging _).bind fun out _ => ?_
    rcases out with ⟨err, next⟩
    apply Program.within_ite
    · intro _
      exact ⟨⟨rfl, rfl⟩, .inr (by
        rw [accepted_of_eq .receiving rfl]
        decide)⟩
    · intro _
      exact ⟨⟨rfl, rfl⟩, .inr (by
        rw [accepted_of_eq .idle rfl]
        decide)⟩

theorem within_doResume (imageId : UInt32) (fileLen : Nat) :
    StoreWithin nowhere (fun out => GivenUp fs out.2)
      (doResume fs imageId fileLen) := by
  unfold doResume
  apply Program.within_ite
  · intro _
    exact .refl fs
  · intro _
    refine (within_onStaging _).bind fun found _ => ?_
    match found with
    | none => exact .refl fs
    | some .noSession => exact .refl fs
    | some (.session checkpoint next) =>
        refine ⟨⟨rfl, rfl⟩, .inr ?_⟩
        by_cases hfull : checkpoint = fileLen
        · rw [accepted_of_eq .received (if_pos hfull)]
          decide
        · rw [accepted_of_eq .receiving (if_neg hfull)]
          decide

theorem within_doWriteChunk (offset : Nat) (data : List UInt8) :
    StoreWithin nowhere (fun out => GivenUp fs out.2)
      (doWriteChunk fs offset data) := by
  unfold doWriteChunk
  apply Program.within_ite
  · intro _
    exact .refl fs
  · intro hreceiving
    have hop : fs.op = .receiving := not_not.mp hreceiving
    apply Program.within_ite
    · intro _
      exact .refl fs
    · intro _
      refine (within_onStaging _).bind fun out _ => ?_
      rcases out with ⟨err, next⟩
      apply Program.within_ite
      · intro _
        exact ⟨⟨rfl, rfl⟩, .inr (by
          rw [accepted_of_eq .idle rfl]
          decide)⟩
      · intro _
        refine ⟨⟨rfl, rfl⟩, .inr ?_⟩
        by_cases hfull : fs.writeOffset + data.length = fs.fileLen
        · rw [accepted_of_eq .received (if_pos hfull)]
          decide
        · rw [accepted_of_eq .receiving ((if_neg hfull).trans hop)]
          decide

theorem within_doDiscard :
    StoreWithin nowhere (fun out => GivenUp fs out.2) (doDiscard fs) := by
  unfold doDiscard
  apply Program.within_ite
  · intro _
    exact .refl fs
  · intro _
    refine (within_onStaging _).bind fun err _ => ?_
    exact ⟨⟨rfl, rfl⟩, .inr (by
      rw [accepted_of_eq .idle rfl]
      decide)⟩

theorem verifyStructure_ok {h : FirmwareImageHeader} (hok : verifyStructure fs h = .ok) :
    h.imageLen.toNat = fs.fileLen - firmwareHeaderSize ∧ fsVectorProbeLen <= h.imageLen.toNat ∧
      h.imageLen.toNat <= firmwareMaxImageLen ∧
      h.loadAddr.toNat = fsSlotBase (fsOtherSlot fs.boot.runningSlot) := by
  unfold verifyStructure at hok
  by_cases hbad : h.magic ≠ firmwareImageMagic ∨ h.headerVersion ≠ firmwareImageHeaderVersion ∨
      h.headerSize ≠ firmwareHeaderSize ∨ h.imageLen.toNat ≠ fs.fileLen - firmwareHeaderSize ∨
      h.imageLen.toNat < fsVectorProbeLen
  · rw [if_pos hbad] at hok
    cases hok
  · rw [if_neg hbad] at hok
    by_cases hlarge : h.imageLen.toNat > firmwareMaxImageLen
    · rw [if_pos hlarge] at hok
      cases hok
    · rw [if_neg hlarge] at hok
      by_cases hslot : h.loadAddr.toNat ≠ fsSlotBase (fsOtherSlot fs.boot.runningSlot)
      · rw [if_pos hslot] at hok
        cases hok
      · simp only [not_or, not_not, not_lt] at hbad hslot
        exact ⟨hbad.2.2.2.1, hbad.2.2.2.2, by omega, hslot⟩

theorem within_sha256Buffer (crypto : OtaCrypto) (data : List UInt8) :
    StoreReading nowhere
      (fun out => forall digest, out = some digest -> digest = crypto.sha256 data)
      (sha256Buffer crypto data) := by
  unfold sha256Buffer
  refine within_cryptoCall.bind fun begun _ => ?_
  apply Program.within_ite
  · intro _
    refine within_cryptoCall.bind fun updated _ => ?_
    apply Program.within_ite
    · intro _
      refine within_cryptoCall.bind fun finished _ => ?_
      intro digest hsome
      by_cases hfinished : finished = true
      · rw [if_pos hfinished] at hsome
        cases hsome
        rfl
      · rw [if_neg hfinished] at hsome
        cases hsome
    · intro _ digest hsome
      cases hsome
  · intro _ digest hsome
    cases hsome

/-- The signature of a header in bytes. -/
def Signed (crypto : OtaCrypto) (raw : List UInt8) : Prop :=
  crypto.ecdsaP256Verify (crypto.sha256 (raw.take firmwareSignedHeaderLen))
    (FirmwareImageHeader.ofBytes raw).signature = true

theorem within_verifySignature (raw : List UInt8) :
    StoreReading nowhere (fun err => err = .ok -> Signed crypto raw)
      (verifySignature crypto raw) := by
  unfold verifySignature
  refine (within_sha256Buffer crypto _).bind fun digest hdigest => ?_
  cases digest with
  | none =>
      intro hok
      cases hok
  | some digest =>
      have heq := hdigest digest rfl
      refine within_cryptoCall.bind fun answered _ => ?_
      apply Program.within_ite
      · intro _
        apply Program.within_ite
        · intro hverified _
          rw [heq] at hverified
          exact hverified
        · intro _ hok
          cases hok
      · intro _ hok
        cases hok

theorem within_hashBodyLoop (fuel done left : Nat) (fed : List UInt8) :
    StoreReading nowhere (fun _ => True) (hashBodyLoop fuel done left fed) := by
  induction fuel generalizing done left fed with
  | zero => trivial
  | succ fuel ih =>
      unfold hashBodyLoop
      apply Program.within_ite
      · intro _
        refine (within_fsStageRead _ _).bind fun page _ => ?_
        cases page with
        | none => trivial
        | some page =>
            refine within_cryptoCall.bind fun updated _ => ?_
            apply Program.within_ite
            · intro _
              exact ih _ _ _
            · intro _
              trivial
      · intro _
        trivial

theorem within_verifyBodyHash (h : FirmwareImageHeader) :
    StoreReading nowhere (fun _ => True) (verifyBodyHash crypto h) := by
  unfold verifyBodyHash
  refine within_cryptoCall.bind fun begun _ => ?_
  apply Program.within_ite
  · intro _
    refine (within_hashBodyLoop _ _ _ _).bind fun out _ => ?_
    rcases out with ⟨err, fed⟩
    apply Program.within_ite
    · intro _
      refine within_cryptoCall.bind fun finished _ => ?_
      apply Program.within_ite
      · intro _
        apply Program.within_ite
        · intro _
          trivial
        · intro _
          trivial
      · intro _
        trivial
    · intro _
      trivial
  · intro _
    trivial

theorem within_verifyResetVector (h : FirmwareImageHeader) :
    StoreReading nowhere (fun _ => True) (verifyResetVector h) := by
  unfold verifyResetVector
  refine (within_fsStageRead _ _).bind fun probe _ => ?_
  cases probe with
  | none => trivial
  | some probe =>
      dsimp only
      apply Program.within_ite
      · intro _
        trivial
      · intro _
        trivial

theorem within_verifyStaged (fs : FsInst) (raw : List UInt8) :
    StoreReading nowhere
      (fun err => err = .ok ->
        verifyStructure fs (FirmwareImageHeader.ofBytes raw) = .ok ∧ Signed crypto raw)
      (verifyStaged crypto fs raw) := by
  unfold verifyStaged
  dsimp only
  apply Program.within_ite
  · intro hbad hok
    exact absurd hok hbad
  · intro hgood
    have hstructure := not_not.mp hgood
    refine (within_verifySignature raw).bind fun signed hsigned => ?_
    apply Program.within_ite
    · intro hbad hok
      exact absurd hok hbad
    · intro hok
      have hsignature := hsigned (not_not.mp hok)
      refine (within_verifyBodyHash _).bind fun hashed _ => ?_
      apply Program.within_ite
      · intro hbad hok
        exact absurd hok hbad
      · intro _
        exact (within_verifyResetVector _).mono (fun _ h => h)
          fun _ _ _ => ⟨hstructure, hsignature⟩

/-- After the check of the header `raw` the instance holds its digest and length. -/
def VerifiedAs (fs : FsInst) (raw : List UInt8) (fs' : FsInst) : Prop :=
  let h := FirmwareImageHeader.ofBytes raw
  fs' =
    { fs with
      bodyDigest := h.bodySha256
      imageLen := h.imageLen.toNat
      version := h.version
      targetSlot := fsOtherSlot fs.boot.runningSlot
      op := .verified }

variable {fs' : FsInst} {page : List UInt8} {A : Nat -> Prop} {x : Nat} {s : storeDevice.State}
variable {F : Faults storeIo} {α : Type}

theorem VerifiedAs.quiet {raw : List UInt8} (h : VerifiedAs fs raw fs')
    (hstructure : verifyStructure fs (FirmwareImageHeader.ofBytes raw) = .ok) : Quiet fs fs' := by
  rcases verifyStructure_ok hstructure with ⟨_, hlo, hhi, _⟩
  unfold VerifiedAs at h
  subst h
  refine ⟨⟨rfl, rfl⟩, ⟨fun _ => rfl, fun _ => ⟨hlo, hhi⟩, fun hop => ?_⟩⟩
  cases hop

theorem within_doVerify (hinv : StoreInv fs) :
    StoreReading nowhere
      (fun out => Quiet fs out.2 ∧ (out.1 ≠ .ok -> out.2 = fs) ∧
        (out.1 = .ok -> exists raw, raw.length = firmwareHeaderSize ∧ Signed crypto raw ∧
          verifyStructure fs (FirmwareImageHeader.ofBytes raw) = .ok ∧ fs.op = .received ∧
          VerifiedAs fs raw out.2))
      (doVerify crypto fs) := by
  unfold doVerify
  apply Program.within_ite
  · intro _
    exact ⟨⟨.refl fs, hinv⟩, fun _ => rfl, fun hok => by cases hok⟩
  · intro _
    apply Program.within_ite
    · intro _
      exact ⟨⟨.refl fs, hinv⟩, fun _ => rfl, fun hok => by cases hok⟩
    · intro hreceived
      refine (within_fsStageRead _ _).bind fun raw hraw => ?_
      cases raw with
      | none => exact ⟨⟨.refl fs, hinv⟩, fun _ => rfl, fun hok => by cases hok⟩
      | some raw =>
          refine (within_verifyStaged fs raw).bind fun err herr => ?_
          apply Program.within_ite
          · intro hbad
            exact ⟨⟨.refl fs, hinv⟩, fun _ => rfl, fun hok => absurd hok hbad⟩
          · intro hok
            rcases herr (not_not.mp hok) with ⟨hstructure, hsigned⟩
            exact ⟨VerifiedAs.quiet rfl hstructure, fun hbad => absurd rfl hbad,
              fun _ => ⟨raw, hraw raw rfl, hsigned, hstructure, not_not.mp hreceived, rfl⟩⟩

/-- The area an installation writes: the descriptor and the image of the target slot. -/
def targetArea (fs : FsInst) (x : Nat) : Prop :=
  Accepted fs ∧ (descArea fs.targetSlot x ∨ imageArea fs.targetSlot x)

/-- The instance when an installation begins. -/
def installStarted (fs : FsInst) : FsInst :=
  { fs with
    installSha := []
    installCrc := configStoreCrc32Begin
    installPage := 0
    op := .installing }

theorem within_doInstallBegin (hinv : StoreInv fs) :
    StoreReading (targetArea fs)
      (fun out => Quiet fs out.2 ∧ (out.1 ≠ .ok -> out.2 = fs) ∧
        (out.1 = .ok -> fs.op = .verified ∧ out.2 = installStarted fs))
      (doInstallBegin fs) := by
  unfold doInstallBegin
  apply Program.within_ite
  · intro _
    exact ⟨⟨.refl fs, hinv⟩, fun _ => rfl, fun hok => by cases hok⟩
  · intro hverified
    have hop : fs.op = .verified := not_not.mp hverified
    have haccepted : Accepted fs := .inl hop
    have harea : forall x, descArea fs.targetSlot x -> targetArea fs x :=
      fun x hx => ⟨haccepted, .inl hx⟩
    refine (within_widen (within_onFlash (within_fsDescErase fs.targetSlot)) harea).bind
      fun err _ => ?_
    apply Program.within_ite
    · intro hbad
      exact ⟨⟨.refl fs, hinv⟩, fun _ => rfl, fun hok => absurd hok hbad⟩
    · intro _
      refine within_cryptoCall.bind fun begun _ => ?_
      apply Program.within_ite
      · intro _
        refine ⟨⟨⟨rfl, rfl⟩, ⟨fun _ => hinv.target haccepted, fun _ => hinv.length haccepted,
          fun _ => ?_⟩⟩, fun hbad => absurd rfl hbad, fun _ => ⟨hop, rfl⟩⟩
        have hlen := (hinv.length haccepted).1
        change 8 <= fs.imageLen at hlen
        change 0 * 2048 < fs.imageLen
        omega
      · intro _
        exact ⟨⟨.refl fs, hinv⟩, fun _ => rfl, fun hok => by cases hok⟩

theorem installPadded_length (h : page.length <= fsPageBytes) :
    (installPadded page).length <= fsPageBytes := by
  unfold installPadded
  change page.length <= 2048 at h
  change _ <= 2048
  rw [List.length_append, List.length_replicate]
  omega

theorem within_installReadbackLoop (fuel addr : Nat) (expected : List UInt8) :
    FlashWithin A (fun _ => True) (installReadbackLoop fuel addr expected) := by
  induction fuel generalizing addr expected with
  | zero => trivial
  | succ fuel ih =>
      unfold installReadbackLoop
      apply Program.within_ite
      · intro _
        refine (within_fsIfRead _ _).bind fun back _ => ?_
        cases back with
        | none => trivial
        | some back =>
            apply Program.within_ite
            · intro _
              trivial
            · intro _
              exact ih _ _
      · intro _
        trivial

/-- One page of flash. -/
def pageArea (addr x : Nat) : Prop :=
  addr <= x ∧ x < addr + fsPageBytes

theorem within_installPageWrite (addr : Nat) (hlen : page.length <= fsPageBytes) :
    FlashWithin (pageArea addr) (fun _ => True) (installPageWrite addr page) := by
  have hpadded := installPadded_length hlen
  unfold installPageWrite
  refine (within_fsIfErasePage fun _ hlo hhi => ⟨hlo, hhi⟩).bind fun erased _ => ?_
  apply Program.within_ite
  · intro _
    refine (within_fsIfProgram ?_).bind fun programmed _ => ?_
    · intro x hlo hhi
      exact ⟨hlo, by omega⟩
    · apply Program.within_ite
      · intro _
        exact within_installReadbackLoop _ _ _
      · intro _
        trivial
  · intro _
    trivial

theorem installPage_inside (hinv : StoreInv fs) (hop : fs.op = .installing)
    (hlo : fsSlotBase fs.targetSlot + fs.installPage * fsPageBytes <= x)
    (hhi : x < fsSlotBase fs.targetSlot + fs.installPage * fsPageBytes + fsPageBytes) :
    targetArea fs x := by
  have hpage := hinv.page hop
  have hlen := (hinv.length (.inr (.inl hop))).2
  change fs.installPage * 2048 < fs.imageLen at hpage
  change fs.imageLen <= 491520 at hlen
  change fsSlotBase fs.targetSlot + fs.installPage * 2048 <= x at hlo
  change x < fsSlotBase fs.targetSlot + fs.installPage * 2048 + 2048 at hhi
  refine ⟨.inr (.inl hop), .inr ⟨by omega, ?_⟩⟩
  change x < fsSlotBase fs.targetSlot + 491520
  omega

/-- The instance after a page was fed to the digest and the CRC. -/
def pageFed (fs : FsInst) (page : List UInt8) : FsInst :=
  { fs with
    installSha := fs.installSha ++ page
    installCrc := configStoreCrc32Feed fs.installCrc page }

theorem within_installPageCopy (offset : Nat) {n : Nat} (hn : n <= fsPageBytes) :
    StoreReading (pageArea (fsSlotBase fs.targetSlot + offset))
      (fun out => (out.1 ≠ .ok -> out.2 = fs) ∧
        (out.1 = .ok -> exists page, page.length = n ∧ out.2 = pageFed fs page))
      (installPageCopy fs offset n) := by
  unfold installPageCopy
  refine (within_fsStageRead _ _).bind fun page hpage => ?_
  cases page with
  | none => exact ⟨fun _ => rfl, fun hok => by cases hok⟩
  | some page =>
      have hlen := hpage page rfl
      refine (within_onFlash (within_installPageWrite _ (by rw [hlen]; exact hn))).bind
        fun err _ => ?_
      apply Program.within_ite
      · intro hbad
        exact ⟨fun _ => rfl, fun hok => absurd hok hbad⟩
      · intro _
        refine within_cryptoCall.bind fun updated _ => ?_
        apply Program.within_ite
        · intro _
          exact ⟨fun hbad => absurd rfl hbad, fun _ => ⟨page, hlen, rfl⟩⟩
        · intro _
          exact ⟨fun _ => rfl, fun hok => by cases hok⟩

theorem within_installFinish (fs' : FsInst) :
    StoreReading (descArea fs'.targetSlot)
      (fun err => err = .ok -> crypto.sha256 fs'.installSha = fs'.bodyDigest)
      (installFinish crypto fs') := by
  unfold installFinish
  refine within_cryptoCall.bind fun finished _ => ?_
  apply Program.within_ite
  · intro _
    apply Program.within_ite
    · intro _ hok
      cases hok
    · intro hdigest
      exact (within_onFlash (within_fsDescWrite _ _ _ _)).mono (fun _ h => h)
        fun _ _ _ => not_not.mp hdigest
  · intro _ hok
    cases hok

theorem within_doInstallStep (hinv : StoreInv fs) :
    StoreReading (targetArea fs) (fun out => Quiet fs out.2) (doInstallStep crypto fs) := by
  unfold doInstallStep
  apply Program.within_ite
  · intro _
    exact ⟨.refl fs, hinv⟩
  · intro hinstalling
    have hop : fs.op = .installing := not_not.mp hinstalling
    have haccepted : Accepted fs := .inr (.inl hop)
    have hdesc : forall x, descArea fs.targetSlot x -> targetArea fs x :=
      fun x hx => ⟨haccepted, .inl hx⟩
    dsimp only
    refine (within_widen (within_installPageCopy (fs.installPage * fsPageBytes)
      (Nat.min_le_right (fs.imageLen - fs.installPage * fsPageBytes) fsPageBytes))
      fun x hx => installPage_inside hinv hop hx.1 hx.2).bind fun out hout => ?_
    rcases out with ⟨copied, after⟩
    have hafter : after.boot = fs.boot ∧ after.fsMeta = fs.fsMeta ∧
        after.targetSlot = fs.targetSlot ∧ after.imageLen = fs.imageLen ∧
        after.installPage = fs.installPage ∧ after.op = fs.op := by
      by_cases hok : copied = .ok
      · rcases hout.2 hok with ⟨page, _, hfed⟩
        change after = pageFed fs page at hfed
        subst hfed
        exact ⟨rfl, rfl, rfl, rfl, rfl, rfl⟩
      · have hsame := hout.1 hok
        change after = fs at hsame
        subst hsame
        exact ⟨rfl, rfl, rfl, rfl, rfl, rfl⟩
    rcases hafter with ⟨hboot, hmeta, htarget, hlen, hpage, hopAfter⟩
    have hquiet : forall op, op ≠ FsOpState.installing ->
        Quiet fs { after with op := op } := by
      intro op hnot
      refine ⟨⟨hboot, hmeta⟩, ⟨fun _ => ?_, fun _ => ?_, fun hinstall => absurd hinstall hnot⟩⟩
      · change after.targetSlot = fsOtherSlot after.boot.runningSlot
        rw [htarget, hboot]
        exact hinv.target haccepted
      · change fsVectorProbeLen <= after.imageLen ∧ after.imageLen <= firmwareMaxImageLen
        rw [hlen]
        exact hinv.length haccepted
    apply Program.within_ite
    · intro _
      exact hquiet .verified (by decide)
    · intro _
      apply Program.within_ite
      · intro _
        refine (within_widen (within_installFinish after) (by rw [htarget]; exact hdesc)).bind
          fun sealed' _ => ?_
        apply Program.within_ite
        · intro _
          refine (within_widen (within_onFlash (within_fsDescErase after.targetSlot))
            (by rw [htarget]; exact hdesc)).bind fun _ _ => ?_
          exact hquiet .verified (by decide)
        · intro _
          exact hquiet .installed (by decide)
      · intro hmore
        have hnext : ¬ min (fs.imageLen - fs.installPage * fsPageBytes) fsPageBytes =
            fs.imageLen - fs.installPage * fsPageBytes := by
          simpa using hmore
        refine ⟨⟨hboot, hmeta⟩, ⟨fun _ => ?_, fun _ => ?_, fun _ => ?_⟩⟩
        · change after.targetSlot = fsOtherSlot after.boot.runningSlot
          rw [htarget, hboot]
          exact hinv.target haccepted
        · change fsVectorProbeLen <= after.imageLen ∧ after.imageLen <= firmwareMaxImageLen
          rw [hlen]
          exact hinv.length haccepted
        · change (after.installPage + 1) * 2048 < after.imageLen
          rw [hlen, hpage]
          change ¬ min (fs.imageLen - fs.installPage * 2048) 2048 =
            fs.imageLen - fs.installPage * 2048 at hnext
          omega

/-!
## Boot control
-/

/-- The slot an instance runs and whether it may be updated never change. -/
structure SameDevice (fs fs' : FsInst) : Prop where
  runningSlot : fs'.boot.runningSlot = fs.boot.runningSlot
  otaCapable : fs'.boot.otaCapable = fs.boot.otaCapable
  inv : StoreInv fs'

theorem Quiet.sameDevice (h : Quiet fs fs') : SameDevice fs fs' where
  runningSlot := congrArg FirmwareBootInfo.runningSlot h.kept.1
  otaCapable := congrArg FirmwareBootInfo.otaCapable h.kept.1
  inv := h.inv

/-- The copy the next record goes to and the descriptor that settling erases. -/
def bootArea (fs : FsInst) (x : Nat) : Prop :=
  metaArea (fsMetaTarget fs.fsMeta) x

def settleArea (fs : FsInst) (x : Nat) : Prop :=
  bootArea fs x ∨ descArea (fsSlotFromBank fs.fsMeta.previousBank) x

theorem within_doActivate (hinv : StoreInv fs) :
    StoreWithin (bootArea fs) (fun out => SameDevice fs out.2) (doActivate fs) := by
  have hsame : SameDevice fs fs := ⟨rfl, rfl, hinv⟩
  unfold doActivate
  apply Program.within_ite
  · intro _
    exact hsame
  · intro _
    apply Program.within_ite
    · intro _
      exact hsame
    · intro _
      refine (within_onFlash (within_fsMetaWrite _ _ _ _ _)).bind fun out _ => ?_
      rcases out with ⟨err, fsMeta⟩
      apply Program.within_ite
      · intro _
        exact ⟨rfl, rfl, .of_notAccepted (by
          rw [accepted_of_eq .activated rfl]
          decide)⟩
      · intro _
        exact ⟨rfl, rfl, ⟨hinv.target, hinv.length, hinv.page⟩⟩

theorem within_settleConfirmed (hinv : StoreInv fs) :
    StoreWithin (settleArea fs) (fun out => SameDevice fs out.2) (settleConfirmed fs) := by
  unfold settleConfirmed
  refine (within_widen (within_onFlash (within_fsMetaWrite fs.fsMeta _ _ _ _))
    fun x hx => .inl hx).bind fun out hout => ?_
  rcases out with ⟨err, fsMeta⟩
  apply Program.within_ite
  · intro _
    exact ⟨rfl, rfl, ⟨hinv.target, hinv.length, hinv.page⟩⟩
  · intro hok
    have hmeta : fsMeta.previousBank = fs.fsMeta.previousBank := by
      rcases hout with ⟨_, hnew⟩ | ⟨hbad, _⟩
      · change fsMeta = _ at hnew
        rw [hnew]
        rfl
      · exact absurd hbad hok
    dsimp only
    rw [hmeta]
    refine (within_widen (within_onFlash (within_fsDescErase _)) fun x hx => .inr hx).bind
      fun erased _ => ?_
    exact ⟨rfl, rfl, ⟨hinv.target, hinv.length, hinv.page⟩⟩

theorem within_doConfirm (hinv : StoreInv fs) :
    StoreWithin (settleArea fs) (fun out => SameDevice fs out.2) (doConfirm fs) := by
  have hsame : SameDevice fs fs := ⟨rfl, rfl, hinv⟩
  unfold doConfirm
  apply Program.within_ite
  · intro _
    exact hsame
  · intro _
    apply Program.within_ite
    · intro _
      exact hsame
    · intro _
      apply Program.within_ite
      · intro _
        exact within_settleConfirmed hinv
      · intro _
        exact hsame

theorem within_doRollback (hinv : StoreInv fs) :
    StoreWithin (bootArea fs) (fun out => SameDevice fs out.2) (doRollback fs) := by
  have hsame : SameDevice fs fs := ⟨rfl, rfl, hinv⟩
  unfold doRollback
  apply Program.within_ite
  · intro _
    exact hsame
  · intro _
    apply Program.within_ite
    · intro _
      exact hsame
    · intro _
      refine (within_onFlash (within_fsMetaWrite _ _ _ _ _)).bind fun out _ => ?_
      rcases out with ⟨err, fsMeta⟩
      apply Program.within_ite
      · intro _
        exact ⟨rfl, rfl, ⟨hinv.target, hinv.length, hinv.page⟩⟩
      · intro _
        exact ⟨rfl, rfl, ⟨hinv.target, hinv.length, hinv.page⟩⟩

theorem within_doAcknowledgeRollback (hinv : StoreInv fs) :
    StoreWithin (settleArea fs) (fun out => SameDevice fs out.2) (doAcknowledgeRollback fs) := by
  have hsame : SameDevice fs fs := ⟨rfl, rfl, hinv⟩
  unfold doAcknowledgeRollback
  apply Program.within_ite
  · intro _
    exact hsame
  · intro _
    apply Program.within_ite
    · intro _
      exact hsame
    · intro _
      apply Program.within_ite
      · intro _
        exact within_settleConfirmed hinv
      · intro _
        exact hsame

/-- The on-chip addresses a call can touch. -/
def callArea (fs : FsInst) : FsCall -> Nat -> Prop
  | .installBegin => targetArea fs
  | .installStep => targetArea fs
  | .activate => bootArea fs
  | .confirm => settleArea fs
  | .rollback => bootArea fs
  | .acknowledgeRollback => settleArea fs
  | _ => nowhere

/-- Whatever the devices answer, a call stays in its area and keeps what the instance says
about its device. -/
theorem within_fsPerform (hinv : StoreInv fs) (call : FsCall) :
    StoreWithin (callArea fs call) (fun out => SameDevice fs out.2) (fsPerform crypto fs call) := by
  cases call with
  | begin imageId fileLen =>
      exact (within_doBegin imageId fileLen).bind fun _ h => (h.quiet hinv).sameDevice
  | resume imageId fileLen =>
      exact (within_doResume imageId fileLen).bind fun _ h => (h.quiet hinv).sameDevice
  | writeChunk offset data =>
      exact (within_doWriteChunk offset data).bind fun _ h => (h.quiet hinv).sameDevice
  | discard => exact within_doDiscard.bind fun _ h => (h.quiet hinv).sameDevice
  | verify => exact (within_of_reading (within_doVerify hinv)).bind fun _ h => h.1.sameDevice
  | installBegin =>
      exact (within_of_reading (within_doInstallBegin hinv)).bind fun _ h => h.1.sameDevice
  | installStep =>
      exact (within_of_reading (within_doInstallStep hinv)).bind fun _ h => h.sameDevice
  | activate => exact (within_doActivate hinv).bind fun _ h => h
  | confirm => exact (within_doConfirm hinv).bind fun _ h => h
  | rollback => exact (within_doRollback hinv).bind fun _ h => h
  | acknowledgeRollback => exact (within_doAcknowledgeRollback hinv).bind fun _ h => h

theorem within_quiet (crypto : OtaCrypto) (call : FsCall) (hinv : StoreInv fs)
    (hactivate : call ≠ .activate)
    (hconfirm : call ≠ .confirm) (hrollback : call ≠ .rollback)
    (hacknowledge : call ≠ .acknowledgeRollback) :
    StoreWithin (callArea fs call) (fun out => Quiet fs out.2) (fsPerform crypto fs call) := by
  cases call with
  | begin imageId fileLen =>
      exact (within_doBegin imageId fileLen).bind fun _ h => h.quiet hinv
  | resume imageId fileLen =>
      exact (within_doResume imageId fileLen).bind fun _ h => h.quiet hinv
  | writeChunk offset data =>
      exact (within_doWriteChunk offset data).bind fun _ h => h.quiet hinv
  | discard => exact within_doDiscard.bind fun _ h => h.quiet hinv
  | verify => exact (within_of_reading (within_doVerify hinv)).bind fun _ h => h.1
  | installBegin => exact (within_of_reading (within_doInstallBegin hinv)).bind fun _ h => h.1
  | installStep => exact (within_of_reading (within_doInstallStep hinv)).bind fun _ h => h
  | activate => exact absurd rfl hactivate
  | confirm => exact absurd rfl hconfirm
  | rollback => exact absurd rfl hrollback
  | acknowledgeRollback => exact absurd rfl hacknowledge

theorem storeAnswers : Program.AnswersBy storeDevice storeAnswer := by
  have hiflash : Program.AnswersBy internalFlash iflashAnswer := by
    constructor
    · intro op s
      cases op with
      | read addr len =>
          intro bytes hsome
          change (if len ≠ 0 ∧ inFlash addr len then some (s.slice addr len) else none) =
            some bytes at hsome
          split at hsome
          · cases hsome
            exact Memory.slice_length s addr len
          · cases hsome
      | program addr data => trivial
      | erasePage addr => trivial
    · intro op n s
      cases op with
      | read addr len =>
          intro bytes hsome
          cases hsome
      | program addr data => trivial
      | erasePage addr => trivial
  have hqspi : Program.AnswersBy qspiFlash qspiAnswer := by
    constructor
    · intro op s
      cases op with
      | read addr len =>
          intro bytes hsome
          change (if qspiReadAccepted addr len then some (s.slice addr len) else none) =
            some bytes at hsome
          split at hsome
          · cases hsome
            exact Memory.slice_length s addr len
          · cases hsome
      | writePage addr data => trivial
      | eraseSector addr => trivial
    · intro op n s
      cases op with
      | read addr len =>
          intro bytes hsome
          cases hsome
      | writePage addr data => trivial
      | eraseSector addr => trivial
  exact hiflash.sum (hqspi.sum ⟨fun _ _ => trivial, fun _ _ _ => trivial⟩)

theorem wp_storeWithin {Q : α -> Prop} {p : StoreIo α} (h : StoreWithin A Q p) :
    p.wp storeDevice F (fun a s' => Q a ∧ SameBut s.1 A s'.1) (fun s' => SameBut s.1 A s'.1) s :=
  Program.wp_of_within storeAnswers (fun _ hop => keeps_storeOnlyAt s.1 hop) h (fun _ _ => rfl)

theorem wp_storeReading {Q : α -> Prop} {p : StoreIo α} (h : StoreReading A Q p) :
    p.wp storeDevice F (fun a s' => Q a ∧ SameBut s.1 A s'.1 ∧ s'.2 = s.2)
      (fun s' => SameBut s.1 A s'.1 ∧ s'.2 = s.2) s :=
  Program.wp_of_within storeAnswers (fun _ hop => keeps_staging s.1 s.2 hop) h
    ⟨fun _ _ => rfl, rfl⟩

theorem targetArea_le (h : targetArea fs x) : firmwareDescAAddr <= x := by
  rcases h.2 with hdesc | himage
  · exact Nat.le_trans (fsDescAddr_le _).1 hdesc.1
  · refine Nat.le_trans ?_ himage.1
    unfold fsSlotBase
    split
    · decide
    · decide

theorem inForce_sameBut {m m' : Memory} (h : SameBut m A m')
    (hA : forall x, A x -> firmwareDescAAddr <= x) : inForce m' = inForce m := by
  have hcopy : forall c, copyAt m' c = copyAt m c := by
    intro c
    apply copyAt_congr
    apply h.sameOn
    intro x _ hhi hx
    have hle := hA x hx
    have hmeta : fsMetaAddr c + 2048 <= firmwareDescAAddr := by
      unfold fsMetaAddr
      split
      · decide
      · decide
    omega
  exact inForce_congr (hcopy 0) (hcopy 1)

end

end EnvMonitor.Gateway.FirmwareStore
