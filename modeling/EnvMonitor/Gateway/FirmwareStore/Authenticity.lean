import EnvMonitor.Gateway.FirmwareStore.Install

/-!
# Where a descriptor comes from

A session is followed call by call.  Every descriptor that it writes and that a reader
accepts goes back to a verification of the session that answered OK.
-/

namespace EnvMonitor.Gateway.FirmwareStore

open Device Drivers Gateway.ConfigStore Bootloader

/-!
## Histories
-/

/-- One call: its answer, the staging flash it found, and the on-chip flash around it. -/
structure FsEvent where
  call : FsCall
  answer : FsAnswer
  staging : (qspiFlash.sum cryptoDevice).State
  before : Memory
  after : Memory

/-- The calls of a session, from any flash, with any failures and any staging content at each
call. -/
inductive FsHistory (crypto : OtaCrypto) : List FsEvent -> FsInst -> Memory -> Prop where
  | created {F : Faults iflash} {base : Nat} {m m' : Memory} {fs : FsInst} :
      Program.Exec internalFlash F (firmwareStoreCreate base) m (some (some fs)) m' ->
      FsHistory crypto [] fs m'
  | called {F : Faults storeIo} {es : List FsEvent} {fs fs' : FsInst} {m m' : Memory}
      {call : FsCall} {answer : FsAnswer} {t t' : (qspiFlash.sum cryptoDevice).State} :
      FsHistory crypto es fs m ->
      Program.Exec storeDevice F (fsPerform crypto fs call) (m, t) (some (answer, fs')) (m', t') ->
      FsHistory crypto (es ++ [⟨call, answer, t, m, m'⟩]) fs' m'

/-- The header a call found staged. -/
def FsEvent.header (e : FsEvent) : FirmwareImageHeader :=
  .ofBytes (stagedHeader e.staging)

/-- A verification that answered OK, for a header whose signature verifies. -/
def Authenticated (crypto : OtaCrypto) (e : FsEvent) : Prop :=
  e.call = .verify ∧ e.answer.err = .ok ∧ Signed crypto (stagedHeader e.staging)

/-- The bytes of a slot's descriptor. -/
def descBytes (m : Memory) (slot : FirmwareSlot) : List UInt8 :=
  m.slice (fsDescAddr slot) 32

def descIn (m : Memory) (slot : FirmwareSlot) : FirmwareSlotDescriptor :=
  .ofBytes (descBytes m slot)

/-- Some call has changed the slot's descriptor. -/
def DescWritten (es : List FsEvent) (slot : FirmwareSlot) : Prop :=
  exists e, e ∈ es ∧ descBytes e.after slot ≠ descBytes e.before slot

/-- A descriptor write that broke off inside the CRC of the body, on a page that could not be
erased afterwards. -/
def TornInCrc (m : Memory) (slot : FirmwareSlot) (h : FirmwareImageHeader) (crc : UInt32) :
    Prop :=
  exists k, 16 <= k ∧ k < 20 ∧
    descBytes m slot = descTorn (fsDescRecord slot h.imageLen h.version crc) k

/-- The slot holds the image of the header `h` and a descriptor of it. -/
structure SealedFor (crypto : OtaCrypto) (h : FirmwareImageHeader) (slot : FirmwareSlot)
    (m : Memory) : Prop where
  imageLen : (descIn m slot).imageLen = h.imageLen
  version : (descIn m slot).version = h.version
  digest : crypto.sha256 (m.slice (fsSlotBase slot) h.imageLen.toNat) = h.bodySha256
  bodyCrc : (descIn m slot).bodyCrc32 =
      configStoreCrc32 (m.slice (fsSlotBase slot) h.imageLen.toNat) ∨
    TornInCrc m slot h (configStoreCrc32 (m.slice (fsSlotBase slot) h.imageLen.toNat))

/-- The slot's descriptor was written after a verification of its image. -/
def Traced (crypto : OtaCrypto) (es : List FsEvent) (slot : FirmwareSlot) (m : Memory) : Prop :=
  exists es₁ e es₂, es = es₁ ++ e :: es₂ ∧ Authenticated crypto e ∧ DescWritten es₂ slot ∧
    SealedFor crypto e.header slot m

/-- The instance holds what the header of `e` says. -/
structure TakenFrom (fs : FsInst) (e : FsEvent) : Prop where
  digest : fs.bodyDigest = e.header.bodySha256
  imageLen : fs.imageLen = e.header.imageLen.toNat
  version : fs.version = e.header.version

/-- While an installation runs its slot has no descriptor, and the digest and the CRC are over
the pages installed so far. -/
structure Copying (fs : FsInst) (m : Memory) : Prop where
  blank : Memory.Blank m (fsDescAddr fs.targetSlot) 32
  sha : m.slice (fsSlotBase fs.targetSlot) (installOffset fs) = fs.installSha
  crc : fs.installCrc = configStoreCrc32Feed configStoreCrc32Begin fs.installSha

/-- What holds all through a session. -/
structure Authentic (crypto : OtaCrypto) (es : List FsEvent) (fs : FsInst)
    (m : Memory) : Prop where
  inv : StoreInv fs
  legal : LegalBanks fs
  image : Accepted fs -> exists e, e ∈ es ∧ Authenticated crypto e ∧ TakenFrom fs e
  copying : fs.op = .installing -> Copying fs m
  descriptors : forall slot, slot ≠ .none -> DescWritten es slot ->
    DescLegal slot (descBytes m slot) ->
    slot = fsOtherSlot fs.boot.runningSlot ∧ Traced crypto es slot m

/-!
## Slots
-/

section

variable {m m' : Memory} {slot slot' : FirmwareSlot}

/-- The descriptor and the image of the slot are as they were. -/
structure SlotSame (slot : FirmwareSlot) (m m' : Memory) : Prop where
  desc : Memory.SameOn m m' (fsDescAddr slot) 32
  image : Memory.SameOn m m' (fsSlotBase slot) firmwareSlotSize

theorem SlotSame.refl (slot : FirmwareSlot) (m : Memory) : SlotSame slot m m :=
  ⟨.refl m _ _, .refl m _ _⟩

theorem SlotSame.trans {m'' : Memory} (h : SlotSame slot m m') (h' : SlotSame slot m' m'') :
    SlotSame slot m m'' :=
  ⟨h.desc.trans h'.desc, h.image.trans h'.image⟩

theorem SlotSame.descBytes_eq (h : SlotSame slot m m') : descBytes m' slot = descBytes m slot :=
  Memory.slice_congr h.desc

theorem SealedFor.same {crypto : OtaCrypto} {h : FirmwareImageHeader}
    (hsealed : SealedFor crypto h slot m) (hlegal : DescLegal slot (descBytes m slot))
    (hsame : SlotSame slot m m') : SealedFor crypto h slot m' := by
  have hlen : h.imageLen.toNat <= firmwareSlotSize := by
    rw [← hsealed.imageLen]
    exact hlegal.2.2.2.2
  have himage : m'.slice (fsSlotBase slot) h.imageLen.toNat =
      m.slice (fsSlotBase slot) h.imageLen.toNat :=
    Memory.slice_congr (hsame.image.sub (Nat.le_refl _) (by omega))
  have hdesc : descIn m' slot = descIn m slot := by
    unfold descIn
    rw [hsame.descBytes_eq]
  constructor
  · rw [hdesc]
    exact hsealed.imageLen
  · rw [hdesc]
    exact hsealed.version
  · rw [himage]
    exact hsealed.digest
  · rw [hdesc, himage]
    unfold TornInCrc
    rw [hsame.descBytes_eq]
    exact hsealed.bodyCrc

variable {x : Nat}

theorem descArea_disjoint (hslot : slot ≠ .none) (hslot' : slot' ≠ .none) (hne : slot ≠ slot')
    (h : descArea slot x) : ¬ descArea slot' x := by
  intro h'
  unfold descArea fsDescAddr at h h'
  cases slot with
  | a =>
      cases slot' with
      | a => exact hne rfl
      | b =>
          change 0x08005000 <= x ∧ x < 0x08005000 + 2048 at h
          change 0x08005800 <= x ∧ x < 0x08005800 + 2048 at h'
          omega
      | none => exact hslot' rfl
  | b =>
      cases slot' with
      | a =>
          change 0x08005800 <= x ∧ x < 0x08005800 + 2048 at h
          change 0x08005000 <= x ∧ x < 0x08005000 + 2048 at h'
          omega
      | b => exact hne rfl
      | none => exact hslot' rfl
  | none => exact hslot rfl

theorem imageArea_disjoint (hslot : slot ≠ .none) (hslot' : slot' ≠ .none) (hne : slot ≠ slot')
    (h : imageArea slot x) : ¬ imageArea slot' x := by
  intro h'
  unfold imageArea fsSlotBase at h h'
  cases slot with
  | a =>
      cases slot' with
      | a => exact hne rfl
      | b =>
          change 0x08006000 <= x ∧ x < 0x08006000 + 491520 at h
          change 0x08080000 <= x ∧ x < 0x08080000 + 491520 at h'
          omega
      | none => exact hslot' rfl
  | b =>
      cases slot' with
      | a =>
          change 0x08080000 <= x ∧ x < 0x08080000 + 491520 at h
          change 0x08006000 <= x ∧ x < 0x08006000 + 491520 at h'
          omega
      | b => exact hne rfl
      | none => exact hslot' rfl
  | none => exact hslot rfl

theorem desc_not_image (h : descArea slot x) : ¬ imageArea slot' x := by
  intro h'
  have hlt := @descArea_image _ slot' _ h
  have hle := h'.1
  omega

theorem SameBut.slotSame {A : Nat -> Prop} (h : SameBut m A m')
    (hdesc : forall x, descArea slot x -> ¬ A x) (himage : forall x, imageArea slot x -> ¬ A x) :
    SlotSame slot m m' where
  desc := h.sameOn fun x hlo hhi => hdesc x ⟨hlo, by omega⟩
  image := h.sameOn fun x hlo hhi => himage x ⟨hlo, hhi⟩

theorem slotSame_erase (hslot : slot ≠ .none) (hslot' : slot' ≠ .none) (hne : slot ≠ slot')
    {n : Nat} (hn : n <= 2048) : SlotSame slot m (m.erase (fsDescAddr slot') n) := by
  have hbut : SameBut m (descArea slot') (m.erase (fsDescAddr slot') n) := by
    intro x hx
    apply Memory.erase_sameOutside
    by_contra hin
    exact hx ⟨by omega, by omega⟩
  exact hbut.slotSame (fun x hx => descArea_disjoint hslot hslot' hne hx)
    fun x hx hdesc => desc_not_image hdesc hx

theorem descErased (n : Nat) :
    m.erase (fsDescAddr slot) n = m ∨
      ¬ DescLegal slot (descBytes (m.erase (fsDescAddr slot) n) slot) := by
  cases n with
  | zero => exact .inl (Memory.erase_zero m _)
  | succ n =>
      right
      have hhead : m.erase (fsDescAddr slot) (n + 1) (fsDescAddr slot) = erasedByte :=
        Memory.erase_blank m _ _ _ (Nat.le_refl _) (by omega)
      have hbytes : descBytes (m.erase (fsDescAddr slot) (n + 1)) slot =
          erasedByte :: (m.erase (fsDescAddr slot) (n + 1)).slice (fsDescAddr slot + 1) 31 := by
        rw [← hhead]
        rfl
      rw [hbytes]
      exact not_descLegal_erased _

theorem blank_not_legal (h : Memory.Blank m (fsDescAddr slot) 32) :
    ¬ DescLegal slot (descBytes m slot) := by
  have hbytes : descBytes m slot = erasedByte :: List.replicate 31 erasedByte :=
    Memory.slice_of_blank h
  rw [hbytes]
  exact not_descLegal_erased _

theorem descWritten_last (es : List FsEvent) {e : FsEvent}
    (hblank : Memory.Blank e.before (fsDescAddr slot) 32)
    (hlegal : DescLegal slot (descBytes e.after slot)) : DescWritten (es ++ [e]) slot := by
  refine ⟨e, List.mem_append_right _ (List.mem_singleton_self _), fun hsame => ?_⟩
  rw [hsame] at hlegal
  exact blank_not_legal hblank hlegal

theorem fsOtherSlot_ne (slot : FirmwareSlot) :
    fsOtherSlot slot ≠ .none ∧ fsOtherSlot slot ≠ slot := by
  cases slot with
  | a => decide
  | b => decide
  | none => decide

end

/-- The slots but for erased descriptors. -/
structure SlotsLeft (m m' : Memory) : Prop where
  image : forall slot, Memory.SameOn m m' (fsSlotBase slot) firmwareSlotSize
  desc : forall slot, slot ≠ .none ->
    Memory.SameOn m m' (fsDescAddr slot) 32 ∨ ¬ DescLegal slot (descBytes m' slot)
  blank : forall slot, Memory.Blank m (fsDescAddr slot) 32 -> Memory.Blank m' (fsDescAddr slot) 32

theorem SlotsLeft.refl (m : Memory) : SlotsLeft m m :=
  ⟨fun _ => .refl m _ _, fun _ _ => .inl (.refl m _ _), fun _ h => h⟩

variable {m m' : Memory} {c : Nat} {fs : FsInst}

theorem SlotsLeft.trans {m'' : Memory} (h : SlotsLeft m m') (h' : SlotsLeft m' m'') :
    SlotsLeft m m'' where
  image slot := (h.image slot).trans (h'.image slot)
  desc slot hslot := by
    rcases h'.desc slot hslot with hsame | hnot
    · rcases h.desc slot hslot with hsame' | hnot
      · exact .inl (hsame'.trans hsame)
      · right
        unfold descBytes
        rw [Memory.slice_congr hsame]
        exact hnot
    · exact .inr hnot
  blank slot hblank := h'.blank slot (h.blank slot hblank)

theorem fsMetaAddr_below (c : Nat) : fsMetaAddr c + 2048 <= firmwareDescAAddr := by
  unfold fsMetaAddr
  split
  · decide
  · decide

theorem sameOn_desc_meta (h : Memory.SameOutside m m' (fsMetaAddr c) 2048) (slot : FirmwareSlot) :
    Memory.SameOn m m' (fsDescAddr slot) 32 :=
  h.sameOn (.inr (Nat.le_trans (fsMetaAddr_below c) (fsDescAddr_le slot).1))

theorem slotsLeft_meta (h : Memory.SameOutside m m' (fsMetaAddr c) 2048) : SlotsLeft m m' := by
  have hmeta := fsMetaAddr_below c
  have hdesc := sameOn_desc_meta h
  constructor
  · intro slot
    apply h.sameOn
    right
    exact Nat.le_trans hmeta (Nat.le_trans (by decide) (fsSlotBase_ge slot))
  · exact fun slot _ => .inl (hdesc slot)
  · exact fun slot hblank => hblank.congr (hdesc slot)

theorem slotsLeft_erase (m : Memory) {slot : FirmwareSlot} (hslot : slot ≠ .none) {n : Nat}
    (hn : n <= 2048) : SlotsLeft m (m.erase (fsDescAddr slot) n) where
  image slot' := by
    apply (Memory.erase_sameOutside m (fsDescAddr slot) n).sameOn
    right
    have hlt := (fsDescAddr_le slot).2
    have hbase := fsSlotBase_ge slot'
    omega
  desc slot' hslot' := by
    by_cases hequal : slot' = slot
    · subst hequal
      rcases @descErased m slot' n with hsame | hnot
      · rw [hsame]
        exact .inl (.refl m _ _)
      · exact .inr hnot
    · exact .inl (slotSame_erase hslot' hslot hequal hn).desc
  blank slot' hblank := by
    intro x hlo hhi
    unfold Memory.erase
    split
    · rfl
    · exact hblank x hlo hhi

/-- The image an instance holds, and how much of it is installed. -/
structure SameImage (fs fs' : FsInst) : Prop where
  op : fs'.op = fs.op
  digest : fs'.bodyDigest = fs.bodyDigest
  imageLen : fs'.imageLen = fs.imageLen
  version : fs'.version = fs.version
  targetSlot : fs'.targetSlot = fs.targetSlot
  installPage : fs'.installPage = fs.installPage
  installCrc : fs'.installCrc = fs.installCrc
  installSha : fs'.installSha = fs.installSha

theorem SameImage.refl (fs : FsInst) : SameImage fs fs :=
  ⟨rfl, rfl, rfl, rfl, rfl, rfl, rfl, rfl⟩

theorem SameImage.accepted {fs' : FsInst} (h : SameImage fs fs') (haccepted : Accepted fs') :
    Accepted fs := by
  unfold Accepted at haccepted ⊢
  rw [h.op] at haccepted
  exact haccepted

/-!
## One call
-/

section

variable {crypto : OtaCrypto} {es : List FsEvent} {fs fs' : FsInst} {m m₁ m' : Memory}
variable {t : (qspiFlash.sum cryptoDevice).State}

theorem Traced.later {slot : FirmwareSlot} (h : Traced crypto es slot m)
    (hlegal : DescLegal slot (descBytes m slot)) (hsame : SlotSame slot m m') (e : FsEvent) :
    Traced crypto (es ++ [e]) slot m' := by
  rcases h with ⟨es₁, e₁, es₂, hsplit, hauth, ⟨w, hw, hchanged⟩, hsealed⟩
  refine ⟨es₁, e₁, es₂ ++ [e], ?_, hauth, ⟨w, List.mem_append_left _ hw, hchanged⟩,
    hsealed.same hlegal hsame⟩
  rw [hsplit, List.append_assoc]
  rfl

variable {e : FsEvent} {err : FirmwareStoreErr} {call : FsCall} {x : Nat}

/-- After a call each slot is as before, or has no descriptor, or has a new one that goes back
to a verification. -/
theorem Authentic.descriptors_after (h : Authentic crypto es fs m) (hbefore : e.before = m)
    (hafter : e.after = m') (hrunning : fs'.boot.runningSlot = fs.boot.runningSlot)
    (hslots : forall slot, slot ≠ .none -> SlotSame slot m m' ∨
      (DescLegal slot (descBytes m' slot) ->
        slot = fsOtherSlot fs.boot.runningSlot ∧ Traced crypto (es ++ [e]) slot m')) :
    forall slot, slot ≠ .none -> DescWritten (es ++ [e]) slot ->
      DescLegal slot (descBytes m' slot) ->
      slot = fsOtherSlot fs'.boot.runningSlot ∧ Traced crypto (es ++ [e]) slot m' := by
  intro slot hslot hwritten hlegal
  rw [hrunning]
  rcases hslots slot hslot with hsame | hnew
  · have hequal := hsame.descBytes_eq
    have hearlier : DescWritten es slot := by
      rcases hwritten with ⟨w, hw, hchanged⟩
      rcases List.mem_append.mp hw with hin | hlast
      · exact ⟨w, hin, hchanged⟩
      · rw [List.mem_singleton.mp hlast, hbefore, hafter] at hchanged
        exact absurd hequal hchanged
    rw [hequal] at hlegal
    have htraced := h.descriptors slot hslot hearlier hlegal
    exact ⟨htraced.1, htraced.2.later hlegal hsame e⟩
  · exact hnew hlegal

/-- A call that installs nothing: it keeps the image the instance holds, or gives it up, and
leaves the slots but for erased descriptors. -/
theorem Authentic.carried (h : Authentic crypto es fs m) (e : FsEvent) (hbefore : e.before = m)
    (hafter : e.after = m') (hinv : StoreInv fs') (hlegal : LegalBanks fs')
    (hrunning : fs'.boot.runningSlot = fs.boot.runningSlot) (hleft : SlotsLeft m m')
    (hcarried : Accepted fs' -> SameImage fs fs') : Authentic crypto (es ++ [e]) fs' m' where
  inv := hinv
  legal := hlegal
  image := by
    intro haccepted
    have hsame := hcarried haccepted
    rcases h.image (hsame.accepted haccepted) with ⟨w, hw, hauth, htaken⟩
    refine ⟨w, List.mem_append_left _ hw, hauth, ?_⟩
    exact ⟨hsame.digest.trans htaken.digest, hsame.imageLen.trans htaken.imageLen,
      hsame.version.trans htaken.version⟩
  copying := by
    intro hop
    have hsame := hcarried (.inr (.inl hop))
    have hbefore := hsame.op ▸ hop
    have hcopying := h.copying hbefore
    have hpage := h.inv.page hbefore
    have hlen := (h.inv.length (.inr (.inl hbefore))).2
    constructor
    · rw [hsame.targetSlot]
      exact hleft.blank _ hcopying.blank
    · unfold installOffset
      rw [hsame.targetSlot, hsame.installPage, hsame.installSha, ← hcopying.sha]
      apply Memory.slice_congr
      apply (hleft.image fs.targetSlot).sub (Nat.le_refl _)
      change fs.installPage * 2048 < fs.imageLen at hpage
      change fs.imageLen <= 491520 at hlen
      change _ + fs.installPage * 2048 <= _ + 491520
      omega
    · rw [hsame.installCrc, hsame.installSha]
      exact hcopying.crc
  descriptors := by
    apply h.descriptors_after hbefore hafter hrunning
    intro slot hslot
    rcases hleft.desc slot hslot with hsame | hnot
    · exact .inl ⟨hsame, hleft.image slot⟩
    · exact .inr fun hlegal => absurd hlegal hnot

theorem Copying.crc_copied (h : Copying fs m) :
    configStoreCrc32 (pageCopied fs t).installSha =
      configStoreCrc32End (pageCopied fs t).installCrc := by
  unfold configStoreCrc32 pageCopied pageFed
  rw [configStoreCrc32Feed_append, ← h.crc]

theorem Copying.whole (h : Copying fs m) (hpage : installOffset fs < fs.imageLen)
    (hcopied : PageCopied fs t m m₁) (hall : installLength fs = fs.imageLen - installOffset fs) :
    m₁.slice (fsSlotBase fs.targetSlot) fs.imageLen = (pageCopied fs t).installSha := by
  have hfront : m₁.slice (fsSlotBase fs.targetSlot) (installOffset fs) = fs.installSha := by
    rw [← h.sha]
    apply Memory.slice_congr
    apply hcopied.same.sameOn
    intro x _ hhi hin
    have hlo := hin.1
    omega
  have hsplit := Memory.slice_add m₁ (fsSlotBase fs.targetSlot) (installOffset fs)
    (installLength fs)
  rw [hcopied.page, hfront, hall, Nat.add_sub_cancel' (by omega)] at hsplit
  rw [hsplit, ← hall]
  rfl

/-- A descriptor that the last step of an installation leaves goes back to the verification
of its image. -/
theorem Authentic.sealed (h : Authentic crypto es fs m) {k : Nat} (hop : fs.op = .installing)
    (hcopied : PageCopied fs t m m₁) (hall : installLength fs = fs.imageLen - installOffset fs)
    (hdesc : SameBut m₁ (descArea fs.targetSlot) m') (hk : k <= 32)
    (hupTo : SealedUpTo crypto (pageCopied fs t) m' k) (hbefore : e.before = m)
    (hafter : e.after = m') (hlegal : DescLegal fs.targetSlot (descBytes m' fs.targetSlot)) :
    fs.targetSlot = fsOtherSlot fs.boot.runningSlot ∧
      Traced crypto (es ++ [e]) fs.targetSlot m' := by
  have haccepted : Accepted fs := .inr (.inl hop)
  have hcopying := h.copying hop
  rcases h.image haccepted with ⟨e₁, he₁, hauth, htaken⟩
  rcases List.append_of_mem he₁ with ⟨es₁, es₂, hsplit⟩
  have himage : m'.slice (fsSlotBase fs.targetSlot) fs.imageLen =
      (pageCopied fs t).installSha := by
    rw [← hcopying.whole (h.inv.page hop) hcopied hall]
    apply Memory.slice_congr
    apply hdesc.sameOn
    intro x hlo _ hx
    have hlt := @descArea_image _ fs.targetSlot _ hx
    omega
  have hrecord : sealRecord (pageCopied fs t) = fsDescRecord fs.targetSlot e₁.header.imageLen
      e₁.header.version
      (configStoreCrc32 (m'.slice (fsSlotBase fs.targetSlot) e₁.header.imageLen.toNat)) := by
    unfold sealRecord
    rw [← hcopying.crc_copied, ← himage]
    change fsDescRecord fs.targetSlot (UInt32.ofNat fs.imageLen) fs.version _ = _
    rw [htaken.imageLen, htaken.version, UInt32.ofNat_toNat]
  have hbytes : descBytes m' fs.targetSlot = descTorn (sealRecord (pageCopied fs t)) k := hupTo.1
  rw [hrecord] at hbytes
  rw [hbytes] at hlegal
  rcases descLegal_torn hk hlegal with ⟨hlong, hlen, hversion, hcrc⟩
  rw [← hbytes] at hlen hversion hcrc hlegal
  have hwritten : DescWritten (es₂ ++ [e]) fs.targetSlot := by
    apply descWritten_last
    · rw [hbefore]
      exact hcopying.blank
    · rw [hafter]
      exact hlegal
  refine ⟨h.inv.target haccepted, es₁, e₁, es₂ ++ [e], ?_, hauth, hwritten, ?_⟩
  · rw [hsplit, List.append_assoc]
    rfl
  · constructor
    · exact hlen
    · exact hversion
    · rw [← htaken.imageLen, himage, ← htaken.digest]
      exact hupTo.2 (by omega)
    · by_cases hwhole : 20 <= k
      · exact .inl (hcrc hwhole)
      · exact .inr ⟨k, hlong, by omega, hbytes⟩

theorem Authentic.givenUp (h : Authentic crypto es fs m) (e : FsEvent) (hbefore : e.before = m)
    (hafter : e.after = m) (hgiven : GivenUp fs fs') : Authentic crypto (es ++ [e]) fs' m := by
  apply h.carried e hbefore hafter (hgiven.quiet h.inv).inv
  · unfold LegalBanks
    rw [hgiven.kept.1, hgiven.kept.2]
    exact h.legal
  · exact congrArg FirmwareBootInfo.runningSlot hgiven.kept.1
  · exact .refl m
  · intro haccepted
    rcases hgiven.op with hequal | hnot
    · rw [hequal]
      exact .refl fs
    · exact absurd haccepted hnot

theorem Authentic.verified (h : Authentic crypto es fs m) (e : FsEvent) (hbefore : e.before = m)
    (hafter : e.after = m) (hcall : e.call = .verify) (hok : e.answer.err = .ok)
    (hverified : Verified crypto fs e.staging)
    (htaken : VerifiedAs fs (stagedHeader e.staging) fs') :
    Authentic crypto (es ++ [e]) fs' m := by
  have hquiet := htaken.quiet hverified.header
  unfold VerifiedAs at htaken
  subst htaken
  refine ⟨hquiet.inv, h.legal, fun _ => ?_, fun hop => (by cases hop), ?_⟩
  · exact ⟨e, by simp, ⟨hcall, hok, hverified.signed⟩, ⟨rfl, rfl, rfl⟩⟩
  · exact h.descriptors_after hbefore hafter rfl fun slot _ => .inl (.refl slot m)

theorem Authentic.begun (h : Authentic crypto es fs m) (e : FsEvent) (hbefore : e.before = m)
    (hafter : e.after = m') (hexit : InstallBeginExit fs m err fs' m') :
    Authentic crypto (es ++ [e]) fs' m' := by
  have htarget : Accepted fs -> fs.targetSlot ≠ .none := by
    intro haccepted
    rw [h.inv.target haccepted]
    exact (fsOtherSlot_ne _).1
  cases hexit with
  | refused _ =>
      exact h.carried e hbefore hafter h.inv h.legal rfl (.refl m) fun _ => .refl fs
  | notBegun n hop _ =>
      exact h.carried e hbefore hafter h.inv h.legal rfl
        (slotsLeft_erase m (htarget (.inl hop)) (Nat.min_le_right _ _)) fun _ => .refl fs
  | begun hop =>
      have haccepted : Accepted fs := .inl hop
      have hleft := slotsLeft_erase m (htarget haccepted) (Nat.le_refl 2048)
      refine ⟨⟨fun _ => h.inv.target haccepted, fun _ => h.inv.length haccepted, fun _ => ?_⟩,
        h.legal, fun _ => ?_, fun _ => ?_, ?_⟩
      · have hlen := (h.inv.length haccepted).1
        change 8 <= fs.imageLen at hlen
        change 0 * 2048 < fs.imageLen
        omega
      · rcases h.image haccepted with ⟨w, hw, hauth, htaken⟩
        exact ⟨w, List.mem_append_left _ hw, hauth, ⟨htaken.digest, htaken.imageLen,
          htaken.version⟩⟩
      · refine ⟨(Memory.erase_blank m (fsDescAddr fs.targetSlot) 2048).sub (k := 32)
          (Nat.le_refl _) (Nat.add_le_add_left (by decide) _), ?_, ?_⟩
        · have hzero : installOffset (installStarted fs) = 0 := Nat.zero_mul _
          rw [hzero]
          rfl
        · exact (configStoreCrc32Feed_nil _).symm
      · apply h.descriptors_after hbefore hafter rfl
        intro slot hslot
        rcases hleft.desc slot hslot with hsame | hnot
        · exact .inl ⟨hsame, hleft.image slot⟩
        · exact .inr fun hlegal => absurd hlegal hnot

theorem Authentic.copying_slots (h : Authentic crypto es fs m) (hop : fs.op = .installing)
    (hsame : SameBut m (pageArea (fsSlotBase fs.targetSlot + installOffset fs)) m')
    (slot : FirmwareSlot) (hslot : slot ≠ .none) :
    Memory.SameOn m m' (fsDescAddr slot) 32 ∧
      (slot = fs.targetSlot ∨ SlotSame slot m m') := by
  have haccepted : Accepted fs := .inr (.inl hop)
  have htarget : fs.targetSlot ≠ .none := by
    rw [h.inv.target haccepted]
    exact (fsOtherSlot_ne _).1
  have hbut : SameBut m (imageArea fs.targetSlot) m' := by
    apply hsame.mono
    intro x hx
    rcases (installPage_inside h.inv hop hx.1 hx.2).2 with hdesc | himage
    · have hlt := @descArea_image _ fs.targetSlot _ hdesc
      have hlo := hx.1
      omega
    · exact himage
  have hdesc : forall x, descArea slot x -> ¬ imageArea fs.targetSlot x :=
    fun x hx => desc_not_image hx
  refine ⟨hbut.sameOn fun x hlo hhi => hdesc x ⟨hlo, by omega⟩, ?_⟩
  by_cases hequal : slot = fs.targetSlot
  · exact .inl hequal
  · exact .inr (hbut.slotSame hdesc fun x hx => imageArea_disjoint hslot htarget hequal hx)

theorem Authentic.target_ne_none (h : Authentic crypto es fs m) (haccepted : Accepted fs) :
    fs.targetSlot ≠ .none := by
  rw [h.inv.target haccepted]
  exact (fsOtherSlot_ne _).1

theorem Authentic.image_kept (h : Authentic crypto es fs m) (e : FsEvent)
    (haccepted : Accepted fs) (hdigest : fs'.bodyDigest = fs.bodyDigest)
    (hlen : fs'.imageLen = fs.imageLen) (hversion : fs'.version = fs.version) :
    exists w, w ∈ es ++ [e] ∧ Authenticated crypto w ∧ TakenFrom fs' w := by
  rcases h.image haccepted with ⟨w, hw, hauth, htaken⟩
  exact ⟨w, List.mem_append_left _ hw, hauth, hdigest.trans htaken.digest,
    hlen.trans htaken.imageLen, hversion.trans htaken.version⟩

theorem StoreInv.stepped (hinv : StoreInv fs) (hop : fs.op = .installing)
    (htarget : fs'.targetSlot = fs.targetSlot) (hboot : fs'.boot = fs.boot)
    (hlen : fs'.imageLen = fs.imageLen)
    (hpage : fs'.op = .installing -> fs'.installPage * fsPageBytes < fs.imageLen) :
    StoreInv fs' where
  target := by
    intro _
    rw [htarget, hboot]
    exact hinv.target (.inr (.inl hop))
  length := by
    intro _
    rw [hlen]
    exact hinv.length (.inr (.inl hop))
  page := by
    intro hinstalling
    rw [hlen]
    exact hpage hinstalling

theorem Authentic.copied_slots (h : Authentic crypto es fs m) (hop : fs.op = .installing)
    (hsame : SameBut m (pageArea (fsSlotBase fs.targetSlot + installOffset fs)) m')
    (slot : FirmwareSlot) (hslot : slot ≠ .none) :
    SlotSame slot m m' ∨ ¬ DescLegal slot (descBytes m' slot) := by
  rcases h.copying_slots hop hsame slot hslot with ⟨hdesc, hequal | hother⟩
  · right
    subst hequal
    exact blank_not_legal ((h.copying hop).blank.congr hdesc)
  · exact .inl hother

theorem Authentic.finished_slots (h : Authentic crypto es fs m) (hop : fs.op = .installing)
    (hcopied : PageCopied fs t m m₁) (hdesc : SameBut m₁ (descArea fs.targetSlot) m')
    (slot : FirmwareSlot) (hslot : slot ≠ .none) (hother : slot ≠ fs.targetSlot) :
    SlotSame slot m m' := by
  have htarget := h.target_ne_none (.inr (.inl hop))
  rcases (h.copying_slots hop hcopied.same slot hslot).2 with hequal | hsame
  · exact absurd hequal hother
  · exact hsame.trans (hdesc.slotSame (fun x hx => descArea_disjoint hslot htarget hother hx)
      fun x hx hin => desc_not_image hin hx)

theorem Copying.next (h : Copying fs m) (hcopied : PageCopied fs t m m')
    (hfull : installLength fs = fsPageBytes) :
    Copying { pageCopied fs t with installPage := fs.installPage + 1 } m' where
  blank := hcopied.desc_blank h.blank
  sha := by
    change m'.slice (fsSlotBase fs.targetSlot) ((fs.installPage + 1) * fsPageBytes) =
      fs.installSha ++ staged t _ (installLength fs)
    have hpage := hcopied.page
    rw [hfull] at hpage ⊢
    have hfront : m'.slice (fsSlotBase fs.targetSlot) (installOffset fs) = fs.installSha := by
      rw [← h.sha]
      apply Memory.slice_congr
      apply hcopied.same.sameOn
      intro x _ hhi hin
      have hlo := hin.1
      omega
    rw [Nat.succ_mul, Memory.slice_add]
    change m'.slice _ (installOffset fs) ++ m'.slice (_ + installOffset fs) _ = _
    rw [hfront, hpage]
  crc := by
    change configStoreCrc32Feed fs.installCrc _ = configStoreCrc32Feed _ (_ ++ _)
    rw [h.crc, configStoreCrc32Feed_append]

theorem Authentic.stepped (h : Authentic crypto es fs m) (e : FsEvent)
    {out : FirmwareStoreErr × Bool} (hbefore : e.before = m) (hafter : e.after = m')
    (hexit : InstallStepExit crypto fs m t out fs' m') : Authentic crypto (es ++ [e]) fs' m' := by
  cases hexit with
  | refused _ =>
      exact h.carried e hbefore hafter h.inv h.legal rfl (.refl m) fun _ => .refl fs
  | notCopied hop _ hsame =>
      refine ⟨h.inv.stepped hop rfl rfl rfl fun hcases => (by cases hcases), h.legal,
        fun _ => h.image_kept e (.inr (.inl hop)) rfl rfl rfl, fun hcases => (by cases hcases), ?_⟩
      apply h.descriptors_after hbefore hafter rfl
      intro slot hslot
      exact (h.copied_slots hop hsame slot hslot).imp id fun hnot hlegal => absurd hlegal hnot
  | copied hop hcopied hmore =>
      unfold installLength installOffset at hmore
      change ¬ min (fs.imageLen - fs.installPage * 2048) 2048 =
        fs.imageLen - fs.installPage * 2048 at hmore
      have hfull : installLength fs = fsPageBytes := by
        change min (fs.imageLen - fs.installPage * 2048) 2048 = 2048
        omega
      have hnext : (fs.installPage + 1) * 2048 < fs.imageLen := by omega
      refine ⟨h.inv.stepped hop rfl rfl rfl fun _ => hnext, h.legal,
        fun _ => h.image_kept e (.inr (.inl hop)) rfl rfl rfl,
        fun _ => (h.copying hop).next hcopied hfull, ?_⟩
      apply h.descriptors_after hbefore hafter rfl
      intro slot hslot
      exact (h.copied_slots hop hcopied.same slot hslot).imp id
        fun hnot hlegal => absurd hlegal hnot
  | finished hop hcopied hall hdesc hupTo =>
      refine ⟨h.inv.stepped hop rfl rfl rfl fun hcases => (by cases hcases), h.legal,
        fun _ => h.image_kept e (.inr (.inl hop)) rfl rfl rfl, fun hcases => (by cases hcases), ?_⟩
      apply h.descriptors_after hbefore hafter rfl
      intro slot hslot
      by_cases hequal : slot = fs.targetSlot
      · right
        subst hequal
        exact h.sealed hop hcopied hall hdesc (Nat.le_refl _) hupTo hbefore hafter
      · exact .inl (h.finished_slots hop hcopied hdesc slot hslot hequal)
  | unfinished k n hop _ hcopied hall hk hdesc hupTo =>
      refine ⟨h.inv.stepped hop rfl rfl rfl fun hcases => (by cases hcases), h.legal,
        fun _ => h.image_kept e (.inr (.inl hop)) rfl rfl rfl, fun hcases => (by cases hcases), ?_⟩
      apply h.descriptors_after hbefore hafter rfl
      intro slot hslot
      by_cases hequal : slot = fs.targetSlot
      · right
        subst hequal
        intro hlegal
        -- an erase that did nothing leaves what the descriptor write left
        rcases @descErased _ fs.targetSlot (min n 2048) with hnothing | hnot
        · rw [hnothing] at hlegal hafter ⊢
          exact h.sealed hop hcopied hall hdesc hk hupTo hbefore hafter hlegal
        · exact absurd hlegal hnot
      · have htarget := h.target_ne_none (.inr (.inl hop))
        exact .inl ((h.finished_slots hop hcopied hdesc slot hslot hequal).trans
          (slotSame_erase hslot htarget hequal (Nat.min_le_right _ _)))

/-!
## Boot control
-/

theorem Requests.capable (h : Requests fs call) : fs.boot.otaCapable = true := by
  cases call with
  | activate => exact h.1
  | confirm => exact h.1
  | rollback => exact h.1
  | acknowledgeRollback => exact h.1
  | _ => exact h.elim

theorem recorded_sameImage (hrequests : Requests fs call) (haccepted : Accepted (recorded fs call))
    : SameImage fs (recorded fs call) := by
  cases call with
  | activate =>
      rw [accepted_of_eq .activated rfl] at haccepted
      rcases haccepted with h | h | h
      · cases h
      · cases h
      · cases h
  | confirm => exact ⟨rfl, rfl, rfl, rfl, rfl, rfl, rfl, rfl⟩
  | rollback => exact ⟨rfl, rfl, rfl, rfl, rfl, rfl, rfl, rfl⟩
  | acknowledgeRollback => exact ⟨rfl, rfl, rfl, rfl, rfl, rfl, rfl, rfl⟩
  | _ => exact hrequests.elim

theorem recorded_legal (hcall : IsBootControl call) (hlegal : LegalBanks fs)
    (hrequests : Requests fs call) : LegalBanks (recorded fs call) := by
  intro _
  have hvalid := (requestedRecord_valid hlegal hrequests).1
  rw [(recorded_meta fs hcall).1]
  exact ⟨hvalid.2.2.1, hvalid.2.2.2.1⟩

theorem recorded_runningSlot (call : FsCall) :
    (recorded fs call).boot.runningSlot = fs.boot.runningSlot := by
  cases call <;> rfl

theorem leftSlot_ne_none (hlegal : LegalBanks fs) (hcapable : fs.boot.otaCapable = true) :
    leftSlot fs ≠ .none := by
  unfold leftSlot
  rcases (hlegal hcapable).2 with hbank | hbank
  · rw [hbank]
    decide
  · rw [hbank]
    decide

theorem Authentic.bootCalled (h : Authentic crypto es fs m) (e : FsEvent) {G : Faults iflash}
    (hbefore : e.before = m) (hafter : e.after = m') (hcall : IsBootControl call)
    (hexit : BootCallExit G m fs call err fs' m') : Authentic crypto (es ++ [e]) fs' m' := by
  have hleft : Requests fs call -> leftSlot fs ≠ .none :=
    fun hrequests => leftSlot_ne_none h.legal hrequests.capable
  have hwritten : SlotsLeft m (written m (fsMetaTarget fs.fsMeta) (requestedRecord fs call) 24) :=
    slotsLeft_meta (written_sameOutside _ _ _ _)
  have hrecorded : Requests fs call -> SlotsLeft m m' -> fs' = recorded fs call ->
      Authentic crypto (es ++ [e]) fs' m' := by
    intro hrequests hslots hequal
    subst hequal
    exact h.carried e hbefore hafter (recorded_inv h.inv hcall)
      (recorded_legal hcall h.legal hrequests) (recorded_runningSlot call) hslots
      (recorded_sameImage hrequests)
  cases hexit with
  | idle _ _ => exact h.carried e hbefore hafter h.inv h.legal rfl (.refl m) fun _ => .refl fs
  | failed _ _ hwrite =>
      exact h.carried e hbefore hafter h.inv h.legal rfl (slotsLeft_meta hwrite.midway.sameOutside)
        fun _ => .refl fs
  | done hrequests _ => exact hrecorded hrequests hwritten rfl
  | settled hrequests _ =>
      exact hrecorded hrequests
        (hwritten.trans (slotsLeft_erase _ (hleft hrequests) (Nat.le_refl _))) rfl
  | unsettled n hrequests _ _ =>
      exact hrecorded hrequests
        (hwritten.trans (slotsLeft_erase _ (hleft hrequests) (Nat.min_le_right _ _))) rfl

/-!
## Sessions
-/

theorem Authentic.called (h : Authentic crypto es fs m) {F : Faults storeIo} {answer : FsAnswer}
    {t' : (qspiFlash.sum cryptoDevice).State}
    (hexec : Program.Exec storeDevice F (fsPerform crypto fs call) (m, t) (some (answer, fs'))
      (m', t')) : Authentic crypto (es ++ [⟨call, answer, t, m, m'⟩]) fs' m' := by
  have hgiven : forall {α : Type} {p : StoreIo α} (f : α -> FsAnswer × FsInst),
      StoreWithin nowhere (fun out => GivenUp fs (f out).2) p ->
      Program.Exec storeDevice F (p >>= fun out => pure (f out)) (m, t) (some (answer, fs'))
        (m', t') -> Authentic crypto (es ++ [⟨call, answer, t, m, m'⟩]) fs' m' := by
    intro α p f hwithin hrun
    rcases Program.wp_answers (wp_storeWithin hwithin) hrun with ⟨out, hout, hend, hsame⟩
    cases sameBut_nowhere hsame
    rw [← hout] at hend
    exact h.givenUp _ rfl rfl hend
  have hboot : IsBootControl call -> Authentic crypto (es ++ [⟨call, answer, t, m, m'⟩]) fs' m' := by
    intro hcall
    exact h.bootCalled _ rfl rfl hcall (Program.wp_returns (wp_bootControl hcall h.legal) hexec)
  cases call with
  | begin imageId fileLen => exact hgiven fsCodeOnly (within_doBegin imageId fileLen) hexec
  | resume imageId fileLen =>
      exact hgiven (fun out : (FirmwareStoreErr × Option Nat) × FsInst =>
          (⟨out.1.1, out.1.2, false⟩, out.2))
        (within_doResume imageId fileLen) hexec
  | writeChunk offset data => exact hgiven fsCodeOnly (within_doWriteChunk offset data) hexec
  | discard => exact hgiven fsCodeOnly within_doDiscard hexec
  | verify =>
      rcases Program.wp_answers (f := fsCodeOnly) wp_doVerify hexec with
        ⟨out, hout, hsame, hfailed, hok⟩
      cases hsame
      cases hout
      by_cases herr : out.1 = .ok
      · exact h.verified _ rfl rfl rfl herr (hok herr).1 (hok herr).2.1
      · change Authentic crypto _ out.2 m
        rw [hfailed herr]
        exact h.givenUp _ rfl rfl (.refl fs)
  | installBegin =>
      rcases Program.wp_answers (f := fsCodeOnly) (wp_doInstallBegin (t := t)) hexec with
        ⟨out, hout, hexit, _⟩
      cases hout
      exact h.begun _ rfl rfl hexit
  | installStep =>
      rcases Program.wp_answers
          (f := fun out : (FirmwareStoreErr × Bool) × FsInst =>
            ((⟨out.1.1, none, out.1.2⟩ : FsAnswer), out.2))
          (wp_doInstallStep fun hop => (h.copying hop).blank) hexec with ⟨out, hout, hexit⟩
      cases hout
      exact h.stepped _ rfl rfl hexit
  | activate => exact hboot trivial
  | confirm => exact hboot trivial
  | rollback => exact hboot trivial
  | acknowledgeRollback => exact hboot trivial

theorem FsHistory.authentic (h : FsHistory crypto es fs m) : Authentic crypto es fs m := by
  induction h with
  | created hexec =>
      rename_i F base m m' fs
      have hread := Program.wp_returns (reads_firmwareStoreCreate F m base) hexec
      rcases hread with ⟨hsame, hfs | ⟨hnone, _⟩⟩
      · subst hsame
        cases hfs
        have hidle : ¬ Accepted (createdStore m' base) := by
          rw [accepted_of_eq .idle rfl]
          decide
        refine ⟨createdStore_inv m' base, (created_synced m' base).legalBanks,
          fun haccepted => absurd haccepted hidle, fun hop => (by cases hop), ?_⟩
        intro slot _ hwritten
        rcases hwritten with ⟨e, he, _⟩
        cases he
      · cases hnone
  | called _ hexec ih => exact ih.called hexec

/-- The image of the running slot, and its descriptor unless the record in RAM names the slot
as the previous one. -/
def RunningArea (fs : FsInst) (x : Nat) : Prop :=
  imageArea fs.boot.runningSlot x ∨
    (leftSlot fs ≠ fs.boot.runningSlot ∧ descArea fs.boot.runningSlot x)

theorem targetArea_spares (hinv : StoreInv fs) (hrunning : fs.boot.runningSlot ≠ .none)
    (hx : targetArea fs x) : ¬ RunningArea fs x := by
  have htarget := hinv.target hx.1
  have hne := fsOtherSlot_ne fs.boot.runningSlot
  rw [← htarget] at hne
  intro hin
  rcases hx.2 with hdesc | himage
  · rcases hin with himage | ⟨_, hdesc'⟩
    · exact desc_not_image hdesc himage
    · exact descArea_disjoint hne.1 hrunning hne.2 hdesc hdesc'
  · rcases hin with himage' | ⟨_, hdesc⟩
    · exact imageArea_disjoint hne.1 hrunning hne.2 himage himage'
    · exact desc_not_image hdesc himage

theorem bootArea_spares (hx : bootArea fs x) : ¬ RunningArea fs x := by
  have hmeta := fsMetaAddr_below (fsMetaTarget fs.fsMeta)
  have hhi := hx.2
  intro hin
  rcases hin with himage | ⟨_, hdesc⟩
  · have hbase := fsSlotBase_ge fs.boot.runningSlot
    have hlo := himage.1
    have hbelow : firmwareDescAAddr <= firmwareSlotABase := by decide
    omega
  · have hbase := (fsDescAddr_le fs.boot.runningSlot).1
    have hlo := hdesc.1
    omega

theorem settleArea_spares (hlegal : LegalBanks fs) (hcapable : fs.boot.otaCapable = true)
    (hrunning : fs.boot.runningSlot ≠ .none) (hx : settleArea fs x) : ¬ RunningArea fs x := by
  rcases hx with hmeta | hdesc
  · exact bootArea_spares hmeta
  · intro hin
    rcases hin with himage | ⟨hne, hdesc'⟩
    · exact desc_not_image hdesc himage
    · exact descArea_disjoint (leftSlot_ne_none hlegal hcapable) hrunning hne hdesc hdesc'

theorem Authentic.spares_running (h : Authentic crypto es fs m)
    (hrunning : fs.boot.runningSlot ≠ .none) (call : FsCall) :
    StoreWithin (fun x => ¬ RunningArea fs x) (fun _ => True) (fsPerform crypto fs call) := by
  have hspares : (forall x, callArea fs call x -> ¬ RunningArea fs x) ->
      StoreWithin (fun x => ¬ RunningArea fs x) (fun _ => True) (fsPerform crypto fs call) :=
    fun harea => (within_fsPerform h.inv call).mono
      (fun _ hop => hop.mono harea fun _ hany => hany) fun _ _ => trivial
  have hincapable : fs.boot.otaCapable = false -> IsBootControl call ->
      StoreWithin (fun x => ¬ RunningArea fs x) (fun _ => True) (fsPerform crypto fs call) := by
    intro hnot hcall
    cases call with
    | activate =>
        change StoreWithin _ _ (doActivate fs >>= _)
        unfold doActivate
        rw [if_pos hnot]
        trivial
    | confirm =>
        change StoreWithin _ _ (doConfirm fs >>= _)
        unfold doConfirm
        rw [if_pos hnot]
        trivial
    | rollback =>
        change StoreWithin _ _ (doRollback fs >>= _)
        unfold doRollback
        rw [if_pos hnot]
        trivial
    | acknowledgeRollback =>
        change StoreWithin _ _ (doAcknowledgeRollback fs >>= _)
        unfold doAcknowledgeRollback
        rw [if_pos hnot]
        trivial
    | _ => exact hcall.elim
  cases hcapable : fs.boot.otaCapable with
  | false =>
      cases call with
      | activate => exact hincapable hcapable trivial
      | confirm => exact hincapable hcapable trivial
      | rollback => exact hincapable hcapable trivial
      | acknowledgeRollback => exact hincapable hcapable trivial
      | begin _ _ => exact hspares fun _ hx => hx.elim
      | resume _ _ => exact hspares fun _ hx => hx.elim
      | writeChunk _ _ => exact hspares fun _ hx => hx.elim
      | discard => exact hspares fun _ hx => hx.elim
      | verify => exact hspares fun _ hx => hx.elim
      | installBegin => exact hspares fun _ hx => targetArea_spares h.inv hrunning hx
      | installStep => exact hspares fun _ hx => targetArea_spares h.inv hrunning hx
  | true =>
      apply hspares
      intro x hx
      cases call with
      | activate => exact bootArea_spares hx
      | confirm => exact settleArea_spares h.legal hcapable hrunning hx
      | rollback => exact bootArea_spares hx
      | acknowledgeRollback => exact settleArea_spares h.legal hcapable hrunning hx
      | installBegin => exact targetArea_spares h.inv hrunning hx
      | installStep => exact targetArea_spares h.inv hrunning hx
      | _ => exact hx.elim

end

/-- In every session, a descriptor that the session wrote and that a reader accepts stands in
the other slot and goes back to a verification that answered OK before; and no call touches
the running slot. -/
theorem only_verified_images_are_sealed {crypto : OtaCrypto} {es : List FsEvent}
    {fs : FsInst} {m : Memory} (h : FsHistory crypto es fs m) :
    (forall slot, slot ≠ .none -> DescWritten es slot -> DescLegal slot (descBytes m slot) ->
      slot = fsOtherSlot fs.boot.runningSlot ∧ slot ≠ fs.boot.runningSlot ∧
        Traced crypto es slot m) ∧
    (fs.boot.runningSlot ≠ .none -> forall call,
      StoreWithin (fun x => ¬ RunningArea fs x) (fun _ => True) (fsPerform crypto fs call)) := by
  have hauthentic := h.authentic
  constructor
  · intro slot hslot hwritten hlegal
    rcases hauthentic.descriptors slot hslot hwritten hlegal with ⟨hother, htraced⟩
    refine ⟨hother, ?_, htraced⟩
    rw [hother]
    exact (fsOtherSlot_ne _).2
  · exact hauthentic.spares_running

/-!
## A small update
-/

/-- A library that accepts everything. -/
def openCrypto : OtaCrypto where
  sha256 := fun _ => List.replicate otaSha256Len 0
  ecdsaP256Verify := fun _ _ => true

/-- A staged file with an image for slot B. -/
def sampleFile (version : UInt32) (image : List UInt8) : List UInt8 :=
  wordBytes firmwareImageMagic ++ putLe 2 firmwareImageHeaderVersion ++
    putLe 2 firmwareHeaderSize ++ putLe 4 image.length ++ wordBytes version ++
    putLe 4 firmwareSlotBBase ++ List.replicate 108 0 ++ image

/-- The staging area with the file complete, journal included. -/
def sampleStaging (version : UInt32) (image : List UInt8) : (qspiFlash.sum cryptoDevice).State :=
  (fun x =>
    if x < imageAddr 0 then
      (journalSessionBytes 1 (firmwareHeaderSize + image.length) ++
        journalEntryBytes (firmwareHeaderSize + image.length)).getD (x - journalAddr) erasedByte
    else
      (sampleFile version image).getD (x - imageAddr 0) erasedByte, ())

def confirmedRecord : FirmwareBootMeta :=
  fsMetaRecord firmwareBankA firmwareMetaStateConfirmed firmwareBankB 0 1

/-- A device that runs a confirmed image in slot A. -/
def idleDevice : FsInst × Memory :=
  (createdStore (deviceFlash .a confirmedRecord) firmwareSlotABase, deviceFlash .a confirmedRecord)

/-- The instance and the flash after a call without failures. -/
def callSample (staging : (qspiFlash.sum cryptoDevice).State) (call : FsCall)
    (s : FsInst × Memory) : FsInst × Memory :=
  let out := (fsPerform openCrypto s.1 call).eval storeDevice (s.2, staging)
  (out.1.2, out.2.1)

def sampleAnswer (staging : (qspiFlash.sum cryptoDevice).State) (call : FsCall)
    (s : FsInst × Memory) : FsAnswer :=
  ((fsPerform openCrypto s.1 call).eval storeDevice (s.2, staging)).1.1

/-- The device once the staged file is verified. -/
def verifiedSample (staging : (qspiFlash.sum cryptoDevice).State) : FsInst × Memory :=
  callSample staging .verify (callSample staging (.resume 1 136) idleDevice)

def begunSample (staging : (qspiFlash.sum cryptoDevice).State) : FsInst × Memory :=
  callSample staging .installBegin (verifiedSample staging)

theorem callSample_history {es : List FsEvent} {s : FsInst × Memory}
    (staging : (qspiFlash.sum cryptoDevice).State) (call : FsCall)
    (h : FsHistory openCrypto es s.1 s.2) :
    FsHistory openCrypto
      (es ++ [⟨call, sampleAnswer staging call s, staging, s.2, (callSample staging call s).2⟩])
      (callSample staging call s).1 (callSample staging call s).2 :=
  .called h (Program.exec_eval storeDevice (Faults.never storeIo) _ _)

theorem idleDevice_history : FsHistory openCrypto [] idleDevice.1 idleDevice.2 :=
  .created (F := Faults.never iflash) (Program.exec_of_eval
    (reads_firmwareStoreCreate (Faults.never iflash) idleDevice.2 firmwareSlotABase).eval_eq)

theorem begunSample_history (staging : (qspiFlash.sum cryptoDevice).State) :
    exists es, FsHistory openCrypto es (begunSample staging).1 (begunSample staging).2 :=
  ⟨_, callSample_history staging .installBegin (callSample_history staging .verify
    (callSample_history staging (.resume 1 136) idleDevice_history))⟩

theorem only_verified_images_are_sealed_sample : exists es fs m,
    FsHistory openCrypto es fs m ∧ DescLegal .b (descBytes m .b) ∧ Traced openCrypto es .b m := by
  rcases begunSample_history (sampleStaging 1 (smallImage .b)) with ⟨es, hbegun⟩
  have hdone := callSample_history (sampleStaging 1 (smallImage .b)) .installStep hbegun
  have hsealed : DescLegal .b (descBytes (callSample (sampleStaging 1 (smallImage .b)) .installStep
      (begunSample (sampleStaging 1 (smallImage .b)))).2 .b) ∧
      descBytes (begunSample (sampleStaging 1 (smallImage .b))).2 .b =
        List.replicate 32 erasedByte := by
    decide +kernel
  exact ⟨_, _, _, hdone, hsealed.1, ((only_verified_images_are_sealed hdone).1 .b (by decide)
    (descWritten_last es (Memory.blank_of_slice hsealed.2) hsealed.1) hsealed.1).2.2⟩

theorem bootCall_never {crypto : OtaCrypto} {call : FsCall} (t : (qspiFlash.sum cryptoDevice).State)
    (hcall : IsBootControl call) (hlegal : LegalBanks fs) (hrequests : Requests fs call) :
    exists answer m' t', (fsPerform crypto fs call).eval storeDevice (m, t) =
        ((answer, recorded fs call), (m', t')) ∧ answer.err = .ok ∧
      m' = if Settles call then
          (written m (fsMetaTarget fs.fsMeta) (requestedRecord fs call) 24).erase
            (fsDescAddr (leftSlot fs)) 2048
        else written m (fsMetaTarget fs.fsMeta) (requestedRecord fs call) 24 := by
  have hexit := Program.wp_never_iff.mp
    (@wp_bootControl (Faults.never storeIo) m t crypto _ _ hcall hlegal)
  generalize hout : (fsPerform crypto fs call).eval storeDevice (m, t) = out at hexit ⊢
  rcases out with ⟨⟨answer, fs'⟩, m', t'⟩
  dsimp only at hexit
  generalize herr : answer.err = err at hexit
  cases hexit with
  | idle hnot _ => exact absurd hrequests hnot
  | failed _ _ hwrite =>
      rcases hwrite.fault with ⟨_, _, hfail⟩
      exact hfail.elim
  | done _ hnot => exact ⟨answer, _, t', rfl, herr, (if_neg hnot).symm⟩
  | settled _ hsettles => exact ⟨answer, _, t', rfl, herr, (if_pos hsettles).symm⟩
  | unsettled _ _ _ hfail => exact hfail.elim

/-- A version that makes the CRC of a descriptor torn behind its load address the erased
word. -/
def tornVersion : UInt32 := 0x8421B30F

/-- The step that seals the slot, with a descriptor write that fails after 16 bytes and an
erase that fails at once. -/
def tornScript : List Outcome :=
  [.completed, .completed, .completed, .completed, .completed, .completed, .failed 16, .failed 0]

def tornRun : Option (FsAnswer × FsInst) × storeDevice.State :=
  (fsPerform openCrypto (begunSample (sampleStaging tornVersion (smallImage .b))).1
    .installStep).run storeDevice tornScript
      ((begunSample (sampleStaging tornVersion (smallImage .b))).2,
        sampleStaging tornVersion (smallImage .b))

/-- Acknowledging a rollback without a reset erases the running slot's descriptor; and a
descriptor torn inside the CRC of the body can be accepted. -/
theorem running_descriptor_erased :
    (exists es fs m, FsHistory noCrypto es fs m ∧ exists e, e ∈ es ∧ e.answer.err = .ok ∧
      descBytes e.after fs.boot.runningSlot ≠ descBytes e.before fs.boot.runningSlot) ∧
    (exists es fs m, FsHistory openCrypto es fs m ∧ DescWritten es .b ∧
      DescLegal .b (descBytes m .b) ∧ (descIn m .b).bodyCrc32 ≠
        configStoreCrc32 (m.slice (fsSlotBase .b) (descIn m .b).imageLen.toNat)) := by
  constructor
  · have hforce : inForce (deviceFlash .b trialRunningRecord) = some (0, trialRunningRecord) :=
      trialStore_facts.1
    have hrequests := trialStore_facts.2.2.1
    have hstart : FsHistory noCrypto [] trialStore (deviceFlash .b trialRunningRecord) :=
      .created (F := Faults.never iflash) (Program.exec_of_eval (reads_firmwareStoreCreate
        (Faults.never iflash) (deviceFlash .b trialRunningRecord) firmwareSlotBBase).eval_eq)
    have hrollback : Requests trialStore .rollback := hrequests
    rcases @bootCall_never (deviceFlash .b trialRunningRecord) _ noCrypto .rollback
      blankStaging trivial hstart.authentic.legal hrollback with
      ⟨a₁, m₁, t₁, heval₁, hok₁, hm₁⟩
    have hrolled := FsHistory.called hstart (Program.exec_of_eval (F := Faults.never storeIo) heval₁)
    have hack : Requests (recorded trialStore .rollback) .acknowledgeRollback :=
      ⟨hrollback.1, rfl⟩
    rcases @bootCall_never m₁ _ noCrypto .acknowledgeRollback blankStaging
      trivial hrolled.authentic.legal hack with
      ⟨a₂, m₂, t₂, heval₂, hok₂, hm₂⟩
    have hdone := FsHistory.called hrolled
      (Program.exec_of_eval (F := Faults.never storeIo) heval₂)
    refine ⟨_, _, _, hdone, _, List.mem_append_right _ (List.mem_singleton_self _), hok₂, ?_⟩
    change descBytes m₂ .b ≠ descBytes m₁ .b
    have hlegal : DescLegal .b (descBytes m₁ .b) := by
      have hsame := Memory.slice_congr (sameOn_desc_meta
        (written_sameOutside (deviceFlash .b trialRunningRecord)
          (fsMetaTarget trialStore.fsMeta) (requestedRecord trialStore .rollback) 24) .b)
      rw [hm₁, if_neg (by exact id)]
      unfold descBytes
      rw [hsame]
      decide +kernel
    have herased : ¬ DescLegal .b (descBytes m₂ .b) := by
      have hleft : leftSlot (recorded trialStore .rollback) = .b := by
        change fsSlotFromBank trialStore.fsMeta.activeBank = .b
        rw [trialStore_facts.2.2.2]
        rfl
      rw [hm₂, if_pos (by exact trivial), hleft]
      apply blank_not_legal
      exact (Memory.erase_blank _ (fsDescAddr .b) 2048).sub (k := 32) (Nat.le_refl _) (by decide)
    intro hsame
    rw [hsame] at herased
    exact herased hlegal
  · rcases begunSample_history (sampleStaging tornVersion (smallImage .b)) with ⟨es, hbegun⟩
    have hlast := Program.exec_run storeDevice _ tornScript
      ((begunSample (sampleStaging tornVersion (smallImage .b))).2,
        sampleStaging tornVersion (smallImage .b))
      (Program.allowed_always storeDevice tornScript (fsPerform openCrypto
        (begunSample (sampleStaging tornVersion (smallImage .b))).1 .installStep) _)
    have hfacts : tornRun.1.isSome = true ∧ DescLegal .b (descBytes tornRun.2.1 .b) ∧
        (descIn tornRun.2.1 .b).bodyCrc32 ≠ configStoreCrc32
          (tornRun.2.1.slice (fsSlotBase .b) (descIn tornRun.2.1 .b).imageLen.toNat) ∧
        descBytes (begunSample (sampleStaging tornVersion (smallImage .b))).2 .b =
          List.replicate 32 erasedByte := by
      decide +kernel
    change Program.Exec _ _ _ _ tornRun.1 tornRun.2 at hlast
    generalize tornRun = out at hlast hfacts
    rcases out with ⟨answer, m', t'⟩
    rcases hfacts with ⟨hsome, hlegal, hcrc, hblank⟩
    cases answer with
    | none => cases hsome
    | some answer =>
        exact ⟨_, _, _, .called hbegun hlast,
          descWritten_last es (Memory.blank_of_slice hblank) hlegal, hlegal, hcrc⟩

end EnvMonitor.Gateway.FirmwareStore
