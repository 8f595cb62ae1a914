import EnvMonitor.ConfigStore.Probing

/-!
# The configuration store of the field device

`config_store.c`: a save writes the blob into the slot beside the active one, a load takes the
valid slot with the higher sequence number.  A slot that could not be read counts as invalid.
-/

namespace EnvMonitor.FieldDevice.ConfigStore

open Device Drivers Gateway.ConfigStore EnvMonitor.ConfigStore
open Config (Side Copy Copies Ledger)
open Program (eval_bind wp_bind wp_ite wp_seq)

/-- The error codes; the null-pointer code is left out with the pointers. -/
inductive ConfigStoreErr where
  | ok
  | notInit
  | tooLarge
  | noValidSlot
  | flashErase
  | flashWrite
  | flashRead
  deriving DecidableEq, Repr

def configStoreMagic : Nat := 0xBADC0DE0

/-- The field device takes any length a header gives. -/
def csFormat : SlotFormat where
  magic := configStoreMagic
  accepts := fun _ => true
  magic_lt := by decide
  accepts_blob := fun _ _ => rfl

/-- Size of the pieces in which the CRC is fed with erased bytes. -/
abbrev csFfPadSize : Nat := 64

/-- The sequence number is a 32-bit word. -/
def seqSucc (seq : Nat) : Nat :=
  (seq + 1) % 256 ^ 4

/-- `cs_validate_slot`: the sequence number of a valid slot. -/
def csValidateSlot (slot : Side) : Qspi (Option Nat) := do
  let base := csSlotBase slot
  match ← qspiRead base csHeaderSize with
  | none => pure none
  | some hdr =>
      if fieldAt hdr 0 4 = configStoreMagic then do
        match ← qspiRead (base + csCrcOffset) csCrcSize with
        | none => pure none
        | some storedCrc =>
            match ← csSlotCrc base with
            | none => pure none
            | some crcState =>
                if (configStoreCrc32End crcState).toNat = getLe storedCrc then
                  pure (some (fieldAt hdr 4 4))
                else
                  pure none
      else
        pure none

/-- The slot a save writes and the sequence number it gets. -/
def csSelectTarget (seqA seqB : Option Nat) : Side × Nat :=
  let (active, nextSeq) :=
    match seqA, seqB with
    | none, none => (Side.a, 1)
    | none, some b => (.b, seqSucc b)
    | some a, none => (.a, seqSucc a)
    | some a, some b => if b <= a then (.a, seqSucc a) else (.b, seqSucc b)
  (active.other, nextSeq)

/-- `cs_save_locked` once the slots are validated. -/
def csSaveTarget (data : List UInt8) (seqA seqB : Option Nat) : Qspi ConfigStoreErr := do
  let (target, nextSeq) := csSelectTarget seqA seqB
  match ← csWriteSlot csFormat csFfPadSize (csSlotBase target) nextSeq data with
  | .done => pure .ok
  | .eraseFailed => pure .flashErase
  | .writeFailed => pure .flashWrite

def csSaveLocked (data : List UInt8) : Qspi ConfigStoreErr := do
  let seqA ← csValidateSlot .a
  let seqB ← csValidateSlot .b
  csSaveTarget data seqA seqB

def configStoreSave (initialised : Bool) (data : List UInt8) : Qspi ConfigStoreErr :=
  if initialised = false then
    pure .notInit
  else if configStoreMaxDataBytes < data.length then
    pure .tooLarge
  else
    csSaveLocked data

/-- The slot a load takes. -/
def csSelected (seqA seqB : Option Nat) : Option Side :=
  match seqA, seqB with
  | none, none => none
  | none, some _ => some .b
  | some _, none => some .a
  | some a, some b => if b <= a then some .a else some .b

/-- `config_store_load` once the slots are validated. -/
def csLoadSelected (maxLen : Nat) (seqA seqB : Option Nat) :
    Qspi (Except ConfigStoreErr (List UInt8)) :=
  match csSelected seqA seqB with
  | none => pure (.error .noValidSlot)
  | some selected => do
      let base := csSlotBase selected
      match ← qspiRead base csHeaderSize with
      | none => pure (.error .flashRead)
      | some hdr =>
          if maxLen < fieldAt hdr 8 4 then
            pure (.error .tooLarge)
          else do
            match ← qspiRead (base + csHeaderSize) (fieldAt hdr 8 4) with
            | none => pure (.error .flashRead)
            | some data => pure (.ok data)

def configStoreLoad (initialised : Bool) (maxLen : Nat) :
    Qspi (Except ConfigStoreErr (List UInt8)) :=
  if initialised = false then
    pure (.error .notInit)
  else do
    let seqA ← csValidateSlot .a
    let seqB ← csValidateSlot .b
    csLoadSelected maxLen seqA seqB

/-- `config_store_init`: one probe read of four bytes. -/
def configStoreInit (initialised : Bool) : Qspi ConfigStoreErr :=
  if initialised then
    pure .ok
  else do
    match ← qspiRead (csSlotBase .a) 4 with
    | none => pure .flashRead
    | some _ => pure .ok

/-!
## What validation reports
-/

theorem sees_csValidateSlot : SeesSlots csFormat csValidateSlot id := by
  intro F m s
  have hin := csSlotBase_le s
  have hhdr : csSlotBase s + csHeaderSize <= qspiFlashDeviceSizeBytes :=
    Nat.le_trans (Nat.add_le_add_left (by decide) _) hin
  have hcrc : csSlotBase s + csCrcOffset + csCrcSize <= qspiFlashDeviceSizeBytes := by
    rw [Nat.add_assoc]
    exact Nat.le_trans (Nat.add_le_add_left (by decide) _) hin
  unfold csValidateSlot
  dsimp only
  rw [wp_bind, wp_qspiRead (by decide) hhdr]
  refine ⟨?_, fun n hn => ⟨rfl, .inr ⟨rfl, _, n, hn⟩⟩, fun _ _ => rfl⟩
  have hcopy : copies csFormat m s = decodeSlot csFormat (m.slice (csSlotBase s) csSlotUsed) := rfl
  have hmagic := fieldAt_header (m.slice (csSlotBase s) csSlotUsed) 0 (by decide)
  have hseq := fieldAt_header (m.slice (csSlotBase s) csSlotUsed) 4 (by decide)
  rw [← slice_csHeader] at hmagic hseq
  dsimp only
  rw [hmagic, hseq]
  apply wp_ite
  · intro hm
    rw [wp_bind, wp_qspiRead (by decide) hcrc]
    refine ⟨?_, fun n hn => ⟨rfl, .inr ⟨rfl, _, n, hn⟩⟩, fun _ _ => rfl⟩
    rw [slice_csCrc]
    dsimp only
    apply wp_seq (reads_csSlotCrc s)
    intro r m' hr
    rcases hr with ⟨rfl, rfl | ⟨rfl, hfail⟩⟩
    · dsimp only
      rw [slice_covered]
      apply wp_ite
      · intro hc
        constructor
        · rfl
        · rw [hcopy]
          unfold decodeSlot
          rw [if_pos ⟨hm, rfl, hc⟩]
          exact .inl rfl
      · intro hc
        constructor
        · rfl
        · rw [hcopy]
          unfold decodeSlot
          rw [if_neg fun h => hc h.2.2]
          exact .inl rfl
    · exact ⟨rfl, .inr ⟨rfl, hfail⟩⟩
  · intro hm
    constructor
    · rfl
    · rw [hcopy]
      unfold decodeSlot
      rw [if_neg fun h => hm h.1]
      exact .inl rfl

/-!
## Which slot is written and which is loaded
-/

section Selection

variable {c : Copies (List UInt8)} {seen : Side -> Option Nat}

theorem csSelected_eq (seqA seqB : Option Nat) :
    csSelected seqA seqB = Copies.newestOf seqA seqB := by
  cases seqA <;> cases seqB <;> rfl

theorem csSelectTarget_eq (seen : Side -> Option Nat) :
    csSelectTarget (seen .a) (seen .b) =
      match Copies.newestOf (seen .a) (seen .b) with
      | none => (.b, 1)
      | some s => (s.other, seqSucc ((seen s).getD 0)) := by
  unfold csSelectTarget Copies.newestOf
  cases ha : seen .a with
  | none =>
      cases hb : seen .b with
      | none => rfl
      | some b => simp [hb]
  | some a =>
      cases hb : seen .b with
      | none => simp [ha]
      | some b =>
          dsimp only
          split
          · simp [ha]
          · simp [hb]

theorem csSelectTarget_chosen (hseen : Copies.Seen c seen)
    (hroom : forall s x, c s = some x -> x.seq + 1 < 256 ^ 4) :
    Copies.Chosen c (csSelectTarget (seen .a) (seen .b)).1
      (csSelectTarget (seen .a) (seen .b)).2 := by
  rw [csSelectTarget_eq, hseen.newestOf_eq]
  unfold Copies.Chosen
  cases hnew : Copies.newest c with
  | none => rfl
  | some s =>
      rcases Copies.newest_valid hnew with ⟨x, hx⟩
      have hseq := hseen.newest s hnew
      rw [hx] at hseq
      constructor
      · rfl
      · exists x
        constructor
        · exact hx
        · dsimp only
          rw [hseq]
          exact Nat.mod_eq_of_lt (hroom s x hx)

end Selection

/-!
## After validation
-/

section Operations

variable {F : Faults qspi} {m m' : Memory} {seqA seqB : Option Nat}

variable {data : List UInt8} {x : Copy (List UInt8)} {s : Side} {maxLen : Nat}

theorem wp_csSaveTarget (hlen : data.length <= configStoreMaxDataBytes) (seqA seqB : Option Nat) :
    (csSaveTarget data seqA seqB).wp qspiFlash F
      (fun r (m' : Memory) =>
        m.SameOutside m' (csSlotBase (csSelectTarget seqA seqB).1) configStoreSlotSize ∧
        (r = .ok -> m'.slice (csSlotBase (csSelectTarget seqA seqB).1) csSlotUsed =
          slotImage csFormat (csSelectTarget seqA seqB).2 data) ∧
        (r ≠ .ok -> exists op k, F.fails op k))
      (fun (m' : Memory) =>
        m.SameOutside m' (csSlotBase (csSelectTarget seqA seqB).1) configStoreSlotSize) m := by
  unfold csSaveTarget
  dsimp only
  generalize csSelectTarget seqA seqB = target
  apply wp_seq (wp_csWriteSlot target.1 (by decide) hlen)
  intro r m' hwritten
  rcases hwritten with ⟨hsame, hdone, hfailed⟩
  cases r with
  | done => exact ⟨hsame, (fun _ => hdone rfl), fun h => absurd rfl h⟩
  | eraseFailed => exact ⟨hsame, (fun h => nomatch h), fun _ => hfailed fun h => nomatch h⟩
  | writeFailed => exact ⟨hsame, (fun h => nomatch h), fun _ => hfailed fun h => nomatch h⟩

theorem wp_qspiRead_refused {C : Memory -> Prop} {addr len : Nat}
    {Q : Option (List UInt8) -> Memory -> Prop} (hrefused : ¬ qspiReadAccepted addr len) :
    (qspiRead addr len).wp qspiFlash F Q C m ↔
      Q none m ∧ (forall n, F.fails (.read addr len) n -> Q none m) ∧
        (forall n, F.cuts (.read addr len) n -> C m) := by
  have hcall : (qspiRead addr len).wp qspiFlash F Q C m ↔
      Q (if qspiReadAccepted addr len then some (m.slice addr len) else none) m ∧
        (forall n, F.fails (.read addr len) n -> Q none m) ∧
        (forall n, F.cuts (.read addr len) n -> C m) := Iff.rfl
  rw [hcall, if_neg hrefused]

theorem wp_csLoadSelected (maxLen : Nat) (hnew : Copies.newestOf seqA seqB = some s)
    (hcopy : copies csFormat m s = some x) (hlen : x.value.length <= configStoreMaxDataBytes) :
    (csLoadSelected maxLen seqA seqB).wp qspiFlash F
      (fun r m' => m' = m ∧ (r = .ok x.value ∨ (exists e, r = .error e) ∧
        (maxLen < x.value.length ∨ x.value.length = 0 ∨ exists op k, F.fails op k)))
      (fun m' => m' = m) m := by
  have hin := csSlotBase_le s
  have hhdr : csSlotBase s + csHeaderSize <= qspiFlashDeviceSizeBytes :=
    Nat.le_trans (Nat.add_le_add_left (by decide) _) hin
  rcases slice_blob hcopy hlen with ⟨hfield, hblob⟩
  unfold csLoadSelected
  rw [csSelected_eq, hnew]
  dsimp only
  rw [wp_bind, wp_qspiRead (by decide) hhdr]
  refine ⟨?_, fun k hk => ⟨rfl, .inr ⟨⟨_, rfl⟩, .inr (.inr ⟨_, k, hk⟩)⟩⟩, fun _ _ => rfl⟩
  dsimp only
  rw [hfield]
  apply wp_ite
  · exact fun hlarge => ⟨rfl, .inr ⟨⟨_, rfl⟩, .inl hlarge⟩⟩
  · intro _
    rw [wp_bind]
    by_cases hempty : x.value.length = 0
    · -- the driver refuses to read nothing
      rw [hempty]
      rw [wp_qspiRead_refused fun h => h.1 rfl]
      exact ⟨⟨rfl, .inr ⟨⟨_, rfl⟩, .inr (.inl rfl)⟩⟩,
        fun _ _ => ⟨rfl, .inr ⟨⟨_, rfl⟩, .inr (.inl rfl)⟩⟩, fun _ _ => rfl⟩
    · have hend : csSlotBase s + csHeaderSize + x.value.length <= qspiFlashDeviceSizeBytes := by
        simp only [configStoreMaxDataBytes] at hlen
        simp only [csHeaderSize, configStoreSlotSize] at hin ⊢
        omega
      rw [wp_qspiRead (by omega) hend, hblob]
      exact ⟨⟨rfl, .inl rfl⟩,
        fun k hk => ⟨rfl, .inr ⟨⟨_, rfl⟩, .inr (.inr ⟨_, k, hk⟩)⟩⟩, fun _ _ => rfl⟩

theorem csLoadSelected_none (maxLen : Nat) (hnew : Copies.newestOf seqA seqB = none) :
    csLoadSelected maxLen seqA seqB = pure (.error .noValidSlot) := by
  unfold csLoadSelected
  rw [csSelected_eq, hnew]

theorem eval_csValidateSlot (m : Memory) (s : Side) :
    (csValidateSlot s).eval qspiFlash m = ((copies csFormat m s).map Copy.seq, m) := by
  rcases Program.wp_never_iff.mp (sees_csValidateSlot (Faults.never qspi) m s) with
    ⟨hflash, hseen | ⟨_, _, _, hfail⟩⟩
  · exact Prod.ext hseen hflash
  · exact hfail.elim

theorem eval_csLoadSelected (hnew : Copies.newestOf seqA seqB = some s)
    (hcopy : copies csFormat m s = some x) (hlen : x.value.length <= configStoreMaxDataBytes)
    (hpos : 0 < x.value.length) (hroom : x.value.length <= maxLen) :
    (csLoadSelected maxLen seqA seqB).eval qspiFlash m = (.ok x.value, m) := by
  rcases Program.wp_never_iff.mp
      (wp_csLoadSelected (F := Faults.never qspi) maxLen hnew hcopy hlen) with
    ⟨hflash, hok | ⟨_, hlarge | hempty | ⟨_, _, hfail⟩⟩⟩
  · exact Prod.ext hok hflash
  · omega
  · omega
  · exact hfail.elim

/-- A load without faults gives back the newest copy, unless it is empty or the buffer too
small. -/
theorem eval_configStoreLoad (hnew : Copies.newest (copies csFormat m) = some s)
    (hcopy : copies csFormat m s = some x) (hlen : x.value.length <= configStoreMaxDataBytes)
    (hpos : 0 < x.value.length) (hroom : x.value.length <= maxLen) :
    (configStoreLoad true maxLen).eval qspiFlash m = (.ok x.value, m) := by
  rw [Copies.newest_eq_newestOf] at hnew
  unfold configStoreLoad
  rw [if_neg (by decide)]
  simp only [eval_bind, eval_csValidateSlot]
  exact eval_csLoadSelected hnew hcopy hlen hpos hroom

theorem exec_csSaveTarget (hlen : data.length <= configStoreMaxDataBytes)
    (hseq : (csSelectTarget seqA seqB).2 < 256 ^ 4) (m : Memory) :
    exists m', Program.Exec qspiFlash F (csSaveTarget data seqA seqB) m (some .ok) m' ∧
      TornRejected csFormat m m' (csSelectTarget seqA seqB).1 (csSelectTarget seqA seqB).2 data ∧
      copies csFormat m' (csSelectTarget seqA seqB).1 =
        some ⟨(csSelectTarget seqA seqB).2, data⟩ ∧
      copies csFormat m' (csSelectTarget seqA seqB).1.other =
        copies csFormat m (csSelectTarget seqA seqB).1.other := by
  rcases Program.wp_never_iff.mp
      (wp_csSaveTarget (F := Faults.never qspi) (m := m) hlen seqA seqB) with
    ⟨hsame, hdone, hfailed⟩
  have hok : ((csSaveTarget data seqA seqB).eval qspiFlash m).1 = .ok := by
    by_contra hne
    rcases hfailed hne with ⟨_, _, hfail⟩
    exact hfail
  have hexec := Program.exec_eval qspiFlash F (csSaveTarget data seqA seqB) m
  rw [hok] at hexec
  have himage := hdone hok
  have htorn : TornRejected csFormat m ((csSaveTarget data seqA seqB).eval qspiFlash m).2
      (csSelectTarget seqA seqB).1 (csSelectTarget seqA seqB).2 data :=
    fun _ hother => absurd himage hother
  have hwritten := written_of_slot hlen hseq hsame (fun _ : True => himage) htorn
  exact ⟨_, hexec, htorn, hwritten.complete trivial, hwritten.other⟩

theorem copies_erased (hblank : m.Blank (csSlotBase s) 4) : copies csFormat m s = none := by
  have hmagic : fieldAt (m.slice (csSlotBase s) csSlotUsed) 0 4 = 0xFFFFFFFF := by
    unfold fieldAt
    rw [List.drop_zero, ← Memory.slice_take m (csSlotBase s) (by decide),
      Memory.slice_of_blank hblank]
    rfl
  change decodeSlot csFormat (m.slice (csSlotBase s) csSlotUsed) = none
  unfold decodeSlot
  rw [hmagic, if_neg fun h => absurd h.1 (by decide)]

end Operations

end EnvMonitor.FieldDevice.ConfigStore
