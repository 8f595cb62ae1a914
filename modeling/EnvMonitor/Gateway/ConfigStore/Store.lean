import EnvMonitor.ConfigStore.Probing

/-!
# The configuration store of the gateway

`config_store.c`: each operation examines both slots first.  A slot is valid, erased, invalid for
another reason, or could not be read.  A load takes the valid slot with the higher sequence number;
a save writes the other one, or slot A when neither is valid.
-/

namespace EnvMonitor.Gateway.ConfigStore

open Device Drivers EnvMonitor.ConfigStore
open Config (Side Copy Copies Ledger)
open Program (eval_bind wp_bind wp_ite wp_mono wp_returns wp_seq)

/-- The error codes that a store with a handle returns. -/
inductive ConfigStoreErr where
  | ok
  | tooLarge
  | noValidSlot
  | flashErase
  | flashWrite
  | flashRead
  | neverWritten
  deriving DecidableEq, Repr

def configStoreMagic : Nat := 0xC0FFEE00

/-- An erased flash word. -/
def csErasedWord : Nat := 0xFFFFFFFF

/-- The gateway refuses a length that no save writes. -/
def csFormat : SlotFormat where
  magic := configStoreMagic
  accepts := fun len => decide (len <= configStoreMaxDataBytes)
  magic_lt := by decide
  accepts_blob := fun _ h => decide_eq_true h

inductive CsSlotStatus where
  | valid
  | invalid
  | readError
  | erased
  deriving DecidableEq, Repr

/-- What was learned about one slot. -/
structure CsSlotInfo where
  status : CsSlotStatus
  seq : Nat
  dataLen : Nat
  deriving DecidableEq, Repr

/-- `cs_eval_slot`: the header first, then the CRC if the header looks written. -/
def csEvalSlot (slot : Side) : Qspi CsSlotInfo := do
  let base := csSlotBase slot
  match ← qspiRead base csHeaderSize with
  | none => pure ⟨.readError, 0, 0⟩
  | some hdr =>
      if fieldAt hdr 0 4 = configStoreMagic then
        let seq := fieldAt hdr 4 4
        let dataLen := fieldAt hdr 8 4
        if configStoreMaxDataBytes < dataLen then
          pure ⟨.invalid, seq, dataLen⟩
        else do
          match ← csSlotCrc base with
          | none => pure ⟨.readError, seq, dataLen⟩
          | some crc =>
              match ← qspiRead (base + csCrcOffset) csCrcSize with
              | none => pure ⟨.readError, seq, dataLen⟩
              | some stored =>
                  if (configStoreCrc32End crc).toNat = getLe stored then
                    pure ⟨.valid, seq, dataLen⟩
                  else
                    pure ⟨.invalid, seq, dataLen⟩
      else
        pure ⟨if fieldAt hdr 0 4 = csErasedWord then .erased else .invalid, 0, 0⟩

/-- The active slot, if one is valid; equal sequence numbers resolve to slot A. -/
def csPickActive (a b : CsSlotInfo) : Option Side :=
  if a.status = .valid ∧ b.status = .valid then
    if a.seq < b.seq then some .b else some .a
  else if a.status = .valid then
    some .a
  else if b.status = .valid then
    some .b
  else
    none

def csAnyReadError (a b : CsSlotInfo) : Bool :=
  a.status = .readError || b.status = .readError

/-- `cs_report_none_valid`: a slot that could not be read says nothing about what is stored. -/
def csReportNoneValid (a b : CsSlotInfo) : ConfigStoreErr :=
  if csAnyReadError a b then
    .flashRead
  else if a.status = .erased ∧ b.status = .erased then
    .neverWritten
  else
    .noValidSlot

/-- `config_store_load` once the slots are examined. -/
def csLoadActive (maxLen : Nat) (a b : CsSlotInfo) : Qspi (Except ConfigStoreErr (List UInt8)) :=
  match csPickActive a b with
  | none => pure (.error (csReportNoneValid a b))
  | some active =>
      let dataLen := (active.pick a b).dataLen
      if maxLen < dataLen then
        pure (.error .tooLarge)
      else if 0 < dataLen then do
        match ← qspiRead (csSlotBase active + csHeaderSize) dataLen with
        | none => pure (.error .flashRead)
        | some data => pure (.ok data)
      else
        -- the driver rejects a read of nothing
        pure (.ok [])

def configStoreLoad (maxLen : Nat) : Qspi (Except ConfigStoreErr (List UInt8)) := do
  let a ← csEvalSlot .a
  let b ← csEvalSlot .b
  csLoadActive maxLen a b

/-- The slot that a save writes and the sequence number it gets, which is a 32-bit word. -/
def csTarget (a b : CsSlotInfo) : Side × Nat :=
  match csPickActive a b with
  | none => (.a, 1)
  | some active => (active.other, ((active.pick a b).seq + 1) % 256 ^ 4)

/-- Size of the pieces in which the CRC is fed with erased bytes. -/
abbrev csPadSize : Nat := 256

/-- `config_store_save` once the slots are examined. -/
def csSaveTarget (data : List UInt8) (a b : CsSlotInfo) : Qspi ConfigStoreErr := do
  let (target, nextSeq) := csTarget a b
  match ← csWriteSlot csFormat csPadSize (csSlotBase target) nextSeq data with
  | .done => pure .ok
  | .eraseFailed => pure .flashErase
  | .writeFailed => pure .flashWrite

def configStoreSave (data : List UInt8) : Qspi ConfigStoreErr :=
  if configStoreMaxDataBytes < data.length then
    pure .tooLarge
  else do
    let a ← csEvalSlot .a
    let b ← csEvalSlot .b
    csSaveTarget data a b

/-!
## What an examination reports
-/

/-- The sequence number of a slot found valid. -/
def CsSlotInfo.found (info : CsSlotInfo) : Option Nat :=
  if info.status = .valid then some info.seq else none

/-- A slot found valid holds a copy with this number and length; any other holds none, or a read
of it failed. -/
structure Reports (F : Faults qspi) (c : Option (Copy (List UInt8))) (info : CsSlotInfo) :
    Prop where
  valid : info.status = .valid -> exists x, c = some x ∧ info.seq = x.seq ∧
    info.dataLen = x.value.length ∧ x.value.length <= configStoreMaxDataBytes
  missed : info.status ≠ .valid -> c = none ∨ exists op n, F.fails op n

section Reports

variable {F : Faults qspi} {m : Memory} {s : Side}

variable {info : CsSlotInfo} {c : Option (Copy (List UInt8))}

theorem Reports.failed (hstatus : info.status ≠ .valid) (hfail : exists op n, F.fails op n) :
    Reports F c info :=
  ⟨fun h => absurd h hstatus, fun _ => .inr hfail⟩

theorem Reports.empty (hstatus : info.status ≠ .valid) : Reports F none info :=
  ⟨fun h => absurd h hstatus, fun _ => .inl rfl⟩

theorem decodeSlot_length {bytes : List UInt8}
    (hbytes : bytes.length = csSlotUsed)
    (hlen : fieldAt bytes 8 4 <= configStoreMaxDataBytes) :
    ((bytes.drop csHeaderSize).take (fieldAt bytes 8 4)).length = fieldAt bytes 8 4 := by
  rw [List.length_take, List.length_drop, hbytes]
  apply Nat.min_eq_left
  simp only [configStoreMaxDataBytes] at hlen
  simp only [csSlotUsed, csHeaderSize, csCrcOffset, csCrcSize]
  omega

theorem wp_csEvalSlot (m : Memory) (s : Side) :
    (csEvalSlot s).wp qspiFlash F (fun info m' => m' = m ∧ Reports F (copies csFormat m s) info)
      (fun m' => m' = m) m := by
  have hin := csSlotBase_le s
  have hhdr : csSlotBase s + csHeaderSize <= qspiFlashDeviceSizeBytes :=
    Nat.le_trans (Nat.add_le_add_left (by decide) _) hin
  have hcrc : csSlotBase s + csCrcOffset + csCrcSize <= qspiFlashDeviceSizeBytes := by
    rw [Nat.add_assoc]
    exact Nat.le_trans (Nat.add_le_add_left (by decide) _) hin
  have hcopy : copies csFormat m s = decodeSlot csFormat (m.slice (csSlotBase s) csSlotUsed) := rfl
  have hlength : (m.slice (csSlotBase s) csSlotUsed).length = csSlotUsed :=
    Memory.slice_length ..
  have hmagic := fieldAt_header (m.slice (csSlotBase s) csSlotUsed) 0 (by decide)
  have hseq := fieldAt_header (m.slice (csSlotBase s) csSlotUsed) 4 (by decide)
  have hlen := fieldAt_header (m.slice (csSlotBase s) csSlotUsed) 8 (by decide)
  rw [← slice_csHeader] at hmagic hseq hlen
  unfold csEvalSlot
  dsimp only
  rw [wp_bind, wp_qspiRead (by decide) hhdr]
  refine ⟨?_, fun n hn => ⟨rfl, Reports.failed (fun h => nomatch h) ⟨_, n, hn⟩⟩, fun _ _ => rfl⟩
  dsimp only
  rw [hmagic, hseq, hlen, hcopy]
  generalize hbytes : m.slice (csSlotBase s) csSlotUsed = bytes at hlength ⊢
  apply wp_ite
  · intro hm
    apply wp_ite
    · intro hlarge
      have hnone : decodeSlot csFormat bytes = none := by
        unfold decodeSlot
        apply if_neg
        intro h
        have haccepted : fieldAt bytes 8 4 <= configStoreMaxDataBytes := of_decide_eq_true h.2.1
        exact absurd hlarge (Nat.not_lt_of_le haccepted)
      rw [hnone]
      exact ⟨rfl, Reports.empty fun h => nomatch h⟩
    · intro hsmall
      have haccepted : csFormat.accepts (fieldAt bytes 8 4) = true :=
        decide_eq_true (Nat.le_of_not_lt hsmall)
      apply wp_seq (reads_csSlotCrc s)
      intro r m' hr
      rcases hr with ⟨rfl, rfl | ⟨rfl, hfail⟩⟩
      · dsimp only
        rw [wp_bind, wp_qspiRead (by decide) hcrc]
        refine ⟨?_, fun n hn => ⟨rfl, Reports.failed (fun h => nomatch h) ⟨_, n, hn⟩⟩,
          fun _ _ => rfl⟩
        rw [slice_csCrc, slice_covered, hbytes]
        dsimp only
        apply wp_ite
        · intro hc
          have hsome : decodeSlot csFormat bytes = some ⟨fieldAt bytes 4 4,
              (bytes.drop csHeaderSize).take (fieldAt bytes 8 4)⟩ := by
            unfold decodeSlot
            exact if_pos ⟨hm, haccepted, hc⟩
          have hvalue := decodeSlot_length hlength (Nat.le_of_not_lt hsmall)
          rw [hsome]
          constructor
          · rfl
          · constructor
            · intro _
              exact ⟨_, rfl, rfl, hvalue.symm, le_of_eq_of_le hvalue (Nat.le_of_not_lt hsmall)⟩
            · exact fun h => absurd rfl h
        · intro hc
          have hnone : decodeSlot csFormat bytes = none := by
            unfold decodeSlot
            exact if_neg fun h => hc h.2.2
          rw [hnone]
          exact ⟨rfl, Reports.empty fun h => nomatch h⟩
      · exact ⟨rfl, Reports.failed (fun h => nomatch h) hfail⟩
  · intro hm
    have hnone : decodeSlot csFormat bytes = none := by
      unfold decodeSlot
      exact if_neg fun h => hm h.1
    rw [hnone]
    constructor
    · rfl
    · apply Reports.empty
      change (if _ then CsSlotStatus.erased else .invalid) ≠ .valid
      split
      · exact fun h => nomatch h
      · exact fun h => nomatch h

theorem Reports.found (h : Reports F c info) :
    info.found = c.map Copy.seq ∨ (info.found = none ∧ exists op n, F.fails op n) := by
  unfold CsSlotInfo.found
  by_cases hstatus : info.status = .valid
  · rcases h.valid hstatus with ⟨x, rfl, hseq, _⟩
    rw [if_pos hstatus, hseq]
    exact .inl rfl
  · rw [if_neg hstatus]
    rcases h.missed hstatus with rfl | hfail
    · exact .inl rfl
    · exact .inr ⟨rfl, hfail⟩

theorem sees_csEvalSlot : SeesSlots csFormat csEvalSlot CsSlotInfo.found := by
  intro F m s
  apply wp_mono _ (fun _ h => h) (wp_csEvalSlot m s)
  exact fun _ _ h => ⟨h.1, h.2.found⟩

theorem reports_of_probed {E : OperationFaults} {m' : Memory} {a b : CsSlotInfo}
    (hprobed : Probed csEvalSlot E m (some (a, b)) m') (s : Side) :
    Reports (E.probing s) (copies csFormat m s) (s.pick a b) := by
  cases hprobed with
  | done ha hb =>
      rcases wp_returns (wp_csEvalSlot _ _) ha with ⟨rfl, hreportsA⟩
      cases s with
      | a => exact hreportsA
      | b => exact (wp_returns (wp_csEvalSlot _ _) hb).2

theorem eval_csEvalSlot (m : Memory) (s : Side) :
    exists info, (csEvalSlot s).eval qspiFlash m = (info, m) ∧
      info.found = (copies csFormat m s).map Copy.seq ∧
      Reports (Faults.never qspi) (copies csFormat m s) info := by
  rcases Program.wp_never_iff.mp (wp_csEvalSlot (F := Faults.never qspi) m s) with
    ⟨hflash, hreports⟩
  refine ⟨_, Prod.ext rfl hflash, ?_, hreports⟩
  rcases hreports.found with hfound | ⟨_, _, _, hfail⟩
  · exact hfound
  · exact hfail.elim

end Reports

/-!
## Which slot is loaded and which is written
-/

section Selection

variable {c : Copies (List UInt8)} {a b : CsSlotInfo}

theorem csPickActive_eq (a b : CsSlotInfo) :
    csPickActive a b = Copies.newestOf a.found b.found := by
  unfold csPickActive CsSlotInfo.found Copies.newestOf
  by_cases ha : a.status = .valid
  · by_cases hb : b.status = .valid
    · rw [if_pos ⟨ha, hb⟩, if_pos ha, if_pos hb]
      dsimp only
      by_cases hlt : a.seq < b.seq
      · rw [if_pos hlt, if_neg (Nat.not_le_of_lt hlt)]
      · rw [if_neg hlt, if_pos (Nat.le_of_not_lt hlt)]
    · rw [if_neg fun h => hb h.2, if_pos ha, if_pos ha, if_neg hb]
  · rw [if_neg fun h => ha h.1, if_neg ha, if_neg ha]
    by_cases hb : b.status = .valid
    · rw [if_pos hb, if_pos hb]
    · rw [if_neg hb, if_neg hb]

theorem csPickActive_valid {s : Side} (h : csPickActive a b = some s) :
    (s.pick a b).status = .valid := by
  unfold csPickActive at h
  by_cases ha : a.status = .valid
  · by_cases hb : b.status = .valid
    · cases s with
      | a => exact ha
      | b => exact hb
    · rw [if_neg fun h => hb h.2, if_pos ha] at h
      cases h
      exact ha
  · by_cases hb : b.status = .valid
    · rw [if_neg fun h => ha h.1, if_neg ha, if_pos hb] at h
      cases h
      exact hb
    · rw [if_neg fun h => ha h.1, if_neg ha, if_neg hb] at h
      cases h

theorem csTarget_chosen (hseen : Copies.Seen c fun s => (s.pick a b).found)
    (hroom : forall s x, c s = some x -> x.seq + 1 < 256 ^ 4) :
    Copies.Chosen c (csTarget a b).1 (csTarget a b).2 := by
  have hnewest := hseen.newestOf_eq
  change Copies.newestOf a.found b.found = _ at hnewest
  rw [← csPickActive_eq] at hnewest
  unfold csTarget Copies.Chosen
  rw [← hnewest]
  cases hpick : csPickActive a b with
  | none => rfl
  | some s =>
      rw [hpick] at hnewest
      rcases Copies.newest_valid hnewest.symm with ⟨x, hx⟩
      have hfound := hseen.newest s hnewest.symm
      unfold CsSlotInfo.found at hfound
      rw [if_pos (csPickActive_valid hpick), hx] at hfound
      have hseq : (s.pick a b).seq = x.seq := Option.some.inj hfound
      constructor
      · rfl
      · refine ⟨x, hx, ?_⟩
        dsimp only
        rw [hseq]
        exact Nat.mod_eq_of_lt (hroom s x hx)

end Selection

/-!
## After the examination
-/

section Operations

variable {F : Faults qspi} {m m' : Memory} {a b : CsSlotInfo}

variable {data : List UInt8} {x : Copy (List UInt8)} {s : Side}

theorem wp_csSaveTarget (hlen : data.length <= configStoreMaxDataBytes) (a b : CsSlotInfo) :
    (csSaveTarget data a b).wp qspiFlash F
      (fun r (m' : Memory) =>
        m.SameOutside m' (csSlotBase (csTarget a b).1) configStoreSlotSize ∧
        (r = .ok -> m'.slice (csSlotBase (csTarget a b).1) csSlotUsed =
          slotImage csFormat (csTarget a b).2 data) ∧
        (r ≠ .ok -> exists op k, F.fails op k))
      (fun (m' : Memory) =>
        m.SameOutside m' (csSlotBase (csTarget a b).1) configStoreSlotSize) m := by
  unfold csSaveTarget
  dsimp only
  generalize csTarget a b = target
  apply wp_seq (wp_csWriteSlot target.1 (by decide) hlen)
  intro r m' hwritten
  rcases hwritten with ⟨hsame, hdone, hfailed⟩
  cases r with
  | done => exact ⟨hsame, (fun _ => hdone rfl), fun h => absurd rfl h⟩
  | eraseFailed => exact ⟨hsame, (fun h => nomatch h), fun _ => hfailed fun h => nomatch h⟩
  | writeFailed => exact ⟨hsame, (fun h => nomatch h), fun _ => hfailed fun h => nomatch h⟩

theorem csLoadActive_none (maxLen : Nat) (hpick : csPickActive a b = none) :
    csLoadActive maxLen a b = pure (.error (csReportNoneValid a b)) := by
  unfold csLoadActive
  rw [hpick]

theorem wp_csLoadActive (maxLen : Nat) (hpick : csPickActive a b = some s)
    (hcopy : copies csFormat m s = some x) (hdata : (s.pick a b).dataLen = x.value.length)
    (hlen : x.value.length <= configStoreMaxDataBytes) :
    (csLoadActive maxLen a b).wp qspiFlash F
      (fun r m' => m' = m ∧ (r = .ok x.value ∨ (exists e, r = .error e) ∧
        (maxLen < x.value.length ∨ exists op k, F.fails op k)))
      (fun m' => m' = m) m := by
  have hin := csSlotBase_le s
  rcases slice_blob hcopy hlen with ⟨_, hblob⟩
  unfold csLoadActive
  rw [hpick]
  dsimp only
  rw [hdata]
  apply wp_ite
  · exact fun hlarge => ⟨rfl, .inr ⟨⟨_, rfl⟩, .inl hlarge⟩⟩
  · intro _
    apply wp_ite
    · intro hpos
      have hend : csSlotBase s + csHeaderSize + x.value.length <= qspiFlashDeviceSizeBytes := by
        simp only [configStoreMaxDataBytes] at hlen
        simp only [csHeaderSize, configStoreSlotSize] at hin ⊢
        omega
      rw [wp_bind, wp_qspiRead hpos hend, hblob]
      exact ⟨⟨rfl, .inl rfl⟩, fun k hk => ⟨rfl, .inr ⟨⟨_, rfl⟩, .inr ⟨_, k, hk⟩⟩⟩,
        fun _ _ => rfl⟩
    · intro hpos
      have hempty : x.value = [] := List.eq_nil_of_length_eq_zero (by omega)
      rw [hempty]
      exact ⟨rfl, .inl rfl⟩

theorem eval_configStoreLoad {maxLen : Nat} (hnew : Copies.newest (copies csFormat m) = some s)
    (hcopy : copies csFormat m s = some x) (hroom : x.value.length <= maxLen) :
    (configStoreLoad maxLen).eval qspiFlash m = (.ok x.value, m) := by
  rcases eval_csEvalSlot m .a with ⟨a, hevalA, hfoundA, hreportsA⟩
  rcases eval_csEvalSlot m .b with ⟨b, hevalB, hfoundB, hreportsB⟩
  have hpick : csPickActive a b = some s := by
    rw [csPickActive_eq, hfoundA, hfoundB, ← Copies.newest_eq_newestOf]
    exact hnew
  have hreports : Reports (Faults.never qspi) (copies csFormat m s) (s.pick a b) := by
    cases s with
    | a => exact hreportsA
    | b => exact hreportsB
  rcases hreports.valid (csPickActive_valid hpick) with ⟨y, hy, _, hdata, hlen⟩
  rw [hcopy] at hy
  cases hy
  unfold configStoreLoad
  simp only [eval_bind, hevalA, hevalB]
  rcases Program.wp_never_iff.mp
      (wp_csLoadActive (F := Faults.never qspi) maxLen hpick hcopy hdata hlen) with
    ⟨hflash, hok | ⟨_, hlarge | ⟨_, _, hfail⟩⟩⟩
  · exact Prod.ext hok hflash
  · omega
  · exact hfail.elim

theorem exec_csSaveTarget (hlen : data.length <= configStoreMaxDataBytes)
    (hseq : (csTarget a b).2 < 256 ^ 4) (m : Memory) :
    exists m', Program.Exec qspiFlash F (csSaveTarget data a b) m (some .ok) m' ∧
      TornRejected csFormat m m' (csTarget a b).1 (csTarget a b).2 data ∧
      copies csFormat m' (csTarget a b).1 = some ⟨(csTarget a b).2, data⟩ ∧
      copies csFormat m' (csTarget a b).1.other = copies csFormat m (csTarget a b).1.other := by
  rcases Program.wp_never_iff.mp
      (wp_csSaveTarget (F := Faults.never qspi) (m := m) hlen a b) with
    ⟨hsame, hdone, hfailed⟩
  have hok : ((csSaveTarget data a b).eval qspiFlash m).1 = .ok := by
    by_contra hne
    rcases hfailed hne with ⟨_, _, hfail⟩
    exact hfail
  have hexec := Program.exec_eval qspiFlash F (csSaveTarget data a b) m
  rw [hok] at hexec
  have himage := hdone hok
  have htorn : TornRejected csFormat m ((csSaveTarget data a b).eval qspiFlash m).2
      (csTarget a b).1 (csTarget a b).2 data :=
    fun _ hother => absurd himage hother
  have hwritten := written_of_slot hlen hseq hsame (fun _ : True => himage) htorn
  exact ⟨_, hexec, htorn, hwritten.complete trivial, hwritten.other⟩

theorem copies_erased (hblank : m.Blank (csSlotBase s) 4) : copies csFormat m s = none := by
  have hmagic : fieldAt (m.slice (csSlotBase s) csSlotUsed) 0 4 = csErasedWord := by
    unfold fieldAt
    rw [List.drop_zero, ← Memory.slice_take m (csSlotBase s) (by decide),
      Memory.slice_of_blank hblank]
    rfl
  change decodeSlot csFormat (m.slice (csSlotBase s) csSlotUsed) = none
  unfold decodeSlot
  rw [hmagic, if_neg fun h => absurd h.1 (by decide)]

end Operations

end EnvMonitor.Gateway.ConfigStore
