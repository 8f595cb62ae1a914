import EnvMonitor.Gateway.CircularFlashLog.Steps

/-!
# What the boot scan finds

`cfl_create` only reads.  On a flash that holds a ring it takes over the newest
valid head pointer and joins sectors from the head on, as long as each begins
with the next sequence number.
-/

namespace EnvMonitor.Gateway.CircularFlashLog

open Device Drivers

section Reading

variable {F : Faults qspi} {m : Memory} {R : Ring}

variable {fuel h k maxSeq offset s sector : Nat} {r : Rec} {rs : List Rec} {scan : CflSectorScan}
variable {anyBefore : Bool}

theorem reads_cflReadHeader
    (hin : cflDataSectorAddr sector + offset + 12 <= qspiFlashDeviceSizeBytes) :
    Program.Reads qspiFlash F (cflReadHeader sector offset) m
      (headerAt m (cflDataSectorAddr sector + offset)) := by
  unfold Program.Reads
  rw [wp_cflReadHeader hin]
  exact ⟨⟨rfl, .inl rfl⟩, fun n hn => ⟨rfl, .inr ⟨rfl, _, n, hn⟩⟩, fun _ _ => rfl⟩

theorem reads_cflCrcLoop (fuel addr len : Nat) (crc : UInt16) (hfuel : len <= fuel)
    (hend : addr + len <= qspiFlashDeviceSizeBytes) :
    Program.Reads qspiFlash F (cflCrcLoop fuel addr len crc) m
      (cflCrc16Update crc (m.slice addr len)) := by
  induction fuel generalizing addr len crc with
  | zero =>
      have hlen : len = 0 := by omega
      subst hlen
      exact Program.reads_pure _
  | succ fuel ih =>
      unfold cflCrcLoop
      by_cases hpos : len > 0
      · rw [if_pos hpos]
        have htake : min len cflScanChunkBytes <= len := Nat.min_le_left _ _
        have htakePos : 0 < min len cflScanChunkBytes := by
          simp only [cflScanChunkBytes]
          omega
        generalize min len cflScanChunkBytes = k at htake htakePos
        refine (reads_qspiRead htakePos (by omega)).bind rfl ?_
        have hrest := ih (addr + k) (len - k) (cflCrc16Update crc (m.slice addr k))
          (by omega) (by omega)
        rw [← cflCrc16Update_append, ← Memory.slice_add, show k + (len - k) = len by omega]
          at hrest
        exact hrest
      · have hlen : len = 0 := by omega
        rw [if_neg hpos, hlen]
        exact Program.reads_pure _

theorem reads_cflVerifyRecordCrc (hrec : RecAt m (cflDataSectorAddr sector + offset) r)
    (hin : cflDataSectorAddr sector + offset + r.bytes.length <= qspiFlashDeviceSizeBytes) :
    Program.Reads qspiFlash F (cflVerifyRecordCrc sector offset r.hdr) m true := by
  have hlen := r.bytes_length
  have hpayload := hrec.payload
  have hcrc := hrec.crc
  have hloop := reads_cflCrcLoop (F := F) (m := m) r.payload.length
    (cflDataSectorAddr sector + offset + 12) r.payload.length
    (cflCrc16Update 0 (cflHeaderBytes r.hdr)) (Nat.le_refl _) (by omega)
  rw [hpayload] at hloop
  refine hloop.bind rfl ?_
  have hread : Program.Reads qspiFlash F
      (qspiRead (cflDataSectorAddr sector + offset + 12 + r.payload.length) 2) m
      (m.slice (cflDataSectorAddr sector + offset + 12 + r.payload.length) 2) :=
    reads_qspiRead (by omega) (by omega)
  rw [hcrc] at hread
  refine hread.bind rfl ?_
  have hmatch : (getLe r.crcBytes == (cflRecordCrc r.hdr r.payload).toNat) = true :=
    beq_iff_eq.mpr (getLe_putLe_of_lt (cflRecordCrc r.hdr r.payload).toNat_lt)
  show Program.Reads qspiFlash F
    (pure (some (getLe r.crcBytes == (cflRecordCrc r.hdr r.payload).toNat))) m true
  rw [hmatch]
  exact Program.reads_pure _

theorem slice_all_erased_iff (m : Memory) (a n : Nat) :
    (m.slice a n).all (fun byte => byte == erasedByte) = true ↔ Memory.Blank m a n := by
  constructor
  · intro h
    apply Memory.blank_of_slice
    apply List.eq_replicate_iff.mpr
    refine ⟨Memory.slice_length _ _ _, ?_⟩
    intro byte hbyte
    exact beq_iff_eq.mp (List.all_eq_true.mp h byte hbyte)
  · intro h
    rw [Memory.slice_of_blank h]
    simp

theorem reads_cflErasedLoop (fuel addr len : Nat) (hfuel : len <= fuel)
    (hend : addr + len <= qspiFlashDeviceSizeBytes) :
    Program.Reads qspiFlash F (cflErasedLoop fuel addr len) m
      ((m.slice addr len).all (fun byte => byte == erasedByte)) := by
  induction fuel generalizing addr len with
  | zero =>
      have hlen : len = 0 := by omega
      subst hlen
      exact Program.reads_pure _
  | succ fuel ih =>
      unfold cflErasedLoop
      by_cases hpos : len > 0
      · rw [if_pos hpos]
        have htake : min len cflScanChunkBytes <= len := Nat.min_le_left _ _
        have htakePos : 0 < min len cflScanChunkBytes := by
          simp only [cflScanChunkBytes]
          omega
        generalize min len cflScanChunkBytes = k at htake htakePos
        refine (reads_qspiRead htakePos (by omega)).bind rfl ?_
        have hsplit : (m.slice addr len).all (fun byte => byte == erasedByte) =
            ((m.slice addr k).all (fun byte => byte == erasedByte) &&
              (m.slice (addr + k) (len - k)).all (fun byte => byte == erasedByte)) := by
          rw [← List.all_append, ← Memory.slice_add, show k + (len - k) = len by omega]
        rw [hsplit]
        show Program.Reads qspiFlash F
          (if (m.slice addr k).all (fun byte => byte == erasedByte) = true then
            cflErasedLoop fuel (addr + k) (len - k) else pure (some false)) m _
        by_cases hall : (m.slice addr k).all (fun byte => byte == erasedByte) = true
        · rw [if_pos hall, hall, Bool.true_and]
          exact ih (addr + k) (len - k) (by omega) (by omega)
        · rw [if_neg hall, Bool.not_eq_true _ |>.mp hall, Bool.false_and]
          exact Program.reads_pure _
      · have hlen : len = 0 := by omega
        rw [if_neg hpos, hlen]
        exact Program.reads_pure _

/-!
## One sector
-/

/-- The sequence number of the last record, `maxSeq` if there is none. -/
def lastSeq (maxSeq : Nat) : List Rec -> Nat
  | [] => maxSeq
  | r :: rs => lastSeq r.seq rs

theorem lastSeq_append (maxSeq : Nat) (rs ss : List Rec) :
    lastSeq maxSeq (rs ++ ss) = lastSeq (lastSeq maxSeq rs) ss := by
  induction rs generalizing maxSeq with
  | nil => rfl
  | cons r rs ih => exact ih r.seq

/-- Payload bytes of a list of records. -/
def payloadBytes (rs : List Rec) : Nat :=
  (rs.map fun r => r.payload.length).sum

@[simp] theorem payloadBytes_nil : payloadBytes [] = 0 := rfl

@[simp] theorem payloadBytes_cons (r : Rec) (rs : List Rec) :
    payloadBytes (r :: rs) = r.payload.length + payloadBytes rs := by
  simp [payloadBytes]

@[simp] theorem payloadBytes_append (rs ss : List Rec) :
    payloadBytes (rs ++ ss) = payloadBytes rs + payloadBytes ss := by
  simp [payloadBytes]

theorem payloadBytes_le_sizes (rs : List Rec) : payloadBytes rs <= sizes rs := by
  induction rs with
  | nil => simp
  | cons r rs ih =>
      have hlen := r.bytes_length
      have hsize := r.bytes_le_size
      simp only [payloadBytes_cons, sizes_cons]
      omega

/-- The result of a scan that takes in all of `rs`. -/
def scanAll (scan : CflSectorScan) (rs : List Rec) : CflSectorScan where
  count := scan.count + rs.length
  bytes := scan.bytes + payloadBytes rs
  endOffset := scan.endOffset + sizes rs
  maxSeq := lastSeq scan.maxSeq rs

theorem sector_in {len : Nat} (hsector : sector < 254) (hlen : offset + len <= 4096) :
    cflDataSectorAddr sector + offset + len <= qspiFlashDeviceSizeBytes := by
  rw [cflDataSectorAddr_eq]
  simp only [qspiFlashDeviceSizeBytes]
  omega

theorem reads_cflScanLoop_end (hsector : sector < 254)
    (h : SectorHolds m (cflDataSectorAddr sector) rs) (hend : scan.endOffset = sizes rs) :
    Program.Reads qspiFlash F (cflScanLoop sector anyBefore fuel scan) m scan := by
  cases fuel with
  | zero => exact Program.reads_pure _
  | succ fuel =>
      unfold cflScanLoop
      by_cases hroom : cflRoomForRecord scan.endOffset
      · rw [if_pos hroom]
        have hbound := cflRoomForRecord_iff.mp hroom
        refine (reads_cflReadHeader (sector_in hsector (by omega))).bind rfl ?_
        have hstop : ¬ cflHeaderPlausible
            (headerAt m (cflDataSectorAddr sector + scan.endOffset)) scan.endOffset := by
          rw [hend] at hroom ⊢
          exact h.stops hroom
        show Program.Reads qspiFlash F (if cflHeaderPlausible _ _ then _ else pure (some scan)) m _
        rw [if_neg hstop]
        exact Program.reads_pure _
      · rw [if_neg hroom]
        exact Program.reads_pure _

/-- The scan looks at the next record: it takes it in if its sequence number
continues, and stops before it otherwise. -/
theorem reads_cflScanLoop_step {result : CflSectorScan} {pre post : List Rec}
    (hsector : sector < 254) (h : SectorHolds m (cflDataSectorAddr sector) (pre ++ r :: post))
    (hend : scan.endOffset = sizes pre) (hgo : Program.Reads qspiFlash F
      (if (anyBefore = true ∨ scan.count > 0) ∧ r.seq ≠ u32 (scan.maxSeq + 1) then
        pure (some scan)
      else
        cflScanLoop sector anyBefore fuel (scanAll scan [r])) m result) :
    Program.Reads qspiFlash F (cflScanLoop sector anyBefore (fuel + 1) scan) m result := by
  have hfits := h.fits
  rw [sizes_append, sizes_cons] at hfits
  have hmin := r.size_ge
  have hbytes := r.bytes_le_size
  have hrec : RecAt m (cflDataSectorAddr sector + scan.endOffset) r := by
    rw [hend]
    exact h.recs.at
  have hplausible : cflHeaderPlausible r.hdr scan.endOffset := r.plausible (by omega)
  unfold cflScanLoop
  rw [if_pos (cflRoomForRecord_iff.mpr (by omega))]
  refine (reads_cflReadHeader (sector_in hsector (by omega))).bind rfl ?_
  rw [hrec.header]
  show Program.Reads qspiFlash F (if cflHeaderPlausible r.hdr scan.endOffset then _ else _) m _
  rw [if_pos hplausible]
  refine (reads_cflVerifyRecordCrc hrec (sector_in hsector (by omega))).bind rfl ?_
  have hnext : scanAll scan [r] =
      { count := scan.count + 1
        bytes := scan.bytes + r.hdr.dataLen
        endOffset := scan.endOffset + cflRecordSize r.hdr.dataLen
        maxSeq := r.hdr.seqNum } := by
    simp only [scanAll, payloadBytes_cons, payloadBytes_nil, sizes_cons, sizes_nil,
      List.length_cons, List.length_nil, Nat.add_zero]
    rfl
  rw [hnext] at hgo
  exact hgo

theorem reads_cflScanLoop (post : List Rec) (pre : List Rec) (fuel : Nat) (scan : CflSectorScan)
    (hsector : sector < 254) (h : SectorHolds m (cflDataSectorAddr sector) (pre ++ post))
    (hend : scan.endOffset = sizes pre) (hfuel : post.length <= fuel)
    (hseq : forall r, r ∈ post.head? -> anyBefore = true ∨ scan.count > 0 ->
      r.seq = u32 (scan.maxSeq + 1)) :
    Program.Reads qspiFlash F (cflScanLoop sector anyBefore fuel scan) m
      (scanAll scan post) := by
  induction post generalizing pre fuel scan with
  | nil =>
      rw [List.append_nil] at h
      exact reads_cflScanLoop_end hsector h hend
  | cons r post ih =>
      cases fuel with
      | zero => simp at hfuel
      | succ fuel =>
          apply reads_cflScanLoop_step hsector h hend
          rw [if_neg (fun hstop => hstop.2 (hseq r rfl hstop.1))]
          have hchain := h.consecutive
          have hrest := ih (pre ++ [r]) fuel (scanAll scan [r]) (by simpa using h)
            (by simp only [scanAll, sizes_append, hend]) (by simpa using hfuel) (by
              intro s hs _
              cases post with
              | nil => simp at hs
              | cons t post =>
                  have hst : t = s := by simpa using hs
                  have hpair := List.isChain_append.mp hchain |>.2.1
                  rw [List.isChain_cons_cons] at hpair
                  rw [← hst]
                  exact hpair.1)
          have hall : scanAll (scanAll scan [r]) post = scanAll scan (r :: post) := by
            simp only [scanAll, payloadBytes_cons, payloadBytes_nil, sizes_cons, sizes_nil,
              List.length_cons, List.length_nil, lastSeq, CflSectorScan.mk.injEq, and_true]
            omega
          rw [hall] at hrest
          exact hrest

theorem length_le_of_fits (h : sizes rs <= 4096) : rs.length <= 256 := by
  have := length_le_sizes rs
  omega

/-- The first record of a sector does not continue the sequence. -/
def Breaks (maxSeq : Nat) (rs : List Rec) : Prop :=
  forall r, r ∈ rs.head? -> r.seq ≠ u32 (maxSeq + 1)

theorem reads_cflScanSector_joins (maxSeq : Nat) (anyBefore : Bool) (hsector : sector < 254)
    (h : SectorHolds m (cflDataSectorAddr sector) rs)
    (hseq : forall r, r ∈ rs.head? -> anyBefore = true -> r.seq = u32 (maxSeq + 1)) :
    Program.Reads qspiFlash F (cflScanSector sector maxSeq anyBefore) m
      (scanAll ⟨0, 0, 0, maxSeq⟩ rs) := by
  have hlen := length_le_of_fits h.fits
  apply reads_cflScanLoop rs [] cflSectorSizeBytes _ hsector (by simpa using h) rfl
  · simp only [cflSectorSizeBytes]
    omega
  · intro r hr hany
    apply hseq r hr
    rcases hany with hbefore | hcount
    · exact hbefore
    · exact absurd hcount (by simp)

theorem reads_cflScanSector_breaks (hsector : sector < 254)
    (h : SectorHolds m (cflDataSectorAddr sector) rs) (hseq : Breaks maxSeq rs) :
    Program.Reads qspiFlash F (cflScanSector sector maxSeq true) m ⟨0, 0, 0, maxSeq⟩ := by
  cases rs with
  | nil => exact reads_cflScanLoop_end hsector h rfl
  | cons r rs =>
      have hfirst : SectorHolds m (cflDataSectorAddr sector) ([] ++ r :: rs) := h
      show Program.Reads qspiFlash F
        (cflScanLoop sector true (4095 + 1) ⟨0, 0, 0, maxSeq⟩) m _
      apply reads_cflScanLoop_step hsector hfirst rfl
      rw [if_pos ⟨.inl rfl, hseq r rfl⟩]
      exact Program.reads_pure _

/-!
## The whole ring
-/

theorem lastSeq_of_getLast {l : Rec} (hl : l ∈ rs.getLast?) : lastSeq maxSeq rs = l.seq := by
  induction rs generalizing maxSeq with
  | nil => simp at hl
  | cons r rs ih =>
      cases rs with
      | nil =>
          have hrl : r = l := by simpa using hl
          rw [hrl]
          rfl
      | cons s rs =>
          show lastSeq r.seq (s :: rs) = l.seq
          exact ih (by simpa using hl)

theorem Consecutive.append {ss : List Rec} (maxSeq : Nat) (hrs : Consecutive rs)
    (hss : Consecutive ss)
    (hjoin : rs ≠ [] -> forall s, s ∈ ss.head? -> s.seq = u32 (lastSeq maxSeq rs + 1)) :
    Consecutive (rs ++ ss) := by
  apply List.IsChain.append hrs hss
  intro l hl s hs
  have hne : rs ≠ [] := by
    rintro rfl
    simp at hl
  rw [hjoin hne s hs, lastSeq_of_getLast hl]

/-- The first `k` sectors from `h` on are one run of records. -/
structure Joins (R : Ring) (h k : Nat) : Prop where
  nonempty : forall j, j ∈ ringFrom h k -> R.recs j ≠ []
  consecutive : Consecutive (joined R h k)

/-- The run ends after `k` sectors. -/
def EndsAfter (R : Ring) (h k : Nat) : Prop :=
  k = 254 ∨ R.recs ((h + k) % 254) = [] ∨
    (0 < k ∧ Breaks (lastSeq 0 (joined R h k)) (R.recs ((h + k) % 254)))

/-- The last of `k` sectors, `h` itself if there is none. -/
def lastSector (h k : Nat) : Nat :=
  if k = 0 then h else (h + (k - 1)) % 254

def endOfRun (R : Ring) (h k : Nat) : Nat :=
  if k = 0 then 0 else sizes (R.recs (lastSector h k))

/-- The instance after the walk joined `k` sectors. -/
def scanned (inst : CflInst) (R : Ring) (k : Nat) : CflInst :=
  { inst with
    entryCount := (joined R inst.headSector k).length
    byteCount := payloadBytes (joined R inst.headSector k)
    tailSector := lastSector inst.headSector k
    tailOffset := endOfRun R inst.headSector k }

theorem joins_zero (R : Ring) (h : Nat) : Joins R h 0 where
  nonempty := by simp [ringFrom]
  consecutive := List.isChain_nil

theorem Joins.snoc (hj : Joins R h k) (hlt : h < 254) (hrecs : Consecutive (R.recs ((h + k) % 254)))
    (hne : R.recs ((h + k) % 254) ≠ [])
    (hseq : forall r, r ∈ (R.recs ((h + k) % 254)).head? -> 0 < k ->
      r.seq = u32 (lastSeq 0 (joined R h k) + 1)) : Joins R h (k + 1) where
  nonempty := by
    intro j hmem
    rw [ringFrom_snoc hlt, List.mem_append, List.mem_singleton] at hmem
    rcases hmem with hold | rfl
    · exact hj.nonempty j hold
    · exact hne
  consecutive := by
    rw [joined_snoc R hlt]
    apply Consecutive.append 0 hj.consecutive hrecs
    intro hnonempty s hs
    apply hseq s hs
    rcases Nat.eq_zero_or_pos k with rfl | hpos
    · exact absurd rfl hnonempty
    · exact hpos

theorem Joins.ne_nil (hj : Joins R h k) (hpos : 0 < k) : joined R h k ≠ [] := by
  cases k with
  | zero => omega
  | succ k =>
      have hfirst := hj.nonempty h (List.mem_cons_self ..)
      rw [joined_succ]
      intro hnil
      exact hfirst (List.append_eq_nil_iff.mp hnil).1

theorem lastSeq_ignore (hne : rs ≠ []) (a b : Nat) : lastSeq a rs = lastSeq b rs := by
  cases rs with
  | nil => exact absurd rfl hne
  | cons r rs => rfl

/-- The instance when the walk takes in the sector. -/
def afterSector (inst : CflInst) (sector : Nat) (rs : List Rec) : CflInst :=
  { inst with
    entryCount := u32 (inst.entryCount + rs.length)
    byteCount := u32 (inst.byteCount + payloadBytes rs)
    tailSector := sector
    tailOffset := sizes rs }

/-- The instance when the walk finds no record at all. -/
def atEmptySector (inst : CflInst) (sector : Nat) : CflInst :=
  { inst with tailSector := sector, tailOffset := 0 }

theorem atEmptySector_scanned (inst : CflInst) (hlt : inst.headSector < 254) :
    atEmptySector (scanned inst R 0) ((inst.headSector + 0) % 254) = scanned inst R 0 := by
  rw [Nat.add_zero, Nat.mod_eq_of_lt hlt]
  rfl

theorem afterSector_scanned (hm : Holds m R) (inst : CflInst) (hlt : inst.headSector < 254)
    (hk : k < 254) :
    afterSector (scanned inst R k) ((inst.headSector + k) % 254)
      (R.recs ((inst.headSector + k) % 254)) = scanned inst R (k + 1) := by
  have hsizes := hm.sizes_joined hlt (k + 1)
  have hlen := length_le_sizes (joined R inst.headSector (k + 1))
  have hbytes := payloadBytes_le_sizes (joined R inst.headSector (k + 1))
  have hcount : u32 ((scanned inst R k).entryCount +
      (R.recs ((inst.headSector + k) % 254)).length) =
      (joined R inst.headSector (k + 1)).length := by
    have hsum : (scanned inst R k).entryCount +
        (R.recs ((inst.headSector + k) % 254)).length =
        (joined R inst.headSector (k + 1)).length := by
      rw [joined_snoc R hlt, List.length_append]
      rfl
    rw [hsum]
    exact Nat.mod_eq_of_lt (by omega)
  have hpayload : u32 ((scanned inst R k).byteCount +
      payloadBytes (R.recs ((inst.headSector + k) % 254))) =
      payloadBytes (joined R inst.headSector (k + 1)) := by
    have hsum : (scanned inst R k).byteCount +
        payloadBytes (R.recs ((inst.headSector + k) % 254)) =
        payloadBytes (joined R inst.headSector (k + 1)) := by
      rw [joined_snoc R hlt, payloadBytes_append]
      rfl
    rw [hsum]
    exact Nat.mod_eq_of_lt (by omega)
  unfold afterSector
  rw [hcount, hpayload]
  rfl

theorem reads_cflBootScanLoop (hm : Holds m R) (inst : CflInst)
    (hlt : inst.headSector < 254) (steps k : Nat) (hsteps : k + steps = 254)
    (hj : Joins R inst.headSector k) :
    exists k', k' <= 254 ∧ Joins R inst.headSector k' ∧ EndsAfter R inst.headSector k' ∧
      Program.Reads qspiFlash F
        (cflBootScanLoop steps k (scanned inst R k)
          (lastSeq 0 (joined R inst.headSector k)) (decide (0 < k))) m
        (scanned inst R k', lastSeq 0 (joined R inst.headSector k'), decide (0 < k')) := by
  induction steps generalizing k with
  | zero => exact ⟨k, by omega, hj, .inl (by omega), Program.reads_pure _⟩
  | succ steps ih =>
      have hsector := hm.sectors ((inst.headSector + k) % 254) (by omega)
      generalize hrs : R.recs ((inst.headSector + k) % 254) = rs at hsector
      by_cases hstop : rs = [] ∨ (0 < k ∧ Breaks (lastSeq 0 (joined R inst.headSector k)) rs)
      · -- the sector ends the run
        refine ⟨k, by omega, hj, ?_, ?_⟩
        · rw [← hrs] at hstop
          exact .inr hstop
        · have hscan : Program.Reads qspiFlash F
              (cflScanSector ((inst.headSector + k) % 254)
                (lastSeq 0 (joined R inst.headSector k)) (decide (0 < k))) m
              ⟨0, 0, 0, lastSeq 0 (joined R inst.headSector k)⟩ := by
            rcases hstop with rfl | ⟨hpos, hbreaks⟩
            · show Program.Reads qspiFlash F _ m (scanAll ⟨0, 0, 0, _⟩ [])
              exact reads_cflScanSector_joins _ _ (by omega) hsector (by simp)
            · rw [decide_eq_true hpos]
              exact reads_cflScanSector_breaks (by omega) hsector hbreaks
          refine hscan.bind rfl ?_
          show Program.Reads qspiFlash F
            (if decide (0 < k) = true then pure _ else pure _) m _
          by_cases hpos : 0 < k
          · rw [if_pos (decide_eq_true hpos)]
            exact Program.reads_pure _
          · have hzero : k = 0 := by omega
            subst hzero
            rw [if_neg (by simp)]
            have hstay := atEmptySector_scanned (R := R) inst hlt
            show Program.Reads qspiFlash F
              (pure (some (atEmptySector (scanned inst R 0) ((inst.headSector + 0) % 254),
                _, _))) m _
            rw [hstay]
            exact Program.reads_pure _
      · -- the sector continues it
        have hne : rs ≠ [] := fun h => hstop (.inl h)
        have hseq : forall r, r ∈ rs.head? -> 0 < k ->
            r.seq = u32 (lastSeq 0 (joined R inst.headSector k) + 1) := by
          intro r hr hpos
          by_contra hdiff
          apply hstop
          refine .inr ⟨hpos, ?_⟩
          intro s hs
          rw [Option.mem_def.mp hr] at hs
          cases hs
          exact hdiff
        have hnext : Joins R inst.headSector (k + 1) :=
          hj.snoc hlt (by rw [hrs]; exact hsector.consecutive) (by rw [hrs]; exact hne)
            (by rw [hrs]; exact hseq)
        obtain ⟨k', hk', hj', hend, hreads⟩ := ih (k + 1) (by omega) hnext
        refine ⟨k', hk', hj', hend, ?_⟩
        have hscan : Program.Reads qspiFlash F
            (cflScanSector ((inst.headSector + k) % 254)
              (lastSeq 0 (joined R inst.headSector k)) (decide (0 < k))) m
            (scanAll ⟨0, 0, 0, lastSeq 0 (joined R inst.headSector k)⟩ rs) :=
          reads_cflScanSector_joins _ _ (by omega) hsector
            (fun r hr hany => hseq r hr (of_decide_eq_true hany))
        refine hscan.bind rfl ?_
        have hcount : (scanAll ⟨0, 0, 0, lastSeq 0 (joined R inst.headSector k)⟩ rs).count ≠ 0 := by
          simp only [scanAll, Nat.zero_add]
          exact fun hlen => hne (List.length_eq_zero_iff.mp hlen)
        show Program.Reads qspiFlash F
          (if (scanAll ⟨0, 0, 0, lastSeq 0 (joined R inst.headSector k)⟩ rs).count = 0 then _
            else cflBootScanLoop _ _ _ _ _) m _
        rw [if_neg hcount]
        have hstep := afterSector_scanned hm inst hlt (k := k) (by omega)
        rw [hrs] at hstep
        have hlast : lastSeq (lastSeq 0 (joined R inst.headSector k)) rs =
            lastSeq 0 (joined R inst.headSector (k + 1)) := by
          rw [joined_snoc R hlt, lastSeq_append, hrs]
        have hany : decide (0 < k + 1) = true := decide_eq_true (by omega)
        rw [hany, ← hlast, ← hstep] at hreads
        simp only [scanAll, Nat.zero_add]
        exact hreads

/-- The slots of the ring are what the metadata sectors hold. -/
def SlotsParse (m : Memory) (R : Ring) : Prop :=
  forall s, s < 2 -> cflMetaParse (m.slice (cflMetaSlotAddr s) 16) = R.slot s

/-- What `cfl_create` takes over from the metadata slots. -/
def takeSlot (R : Ring) (inst : CflInst) (slot : Nat) : CflInst :=
  match R.slot slot with
  | none => inst
  | some entry => cflMetaTake inst slot entry.1 entry.2

def slotsLoaded (R : Ring) (slots : List Nat) (inst : CflInst) : CflInst :=
  slots.foldl (takeSlot R) inst

theorem takeSlot_none (h : R.slot s = none) (inst : CflInst) : takeSlot R inst s = inst := by
  unfold takeSlot
  rw [h]

theorem takeSlot_some {seq head : Nat} (h : R.slot s = some (seq, head)) (inst : CflInst) :
    takeSlot R inst s = cflMetaTake inst s seq head := by
  unfold takeSlot
  rw [h]

theorem slotsLoaded_cons (R : Ring) (s : Nat) (slots : List Nat) (inst : CflInst) :
    slotsLoaded R (s :: slots) inst = slotsLoaded R slots (takeSlot R inst s) := rfl

theorem reads_cflMetaLoadSlots (hm : SlotsParse m R) (slots : List Nat) (inst : CflInst)
    (hslots : forall s, s ∈ slots -> s < 2) :
    Program.Reads qspiFlash F (cflMetaLoadSlots slots inst) m (slotsLoaded R slots inst) := by
  induction slots generalizing inst with
  | nil => exact Program.reads_pure _
  | cons s slots ih =>
      have hs := hslots s (List.mem_cons_self ..)
      have hrest := fun inst => ih inst fun t ht => hslots t (List.mem_cons_of_mem _ ht)
      have hparse := hm s hs
      refine (reads_qspiRead (by decide) ?_).bind rfl ?_
      · rw [cflMetaSlotAddr_eq]
        simp only [cflMetaSlotSz, qspiFlashDeviceSizeBytes]
        omega
      · dsimp only
        rw [hparse, slotsLoaded_cons]
        cases hentry : R.slot s with
        | none =>
            rw [takeSlot_none hentry]
            exact hrest inst
        | some entry =>
            rw [takeSlot_some hentry]
            exact hrest _

/-- The instance before any slot was looked at. -/
def metaStart : CflInst :=
  { cflInstZero with metaSlot := 1 }

def metaLoaded (R : Ring) : CflInst :=
  slotsLoaded R [0, 1] metaStart

theorem reads_cflMetaLoad (hm : SlotsParse m R) :
    Program.Reads qspiFlash F (cflMetaLoad cflInstZero) m (metaLoaded R) :=
  reads_cflMetaLoadSlots hm [0, 1] metaStart (by simp)

/-- The instance `cfl_create` answers when it joined `k` sectors. -/
structure Booted (R : Ring) (inst : CflInst) (k : Nat) : Prop where
  sectors_le : k <= 254
  joins : Joins R inst.headSector k
  ends : EndsAfter R inst.headSector k
  headSector : inst.headSector = (metaLoaded R).headSector
  headOffset : inst.headOffset = 0
  tailSector : inst.tailSector = lastSector inst.headSector k
  nextSeqNum : inst.nextSeqNum =
    if 0 < k then u32 (lastSeq 0 (joined R inst.headSector k) + 1) else 0
  entryCount : inst.entryCount = (joined R inst.headSector k).length
  byteCount : inst.byteCount = payloadBytes (joined R inst.headSector k)
  metaSlot : inst.metaSlot = (metaLoaded R).metaSlot
  metaSeqNum : inst.metaSeqNum = (metaLoaded R).metaSeqNum
  metaSlotValid : inst.metaSlotValid = (metaLoaded R).metaSlotValid

theorem lastSector_lt (hlt : h < 254) : lastSector h k < 254 := by
  unfold lastSector
  split
  · exact hlt
  · omega

theorem cflMetaTake_cases (inst : CflInst) (slot seq head : Nat) :
    cflMetaTake inst slot seq head = inst ∨ cflMetaTake inst slot seq head =
      { inst with
        metaSlotValid := true
        metaSlot := slot
        metaSeqNum := seq
        headSector := head } := by
  unfold cflMetaTake
  split
  · exact .inr rfl
  · exact .inl rfl

theorem slotsLoaded_bounds (hm : SlotsParse m R) (slots : List Nat) (inst : CflInst)
    (hslots : forall s, s ∈ slots -> s < 2) (hhead : inst.headSector < 254)
    (hslot : inst.metaSlot < 2) :
    (slotsLoaded R slots inst).headSector < 254 ∧ (slotsLoaded R slots inst).metaSlot < 2 := by
  induction slots generalizing inst with
  | nil => exact ⟨hhead, hslot⟩
  | cons s slots ih =>
      have hrest := fun inst => ih inst fun t ht => hslots t (List.mem_cons_of_mem _ ht)
      have hs := hslots s (List.mem_cons_self ..)
      have hparse := hm s hs
      rw [slotsLoaded_cons]
      cases hentry : R.slot s with
      | none =>
          rw [takeSlot_none hentry]
          exact hrest inst hhead hslot
      | some entry =>
          rw [hentry] at hparse
          have hbound := (cflMetaParse_bounds hparse).2
          rw [takeSlot_some hentry]
          rcases cflMetaTake_cases inst s entry.1 entry.2 with hkeep | htake
          · rw [hkeep]
            exact hrest inst hhead hslot
          · rw [htake]
            exact hrest _ hbound hs

theorem slotsLoaded_headOffset (R : Ring) (slots : List Nat) (inst : CflInst) :
    (slotsLoaded R slots inst).headOffset = inst.headOffset := by
  induction slots generalizing inst with
  | nil => rfl
  | cons s slots ih =>
      rw [slotsLoaded_cons]
      cases hentry : R.slot s with
      | none =>
          rw [takeSlot_none hentry]
          exact ih inst
      | some entry =>
          rw [takeSlot_some hentry]
          rcases cflMetaTake_cases inst s entry.1 entry.2 with hkeep | htake
          · rw [hkeep]
            exact ih inst
          · rw [htake]
            exact ih _

theorem reads_cflRetireDirty (inst : CflInst) (htail : inst.tailSector < 254) :
    exists inst', Program.Reads qspiFlash F (cflRetireDirty inst) m inst' ∧
      ((inst' = retired inst ∧ ¬ Memory.Blank m
          (cflDataSectorAddr inst.tailSector + inst.tailOffset) (4096 - inst.tailOffset)) ∨
        (inst' = inst ∧ (cflRoomForRecord inst.tailOffset ->
          Memory.Blank m (cflDataSectorAddr inst.tailSector + inst.tailOffset)
            (4096 - inst.tailOffset)))) := by
  unfold cflRetireDirty
  by_cases hroom : cflRoomForRecord inst.tailOffset
  · have hend := cflRoomForRecord_iff.mp hroom
    rw [if_pos hroom]
    have herased := reads_cflErasedLoop (F := F) (m := m) (4096 - inst.tailOffset)
      (cflDataSectorAddr inst.tailSector + inst.tailOffset) (4096 - inst.tailOffset)
      (Nat.le_refl _) (sector_in htail (by omega))
    have hiff := slice_all_erased_iff m
      (cflDataSectorAddr inst.tailSector + inst.tailOffset) (4096 - inst.tailOffset)
    cases hclean : (m.slice (cflDataSectorAddr inst.tailSector + inst.tailOffset)
        (4096 - inst.tailOffset)).all (fun byte => byte == erasedByte) with
    | true =>
        rw [hclean] at herased
        refine ⟨inst, herased.bind rfl (Program.reads_pure _), .inr ⟨rfl, fun _ => ?_⟩⟩
        exact hiff.mp hclean
    | false =>
        rw [hclean] at herased
        refine ⟨retired inst, herased.bind rfl (Program.reads_pure _), .inl ⟨rfl, ?_⟩⟩
        intro hblank
        rw [hiff.mpr hblank] at hclean
        cases hclean
  · rw [if_neg hroom]
    exact ⟨inst, Program.reads_pure _, .inr ⟨rfl, fun h => absurd h hroom⟩⟩

/-- Erased bytes behind the run keep the tail sector in use. -/
def KeepsCleanTail (m : Memory) (R : Ring) (inst : CflInst) (k : Nat) : Prop :=
  Memory.Blank m (cflDataSectorAddr inst.tailSector + endOfRun R inst.headSector k)
      (4096 - endOfRun R inst.headSector k) ->
    inst.tailOffset = endOfRun R inst.headSector k

theorem reads_cflCreate (F : Faults qspi) (hm : Holds m R) :
    exists inst k, Program.Reads qspiFlash F cflCreate m inst ∧ Booted R inst k ∧
      Sim m R inst ∧ KeepsCleanTail m R inst k := by
  have hbounds := slotsLoaded_bounds hm.slots [0, 1] metaStart (by simp) (by decide) (by decide)
  have hoffset := slotsLoaded_headOffset R [0, 1] metaStart
  generalize hloaded : metaLoaded R = inst₀
  have hload := reads_cflMetaLoad (F := F) hm.slots
  have hhead : inst₀.headSector < 254 := by rw [← hloaded]; exact hbounds.1
  have hslot : inst₀.metaSlot < 2 := by rw [← hloaded]; exact hbounds.2
  have hoff : inst₀.headOffset = 0 := by rw [← hloaded]; exact hoffset
  obtain ⟨k, hk, hjoins, hends, hscan⟩ :=
    reads_cflBootScanLoop (F := F) hm inst₀ hhead 254 0 (by omega) (joins_zero R _)
  let inst₁ : CflInst :=
    { scanned inst₀ R k with
      nextSeqNum := if decide (0 < k) then u32 (lastSeq 0 (joined R inst₀.headSector k) + 1)
        else 0 }
  obtain ⟨inst, hretire, hcases⟩ := reads_cflRetireDirty (F := F) (m := m) inst₁
    (lastSector_lt hhead)
  have hbooted : forall offset, Booted R { inst₁ with tailOffset := offset } k := by
    intro offset
    refine ⟨hk, hjoins, hends, ?_, hoff, rfl, ?_, rfl, rfl, ?_, ?_, ?_⟩
    · rw [hloaded]
      rfl
    · show (if decide (0 < k) = true then _ else _) = _
      simp only [decide_eq_true_eq]
      rfl
    all_goals
      rw [hloaded]
      rfl
  -- where the run ends in the tail sector
  have hend : inst₁.tailOffset = sizes (R.recs inst₁.tailSector) := by
    show endOfRun R inst₀.headSector k = sizes (R.recs (lastSector inst₀.headSector k))
    by_cases hzero : k = 0
    · subst hzero
      have hempty : R.recs inst₀.headSector = [] := by
        rcases hends with h | h | h
        · omega
        · rwa [Nat.add_zero, Nat.mod_eq_of_lt hhead] at h
        · omega
      simp [endOfRun, lastSector, hempty]
    · simp only [endOfRun, if_neg hzero]
  have hseq : forall l, l ∈ (R.recs inst₁.tailSector).getLast? ->
      inst₁.nextSeqNum = u32 (l.seq + 1) := by
    intro l hl
    by_cases hzero : k = 0
    · subst hzero
      have hempty : sizes (R.recs inst₁.tailSector) = 0 := hend.symm
      have hlen := length_le_sizes (R.recs inst₁.tailSector)
      have hnil : R.recs inst₁.tailSector = [] := List.length_eq_zero_iff.mp (by omega)
      rw [hnil] at hl
      simp at hl
    · have hpos : 0 < k := Nat.pos_of_ne_zero hzero
      have htail : inst₁.tailSector = (inst₀.headSector + (k - 1)) % 254 := if_neg hzero
      have hlast : l ∈ (joined R inst₀.headSector k).getLast? := by
        have hsnoc := joined_snoc R hhead (k - 1)
        rw [show k - 1 + 1 = k by omega, ← htail] at hsnoc
        rw [hsnoc, List.getLast?_append, Option.mem_def.mp hl]
        rfl
      show (if decide (0 < k) = true then u32 (lastSeq 0 (joined R inst₀.headSector k) + 1)
        else 0) = _
      rw [if_pos (decide_eq_true hpos), lastSeq_of_getLast hlast]
  have hsim : (cflRoomForRecord inst₁.tailOffset ->
      Memory.Blank m (cflDataSectorAddr inst₁.tailSector + inst₁.tailOffset)
        (4096 - inst₁.tailOffset)) -> Sim m R inst₁ := by
    intro hblank
    refine ⟨hm, hhead, lastSector_lt hhead, hslot, ?_, Nat.le_of_eq hend.symm,
      fun _ => hend, hblank, fun _ => hseq⟩
    show (if decide (0 < k) = true then _ else 0) < _
    split
    · exact Nat.mod_lt _ (by decide)
    · decide
  refine ⟨inst, k, hload.bind rfl ?_, ?_, ?_, ?_⟩
  · rw [hloaded]
    exact hscan.bind rfl hretire
  · rcases hcases with ⟨rfl, _⟩ | ⟨rfl, _⟩
    · exact hbooted _
    · exact hbooted _
  · rcases hcases with ⟨rfl, _⟩ | ⟨rfl, hblank⟩
    · refine ⟨hm, hhead, lastSector_lt hhead, hslot, ?_, (hm.sectors _ (lastSector_lt hhead)).fits,
        fun hroom => (not_room_of_retired inst₁ hroom).elim,
        fun hroom => (not_room_of_retired inst₁ hroom).elim,
        fun hroom => (not_room_of_retired inst₁ hroom).elim⟩
      show (if decide (0 < k) = true then _ else 0) < _
      split
      · exact Nat.mod_lt _ (by decide)
      · decide
    · exact hsim hblank
  · intro hclean
    rcases hcases with ⟨rfl, hdirty⟩ | ⟨rfl, _⟩
    · exact absurd hclean hdirty
    · rfl

end Reading

end EnvMonitor.Gateway.CircularFlashLog
