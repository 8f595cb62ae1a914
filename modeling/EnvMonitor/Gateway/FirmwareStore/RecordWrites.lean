import EnvMonitor.Gateway.FirmwareStore.BootRecord

/-!
# Writing the boot record

What a page holds while a record is written to it, and how `fs_meta_write` and
`record_write` end.
-/

namespace EnvMonitor.Gateway.FirmwareStore

open Device Drivers Gateway.ConfigStore Bootloader

/-!
## Torn records
-/

theorem take_word_erased (w : UInt32) (j : Nat) (hj : j <= 8) :
    exists w' : UInt32, (wordBytes w ++ wordBytes firmwareErasedWord).take j ++
        List.replicate (8 - j) erasedByte = wordBytes w' ++ wordBytes firmwareErasedWord := by
  have herased : wordBytes firmwareErasedWord = List.replicate 4 erasedByte := rfl
  rw [herased, List.take_append, wordBytes_length, List.take_replicate]
  by_cases h : j <= 4
  · have hlen : ((wordBytes w).take j ++ List.replicate (4 - j) erasedByte).length = 4 := by
      rw [List.length_append, List.length_take, wordBytes_length, List.length_replicate]
      omega
    have hword := wordBytes_wordAt (i := 0) (Nat.le_of_eq hlen.symm)
    rw [List.drop_zero, List.take_of_length_le (Nat.le_of_eq hlen)] at hword
    exists wordAt ((wordBytes w).take j ++ List.replicate (4 - j) erasedByte) 0
    rw [hword, show min (j - 4) 4 = 0 by omega, show 8 - j = (4 - j) + 4 by omega,
      ← List.replicate_append_replicate]
    simp
  · exists w
    rw [List.take_of_length_le (by simp; omega), List.append_assoc,
      List.replicate_append_replicate, show min (j - 4) 4 + (8 - j) = 4 by omega]

section

variable {F : Faults iflash} {m m' : Memory} {c k n : Nat} {r : FirmwareBootMeta}

theorem torn_body (hpad : r.pad = firmwareErasedWord) (hlo : 16 <= k) (hhi : k <= 24) :
    exists w : UInt32, torn r k = { r with crc32 := w }.bytes := by
  rcases take_word_erased r.crc32 (k - 16) (by omega) with ⟨w, hw⟩
  exists w
  have htake : r.bytes.take k = r.body ++ r.tail.take (k - 16) := by
    unfold FirmwareBootMeta.bytes
    rw [List.take_append, FirmwareBootMeta.body_length, List.take_of_length_le (by simp; omega)]
  have htail : r.tail = wordBytes r.crc32 ++ wordBytes firmwareErasedWord := by
    unfold FirmwareBootMeta.tail
    rw [hpad]
  unfold torn
  rw [htake, List.append_assoc, show 24 - k = 8 - (k - 16) by omega, htail, hw, ← hpad]
  rfl

theorem torn_head (hpad : r.pad = firmwareErasedWord) :
    torn r 16 = { r with crc32 := firmwareErasedWord }.bytes := by
  have htake : r.bytes.take 16 = r.body := by
    unfold FirmwareBootMeta.bytes
    rw [List.take_left' (by simp)]
  have herased : List.replicate (24 - 16) erasedByte =
      wordBytes firmwareErasedWord ++ wordBytes firmwareErasedWord := rfl
  unfold torn
  rw [htake, herased]
  unfold FirmwareBootMeta.bytes FirmwareBootMeta.tail
  rw [hpad]
  rfl

theorem metaParse_otherCrc (hvalid : RecordIsValid r) (w : UInt32) :
    metaParse { r with crc32 := w }.bytes = if w = r.crc32 then some r else none := by
  have hlen : 16 <= { r with crc32 := w }.bytes.length := by simp
  rw [metaParse_eq hlen, FirmwareBootMeta.ofBytes_bytes]
  by_cases hw : w = r.crc32
  · subst hw
    rw [if_pos hvalid, if_pos rfl]
  · rw [if_neg hw]
    apply if_neg
    intro hother
    apply hw
    exact hother.2.1.trans hvalid.2.1.symm

theorem metaParse_torn (hvalid : RecordIsValid r) (hpad : r.pad = firmwareErasedWord)
    (hlo : 16 <= k) (hhi : k <= 24) :
    metaParse (torn r k) = none ∨ metaParse (torn r k) = some r := by
  rcases torn_body hpad hlo hhi with ⟨w, hw⟩
  rw [hw, metaParse_otherCrc hvalid]
  split
  · exact .inr rfl
  · exact .inl rfl

/-- After the first 16 bytes the page passes the record test exactly when the CRC of the
record is the erased word. -/
theorem metaParse_torn_head (hvalid : RecordIsValid r) (hpad : r.pad = firmwareErasedWord) :
    metaParse (torn r 16) = if r.crc32 = firmwareErasedWord then some r else none := by
  rw [torn_head hpad, metaParse_otherCrc hvalid]
  simp only [eq_comm]

/-!
## The page during a write
-/

/-- Interrupted programs of the first 16 bytes of a record leave no record behind. -/
def RejectsTorn (F : Faults iflash) : Prop :=
  forall addr data n, data.length = 16 -> n < 16 ->
    F.fails (.program addr data) n ∨ F.cuts (.program addr data) n ->
    metaParse (data.take n ++ List.replicate (24 - n) erasedByte) = none

/-- What a page holds at some point of a write: what it held, no record, the record, or what
an interrupted program left of its first 16 bytes. -/
inductive PageHolds (F : Faults iflash) (m : Memory) (c : Nat) (r : FirmwareBootMeta)
    (m' : Memory) : Prop where
  | nothing : copyAt m' c = none -> PageHolds F m c r m'
  | same : copyAt m' c = copyAt m c -> PageHolds F m c r m'
  | record : copyAt m' c = some r -> PageHolds F m c r m'
  | torn (n : Nat) : n < 16 ->
      (F.fails (.program (fsMetaAddr c) (r.bytes.take 16)) n ∨
        F.cuts (.program (fsMetaAddr c) (r.bytes.take 16)) n) ->
      copyAt m' c = copyAt (written m c r n) c -> PageHolds F m c r m'

/-- A write to the page is under way, or was given up. -/
structure Underway (F : Faults iflash) (m : Memory) (c : Nat) (r : FirmwareBootMeta)
    (m' : Memory) : Prop where
  sameOutside : Memory.SameOutside m m' (fsMetaAddr c) 2048
  holds : PageHolds F m c r m'

theorem copyAt_torn (htorn : RejectsTorn F) (hn : n < 16)
    (h : F.fails (.program (fsMetaAddr c) (r.bytes.take 16)) n ∨
      F.cuts (.program (fsMetaAddr c) (r.bytes.take 16)) n) :
    copyAt (written m c r n) c = none := by
  have hnone := htorn _ _ n (by simp) hn h
  rw [List.take_take, Nat.min_eq_left (by omega)] at hnone
  rw [copyAt_written m c r (by omega)]
  exact hnone

theorem Midway.underway (h : Midway F m c r m') (hvalid : RecordIsValid r)
    (hpad : r.pad = firmwareErasedWord) : Underway F m c r m' := by
  refine ⟨h.sameOutside, ?_⟩
  cases h with
  | erasing n hn =>
      rcases copyAt_erased m c n with hnone | hkept
      · exact .nothing hnone
      · exact .same hkept
  | body n hn hfault => exact .torn n hn hfault rfl
  | programming k hlo hhi =>
      have hcopy := copyAt_written m c r hhi
      rcases metaParse_torn hvalid hpad hlo hhi with hnone | hsome
      · exact .nothing (hcopy.trans hnone)
      · exact .record (hcopy.trans hsome)

theorem written_congr (h : Memory.SameOutside m m' (fsMetaAddr c) 2048) (k : Nat) :
    written m' c r k = written m c r k := by
  have herase : m'.erase (fsMetaAddr c) 2048 = m.erase (fsMetaAddr c) 2048 := by
    funext a
    by_cases hin : fsMetaAddr c <= a ∧ a < fsMetaAddr c + 2048
    · rw [Memory.erase_blank m' _ _ a hin.1 hin.2, Memory.erase_blank m _ _ a hin.1 hin.2]
    · have hout : a < fsMetaAddr c ∨ fsMetaAddr c + 2048 <= a := by omega
      rw [Memory.erase_sameOutside m' _ _ a hout, Memory.erase_sameOutside m _ _ a hout,
        h a hout]
  unfold written
  rw [herase]

theorem Underway.trans {m'' : Memory} (h : Underway F m c r m') (h' : Underway F m' c r m'') :
    Underway F m c r m'' := by
  refine ⟨h.sameOutside.trans h'.sameOutside, ?_⟩
  cases h'.holds with
  | torn n hn hfault hcopy =>
      rw [written_congr h.sameOutside n] at hcopy
      exact .torn n hn hfault hcopy
  | nothing hnone => exact .nothing hnone
  | record hsome => exact .record hsome
  | same hsame =>
      cases h.holds with
      | nothing hnone => exact .nothing (hsame.trans hnone)
      | record hsome => exact .record (hsame.trans hsome)
      | same hkept => exact .same (hsame.trans hkept)
      | torn n hn hfault hcopy => exact .torn n hn hfault (hsame.trans hcopy)

theorem Underway.copy (h : Underway F m c r m') (htorn : RejectsTorn F) :
    copyAt m' c = none ∨ copyAt m' c = copyAt m c ∨ copyAt m' c = some r := by
  cases h.holds with
  | nothing hnone => exact .inl hnone
  | same hsame => exact .inr (.inl hsame)
  | record hsome => exact .inr (.inr hsome)
  | torn n hn hfault hcopy => exact .inl (hcopy.trans (copyAt_torn htorn hn hfault))

theorem Underway.otherCopy {c' : Nat} (h : Underway F m c r m') (hc : c < 2) (hc' : c' < 2)
    (hne : c' ≠ c) : copyAt m' c' = copyAt m c' :=
  copyAt_otherPage h.sameOutside hc hc' hne

theorem inForce_writtenAll (hvalid : RecordIsValid r)
    (hnewer : forall c r₀, inForce m = some (c, r₀) -> r₀.generation < r.generation) :
    inForce (written m (targetOf m) r 24) = some (targetOf m, r) := by
  have hcopy := copyAt_written m (targetOf m) r (Nat.le_refl 24)
  rw [torn_all, metaParse_bytes hvalid] at hcopy
  exact inForce_written (fun c hc hne => copyAt_otherPage (written_sameOutside m _ r 24)
    (targetOf_lt m) hc hne) hcopy hnewer

/-- The generation a write gives its record is newer than the one in force, unless that is
the last one. -/
theorem recordNextGeneration_newer {cur : BootRecord}
    (hroom : forall c r₀, cur = some (c, r₀) -> r₀.generation < firmwareErasedWord) :
    forall c r₀, cur = some (c, r₀) -> r₀.generation < recordNextGeneration cur := by
  intro c r₀ hcur
  subst hcur
  have hlt := hroom c r₀ rfl
  change r₀.generation < r₀.generation + 1
  rw [UInt32.lt_iff_toNat_lt] at hlt ⊢
  have hmax : firmwareErasedWord.toNat = 4294967295 := rfl
  rw [UInt32.toNat_add]
  have hone : (1 : UInt32).toNat = 1 := rfl
  omega

end

/-!
## The two writers
-/

section

variable {F : Faults iflash} {m : Memory} {active state previous : UInt8} {count : UInt32}

theorem wp_fsMetaWrite (fsMeta : FsMeta) (count : UInt32) (hactive : metaBankLegal active)
    (hprevious : metaBankLegal previous) (hstate : metaStateLegal state) :
    (fsMetaWrite fsMeta active state previous count).wp internalFlash F
      (fun out m' => WriteExit F m (fsMetaTarget fsMeta)
          (fsMetaRecord active state previous count (fsMetaNextGeneration fsMeta))
          (decide (out.1 = .ok)) m' ∧
        (out.1 = .ok -> out.2 = fsMetaOf (fsMetaTarget fsMeta)
          (fsMetaRecord active state previous count (fsMetaNextGeneration fsMeta))) ∧
        (out.1 ≠ .ok -> out.2 = fsMeta))
      (Midway F m (fsMetaTarget fsMeta)
        (fsMetaRecord active state previous count (fsMetaNextGeneration fsMeta))) m := by
  unfold fsMetaWrite
  apply Program.wp_seq (wp_fsMetaProgram (fsMetaRecord_valid hactive hprevious hstate))
  intro err m' hexit
  by_cases herr : err = .ok
  · rw [if_pos herr]
    subst herr
    exact ⟨hexit, fun _ => rfl, fun h => absurd rfl h⟩
  · rw [if_neg herr]
    exact ⟨hexit, fun h => absurd h herr, fun _ => rfl⟩

variable {r : FirmwareBootMeta} {c : Nat} {m' : Memory}

theorem WriteExit.of_never {done : Bool} (h : WriteExit (Faults.never iflash) m c r done m') :
    done = true ∧ m' = written m c r 24 := by
  cases h with
  | done => exact ⟨rfl, rfl⟩
  | eraseFailed n hfail => exact hfail.elim
  | bodyFailed n hfail => exact hfail.elim
  | tailFailed n hfail => exact hfail.elim
  | readFailed n hfail => exact hfail.elim

theorem WriteExit.fault (h : WriteExit F m c r false m') : exists op n, F.fails op n := by
  cases h with
  | eraseFailed n hfail => exact ⟨_, n, hfail⟩
  | bodyFailed n hfail => exact ⟨_, n, hfail⟩
  | tailFailed n hfail => exact ⟨_, n, hfail⟩
  | readFailed n hfail => exact ⟨_, n, hfail⟩

theorem wp_recordWriteAttempts (hvalid : RecordIsValid r) (hpad : r.pad = firmwareErasedWord)
    (attempts : Nat) :
    (recordWriteAttempts attempts (metaAddr c) r).wp internalFlash F
      (fun done m' => Underway F m c r m' ∧ (done = true -> m' = written m c r 24) ∧
        (done = false -> attempts = 0 ∨ exists op n, F.fails op n))
      (Underway F m c r) m := by
  induction attempts generalizing m with
  | zero =>
      exact ⟨⟨Memory.SameOutside.refl m _ _, .same rfl⟩, fun h => absurd h (by simp),
        fun _ => .inl rfl⟩
  | succ attempts ih =>
      unfold recordWriteAttempts
      apply Program.wp_seq (R := WriteExit F m c r)
      · exact Program.wp_mono (fun _ _ h => h) (fun _ h => Midway.underway h hvalid hpad)
          (wp_recordWriteOnce hvalid)
      intro done m' hexit
      have hunder := hexit.midway.underway hvalid hpad
      cases done with
      | true =>
          rw [if_pos rfl]
          cases hexit with
          | done => exact ⟨hunder, fun _ => rfl, fun h => absurd h (by simp)⟩
      | false =>
          have hfault := hexit.fault
          rw [if_neg (by simp)]
          apply Program.wp_mono _ _ ih
          · intro again m'' hagain
            refine ⟨hunder.trans hagain.1, ?_, fun _ => .inr hfault⟩
            intro htrue
            rw [hagain.2.1 htrue]
            exact written_congr hunder.sameOutside 24
          · intro m'' hcut
            exact hunder.trans hcut

theorem wp_recordWrite (cur : BootRecord) (count : UInt32) (hactive : metaBankLegal active)
    (hprevious : metaBankLegal previous) (hstate : metaStateLegal state) :
    (recordWrite cur active state previous count).wp internalFlash F
      (fun out m' =>
        (out = (true, some (recordTarget cur,
            recordOf active state previous count (recordNextGeneration cur))) ∧
          m' = written m (recordTarget cur)
            (recordOf active state previous count (recordNextGeneration cur)) 24) ∨
        (out = (false, cur) ∧ Underway F m (recordTarget cur)
            (recordOf active state previous count (recordNextGeneration cur)) m' ∧
          exists op n, F.fails op n))
      (Underway F m (recordTarget cur)
        (recordOf active state previous count (recordNextGeneration cur))) m := by
  unfold recordWrite
  apply Program.wp_seq (wp_recordWriteAttempts
    (fsMetaRecord_valid hactive hprevious hstate) rfl bootWriteAttempts)
  intro done m' hdone
  cases done with
  | true => exact .inl ⟨rfl, hdone.2.1 rfl⟩
  | false =>
      rcases hdone.2.2 rfl with hzero | hfault
      · cases hzero
      · exact .inr ⟨rfl, hdone.1, hfault⟩

end

end EnvMonitor.Gateway.FirmwareStore
