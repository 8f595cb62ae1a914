import EnvMonitor.Gateway.FirmwareStore.Journal
import EnvMonitor.Gateway.FirmwareStore.Lifetime

/-!
# Resuming a download

The caller stages one file for each image identifier.  What the journal of the staging area
says is then true of the bytes behind it, whatever failed and wherever power was lost.
-/

namespace EnvMonitor.Gateway.FirmwareStore

open Device Drivers Gateway.ConfigStore
open Program (eval_bind eval_inLeft eval_inRight eval_of_exec wp wp_bind wp_crash wp_inLeft
  wp_inRight wp_ite wp_mono wp_pure wp_returns wp_seq)

/-- The longest file a session accepts. -/
abbrev maxFileLen : Nat := firmwareHeaderSize + firmwareMaxImageLen

/-- The first `n` staged bytes are the first `n` bytes of the file. -/
def StagedPrefix (file : List UInt8) (m : Memory) (n : Nat) : Prop :=
  m.slice (imageAddr 0) n = file.take n

/-- The session record on flash is one for this file. -/
def SessionAt (m : Memory) (imageId : UInt32) (fileLen : Nat) : Prop :=
  JournalSessionOk (m.slice journalAddr 16) imageId fileLen

instance (m : Memory) (imageId : UInt32) (fileLen : Nat) :
    Decidable (SessionAt m imageId fileLen) := by
  unfold SessionAt
  infer_instance

/-- Whatever session a scan accepts, the checkpoint it finds is backed by staged bytes. -/
def JournalSound (files : UInt32 -> List UInt8) (m : Memory) : Prop :=
  forall imageId fileLen, SessionAt m imageId fileLen ->
    exists k c, JournalHolds fileLen m k c ∧ StagedPrefix (files imageId) m c

/-- A session in progress: the staged bytes reach up to `pos`, and the next journal entry
goes to `next`. -/
structure Underwrite (files : UInt32 -> List UInt8) (m : Memory) (imageId : UInt32)
    (fileLen pos next : Nat) : Prop where
  session : SessionAt m imageId fileLen
  journal : exists k c, next = firmwareJournalEntriesOffset + 8 * k ∧ c <= pos ∧
    JournalHolds fileLen m k c
  staged : StagedPrefix (files imageId) m pos

/-- The rest of the sector that `pos` lies in is erased. -/
def SectorBlank (m : Memory) (pos : Nat) : Prop :=
  Memory.Blank m (imageAddr pos) (qspiFlashSectorSizeBytes - pos % qspiFlashSectorSizeBytes)

section

variable {files : UInt32 -> List UInt8} {m m' : Memory} {imageId : UInt32}
variable {fileLen pos next : Nat}

variable {k n : Nat} {data file : List UInt8} {F : Faults qspi}

theorem StagedPrefix.le (h : StagedPrefix file m n) (hle : k <= n) : StagedPrefix file m k := by
  unfold StagedPrefix at h ⊢
  rw [Memory.slice_take m _ hle, h, List.take_take, Nat.min_eq_left hle]

theorem StagedPrefix.congr (h : StagedPrefix file m n) (hsame : Memory.SameOn m m' (imageAddr 0) n)
    : StagedPrefix file m' n := by
  unfold StagedPrefix
  rw [Memory.slice_congr hsame]
  exact h

theorem stagedPrefix_zero (file : List UInt8) (m : Memory) : StagedPrefix file m 0 := rfl

theorem SessionAt.unique {imageId' : UInt32} {fileLen' : Nat} (h : SessionAt m imageId fileLen)
    (h' : SessionAt m imageId' fileLen') : imageId' = imageId ∧ fileLen' = fileLen :=
  ⟨h'.2.2.1.symm.trans h.2.2.1, h'.2.2.2.symm.trans h.2.2.2⟩

theorem SessionAt.congr (h : SessionAt m' imageId fileLen)
    (hsame : Memory.SameOn m m' journalAddr 16) : SessionAt m imageId fileLen := by
  unfold SessionAt at h ⊢
  rw [Memory.slice_congr hsame] at h
  exact h

theorem Underwrite.sound (h : Underwrite files m imageId fileLen pos next) :
    JournalSound files m := by
  intro imageId' fileLen' hsession
  rcases h.session.unique hsession with ⟨hid, hlen⟩
  subst hid hlen
  rcases h.journal with ⟨k, c, _, hle, hholds⟩
  exact ⟨k, c, hholds, h.staged.le hle⟩

theorem Underwrite.congr (h : Underwrite files m imageId fileLen pos next)
    (hsame : Memory.SameOn m m' journalAddr (firmwareJournalSize + pos)) :
    Underwrite files m' imageId fileLen pos next where
  session := by
    refine h.session.congr fun x hlo hhi => (hsame x hlo ?_).symm
    change x < 0x00120000 + (4096 + pos)
    change x < 0x00120000 + 16 at hhi
    omega
  journal := by
    rcases h.journal with ⟨k, c, hnext, hle, hholds⟩
    exact ⟨k, c, hnext, hle, hholds.congr (hsame.sub (Nat.le_refl _) (by omega))⟩
  staged := by
    apply h.staged.congr
    apply hsame.sub
    · change 0x00120000 <= 0x00120000 + 4096 + 0
      omega
    · change 0x00120000 + 4096 + 0 + pos <= 0x00120000 + (4096 + pos)
      omega

theorem sameOn_below {addr : Nat} (hsame : Memory.SameOutside m m' addr n)
    (haddr : imageAddr pos <= addr) :
    Memory.SameOn m m' journalAddr (firmwareJournalSize + pos) := by
  apply hsame.sameOn
  left
  change 0x00120000 + 4096 + pos <= addr at haddr
  change 0x00120000 + (4096 + pos) <= addr
  omega

/-!
## One page
-/

theorem Underwrite.page (h : Underwrite files m imageId fileLen pos next)
    (hblank : SectorBlank m pos) (hdata : data = ((files imageId).drop pos).take data.length)
    (hfits : data.length <= qspiFlashSectorSizeBytes - pos % qspiFlashSectorSizeBytes) :
    Underwrite files (m.program (imageAddr pos) data) imageId fileLen (pos + data.length) next ∧
      ((pos + data.length) % qspiFlashSectorSizeBytes ≠ 0 ->
        SectorBlank (m.program (imageAddr pos) data) (pos + data.length)) := by
  have hbelow := h.congr (sameOn_below (Memory.program_sameOutside m (imageAddr pos) data)
    (Nat.le_refl _))
  constructor
  · refine ⟨hbelow.session, ?_, ?_⟩
    · rcases hbelow.journal with ⟨k, c, hnext, hle, hholds⟩
      exact ⟨k, c, hnext, by omega, hholds⟩
    · have hpage := Memory.slice_program (d := data) (hblank.sub (Nat.le_refl _) (by omega))
      have hstaged := hbelow.staged
      unfold StagedPrefix at hstaged ⊢
      rw [Memory.slice_add, hstaged, List.take_add]
      change _ ++ Memory.slice _ (imageAddr pos) _ = _
      rw [hpage, ← hdata]
  · intro hinside
    have hmod : (pos + data.length) % qspiFlashSectorSizeBytes =
        pos % qspiFlashSectorSizeBytes + data.length := by
      change (pos + data.length) % 4096 ≠ 0 at hinside
      change data.length <= 4096 - pos % 4096 at hfits
      change (pos + data.length) % 4096 = pos % 4096 + data.length
      omega
    apply Memory.Blank.congr (m := m)
    · apply hblank.sub
      · change 0x00120000 + 4096 + pos <= 0x00120000 + 4096 + (pos + data.length)
        omega
      · rw [hmod]
        change 0x00120000 + 4096 + (pos + data.length) + (4096 - (pos % 4096 + data.length)) <=
          0x00120000 + 4096 + pos + (4096 - pos % 4096)
        change data.length <= 4096 - pos % 4096 at hfits
        omega
    · apply Memory.program_outside
      right
      change 0x00120000 + 4096 + pos + data.length <= 0x00120000 + 4096 + (pos + data.length)
      omega

/-!
## Journal appends
-/

theorem underwrite_journal (h : Underwrite files m imageId fileLen pos next)
    (hsame : Memory.SameOutside m m' (journalAddr + (firmwareJournalEntriesOffset + 8 * k)) 8)
    (hk : k < firmwareJournalEntryCount) :
    SessionAt m' imageId fileLen ∧ StagedPrefix (files imageId) m' pos := by
  change k < 510 at hk
  constructor
  · refine h.session.congr fun x hlo hhi => (hsame x (.inl ?_)).symm
    change x < 0x00120000 + (16 + 8 * k)
    change x < 0x00120000 + 16 at hhi
    omega
  · refine h.staged.congr (hsame.sameOn (.inr ?_))
    change 0x00120000 + (16 + 8 * k) + 8 <= 0x00120000 + 4096 + 0
    omega

theorem Underwrite.tornAppend (h : Underwrite files m imageId fileLen pos next)
    (hroom : next < firmwareJournalSize) (hpos : pos < 2 ^ 32 - 1) (hn : n <= 8) :
    JournalSound files (m.program (journalAddr + next) ((journalEntryBytes pos).take n)) := by
  rcases h.journal with ⟨k, c, hnext, hle, hholds⟩
  subst hnext
  have hk : k < firmwareJournalEntryCount := by
    change 16 + 8 * k < 4096 at hroom
    change k < 510
    omega
  rcases hholds.append hk hpos hn with ⟨k', c', hholds', hc⟩
  have hlen : ((journalEntryBytes pos).take n).length <= 8 := by
    rw [List.length_take, journalEntryBytes_length]
    omega
  have hkept := underwrite_journal h
    ((Memory.program_sameOutside m _ ((journalEntryBytes pos).take n)).widen (Nat.le_refl _)
      (Nat.add_le_add_left hlen _)) hk
  intro imageId' fileLen' hsession
  rcases hkept.1.unique hsession with ⟨hid, hlen⟩
  subst hid hlen
  refine ⟨k', c', hholds', hkept.2.le ?_⟩
  rcases hc with hc | hc
  · omega
  · omega

theorem Underwrite.append (h : Underwrite files m imageId fileLen pos next)
    (hroom : next < firmwareJournalSize) (hpos : pos < 2 ^ 32 - 1)
    (hsane : checkpointPlausible pos fileLen) :
    Underwrite files (m.program (journalAddr + next) (journalEntryBytes pos)) imageId fileLen pos
      (next + 8) := by
  rcases h.journal with ⟨k, c, hnext, hle, hholds⟩
  subst hnext
  have hk : k < firmwareJournalEntryCount := by
    change 16 + 8 * k < 4096 at hroom
    change k < 510
    omega
  have hkept := underwrite_journal h
    ((Memory.program_sameOutside m _ (journalEntryBytes pos)).widen (Nat.le_refl _)
      (by rw [journalEntryBytes_length])) hk
  exact ⟨hkept.1, ⟨k + 1, pos, by omega, Nat.le_refl _, hholds.appended hk hpos hsane⟩,
    hkept.2⟩

/-!
## The write loop
-/

/-- The checkpoints between the write offset and the end of the file. -/
def checkpointsLeft (fileLen pos : Nat) : Nat :=
  if pos < fileLen then
    (fileLen + (firmwareCheckpointStep - 1)) / firmwareCheckpointStep - pos / firmwareCheckpointStep
  else
    0

theorem checkpointsLeft_page (hn : 0 < n) (hend : pos + n <= fileLen)
    (hinside : pos % firmwareCheckpointStep + n <= firmwareCheckpointStep) :
    checkpointsLeft fileLen pos =
      if (pos + n) % firmwareCheckpointStep = 0 ∨ pos + n = fileLen then
        checkpointsLeft fileLen (pos + n) + 1
      else
        checkpointsLeft fileLen (pos + n) := by
  unfold checkpointsLeft
  change pos % 4096 + n <= 4096 at hinside
  change (if pos < fileLen then (fileLen + 4095) / 4096 - pos / 4096 else 0) =
    if (pos + n) % 4096 = 0 ∨ pos + n = fileLen then
      (if pos + n < fileLen then (fileLen + 4095) / 4096 - (pos + n) / 4096 else 0) + 1
    else if pos + n < fileLen then (fileLen + 4095) / 4096 - (pos + n) / 4096 else 0
  rw [if_pos (by omega)]
  by_cases hmore : pos + n < fileLen
  · rw [if_pos hmore]
    split
    · omega
    · omega
  · rw [if_neg hmore, if_pos (.inr (by omega))]
    omega

/-- A session in progress that can take the byte at `pos`. -/
structure ReadyAt (files : UInt32 -> List UInt8) (m : Memory) (imageId : UInt32)
    (fileLen pos next : Nat) : Prop where
  under : Underwrite files m imageId fileLen pos next
  blank : pos % qspiFlashSectorSizeBytes ≠ 0 -> pos < fileLen -> SectorBlank m pos

/-- What a write loop from `pos` on ends in. -/
structure StageWritten (F : Faults qspi) (files : UInt32 -> List UInt8) (imageId : UInt32)
    (fileLen pos len next : Nat) (err : FirmwareStoreErr) (next' : Nat) (m' : Memory) :
    Prop where
  sound : JournalSound files m'
  ready : err = .ok -> ReadyAt files m' imageId fileLen (pos + len) next' ∧
    next' + 8 * checkpointsLeft fileLen (pos + len) = next + 8 * checkpointsLeft fileLen pos
  completes : F.NeverFails ->
    next + 8 * checkpointsLeft fileLen pos <= firmwareJournalSize -> err = .ok

theorem wp_journalAppend (h : Underwrite files m imageId fileLen pos next) (hpos : pos < 2 ^ 32 - 1)
    (hsane : checkpointPlausible pos fileLen) :
    (journalAppend next pos).wp qspiFlash F
      (fun out m' => JournalSound files m' ∧
        (out.1 = .ok -> Underwrite files m' imageId fileLen pos out.2 ∧ out.2 = next + 8) ∧
        (F.NeverFails -> next < firmwareJournalSize -> out.1 = .ok))
      (JournalSound files) m := by
  unfold journalAppend
  apply wp_ite
  · intro hfull
    exact ⟨h.sound, fun hok => (by cases hok), fun _ hroom => absurd hroom (Nat.not_lt.mpr hfull)⟩
  · intro hroom
    have hroom' : next < firmwareJournalSize := Nat.lt_of_not_le hroom
    have hacc : qspiWriteAccepted (journalAddr + next) (journalEntryBytes pos).length := by
      rcases h.journal with ⟨k, _, hnext, _, _⟩
      rw [journalEntryBytes_length]
      change next = 16 + 8 * k at hnext
      change next < 4096 at hroom'
      change 8 ≠ 0 ∧ 8 <= 256 ∧ 0x00120000 + next < 8388608 ∧ 8 <= 8388608 - (0x00120000 + next) ∧
        (0x00120000 + next) / 256 = (0x00120000 + next + 8 - 1) / 256
      omega
    unfold qProgram
    simp only [wp_bind]
    rw [wp_qspiWritePage hacc]
    refine ⟨?_, ?_, ?_⟩
    · have hdone := h.append hroom' hpos hsane
      exact ⟨hdone.sound, fun _ => ⟨hdone, rfl⟩, fun _ _ => rfl⟩
    · intro n hn
      have htorn := h.tornAppend hroom' hpos (n := min n 8) (by omega)
      have hbytes : (journalEntryBytes pos).take n = (journalEntryBytes pos).take (min n 8) := by
        rw [← journalEntryBytes_length pos, List.take_eq_take_iff]
        omega
      rw [hbytes]
      exact ⟨htorn, fun hok => (by cases hok), fun hnever _ => (hnever _ _ hn).elim⟩
    · intro n _
      have htorn := h.tornAppend hroom' hpos (n := min n 8) (by omega)
      have hbytes : (journalEntryBytes pos).take n = (journalEntryBytes pos).take (min n 8) := by
        rw [← journalEntryBytes_length pos, List.take_eq_take_iff]
        omega
      rw [hbytes]
      exact htorn

theorem wp_lazyErase (h : ReadyAt files m imageId fileLen pos next) (hlt : pos < fileLen)
    (hlen : fileLen <= maxFileLen) :
    (if pos % qspiFlashSectorSizeBytes = 0 then qErase (imageAddr pos)
      else (pure .ok : Qspi FirmwareStoreErr)).wp qspiFlash F
      (fun err m' => JournalSound files m' ∧
        (err = .ok -> Underwrite files m' imageId fileLen pos next ∧ SectorBlank m' pos) ∧
        (F.NeverFails -> err = .ok))
      (JournalSound files) m := by
  change fileLen <= 128 + 491520 at hlen
  apply wp_ite
  · intro haligned
    have hbase : imageAddr pos % qspiFlashSectorSizeBytes = 0 := by
      change pos % 4096 = 0 at haligned
      change (0x00120000 + 4096 + pos) % 4096 = 0
      omega
    have hin : imageAddr pos < qspiFlashDeviceSizeBytes := by
      change 0x00120000 + 4096 + pos < 8388608
      omega
    have hkept : forall n, Underwrite files (m.erase (imageAddr pos) n) imageId fileLen pos next :=
      fun n => h.under.congr (sameOn_below (Memory.erase_sameOutside _ _ _) (Nat.le_refl _))
    unfold qErase
    simp only [wp_bind]
    rw [wp_qspiEraseSector hbase hin]
    refine ⟨⟨(hkept _).sound, fun _ => ⟨hkept _, ?_⟩, fun _ => rfl⟩, ?_, fun n _ => (hkept _).sound⟩
    · exact (Memory.erase_blank _ _ _).sub (Nat.le_refl _) (by
        change 0x00120000 + 4096 + pos + (4096 - pos % 4096) <= 0x00120000 + 4096 + pos + 4096
        omega)
    · intro n hn
      exact ⟨(hkept _).sound, fun hok => (by cases hok), fun hnever => (hnever _ _ hn).elim⟩
  · intro hinside
    exact ⟨h.under.sound, fun _ => ⟨h.under, h.blank hinside hlt⟩, fun _ => rfl⟩

theorem wp_stagePage (h : Underwrite files m imageId fileLen pos next) (hblank : SectorBlank m pos)
    (hpos : 0 < data.length) (hdata : data = ((files imageId).drop pos).take data.length)
    (hpage : data.length <= qspiFlashPageSizeBytes - pos % qspiFlashPageSizeBytes)
    (hend : pos + data.length <= fileLen) (hlen : fileLen <= maxFileLen) :
    (qProgram (imageAddr pos) data).wp qspiFlash F
      (fun err m' => JournalSound files m' ∧
        (err = .ok -> ReadyAt files m' imageId fileLen (pos + data.length) next) ∧
        (F.NeverFails -> err = .ok))
      (JournalSound files) m := by
  change fileLen <= 128 + 491520 at hlen
  change data.length <= 256 - pos % 256 at hpage
  have hacc : qspiWriteAccepted (imageAddr pos) data.length := by
    change data.length ≠ 0 ∧ data.length <= 256 ∧ 0x00120000 + 4096 + pos < 8388608 ∧
      data.length <= 8388608 - (0x00120000 + 4096 + pos) ∧
      (0x00120000 + 4096 + pos) / 256 = (0x00120000 + 4096 + pos + data.length - 1) / 256
    omega
  have hfits : data.length <= qspiFlashSectorSizeBytes - pos % qspiFlashSectorSizeBytes := by
    change data.length <= 4096 - pos % 4096
    omega
  have hkept : forall n, JournalSound files (m.program (imageAddr pos) (data.take n)) :=
    fun n => (h.congr (sameOn_below (Memory.program_sameOutside _ _ _) (Nat.le_refl _))).sound
  unfold qProgram
  simp only [wp_bind]
  rw [wp_qspiWritePage hacc]
  refine ⟨?_, ?_, fun n _ => hkept n⟩
  · have hdone := h.page hblank hdata hfits
    exact ⟨hdone.1.sound, fun _ => ⟨hdone.1, fun hinside _ => hdone.2 hinside⟩, fun _ => rfl⟩
  · intro n hn
    exact ⟨hkept n, fun hok => (by cases hok), fun hnever => (hnever _ _ hn).elim⟩

theorem lazyErase_join {β : Type} (c : Prop) [Decidable c] (p q : Qspi FirmwareStoreErr)
    (f : FirmwareStoreErr -> Qspi β) :
    (if c then p >>= f else q >>= f) = (if c then p else q) >>= f := by
  split
  · rfl
  · rfl

theorem wp_fsStageWriteLoop (fuel : Nat) (data : List UInt8) (hfuel : data.length <= fuel)
    (h : ReadyAt files m imageId fileLen pos next)
    (hdata : data = ((files imageId).drop pos).take data.length)
    (hend : pos + data.length <= fileLen) (hlen : fileLen <= maxFileLen) :
    (fsStageWriteLoop fileLen fuel pos data next).wp qspiFlash F
      (fun out m' => StageWritten F files imageId fileLen pos data.length next out.1 out.2 m')
      (JournalSound files) m := by
  induction fuel generalizing pos data next m with
  | zero =>
      have hnil : data = [] := List.length_eq_zero_iff.mp (by omega)
      subst hnil
      exact ⟨h.under.sound, fun _ => ⟨h, rfl⟩, fun _ _ => rfl⟩
  | succ fuel ih =>
      unfold fsStageWriteLoop
      apply wp_ite
      · intro hmore
        dsimp only
        rw [lazyErase_join]
        apply wp_seq (wp_lazyErase h (by omega) hlen)
        intro erased m₁ herased
        rcases herased with ⟨hsound, hready, hcompletes⟩
        generalize hchunk : min data.length
          (qspiFlashPageSizeBytes - pos % qspiFlashPageSizeBytes) = n
        change min data.length (256 - pos % 256) = n at hchunk
        have hn : 0 < n := by omega
        have htake : (data.take n).length = n := by
          rw [List.length_take]
          omega
        apply wp_ite
        · intro hok
          rcases hready hok with ⟨hunder, hblank⟩
          have hprogram := @wp_stagePage _ _ _ _ _ _ (data.take n) F hunder hblank (by omega)
            (by
              rw [htake]
              conv =>
                lhs
                rw [hdata, List.take_take, Nat.min_eq_left (by omega)])
            (by rw [htake]; change n <= 256 - pos % 256; omega) (by omega) hlen
          rw [htake] at hprogram
          apply wp_seq hprogram
          intro programmed m₂ hprogrammed
          rcases hprogrammed with ⟨hsound₂, hready₂, hcompletes₂⟩
          have hleft := @checkpointsLeft_page fileLen pos _ hn (by omega) (by
            change pos % 4096 + n <= 4096
            omega)
          have hrest : data.drop n =
              ((files imageId).drop (pos + n)).take (data.drop n).length := by
            conv =>
              lhs
              rw [hdata, List.drop_take, List.drop_drop]
            rw [List.length_drop]
          have hlenRest : (data.drop n).length = data.length - n := List.length_drop
          apply wp_ite
          · intro hok₂
            have hpage := hready₂ hok₂
            apply wp_ite
            · intro hcheckpoint
              rw [if_pos hcheckpoint] at hleft
              have hsane : checkpointPlausible (pos + n) fileLen :=
                ⟨by omega, hcheckpoint⟩
              apply wp_seq (wp_journalAppend hpage.under (by
                change fileLen <= 128 + 491520 at hlen
                omega) hsane)
              intro out m₃ hout
              rcases out with ⟨appended, next'⟩
              rcases hout with ⟨hsound₃, hready₃, hcompletes₃⟩
              apply wp_ite
              · intro hok₃
                rcases hready₃ hok₃ with ⟨hunder₃, hnext⟩
                change next' = next + 8 at hnext
                have hstart : ReadyAt files m₃ imageId fileLen (pos + n) next' := by
                  refine ⟨hunder₃, fun hinside hlt => ?_⟩
                  rcases hcheckpoint with haligned | hfull
                  · exact absurd haligned hinside
                  · omega
                apply wp_mono _ (fun _ h => h)
                  (ih (data.drop n) (by omega) hstart hrest (by omega))
                intro out' m' hwritten
                rw [hlenRest] at hwritten
                have hsum : pos + n + (data.length - n) = pos + data.length := by omega
                refine ⟨hwritten.sound, fun hok' => ?_, fun hnever hroom => ?_⟩
                · have hdone := hwritten.ready hok'
                  rw [hsum] at hdone
                  exact ⟨hdone.1, by omega⟩
                · exact hwritten.completes hnever (by omega)
              · intro hbad
                refine ⟨hsound₃, fun hok' => absurd hok' hbad, fun hnever hroom => ?_⟩
                exact absurd (hcompletes₃ hnever (by
                  change next + 8 * checkpointsLeft fileLen pos <= 4096 at hroom
                  change next < 4096
                  omega)) hbad
            · intro hnot
              rw [if_neg hnot] at hleft
              apply wp_mono _ (fun _ h => h)
                (ih (data.drop n) (by omega) hpage hrest (by omega))
              intro out' m' hwritten
              rw [hlenRest] at hwritten
              have hsum : pos + n + (data.length - n) = pos + data.length := by omega
              refine ⟨hwritten.sound, fun hok' => ?_, fun hnever hroom => ?_⟩
              · have hdone := hwritten.ready hok'
                rw [hsum] at hdone
                exact ⟨hdone.1, by omega⟩
              · exact hwritten.completes hnever (by omega)
          · intro hbad
            exact ⟨hsound₂, fun hok' => absurd hok' hbad,
              fun hnever _ => absurd (hcompletes₂ hnever) hbad⟩
        · intro hbad
          exact ⟨hsound, fun hok' => absurd hok' hbad,
            fun hnever _ => absurd (hcompletes hnever) hbad⟩
      · intro hnot
        have hnil : data = [] := List.length_eq_zero_iff.mp (by omega)
        subst hnil
        exact ⟨h.under.sound, fun _ => ⟨h, rfl⟩, fun _ _ => rfl⟩

/-!
## The session record
-/

theorem not_sessionAt_of_erased (h : m journalAddr = erasedByte) :
    ¬ SessionAt m imageId fileLen := by
  intro hsession
  have hmagic : wordAt (m.slice journalAddr 16) 0 = firmwareJournalMagic := hsession.1
  have hbytes : m.slice journalAddr 16 = [m journalAddr] ++ m.slice (journalAddr + 1) 15 :=
    Memory.slice_add m journalAddr 1 15
  have hfield : fieldAt (m.slice journalAddr 16) 0 4 =
      erasedByte.toNat + 256 * getLe ((m.slice (journalAddr + 1) 15).take 3) := by
    unfold fieldAt
    rw [hbytes, h, List.drop_zero, List.take_append, getLe_append]
    simp [getLe]
  have hlt := getLe_lt ((m.slice (journalAddr + 1) 15).take 3)
  rw [List.length_take, Memory.slice_length] at hlt
  have hnat := congrArg UInt32.toNat hmagic
  have hlow : firmwareJournalMagic.toNat % 256 = 74 := by decide
  have hbyte : erasedByte.toNat = 255 := by decide
  unfold wordAt at hnat
  rw [hfield, UInt32.toNat_ofNat', hbyte] at hnat
  omega

theorem journalSound_erase (h : JournalSound files m) (n : Nat) :
    JournalSound files (m.erase journalAddr n) := by
  by_cases hn : n = 0
  · subst hn
    rw [Memory.erase_zero]
    exact h
  · intro imageId' fileLen' hsession
    exact absurd hsession (not_sessionAt_of_erased
      (Memory.erase_blank m journalAddr n journalAddr (Nat.le_refl _) (by omega)))

theorem journalSound_blank
    (h : Memory.Blank m (journalAddr + firmwareJournalEntriesOffset) (8 * 510)) :
    JournalSound files m :=
  fun imageId' _ _ => ⟨0, 0, journalHolds_blank h, stagedPrefix_zero (files imageId') m⟩

theorem journalSessionBytes_length (imageId : UInt32) (fileLen : Nat) :
    (journalSessionBytes imageId fileLen).length = 16 := by
  simp [journalSessionBytes, journalSessionBody]

theorem journalSessionOk_bytes (hlen : fileLen < 2 ^ 32) :
    JournalSessionOk (journalSessionBytes imageId fileLen) imageId fileLen := by
  have hbody : (journalSessionBody imageId fileLen).length = 12 := by
    simp [journalSessionBody]
  have htake : (journalSessionBytes imageId fileLen).take 12 =
      journalSessionBody imageId fileLen := by
    unfold journalSessionBytes
    rw [List.take_append_of_le_length (by omega), List.take_of_length_le (by omega)]
  unfold JournalSessionOk
  rw [htake]
  unfold journalSessionBytes
  generalize configStoreCrc32 (journalSessionBody imageId fileLen) = crc
  refine ⟨?_, ?_, ?_, ?_⟩
  · have hfront : forall (w : UInt32) s, wordAt (wordBytes w ++ s) 0 = w :=
      fun w s => wordAt_append (p := []) rfl
    unfold journalSessionBody
    rw [List.append_assoc]
    exact hfront _ _
  · have hcrc := wordAt_append (s := []) (w := crc) hbody
    rw [List.append_nil] at hcrc
    exact hcrc
  · have hid := wordAt_append (p := wordBytes firmwareJournalMagic) (w := imageId)
      (s := putLe 4 fileLen ++ wordBytes crc) (i := 4) (wordBytes_length _)
    simpa [journalSessionBody] using hid
  · have hfirst : (wordBytes firmwareJournalMagic ++ wordBytes imageId).length = 8 := by simp
    have hfield := @fieldAt_append_right _ 4 _ (putLe 4 fileLen ++ wordBytes crc)
      (Nat.le_of_eq hfirst)
    rw [hfirst, Nat.sub_self, fieldAt_putLe (w := 4) hlen] at hfield
    simpa [journalSessionBody] using hfield

theorem wp_fsJournalBegin (h : JournalSound files m) (hlen : fileLen <= maxFileLen) :
    (fsJournalBegin imageId fileLen next).wp qspiFlash F
      (fun out m' => JournalSound files m' ∧
        (out.1 = .ok -> ReadyAt files m' imageId fileLen 0 out.2))
      (JournalSound files) m := by
  unfold fsJournalBegin qErase
  simp only [wp_bind, wp_pure]
  rw [wp_qspiEraseSector (by decide) (by decide)]
  refine ⟨?_, fun n _ => ⟨journalSound_erase h _, fun hok => (by cases hok)⟩,
    fun n _ => journalSound_erase h _⟩
  have hblank := Memory.erase_blank m journalAddr qspiFlashSectorSizeBytes
  generalize m.erase journalAddr qspiFlashSectorSizeBytes = m₁ at hblank ⊢
  have hentries : forall n, Memory.Blank
      (m₁.program journalAddr ((journalSessionBytes imageId fileLen).take n))
      (journalAddr + firmwareJournalEntriesOffset) (8 * 510) := by
    intro n
    apply Memory.Blank.congr (m := m₁)
    · exact hblank.sub (by omega) (by decide)
    · apply Memory.program_outside
      right
      rw [List.length_take, journalSessionBytes_length]
      change 0x00120000 + min n 16 <= 0x00120000 + 16
      omega
  have hsound := fun n => @journalSound_blank files _ (hentries n)
  unfold qProgram
  simp only [↓reduceIte, wp_bind, wp_pure]
  rw [wp_qspiWritePage (by rw [journalSessionBytes_length]; decide)]
  refine ⟨?_, fun n _ => ⟨hsound n, fun hok => (by cases hok)⟩, fun n _ => hsound n⟩
  have hall : m₁.program journalAddr (journalSessionBytes imageId fileLen) =
      m₁.program journalAddr ((journalSessionBytes imageId fileLen).take 16) := by
    rw [List.take_of_length_le (by rw [journalSessionBytes_length])]
  have hwritten := Memory.slice_program (d := journalSessionBytes imageId fileLen)
    (hblank.sub (Nat.le_refl _) (by rw [journalSessionBytes_length]; decide))
  rw [journalSessionBytes_length] at hwritten
  rw [hall] at hwritten ⊢
  have hnow := hsound 16
  have hrest := hentries 16
  generalize m₁.program journalAddr ((journalSessionBytes imageId fileLen).take 16) = m₂
    at hwritten hnow hrest ⊢
  unfold qRead
  simp only [↓reduceIte, wp_bind]
  rw [wp_qspiRead (by decide) (by decide)]
  refine ⟨?_, fun n _ => ⟨hnow, fun hok => (by cases hok)⟩, fun n _ => hnow⟩
  apply wp_ite
  · intro _
    exact ⟨hnow, fun hok => (by cases hok)⟩
  · intro _
    refine ⟨hnow, fun _ => ⟨⟨?_, ⟨0, 0, rfl, Nat.le_refl _, journalHolds_blank hrest⟩, rfl⟩,
      fun hinside => absurd rfl hinside⟩⟩
    unfold SessionAt
    rw [hwritten]
    apply journalSessionOk_bytes
    change fileLen <= 128 + 491520 at hlen
    omega

theorem reads_fsJournalScan (F : Faults qspi) {c : Nat} (h : JournalHolds fileLen m k c) :
    Program.Reads qspiFlash F (fsJournalScan imageId fileLen) m
      (if SessionAt m imageId fileLen then
        .session c (firmwareJournalEntriesOffset + 8 * k) else .noSession) := by
  unfold fsJournalScan
  refine (reads_qspiRead (by decide) (by decide)).bind rfl ?_
  by_cases hsession : SessionAt m imageId fileLen
  · rw [if_pos hsession]
    change Program.Reads qspiFlash F (if SessionAt m imageId fileLen then _ else _) m _
    rw [if_pos hsession]
    refine (reads_journalWalk F firmwareJournalEntryCount 0 (by decide)).bind rfl ?_
    have hfound : freeEntry (windowAt m fileLen (firmwareJournalEntryCount - 0)
        (firmwareJournalEntriesOffset + 0 * 8) 0) = (c, firmwareJournalEntriesOffset + 8 * k) :=
      h.found
    rw [hfound]
    exact Program.reads_pure _
  · rw [if_neg hsession]
    change Program.Reads qspiFlash F (if SessionAt m imageId fileLen then _ else _) m _
    rw [if_neg hsession]
    exact Program.reads_pure _

theorem wp_fsJournalScan (h : JournalSound files m) :
    (fsJournalScan imageId fileLen).wp qspiFlash F
      (fun out m' => m' = m ∧ forall c next, out = some (.session c next) ->
        ReadyAt files m imageId fileLen c next ∧ checkpointPlausible c fileLen)
      (fun m' => m' = m) m := by
  by_cases hsession : SessionAt m imageId fileLen
  · rcases h imageId fileLen hsession with ⟨k, c, hholds, hstaged⟩
    have hreads := @reads_fsJournalScan _ imageId _ _ F _ hholds
    rw [if_pos hsession] at hreads
    apply wp_mono _ (fun _ h => h) hreads
    intro out m' hout
    rcases hout with ⟨hsame, hsome | ⟨hnone, _⟩⟩
    · subst hsame hsome
      refine ⟨rfl, fun c' next' hequal => ?_⟩
      cases hequal
      have hsane := hholds.plausible
      refine ⟨⟨⟨hsession, ⟨k, c, rfl, Nat.le_refl _, hholds⟩, hstaged⟩, fun hinside hlt => ?_⟩,
        hsane⟩
      rcases hsane.2 with haligned | hfull
      · exact absurd haligned hinside
      · omega
    · subst hsame hnone
      exact ⟨rfl, fun c' next' hequal => (by cases hequal)⟩
  · unfold fsJournalScan
    apply (wp_bind _ _).mpr
    unfold qRead
    rw [wp_qspiRead (by decide) (by decide)]
    refine ⟨?_, fun n _ => ⟨rfl, fun c next hequal => (by cases hequal)⟩, fun n _ => rfl⟩
    change wp qspiFlash F _ _ (if SessionAt m imageId fileLen then _ else _) m
    rw [if_neg hsession]
    exact ⟨rfl, fun c next hequal => (by cases hequal)⟩

/-!
## The operations
-/

/-- The instance expects the byte at `pos` of this file, or has all of it. -/
structure Continuing (files : UInt32 -> List UInt8) (fs : FsInst) (m : Memory)
    (imageId : UInt32) (fileLen pos : Nat) : Prop where
  sameImage : fs.imageId = imageId
  sameLen : fs.fileLen = fileLen
  offset : fs.writeOffset = pos
  op : fs.op = if pos = fileLen then .received else .receiving
  inside : pos <= fileLen
  ready : ReadyAt files m imageId fileLen pos fs.journalNext
  accepted : fileLen <= maxFileLen

/-- What holds between the staging calls. -/
structure StageInv (files : UInt32 -> List UInt8) (fs : FsInst) (m : Memory) : Prop where
  sound : JournalSound files m
  continuing : fs.op = .receiving -> Continuing files fs m fs.imageId fs.fileLen fs.writeOffset

variable {fs : FsInst} {F : Faults storeIo} {bank : Memory} {u : Unit}

theorem Continuing.stageInv (h : Continuing files fs m imageId fileLen pos) :
    StageInv files fs m where
  sound := h.ready.under.sound
  continuing := fun _ => by
    rw [h.sameImage, h.sameLen, h.offset]
    exact h

theorem StageInv.of_idle (h : JournalSound files m) (hop : fs.op ≠ .receiving) :
    StageInv files fs m :=
  ⟨h, fun hreceiving => absurd hreceiving hop⟩

theorem sessionCheck_ok_iff : sessionCheck fs imageId fileLen = .ok ↔
    fs.boot.otaCapable = true ∧ fs.boot.state = .confirmed ∧ fs.op ≠ .activated ∧
      sessionParams imageId fileLen = .ok := by
  unfold sessionCheck sessionPrecondition
  by_cases hcapable : fs.boot.otaCapable = false
  · simp [hcapable]
  · by_cases hstate : fs.boot.state = .confirmed
    · by_cases hop : fs.op = .activated
      · simp [hcapable, hop]
      · simp [hcapable, hstate, hop]
    · simp [hcapable, hstate]

theorem sessionCheck_len (h : sessionCheck fs imageId fileLen = .ok) :
    firmwareHeaderSize < fileLen ∧ fileLen <= maxFileLen := by
  unfold sessionCheck at h
  split at h
  · unfold sessionParams at h
    split at h
    · cases h
    · rename_i _ hparam
      split at h
      · cases h
      · rename_i hlarge
        change ¬ (imageId = firmwareImageIdErased ∨ fileLen <= 128) at hparam
        change ¬ fileLen - 128 > 491520 at hlarge
        change 128 < fileLen ∧ fileLen <= 128 + 491520
        omega
  · rename_i hbad
    exact absurd h hbad

theorem wp_onStaging {α : Type} {p : Qspi α} {Q : α -> storeDevice.State -> Prop}
    {C : storeDevice.State -> Prop}
    (h : p.wp qspiFlash F.right.left (fun a m' => Q a (bank, m', u)) (fun m' => C (bank, m', u)) m) :
    (onStaging p).wp storeDevice F Q C (bank, m, u) :=
  (wp_inRight _).mpr ((wp_inLeft _).mpr h)

theorem wp_doBegin (h : StageInv files fs m) :
    (doBegin fs imageId fileLen).wp storeDevice F
      (fun out s' => StageInv files out.2 s'.2.1) (fun s' => JournalSound files s'.2.1)
      (bank, m, u) := by
  unfold doBegin
  apply wp_ite
  · intro _
    exact h
  · intro hcheck
    have hlen := sessionCheck_len (not_not.mp hcheck)
    apply wp_seq (wp_onStaging (C := fun s' => JournalSound files s'.2.1)
      (Q := fun out (s' : storeDevice.State) => JournalSound files s'.2.1 ∧
      (out.1 = .ok -> ReadyAt files s'.2.1 imageId fileLen 0 out.2))
      (wp_fsJournalBegin h.sound hlen.2))
    intro out s' hout
    rcases out with ⟨err, next'⟩
    rcases hout with ⟨hsound, hready⟩
    apply wp_ite
    · intro hok
      have hbegun : Continuing files
          { fs with
            op := .receiving
            journalNext := next'
            imageId := imageId
            fileLen := fileLen
            writeOffset := 0 } s'.2.1 imageId fileLen 0 :=
        ⟨rfl, rfl, rfl, (if_neg (Nat.ne_of_lt (Nat.lt_of_le_of_lt (Nat.zero_le _) hlen.1))).symm,
          Nat.zero_le _, hready hok, hlen.2⟩
      exact hbegun.stageInv
    · intro _
      exact .of_idle hsound (fun hop => by cases hop)

theorem wp_doResume (h : StageInv files fs m) :
    (doResume fs imageId fileLen).wp storeDevice F
      (fun out s' => StageInv files out.2 s'.2.1 ∧ (out.1.1 = .ok -> exists c,
        out.1.2 = some c ∧ checkpointPlausible c fileLen ∧
          Continuing files out.2 s'.2.1 imageId fileLen c))
      (fun s' => JournalSound files s'.2.1) (bank, m, u) := by
  unfold doResume
  apply wp_ite
  · intro hcheck
    exact ⟨h, fun hok => absurd hok hcheck⟩
  · intro hcheck
    have hlen := sessionCheck_len (not_not.mp hcheck)
    apply wp_seq (wp_onStaging (C := fun s' => JournalSound files s'.2.1)
      (Q := fun out (s' : storeDevice.State) => s'.2.1 = m ∧
      forall c next, out = some (.session c next) ->
        ReadyAt files m imageId fileLen c next ∧ checkpointPlausible c fileLen)
      (wp_mono (fun _ _ h => h) (fun m' hsame => (by
        change JournalSound files m'
        rw [hsame]
        exact h.sound)) (wp_fsJournalScan h.sound)))
    intro out s' hout
    rcases hout with ⟨hsame, hfound⟩
    cases out with
    | none => exact ⟨by rw [hsame]; exact h, fun hok => (by cases hok)⟩
    | some found =>
        cases found with
        | noSession => exact ⟨by rw [hsame]; exact h, fun hok => (by cases hok)⟩
        | session c next' =>
            rcases hfound c next' rfl with ⟨hready, hsane⟩
            have hresumed : Continuing files
                { fs with
                  imageId := imageId
                  fileLen := fileLen
                  writeOffset := c
                  journalNext := next'
                  op := if c = fileLen then .received else .receiving } s'.2.1 imageId fileLen c :=
              ⟨rfl, rfl, rfl, rfl, hsane.1, by rw [hsame]; exact hready, hlen.2⟩
            exact ⟨hresumed.stageInv, fun _ => ⟨c, rfl, hsane, hresumed⟩⟩

theorem wp_doDiscard (h : StageInv files fs m) :
    (doDiscard fs).wp storeDevice F (fun out s' => StageInv files out.2 s'.2.1)
      (fun s' => JournalSound files s'.2.1) (bank, m, u) := by
  unfold doDiscard
  apply wp_ite
  · intro _
    exact h
  · intro _
    apply wp_seq (wp_onStaging (C := fun s' => JournalSound files s'.2.1)
      (Q := fun _ (s' : storeDevice.State) => JournalSound files s'.2.1) (by
      unfold fsJournalErase qErase
      simp only [wp_bind, wp_pure]
      rw [wp_qspiEraseSector (by decide) (by decide)]
      exact ⟨journalSound_erase h.sound _, fun n _ => journalSound_erase h.sound _,
        fun n _ => journalSound_erase h.sound _⟩))
    intro err s' hsound
    exact .of_idle hsound (fun hop => by cases hop)

theorem wp_chunk (h : Continuing files fs m imageId fileLen pos)
    (hdata : data = ((files imageId).drop pos).take data.length) (hlen : data.length ≠ 0)
    (hfits : data.length <= fileLen - pos) :
    (doWriteChunk fs pos data).wp storeDevice F
      (fun out s' => StageInv files out.2 s'.2.1 ∧
        (out.1 = .ok -> Continuing files out.2 s'.2.1 imageId fileLen (pos + data.length) ∧
          out.2.journalNext + 8 * checkpointsLeft fileLen (pos + data.length) =
            fs.journalNext + 8 * checkpointsLeft fileLen pos) ∧
        (F.right.left.NeverFails ->
          fs.journalNext + 8 * checkpointsLeft fileLen pos <= firmwareJournalSize -> out.1 = .ok))
      (fun s' => JournalSound files s'.2.1) (bank, m, u) := by
  have hop : fs.op = .receiving := by
    rw [h.op, if_neg (by omega)]
  unfold doWriteChunk
  rw [if_neg (not_not.mpr hop), h.offset, h.sameLen,
    if_neg (by rintro (hzero | hother | hlong)
               · exact hlen hzero
               · exact hother rfl
               · omega)]
  apply wp_seq (wp_onStaging (C := fun s' => JournalSound files s'.2.1)
      (Q := fun out (s' : storeDevice.State) => StageWritten F.right.left files imageId
    fileLen pos data.length fs.journalNext out.1 out.2 s'.2.1)
    (wp_fsStageWriteLoop data.length data (Nat.le_refl _) h.ready hdata (by omega) h.accepted))
  intro out s' hout
  rcases out with ⟨err, next'⟩
  apply wp_ite
  · intro hbad
    refine ⟨.of_idle hout.sound (fun hop => by cases hop), fun hok => absurd hok hbad, ?_⟩
    exact fun hnever hroom => absurd (hout.completes hnever hroom) hbad
  · intro hok
    rcases hout.ready (not_not.mp hok) with ⟨hready, hsum⟩
    have hwritten : Continuing files
        { fs with
          fileLen := fileLen
          writeOffset := pos + data.length
          journalNext := next'
          op := if pos + data.length = fileLen then .received else fs.op } s'.2.1 imageId fileLen
        (pos + data.length) := by
      refine ⟨h.sameImage, rfl, rfl, ?_, by omega, hready, h.accepted⟩
      change (if pos + data.length = fileLen then FsOpState.received else fs.op) = _
      rw [hop]
    exact ⟨hwritten.stageInv, fun _ => ⟨hwritten, hsum⟩, fun _ _ => rfl⟩

theorem wp_doWriteChunk (h : StageInv files fs m) {offset : Nat}
    (hdata : data = ((files fs.imageId).drop offset).take data.length) :
    (doWriteChunk fs offset data).wp storeDevice F (fun out s' => StageInv files out.2 s'.2.1)
      (fun s' => JournalSound files s'.2.1) (bank, m, u) := by
  by_cases hop : fs.op = .receiving
  · by_cases hbad : data.length = 0 ∨ offset ≠ fs.writeOffset ∨ data.length > fs.fileLen - offset
    · unfold doWriteChunk
      rw [if_neg (not_not.mpr hop), if_pos hbad]
      exact h
    · have hoffset : offset = fs.writeOffset := by omega
      subst hoffset
      apply wp_mono _ (fun _ h => h)
        (wp_chunk (h.continuing hop) hdata (by omega) (by omega))
      exact fun _ _ hout => hout.1
  · unfold doWriteChunk
    rw [if_pos hop]
    exact h

/-!
## Runs
-/

/-- The calls of a caller that stages one file for each image identifier. -/
def StagingCall (files : UInt32 -> List UInt8) (fs : FsInst) : FsCall -> Prop
  | .begin _ _ => True
  | .resume _ _ => True
  | .writeChunk offset data => data = ((files fs.imageId).drop offset).take data.length
  | .discard => True
  | _ => False

/-- Staging calls on the flash `m₀`, with any failures, power cuts and resets; behind a reset the
instance is created from whatever the on-chip flash holds. -/
inductive StagingRun (crypto : OtaCrypto) (files : UInt32 -> List UInt8) (m₀ : Memory) :
    Option FsInst -> Memory -> Prop where
  | start : StagingRun crypto files m₀ none m₀
  | create {F : Faults iflash} {m bank bank' : Memory} {base : Nat} {fs : FsInst} :
      StagingRun crypto files m₀ none m ->
      Program.Exec internalFlash F (firmwareStoreCreate base) bank (some (some fs)) bank' ->
      StagingRun crypto files m₀ (some fs) m
  | call {F : Faults storeIo} {m m' bank bank' : Memory} {fs fs' : FsInst} {call : FsCall}
      {answer : FsAnswer} {u u' : Unit} :
      StagingRun crypto files m₀ (some fs) m -> StagingCall files fs call ->
      Program.Exec storeDevice F (fsPerform crypto fs call) (bank, m, u) (some (answer, fs'))
        (bank', m', u') ->
      StagingRun crypto files m₀ (some fs') m'
  | callCut {F : Faults storeIo} {m m' bank bank' : Memory} {fs : FsInst} {call : FsCall}
      {u u' : Unit} :
      StagingRun crypto files m₀ (some fs) m -> StagingCall files fs call ->
      Program.Exec storeDevice F (fsPerform crypto fs call) (bank, m, u) none (bank', m', u') ->
      StagingRun crypto files m₀ none m'
  | reset {phase : Option FsInst} {m : Memory} :
      StagingRun crypto files m₀ phase m -> StagingRun crypto files m₀ none m

theorem wp_stagingCall (crypto : OtaCrypto) (h : StageInv files fs m) {call : FsCall}
    (hcall : StagingCall files fs call) :
    (fsPerform crypto fs call).wp storeDevice F (fun out s' => StageInv files out.2 s'.2.1)
      (fun s' => JournalSound files s'.2.1) (bank, m, u) := by
  cases call with
  | begin imageId fileLen => exact wp_seq (wp_doBegin h) fun _ _ hout => hout
  | resume imageId fileLen => exact wp_seq (wp_doResume h) fun _ _ hout => hout.1
  | writeChunk offset data => exact wp_seq (wp_doWriteChunk h hcall) fun _ _ hout => hout
  | discard => exact wp_seq (wp_doDiscard h) fun _ _ hout => hout
  | _ => exact hcall.elim

/-- The staging invariant in a phase of a run. -/
def StagePhase (files : UInt32 -> List UInt8) : Option FsInst -> Memory -> Prop
  | none, m => JournalSound files m
  | some fs, m => StageInv files fs m

theorem StagingRun.inv {crypto : OtaCrypto} {m₀ : Memory} {phase : Option FsInst}
    (h : StagingRun crypto files m₀ phase m)
    (hfresh : forall imageId fileLen, ¬ SessionAt m₀ imageId fileLen) :
    StagePhase files phase m := by
  induction h with
  | start => exact fun imageId fileLen hsession => absurd hsession (hfresh imageId fileLen)
  | create _ hexec ih =>
      rename_i F m bank bank' base fs _
      rcases wp_returns (reads_firmwareStoreCreate F bank base) hexec with
        ⟨_, hfs | ⟨hnone, _⟩⟩
      · cases hfs
        exact .of_idle ih (fun hop => by cases hop)
      · cases hnone
  | call _ hcall hexec ih => exact wp_returns (wp_stagingCall crypto ih hcall) hexec
  | callCut _ hcall hexec ih => exact wp_crash (wp_stagingCall crypto ih hcall) hexec
  | reset _ ih =>
      rename_i phase m _
      cases phase with
      | none => exact ih
      | some fs => exact StageInv.sound ih

/-- Chunks written one after another from the offset `pos` on, up to the first error. -/
def writeChunks : FsInst -> Nat -> List (List UInt8) ->
    StoreIo (FirmwareStoreErr × FsInst)
  | fs, _, [] => pure (.ok, fs)
  | fs, pos, chunk :: rest => do
      let (err, after) ← doWriteChunk fs pos chunk
      if err = .ok then
        writeChunks after (pos + chunk.length) rest
      else
        pure (err, after)

/-- Without failures, and with a free journal entry for each checkpoint to come, the rest of the
file is received. -/
theorem Continuing.completes {chunks : List (List UInt8)}
    (h : Continuing files fs m imageId fileLen pos) (hfile : (files imageId).length = fileLen)
    (hchunks : forall chunk, chunk ∈ chunks -> chunk ≠ [])
    (hflat : chunks.flatten = (files imageId).drop pos)
    (hroom : fs.journalNext + 8 * checkpointsLeft fileLen pos <= firmwareJournalSize) :
    (writeChunks fs pos chunks).wp storeDevice (Faults.never storeIo)
      (fun out s' => out.1 = .ok ∧ out.2.op = .received ∧
        s'.2.1.slice (imageAddr 0) fileLen = files imageId)
      (fun _ => True) (bank, m, u) := by
  induction chunks generalizing fs m pos bank u with
  | nil =>
      have hdone : pos = fileLen := by
        have hlen := congrArg List.length hflat
        rw [List.length_drop] at hlen
        have hinside := h.inside
        change 0 = _ at hlen
        omega
      have hstaged := h.ready.under.staged
      unfold StagedPrefix at hstaged
      rw [hdone, List.take_of_length_le (Nat.le_of_eq hfile)] at hstaged
      have hop := h.op
      rw [if_pos hdone] at hop
      exact ⟨rfl, hop, hstaged⟩
  | cons chunk rest ih =>
      have hne := hchunks chunk (List.mem_cons_self ..)
      have hsplit : (files imageId).drop pos = chunk ++ rest.flatten := hflat.symm
      have hlen := congrArg List.length hsplit
      rw [List.length_drop, List.length_append, hfile] at hlen
      have hpos : chunk.length ≠ 0 := fun hzero => hne (List.length_eq_zero_iff.mp hzero)
      have hdata : chunk = ((files imageId).drop pos).take chunk.length := by
        rw [hsplit, List.take_append_of_le_length (Nat.le_refl _),
          List.take_of_length_le (Nat.le_refl _)]
      have hrest : rest.flatten = (files imageId).drop (pos + chunk.length) := by
        rw [← List.drop_drop, hsplit, List.drop_append_of_le_length (Nat.le_refl _),
          List.drop_of_length_le (Nat.le_refl _), List.nil_append]
      unfold writeChunks
      apply wp_seq (wp_mono (fun _ _ h => h) (fun _ _ => trivial)
        (wp_chunk h hdata hpos (by omega)))
      intro out s' hout
      rcases out with ⟨err, after⟩
      rcases hout with ⟨_, hnext, hcompletes⟩
      have hok : err = .ok := hcompletes (fun _ _ hfail => hfail) hroom
      rcases hnext hok with ⟨hcontinuing, hsum⟩
      dsimp only
      rw [if_pos hok]
      rcases s' with ⟨bank', m', u'⟩
      exact ih hcontinuing (fun chunk' hmem => hchunks chunk' (List.mem_cons_of_mem _ hmem)) hrest
        (by
          change after.journalNext + _ = _ at hsum
          omega)

end

/-- Whatever happened before, a resume that succeeds answers an offset up to which the staging
area holds the file, and continuing from there completes it while the journal has room. -/
theorem resume_trusts_staged {crypto : OtaCrypto} {files : UInt32 -> List UInt8}
    {m₀ m m' bank bank' : Memory} {fs fs' : FsInst} {imageId : UInt32} {fileLen : Nat}
    {F : Faults storeIo} {u u' : Unit} {answer : FsAnswer}
    (hfresh : forall imageId fileLen, ¬ SessionAt m₀ imageId fileLen)
    (hrun : StagingRun crypto files m₀ (some fs) m)
    (hresume : Program.Exec storeDevice F (fsPerform crypto fs (.resume imageId fileLen))
      (bank, m, u) (some (answer, fs')) (bank', m', u'))
    (hok : answer.err = .ok) :
    exists c, answer.offset = some c ∧ c <= fileLen ∧
      (c % firmwareCheckpointStep = 0 ∨ c = fileLen) ∧
      m'.slice (imageAddr 0) c = (files imageId).take c ∧
      forall chunks : List (List UInt8), (forall chunk, chunk ∈ chunks -> chunk ≠ []) ->
        (files imageId).length = fileLen -> chunks.flatten = (files imageId).drop c ->
        fs'.journalNext + 8 * checkpointsLeft fileLen c <= firmwareJournalSize ->
        exists fs'' s'', (writeChunks fs' c chunks).eval storeDevice (bank', m', u') =
            ((.ok, fs''), s'') ∧
          fs''.op = .received ∧ s''.2.1.slice (imageAddr 0) fileLen = files imageId := by
  have hinv : StageInv files fs m := hrun.inv hfresh
  have hwp : (fsPerform crypto fs (.resume imageId fileLen)).wp storeDevice F
      (fun out s' => out.1.err = .ok -> exists c, out.1.offset = some c ∧
        checkpointPlausible c fileLen ∧ Continuing files out.2 s'.2.1 imageId fileLen c)
      (fun s' => JournalSound files s'.2.1) (bank, m, u) :=
    wp_seq (wp_doResume hinv) fun _ _ hout => hout.2
  rcases wp_returns hwp hresume hok with ⟨c, hoffset, hsane, hcontinuing⟩
  refine ⟨c, hoffset, hsane.1, hsane.2, hcontinuing.ready.under.staged, ?_⟩
  intro chunks hchunks hfile hflat hroom
  have hdone := Program.wp_never_iff.mp
    (@Continuing.completes _ _ _ _ _ _ bank' u' _ hcontinuing hfile hchunks hflat hroom)
  refine ⟨_, _, Prod.ext (Prod.ext hdone.1 rfl) rfl, hdone.2.1, hdone.2.2⟩

/-- A file of one page. -/
def shortFile : List UInt8 :=
  List.replicate 129 0

theorem shortFile_length : shortFile.length = 129 :=
  List.length_replicate

/-- The device behind a `begin` for the short file. -/
def shortBegun : (FsAnswer × FsInst) × storeDevice.State :=
  (fsPerform openCrypto idleDevice.1 (.begin 1 129)).eval storeDevice
    (idleDevice.2, (fun _ => erasedByte), ())

/-- The staging flash behind a download of the short file. -/
def shortStaged : Memory :=
  ((fsPerform openCrypto shortBegun.1.2 (.writeChunk 0 shortFile)).eval storeDevice
    shortBegun.2).2.2.1

/-- The resume after a reset behind that download. -/
def shortResume : (FsAnswer × FsInst) × storeDevice.State :=
  (fsPerform openCrypto idleDevice.1 (.resume 1 129)).eval storeDevice
    (idleDevice.2, shortStaged, ())

theorem resume_trusts_staged_shortFile :
    exists c, shortResume.1.1.offset = some c ∧ c <= 129 ∧
      shortResume.2.2.1.slice (imageAddr 0) c = shortFile.take c := by
  have hcreate : Program.Exec internalFlash (Faults.never iflash)
      (firmwareStoreCreate firmwareSlotABase) idleDevice.2 (some (some idleDevice.1))
      idleDevice.2 :=
    Program.exec_of_eval
      (reads_firmwareStoreCreate (Faults.never iflash) idleDevice.2 firmwareSlotABase).eval_eq
  have hstart : StagingRun openCrypto (fun _ => shortFile) (fun _ => erasedByte)
      (some idleDevice.1) (fun _ => erasedByte) := .create .start hcreate
  have hbegun := @StagingRun.call _ _ _ _ _ _ _ _ _ _ (.begin 1 129) _ _ _ hstart trivial
    (Program.exec_eval storeDevice (Faults.never storeIo) _ (idleDevice.2, _, ()))
  have hwhole : shortFile = (shortFile.drop 0).take shortFile.length := by
    rw [List.drop_zero, List.take_length]
  have hwritten := @StagingRun.call _ _ _ _ _ _ _ _ _ _ (.writeChunk 0 shortFile) _ _ _ hbegun
    hwhole
    (Program.exec_eval storeDevice (Faults.never storeIo) _ shortBegun.2)
  have hagain : StagingRun openCrypto (fun _ => shortFile) (fun _ => erasedByte)
      (some idleDevice.1) shortStaged := .create (.reset hwritten) hcreate
  have hresumed := @resume_trusts_staged _ _ _ _ _ _ _ _ _ 1 129 _ _ _ _
    (fun _ _ => not_sessionAt_of_erased rfl) hagain
    (Program.exec_eval storeDevice (Faults.never storeIo) _ (idleDevice.2, shortStaged, ()))
    (by decide +kernel)
  rcases hresumed with ⟨c, hoffset, hle, _, hslice, _⟩
  exact ⟨c, hoffset, hle, hslice⟩

/-!
## A journal full of torn entries
-/

section

variable {m m' : Memory} {imageId : UInt32} {fileLen next : Nat} {fs : FsInst}
variable {bank : Memory} {u : Unit} {m₂ : Memory -> Memory}

variable {err : FirmwareStoreErr} {k next' : Nat} {data : List UInt8}

theorem exec_shortChunk {F : Faults qspi} (hpos : 0 < data.length)
    (hshort : data.length <= qspiFlashPageSizeBytes)
    (happend : Program.Exec qspiFlash F (journalAppend next data.length)
      ((m.erase (imageAddr 0) qspiFlashSectorSizeBytes).program (imageAddr 0) data)
      (some (err, next')) m') (hbad : err ≠ .ok) :
    Program.Exec qspiFlash F (fsStageWrite 0 data data.length next) m (some (err, next')) m' := by
  have herase : Program.Exec qspiFlash F
      (if 0 % qspiFlashSectorSizeBytes = 0 then qErase (imageAddr 0)
        else (pure .ok : Qspi FirmwareStoreErr)) m
      (some .ok) (m.erase (imageAddr 0) qspiFlashSectorSizeBytes) := by
    rw [if_pos (Nat.zero_mod _)]
    apply Program.exec_of_eval
    unfold qErase
    rw [eval_bind, eval_qspiEraseSector (by decide) (by decide)]
    rfl
  have hprogram : forall m₁ : Memory, Program.Exec qspiFlash F (qProgram (imageAddr 0) data) m₁
      (some .ok) (m₁.program (imageAddr 0) data) := by
    intro m₁
    have hacc : qspiWriteAccepted (imageAddr 0) data.length := by
      change data.length <= 256 at hshort
      change data.length ≠ 0 ∧ data.length <= 256 ∧ 0x00121000 < 8388608 ∧
        data.length <= 8388608 - 0x00121000 ∧
        0x00121000 / 256 = (0x00121000 + data.length - 1) / 256
      omega
    apply Program.exec_of_eval
    unfold qProgram
    rw [eval_bind, eval_qspiWritePage hacc]
    rfl
  unfold fsStageWrite
  generalize hfuel : data.length = fuel
  cases fuel with
  | zero => omega
  | succ fuel =>
      have hn : min data.length (qspiFlashPageSizeBytes - 0 % qspiFlashPageSizeBytes) =
          data.length := Nat.min_eq_left hshort
      unfold fsStageWriteLoop
      rw [if_pos hpos]
      dsimp only
      rw [lazyErase_join]
      refine Program.Exec.bind herase ?_
      rw [if_pos rfl, hn, List.take_of_length_le (Nat.le_refl _)]
      refine Program.Exec.bind (hprogram _) ?_
      rw [if_pos rfl, if_pos (.inr (by omega)), Nat.zero_add]
      refine Program.Exec.bind happend ?_
      dsimp only
      rw [if_neg hbad]
      exact .ret _ _

/-- The instance that `resume` leaves. -/
def resumed (fs : FsInst) (imageId : UInt32) (fileLen c next : Nat) : FsInst :=
  { fs with
    imageId := imageId
    fileLen := fileLen
    writeOffset := c
    journalNext := next
    op := if c = fileLen then .received else .receiving }

theorem eval_resume (crypto : OtaCrypto) {c : Nat} (hcheck : sessionCheck fs imageId fileLen = .ok)
    (hsession : SessionAt m imageId fileLen) (hholds : JournalHolds fileLen m k c) :
    (fsPerform crypto fs (.resume imageId fileLen)).eval storeDevice (bank, m, u) =
      ((⟨.ok, some c, false⟩,
        resumed fs imageId fileLen c (firmwareJournalEntriesOffset + 8 * k)), (bank, m, u)) := by
  have hscan := (@reads_fsJournalScan _ imageId _ _ (Faults.never qspi) _ hholds).eval_eq
  rw [if_pos hsession] at hscan
  change (doResume fs imageId fileLen >>= _).eval storeDevice (bank, m, u) = _
  rw [eval_bind]
  unfold doResume
  rw [if_neg (not_not.mpr hcheck), eval_bind]
  unfold onStaging
  rw [eval_inRight, eval_inLeft, hscan]
  rfl

theorem exec_shortWrite {F : Faults storeIo} (hpos : 0 < fileLen) (hlen : data.length = fileLen)
    (hshort : fileLen <= qspiFlashPageSizeBytes)
    (happend : forall m₁, Program.Exec qspiFlash F.right.left (journalAppend next fileLen) m₁
      (some (err, next')) (m₂ m₁)) (hbad : err ≠ .ok) :
    Program.Exec storeDevice F
      (doWriteChunk (resumed fs imageId fileLen 0 next) 0 data) (bank, m, u)
      (some (err, { resumed fs imageId fileLen 0 next with
        op := .idle, journalNext := next' }))
      (bank, m₂ ((m.erase (imageAddr 0) qspiFlashSectorSizeBytes).program (imageAddr 0) data),
        u) := by
  subst hlen
  have hop : (resumed fs imageId data.length 0 next).op = .receiving := if_neg (by omega)
  unfold doWriteChunk
  rw [if_neg (not_not.mpr hop), if_neg (by
    change ¬ (data.length = 0 ∨ 0 ≠ 0 ∨ data.length > data.length - 0)
    omega)]
  refine Program.Exec.bind (Program.exec_inRight (Program.exec_inLeft
    (exec_shortChunk hpos hshort (happend _) hbad))) ?_
  dsimp only
  rw [if_pos hbad]
  exact .ret _ _

/-- A run that has torn the first `k` entries of the journal of the file. -/
def Jammed (k : Nat) : Prop :=
  exists fs m, StagingRun openCrypto (fun _ => shortFile) (fun _ => erasedByte) (some fs) m ∧
    sessionCheck fs 1 129 = .ok ∧ SessionAt m 1 129 ∧ JournalHolds 129 m k 0

theorem jammed_zero : Jammed 0 := by
  have hcreated : StagingRun openCrypto (fun _ => shortFile) (fun _ => erasedByte)
      (some idleDevice.1) (fun _ => erasedByte) :=
    .create (F := Faults.never iflash) .start (Program.exec_of_eval
      (reads_firmwareStoreCreate (Faults.never iflash) idleDevice.2 firmwareSlotABase).eval_eq)
  have hbegun := @StagingRun.call _ _ _ _ _ _ _ _ _ _ (.begin 1 129) _ _ _ hcreated trivial
    (Program.exec_eval storeDevice (Faults.never storeIo) _ (idleDevice.2, _, ()))
  refine ⟨_, _, hbegun, by decide +kernel, by decide +kernel, ?_⟩
  refine journalHolds_blank (Memory.blank_of_slice ?_)
  decide +kernel

theorem jammed_succ (hk : k < firmwareJournalEntryCount) (h : Jammed k) : Jammed (k + 1) := by
  rcases h with ⟨fs, m, hrun, hcheck, hsession, hholds⟩
  change k < 510 at hk
  have hroom : ¬ firmwareJournalEntriesOffset + 8 * k >= firmwareJournalSize := by
    change ¬ 16 + 8 * k >= 4096
    omega
  have hresumed := @StagingRun.call _ _ _ _ _ _ idleDevice.2 _ _ _ (.resume 1 129) _ () _ hrun
    trivial
    (Program.exec_of_eval (F := Faults.never storeIo)
      (eval_resume openCrypto hcheck hsession hholds))
  have happend : forall m₁ : Memory, Program.Exec qspiFlash (Faults.always qspi)
      (journalAppend (firmwareJournalEntriesOffset + 8 * k) 129) m₁
      (some (.flashWrite, firmwareJournalEntriesOffset + 8 * k))
      (qspiProgramPart (journalAddr + (firmwareJournalEntriesOffset + 8 * k))
        (journalEntryBytes 129) 1 m₁) := by
    intro m₁
    unfold journalAppend
    rw [if_neg hroom]
    exact Program.Exec.failed (n := 1) trivial (.ret _ _)
  have hwhole : shortFile = (shortFile.drop 0).take shortFile.length := by
    rw [List.drop_zero, List.take_length]
  have hwritten := @StagingRun.call _ _ _ _ _ _ _ _ _ _ (.writeChunk 0 shortFile) _ _ _ hresumed
    hwhole
    (Program.Exec.bind (@exec_shortWrite _ _ _ _ _ idleDevice.2 () _ _ _ _ (Faults.always storeIo)
      (by decide) shortFile_length (by decide) happend
      (fun hok => by cases hok)) (.ret _ _))
  have hacc : qspiWriteAccepted (journalAddr + (firmwareJournalEntriesOffset + 8 * k))
      (journalEntryBytes 129).length := by
    rw [journalEntryBytes_length]
    change 8 ≠ 0 ∧ 8 <= 256 ∧ 0x00120000 + (16 + 8 * k) < 8388608 ∧
      8 <= 8388608 - (0x00120000 + (16 + 8 * k)) ∧
      (0x00120000 + (16 + 8 * k)) / 256 = (0x00120000 + (16 + 8 * k) + 8 - 1) / 256
    omega
  unfold qspiProgramPart at hwritten
  rw [if_pos hacc] at hwritten
  -- the page and its erase lie behind the journal
  have hbelow : SameJournal m
      ((m.erase (imageAddr 0) qspiFlashSectorSizeBytes).program (imageAddr 0) shortFile) :=
    ((Memory.erase_sameOutside _ _ _).sameOn (.inl (by decide))).trans
      ((Memory.program_sameOutside _ _ _).sameOn (.inl (by decide)))
  have hholds' := hholds.congr hbelow
  have hsession' := hsession.congr (m := (m.erase (imageAddr 0) qspiFlashSectorSizeBytes).program
    (imageAddr 0) shortFile) fun x hlo hhi => (hbelow x hlo (by
      change x < 0x00120000 + 4096
      change x < 0x00120000 + 16 at hhi
      omega)).symm
  generalize (m.erase (imageAddr 0) qspiFlashSectorSizeBytes).program (imageAddr 0) shortFile = m₁
    at hwritten hholds' hsession'
  have hout : Memory.SameOutside m₁
      (m₁.program (journalAddr + (firmwareJournalEntriesOffset + 8 * k))
        ((journalEntryBytes 129).take 1))
      (journalAddr + (firmwareJournalEntriesOffset + 8 * k)) 8 :=
    (Memory.program_sameOutside _ _ _).widen (Nat.le_refl _) (by
      change _ + 1 <= _ + 8
      omega)
  have hentry := Memory.slice_program_blank (d := (journalEntryBytes 129).take 1)
    (hholds'.blank.sub (k := 8) (Nat.le_refl _) (by
      change 0x00120000 + (16 + 8 * k) + 8 <= 0x00120000 + (16 + 8 * k) + 8 * (510 - k)
      omega)) (by decide)
  refine ⟨_, _, hwritten, ?_, ?_, hholds'.push hk hentry (by decide) hout⟩
  · have hparts := sessionCheck_ok_iff.mp hcheck
    exact sessionCheck_ok_iff.mpr ⟨hparts.1, hparts.2.1, fun hop => (by cases hop), hparts.2.2.2⟩
  · refine hsession'.congr fun x hlo hhi => (hout x (.inl ?_)).symm
    change x < 0x00120000 + (16 + 8 * k)
    change x < 0x00120000 + 16 at hhi
    omega

theorem jammed_all (k : Nat) (hk : k <= firmwareJournalEntryCount) : Jammed k := by
  induction k with
  | zero => exact jammed_zero
  | succ k ih => exact jammed_succ hk (ih (Nat.le_of_succ_le hk))

end

/-- After 510 torn appends the journal is full: `resume` still answers offset 0, but the file cannot
be completed any more. -/
theorem full_journal_stops :
    exists fs m fs' s', StagingRun openCrypto (fun _ => shortFile) (fun _ => erasedByte) (some fs) m ∧
      (fsPerform openCrypto fs (.resume 1 129)).eval storeDevice (idleDevice.2, m, ()) =
        ((⟨.ok, some 0, false⟩, fs'), s') ∧
      shortFile.length = 129 ∧ [shortFile].flatten = shortFile.drop 0 ∧
      ((writeChunks fs' 0 [shortFile]).eval storeDevice s').1.1 = .flashWrite := by
  rcases jammed_all 510 (Nat.le_refl _) with ⟨fs, m, hrun, hcheck, hsession, hholds⟩
  refine ⟨fs, m, _, _, hrun, eval_resume openCrypto hcheck hsession hholds,
    shortFile_length, by rw [List.drop_zero, List.flatten_singleton], ?_⟩
  have happend : forall m₁ : Memory, Program.Exec qspiFlash (Faults.never qspi)
      (journalAppend (firmwareJournalEntriesOffset + 8 * 510) 129) m₁
      (some (.flashWrite, firmwareJournalEntriesOffset + 8 * 510)) m₁ := by
    intro m₁
    unfold journalAppend
    rw [if_pos (by decide)]
    exact .ret _ _
  have hwrite := @exec_shortWrite m 1 _ _ fs idleDevice.2 () id _ _ _ (Faults.never storeIo)
    (by decide) shortFile_length (by decide) happend
    (fun hok => by cases hok)
  have hchunk := eval_of_exec hwrite
  unfold writeChunks
  rw [eval_bind, ← Option.some.inj hchunk.1]
  dsimp only
  rw [if_neg (fun hok => by cases hok)]
  rfl

end EnvMonitor.Gateway.FirmwareStore
