import EnvMonitor.Gateway.FirmwareStore.Store

/-!
# The resume journal on flash

What the entries of the journal say to a scan, and what an append leaves when it is cut off.
-/

namespace EnvMonitor.Gateway.FirmwareStore

open Device Drivers Gateway.ConfigStore

/-!
## Entries
-/

theorem journalEntryBytes_length (v : Nat) : (journalEntryBytes v).length = 8 := by
  simp [journalEntryBytes]

/-- What is on flash after `n` bytes of an entry. -/
def tornEntry (v n : Nat) : List UInt8 :=
  (journalEntryBytes v).take n ++ List.replicate (8 - n) erasedByte

variable {c fileLen n v : Nat} {entry : List UInt8}

theorem fieldAt_entry_value (h : v < 2 ^ 32) : fieldAt (journalEntryBytes v) 0 4 = v :=
  fieldAt_putLe h

theorem fieldAt_entry_inverse (v : Nat) :
    fieldAt (journalEntryBytes v) 4 4 = 2 ^ 32 - 1 - v := by
  unfold journalEntryBytes
  rw [fieldAt_append_right (by simp)]
  have hfield : fieldAt (putLe 4 (2 ^ 32 - 1 - v) ++ []) 0 4 = _ := fieldAt_putLe (by omega)
  rw [List.append_nil] at hfield
  rw [putLe_length]
  exact hfield

theorem journalTake_entry (h : v < 2 ^ 32) (hsane : checkpointPlausible v fileLen) :
    journalTake (journalEntryBytes v) fileLen c = v := by
  unfold journalTake
  rw [fieldAt_entry_value h, fieldAt_entry_inverse, if_pos ⟨by omega, hsane⟩]

theorem journalTake_isPlausible (h : checkpointPlausible c fileLen) :
    checkpointPlausible (journalTake entry fileLen c) fileLen := by
  unfold journalTake
  split
  · rename_i hpair
    exact hpair.2
  · exact h

/-- The value field of an entry cut off in its first word keeps an erased top byte, and its
inverse is erased. -/
theorem tornEntry_fields (hn : n < 4) :
    0 < fieldAt (tornEntry v n) 0 4 ∧ fieldAt (tornEntry v n) 4 4 = 2 ^ 32 - 1 := by
  have hfirst : (journalEntryBytes v).take n = (putLe 4 v).take n := by
    unfold journalEntryBytes
    rw [List.take_append_of_le_length (by rw [putLe_length]; omega)]
  have hbytes : tornEntry v n = ((putLe 4 v).take n ++ List.replicate (3 - n) erasedByte ++
      [erasedByte]) ++ List.replicate 4 erasedByte := by
    have hreplicate : List.replicate (8 - n) erasedByte =
        List.replicate (3 - n) erasedByte ++ ([erasedByte] ++ List.replicate 4 erasedByte) := by
      rw [show 8 - n = 3 - n + (1 + 4) by omega, List.replicate_add, List.replicate_add]
      rfl
    unfold tornEntry
    rw [hfirst, hreplicate]
    simp only [List.append_assoc]
  have hfront : ((putLe 4 v).take n ++ List.replicate (3 - n) erasedByte).length = 3 := by
    rw [List.length_append, List.length_take, List.length_replicate, putLe_length]
    omega
  rw [hbytes]
  constructor
  · rw [fieldAt_append_left (by rw [List.length_append, hfront]; decide)]
    unfold fieldAt
    rw [List.drop_zero, List.take_of_length_le (by rw [List.length_append, hfront]; decide),
      getLe_append, hfront]
    exact Nat.add_pos_right _ (by decide)
  · rw [fieldAt_append_right (by rw [List.length_append, hfront]; decide), List.length_append,
      hfront]
    decide

theorem journalTake_torn (hv : v < 2 ^ 32) (hn : n <= 8) :
    journalTake (tornEntry v n) fileLen c = c ∨ journalTake (tornEntry v n) fileLen c = v := by
  by_cases hfirst : n < 4
  · left
    have hfields := tornEntry_fields (v := v) hfirst
    unfold journalTake
    rw [if_neg]
    intro hpair
    have hvalue := hpair.1
    rw [hfields.2, Nat.sub_self] at hvalue
    exact absurd hvalue (Nat.ne_of_gt hfields.1)
  · -- the value is whole; the pair check is about the inverse alone
    have hvalue : fieldAt (tornEntry v n) 0 4 = v := by
      have hfirst : (journalEntryBytes v).take n =
          putLe 4 v ++ (putLe 4 (2 ^ 32 - 1 - v)).take (n - 4) := by
        unfold journalEntryBytes
        rw [List.take_append, putLe_length, List.take_of_length_le (by rw [putLe_length]; omega)]
      unfold tornEntry
      rw [hfirst, List.append_assoc]
      exact fieldAt_putLe hv
    unfold journalTake
    rw [hvalue]
    split
    · exact .inr rfl
    · exact .inl rfl

theorem erasedWord_bytes : putLe 4 (2 ^ 32 - 1) = List.replicate 4 erasedByte := by
  decide

theorem journalEntryErased_iff (hlen : entry.length = 8) :
    journalEntryErased entry ↔ entry = List.replicate 8 erasedByte := by
  constructor
  · intro h
    have hvalue := putLe_getLe ((entry.drop 0).take 4)
    have hinverse := putLe_getLe ((entry.drop 4).take 4)
    change putLe _ (fieldAt entry 0 4) = _ at hvalue
    change putLe _ (fieldAt entry 4 4) = _ at hinverse
    rw [h.1, List.length_take, List.length_drop, hlen] at hvalue
    rw [h.2, List.length_take, List.length_drop, hlen] at hinverse
    change putLe 4 (2 ^ 32 - 1) = _ at hvalue
    change putLe 4 (2 ^ 32 - 1) = _ at hinverse
    rw [erasedWord_bytes] at hvalue hinverse
    rw [List.take_of_length_le (by rw [List.length_drop]; omega)] at hinverse
    rw [← List.take_append_drop 4 entry, ← hinverse]
    change List.take 4 entry ++ _ = _
    rw [List.drop_zero] at hvalue
    rw [← hvalue]
    rfl
  · intro h
    subst h
    decide

theorem journalEntryErased_entry (hv : v < 2 ^ 32 - 1) :
    ¬ journalEntryErased (journalEntryBytes v) := by
  intro h
  have hvalue := h.1
  rw [fieldAt_entry_value (by omega)] at hvalue
  omega

/-!
## The scan over a memory
-/

/-- The window of `count` entries from `offset` on. -/
def windowAt (m : Memory) (fileLen count offset checkpoint : Nat) : Nat × Option Nat :=
  journalWindow fileLen count offset (m.slice (journalAddr + offset) (8 * count)) checkpoint

section

variable {m m' : Memory} {fileLen count offset c : Nat}

theorem windowAt_zero : windowAt m fileLen 0 offset c = (c, none) := rfl

theorem windowAt_succ :
    windowAt m fileLen (count + 1) offset c =
      if journalEntryErased (m.slice (journalAddr + offset) 8) then (c, some offset)
      else windowAt m fileLen count (offset + 8)
        (journalTake (m.slice (journalAddr + offset) 8) fileLen c) := by
  have hsplit := Memory.slice_add m (journalAddr + offset) 8 (8 * count)
  rw [Nat.add_assoc journalAddr] at hsplit
  have hlen := Memory.slice_length m (journalAddr + offset) 8
  have hstep : forall raw, journalWindow fileLen (count + 1) offset raw c =
      if journalEntryErased (raw.take 8) then (c, some offset)
      else journalWindow fileLen count (offset + 8) (raw.drop 8)
        (journalTake (raw.take 8) fileLen c) := fun _ => rfl
  unfold windowAt
  rw [show 8 * (count + 1) = 8 + 8 * count by omega, hsplit, hstep,
    List.take_append_of_le_length (by omega), List.take_of_length_le (by omega),
    List.drop_append_of_le_length (by omega), List.drop_of_length_le (by omega),
    List.nil_append]

theorem windowAt_add (a b : Nat) :
    windowAt m fileLen (a + b) offset c =
      match windowAt m fileLen a offset c with
      | (found, some next) => (found, some next)
      | (found, none) => windowAt m fileLen b (offset + 8 * a) found := by
  induction a generalizing offset c with
  | zero =>
      rw [windowAt_zero, Nat.zero_add]
      rfl
  | succ a ih =>
      rw [show a + 1 + b = a + b + 1 by omega, windowAt_succ, windowAt_succ]
      by_cases herased : journalEntryErased (m.slice (journalAddr + offset) 8)
      · rw [if_pos herased, if_pos herased]
      · rw [if_neg herased, if_neg herased, ih,
          show offset + 8 + 8 * a = offset + 8 * (a + 1) by omega]

theorem windowAt_congr (h : Memory.SameOn m m' (journalAddr + offset) (8 * count)) :
    windowAt m' fileLen count offset c = windowAt m fileLen count offset c := by
  unfold windowAt
  rw [Memory.slice_congr h]

theorem windowAt_isPlausible (h : checkpointPlausible c fileLen) :
    checkpointPlausible (windowAt m fileLen count offset c).1 fileLen := by
  induction count generalizing offset c with
  | zero => exact h
  | succ count ih =>
      rw [windowAt_succ]
      split
      · exact h
      · exact ih (journalTake_isPlausible h)

theorem windowAt_blank (h : Memory.Blank m (journalAddr + offset) 8) :
    windowAt m fileLen (count + 1) offset c = (c, some offset) := by
  rw [windowAt_succ, if_pos]
  apply (journalEntryErased_iff (Memory.slice_length _ _ _)).mpr
  exact Memory.slice_of_blank h

/-!
## The walk
-/

/-- The first free entry: the first erased one, or the end of the journal. -/
def freeEntry (found : Nat × Option Nat) : Nat × Nat :=
  (found.1, found.2.getD firmwareJournalSize)

theorem reads_journalWalk (F : Faults qspi) (fuel first : Nat)
    (hfuel : firmwareJournalEntryCount <= first + 32 * fuel) :
    Program.Reads qspiFlash F (journalWalk fileLen fuel first c) m
      (freeEntry (windowAt m fileLen (firmwareJournalEntryCount - first)
        (firmwareJournalEntriesOffset + first * 8) c)) := by
  induction fuel generalizing first c with
  | zero =>
      rw [Nat.sub_eq_zero_of_le (by omega), windowAt_zero]
      exact Program.reads_pure _
  | succ fuel ih =>
      unfold journalWalk
      by_cases hmore : first < firmwareJournalEntryCount
      · rw [if_pos hmore]
        dsimp only
        generalize hcount : min (firmwareJournalEntryCount - first) fsEntriesPerWindow = count
        change first < 510 at hmore
        change min (510 - first) 32 = count at hcount
        have hin : journalAddr + (firmwareJournalEntriesOffset + first * 8) + count * 8 <=
            qspiFlashDeviceSizeBytes := by
          change 0x00120000 + (16 + first * 8) + count * 8 <= 8388608
          omega
        refine (reads_qspiRead (by omega) hin).bind rfl ?_
        have hsplit := @windowAt_add m fileLen
          (firmwareJournalEntriesOffset + first * 8) c count
          (firmwareJournalEntryCount - first - count)
        rw [show count + (firmwareJournalEntryCount - first - count) =
          firmwareJournalEntryCount - first by change count + (510 - first - count) = 510 - first; omega]
          at hsplit
        rw [hsplit, Nat.mul_comm count 8]
        change Program.Reads qspiFlash F
          (match windowAt m fileLen count (firmwareJournalEntriesOffset + first * 8) c with
            | (found, some next) => pure (some (found, next))
            | (found, none) => journalWalk fileLen fuel (first + fsEntriesPerWindow) found) m _
        rcases windowAt m fileLen count (firmwareJournalEntriesOffset + first * 8) c with
          ⟨found, none | next⟩
        · dsimp only
          by_cases hlast : count = 32
          · have hih := ih (c := found) (first + fsEntriesPerWindow) (by
              change 510 <= first + 32 + 32 * fuel
              change 510 <= first + 32 * (fuel + 1) at hfuel
              omega)
            subst hlast
            rw [show firmwareJournalEntriesOffset + first * 8 + 8 * 32 =
              firmwareJournalEntriesOffset + (first + fsEntriesPerWindow) * 8 by
                change 16 + first * 8 + 256 = 16 + (first + 32) * 8; omega]
            exact hih
          · -- the last window: the walk ends behind it
            have hend : firmwareJournalEntryCount - first - count = 0 := by
              change 510 - first - count = 0
              omega
            have hih := ih (c := found) (first + fsEntriesPerWindow) (by
              change 510 <= first + 32 + 32 * fuel
              change 510 <= first + 32 * (fuel + 1) at hfuel
              omega)
            rw [Nat.sub_eq_zero_of_le (by change 510 <= first + 32; omega), windowAt_zero] at hih
            rw [hend, windowAt_zero]
            exact hih
        · exact Program.reads_pure _
      · rw [if_neg hmore, Nat.sub_eq_zero_of_le (by omega), windowAt_zero]
        exact Program.reads_pure _

/-- The journal has `k` entries, which leave the checkpoint `c`, and is erased behind them. -/
structure JournalHolds (fileLen : Nat) (m : Memory) (k c : Nat) : Prop where
  room : k <= firmwareJournalEntryCount
  taken : windowAt m fileLen k firmwareJournalEntriesOffset 0 = (c, none)
  blank : Memory.Blank m (journalAddr + (firmwareJournalEntriesOffset + 8 * k))
    (8 * (firmwareJournalEntryCount - k))

/-- The address range of the journal sector. -/
abbrev SameJournal (m m' : Memory) : Prop :=
  Memory.SameOn m m' journalAddr firmwareJournalSize

variable {k : Nat}

theorem JournalHolds.congr (h : JournalHolds fileLen m k c) (hsame : SameJournal m m') :
    JournalHolds fileLen m' k c where
  room := h.room
  taken := by
    have hroom : k <= 510 := h.room
    rw [windowAt_congr (hsame.sub (by omega) (by
      change 0x00120000 + 16 + 8 * k <= 0x00120000 + 4096; omega)), h.taken]
  blank := by
    have hroom : k <= 510 := h.room
    exact h.blank.congr (hsame.sub (by omega) (by
      change 0x00120000 + (16 + 8 * k) + 8 * (510 - k) <= 0x00120000 + 4096; omega))

theorem JournalHolds.plausible (h : JournalHolds fileLen m k c) :
    checkpointPlausible c fileLen := by
  have hsane := @windowAt_isPlausible m fileLen k
    firmwareJournalEntriesOffset 0 ⟨Nat.zero_le _, .inl rfl⟩
  rw [h.taken] at hsane
  exact hsane

theorem journalHolds_blank
    (h : Memory.Blank m (journalAddr + firmwareJournalEntriesOffset) (8 * 510)) :
    JournalHolds fileLen m 0 0 :=
  ⟨Nat.zero_le _, rfl, h⟩

theorem JournalHolds.found (h : JournalHolds fileLen m k c) :
    freeEntry (windowAt m fileLen firmwareJournalEntryCount firmwareJournalEntriesOffset 0) =
      (c, firmwareJournalEntriesOffset + 8 * k) := by
  have hroom : k <= 510 := h.room
  have hsplit := @windowAt_add m fileLen firmwareJournalEntriesOffset 0 k
    (510 - k)
  rw [show k + (510 - k) = 510 by omega, h.taken] at hsplit
  change freeEntry (windowAt m fileLen 510 firmwareJournalEntriesOffset 0) = _
  rw [hsplit]
  dsimp only
  by_cases hfull : k = 510
  · subst hfull
    rfl
  · have hblank : Memory.Blank m (journalAddr + (firmwareJournalEntriesOffset + 8 * k)) 8 :=
      h.blank.sub (Nat.le_refl _) (by
        change 0x00120000 + (16 + 8 * k) + 8 <= 0x00120000 + (16 + 8 * k) + 8 * (510 - k)
        omega)
    rw [show 510 - k = 510 - k - 1 + 1 by omega, windowAt_blank hblank]
    rfl

theorem JournalHolds.push (h : JournalHolds fileLen m k c) (hk : k < firmwareJournalEntryCount)
    {entry : List UInt8}
    (hentry : m'.slice (journalAddr + (firmwareJournalEntriesOffset + 8 * k)) 8 = entry)
    (herased : ¬ journalEntryErased entry)
    (hsame : Memory.SameOutside m m' (journalAddr + (firmwareJournalEntriesOffset + 8 * k)) 8) :
    JournalHolds fileLen m' (k + 1) (journalTake entry fileLen c) where
  room := hk
  taken := by
    rw [windowAt_add, windowAt_congr (hsame.sameOn (by
      left
      change 0x00120000 + 16 + 8 * k <= 0x00120000 + (16 + 8 * k)
      omega)), h.taken]
    dsimp only
    rw [windowAt_succ, hentry, if_neg herased, windowAt_zero]
  blank := by
    apply Memory.Blank.congr (m := m)
    · exact h.blank.sub (by omega) (by
        change k < 510 at hk
        change 0x00120000 + (16 + 8 * (k + 1)) + 8 * (510 - (k + 1)) <=
          0x00120000 + (16 + 8 * k) + 8 * (510 - k)
        omega)
    · apply hsame.sameOn
      right
      omega

variable {v : Nat}

theorem JournalHolds.append (h : JournalHolds fileLen m k c) (hk : k < firmwareJournalEntryCount)
    (hv : v < 2 ^ 32 - 1) {n : Nat} (hn : n <= 8) :
    exists k' c', JournalHolds fileLen
      (m.program (journalAddr + (firmwareJournalEntriesOffset + 8 * k))
        ((journalEntryBytes v).take n)) k' c' ∧ (c' = c ∨ c' = v) := by
  have hlen : ((journalEntryBytes v).take n).length = n := by
    rw [List.length_take, journalEntryBytes_length]
    omega
  have hblank : Memory.Blank m (journalAddr + (firmwareJournalEntriesOffset + 8 * k)) 8 :=
    h.blank.sub (Nat.le_refl _) (by
      change k < 510 at hk
      change 0x00120000 + (16 + 8 * k) + 8 <= 0x00120000 + (16 + 8 * k) + 8 * (510 - k)
      omega)
  have hentry := Memory.slice_program_blank (d := (journalEntryBytes v).take n) hblank (by omega)
  rw [hlen] at hentry
  have hout : Memory.SameOutside m (m.program (journalAddr + (firmwareJournalEntriesOffset + 8 * k))
      ((journalEntryBytes v).take n)) (journalAddr + (firmwareJournalEntriesOffset + 8 * k)) 8 :=
    (Memory.program_sameOutside _ _ _).widen (Nat.le_refl _) (by omega)
  generalize m.program (journalAddr + (firmwareJournalEntriesOffset + 8 * k))
    ((journalEntryBytes v).take n) = m' at hentry hout ⊢
  change _ = tornEntry v n at hentry
  by_cases herased : journalEntryErased (tornEntry v n)
  · -- nothing was cleared yet
    refine ⟨k, c, ⟨h.room, ?_, ?_⟩, .inl rfl⟩
    · rw [windowAt_congr (hout.sameOn (by
        left
        change 0x00120000 + 16 + 8 * k <= 0x00120000 + (16 + 8 * k)
        omega)), h.taken]
    · rw [journalEntryErased_iff (by rw [← hentry]; exact Memory.slice_length _ _ _), ← hentry]
        at herased
      intro x hlo hhi
      by_cases hx : x < journalAddr + (firmwareJournalEntriesOffset + 8 * k) + 8
      · exact Memory.blank_of_slice herased x hlo hx
      · exact (hout x (.inr (by omega))).trans (h.blank x hlo hhi)
  · exact ⟨k + 1, _, h.push hk hentry herased hout, journalTake_torn (by omega) hn⟩

theorem JournalHolds.appended (h : JournalHolds fileLen m k c) (hk : k < firmwareJournalEntryCount)
    (hv : v < 2 ^ 32 - 1) (hsane : checkpointPlausible v fileLen) :
    JournalHolds fileLen (m.program (journalAddr + (firmwareJournalEntriesOffset + 8 * k))
      (journalEntryBytes v)) (k + 1) v := by
  have hlen := journalEntryBytes_length v
  have hblank : Memory.Blank m (journalAddr + (firmwareJournalEntriesOffset + 8 * k)) 8 :=
    h.blank.sub (Nat.le_refl _) (by
      change k < 510 at hk
      change 0x00120000 + (16 + 8 * k) + 8 <= 0x00120000 + (16 + 8 * k) + 8 * (510 - k)
      omega)
  have hentry := Memory.slice_program (d := journalEntryBytes v) (by rw [hlen]; exact hblank)
  have hout := Memory.program_sameOutside m
    (journalAddr + (firmwareJournalEntriesOffset + 8 * k)) (journalEntryBytes v)
  rw [hlen] at hentry hout
  have hpush := h.push hk hentry (journalEntryErased_entry hv) hout
  rw [journalTake_entry (by omega) hsane] at hpush
  exact hpush

end

end EnvMonitor.Gateway.FirmwareStore
