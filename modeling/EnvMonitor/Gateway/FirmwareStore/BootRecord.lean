import EnvMonitor.Gateway.FirmwareStore.Metadata
import EnvMonitor.Gateway.Bootloader.BootCore

/-!
# The boot record on flash

What the two metadata pages say, as the application and the bootloader both read it, and
what the write protocol that both follow leaves behind when it is interrupted.
-/

namespace EnvMonitor.Gateway.FirmwareStore

open Device Drivers Gateway.ConfigStore Bootloader
open Program (wp wp_bind)

/-!
## Records in bytes
-/

variable {raw : List UInt8} {r : FirmwareBootMeta} {c : Nat} {m m' : Memory}

theorem wordBytes_wordAt {i : Nat} (h : i + 4 <= raw.length) :
    wordBytes (wordAt raw i) = (raw.drop i).take 4 := by
  have hlen : ((raw.drop i).take 4).length = 4 := by
    rw [List.length_take, List.length_drop]
    omega
  have hlt : fieldAt raw i 4 < 2 ^ 32 := by
    have hbound := getLe_lt ((raw.drop i).take 4)
    rw [hlen] at hbound
    exact hbound
  unfold wordBytes wordAt
  rw [UInt32.toNat_ofNat', Nat.mod_eq_of_lt hlt]
  have hback := putLe_getLe ((raw.drop i).take 4)
  rw [hlen] at hback
  exact hback

namespace FirmwareBootMeta

theorem body_ofBytes {raw : List UInt8} (h : 16 <= raw.length) :
    (ofBytes raw).body = raw.take 16 := by
  have hsplit : raw.take 16 = raw.take 4 ++ ((raw.drop 4).take 4 ++
      ((raw.drop 8).take 4 ++ (raw.drop 12).take 4)) := by
    rw [show (16 : Nat) = 4 + (4 + (4 + 4)) by rfl, List.take_add, List.take_add, List.take_add,
      List.drop_drop, List.drop_drop]
  have hbanks : (raw.drop 4).take 4 =
      [raw.getD 4 0, raw.getD 5 0, raw.getD 6 0, raw.getD 7 0] := by
    apply List.ext_getElem
    · simp
      omega
    · intro i hi hi'
      simp only [List.length_cons, List.length_nil] at hi'
      rw [List.getElem_take, List.getElem_drop]
      match i with
      | 0 => simp [List.getD_eq_getElem?_getD, show 4 < raw.length by omega]
      | 1 => simp [List.getD_eq_getElem?_getD, show 5 < raw.length by omega]
      | 2 => simp [List.getD_eq_getElem?_getD, show 6 < raw.length by omega]
      | 3 => simp [List.getD_eq_getElem?_getD, show 7 < raw.length by omega]
  rw [hsplit, hbanks]
  unfold body ofBytes
  simp only
  rw [wordBytes_wordAt (by omega), wordBytes_wordAt (by omega), wordBytes_wordAt (by omega)]
  rfl

end FirmwareBootMeta

theorem metaParse_eq (h : 16 <= raw.length) :
    metaParse raw = if RecordIsValid (.ofBytes raw) then some (.ofBytes raw) else none := by
  have hiff : MetaLegal raw (.ofBytes raw) ↔ RecordIsValid (.ofBytes raw) := by
    unfold MetaLegal RecordIsValid
    rw [FirmwareBootMeta.body_ofBytes h]
    exact Iff.rfl
  unfold metaParse
  simp only [hiff]

theorem metaParse_bytes (h : RecordIsValid r) : metaParse r.bytes = some r := by
  rw [metaParse_eq (by simp), FirmwareBootMeta.ofBytes_bytes, if_pos h]

theorem metaParse_erased (h : raw.head? = some erasedByte) : metaParse raw = none := by
  cases raw with
  | nil => cases h
  | cons byte rest =>
      cases h
      have hmagic : wordAt (erasedByte :: rest) 0 ≠ firmwareMetaMagic := by
        intro heq
        have hlow : (wordAt (erasedByte :: rest) 0).toNat % 256 = 0xEF := by
          rw [heq]
          rfl
        have hfield : fieldAt (erasedByte :: rest) 0 4 =
            erasedByte.toNat + 256 * getLe (rest.take 3) := rfl
        have hff : erasedByte.toNat = 255 := rfl
        unfold wordAt at hlow
        rw [UInt32.toNat_ofNat', hfield] at hlow
        omega
      unfold metaParse
      exact if_neg (fun hlegal => hmagic hlegal.1)

theorem recordOf_eq (active state previous : UInt8) (count generation : UInt32) :
    recordOf active state previous count generation =
      fsMetaRecord active state previous count generation := rfl

theorem fsMetaRecord_valid {active state previous : UInt8} {count generation : UInt32}
    (hactive : metaBankLegal active) (hprevious : metaBankLegal previous)
    (hstate : metaStateLegal state) :
    RecordIsValid (fsMetaRecord active state previous count generation) :=
  ⟨rfl, rfl, hactive, hprevious, hstate.1, hstate.2⟩

/-!
## The record in force
-/

/-- The record a metadata page holds. -/
def copyAt (m : Memory) (c : Nat) : Option FirmwareBootMeta :=
  metaParse (m.slice (fsMetaAddr c) 24)

/-- The copy in force and its record: the higher generation, copy A on a tie. -/
def inForce (m : Memory) : BootRecord :=
  match copyAt m 0, copyAt m 1 with
  | some recA, some recB =>
      if recA.generation >= recB.generation then some (0, recA) else some (1, recB)
  | some recA, none => some (0, recA)
  | none, some recB => some (1, recB)
  | none, none => none

/-- The application's form of the record in force. -/
def fsMetaIn (m : Memory) : FsMeta :=
  match inForce m with
  | some (c, r) => fsMetaOf c r
  | none => fsMetaAbsent

theorem fsMetaSelect_eq (m : Memory) :
    fsMetaSelect (copyAt m 0) (copyAt m 1) = fsMetaIn m := by
  unfold fsMetaIn inForce fsMetaSelect
  cases copyAt m 0 with
  | none =>
      cases copyAt m 1 with
      | none => rfl
      | some recB => rfl
  | some recA =>
      cases copyAt m 1 with
      | none => rfl
      | some recB =>
          simp only
          split
          · rfl
          · rfl

theorem inForce_cases (m : Memory) :
    (inForce m = none ∧ copyAt m 0 = none ∧ copyAt m 1 = none) ∨
      exists c r, inForce m = some (c, r) ∧ c < 2 ∧ copyAt m c = some r := by
  unfold inForce
  cases hA : copyAt m 0 with
  | none =>
      cases hB : copyAt m 1 with
      | none => exact .inl ⟨rfl, rfl, rfl⟩
      | some recB => exact .inr ⟨1, recB, rfl, by omega, hB⟩
  | some recA =>
      cases hB : copyAt m 1 with
      | none => exact .inr ⟨0, recA, rfl, by omega, hA⟩
      | some recB =>
          right
          simp only
          split
          · exact ⟨0, recA, rfl, by omega, hA⟩
          · exact ⟨1, recB, rfl, by omega, hB⟩

theorem copyAt_valid (h : copyAt m c = some r) : RecordIsValid r := by
  unfold copyAt at h
  rw [metaParse_eq (by simp)] at h
  by_cases hvalid : RecordIsValid (.ofBytes (m.slice (fsMetaAddr c) 24))
  · rw [if_pos hvalid] at h
    cases h
    exact hvalid
  · rw [if_neg hvalid] at h
    cases h

theorem inForce_valid (h : inForce m = some (c, r)) : RecordIsValid r := by
  rcases inForce_cases m with ⟨hnone, _⟩ | ⟨c', r', hsome, _, hcopy⟩
  · rw [hnone] at h
    cases h
  · rw [hsome] at h
    cases h
    exact copyAt_valid hcopy

theorem inForce_congr (hA : copyAt m' 0 = copyAt m 0) (hB : copyAt m' 1 = copyAt m 1) :
    inForce m' = inForce m := by
  unfold inForce
  rw [hA, hB]

/-- The copy the next write goes to. -/
def targetOf (m : Memory) : Nat :=
  recordTarget (inForce m)

theorem targetOf_eq (m : Memory) : recordTarget (inForce m) = targetOf m := rfl

theorem targetOf_lt (m : Memory) : targetOf m < 2 := by
  unfold targetOf recordTarget
  split
  · omega
  · omega

theorem copy_cases (h : c < 2) : c = 0 ∨ c = 1 := by
  omega

theorem fsMetaTarget_eq (m : Memory) : fsMetaTarget (fsMetaIn m) = targetOf m := by
  unfold fsMetaTarget fsMetaIn targetOf recordTarget
  rcases inForce_cases m with ⟨hnone, _⟩ | ⟨c, r, hsome, hlt, _⟩
  · rw [hnone]
    rfl
  · rw [hsome]
    rcases copy_cases hlt with hc | hc
    · subst c
      rfl
    · subst c
      rfl

theorem fsMetaNextGeneration_eq (m : Memory) :
    fsMetaNextGeneration (fsMetaIn m) = recordNextGeneration (inForce m) := by
  unfold fsMetaNextGeneration fsMetaIn recordNextGeneration
  rcases inForce_cases m with ⟨hnone, _⟩ | ⟨c, r, hsome, hlt, _⟩
  · rw [hnone]
    rfl
  · rw [hsome]
    have hne : (fsMetaOf c r).selected ≠ fsMetaNone := by
      change c ≠ 0xFF
      omega
    simp only
    rw [if_neg hne]
    rfl

theorem inForce_target (h : inForce m = some (c, r)) :
    (c = 0 ∧ targetOf m = 1) ∨ (c = 1 ∧ targetOf m = 0) := by
  unfold targetOf recordTarget
  rcases inForce_cases m with ⟨hnone, _⟩ | ⟨c', r', hsome, hlt, _⟩
  · rw [hnone] at h
    cases h
  · rw [hsome] at h
    cases h
    rw [hsome]
    rcases copy_cases hlt with hc | hc
    · subst c
      exact .inl ⟨rfl, rfl⟩
    · subst c
      exact .inr ⟨rfl, rfl⟩

theorem inForce_copy (h : inForce m = some (c, r)) : copyAt m c = some r := by
  rcases inForce_cases m with ⟨hnone, _⟩ | ⟨c', r', hsome, _, hcopy⟩
  · rw [hnone] at h
    cases h
  · rw [hsome] at h
    cases h
    exact hcopy

theorem targetOf_none (h : inForce m = none) : targetOf m = 0 := by
  unfold targetOf recordTarget
  rw [h]

theorem inForce_first (hA : copyAt m 0 = some r)
    (hB : forall r', copyAt m 1 = some r' -> r'.generation <= r.generation) :
    inForce m = some (0, r) := by
  unfold inForce
  rw [hA]
  cases hcopy : copyAt m 1 with
  | none => rfl
  | some r' => exact if_pos (hB r' hcopy)

theorem inForce_second (hB : copyAt m 1 = some r)
    (hA : forall r', copyAt m 0 = some r' -> r'.generation < r.generation) :
    inForce m = some (1, r) := by
  unfold inForce
  rw [hB]
  cases hcopy : copyAt m 0 with
  | none => rfl
  | some r' => exact if_neg (UInt32.not_le.mpr (hA r' hcopy))

theorem inForce_kept (hother : forall c, c < 2 -> c ≠ targetOf m -> copyAt m' c = copyAt m c)
    (htarget : copyAt m' (targetOf m) = none ∨
      copyAt m' (targetOf m) = copyAt m (targetOf m)) : inForce m' = inForce m := by
  rcases htarget with hnone | hsame
  · rcases inForce_cases m with ⟨hforce, hA, hB⟩ | ⟨c, r, hforce, hlt, hcopy⟩
    · rw [targetOf_none hforce] at hnone hother
      exact inForce_congr (hnone.trans hA.symm) (hother 1 (by omega) (by omega))
    · rw [hforce]
      rcases inForce_target hforce with ⟨hc, htarget⟩ | ⟨hc, htarget⟩
      · subst c
        rw [htarget] at hnone hother
        apply inForce_first ((hother 0 (by omega) (by omega)).trans hcopy)
        intro r' hsome
        rw [hnone] at hsome
        cases hsome
      · subst c
        rw [htarget] at hnone hother
        apply inForce_second ((hother 1 (by omega) (by omega)).trans hcopy)
        intro r' hsome
        rw [hnone] at hsome
        cases hsome
  · apply inForce_congr
    · by_cases h : 0 = targetOf m
      · rw [h]
        exact hsame
      · exact hother 0 (by omega) h
    · by_cases h : 1 = targetOf m
      · rw [h]
        exact hsame
      · exact hother 1 (by omega) h

theorem inForce_written (hother : forall c, c < 2 -> c ≠ targetOf m -> copyAt m' c = copyAt m c)
    (htarget : copyAt m' (targetOf m) = some r)
    (hnewer : forall c r₀, inForce m = some (c, r₀) -> r₀.generation < r.generation) :
    inForce m' = some (targetOf m, r) := by
  rcases inForce_cases m with ⟨hforce, hA, hB⟩ | ⟨c, r₀, hforce, hlt, hcopy⟩
  · rw [targetOf_none hforce] at htarget hother ⊢
    apply inForce_first htarget
    intro r' hsome
    rw [hother 1 (by omega) (by omega), hB] at hsome
    cases hsome
  · have hgen := hnewer c r₀ hforce
    rcases inForce_target hforce with ⟨hc, htarget'⟩ | ⟨hc, htarget'⟩
    · subst c
      rw [htarget'] at htarget hother ⊢
      apply inForce_second htarget
      intro r' hsome
      rw [hother 0 (by omega) (by omega), hcopy] at hsome
      cases hsome
      exact hgen
    · subst c
      rw [htarget'] at htarget hother ⊢
      apply inForce_first htarget
      intro r' hsome
      rw [hother 1 (by omega) (by omega), hcopy] at hsome
      cases hsome
      exact UInt32.le_of_lt hgen

/-!
## Reading
-/

section

variable {F : Faults iflash} {m m' : Memory}

theorem inFlash_meta (c : Nat) : inFlash (fsMetaAddr c) 24 := by
  unfold fsMetaAddr
  split
  · decide
  · decide

theorem reads_fsMetaLoad (F : Faults iflash) (m : Memory) :
    Program.Reads internalFlash F fsMetaLoad m (fsMetaIn m) := by
  have hread : forall c, Program.Reads internalFlash F (fsIfRead (fsMetaAddr c) 24) m
      (m.slice (fsMetaAddr c) 24) := by
    intro c
    refine (wp_iflashRead (by decide) (inFlash_meta c)).mpr ⟨⟨rfl, .inl rfl⟩, ?_, ?_⟩
    · intro n hn
      exact ⟨rfl, .inr ⟨rfl, _, n, hn⟩⟩
    · intro n hn
      rfl
  unfold fsMetaLoad
  refine Program.Reads.bind (hread 0) rfl ?_
  refine Program.Reads.bind (hread 1) rfl ?_
  rw [← fsMetaSelect_eq]
  exact Program.reads_pure _

theorem recordTake_first (m : Memory) (events : BootEvents) :
    exists events', recordTake 0 (.ofBytes (m.slice (fsMetaAddr 0) 24)) none events =
      ((copyAt m 0).map (fun r => (0, r)), events') ∧
      events'.metaWriteFailed = events.metaWriteFailed := by
  unfold recordTake copyAt
  rw [metaParse_eq (by simp)]
  split
  · exact ⟨_, rfl, rfl⟩
  · refine ⟨_, rfl, ?_⟩
    split
    · rfl
    · rfl

theorem recordTake_second (m : Memory) (events : BootEvents) :
    exists events', recordTake 1 (.ofBytes (m.slice (fsMetaAddr 1) 24))
      ((copyAt m 0).map (fun r => (0, r))) events = (inForce m, events') ∧
      events'.metaWriteFailed = events.metaWriteFailed := by
  have hsecond := metaParse_eq (by simp : 16 <= (m.slice (fsMetaAddr 1) 24).length)
  change copyAt m 1 = _ at hsecond
  unfold recordTake inForce
  by_cases hvalid : RecordIsValid (.ofBytes (m.slice (fsMetaAddr 1) 24))
  · rw [if_pos hvalid] at hsecond
    rw [if_pos hvalid, hsecond]
    cases copyAt m 0 with
    | none => exact ⟨_, rfl, rfl⟩
    | some recA =>
        simp only [Option.map_some]
        by_cases hgen : (FirmwareBootMeta.ofBytes (m.slice (fsMetaAddr 1) 24)).generation >
            recA.generation
        · rw [if_pos hgen, if_neg (UInt32.not_le.mpr hgen)]
          exact ⟨_, rfl, rfl⟩
        · rw [if_neg hgen, if_pos (UInt32.not_lt.mp hgen)]
          exact ⟨_, rfl, rfl⟩
  · rw [if_neg hvalid] at hsecond
    rw [if_neg hvalid, hsecond]
    have hevents : (if recordIsBlank (.ofBytes (m.slice (fsMetaAddr 1) 24)) then events
        else { events with copyInvalid := true }).metaWriteFailed = events.metaWriteFailed := by
      split
      · rfl
      · rfl
    cases copyAt m 0 with
    | none => exact ⟨_, rfl, hevents⟩
    | some recA => exact ⟨_, rfl, hevents⟩

theorem wp_recordSelect (events : BootEvents) :
    (recordSelect events).wp internalFlash F
      (fun out m' => m' = m ∧
        ((out.1 = true ∧ out.2.1 = inForce m ∧
            out.2.2.metaWriteFailed = events.metaWriteFailed) ∨
          (out.1 = false ∧ exists c n, F.fails (.read (fsMetaAddr c) 24) n)))
      (fun m' => m' = m) m := by
  rcases recordTake_first m events with ⟨events₁, hfirst, hflag₁⟩
  rcases recordTake_second m events₁ with ⟨events₂, hsecond, hflag₂⟩
  apply (wp_bind _ _).mpr
  refine (wp_iflashRead (by decide) (inFlash_meta 0)).mpr ⟨?_, ?_, fun _ _ => rfl⟩
  · simp only [hfirst]
    apply (wp_bind _ _).mpr
    refine (wp_iflashRead (by decide) (inFlash_meta 1)).mpr ⟨?_, ?_, fun _ _ => rfl⟩
    · simp only [hsecond]
      exact ⟨rfl, .inl ⟨rfl, rfl, hflag₂.trans hflag₁⟩⟩
    · intro n hn
      exact ⟨rfl, .inr ⟨rfl, 1, n, hn⟩⟩
  · intro n hn
    exact ⟨rfl, .inr ⟨rfl, 0, n, hn⟩⟩

end

/-!
## The write protocol
-/

/-- The page after the first `k` bytes of the record were programmed. -/
def torn (r : FirmwareBootMeta) (k : Nat) : List UInt8 :=
  r.bytes.take k ++ List.replicate (24 - k) erasedByte

/-- The flash after the page was erased and `k` bytes of the record were programmed. -/
def written (m : Memory) (c : Nat) (r : FirmwareBootMeta) (k : Nat) : Memory :=
  (m.erase (fsMetaAddr c) 2048).program (fsMetaAddr c) (r.bytes.take k)

/-- The flash at some point of the protocol.  Fewer than the first 16 bytes stand there only
when their program was interrupted. -/
inductive Midway (F : Faults iflash) (m : Memory) (c : Nat) (r : FirmwareBootMeta) :
    Memory -> Prop where
  | erasing (n : Nat) : n <= 2048 -> Midway F m c r (m.erase (fsMetaAddr c) n)
  | body (n : Nat) : n < 16 ->
      (F.fails (.program (fsMetaAddr c) (r.bytes.take 16)) n ∨
        F.cuts (.program (fsMetaAddr c) (r.bytes.take 16)) n) ->
      Midway F m c r (written m c r n)
  | programming (k : Nat) : 16 <= k -> k <= 24 -> Midway F m c r (written m c r k)

/-- The ways the protocol ends: the flag says whether it reported success. -/
inductive WriteExit (F : Faults iflash) (m : Memory) (c : Nat) (r : FirmwareBootMeta) :
    Bool -> Memory -> Prop where
  | done : WriteExit F m c r true (written m c r 24)
  | eraseFailed (n : Nat) : F.fails (.erasePage (fsMetaAddr c)) n ->
      WriteExit F m c r false (m.erase (fsMetaAddr c) (min n 2048))
  | bodyFailed (n : Nat) : F.fails (.program (fsMetaAddr c) (r.bytes.take 16)) n ->
      WriteExit F m c r false (written m c r (min n 16))
  | tailFailed (n : Nat) : F.fails (.program (fsMetaAddr c + 16) (r.bytes.drop 16)) n ->
      WriteExit F m c r false (written m c r (16 + min n 8))
  | readFailed (n : Nat) : F.fails (.read (fsMetaAddr c) 24) n ->
      WriteExit F m c r false (written m c r 24)

section

variable {F : Faults iflash} {m m' : Memory} {c k : Nat} {r : FirmwareBootMeta}

theorem eraseAccepted_meta (c : Nat) : iflashEraseAccepted (fsMetaAddr c) := by
  unfold fsMetaAddr
  split
  · decide
  · decide

theorem programAccepted_body (c : Nat) : iflashProgramAccepted (fsMetaAddr c) 16 := by
  unfold fsMetaAddr
  split
  · decide
  · decide

theorem programAccepted_tail (c : Nat) : iflashProgramAccepted (fsMetaAddr c + 16) 8 := by
  unfold fsMetaAddr
  split
  · decide
  · decide

theorem written_on (m : Memory) (c : Nat) (r : FirmwareBootMeta) (n : Nat) :
    (written m c r 16).program (fsMetaAddr c + 16) ((r.bytes.drop 16).take n) =
      written m c r (16 + n) := by
  unfold written
  rw [List.take_add, Memory.program_append, List.length_take, FirmwareBootMeta.bytes_length]
  rfl

theorem written_eq (m : Memory) (c : Nat) (r : FirmwareBootMeta) (n : Nat) :
    (m.erase (fsMetaAddr c) 2048).program (fsMetaAddr c) (r.bytes.take n) = written m c r n := rfl

theorem slice_written (m : Memory) (c : Nat) (r : FirmwareBootMeta) (hk : k <= 24) :
    (written m c r k).slice (fsMetaAddr c) 24 = torn r k := by
  have hlen : (r.bytes.take k).length = k := by
    rw [List.length_take, FirmwareBootMeta.bytes_length]
    omega
  have hblank : Memory.Blank (m.erase (fsMetaAddr c) 2048) (fsMetaAddr c) 24 :=
    (Memory.erase_blank m (fsMetaAddr c) 2048).sub (Nat.le_refl _) (by omega)
  have hslice := Memory.slice_program_blank (d := r.bytes.take k) hblank (by omega)
  rw [hlen] at hslice
  exact hslice

theorem written_sameOutside (m : Memory) (c : Nat) (r : FirmwareBootMeta) (k : Nat) :
    Memory.SameOutside m (written m c r k) (fsMetaAddr c) 2048 := by
  apply (Memory.erase_sameOutside m (fsMetaAddr c) 2048).trans
  apply (Memory.program_sameOutside _ _ _).widen (Nat.le_refl _)
  rw [List.length_take, FirmwareBootMeta.bytes_length]
  omega

theorem Midway.sameOutside (h : Midway F m c r m') :
    Memory.SameOutside m m' (fsMetaAddr c) 2048 := by
  cases h with
  | erasing n hn =>
      exact (Memory.erase_sameOutside m _ n).widen (Nat.le_refl _) (Nat.add_le_add_left hn _)
  | body n _ _ => exact written_sameOutside m c r n
  | programming k _ _ => exact written_sameOutside m c r k

theorem Midway.interrupted {n : Nat}
    (h : F.fails (.program (fsMetaAddr c) (r.bytes.take 16)) n ∨
      F.cuts (.program (fsMetaAddr c) (r.bytes.take 16)) n) :
    Midway F m c r (written m c r (min n 16)) := by
  by_cases hlt : n < 16
  · rw [Nat.min_eq_left (by omega)]
    exact .body n hlt h
  · rw [Nat.min_eq_right (by omega)]
    exact .programming 16 (by omega) (by omega)

theorem WriteExit.midway {done : Bool} (h : WriteExit F m c r done m') : Midway F m c r m' := by
  cases h with
  | done => exact .programming 24 (by omega) (by omega)
  | eraseFailed n _ => exact .erasing _ (Nat.min_le_right _ _)
  | bodyFailed n hfail => exact .interrupted (.inl hfail)
  | tailFailed n _ => exact .programming _ (by omega) (by omega)
  | readFailed n _ => exact .programming 24 (by omega) (by omega)

variable {c' : Nat}

theorem fsMetaAddr_apart (hc : c < 2) (hc' : c' < 2) (hne : c' ≠ c) :
    fsMetaAddr c' + 2048 <= fsMetaAddr c ∨ fsMetaAddr c + 2048 <= fsMetaAddr c' := by
  match c, c', hc, hc' with
  | 0, 0, _, _ => exact absurd rfl hne
  | 0, 1, _, _ => exact .inr (by decide)
  | 1, 0, _, _ => exact .inl (by decide)
  | 1, 1, _, _ => exact absurd rfl hne

theorem copyAt_otherPage (hsame : Memory.SameOutside m m' (fsMetaAddr c) 2048) (hc : c < 2)
    (hc' : c' < 2) (hne : c' ≠ c) : copyAt m' c' = copyAt m c' := by
  unfold copyAt
  rw [Memory.slice_congr]
  apply hsame.sameOn
  rcases fsMetaAddr_apart hc hc' hne with h | h
  · left
    omega
  · right
    omega

theorem copyAt_written (m : Memory) (c : Nat) (r : FirmwareBootMeta) (hk : k <= 24) :
    copyAt (written m c r k) c = metaParse (torn r k) := by
  unfold copyAt
  rw [slice_written m c r hk]

theorem torn_all (r : FirmwareBootMeta) : torn r 24 = r.bytes := by
  unfold torn
  rw [List.take_of_length_le (by simp)]
  simp

theorem copyAt_erased (m : Memory) (c n : Nat) :
    copyAt (m.erase (fsMetaAddr c) n) c = none ∨
      copyAt (m.erase (fsMetaAddr c) n) c = copyAt m c := by
  cases n with
  | zero =>
      right
      rw [Memory.erase_zero]
  | succ n =>
      left
      apply metaParse_erased
      have hfirst := Memory.erase_blank m (fsMetaAddr c) (n + 1) (fsMetaAddr c)
        (Nat.le_refl _) (by omega)
      change some ((m.erase (fsMetaAddr c) (n + 1)) (fsMetaAddr c)) = some erasedByte
      rw [hfirst]

theorem copyAt_congr (h : Memory.SameOn m m' (fsMetaAddr c) 24) : copyAt m' c = copyAt m c := by
  unfold copyAt
  rw [Memory.slice_congr h]

theorem copyAt_erasedByte (h : m (fsMetaAddr c) = erasedByte) : copyAt m c = none := by
  apply metaParse_erased
  change some (m (fsMetaAddr c)) = some erasedByte
  rw [h]

theorem inForce_none (hA : copyAt m 0 = none) (hB : copyAt m 1 = none) : inForce m = none := by
  unfold inForce
  rw [hA, hB]

theorem wp_fsMetaProgram (hvalid : RecordIsValid r) :
    (fsMetaProgram (fsMetaAddr c) r).wp internalFlash F
      (fun err m' => WriteExit F m c r (decide (err = .ok)) m') (Midway F m c r) m := by
  have hbodyLen : (r.bytes.take 16).length = 16 := by simp
  have htailLen : (r.bytes.drop 16).length = 8 := by simp
  have herased := Memory.erase_blank m (fsMetaAddr c) 2048
  unfold fsMetaProgram fsIfErasePage
  simp only [wp_bind]
  refine (wp_iflashErasePage (eraseAccepted_meta c)).mpr ⟨?_, ?_, ?_⟩
  · change wp internalFlash F _ _ (fsIfProgram _ _ >>= _) _
    unfold fsIfProgram
    simp only [wp_bind]
    refine (wp_iflashProgram (by rw [hbodyLen]; exact programAccepted_body c)
      (by rw [hbodyLen]; exact herased.sub (Nat.le_refl _) (by omega))).mpr ⟨?_, ?_, ?_⟩
    · change wp internalFlash F _ _ (fsIfProgram _ _ >>= _) (written m c r 16)
      unfold fsIfProgram
      simp only [wp_bind]
      have hrest : Memory.Blank (written m c r 16) (fsMetaAddr c + 16) 8 := by
        apply (herased.sub (k := 8) (b := fsMetaAddr c + 16) (by omega) (by omega)).congr
        exact Memory.program_outside (by rw [hbodyLen]; omega)
      refine (wp_iflashProgram (by rw [htailLen]; exact programAccepted_tail c)
        (by rw [htailLen]; exact hrest)).mpr ⟨?_, ?_, ?_⟩
      · have hall : (written m c r 16).program (fsMetaAddr c + 16) (r.bytes.drop 16) =
            written m c r 24 := by
          have hon := written_on m c r 8
          rw [List.take_of_length_le (by rw [htailLen])] at hon
          exact hon
        rw [hall]
        change wp internalFlash F _ _ (fsIfRead _ _ >>= _) (written m c r 24)
        unfold fsIfRead
        rw [wp_bind]
        refine (wp_iflashRead (by decide) (inFlash_meta c)).mpr ⟨?_, ?_, ?_⟩
        · rw [slice_written m c r (Nat.le_refl _), torn_all]
          have hparse : metaParse r.bytes ≠ none := by
            rw [metaParse_bytes hvalid]
            simp
          simp only
          rw [if_neg (by simp [hparse])]
          exact .done
        · intro n hn
          exact .readFailed n hn
        · intro n hn
          exact .programming 24 (by omega) (by omega)
      · intro n hn
        have hon := written_on m c r (min n 8)
        have htake : (r.bytes.drop 16).take n = (r.bytes.drop 16).take (min n 8) := by
          rw [← List.take_take, List.take_of_length_le (i := 8) (by simp)]
        change WriteExit F m c r false _
        rw [htake, hon]
        exact .tailFailed n hn
      · intro n hn
        have hon := written_on m c r (min n 8)
        have htake : (r.bytes.drop 16).take n = (r.bytes.drop 16).take (min n 8) := by
          rw [← List.take_take, List.take_of_length_le (i := 8) (by simp)]
        rw [htake, hon]
        exact .programming _ (by omega) (by omega)
    · intro n hn
      change WriteExit F m c r false ((m.erase _ 2048).program _ _)
      rw [List.take_take]
      exact .bodyFailed n hn
    · intro n hn
      rw [List.take_take]
      exact .interrupted (.inr hn)
  · intro n hn
    exact .eraseFailed n hn
  · intro n hn
    exact .erasing _ (Nat.min_le_right _ _)

theorem recordWriteOnce_eq (hvalid : RecordIsValid r) :
    recordWriteOnce (metaAddr c) r =
      fsMetaProgram (fsMetaAddr c) r >>= fun err => pure (decide (err = .ok)) := by
  have hparse : metaParse r.bytes ≠ none := by
    rw [metaParse_bytes hvalid]
    simp
  unfold recordWriteOnce fsMetaProgram fsIfErasePage fsIfProgram fsIfRead
  simp only [bind_assoc, pure_bind]
  congr 1
  funext erased
  cases erased with
  | false => rfl
  | true =>
      simp only [if_true, bind_assoc]
      congr 1
      funext body
      cases body with
      | false => rfl
      | true =>
          simp only [if_true, bind_assoc]
          congr 1
          funext tail
          cases tail with
          | false => rfl
          | true =>
              simp only [if_true, bind_assoc]
              congr 1
              funext back
              cases back with
              | none => rfl
              | some back =>
                  by_cases hback : back = r.bytes
                  · subst hback
                    simp [hparse]
                  · simp [hback]

theorem wp_recordWriteOnce (hvalid : RecordIsValid r) :
    (recordWriteOnce (metaAddr c) r).wp internalFlash F (WriteExit F m c r) (Midway F m c r) m := by
  rw [recordWriteOnce_eq hvalid]
  exact (wp_bind _ _).mpr (wp_fsMetaProgram hvalid)

end

-- flashes are compared by name from here on, not byte by byte
attribute [irreducible] written copyAt inForce targetOf

end EnvMonitor.Gateway.FirmwareStore
