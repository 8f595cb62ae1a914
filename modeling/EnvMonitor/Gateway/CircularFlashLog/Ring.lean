import EnvMonitor.Gateway.CircularFlashLog.Log
import EnvMonitor.Gateway.CircularFlashLog.Sector

/-!
# The ring seen as records

The contents of the partition: the records of each data sector and the head
pointer of each metadata slot.  The lemmas say how the contents change when one
sector of the flash changes.
-/

namespace EnvMonitor.Gateway.CircularFlashLog

open Device Drivers

/-- Records of the data sectors, and sequence number and head sector of the
metadata slots that are valid. -/
structure Ring where
  recs : Nat -> List Rec
  slot : Nat -> Option (Nat × Nat)

namespace Ring

/-- The ring of an erased partition. -/
def erased : Ring where
  recs := fun _ => []
  slot := fun _ => none

def setRecs (R : Ring) (i : Nat) (rs : List Rec) : Ring :=
  { R with recs := fun j => if j = i then rs else R.recs j }

def setSlot (R : Ring) (s : Nat) (x : Option (Nat × Nat)) : Ring :=
  { R with slot := fun t => if t = s then x else R.slot t }

variable {R : Ring} {i j s t : Nat} {rs ss : List Rec} {x y : Option (Nat × Nat)}

@[simp] theorem setRecs_same : (R.setRecs i rs).recs i = rs := by
  simp [setRecs]

theorem setRecs_other (h : j ≠ i) : (R.setRecs i rs).recs j = R.recs j := by
  simp [setRecs, h]

@[simp] theorem setSlot_same : (R.setSlot s x).slot s = x := by
  simp [setSlot]

theorem setSlot_other (h : t ≠ s) : (R.setSlot s x).slot t = R.slot t := by
  simp [setSlot, h]

@[simp] theorem setRecs_self : R.setRecs i (R.recs i) = R := by
  have hrecs : (fun j => if j = i then R.recs i else R.recs j) = R.recs := by
    funext j
    by_cases h : j = i
    · rw [if_pos h, h]
    · rw [if_neg h]
  simp only [setRecs, hrecs]

@[simp] theorem setSlot_self : R.setSlot s (R.slot s) = R := by
  have hslot : (fun t => if t = s then R.slot s else R.slot t) = R.slot := by
    funext t
    by_cases h : t = s
    · rw [if_pos h, h]
    · rw [if_neg h]
  simp only [setSlot, hslot]

@[simp] theorem setRecs_setRecs :
    (R.setRecs i rs).setRecs i ss = R.setRecs i ss := by
  have hrecs : (fun j => if j = i then ss else (R.setRecs i rs).recs j) =
      fun j => if j = i then ss else R.recs j := by
    funext j
    by_cases h : j = i
    · rw [if_pos h, if_pos h]
    · rw [if_neg h, if_neg h, setRecs_other h]
  simp only [setRecs] at hrecs ⊢
  rw [hrecs]

end Ring

/-- `k` sectors of the ring from `h` on. -/
def ringFrom : Nat -> Nat -> List Nat
  | _, 0 => []
  | h, k + 1 => h :: ringFrom (cflNextSector h) k

/-- The records of these sectors. -/
def joined (R : Ring) (h k : Nat) : List Rec :=
  (ringFrom h k).flatMap R.recs

/-- The flash holds the records and head pointers of the ring. -/
structure Holds (m : Memory) (R : Ring) : Prop where
  sectors : forall i, i < 254 -> SectorHolds m (cflDataSectorAddr i) (R.recs i)
  slots : forall s, s < 2 -> cflMetaParse (m.slice (cflMetaSlotAddr s) 16) = R.slot s

theorem cflDataSectorAddr_eq (i : Nat) :
    cflDataSectorAddr i = 131072 + (2 + i) * 4096 := rfl

theorem cflMetaSlotAddr_eq (s : Nat) :
    cflMetaSlotAddr s = 131072 + s * 4096 := rfl

theorem cflNextSector_eq (i : Nat) : cflNextSector i = (i + 1) % 254 := rfl

theorem cflNextSector_lt (i : Nat) : cflNextSector i < 254 := by
  rw [cflNextSector_eq]
  omega

/-!
## Runs of sectors
-/

variable {h head j k seq : Nat} {raw : List UInt8}

theorem ringFrom_snoc (hlt : h < 254) (k : Nat) :
    ringFrom h (k + 1) = ringFrom h k ++ [(h + k) % 254] := by
  induction k generalizing h with
  | zero =>
      show [h] = [(h + 0) % 254]
      rw [Nat.add_zero, Nat.mod_eq_of_lt hlt]
  | succ k ih =>
      show h :: ringFrom (cflNextSector h) (k + 1) = (h :: ringFrom (cflNextSector h) k) ++ _
      rw [ih (cflNextSector_lt h), cflNextSector_eq, List.cons_append]
      congr 3
      omega

theorem mem_ringFrom (hlt : h < 254) : j ∈ ringFrom h k ↔ exists i, i < k ∧ j = (h + i) % 254 := by
  induction k with
  | zero => simp [ringFrom]
  | succ k ih =>
      rw [ringFrom_snoc hlt, List.mem_append, ih, List.mem_singleton]
      constructor
      · rintro (⟨i, hi, rfl⟩ | rfl)
        · exact ⟨i, by omega, rfl⟩
        · exact ⟨k, by omega, rfl⟩
      · rintro ⟨i, hi, rfl⟩
        by_cases hik : i = k
        · exact .inr (by rw [hik])
        · exact .inl ⟨i, by omega, rfl⟩

theorem ringFrom_lt (hlt : h < 254) (hj : j ∈ ringFrom h k) : j < 254 := by
  obtain ⟨i, _, rfl⟩ := (mem_ringFrom hlt).mp hj
  omega

theorem joined_snoc (R : Ring) (hlt : h < 254) (k : Nat) :
    joined R h (k + 1) = joined R h k ++ R.recs ((h + k) % 254) := by
  unfold joined
  rw [ringFrom_snoc hlt, List.flatMap_append, List.flatMap_singleton]

theorem joined_succ (R : Ring) (h k : Nat) :
    joined R h (k + 1) = R.recs h ++ joined R (cflNextSector h) k := by
  rfl

theorem joined_congr {R R' : Ring} (hsame : forall j, j ∈ ringFrom h k -> R'.recs j = R.recs j) :
    joined R' h k = joined R h k := by
  unfold joined
  exact List.flatMap_congr hsame

section

variable {m m' : Memory} {R : Ring} {i s : Nat} {rs : List Rec}

theorem sameOn_otherSector {j : Nat} (hne : j ≠ i)
    (hsame : Memory.SameOutside m m' (cflDataSectorAddr i) 4096) :
    Memory.SameOn m m' (cflDataSectorAddr j) 4096 := by
  apply hsame.sameOn
  rw [cflDataSectorAddr_eq, cflDataSectorAddr_eq]
  omega

theorem sameOn_slot (hs : s < 2)
    (hsame : Memory.SameOutside m m' (cflDataSectorAddr i) 4096) :
    Memory.SameOn m m' (cflMetaSlotAddr s) 4096 := by
  apply hsame.sameOn
  rw [cflDataSectorAddr_eq, cflMetaSlotAddr_eq]
  omega

theorem sameOn_otherSlot {t : Nat} (hne : t ≠ s)
    (hsame : Memory.SameOutside m m' (cflMetaSlotAddr s) 4096) :
    Memory.SameOn m m' (cflMetaSlotAddr t) 4096 := by
  apply hsame.sameOn
  rw [cflMetaSlotAddr_eq, cflMetaSlotAddr_eq]
  omega

theorem sameOn_sector (hs : s < 2)
    (hsame : Memory.SameOutside m m' (cflMetaSlotAddr s) 4096) (i : Nat) :
    Memory.SameOn m m' (cflDataSectorAddr i) 4096 := by
  apply hsame.sameOn
  rw [cflDataSectorAddr_eq, cflMetaSlotAddr_eq]
  omega

theorem Holds.setRecs (h : Holds m R)
    (hsame : Memory.SameOutside m m' (cflDataSectorAddr i) 4096)
    (hsector : SectorHolds m' (cflDataSectorAddr i) rs) :
    Holds m' (R.setRecs i rs) where
  sectors := by
    intro j hj
    by_cases hji : j = i
    · rw [hji, Ring.setRecs_same]
      exact hsector
    · rw [Ring.setRecs_other hji]
      exact (h.sectors j hj).congr (sameOn_otherSector hji hsame)
  slots := by
    intro s hs
    rw [Memory.slice_congr ((sameOn_slot hs hsame).sub (Nat.le_refl _) (by omega))]
    exact h.slots s hs

theorem Holds.setSlot (h : Holds m R) (hs : s < 2)
    (hsame : Memory.SameOutside m m' (cflMetaSlotAddr s) 4096) :
    Holds m' (R.setSlot s (cflMetaParse (m'.slice (cflMetaSlotAddr s) 16))) where
  sectors := fun i hi => (h.sectors i hi).congr (sameOn_sector hs hsame i)
  slots := by
    intro t ht
    by_cases hts : t = s
    · rw [hts, Ring.setSlot_same]
    · rw [Ring.setSlot_other hts,
        Memory.slice_congr ((sameOn_otherSlot hts hsame).sub (Nat.le_refl _) (by omega))]
      exact h.slots t ht

theorem Holds.sizes_joined (h : Holds m R) {first : Nat} (hlt : first < 254) (k : Nat) :
    sizes (joined R first k) <= 4096 * k := by
  induction k with
  | zero => simp [joined, ringFrom]
  | succ k ih =>
      rw [joined_snoc R hlt, sizes_append]
      have := (h.sectors ((first + k) % 254) (by omega)).fits
      omega

end

/-!
## Metadata slots
-/

theorem cflMetaBody_length (seq head : Nat) : (cflMetaBody seq head).length = 12 := by
  simp [cflMetaBody]

theorem cflMetaBytes_length (seq head : Nat) :
    (cflMetaBytes seq head).length = 16 := by
  simp [cflMetaBytes, cflMetaBody_length]

theorem cflMetaParse_of_firstByte_erased (hfirst : raw.head? = some 0xFF) :
    cflMetaParse raw = none := by
  cases raw with
  | nil => simp at hfirst
  | cons b raw =>
      have hb : b = 0xFF := by simpa using hfirst
      subst hb
      have hmagic : fieldAt (0xFF :: raw) 0 4 = 255 + 256 * getLe (raw.take 3) := rfl
      unfold cflMetaParse
      rw [if_pos]
      rw [hmagic]
      simp only [cflMetaMagic]
      omega

/-- A slot whose body is complete either passes the checks with that body's
numbers or fails them. -/
theorem cflMetaParse_of_body (hbody : raw.take 12 = cflMetaBody seq head) (hseq : seq < 2 ^ 32)
    (hhead : head < 254) : cflMetaParse raw = none ∨ cflMetaParse raw = some (seq, head) := by
  have hraw : raw = cflMetaBody seq head ++ raw.drop 12 := by
    rw [← hbody, List.take_append_drop]
  have hseqField : fieldAt raw 4 4 = seq := by
    rw [hraw, cflMetaBody, List.append_assoc, fieldAt_append_right (by simp),
      List.append_assoc]
    simpa using fieldAt_putLe (w := 4) (by omega)
  have hheadField : fieldAt raw 8 4 = head := by
    rw [hraw, cflMetaBody, List.append_assoc, fieldAt_append_right (by simp),
      List.append_assoc, fieldAt_append_right (by simp)]
    simpa using fieldAt_putLe (w := 4) (by omega)
  unfold cflMetaParse
  rw [hseqField, hheadField]
  split
  · exact .inl rfl
  · split
    · exact .inl rfl
    · split
      · exact .inl rfl
      · exact .inr rfl

theorem cflMetaParse_bytes (hseq : seq < 2 ^ 32) (hhead : head < 254) :
    cflMetaParse (cflMetaBytes seq head) = some (seq, head) := by
  have hbody : (cflMetaBytes seq head).take 12 = cflMetaBody seq head := by
    rw [cflMetaBytes, List.take_append_of_le_length (by rw [cflMetaBody_length]),
      List.take_of_length_le (by rw [cflMetaBody_length])]
  have hmagic : fieldAt (cflMetaBytes seq head) 0 4 = cflMetaMagic := by
    rw [cflMetaBytes, cflMetaBody, List.append_assoc]
    exact fieldAt_putLe (by simp only [cflMetaMagic]; omega)
  have hcrc : fieldAt (cflMetaBytes seq head) 12 4 =
      (cflCrc32 (cflMetaBody seq head)).toNat := by
    rw [cflMetaBytes, fieldAt_append_right (by rw [cflMetaBody_length]), cflMetaBody_length]
    have hfield : fieldAt (putLe 4 (cflCrc32 (cflMetaBody seq head)).toNat ++ []) 0 4 =
        (cflCrc32 (cflMetaBody seq head)).toNat :=
      fieldAt_putLe (cflCrc32 (cflMetaBody seq head)).toNat_lt
    simpa using hfield
  have hheadField : fieldAt (cflMetaBytes seq head) 8 4 = head := by
    rw [cflMetaBytes, cflMetaBody, List.append_assoc, fieldAt_append_right (by simp),
      List.append_assoc, fieldAt_append_right (by simp)]
    simpa using fieldAt_putLe (w := 4) (by omega)
  have hseqField : fieldAt (cflMetaBytes seq head) 4 4 = seq := by
    rw [cflMetaBytes, cflMetaBody, List.append_assoc, fieldAt_append_right (by simp),
      List.append_assoc]
    simpa using fieldAt_putLe (w := 4) (by omega)
  unfold cflMetaParse
  rw [if_neg (by rw [hmagic]; simp), if_neg (by rw [hbody]; simpa using hcrc),
    if_neg (by rw [hheadField]; simp only [cflDataSectorCount]; omega), hheadField, hseqField]

theorem cflMetaParse_bounds (h : cflMetaParse raw = some (seq, head)) :
    seq < 2 ^ 32 ∧ head < 254 := by
  unfold cflMetaParse at h
  split at h
  · cases h
  · split at h
    · cases h
    · split at h
      · cases h
      · rename_i hhead
        simp only [cflDataSectorCount] at hhead
        cases h
        constructor
        · have hlt := getLe_lt ((raw.drop 4).take 4)
          have hle : 256 ^ ((raw.drop 4).take 4).length <= 256 ^ 4 :=
            Nat.pow_le_pow_right (by omega) (by rw [List.length_take]; omega)
          have hpow : (256 : Nat) ^ 4 = 2 ^ 32 := by norm_num
          unfold fieldAt
          omega
        · omega

theorem cflMetaParse_of_head_erased (hlen : raw.length = 16) (hbyte : raw[11]? = some 0xFF) :
    cflMetaParse raw = none := by
  obtain ⟨hbound, hval⟩ := List.getElem?_eq_some_iff.mp hbyte
  have hfield : (raw.drop 8).take 4 = [raw[8], raw[9], raw[10], raw[11]] := by
    rw [List.drop_eq_getElem_cons (by omega), List.drop_eq_getElem_cons (by omega),
      List.drop_eq_getElem_cons (by omega), List.drop_eq_getElem_cons (by omega)]
    rfl
  have hhead : fieldAt raw 8 4 = getLe [raw[8], raw[9], raw[10], raw[11]] := by
    unfold fieldAt
    rw [hfield]
  have hge : fieldAt raw 8 4 >= cflDataSectorCount := by
    rw [hhead, hval]
    simp only [getLe, cflDataSectorCount]
    have : (0xFF : UInt8).toNat = 255 := rfl
    omega
  unfold cflMetaParse
  split
  · rfl
  · split
    · rfl
    · rfl

end EnvMonitor.Gateway.CircularFlashLog
