import Mathlib.Data.List.Chain
import EnvMonitor.Device.Memory
import EnvMonitor.Gateway.CircularFlashLog.Format

/-!
# The records of a sector

What a data sector holds, as a list of records: complete records one behind the
other, with consecutive sequence numbers, and behind them bytes that do not
start with a plausible header.
-/

namespace EnvMonitor.Gateway.CircularFlashLog

open Device

/-- A record the log can write. -/
structure Rec where
  seq : Nat
  payload : List UInt8
  seq_lt : seq < 2 ^ 32
  payload_pos : 0 < payload.length
  payload_le : payload.length <= 4078
  deriving DecidableEq

namespace Rec

def hdr (r : Rec) : CflRecordHdr where
  magic := cflMagic
  seqNum := r.seq
  dataLen := r.payload.length

/-- Flash footprint. -/
def size (r : Rec) : Nat :=
  cflRecordSize r.payload.length

def crcBytes (r : Rec) : List UInt8 :=
  putLe 2 (cflRecordCrc r.hdr r.payload).toNat

def bytes (r : Rec) : List UInt8 :=
  cflHeaderBytes r.hdr ++ (r.payload ++ r.crcBytes)

theorem bytes_length (r : Rec) : r.bytes.length = r.payload.length + 14 := by
  simp [bytes, crcBytes, cflHeaderBytes_length]
  omega

end Rec

theorem cflRecordSize_eq (len : Nat) :
    cflRecordSize len = (12 + len + 2 + 3) / 4 * 4 := rfl

variable {len offset : Nat}

theorem cflRoomForRecord_iff : cflRoomForRecord offset ↔ offset + 16 <= 4096 := Iff.rfl

theorem cflRecordSize_bounds (len : Nat) :
    len + 14 <= cflRecordSize len ∧ cflRecordSize len <= len + 17 := by
  rw [cflRecordSize_eq]
  omega

theorem cflRecordSize_ge_min (h : 0 < len) : 16 <= cflRecordSize len := by
  rw [cflRecordSize_eq]
  omega

theorem cflRecordSize_max (h : len <= 4078) : cflRecordSize len <= 4096 := by
  rw [cflRecordSize_eq]
  omega

theorem Rec.size_ge (r : Rec) : 16 <= r.size :=
  cflRecordSize_ge_min r.payload_pos

theorem Rec.bytes_le_size (r : Rec) : r.bytes.length <= r.size := by
  rw [r.bytes_length]
  exact (cflRecordSize_bounds _).1

theorem Rec.plausible (r : Rec) (h : offset + r.size <= 4096) : cflHeaderPlausible r.hdr offset :=
  ⟨rfl, Nat.pos_iff_ne_zero.mp r.payload_pos, r.payload_le, h⟩

/-- Footprint of a list of records. -/
def sizes (rs : List Rec) : Nat :=
  (rs.map Rec.size).sum

@[simp] theorem sizes_nil : sizes [] = 0 := rfl

@[simp] theorem sizes_cons (r : Rec) (rs : List Rec) :
    sizes (r :: rs) = r.size + sizes rs := by
  simp [sizes]

@[simp] theorem sizes_append (rs ss : List Rec) :
    sizes (rs ++ ss) = sizes rs + sizes ss := by
  simp [sizes]

theorem length_le_sizes (rs : List Rec) : 16 * rs.length <= sizes rs := by
  induction rs with
  | nil => simp
  | cons r rs ih =>
      have := r.size_ge
      simp only [List.length_cons, sizes_cons]
      omega

/-- Sequence numbers count up by one, modulo the width of the counter. -/
def Consecutive (rs : List Rec) : Prop :=
  List.IsChain (fun r s => s.seq = u32 (r.seq + 1)) rs

/-- The record bytes are at `a`. -/
def RecAt (m : Memory) (a : Nat) (r : Rec) : Prop :=
  m.slice a r.bytes.length = r.bytes

/-- The records stand one behind the other from address `a` on. -/
def RecsAt (m : Memory) : Nat -> List Rec -> Prop
  | _, [] => True
  | a, r :: rs => RecAt m a r ∧ RecsAt m (a + r.size) rs

/-- The header bytes at `a`, parsed. -/
def headerAt (m : Memory) (a : Nat) : CflRecordHdr :=
  cflParseHeader (m.slice a 12)

/-- The sector at address `a` holds exactly the records `rs`. -/
structure SectorHolds (m : Memory) (a : Nat) (rs : List Rec) : Prop where
  recs : RecsAt m a rs
  fits : sizes rs <= 4096
  consecutive : Consecutive rs
  stops : cflRoomForRecord (sizes rs) ->
    ¬ cflHeaderPlausible (headerAt m (a + sizes rs)) (sizes rs)

/-!
## Reading a record back
-/

section

variable {m m' : Memory} {a : Nat} {r : Rec} {rs ss : List Rec}

theorem RecAt.header (h : RecAt m a r) : headerAt m a = r.hdr := by
  have hslice : m.slice a 12 = cflHeaderBytes r.hdr := by
    rw [Memory.slice_take m a (n := r.bytes.length) (by rw [r.bytes_length]; omega), h, Rec.bytes,
      List.take_append_of_le_length (by rw [cflHeaderBytes_length]),
      List.take_of_length_le (by rw [cflHeaderBytes_length])]
  have hseq := r.seq_lt
  have hlen := r.payload_le
  have hparse : cflParseHeader (cflHeaderBytes r.hdr ++ []) = r.hdr :=
    cflParseHeader_headerBytes (by show 0xBEEF5A5A < _; omega) hseq (by show r.payload.length < _; omega)
  rw [List.append_nil] at hparse
  unfold headerAt
  rw [hslice, hparse]

theorem RecAt.payload (h : RecAt m a r) :
    m.slice (a + 12) r.payload.length = r.payload := by
  have hle : 12 + r.payload.length <= r.bytes.length := by
    rw [r.bytes_length]
    omega
  have hdrop := Memory.slice_drop m a (n := r.bytes.length) (k := 12) (by omega)
  have hbytes : r.bytes.drop 12 = r.payload ++ r.crcBytes := by
    rw [Rec.bytes, List.drop_append_of_le_length (by rw [cflHeaderBytes_length]),
      List.drop_of_length_le (by rw [cflHeaderBytes_length]), List.nil_append]
  rw [h, hbytes] at hdrop
  rw [Memory.slice_take m (a + 12) (n := r.bytes.length - 12) (by omega), hdrop,
    List.take_append_of_le_length (Nat.le_refl _), List.take_length]

theorem RecAt.crc (h : RecAt m a r) :
    m.slice (a + 12 + r.payload.length) 2 = r.crcBytes := by
  have hdrop := Memory.slice_drop m a (n := r.bytes.length) (k := 12 + r.payload.length)
    (by rw [r.bytes_length]; omega)
  have hlen : r.bytes.length - (12 + r.payload.length) = 2 := by
    rw [r.bytes_length]
    omega
  rw [hlen, h, Rec.bytes, ← List.append_assoc, List.drop_append_of_le_length
    (by rw [List.length_append, cflHeaderBytes_length]),
    List.drop_of_length_le (by rw [List.length_append, cflHeaderBytes_length]),
    List.nil_append] at hdrop
  rw [Nat.add_assoc]
  exact hdrop

theorem RecsAt.append (hrs : RecsAt m a rs) (hss : RecsAt m (a + sizes rs) ss) :
    RecsAt m a (rs ++ ss) := by
  induction rs generalizing a with
  | nil => simpa using hss
  | cons r rs ih =>
      rw [sizes_cons, ← Nat.add_assoc] at hss
      exact ⟨hrs.1, ih hrs.2 hss⟩

theorem RecsAt.at (h : RecsAt m a (rs ++ r :: ss)) : RecAt m (a + sizes rs) r := by
  induction rs generalizing a with
  | nil => exact h.1
  | cons s rs ih =>
      rw [sizes_cons, ← Nat.add_assoc]
      exact ih h.2

theorem RecAt.congr (h : RecAt m a r) (hsame : Memory.SameOn m m' a r.size) :
    RecAt m' a r := by
  have hsub := hsame.sub (b := a) (k := r.bytes.length) (Nat.le_refl _)
    (by have := r.bytes_le_size; omega)
  unfold RecAt
  rw [Memory.slice_congr hsub]
  exact h

theorem RecsAt.congr (h : RecsAt m a rs)
    (hsame : Memory.SameOn m m' a (sizes rs)) : RecsAt m' a rs := by
  induction rs generalizing a with
  | nil => trivial
  | cons r rs ih =>
      rw [sizes_cons] at hsame
      exact ⟨h.1.congr (hsame.sub (Nat.le_refl _) (by omega)),
        ih h.2 (hsame.sub (by omega) (by omega))⟩

theorem headerAt_congr (hsame : Memory.SameOn m m' a 12) :
    headerAt m' a = headerAt m a := by
  unfold headerAt
  rw [Memory.slice_congr hsame]

end

/-!
## How a sector changes
-/

namespace SectorHolds

variable {m m' : Memory} {a : Nat} {r : Rec} {rs : List Rec}

theorem congr (h : SectorHolds m a rs) (hsame : Memory.SameOn m m' a 4096) :
    SectorHolds m' a rs where
  recs := h.recs.congr (hsame.sub (Nat.le_refl _) (by have := h.fits; omega))
  fits := h.fits
  consecutive := h.consecutive
  stops := by
    intro hroom
    have hend := cflRoomForRecord_iff.mp hroom
    rw [headerAt_congr (hsame.sub (by omega) (by omega))]
    exact h.stops hroom

theorem of_firstByte_erased (h : m a = erasedByte) : SectorHolds m a [] where
  recs := trivial
  fits := by simp
  consecutive := List.isChain_nil
  stops := by
    intro _
    exact not_plausible_of_firstByte_erased (Memory.slice_length _ _ _)
      (by show some (m a) = _; rw [h]; rfl)

/-- Whatever happened behind the records, as long as the last header byte there
is still erased. -/
theorem torn (h : SectorHolds m a rs)
    (hsame : Memory.SameOn m m' a (sizes rs))
    (hlast : cflRoomForRecord (sizes rs) -> m' (a + sizes rs + 11) = erasedByte) :
    SectorHolds m' a rs where
  recs := h.recs.congr hsame
  fits := h.fits
  consecutive := h.consecutive
  stops := by
    intro hroom
    apply not_plausible_of_lastByte_erased (Memory.slice_length _ _ _)
    have hsplit := Memory.slice_add m' (a + sizes rs) 11 1
    rw [hsplit]
    show (_ ++ [m' (a + sizes rs + 11)]).getLast? = _
    rw [List.getLast?_concat, hlast hroom]
    rfl

theorem extend (h : SectorHolds m a rs)
    (hsame : Memory.SameOn m m' a (sizes rs))
    (hrec : RecAt m' (a + sizes rs) r) (hfits : sizes rs + r.size <= 4096)
    (hseq : forall l, l ∈ rs.getLast? -> r.seq = u32 (l.seq + 1))
    (hlast : cflRoomForRecord (sizes rs + r.size) ->
      m' (a + (sizes rs + r.size)) = erasedByte) :
    SectorHolds m' a (rs ++ [r]) where
  recs := (h.recs.congr hsame).append ⟨hrec, trivial⟩
  fits := by simpa using hfits
  consecutive := by
    apply List.IsChain.append h.consecutive (List.isChain_singleton r)
    intro l hl s hs
    have hs' : r = s := by simpa using hs
    rw [← hs']
    exact hseq l hl
  stops := by
    intro hroom
    rw [sizes_append, sizes_cons, sizes_nil, Nat.add_zero] at hroom ⊢
    exact not_plausible_of_firstByte_erased (Memory.slice_length _ _ _)
      (by show some (m' (a + (sizes rs + r.size))) = _; rw [hlast hroom]; rfl)

theorem plausible_iff (h : SectorHolds m a rs) {pre post : List Rec}
    (hsplit : rs = pre ++ post) (hroom : cflRoomForRecord (sizes pre)) :
    cflHeaderPlausible (headerAt m (a + sizes pre)) (sizes pre) ↔ post ≠ [] := by
  cases post with
  | nil =>
      rw [List.append_nil] at hsplit
      subst hsplit
      simpa using h.stops hroom
  | cons r post =>
      subst hsplit
      have hrec := h.recs.at
      have hfits := h.fits
      rw [sizes_append, sizes_cons] at hfits
      rw [hrec.header]
      simpa using r.plausible (by omega)

end SectorHolds

end EnvMonitor.Gateway.CircularFlashLog
