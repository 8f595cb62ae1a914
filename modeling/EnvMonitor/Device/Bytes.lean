import Mathlib.Data.List.Basic
import Mathlib.Tactic.Common
import Mathlib.Tactic.Ring

/-!
# Little-endian numbers
-/

namespace EnvMonitor.Device

/-- The `w` low bytes of `v`, least significant first. -/
def putLe : Nat -> Nat -> List UInt8
  | 0, _ => []
  | w + 1, v => UInt8.ofNat v :: putLe w (v / 256)

/-- The number a byte string spells, least significant byte first. -/
def getLe : List UInt8 -> Nat
  | [] => 0
  | b :: bs => b.toNat + 256 * getLe bs

@[simp] theorem putLe_length (w v : Nat) : (putLe w v).length = w := by
  induction w generalizing v with
  | zero => rfl
  | succ w ih => simp [putLe, ih]

theorem getLe_append (xs ys : List UInt8) :
    getLe (xs ++ ys) = getLe xs + 256 ^ xs.length * getLe ys := by
  induction xs with
  | nil => simp [getLe]
  | cons x xs ih =>
      show x.toNat + 256 * getLe (xs ++ ys) = x.toNat + 256 * getLe xs + _
      rw [ih, List.length_cons, Nat.pow_succ]
      ring

theorem getLe_lt (xs : List UInt8) : getLe xs < 256 ^ xs.length := by
  induction xs with
  | nil => simp [getLe]
  | cons x xs ih =>
      have hx : x.toNat < 256 := x.toNat_lt
      rw [List.length_cons, Nat.pow_succ]
      show x.toNat + 256 * getLe xs < _
      omega

theorem getLe_putLe (w v : Nat) : getLe (putLe w v) = v % 256 ^ w := by
  induction w generalizing v with
  | zero => simp [putLe, getLe, Nat.mod_one]
  | succ w ih =>
      show (UInt8.ofNat v).toNat + 256 * getLe (putLe w (v / 256)) = _
      rw [ih, UInt8.toNat_ofNat', show 256 ^ (w + 1) = 256 * 256 ^ w by ring, Nat.mod_mul]

variable {i v w : Nat} {xs ys : List UInt8}

theorem getLe_putLe_of_lt (h : v < 256 ^ w) : getLe (putLe w v) = v := by
  rw [getLe_putLe, Nat.mod_eq_of_lt h]

theorem putLe_getLe (xs : List UInt8) : putLe xs.length (getLe xs) = xs := by
  induction xs with
  | nil => rfl
  | cons x xs ih =>
      have hx : x.toNat < 256 := x.toNat_lt
      change UInt8.ofNat (x.toNat + 256 * getLe xs) ::
        putLe xs.length ((x.toNat + 256 * getLe xs) / 256) = _
      have hdiv : (x.toNat + 256 * getLe xs) / 256 = getLe xs := by omega
      have hbyte : UInt8.ofNat (x.toNat + 256 * getLe xs) = x := by
        apply UInt8.toNat_inj.mp
        rw [UInt8.toNat_ofNat']
        omega
      rw [hdiv, hbyte, ih]

/-- A field of `w` bytes at offset `i` of a record. -/
def fieldAt (raw : List UInt8) (i w : Nat) : Nat :=
  getLe ((raw.drop i).take w)

theorem fieldAt_append_left (h : i + w <= xs.length) : fieldAt (xs ++ ys) i w = fieldAt xs i w := by
  unfold fieldAt
  rw [List.drop_append_of_le_length (by omega),
    List.take_append_of_le_length (by rw [List.length_drop]; omega)]

theorem fieldAt_append_right (h : xs.length <= i) :
    fieldAt (xs ++ ys) i w = fieldAt ys (i - xs.length) w := by
  unfold fieldAt
  rw [List.drop_append, List.drop_of_length_le h, List.nil_append]

theorem fieldAt_putLe (h : v < 256 ^ w) : fieldAt (putLe w v ++ ys) 0 w = v := by
  rw [fieldAt_append_left (by simp)]
  unfold fieldAt
  rw [List.drop_zero, List.take_of_length_le (by simp), getLe_putLe_of_lt h]

end EnvMonitor.Device
