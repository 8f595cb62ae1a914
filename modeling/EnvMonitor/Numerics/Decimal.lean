import EnvMonitor.Numerics.Strtol
import Mathlib.Data.Nat.Digits.Lemmas
import Mathlib.Tactic.Ring

/-!
# Printed numbers

The digits that `printf` writes for a number, and what `digitsValue` makes of them.
-/

namespace EnvMonitor.Numerics

def digitChar (d : Nat) : UInt8 := UInt8.ofNat (48 + d)

/-- `%lu` -/
def decimal (n : Nat) : List UInt8 :=
  if n = 0 then [digitChar 0] else (Nat.digits 10 n).reverse.map digitChar

/-- `%ld` -/
def decimalInt (n : Int) : List UInt8 :=
  if n < 0 then 0x2D :: decimal n.natAbs else decimal n.natAbs

/-!
## Digit strings
-/

theorem digitsValue_concat (digits : List UInt8) (c : UInt8) :
    digitsValue (digits ++ [c]) = 10 * digitsValue digits + (c.toNat - 0x30) := by
  unfold digitsValue
  rw [List.foldl_append]
  rfl

variable {c : UInt8} {d n width : Nat}

theorem isdigit_iff : isdigit c = true ↔ 0x30 ≤ c.toNat ∧ c.toNat ≤ 0x39 := by
  unfold isdigit
  rw [Bool.and_eq_true, decide_eq_true_iff, decide_eq_true_iff, UInt8.le_iff_toNat_le,
    UInt8.le_iff_toNat_le]
  rfl

/-!
## Printing
-/

theorem digitChar_toNat (h : d < 10) : (digitChar d).toNat = 48 + d := by
  unfold digitChar
  rw [UInt8.toNat_ofNat']
  exact Nat.mod_eq_of_lt (by omega)

theorem isdigit_digitChar (h : d < 10) : isdigit (digitChar d) = true := by
  rw [isdigit_iff, digitChar_toNat h]
  omega

theorem digitsValue_digits {ds : List Nat} (h : forall d, d ∈ ds -> d < 10) :
    digitsValue (ds.reverse.map digitChar) = Nat.ofDigits 10 ds := by
  induction ds with
  | nil => rfl
  | cons d ds ih =>
      rw [List.reverse_cons, List.map_append, List.map_singleton, digitsValue_concat,
        ih fun x hx => h x (List.mem_cons_of_mem d hx), digitChar_toNat (h d List.mem_cons_self),
        Nat.ofDigits_cons, Nat.add_sub_cancel_left]
      exact Nat.add_comm _ _

theorem digitsValue_decimal (n : Nat) : digitsValue (decimal n) = n := by
  unfold decimal
  by_cases hzero : n = 0
  · rw [if_pos hzero, hzero]
    rfl
  · rw [if_neg hzero, digitsValue_digits fun d hd => Nat.digits_lt_base (by decide) hd,
      Nat.ofDigits_digits]

theorem isdigit_of_mem_decimal (h : c ∈ decimal n) : isdigit c = true := by
  unfold decimal at h
  by_cases hzero : n = 0
  · rw [if_pos hzero] at h
    rw [List.mem_singleton.mp h]
    exact isdigit_digitChar (by decide)
  · rw [if_neg hzero] at h
    rcases List.mem_map.mp h with ⟨d, hd, hc⟩
    rw [← hc]
    exact isdigit_digitChar (Nat.digits_lt_base (by decide) (List.mem_reverse.mp hd))

theorem decimal_ne_nil (n : Nat) : decimal n ≠ [] := by
  unfold decimal
  by_cases hzero : n = 0
  · rw [if_pos hzero]
    exact List.cons_ne_nil _ _
  · rw [if_neg hzero]
    intro h
    rw [List.map_eq_nil_iff, List.reverse_eq_nil_iff] at h
    exact Nat.digits_ne_nil_iff_ne_zero.mpr hzero h

theorem decimal_length_le {k : Nat} (hk : 0 < k) (h : n < 10 ^ k) : (decimal n).length ≤ k := by
  unfold decimal
  by_cases hzero : n = 0
  · rw [if_pos hzero]
    exact hk
  · rw [if_neg hzero, List.length_map, List.length_reverse]
    exact (Nat.digits_length_le_iff (by decide) n).mpr h

end EnvMonitor.Numerics
