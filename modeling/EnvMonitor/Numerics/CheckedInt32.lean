import Mathlib.Algebra.Order.Field.Basic
import Mathlib.Algebra.Order.Field.Rat
import Mathlib.Algebra.Order.Group.MinMax
import Mathlib.Algebra.Order.Ring.Abs
import Mathlib.Tactic.FieldSimp
import Mathlib.Tactic.Linarith
import Mathlib.Tactic.NormNum
import Mathlib.Tactic.Ring

/-!
# Signed 32-bit arithmetic

In C a signed operation is defined only when its exact result is in range.  The operations here give
no result otherwise.  Division truncates; the exact quotient is less than one away.
-/

namespace EnvMonitor.Numerics

def InInt32 (n : Int) : Prop := -2 ^ 31 ≤ n ∧ n < 2 ^ 31

instance (n : Int) : Decidable (InInt32 n) := inferInstanceAs (Decidable (_ ∧ _))

def int32 (n : Int) : Option Int := if InInt32 n then some n else none

def int32Add (a b : Int) : Option Int := int32 (a + b)

def int32Sub (a b : Int) : Option Int := int32 (a - b)

def int32Mul (a b : Int) : Option Int := int32 (a * b)

def int32Div (a b : Int) : Option Int := if b = 0 then none else int32 (a.tdiv b)

section Operations

variable {a b n : Int}

theorem int32_of_bounds (hlo : -2 ^ 31 ≤ n) (hhi : n < 2 ^ 31) : int32 n = some n :=
  if_pos ⟨hlo, hhi⟩

theorem int32Mul_eq (a b : Int) :
    int32Mul a b = if InInt32 (a * b) then some (a * b) else none := rfl

theorem int32_eq_none (h : ¬InInt32 n) : int32 n = none := if_neg h

theorem int32Mul_of_bounds {x y : Int} (ha : |a| ≤ x) (hb : |b| ≤ y) (hx : x * y < 2 ^ 31) :
    int32Mul a b = some (a * b) := by
  have hprod : |a * b| ≤ x * y := by
    rw [abs_mul]
    exact mul_le_mul ha hb (abs_nonneg b) (le_trans (abs_nonneg a) ha)
  have habs := abs_le.mp hprod
  exact int32_of_bounds (by omega) (by omega)

theorem abs_tdiv_le (a b : Int) : |a.tdiv b| ≤ |a| := by
  rw [Int.abs_eq_natAbs, Int.abs_eq_natAbs, Int.natAbs_tdiv]
  exact_mod_cast Nat.div_le_self _ _

theorem int32Div_of_bounds (hb : b ≠ 0) (ha : |a| < 2 ^ 31) :
    int32Div a b = some (a.tdiv b) := by
  have habs := abs_le.mp (abs_tdiv_le a b)
  unfold int32Div
  rw [if_neg hb]
  exact int32_of_bounds (by omega) (by omega)

theorem abs_tdiv_mul_le {m : Int} (ha : InInt32 a) (hm : 2 ≤ m) (hb : b ≠ 0) :
    |a.tdiv (m * b)| ≤ 2 ^ 30 := by
  have hfactor : 2 ≤ (m * b).natAbs := by
    rw [Int.natAbs_mul]
    exact le_trans (by omega) (Nat.le_mul_of_pos_right m.natAbs (Int.natAbs_pos.mpr hb))
  have hquot : a.natAbs / (m * b).natAbs ≤ a.natAbs / 2 := Nat.div_le_div_left hfactor (by decide)
  have hhalf : a.natAbs / 2 ≤ 2 ^ 30 := by
    rcases ha with ⟨hlo, hhi⟩
    omega
  rw [Int.abs_eq_natAbs, Int.natAbs_tdiv]
  exact_mod_cast le_trans hquot hhalf

theorem int32Div_mul_of_inInt32 {m : Int} (ha : InInt32 a) (hm : 2 ≤ m) (hb : b ≠ 0) :
    int32Div a (m * b) = some (a.tdiv (m * b)) := by
  have habs := abs_le.mp (abs_tdiv_mul_le ha hm hb)
  have hne : m * b ≠ 0 := mul_ne_zero (by omega) hb
  unfold int32Div
  rw [if_neg hne]
  exact int32_of_bounds (by omega) (by omega)

end Operations

theorem abs_tdiv_sub_lt {a b : Int} (hb : b ≠ 0) : |((a.tdiv b : Int) : ℚ) - a / b| < 1 := by
  have hb' : (b : ℚ) ≠ 0 := Int.cast_ne_zero.mpr hb
  have hsplit : ((a.tdiv b : Int) : ℚ) - a / b = -((a.tmod b : Int) : ℚ) / b := by
    have hmod : (a : ℚ) = ((a.tmod b : Int) : ℚ) + b * ((a.tdiv b : Int) : ℚ) := by
      exact_mod_cast (Int.tmod_add_mul_tdiv a b).symm
    field_simp
    linarith
  have hlt : |a.tmod b| < |b| := by
    rw [Int.abs_eq_natAbs, Int.abs_eq_natAbs, Int.natAbs_tmod]
    exact_mod_cast Nat.mod_lt _ (Int.natAbs_pos.mpr hb)
  rw [hsplit, abs_div, abs_neg, div_lt_one (abs_pos.mpr hb')]
  exact_mod_cast hlt

theorem abs_tdiv_add_sub_lt {a b n : Int} {x : ℚ} (hb : b ≠ 0) (hn : |(n : ℚ) - x| < 1) :
    |((a.tdiv b + n : Int) : ℚ) - (a / b + x)| < 2 := by
  have hsplit : ((a.tdiv b + n : Int) : ℚ) - (a / b + x) =
      (((a.tdiv b : Int) : ℚ) - a / b) + (n - x) := by
    push_cast
    ring
  have hsum := abs_add_le (((a.tdiv b : Int) : ℚ) - a / b) (n - x)
  have hquotient := abs_tdiv_sub_lt (a := a) hb
  rw [hsplit]
  linarith

/-!
## Interpolation
-/

/-- A value that belongs to an output. -/
structure Point where
  raw : Int
  value : ℚ

/-- The straight line through two points; one that has no slope stays at the first. -/
def line (p q : Point) (raw : Int) : ℚ :=
  if q.raw = p.raw then p.value
  else p.value + (q.value - p.value) * (raw - p.raw) / (q.raw - p.raw)

theorem abs_limit_sub_limit_le (lo hi a b : ℚ) :
    |max lo (min hi a) - max lo (min hi b)| ≤ |a - b| := by
  have hmin : |min hi a - min hi b| ≤ |a - b| := by
    have hboth := abs_min_sub_min_le_max hi a hi b
    rw [sub_self, abs_zero, max_eq_right (abs_nonneg _)] at hboth
    exact hboth
  rw [max_comm lo, max_comm lo]
  exact le_trans (abs_max_sub_max_le_abs _ _ _) hmin

end EnvMonitor.Numerics
