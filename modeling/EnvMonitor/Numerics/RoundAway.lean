import EnvMonitor.Numerics.Orbit

/-!
# Rounding half away from zero

An integer division that rounds to the nearest integer, halves away from zero, and the weighted
mean of an input and a state that is rounded so.
-/

namespace EnvMonitor.Numerics

/-- Integer division rounded half away from zero; `tdiv` truncates towards zero. -/
def roundAway (n d : Int) : Int :=
  (n + if 0 ≤ n then d.tdiv 2 else -(d.tdiv 2)).tdiv d

section Rounding

variable {n n' d h q p e : Int}

theorem tdiv_eq_iff_of_nonneg (hd : 0 < d) (hn : 0 ≤ n) :
    n.tdiv d = q <-> d * q ≤ n ∧ n < d * q + d := by
  rw [Int.tdiv_eq_ediv_of_nonneg hn, Int.ediv_eq_iff_of_pos hd, Int.mul_comm q d]

theorem roundAway_of_nonneg (hd : d = 2 * h) (hh : 0 < h) (hn : 0 ≤ n) :
    roundAway n d = q <-> d * q ≤ n + h ∧ n + h < d * q + d := by
  have hhalf : d.tdiv 2 = h := by
    rw [hd, Int.mul_tdiv_cancel_left h (by decide)]
  unfold roundAway
  rw [if_pos hn, hhalf]
  exact tdiv_eq_iff_of_nonneg (by omega) (by omega)

theorem roundAway_neg (hn : n ≠ 0) (d : Int) : roundAway (-n) d = -roundAway n d := by
  have hsum : (-n + if 0 ≤ -n then d.tdiv 2 else -(d.tdiv 2)) =
      -(n + if 0 ≤ n then d.tdiv 2 else -(d.tdiv 2)) := by
    split <;> split <;> omega
  unfold roundAway
  rw [hsum, Int.neg_tdiv]

theorem roundAway_zero (hd : d = 2 * h) (hh : 0 < h) : roundAway 0 d = 0 := by
  rw [roundAway_of_nonneg hd hh (by decide)]
  omega

theorem roundAway_odd (hd : d = 2 * h) (hh : 0 < h) (n : Int) :
    roundAway (-n) d = -roundAway n d := by
  by_cases hn : n = 0
  · rw [hn, Int.neg_zero, roundAway_zero hd hh, Int.neg_zero]
  · exact roundAway_neg hn d

theorem roundAway_eq_iff (hd : d = 2 * h) (hh : 0 < h) :
    roundAway n d = q <->
      (0 ≤ n ∧ d * q ≤ n + h ∧ n + h < d * q + d) ∨
        (n < 0 ∧ d * q - d < n - h ∧ n - h ≤ d * q) := by
  by_cases hn : 0 ≤ n
  · rw [roundAway_of_nonneg hd hh hn]
    omega
  · have hneg : roundAway n d = q <-> roundAway (-n) d = -q := by
      rw [roundAway_odd hd hh]
      omega
    rw [hneg, roundAway_of_nonneg hd hh (by omega), Int.mul_neg]
    omega

theorem roundAway_mono (hd : d = 2 * h) (hh : 0 < h) (hle : n ≤ n') :
    roundAway n d ≤ roundAway n' d := by
  have hn := (roundAway_eq_iff (n := n) hd hh).mp rfl
  have hn' := (roundAway_eq_iff (n := n') hd hh).mp rfl
  by_contra hlt
  have hprod : d * (roundAway n' d + 1) ≤ d * roundAway n d :=
    Int.mul_le_mul_of_nonneg_left (by omega) (by omega)
  rw [Int.mul_add, Int.mul_one] at hprod
  omega

theorem roundAway_mul (hd : d = 2 * h) (hh : 0 < h) (q : Int) : roundAway (d * q) d = q := by
  rw [roundAway_eq_iff hd hh]
  omega

theorem roundAway_add_eq_iff (hd : d = 2 * h) (hh : 0 < h) :
    roundAway (d * p + e) d = p <->
      (-h < e ∧ e < h) ∨ (e = -h ∧ 0 < p) ∨ (e = h ∧ p < 0) := by
  rw [roundAway_eq_iff hd hh]
  have hsign : (0 < p -> d ≤ d * p) ∧ (p < 0 -> d * p ≤ -d) ∧ (p = 0 -> d * p = 0) := by
    refine ⟨fun hp => ?_, fun hp => ?_, fun hp => by rw [hp, Int.mul_zero]⟩
    · have hprod := Int.mul_le_mul_of_nonneg_left (c := d) (show 1 ≤ p by omega) (by omega)
      omega
    · have hprod := Int.mul_le_mul_of_nonneg_left (c := d) (show p ≤ -1 by omega) (by omega)
      omega
  omega

end Rounding

/-!
## The weighted mean
-/

/-- A new state: `num` parts of the input, `den - num` parts of the state. -/
def smooth (num den input state : Int) : Int :=
  roundAway (num * input + (den - num) * state) den

section Smooth

variable {num den h t p q : Int}

theorem smooth_sum (num den t p : Int) :
    num * t + (den - num) * p = den * p + num * (t - p) := by
  rw [Int.sub_mul, Int.mul_sub]
  omega

theorem smooth_mono (hden : den = 2 * h) (hh : 0 < h) (hnum : num ≤ den) (t : Int) :
    Monotone (smooth num den t) := by
  intro p q hle
  apply roundAway_mono hden hh
  have hprod : (den - num) * p ≤ (den - num) * q :=
    Int.mul_le_mul_of_nonneg_left hle (by omega)
  omega

theorem smooth_input (hden : den = 2 * h) (hh : 0 < h) (num t : Int) :
    smooth num den t t = t := by
  unfold smooth
  rw [smooth_sum, Int.sub_self, Int.mul_zero, Int.add_zero]
  exact roundAway_mul hden hh t

theorem smooth_odd (hden : den = 2 * h) (hh : 0 < h) (num t p : Int) :
    smooth num den (-t) (-p) = -smooth num den t p := by
  unfold smooth
  rw [← roundAway_odd hden hh, Int.mul_neg, Int.mul_neg, Int.neg_add]

theorem smooth_fixed_iff (hden : den = 2 * h) (hh : 0 < h) :
    smooth num den t p = p <->
      (-h < num * (t - p) ∧ num * (t - p) < h) ∨ (num * (t - p) = -h ∧ 0 < p) ∨
        (num * (t - p) = h ∧ p < 0) := by
  unfold smooth
  rw [smooth_sum]
  exact roundAway_add_eq_iff hden hh

theorem smooth_from_above (hden : den = 2 * h) (hh : 0 < h) (hnum : 0 ≤ num ∧ num ≤ den)
    (hle : t ≤ p) : t ≤ smooth num den t p ∧ smooth num den t p ≤ p := by
  constructor
  · have hmono := smooth_mono hden hh hnum.2 t hle
    rw [smooth_input hden hh] at hmono
    exact hmono
  · have hprod : num * (t - p) ≤ 0 := Int.mul_nonpos_of_nonneg_of_nonpos hnum.1 (by omega)
    have hbelow : den * p + num * (t - p) ≤ den * p := by omega
    have hmono := roundAway_mono hden hh hbelow
    rw [roundAway_mul hden hh, ← smooth_sum] at hmono
    exact hmono

theorem smooth_from_below (hden : den = 2 * h) (hh : 0 < h) (hnum : 0 ≤ num ∧ num ≤ den)
    (hle : p ≤ t) : p ≤ smooth num den t p ∧ smooth num den t p ≤ t := by
  have habove := smooth_from_above (p := -p) (t := -t) hden hh hnum (by omega)
  rw [smooth_odd hden hh] at habove
  omega

theorem smooth_settles (hden : den = 2 * h) (hh : 0 < h) (hnum : 0 ≤ num ∧ num ≤ den)
    (hle : t ≤ p) : exists q, t ≤ q ∧ q ≤ p ∧ Settles (smooth num den t) p q :=
  exists_settles_downwards (smooth_mono hden hh hnum.2 t) (smooth_input hden hh num t)
    (smooth_from_above hden hh hnum hle).2 hle

theorem smooth_iterate_odd (hden : den = 2 * h) (hh : 0 < h) (num t p : Int) (n : Nat) :
    (smooth num den (-t))^[n] (-p) = -(smooth num den t)^[n] p := by
  induction n with
  | zero => rfl
  | succ n ih =>
      rw [Function.iterate_succ_apply', Function.iterate_succ_apply', ih, smooth_odd hden hh]

end Smooth

end EnvMonitor.Numerics
