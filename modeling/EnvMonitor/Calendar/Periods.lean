import Mathlib.Tactic.Common

/-!
# Counting in consecutive periods

A timeline divided into periods of varying length, such as days into months or years: the total
length of the first periods, and the search for the period an offset falls into.
-/

namespace Periods

/-- Length of the `n` periods from `start` on. -/
def total (len : Nat -> Nat) (start : Nat) : Nat -> Nat
  | 0 => 0
  | n + 1 => total len start n + len (start + n)

/-- Walk over at most `fuel` periods from `start` on: the period reached and the offset in it. -/
def locate (len : Nat -> Nat) : Nat -> Nat -> Nat -> Nat × Nat
  | 0, start, offset => (start, offset)
  | fuel + 1, start, offset =>
      if offset < len start then (start, offset)
      else locate len fuel (start + 1) (offset - len start)

variable {len : Nat -> Nat}

theorem total_head (start n : Nat) :
    total len start (n + 1) = len start + total len (start + 1) n := by
  induction n with
  | zero => simp [total]
  | succ n ih =>
      rw [total, ih, total]
      have hindex : start + (n + 1) = start + 1 + n := by omega
      rw [hindex, Nat.add_assoc]

theorem total_mono (start : Nat) {m n : Nat} (h : m ≤ n) :
    total len start m ≤ total len start n := by
  induction h with
  | refl => exact Nat.le_refl _
  | step _ ih => exact Nat.le_trans ih (Nat.le_add_right _ _)

theorem locate_spec (fuel start offset : Nat) :
    exists n, (locate len fuel start offset).1 = start + n ∧ n ≤ fuel ∧
      total len start n + (locate len fuel start offset).2 = offset ∧
      (n < fuel -> (locate len fuel start offset).2 < len (start + n)) := by
  induction fuel generalizing start offset with
  | zero =>
      exact ⟨0, rfl, Nat.le_refl 0, Nat.zero_add offset, fun h => absurd h (Nat.not_lt_zero 0)⟩
  | succ fuel ih =>
      by_cases hlt : offset < len start
      · have hstop : locate len (fuel + 1) start offset = (start, offset) := by
          rw [locate, if_pos hlt]
        rw [hstop]
        exact ⟨0, rfl, Nat.zero_le _, Nat.zero_add offset, fun _ => hlt⟩
      · have hgo : locate len (fuel + 1) start offset =
            locate len fuel (start + 1) (offset - len start) := by
          rw [locate, if_neg hlt]
        rw [hgo]
        rcases ih (start + 1) (offset - len start) with ⟨n, hperiod, hfuel, hsum, hin⟩
        refine ⟨n + 1, ?_, Nat.succ_le_succ hfuel, ?_, ?_⟩
        · rw [hperiod]
          omega
        · rw [total_head, Nat.add_assoc, hsum]
          omega
        · intro hn
          have hindex : start + (n + 1) = start + 1 + n := by omega
          rw [hindex]
          exact hin (Nat.lt_of_succ_lt_succ hn)

theorem locate_lt {m fuel start offset : Nat} (h : offset < total len start m) :
    (locate len fuel start offset).1 < start + m := by
  rcases @locate_spec len fuel start offset with ⟨n, hperiod, -, hsum, -⟩
  rw [hperiod]
  apply Nat.add_lt_add_left
  apply Nat.lt_of_not_le
  intro hle
  have hmono := @total_mono len start _ _ hle
  omega

theorem le_locate {m fuel start offset : Nat} (hm : m ≤ fuel)
    (h : total len start m ≤ offset) :
    start + m ≤ (locate len fuel start offset).1 := by
  rcases @locate_spec len fuel start offset with ⟨n, hperiod, -, hsum, hin⟩
  rw [hperiod]
  apply Nat.add_le_add_left
  apply Nat.le_of_not_lt
  intro hlt
  have hoffset := hin (Nat.lt_of_lt_of_le hlt hm)
  have hmono : total len start (n + 1) ≤ total len start m := total_mono start hlt
  rw [total] at hmono
  omega

end Periods
