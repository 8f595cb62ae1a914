import EnvMonitor.Calendar.Periods

/-!
# Loops that end

A loop is a step on its variables that answers `none` when the guard fails.  The walk over
periods and the sum over them, as loops with a bound, and where they end.
-/

namespace Loop

variable {σ : Type}

/-- Started in the first state, the loop ends in the second. -/
inductive Ends (step : σ -> Option σ) : σ -> σ -> Prop where
  | stop {s : σ} : step s = none -> Ends step s s
  | next {s t last : σ} : step s = some t -> Ends step t last -> Ends step s last

/-- Walk on through the periods while the offset reaches beyond the present one. -/
def walkStep (len : Nat -> Nat) (limit : Nat) : Nat × Nat -> Option (Nat × Nat)
  | (period, offset) =>
      if period < limit then
        if offset < len period then none else some (period + 1, offset - len period)
      else none

/-- Add up the lengths of the periods in front of the limit. -/
def sumStep (len : Nat -> Nat) (limit : Nat) : Nat × Nat -> Option (Nat × Nat)
  | (period, sum) => if period < limit then some (period + 1, sum + len period) else none

variable (len : Nat -> Nat) (limit : Nat)

theorem walkStep_eq (start offset : Nat) :
    walkStep len limit (start, offset) =
      if start < limit then
        if offset < len start then none else some (start + 1, offset - len start)
      else none := rfl

theorem sumStep_eq (start sum : Nat) :
    sumStep len limit (start, sum) =
      if start < limit then some (start + 1, sum + len start) else none := rfl

theorem walk_ends (start offset : Nat) :
    Ends (walkStep len limit) (start, offset)
      (Periods.locate len (limit - start) start offset) := by
  generalize hfuel : limit - start = fuel
  induction fuel generalizing start offset with
  | zero =>
      apply Ends.stop
      rw [walkStep_eq, if_neg (by omega)]
  | succ fuel ih =>
      unfold Periods.locate
      by_cases hlt : offset < len start
      · rw [if_pos hlt]
        apply Ends.stop
        rw [walkStep_eq, if_pos (by omega), if_pos hlt]
      · rw [if_neg hlt]
        refine Ends.next ?_ (ih (start + 1) (offset - len start) (by omega))
        rw [walkStep_eq, if_pos (by omega), if_neg hlt]

theorem sum_ends (start sum : Nat) (hle : start <= limit) :
    Ends (sumStep len limit) (start, sum)
      (limit, sum + Periods.total len start (limit - start)) := by
  generalize hleft : limit - start = left
  induction left generalizing start sum with
  | zero =>
      have hend : start = limit := by omega
      subst hend
      apply Ends.stop
      rw [sumStep_eq, if_neg (Nat.lt_irrefl _)]
  | succ left ih =>
      rw [Periods.total_head, ← Nat.add_assoc]
      refine Ends.next ?_ (ih (start + 1) (sum + len start) (by omega) (by omega))
      rw [sumStep_eq, if_pos (by omega)]

end Loop
