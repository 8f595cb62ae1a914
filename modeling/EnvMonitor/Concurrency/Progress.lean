import Mathlib.Order.Basic

/-!
# Progress along infinite runs

A measure that never grows, and shrinks now and then as long as the goal is not reached, leads to
the goal.
-/

namespace EnvMonitor.Concurrency

universe u v

variable {State : Type u} {run : Nat -> State} {goal : State -> Prop} {rank : State -> Nat}
  {Mode : Type v} {mode : State -> Mode} {helpful : Mode -> Nat -> Prop}

variable {m n start : Nat}

theorem eventually_of_rank (hprogress : forall n, start ≤ n -> ¬goal (run n) ->
      exists m, n ≤ m ∧ (goal (run m) ∨ rank (run m) < rank (run n))) :
    exists n, start ≤ n ∧ goal (run n) := by
  have hbounded : forall bound n, start ≤ n -> rank (run n) ≤ bound ->
      exists m, start ≤ m ∧ goal (run m) := by
    intro bound
    induction bound with
    | zero =>
        intro n hstart hrank
        by_cases hgoal : goal (run n)
        · exact ⟨n, hstart, hgoal⟩
        · rcases hprogress n hstart hgoal with ⟨m, hle, hreached | hless⟩
          · exact ⟨m, Nat.le_trans hstart hle, hreached⟩
          · exact absurd (Nat.lt_of_lt_of_le hless hrank) (Nat.not_lt_zero _)
    | succ bound ih =>
        intro n hstart hrank
        by_cases hgoal : goal (run n)
        · exact ⟨n, hstart, hgoal⟩
        · rcases hprogress n hstart hgoal with ⟨m, hle, hreached | hless⟩
          · exact ⟨m, Nat.le_trans hstart hle, hreached⟩
          · exact ih m (Nat.le_trans hstart hle)
              (Nat.le_of_lt_succ (Nat.lt_of_lt_of_le hless hrank))
  exact hbounded _ start (Nat.le_refl start) (Nat.le_refl _)

/-- Until the measure shrinks the mode stays, and with it the steps that help.  The induction is on
the time until the next of them. -/
theorem progress_of_helpful (hstep : forall n, start ≤ n -> ¬goal (run n) ->
      rank (run (n + 1)) < rank (run n) ∨
        (rank (run (n + 1)) = rank (run n) ∧ mode (run (n + 1)) = mode (run n) ∧
          ¬helpful (mode (run n)) n)) (hstart : start ≤ n) (hle : n ≤ m)
    (hhelp : helpful (mode (run n)) m) :
    exists k, n ≤ k ∧ (goal (run k) ∨ rank (run k) < rank (run n)) := by
  induction hwait : m - n generalizing n with
  | zero =>
      have hnow : m = n := Nat.le_antisymm (Nat.le_of_sub_eq_zero hwait) hle
      by_cases hgoal : goal (run n)
      · exact ⟨n, Nat.le_refl n, Or.inl hgoal⟩
      · rcases hstep n hstart hgoal with hless | hsame
        · exact ⟨n + 1, Nat.le_succ n, Or.inr hless⟩
        · rw [hnow] at hhelp
          exact absurd hhelp hsame.2.2
  | succ wait ih =>
      by_cases hgoal : goal (run n)
      · exact ⟨n, Nat.le_refl n, Or.inl hgoal⟩
      · rcases hstep n hstart hgoal with hless | hsame
        · exact ⟨n + 1, Nat.le_succ n, Or.inr hless⟩
        · have hlater : n + 1 ≤ m := by omega
          have hrest : m - (n + 1) = wait := by omega
          rw [← hsame.2.1] at hhelp
          rcases ih (Nat.le_succ_of_le hstart) hlater hhelp hrest with ⟨k, hk, hreached | hless⟩
          · exact ⟨k, Nat.le_of_succ_le hk, Or.inl hreached⟩
          · rw [hsame.1] at hless
            exact ⟨k, Nat.le_of_succ_le hk, Or.inr hless⟩

theorem eventually_of_helpful (hstep : forall n, start ≤ n -> ¬goal (run n) ->
      rank (run (n + 1)) < rank (run n) ∨
        (rank (run (n + 1)) = rank (run n) ∧ mode (run (n + 1)) = mode (run n) ∧
          ¬helpful (mode (run n)) n))
    (hfair : forall n, start ≤ n -> exists m, n ≤ m ∧ helpful (mode (run n)) m) :
    exists n, start ≤ n ∧ goal (run n) := by
  apply eventually_of_rank
  intro n hstart _
  rcases hfair n hstart with ⟨m, hle, hhelp⟩
  exact progress_of_helpful hstep hstart hle hhelp

theorem always_from (hkeep : forall n, start ≤ n -> goal (run n) -> goal (run (n + 1)))
    (hstart : start ≤ n) (h : goal (run n)) (hle : n ≤ m) : goal (run m) := by
  induction hle with
  | refl => exact h
  | step hle ih => exact hkeep _ (Nat.le_trans hstart hle) ih

end EnvMonitor.Concurrency
