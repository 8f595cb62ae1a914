import Mathlib.Data.List.Basic
import Mathlib.Data.List.Range
import Mathlib.Tactic.Common

/-!
# A mailbox for one item

An item that is put takes the place of the one that is still there.  The items are numbered as they
are put, and `early` has `true` for each that was put before the one before it was taken.
-/

namespace EnvMonitor.Concurrency

/-- The numbers of the items that were taken; `full`: the last one was not. -/
def takenFrom (early : List Bool) (full : Bool) : List Nat :=
  (List.range early.length).filter fun n => !early[n + 1]?.getD full

variable {early : List Bool} {full : Bool} {n : Nat}

theorem mem_takenFrom :
    n ∈ takenFrom early full ↔ n < early.length ∧ early[n + 1]?.getD full = false := by
  unfold takenFrom
  rw [List.mem_filter, List.mem_range, Bool.not_eq_true']

theorem takenFrom_sorted : (takenFrom early full).Pairwise (· < ·) :=
  List.Pairwise.sublist List.filter_sublist List.pairwise_lt_range

theorem last_mem_takenFrom (full : Bool) (h : early ≠ []) :
    early.length - 1 ∈ takenFrom early full ↔ full = false := by
  have hpos := List.length_pos_iff.mpr h
  rw [mem_takenFrom, Nat.sub_add_cancel hpos, List.getElem?_eq_none (Nat.le_refl early.length)]
  exact and_iff_right (Nat.sub_lt hpos Nat.one_pos)

theorem takenFrom_put : takenFrom (early ++ [full]) true = takenFrom early full := by
  unfold takenFrom
  rw [List.length_append, List.length_singleton, List.range_succ, List.filter_append]
  have hlast : (early ++ [full])[early.length + 1]?.getD true = true := by
    rw [List.getElem?_eq_none (by simp)]
    rfl
  rw [List.filter_singleton, hlast]
  change List.filter _ _ ++ [] = _
  rw [List.append_nil]
  apply List.filter_congr
  intro n hn
  congr 1
  rcases Nat.lt_or_ge (n + 1) early.length with hlt | hge
  · rw [List.getElem?_append_left hlt, List.getElem?_eq_getElem hlt]
    rfl
  · have heq : n + 1 = early.length := Nat.le_antisymm (List.mem_range.mp hn) hge
    rw [heq, List.getElem?_concat_length, List.getElem?_eq_none (Nat.le_refl _)]
    rfl

theorem takenFrom_take (h : early ≠ []) :
    takenFrom early false = takenFrom early true ++ [early.length - 1] := by
  rcases List.eq_nil_or_concat' early with hnil | ⟨front, last, heq⟩
  · exact absurd hnil h
  · subst heq
    unfold takenFrom
    rw [List.length_append, List.length_singleton, List.range_succ, List.filter_append,
      List.filter_append, List.filter_singleton, List.filter_singleton,
      List.getElem?_eq_none (by simp)]
    change _ ++ [front.length] = _ ++ [] ++ [front.length]
    rw [List.append_nil]
    congr 1
    apply List.filter_congr
    intro n hn
    rw [List.getElem?_eq_getElem (by simpa using hn)]
    rfl

end EnvMonitor.Concurrency
