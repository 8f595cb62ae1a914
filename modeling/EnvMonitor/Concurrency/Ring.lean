import Mathlib.Data.List.Basic
import Mathlib.Logic.Function.Basic
import Mathlib.Tactic.Common

/-!
# Rings of cells

A ring of `size` cells, read at `tail` and written at `head`.  One cell stays free, so that
`head = tail` says that the ring is empty.
-/

namespace EnvMonitor.Concurrency

universe u

variable {item : Type u}

/-- The cells from `tail` up to `head` hold `items`. -/
structure RingHolds (size : Nat) (cells : Nat -> item) (head tail : Nat) (items : List item) :
    Prop where
  tail_lt : tail < size
  head_eq : head = (tail + items.length) % size
  length_lt : items.length < size
  cells_eq : forall i x, items[i]? = some x -> cells ((tail + i) % size) = x

namespace RingHolds

variable {size head tail : Nat} {cells : Nat -> item} {items : List item} {x : item}

theorem nil (h : 0 < size) (cells : Nat -> item) : RingHolds size cells 0 0 [] where
  tail_lt := h
  head_eq := (Nat.zero_mod size).symm
  length_lt := h
  cells_eq _ _ hget := nomatch hget

theorem mod_cases (h : tail < size) {i : Nat} (hi : i < size) :
    ((tail + i) % size = tail + i ∧ tail + i < size) ∨
      ((tail + i) % size = tail + i - size ∧ size ≤ tail + i) := by
  rcases Nat.lt_or_ge (tail + i) size with hlt | hge
  · exact Or.inl ⟨Nat.mod_eq_of_lt hlt, hlt⟩
  · refine Or.inr ⟨?_, hge⟩
    rw [Nat.mod_eq_sub_mod hge]
    exact Nat.mod_eq_of_lt (by omega)

theorem mod_inj (h : tail < size) {i j : Nat} (hi : i < size) (hj : j < size)
    (heq : (tail + i) % size = (tail + j) % size) : i = j := by
  rcases mod_cases h hi with ⟨hi', _⟩ | ⟨hi', _⟩ <;>
    rcases mod_cases h hj with ⟨hj', _⟩ | ⟨hj', _⟩ <;> omega

theorem empty_iff (h : RingHolds size cells head tail items) : head = tail ↔ items = [] := by
  constructor
  · intro heq
    have hmod : (tail + items.length) % size = (tail + 0) % size := by
      rw [← h.head_eq, heq, Nat.add_zero, Nat.mod_eq_of_lt h.tail_lt]
    exact List.eq_nil_of_length_eq_zero
      (mod_inj h.tail_lt h.length_lt (Nat.zero_lt_of_lt h.tail_lt) hmod)
  · intro hnil
    rw [h.head_eq, hnil]
    exact Nat.mod_eq_of_lt h.tail_lt

theorem next_head (h : RingHolds size cells head tail items) :
    (head + 1) % size = (tail + (items.length + 1)) % size := by
  rw [h.head_eq, Nat.mod_add_mod, Nat.add_assoc]

theorem full_iff (h : RingHolds size cells head tail items) :
    (head + 1) % size = tail ↔ items.length + 1 = size := by
  rw [h.next_head]
  constructor
  · intro heq
    rcases Nat.lt_or_ge (items.length + 1) size with hlt | hge
    · have hmod : (tail + (items.length + 1)) % size = (tail + 0) % size := by
        rw [heq, Nat.add_zero, Nat.mod_eq_of_lt h.tail_lt]
      have hzero := mod_inj h.tail_lt hlt (Nat.zero_lt_of_lt h.tail_lt) hmod
      cases hzero
    · exact Nat.le_antisymm h.length_lt hge
  · intro heq
    rw [heq, Nat.add_mod_right]
    exact Nat.mod_eq_of_lt h.tail_lt

theorem push (h : RingHolds size cells head tail items) (hroom : items.length + 1 < size) :
    RingHolds size (Function.update cells head x) ((head + 1) % size) tail (items ++ [x]) where
  tail_lt := h.tail_lt
  head_eq := by
    rw [h.next_head, List.length_append, List.length_singleton]
  length_lt := by
    rw [List.length_append, List.length_singleton]
    exact hroom
  cells_eq := by
    intro i y hget
    rw [List.getElem?_append] at hget
    split at hget
    · next hi =>
        have hne : (tail + i) % size ≠ head := by
          intro heq
          rw [h.head_eq] at heq
          exact Nat.ne_of_lt hi (mod_inj h.tail_lt (Nat.lt_trans hi h.length_lt) h.length_lt heq)
        rw [Function.update_of_ne hne]
        exact h.cells_eq i y hget
    · next hi =>
        rcases List.getElem?_eq_some_iff.mp hget with ⟨hlast, hvalue⟩
        have hi' : i = items.length := by
          rw [List.length_singleton] at hlast
          omega
        rw [hi', ← h.head_eq, Function.update_self]
        rw [← hvalue, List.getElem_singleton]

theorem front (h : RingHolds size cells head tail (x :: items)) : cells tail = x := by
  have hcell := h.cells_eq 0 x rfl
  rw [Nat.add_zero, Nat.mod_eq_of_lt h.tail_lt] at hcell
  exact hcell

theorem pop (h : RingHolds size cells head tail (x :: items)) :
    RingHolds size cells head ((tail + 1) % size) items where
  tail_lt := Nat.mod_lt _ (Nat.zero_lt_of_lt h.tail_lt)
  head_eq := by
    rw [h.head_eq, Nat.mod_add_mod, List.length_cons]
    congr 1
    omega
  length_lt := Nat.lt_trans (Nat.lt_succ_self _) h.length_lt
  cells_eq := by
    intro i y hget
    rw [Nat.mod_add_mod, Nat.add_assoc, Nat.add_comm 1 i]
    exact h.cells_eq (i + 1) y hget

end RingHolds

end EnvMonitor.Concurrency
