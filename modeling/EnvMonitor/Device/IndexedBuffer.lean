import Mathlib.Data.List.Basic
import Mathlib.Logic.Function.Basic
import Mathlib.Tactic.Common

/-!
# Buffers that are filled by index

A buffer is a value for every index, together with how far writes have reached, so that a bound on
the indices of a whole run can be stated of its last state.
-/

namespace EnvMonitor.Device

/-- `top` is one above the highest index written. -/
structure IndexedBuffer (value : Type) where
  cell : Nat -> value
  top : Nat

namespace IndexedBuffer

variable {value : Type} {b : IndexedBuffer value} {xs ys : List value}

def put (b : IndexedBuffer value) (i : Nat) (x : value) : IndexedBuffer value where
  cell := Function.update b.cell i x
  top := max b.top (i + 1)

def putAll (b : IndexedBuffer value) (i : Nat) : List value -> IndexedBuffer value
  | [] => b
  | x :: xs => (b.put i x).putAll (i + 1) xs

def read (b : IndexedBuffer value) (n : Nat) : List value := (List.range n).map b.cell

/-- No index has been used yet. -/
def rewind (b : IndexedBuffer value) : IndexedBuffer value := { b with top := 0 }

/-- The buffer begins with `xs`. -/
def Holds (b : IndexedBuffer value) (xs : List value) : Prop := b.read xs.length = xs

@[simp] theorem read_length (b : IndexedBuffer value) (n : Nat) : (b.read n).length = n := by
  rw [read, List.length_map, List.length_range]

theorem holds_nil (b : IndexedBuffer value) : b.Holds [] := rfl

theorem Holds.put (h : b.Holds xs) (x : value) : (b.put xs.length x).Holds (xs ++ [x]) := by
  have hkept : (b.put xs.length x).read xs.length = b.read xs.length := by
    unfold read
    apply List.map_congr_left
    intro i hi
    exact Function.update_of_ne (Nat.ne_of_lt (List.mem_range.mp hi)) x b.cell
  unfold Holds
  rw [List.length_append, List.length_singleton]
  have hsucc : (b.put xs.length x).read (xs.length + 1) =
      (b.put xs.length x).read xs.length ++ [(b.put xs.length x).cell xs.length] := by
    unfold read
    rw [List.range_succ, List.map_append, List.map_singleton]
  have hlast : (b.put xs.length x).cell xs.length = x := by
    change Function.update b.cell xs.length x xs.length = x
    rw [Function.update_self]
  rw [hsucc, hkept, h, hlast]

theorem Holds.putAll (h : b.Holds xs) (ys : List value) :
    (b.putAll xs.length ys).Holds (xs ++ ys) := by
  induction ys generalizing b xs with
  | nil =>
      rw [List.append_nil]
      exact h
  | cons y ys ih =>
      have hnext := ih (h.put y)
      rw [List.length_append, List.append_assoc] at hnext
      exact hnext

theorem putAll_top {i : Nat} (hne : xs ≠ []) : (b.putAll i xs).top = max b.top (i + xs.length) := by
  induction xs generalizing b i with
  | nil => exact absurd rfl hne
  | cons x xs ih =>
      cases xs with
      | nil => rfl
      | cons x' xs =>
          change ((b.put i x).putAll (i + 1) (x' :: xs)).top = _
          rw [ih (List.cons_ne_nil x' xs)]
          change max (max b.top (i + 1)) (i + 1 + (xs.length + 1)) =
            max b.top (i + (xs.length + 1 + 1))
          omega

end IndexedBuffer

end EnvMonitor.Device
