import Mathlib.Data.List.Basic
import Mathlib.Order.Monotone.Basic
import Mathlib.Tactic.Common

/-!
# Samples taken one after another while the state changes

A reader takes the samples number 0, 1, 2, … of a state; between two of them other threads may change
it any number of times.  Each sample is one of the state at some moment, and the moments go forward.
-/

namespace EnvMonitor.Concurrency

universe u v

variable {State : Type u} {Sample : Type v}

/-- `past` are the states up to the present one, `got` the samples so far; no more than `count` are
taken. -/
inductive Sampling (step : State -> State -> Prop) (take : Nat -> State -> Option Sample)
    (count : Nat) : List State -> State -> List Sample -> Prop
  | start (s : State) : Sampling step take count [] s []
  | sample {past : List State} {s : State} {got : List Sample} {x : Sample}
      (reading : Sampling step take count past s got) (more : got.length < count)
      (taken : take got.length s = some x) : Sampling step take count past s (got ++ [x])
  | other {past : List State} {s s' : State} {got : List Sample}
      (reading : Sampling step take count past s got) (change : step s s') :
      Sampling step take count (past ++ [s]) s' got

namespace Sampling

variable {step : State -> State -> Prop} {take : Nat -> State -> Option Sample} {count : Nat}
  {past : List State} {s : State} {got : List Sample}

/-- Sample `i` was taken at moment `t i`. -/
structure Timed (take : Nat -> State -> Option Sample) (moments : List State) (got : List Sample)
    (t : Nat -> Nat) : Prop where
  forward : Monotone t
  at_ : forall i x, got[i]? = some x -> exists s, moments[t i]? = some s ∧ take i s = some x

theorem Timed.lt {moments : List State} {t : Nat -> Nat} (h : Timed take moments got t) {i : Nat}
    (hi : i < got.length) : t i < moments.length := by
  rcases h.at_ i got[i] (List.getElem?_eq_getElem hi) with ⟨s, hs, _⟩
  exact (List.getElem?_eq_some_iff.mp hs).1

theorem timed (h : Sampling step take count past s got) :
    exists t, Timed take (past ++ [s]) got t := by
  induction h with
  | start s =>
      refine ⟨fun _ => 0, monotone_const, ?_⟩
      intro i x hx
      rw [List.getElem?_nil] at hx
      cases hx
  | @sample past s got x _ _ taken ih =>
      rcases ih with ⟨t, ht⟩
      -- the new sample is of the last moment
      refine ⟨fun i => if i < got.length then t i else past.length, ?_, ?_⟩
      · intro i j hij
        change (if i < got.length then t i else past.length) ≤
          (if j < got.length then t j else past.length)
        by_cases hj : j < got.length
        · rw [if_pos hj, if_pos (Nat.lt_of_le_of_lt hij hj)]
          exact ht.forward hij
        · rw [if_neg hj]
          split
          · rename_i hi
            have hlt := ht.lt hi
            rw [List.length_append, List.length_singleton] at hlt
            exact Nat.le_of_lt_succ hlt
          · exact Nat.le_refl _
      · intro i y hy
        by_cases hi : i < got.length
        · rw [List.getElem?_append_left hi] at hy
          rw [if_pos hi]
          exact ht.at_ i y hy
        · have hlast : i = got.length := by
            have hlt := (List.getElem?_eq_some_iff.mp hy).1
            rw [List.length_append, List.length_singleton] at hlt
            exact Nat.le_antisymm (Nat.le_of_lt_succ hlt) (Nat.le_of_not_lt hi)
          rw [hlast, List.getElem?_concat_length] at hy
          cases hy
          rw [if_neg hi, hlast]
          exact ⟨s, List.getElem?_concat_length, taken⟩
  | @other past s s' got _ _ ih =>
      rcases ih with ⟨t, ht⟩
      refine ⟨t, ht.forward, ?_⟩
      intro i x hx
      rcases ht.at_ i x hx with ⟨r, hr, htake⟩
      refine ⟨r, ?_, htake⟩
      rw [List.getElem?_append_left (List.getElem?_eq_some_iff.mp hr).1]
      exact hr

/-- No step from moment `a` on and up to moment `b` changes what `f` sees. -/
def Unchanged {α : Sort*} (f : State -> α) (moments : List State) (a b : Nat) : Prop :=
  forall k, a ≤ k -> k < b -> forall r r', moments[k]? = some r -> moments[k + 1]? = some r' ->
    f r' = f r

theorem Unchanged.eq {α : Sort*} {f : State -> α} {moments : List State} {a b : Nat}
    (h : Unchanged f moments a b) {k : Nat} (hak : a ≤ k) (hkb : k ≤ b) {r r' : State}
    (hr : moments[a]? = some r) (hr' : moments[k]? = some r') : f r' = f r := by
  induction k, hak using Nat.le_induction generalizing r' with
  | base =>
      rw [hr] at hr'
      cases hr'
      rfl
  | succ k hak ih =>
      have hlt := (List.getElem?_eq_some_iff.mp hr').1
      have hbefore := List.getElem?_eq_getElem (Nat.lt_of_succ_lt hlt)
      exact (h k hak hkb _ r' hbefore hr').trans (ih (Nat.le_of_succ_le hkb) hbefore)

end Sampling

end EnvMonitor.Concurrency
