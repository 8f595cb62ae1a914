import Mathlib

/-!
# Orbits of a monotone map of the integers

A monotone map drives every integer that has a fixed point ahead of it to a fixed point.
-/

namespace EnvMonitor.Numerics

variable {f : Int -> Int} {p q t : Int}

theorem eventually_succ {P : Nat -> Prop} :
    (exists N, forall n, N ≤ n -> P n) <-> exists N, forall n, N ≤ n -> P (n + 1) := by
  constructor
  · rintro ⟨N, hN⟩
    exact ⟨N, fun n hle => hN (n + 1) (by omega)⟩
  · rintro ⟨N, hN⟩
    exists N + 1
    intro n hle
    cases n with
    | zero => exact absurd hle (by omega)
    | succ n => exact hN n (by omega)

/-- The orbit of `p` comes to rest at `q`. -/
structure Settles (f : Int -> Int) (p q : Int) : Prop where
  fixed : f q = q
  reached : exists n, f^[n] p = q

theorem iterate_of_fixed (h : f q = q) (n : Nat) : f^[n] q = q := by
  induction n with
  | zero => rfl
  | succ n ih => rw [Function.iterate_succ_apply, h, ih]

theorem Settles.of_fixed (h : f p = p) : Settles f p p := ⟨h, 0, rfl⟩

theorem Settles.of_next (h : Settles f (f p) q) : Settles f p q := by
  rcases h.reached with ⟨n, hn⟩
  exact ⟨h.fixed, n + 1, hn⟩

theorem Settles.next (h : Settles f p q) : Settles f (f p) q := by
  rcases h.reached with ⟨n, hn⟩
  exists h.fixed
  exists n
  rw [← Function.iterate_succ_apply, Function.iterate_succ_apply', hn, h.fixed]

theorem Settles.eventually (h : Settles f p q) : exists N, forall n, N ≤ n -> f^[n] p = q := by
  rcases h.reached with ⟨N, hN⟩
  exists N
  intro n hle
  rcases Nat.exists_eq_add_of_le' hle with ⟨k, hk⟩
  rw [hk, Function.iterate_add_apply, hN, iterate_of_fixed h.fixed]

theorem Settles.eventually_iff (h : Settles f p q) (P : Int -> Prop) :
    (exists N, forall n, N ≤ n -> P (f^[n] p)) <-> P q := by
  rcases h.eventually with ⟨N, hN⟩
  constructor
  · rintro ⟨M, hM⟩
    rw [← hN (max N M) (Nat.le_max_left _ _)]
    exact hM _ (Nat.le_max_right _ _)
  · intro hq
    exists N
    intro n hle
    rw [hN n hle]
    exact hq

theorem exists_settles_upwards (hmono : Monotone f) (hfixed : f t = t) (hup : p ≤ f p)
    (hle : p ≤ t) : exists q, p ≤ q ∧ q ≤ t ∧ Settles f p q := by
  -- the induction is on the distance from that fixed point
  induction hk : (t - p).toNat using Nat.strongRecOn generalizing p with
  | ind k ih =>
      by_cases hsame : f p = p
      · exact ⟨p, le_refl p, hle, Settles.of_fixed hsame⟩
      · have hnext : f p ≤ t := by
          rw [← hfixed]
          exact hmono hle
        rcases ih (t - f p).toNat (by omega) (hmono hup) hnext rfl with ⟨q, hpq, hqt, hq⟩
        exact ⟨q, by omega, hqt, hq.of_next⟩

theorem exists_settles_downwards (hmono : Monotone f) (hfixed : f t = t) (hdown : f p ≤ p)
    (hle : t ≤ p) : exists q, t ≤ q ∧ q ≤ p ∧ Settles f p q := by
  induction hk : (p - t).toNat using Nat.strongRecOn generalizing p with
  | ind k ih =>
      by_cases hsame : f p = p
      · exact ⟨p, hle, le_refl p, Settles.of_fixed hsame⟩
      · have hnext : t ≤ f p := by
          rw [← hfixed]
          exact hmono hle
        rcases ih (f p - t).toNat (by omega) (hmono hdown) hnext rfl with ⟨q, htq, hqp, hq⟩
        exact ⟨q, htq, by omega, hq.of_next⟩

end EnvMonitor.Numerics
