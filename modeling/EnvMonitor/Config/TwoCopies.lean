import Mathlib.Data.List.Basic
import Mathlib.Tactic.Common

/-!
# A value kept in two numbered copies

A store keeps a value in two copies, numbers each write, and writes into the copy that is not
the newest.  Whatever an interrupted write leaves in the copy it was writing, the newest copy
survives it.  The ledger says what was written so far and which write was last reported as
committed; the copies keep it when the newest one is at least as recent as that write.
-/

namespace EnvMonitor.Config

inductive Side where
  | a
  | b
  deriving DecidableEq, Repr

def Side.other : Side -> Side
  | .a => .b
  | .b => .a

@[simp] theorem Side.other_ne (s : Side) : s.other ≠ s := by
  cases s <;> exact fun h => nomatch h

@[simp] theorem Side.ne_other (s : Side) : s ≠ s.other :=
  (Side.other_ne s).symm

theorem Side.eq_other_of_ne {s t : Side} (h : s ≠ t) : s = t.other := by
  cases s <;> cases t <;> first | rfl | exact absurd rfl h

@[simp] theorem Side.other_other (s : Side) : s.other.other = s := by
  cases s <;> rfl

/-- One thing for each side. -/
def Side.pick {α : Type} (x y : α) : Side -> α
  | .a => x
  | .b => y

/-- A copy of the value with the number of the write that made it. -/
structure Copy (β : Type) where
  seq : Nat
  value : β
  deriving DecidableEq, Repr

/-- What the two sides hold, `none` where there is no valid copy. -/
abbrev Copies (β : Type) := Side -> Option (Copy β)

/-- The writes attempted so far and the place of the last one reported as committed. -/
structure Ledger (β : Type) where
  attempts : List β
  committed : Option Nat

/-- The ledger after one more attempt. -/
def Ledger.attempted {β : Type} (h : Ledger β) (v : β) (ok : Prop) [Decidable ok] : Ledger β :=
  { attempts := h.attempts ++ [v]
    committed := if ok then some h.attempts.length else h.committed }

namespace Copies

variable {β : Type} {c c' : Copies β} {h : Ledger β} {s t : Side} {x y : Copy β}

/-- The side with the highest number; equal numbers go to the first side. -/
def newest (c : Copies β) : Option Side :=
  match c .a, c .b with
  | none, none => none
  | none, some _ => some .b
  | some _, none => some .a
  | some x, some y => if y.seq <= x.seq then some .a else some .b

theorem newest_eq_none (hnone : newest c = none) (s : Side) : c s = none := by
  unfold newest at hnone
  cases ha : c .a with
  | none =>
      cases hb : c .b with
      | none => cases s <;> assumption
      | some y => simp [ha, hb] at hnone
  | some x =>
      cases hb : c .b with
      | none => simp [ha, hb] at hnone
      | some y =>
          simp only [ha, hb] at hnone
          split at hnone <;> cases hnone

theorem newest_valid (hnew : newest c = some s) : exists x, c s = some x := by
  unfold newest at hnew
  cases ha : c .a with
  | none =>
      cases hb : c .b with
      | none => simp [ha, hb] at hnew
      | some y =>
          simp only [ha, hb, Option.some.injEq] at hnew
          exact ⟨y, hnew ▸ hb⟩
  | some x =>
      cases hb : c .b with
      | none =>
          simp only [ha, hb, Option.some.injEq] at hnew
          exact ⟨x, hnew ▸ ha⟩
      | some y =>
          simp only [ha, hb] at hnew
          split at hnew
          · cases hnew
            exact ⟨x, ha⟩
          · cases hnew
            exact ⟨y, hb⟩

theorem newest_of_alone (hs : c s = some x) (hother : c s.other = none) :
    newest c = some s := by
  unfold newest
  cases s with
  | a =>
      have hb : c .b = none := hother
      rw [hs, hb]
  | b =>
      have ha : c .a = none := hother
      rw [hs, ha]

theorem newest_of_lt (hs : c s = some x) (hother : c s.other = some y)
    (hlt : y.seq < x.seq) : newest c = some s := by
  unfold newest
  cases s with
  | a =>
      have hb : c .b = some y := hother
      rw [hs, hb]
      exact if_pos (Nat.le_of_lt hlt)
  | b =>
      have ha : c .a = some y := hother
      rw [hs, ha]
      exact if_neg (Nat.not_le_of_lt hlt)

theorem newest_congr (hnew : newest c = some s) (hs : c' s = c s)
    (hother : c' s.other = c s.other ∨ c' s.other = none) : newest c' = some s := by
  rcases newest_valid hnew with ⟨x, hx⟩
  rcases hother with hsame | hgone
  · have hall : c' = c := by
      funext t
      by_cases ht : t = s
      · rw [ht, hs]
      · rw [Side.eq_other_of_ne ht, hsame]
    rw [hall]
    exact hnew
  · exact newest_of_alone (hs.trans hx) hgone

/-- The newest side, from the numbers of the valid copies alone. -/
def newestOf (seqA seqB : Option Nat) : Option Side :=
  match seqA, seqB with
  | none, none => none
  | none, some _ => some .b
  | some _, none => some .a
  | some n, some k => if k <= n then some .a else some .b

theorem newest_eq_newestOf (c : Copies β) :
    newest c = newestOf ((c .a).map Copy.seq) ((c .b).map Copy.seq) := by
  unfold newest newestOf
  cases c .a <;> cases c .b <;> rfl

/-- A reader may miss some copies, but not the newest. -/
structure Seen (c : Copies β) (seen : Side -> Option Nat) : Prop where
  reported : forall s, seen s = (c s).map Copy.seq ∨ seen s = none
  newest : forall s, Copies.newest c = some s -> seen s = (c s).map Copy.seq

theorem Seen.newestOf_eq {seen : Side -> Option Nat} (hseen : Seen c seen) :
    newestOf (seen .a) (seen .b) = Copies.newest c := by
  let visible : Copies β := fun s => if (seen s).isSome then c s else none
  have hvisible : forall s, (visible s).map Copy.seq = seen s := by
    intro s
    change (if (seen s).isSome then c s else none).map Copy.seq = seen s
    rcases hseen.reported s with hs | hs
    · cases hc : c s with
      | none =>
          rw [hs, hc]
          rfl
      | some x =>
          rw [hs, hc]
          rfl
    · rw [hs]
      rfl
  rw [← hvisible .a, ← hvisible .b, ← newest_eq_newestOf]
  cases hnew : Copies.newest c with
  | none =>
      have hnone : forall s, visible s = none := by
        intro s
        change (if (seen s).isSome then c s else none) = none
        rw [newest_eq_none hnew s, ite_self]
      rw [newest_eq_newestOf, hnone, hnone]
      rfl
  | some s =>
      rcases newest_valid hnew with ⟨x, hx⟩
      apply newest_congr hnew
      · change (if (seen s).isSome then c s else none) = c s
        rw [hseen.newest s hnew, hx]
        rfl
      · change (if (seen s.other).isSome then c s.other else none) = c s.other ∨
          (if (seen s.other).isSome then c s.other else none) = none
        split
        · exact .inl rfl
        · exact .inr rfl

/-- Each copy is one of the attempts, the higher number the later attempt, and the newest is
not older than the committed one. -/
structure Dated (c : Copies β) (h : Ledger β) (age : Side -> Nat) : Prop where
  attempt : forall s x, c s = some x -> h.attempts[age s]? = some x.value
  seq_le : forall s x, c s = some x -> x.seq <= age s + 1
  ordered : forall s x y, c s = some x -> c s.other = some y ->
    (x.seq < y.seq ∧ age s < age s.other) ∨ (y.seq < x.seq ∧ age s.other < age s)
  committed : forall k, h.committed = some k -> exists s, newest c = some s ∧ k <= age s

def Keeps (c : Copies β) (h : Ledger β) : Prop :=
  exists age, Dated c h age

theorem Dated.age_lt {age : Side -> Nat} (hdated : Dated c h age) (hs : c s = some x) :
    age s < h.attempts.length :=
  (List.getElem?_eq_some_iff.mp (hdated.attempt s x hs)).1

theorem keeps_nothing (hnone : forall s, c s = none) :
    Keeps c { attempts := [], committed := none } := by
  exists fun _ => 0
  constructor
  · intro s x hs
    rw [hnone s] at hs
    cases hs
  · intro s x hs
    rw [hnone s] at hs
    cases hs
  · intro s x y hs
    rw [hnone s] at hs
    cases hs
  · intro k hk
    cases hk

theorem Keeps.seq_le (hkeeps : Keeps c h) (hs : c s = some x) :
    x.seq <= h.attempts.length := by
  rcases hkeeps with ⟨age, hdated⟩
  have hle := hdated.seq_le s x hs
  have hlt := hdated.age_lt hs
  omega

theorem Keeps.mem (hkeeps : Keeps c h) (hs : c s = some x) : x.value ∈ h.attempts := by
  rcases hkeeps with ⟨age, hdated⟩
  exact List.mem_of_getElem? (hdated.attempt s x hs)

theorem Keeps.newest (hkeeps : Keeps c h) {k : Nat} (hk : h.committed = some k) :
    exists s x j, Copies.newest c = some s ∧ c s = some x ∧ k <= j ∧
      h.attempts[j]? = some x.value := by
  rcases hkeeps with ⟨age, hdated⟩
  rcases hdated.committed k hk with ⟨s, hnew, hle⟩
  rcases newest_valid hnew with ⟨x, hx⟩
  exact ⟨s, x, age s, hnew, hx, hle, hdated.attempt s x hx⟩

/-- Where a write goes, and its number: beside the newest copy, with the next number. -/
def Chosen (c : Copies β) (t : Side) (n : Nat) : Prop :=
  match newest c with
  | none => n = 1
  | some s => t = s.other ∧ exists x, c s = some x ∧ n = x.seq + 1

/-- What a write may leave behind: the other side untouched, the written one unchanged, invalid
or the new copy, and the new copy if the write is reported as committed. -/
structure Written (c c' : Copies β) (t : Side) (n : Nat) (v : β) (ok : Prop) : Prop where
  other : c' t.other = c t.other
  target : c' t = c t ∨ c' t = none ∨ c' t = some ⟨n, v⟩
  complete : ok -> c' t = some ⟨n, v⟩

section Write

variable {n : Nat} {v : β} {ok : Prop} [Decidable ok] {age : Side -> Nat}

theorem Chosen.other_newest (hchosen : Chosen c t n) (hother : c t.other = some y) :
    newest c = some t.other ∧ n = y.seq + 1 := by
  unfold Chosen at hchosen
  cases hnew : newest c with
  | none =>
      rw [newest_eq_none hnew] at hother
      cases hother
  | some s =>
      rw [hnew] at hchosen
      rcases hchosen with ⟨rfl, x, hx, hn⟩
      rw [Side.other_other] at hother ⊢
      rw [hx] at hother
      cases hother
      exact ⟨rfl, hn⟩

theorem Chosen.newest_other (hchosen : Chosen c t n) (hnew : newest c = some s) :
    s = t.other := by
  rcases newest_valid hnew with ⟨x, hx⟩
  unfold Chosen at hchosen
  rw [hnew] at hchosen
  rw [hchosen.1, Side.other_other]

theorem Chosen.le (hchosen : Chosen c t n) (hkeeps : Keeps c h) : n <= h.attempts.length + 1 := by
  unfold Chosen at hchosen
  cases hnew : newest c with
  | none =>
      rw [hnew] at hchosen
      have hn : n = 1 := hchosen
      omega
  | some s =>
      rw [hnew] at hchosen
      rcases hchosen with ⟨_, x, hx, hn⟩
      have hle := hkeeps.seq_le hx
      omega

theorem Dated.arrived (hdated : Dated c h age) (hchosen : Chosen c t n)
    (hother : c' t.other = c t.other) (htarget : c' t = some ⟨n, v⟩) :
    Dated c' (h.attempted v ok) fun s => if s = t then h.attempts.length else age s := by
  have hback : forall s x, s ≠ t -> c' s = some x -> c s = some x := by
    intro s x hs hx
    rw [Side.eq_other_of_ne hs] at hx ⊢
    rw [← hother]
    exact hx
  have holder : forall y, c' t.other = some y -> y.seq < n ∧ age t.other < h.attempts.length := by
    intro y hy
    have hy' := hback _ _ (Side.other_ne t) hy
    have hn := (hchosen.other_newest hy').2
    exact ⟨by omega, hdated.age_lt hy'⟩
  constructor
  · intro s x hx
    change (h.attempts ++ [v])[_]? = some x.value
    by_cases hs : s = t
    · rw [if_pos hs, List.getElem?_concat_length]
      rw [hs, htarget] at hx
      cases hx
      rfl
    · have hold := hback s x hs hx
      rw [if_neg hs, List.getElem?_append_left (hdated.age_lt hold)]
      exact hdated.attempt s x hold
  · intro s x hx
    by_cases hs : s = t
    · rw [if_pos hs]
      rw [hs, htarget] at hx
      cases hx
      change n <= h.attempts.length + 1
      exact hchosen.le ⟨age, hdated⟩
    · rw [if_neg hs]
      exact hdated.seq_le s x (hback s x hs hx)
  · intro s x y hx hy
    by_cases hs : s = t
    · subst hs
      rw [if_pos rfl, if_neg (Side.other_ne s)]
      rw [htarget] at hx
      cases hx
      exact .inr (holder y hy)
    · have hst : s = t.other := Side.eq_other_of_ne hs
      subst hst
      rw [Side.other_other] at hy ⊢
      rw [if_neg (Side.other_ne t), if_pos rfl]
      rw [htarget] at hy
      cases hy
      exact .inl (holder x hx)
  · have hnew : newest c' = some t := by
      cases hy : c' t.other with
      | none => exact newest_of_alone htarget hy
      | some y => exact newest_of_lt htarget hy (holder y hy).1
    intro k hk
    exists t
    constructor
    · exact hnew
    · rw [if_pos rfl]
      change (if ok then some h.attempts.length else h.committed) = some k at hk
      split at hk
      · cases hk
        exact Nat.le_refl _
      · rcases hdated.committed k hk with ⟨s, hs, hle⟩
        rcases newest_valid hs with ⟨x, hx⟩
        exact Nat.le_of_lt (Nat.lt_of_le_of_lt hle (hdated.age_lt hx))

theorem Dated.interrupted (hdated : Dated c h age) (hchosen : Chosen c t n)
    (hother : c' t.other = c t.other) (htarget : c' t = c t ∨ c' t = none) (hok : ¬ ok) :
    Dated c' (h.attempted v ok) age := by
  have hback : forall s x, c' s = some x -> c s = some x := by
    intro s x hx
    by_cases hs : s = t
    · subst hs
      rcases htarget with hsame | hgone
      · rw [← hsame]
        exact hx
      · rw [hgone] at hx
        cases hx
    · rw [Side.eq_other_of_ne hs] at hx ⊢
      rw [← hother]
      exact hx
  constructor
  · intro s x hx
    have hold := hback s x hx
    change (h.attempts ++ [v])[_]? = some x.value
    rw [List.getElem?_append_left (hdated.age_lt hold)]
    exact hdated.attempt s x hold
  · intro s x hx
    exact hdated.seq_le s x (hback s x hx)
  · intro s x y hx hy
    exact hdated.ordered s x y (hback s x hx) (hback _ y hy)
  · intro k hk
    change (if ok then some h.attempts.length else h.committed) = some k at hk
    rw [if_neg hok] at hk
    rcases hdated.committed k hk with ⟨s, hnew, hle⟩
    exists s
    constructor
    · have hst := hchosen.newest_other hnew
      apply newest_congr hnew
      · rw [hst]
        exact hother
      · rw [hst, Side.other_other]
        exact htarget
    · exact hle

theorem Keeps.write (hkeeps : Keeps c h) (hchosen : Chosen c t n)
    (hwritten : Written c c' t n v ok) : Keeps c' (h.attempted v ok) := by
  rcases hkeeps with ⟨age, hdated⟩
  by_cases hnew : c' t = some ⟨n, v⟩
  · exact ⟨_, hdated.arrived hchosen hwritten.other hnew⟩
  · have hok : ¬ ok := fun hok => hnew (hwritten.complete hok)
    have htarget : c' t = c t ∨ c' t = none := by
      rcases hwritten.target with hsame | hgone | harrived
      · exact .inl hsame
      · exact .inr hgone
      · exact absurd harrived hnew
    exact ⟨age, hdated.interrupted hchosen hwritten.other htarget hok⟩

theorem exists_chosen (c : Copies β) : exists t n, Chosen c t n := by
  unfold Chosen
  cases hnew : newest c with
  | none => exact ⟨.a, 1, rfl⟩
  | some s =>
      rcases newest_valid hnew with ⟨x, hx⟩
      exact ⟨s.other, x.seq + 1, rfl, x, hx, rfl⟩

theorem Keeps.untouched (hkeeps : Keeps c h) (hok : ¬ ok) : Keeps c (h.attempted v ok) := by
  rcases exists_chosen c with ⟨t, n, hchosen⟩
  exact hkeeps.write hchosen ⟨rfl, .inl rfl, fun h => absurd h hok⟩

end Write

end Copies
end EnvMonitor.Config
