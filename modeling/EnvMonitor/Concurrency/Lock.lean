import Mathlib.Logic.Function.Basic

/-!
# A lock and who is in its section

A lock is who owns it.  Each thread has a section in which it holds the lock; what keeps the two
in agreement is stated once, for any set of threads.
-/

namespace EnvMonitor.Concurrency

universe u

variable {Thread : Type u}

/-- The owner is the thread that is in the section. -/
def Agrees (owner : Option Thread) (holds : Thread -> Bool) : Prop :=
  forall t, owner = some t ↔ holds t = true

/-- What a step of thread `t` may do with a lock and with its own section. -/
inductive Moves (t : Thread) : Option Thread -> Bool -> Option Thread -> Bool -> Prop where
  | stay (owner : Option Thread) (held : Bool) : Moves t owner held owner held
  | take : Moves t none false (some t) true
  | give (owner : Option Thread) : Moves t owner true none false

namespace Agrees

variable {owner owner' : Option Thread} {holds holds' : Thread -> Bool} {t other : Thread}

theorem exclusive (h : Agrees owner holds) (ht : holds t = true) (hother : holds other = true) :
    t = other := by
  have howner := (h t).mpr ht
  rw [(h other).mpr hother] at howner
  cases howner
  rfl

theorem outside (h : Agrees none holds) (t : Thread) : holds t = false := by
  cases ht : holds t with
  | false => rfl
  | true => cases (h t).mpr ht

theorem not_held (h : Agrees owner holds) (ht : holds t = true) (hne : other ≠ t) :
    holds other = false := by
  cases hother : holds other with
  | false => rfl
  | true => exact absurd (h.exclusive hother ht) hne

theorem moves (h : Agrees owner holds) (hstep : Moves t owner (holds t) owner' (holds' t))
    (hframe : forall other, other ≠ t -> holds' other = holds other) : Agrees owner' holds' := by
  intro other
  by_cases hother : other = t
  · rw [hother]
    have ht := h t
    generalize holds t = before at hstep ht
    generalize holds' t = after at hstep ⊢
    cases hstep with
    | stay => exact ht
    | take => simp
    | give => simp
  · rw [hframe other hother]
    have hbefore := h other
    have hthread := h t
    generalize holds t = before at hstep hthread
    generalize holds' t = after at hstep
    cases hstep with
    | stay => exact hbefore
    | take =>
        constructor
        · intro howner
          exact absurd (Option.some.inj howner).symm hother
        · intro hheld
          cases hbefore.mpr hheld
    | give =>
        constructor
        · intro howner
          cases howner
        · intro hheld
          have howner := hbefore.mpr hheld
          rw [hthread.mpr rfl] at howner
          exact absurd (Option.some.inj howner).symm hother

end Agrees

end EnvMonitor.Concurrency
