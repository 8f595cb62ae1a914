import EnvMonitor.Device.Program

/-!
# Programs over a device given by a relation

A component that other programs call may answer one call in several ways.  It is then a
relation between the call, its answer, and the states around it, and a program over it
has a set of executions.  The weakest precondition quantifies over all of them.
-/

namespace EnvMonitor.Device.Program

variable {I : Interface} {σ α β : Type}

/-- From `s` the program can answer `a` and leave `s'`. -/
inductive Calls (Step : σ -> (op : I.Op) -> I.Resp op -> σ -> Prop) :
    Program I α -> σ -> α -> σ -> Prop where
  | ret (a : α) (s : σ) : Calls Step (.ret a) s a s
  | call {op : I.Op} {k : I.Resp op -> Program I α} {s s₁ s' : σ} {r : I.Resp op} {a : α} :
      Step s op r s₁ -> Calls Step (k r) s₁ a s' -> Calls Step (.call op k) s a s'

/-- Every execution ends in `Q`. -/
def EveryCall (Step : σ -> (op : I.Op) -> I.Resp op -> σ -> Prop) (Q : α -> σ -> Prop) :
    Program I α -> σ -> Prop
  | .ret a, s => Q a s
  | .call op k, s => forall r s₁, Step s op r s₁ -> EveryCall Step Q (k r) s₁

section Rules

variable {Step : σ -> (op : I.Op) -> I.Resp op -> σ -> Prop} {s : σ}

theorem every_call {op : I.Op} {f : I.Resp op -> Program I α} {Q : α -> σ -> Prop}
    (h : forall r s₁, Step s op r s₁ -> EveryCall Step Q (f r) s₁) :
    EveryCall Step Q (perform op >>= f) s := h

theorem every_ite {c : Prop} [Decidable c] {p q : Program I α} {Q : α -> σ -> Prop}
    (ht : c -> EveryCall Step Q p s) (he : ¬ c -> EveryCall Step Q q s) :
    EveryCall Step Q (if c then p else q) s := by
  by_cases h : c
  · rw [if_pos h]
    exact ht h
  · rw [if_neg h]
    exact he h

theorem every_mono {p : Program I α} {Q Q' : α -> σ -> Prop}
    (hQ : forall a s, Q a s -> Q' a s) (h : EveryCall Step Q p s) : EveryCall Step Q' p s := by
  induction p generalizing s with
  | ret a => exact hQ a s h
  | call op k ih => exact fun r s₁ hstep => ih r (h r s₁ hstep)

theorem every_bind {p : Program I β} {f : β -> Program I α} {Q : α -> σ -> Prop}
    (h : EveryCall Step (fun b s' => EveryCall Step Q (f b) s') p s) :
    EveryCall Step Q (p >>= f) s := by
  induction p generalizing s with
  | ret a => exact h
  | call op k ih => exact fun r s₁ hstep => ih r (h r s₁ hstep)

theorem every_seq {p : Program I β} {f : β -> Program I α} {Q : α -> σ -> Prop}
    {M : β -> σ -> Prop} (hp : EveryCall Step M p s)
    (hf : forall b s', M b s' -> EveryCall Step Q (f b) s') :
    EveryCall Step Q (p >>= f) s :=
  every_bind (every_mono hf hp)

theorem every_sound {p : Program I α} {Q : α -> σ -> Prop} (h : EveryCall Step Q p s) {a : α}
    {s' : σ} (hcalls : Calls Step p s a s') : Q a s' := by
  induction hcalls with
  | ret a s => exact h
  | call hstep _ ih => exact ih (h _ _ hstep)

theorem exists_calls (h : forall (s : σ) (op : I.Op), exists r s', Step s op r s')
    (p : Program I α) (s : σ) : exists a s', Calls Step p s a s' := by
  induction p generalizing s with
  | ret a => exact ⟨a, s, .ret a s⟩
  | call op k ih =>
      rcases h s op with ⟨r, s₁, hstep⟩
      rcases ih r s₁ with ⟨a, s', hrest⟩
      exact ⟨a, s', .call hstep hrest⟩

end Rules

end EnvMonitor.Device.Program
