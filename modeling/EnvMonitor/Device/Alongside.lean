import EnvMonitor.Device.Program

/-!
# Two executions side by side

Two programs, or one program from two states, on a device that completes every call: the
answers stay in one relation and the states in another.  A program whose calls the device
answers alike in related states needs no more than that.
-/

namespace EnvMonitor.Device.Program

variable {I : Interface} {α β γ δ : Type} {D : Model I}
variable {S : α -> β -> Prop} {S' : γ -> δ -> Prop} {T : D.State -> D.State -> Prop}

/-- Run without faults, the programs end in answers related by `S` and states related by
`T`. -/
def Alongside (D : Model I) (S : α -> β -> Prop) (T : D.State -> D.State -> Prop)
    (p : Program I α) (q : Program I β) (s t : D.State) : Prop :=
  S (p.eval D s).1 (q.eval D t).1 ∧ T (p.eval D s).2 (q.eval D t).2

/-- The device answers the call alike in related states and leaves related states. -/
def AnsweredAlike (D : Model I) (T : D.State -> D.State -> Prop) (op : I.Op) : Prop :=
  forall s t, T s t ->
    (D.complete op s).1 = (D.complete op t).1 ∧ T (D.complete op s).2 (D.complete op t).2

theorem alongside_pure {a : α} {b : β} {s t : D.State} (hS : S a b) (hT : T s t) :
    Alongside D S T (pure a) (pure b) s t :=
  ⟨hS, hT⟩

theorem Alongside.bind {p : Program I α} {q : Program I β} {f : α -> Program I γ}
    {g : β -> Program I δ} {s t : D.State} (h : Alongside D S T p q s t)
    (hrest : forall a b s' t', S a b -> T s' t' -> Alongside D S' T (f a) (g b) s' t') :
    Alongside D S' T (p >>= f) (q >>= g) s t := by
  have hafter := hrest _ _ _ _ h.1 h.2
  unfold Alongside at hafter ⊢
  rw [eval_bind, eval_bind]
  exact hafter

theorem alongside_ite {c : Prop} [Decidable c] {p p' : Program I α} {q q' : Program I β}
    {s t : D.State} (ht : c -> Alongside D S T p q s t) (he : ¬ c -> Alongside D S T p' q' s t) :
    Alongside D S T (if c then p else p') (if c then q else q') s t := by
  by_cases h : c
  · rw [if_pos h, if_pos h]
    exact ht h
  · rw [if_neg h, if_neg h]
    exact he h

theorem alongside_of_uses {P : I.Op -> Prop} (hP : forall op, P op -> AnsweredAlike D T op)
    {p : Program I α} (hp : Uses P p) {s t : D.State} (hT : T s t) :
    Alongside D Eq T p p s t := by
  induction p generalizing s t with
  | ret a => exact ⟨rfl, hT⟩
  | call op k ih =>
      rcases hp with ⟨hop, hk⟩
      rcases hP op hop s t hT with ⟨hanswer, hstate⟩
      change Alongside D Eq T (k (D.complete op s).1) (k (D.complete op t).1)
        (D.complete op s).2 (D.complete op t).2
      rw [← hanswer]
      exact ih _ (hk _) hstate

end EnvMonitor.Device.Program
