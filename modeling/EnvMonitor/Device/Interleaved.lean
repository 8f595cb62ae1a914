import EnvMonitor.Device.Program
import Mathlib.Logic.Relation

/-!
# A task among other tasks

One task runs a program again and again.  Between any two of its calls the other tasks take steps
of their own, and at any time, also during a call, power can be lost and everything starts anew.
An assertion that the other tasks keep may stand between two calls; a triple says that a program
leads from one assertion to another, and makes only calls that are allowed on the way.
-/

namespace EnvMonitor.Device.Program

variable {I : Interface} {σ α β : Type}

/-- What a task runs among: the steps of the others, what a call can answer and change, what a
call can leave when power is lost during it, and how everything starts again. -/
structure Surroundings (I : Interface) (σ : Type) where
  others : σ -> σ -> Prop
  effect : σ -> (op : I.Op) -> I.Resp op -> σ -> Prop
  lost : σ -> I.Op -> σ -> Prop
  boot : σ -> σ -> Prop

/-- The states reached, with what is left of the turn of the task. -/
inductive Together (S : Surroundings I σ) (body : Program I Unit) (s₀ : σ) :
    σ -> Program I Unit -> Prop where
  | start {s : σ} : S.boot s₀ s -> Together S body s₀ s body
  | others {s s' : σ} {p : Program I Unit} : Together S body s₀ s p -> S.others s s' ->
      Together S body s₀ s' p
  | call {s s' : σ} {op : I.Op} {k : I.Resp op -> Program I Unit} {r : I.Resp op} :
      Together S body s₀ s (.call op k) -> S.effect s op r s' -> Together S body s₀ s' (k r)
  | again {s : σ} {u : Unit} : Together S body s₀ s (.ret u) -> Together S body s₀ s body
  | reset {s s' : σ} {p : Program I Unit} : Together S body s₀ s p -> S.boot s s' ->
      Together S body s₀ s' body
  | cut {s s₁ s' : σ} {op : I.Op} {k : I.Resp op -> Program I Unit} :
      Together S body s₀ s (.call op k) -> S.lost s op s₁ -> S.boot s₁ s' ->
      Together S body s₀ s' body

/-- What has to hold always, what of it is left when power is lost, and what has to hold when a call
is made. -/
structure Demand (I : Interface) (σ : Type) where
  safe : σ -> Prop
  lasting : σ -> Prop
  lasting_of_safe : forall s, safe s -> lasting s
  allowed : σ -> I.Op -> Prop

/-- Everything on the way meets the demand, and the program ends in `Q`. -/
def Safe (S : Surroundings I σ) (D : Demand I σ) (Q : α -> σ -> Prop) : Program I α -> σ -> Prop
  | .ret a, s => forall s', Relation.ReflTransGen S.others s s' -> D.safe s' ∧ Q a s'
  | .call op k, s => forall s', Relation.ReflTransGen S.others s s' ->
      D.safe s' ∧ D.allowed s' op ∧ (forall s₁, S.lost s' op s₁ -> D.lasting s₁) ∧
        forall r s₁, S.effect s' op r s₁ -> Safe S D Q (k r) s₁

/-- A statement about states that the others keep, and that only safe states meet. -/
structure Assertion (S : Surroundings I σ) (D : Demand I σ) where
  holds : σ -> Prop
  stable : forall s s', holds s -> S.others s s' -> holds s'
  sound : forall s, holds s -> D.safe s

section Rules

variable {S : Surroundings I σ} {D : Demand I σ} {P P' : Assertion S D}

theorem Assertion.later (P : Assertion S D) {s s' : σ} (h : P.holds s)
    (hsteps : Relation.ReflTransGen S.others s s') : P.holds s' := by
  induction hsteps with
  | refl => exact h
  | tail _ hstep ih => exact P.stable _ _ ih hstep

/-- From every state of `P` the program meets the demand and leads to `Q`. -/
def Leads (P : Assertion S D) (p : Program I α) (Q : α -> Assertion S D) : Prop :=
  forall s, P.holds s -> Safe S D (fun a => (Q a).holds) p s

theorem leads_pure {Q : α -> Assertion S D} (a : α)
    (h : forall s, P.holds s -> (Q a).holds s) : Leads P (pure a) Q := by
  intro s hs s' hsteps
  have hlater := P.later hs hsteps
  exact ⟨P.sound s' hlater, h s' hlater⟩

/-- Rule for one call: it is allowed, what has to last is left after a loss of power, and its effect
leads to the next assertion. -/
theorem leads_perform {op : I.Op} {Q : I.Resp op -> Assertion S D}
    (hallowed : forall s, P.holds s -> D.allowed s op)
    (hlost : forall s s₁, P.holds s -> S.lost s op s₁ -> D.lasting s₁)
    (heffect : forall s r s₁, P.holds s -> S.effect s op r s₁ -> (Q r).holds s₁) :
    Leads P (perform op) Q := by
  intro s hs s' hsteps
  have hlater := P.later hs hsteps
  refine ⟨P.sound s' hlater, hallowed s' hlater, fun s₁ => hlost s' s₁ hlater, ?_⟩
  intro r s₁ hcalled s₂ hsteps₂
  have hnext := (Q r).later (heffect s' r s₁ hlater hcalled) hsteps₂
  exact ⟨(Q r).sound s₂ hnext, hnext⟩

theorem Safe.later {Q : α -> σ -> Prop} {p : Program I α} {s s' : σ} (h : Safe S D Q p s)
    (hsteps : Relation.ReflTransGen S.others s s') : Safe S D Q p s' := by
  cases p with
  | ret a => exact fun s₁ hsteps₁ => h s₁ (hsteps.trans hsteps₁)
  | call op k => exact fun s₁ hsteps₁ => h s₁ (hsteps.trans hsteps₁)

theorem Safe.now {Q : α -> σ -> Prop} {p : Program I α} {s : σ} (h : Safe S D Q p s) :
    D.safe s := by
  cases p with
  | ret a => exact (h s Relation.ReflTransGen.refl).1
  | call op k => exact (h s Relation.ReflTransGen.refl).1

theorem safe_bind {Q : β -> σ -> Prop} {R : α -> σ -> Prop} {p : Program I α}
    {f : α -> Program I β} {s : σ} (hp : Safe S D R p s)
    (hf : forall a s', R a s' -> Safe S D Q (f a) s') : Safe S D Q (p >>= f) s := by
  induction p generalizing s with
  | ret a => exact hf a s (hp s Relation.ReflTransGen.refl).2
  | call op k ih =>
      intro s' hsteps
      rcases hp s' hsteps with ⟨hsafe, hallowed, hlost, hcall⟩
      exact ⟨hsafe, hallowed, hlost, fun r s₁ heffect => ih r (hcall r s₁ heffect)⟩

theorem leads_bind {p : Program I α} {f : α -> Program I β} {R : α -> Assertion S D}
    {Q : β -> Assertion S D} (hp : Leads P p R) (hf : forall a, Leads (R a) (f a) Q) :
    Leads P (p >>= f) Q :=
  fun s hs => safe_bind (hp s hs) fun a s' hR => hf a s' hR

theorem leads_ite {c : Prop} [Decidable c] {p q : Program I α} {Q : α -> Assertion S D}
    (ht : c -> Leads P p Q) (he : ¬ c -> Leads P q Q) : Leads P (if c then p else q) Q := by
  by_cases h : c
  · rw [if_pos h]
    exact ht h
  · rw [if_neg h]
    exact he h

/-- While every turn leads from an assertion back to it, and a restart into it, the demand is met,
and at the end of every turn the assertion holds. -/
theorem Together.met {body : Program I Unit} {s₀ : σ} (hstart : D.lasting s₀)
    (hboot : forall s s', D.lasting s -> S.boot s s' -> P.holds s')
    (hbody : Leads P body fun _ => P) {s : σ} {p : Program I Unit}
    (h : Together S body s₀ s p) :
    D.safe s ∧ (forall op k, p = .call op k -> D.allowed s op) ∧
      forall u, p = .ret u -> P.holds s := by
  have hall : Safe S D (fun _ => P.holds) p s := by
    induction h with
    | start hreset => exact hbody _ (hboot _ _ hstart hreset)
    | others _ hstep ih => exact ih.later (Relation.ReflTransGen.single hstep)
    | call _ heffect ih => exact (ih _ Relation.ReflTransGen.refl).2.2.2 _ _ heffect
    | again _ ih => exact hbody _ (ih _ Relation.ReflTransGen.refl).2
    | reset _ hreset ih => exact hbody _ (hboot _ _ (D.lasting_of_safe _ ih.now) hreset)
    | cut _ hlost hreset ih =>
        exact hbody _ (hboot _ _ ((ih _ Relation.ReflTransGen.refl).2.2.1 _ hlost) hreset)
  refine ⟨hall.now, ?_, ?_⟩
  · intro op k hcall
    subst hcall
    exact (hall s Relation.ReflTransGen.refl).2.1
  · intro u hend
    subst hend
    exact (hall s Relation.ReflTransGen.refl).2

end Rules

end EnvMonitor.Device.Program
