import Mathlib.Tactic.Common

/-!
# Programs over a device that can fail

A program is a tree of calls to a device.  The device answers each call, and the
environment may let a call fail after part of its work or cut the power during
it.  This module defines the trees, their executions, and a weakest precondition
with a second postcondition for the state a power cut leaves behind.

Nothing here names a particular device: the interface, the device and the
faults the environment may choose are parameters.
-/

namespace EnvMonitor.Device

/-- The calls a device offers, with the type of the answer to each. -/
structure Interface where
  Op : Type
  Resp : Op -> Type

/-- A computation that calls the device of interface `I`. -/
inductive Program (I : Interface) (α : Type) : Type where
  | ret : α -> Program I α
  | call : (op : I.Op) -> (I.Resp op -> Program I α) -> Program I α

/-- How one call ended: completed, failed, or cut off by a loss of power.  The
number is the amount of work (in the device's own units) done before. -/
inductive Outcome where
  | completed
  | failed (work : Nat)
  | cut (work : Nat)
  deriving DecidableEq, Repr

/-- A device: its state, and what each call does to it when it completes, fails
or loses power. -/
structure Model (I : Interface) where
  State : Type
  complete : (op : I.Op) -> State -> I.Resp op × State
  fail : (op : I.Op) -> Nat -> State -> I.Resp op × State
  lose : I.Op -> Nat -> State -> State

/-- The failures and power cuts the environment may choose for each call. -/
structure Faults (I : Interface) where
  fails : I.Op -> Nat -> Prop
  cuts : I.Op -> Nat -> Prop

namespace Faults

variable {I : Interface}

/-- A device that always completes its calls. -/
def never (I : Interface) : Faults I where
  fails := fun _ _ => False
  cuts := fun _ _ => False

/-- Every failure and every power cut is possible. -/
def always (I : Interface) : Faults I where
  fails := fun _ _ => True
  cuts := fun _ _ => True

/-- Calls may be cut off, but none that returns has failed. -/
def NeverFails (F : Faults I) : Prop :=
  forall op n, ¬ F.fails op n

theorem never_neverFails : (never I).NeverFails :=
  fun _ _ h => h

end Faults

namespace Program

variable {I : Interface} {α β γ : Type}

/-!
## Sequencing
-/

def bind : Program I α -> (α -> Program I β) -> Program I β
  | .ret a, f => f a
  | .call op k, f => .call op fun r => bind (k r) f

instance : Monad (Program I) where
  pure := .ret
  bind := bind

/-- Call the device once. -/
def perform (op : I.Op) : Program I (I.Resp op) :=
  .call op .ret

theorem call_bind (op : I.Op) (k : I.Resp op -> Program I α)
    (f : α -> Program I β) :
    (Program.call op k : Program I α) >>= f =
      Program.call op fun r => k r >>= f := rfl

theorem bind_ret (p : Program I α) : p >>= (fun a => Program.ret a) = p := by
  induction p with
  | ret a => rfl
  | call op k ih =>
      rw [call_bind]
      congr 1
      funext r
      exact ih r

theorem bind_assoc (p : Program I α) (f : α -> Program I β)
    (g : β -> Program I γ) :
    (p >>= f) >>= g = p >>= fun a => f a >>= g := by
  induction p with
  | ret a => rfl
  | call op k ih =>
      simp only [call_bind]
      congr 1
      funext r
      exact ih r

instance : LawfulMonad (Program I) :=
  LawfulMonad.mk' (Program I) (fun p => bind_ret p) (fun _ _ => rfl)
    (fun p f g => bind_assoc p f g)

/-!
## Executions
-/

/-- Run a program on a device that completes every call. -/
def eval (D : Model I) : Program I α -> D.State -> α × D.State
  | .ret a, s => (a, s)
  | .call op k, s =>
      let done := D.complete op s
      eval D (k done.1) done.2

/-- Run a program against a list of outcomes, one for each call in order; calls
beyond the list complete.  The answer is `none` after a power cut. -/
def run (D : Model I) :
    List Outcome -> Program I α -> D.State -> Option α × D.State
  | _, .ret a, s => (some a, s)
  | [], .call op k, s =>
      let done := D.complete op s
      run D [] (k done.1) done.2
  | .completed :: rest, .call op k, s =>
      let done := D.complete op s
      run D rest (k done.1) done.2
  | .failed n :: rest, .call op k, s =>
      let done := D.fail op n s
      run D rest (k done.1) done.2
  | .cut n :: _, .call op _, s => (none, D.lose op n s)

/-- The state when the power is lost right after the first `k` calls. -/
def cutAfter (D : Model I) (k : Nat) (p : Program I α) (s : D.State) : D.State :=
  (p.run D (List.replicate k .completed ++ [.cut 0]) s).2

theorem cutAfter_succ (D : Model I) (k : Nat) (op : I.Op) (f : I.Resp op -> Program I α)
    (s : D.State) :
    cutAfter D (k + 1) (perform op >>= f) s =
      cutAfter D k (f (D.complete op s).1) (D.complete op s).2 := rfl

/-- `Exec D F p s r s'`: from state `s` the program can end in
`s'`, with answer `r`, or with none if the power was cut. -/
inductive Exec (D : Model I) (F : Faults I) :
    Program I α -> D.State -> Option α -> D.State -> Prop where
  | ret (a : α) (s : D.State) : Exec D F (.ret a) s (some a) s
  | completed {op : I.Op} {k : I.Resp op -> Program I α} {s s' : D.State}
      {r : Option α} :
      Exec D F (k (D.complete op s).1) (D.complete op s).2 r s' ->
      Exec D F (.call op k) s r s'
  | failed {op : I.Op} {k : I.Resp op -> Program I α} {s s' : D.State}
      {r : Option α} {n : Nat} :
      F.fails op n ->
      Exec D F (k (D.fail op n s).1) (D.fail op n s).2 r s' ->
      Exec D F (.call op k) s r s'
  | cut {op : I.Op} {k : I.Resp op -> Program I α} {s : D.State} {n : Nat} :
      F.cuts op n ->
      Exec D F (.call op k) s none (D.lose op n s)

theorem exec_eval (D : Model I) (F : Faults I) (p : Program I α)
    (s : D.State) : Exec D F p s (some (p.eval D s).1) (p.eval D s).2 := by
  induction p generalizing s with
  | ret a => exact .ret a s
  | call op k ih => exact .completed (ih _ _)

theorem exec_of_eval {D : Model I} {F : Faults I} {p : Program I α} {s s' : D.State} {a : α}
    (h : p.eval D s = (a, s')) : Exec D F p s (some a) s' := by
  have hexec := exec_eval D F p s
  rw [h] at hexec
  exact hexec

theorem eval_of_exec {D : Model I} {p : Program I α} {s s' : D.State} {r : Option α}
    (h : Exec D (Faults.never I) p s r s') : r = some (p.eval D s).1 ∧ s' = (p.eval D s).2 := by
  induction h with
  | ret a s => exact ⟨rfl, rfl⟩
  | completed _ ih => exact ih
  | failed hfail _ _ => exact hfail.elim
  | cut hcut => exact hcut.elim

/-- The faults of a script are among those the environment may choose. -/
def Allowed (D : Model I) (F : Faults I) :
    List Outcome -> Program I α -> D.State -> Prop
  | [], _, _ => True
  | _ :: _, .ret _, _ => True
  | .completed :: rest, .call op k, s =>
      Allowed D F rest (k (D.complete op s).1) (D.complete op s).2
  | .failed n :: rest, .call op k, s =>
      F.fails op n ∧ Allowed D F rest (k (D.fail op n s).1) (D.fail op n s).2
  | .cut n :: _, .call op _, _ => F.cuts op n

theorem exec_run (D : Model I) {F : Faults I} (p : Program I α) (script : List Outcome)
    (s : D.State) (h : Allowed D F script p s) :
    Exec D F p s (run D script p s).1 (run D script p s).2 := by
  induction p generalizing script s with
  | ret a => cases script <;> exact .ret a s
  | call op k ih =>
      cases script with
      | nil => exact .completed (ih _ _ _ trivial)
      | cons outcome rest =>
          cases outcome with
          | completed => exact .completed (ih _ _ _ h)
          | failed n => exact .failed h.1 (ih _ _ _ h.2)
          | cut n => exact .cut h

theorem allowed_always (D : Model I) (script : List Outcome) (p : Program I α)
    (s : D.State) : Allowed D (Faults.always I) script p s := by
  induction script generalizing p s with
  | nil => trivial
  | cons outcome rest ih =>
      cases p with
      | ret a => cases outcome <;> trivial
      | call op k =>
          cases outcome with
          | completed => exact ih _ _
          | failed n => exact ⟨trivial, ih _ _⟩
          | cut n => trivial

theorem Exec.bind {D : Model I} {F : Faults I} {p : Program I α} {f : α -> Program I β}
    {s s₁ s' : D.State} {a : α} {r : Option β} (hp : Exec D F p s (some a) s₁)
    (hf : Exec D F (f a) s₁ r s') : Exec D F (p >>= f) s r s' := by
  generalize hsome : some a = answer at hp
  induction hp with
  | ret b s =>
      cases hsome
      exact hf
  | completed _ ih => exact .completed (ih hf hsome)
  | failed hfail _ ih => exact .failed hfail (ih hf hsome)
  | cut _ => cases hsome

theorem Exec.bind_cut {D : Model I} {F : Faults I} {p : Program I α} {f : α -> Program I β}
    {s s' : D.State} (hp : Exec D F p s none s') : Exec D F (p >>= f) s none s' := by
  generalize hnone : (none : Option α) = answer at hp
  induction hp with
  | ret b s => cases hnone
  | completed _ ih => exact .completed (ih hnone)
  | failed hfail _ ih => exact .failed hfail (ih hnone)
  | cut hcut => exact .cut hcut

theorem Exec.of_bind {D : Model I} {F : Faults I} {p : Program I α} {f : α -> Program I β}
    {s s' : D.State} {r : Option β} (h : Exec D F (p >>= f) s r s') :
    (r = none ∧ Exec D F p s none s') ∨
      exists a s₁, Exec D F p s (some a) s₁ ∧ Exec D F (f a) s₁ r s' := by
  induction p generalizing s with
  | ret a => exact .inr ⟨a, s, .ret a s, h⟩
  | call op k ih =>
      rw [call_bind] at h
      cases h with
      | completed hrest =>
          rcases ih _ hrest with ⟨hnone, hcut⟩ | ⟨a, s₁, hfirst, hsecond⟩
          · exact .inl ⟨hnone, .completed hcut⟩
          · exact .inr ⟨a, s₁, .completed hfirst, hsecond⟩
      | failed hfail hrest =>
          rcases ih _ hrest with ⟨hnone, hcut⟩ | ⟨a, s₁, hfirst, hsecond⟩
          · exact .inl ⟨hnone, .failed hfail hcut⟩
          · exact .inr ⟨a, s₁, .failed hfail hfirst, hsecond⟩
      | cut hcut => exact .inl ⟨rfl, .cut hcut⟩

@[simp] theorem eval_pure (D : Model I) (a : α) (s : D.State) :
    (pure a : Program I α).eval D s = (a, s) := rfl

@[simp] theorem eval_bind (D : Model I) (p : Program I α)
    (f : α -> Program I β) (s : D.State) :
    (p >>= f).eval D s = (f (p.eval D s).1).eval D (p.eval D s).2 := by
  induction p generalizing s with
  | ret a => rfl
  | call op k ih => exact ih _ _

@[simp] theorem eval_perform (D : Model I) (op : I.Op) (s : D.State) :
    (perform op).eval D s = D.complete op s := rfl

/-!
## Weakest preconditions with a crash condition

`Q` is the postcondition of a run that returns; `C` must hold of the
state whenever the power is cut.
-/

def wp (D : Model I) (F : Faults I) (Q : α -> D.State -> Prop)
    (C : D.State -> Prop) : Program I α -> D.State -> Prop
  | .ret a, s => Q a s
  | .call op k, s =>
      wp D F Q C (k (D.complete op s).1) (D.complete op s).2 ∧
        (forall n, F.fails op n ->
          wp D F Q C (k (D.fail op n s).1) (D.fail op n s).2) ∧
        (forall n, F.cuts op n -> C (D.lose op n s))

section Rules

variable {D : Model I} {F : Faults I} {Q Q' : α -> D.State -> Prop}
variable {C C' : D.State -> Prop} {s : D.State}

@[simp] theorem wp_pure (a : α) :
    wp D F Q C (pure a : Program I α) s ↔ Q a s := Iff.rfl

@[simp] theorem wp_perform (op : I.Op) {Q : I.Resp op -> D.State -> Prop} :
    wp D F Q C (perform op) s ↔
      Q (D.complete op s).1 (D.complete op s).2 ∧
        (forall n, F.fails op n -> Q (D.fail op n s).1 (D.fail op n s).2) ∧
        (forall n, F.cuts op n -> C (D.lose op n s)) := Iff.rfl

@[simp] theorem wp_bind (p : Program I β) (f : β -> Program I α) :
    wp D F Q C (p >>= f) s ↔
      wp D F (fun b s' => wp D F Q C (f b) s') C p s := by
  induction p generalizing s with
  | ret a => exact Iff.rfl
  | call op k ih =>
      rw [call_bind]
      simp only [wp]
      constructor
      · rintro ⟨hdone, hfail, hcut⟩
        exact ⟨(ih _).mp hdone, fun n hn => (ih _).mp (hfail n hn), hcut⟩
      · rintro ⟨hdone, hfail, hcut⟩
        exact ⟨(ih _).mpr hdone, fun n hn => (ih _).mpr (hfail n hn), hcut⟩

theorem wp_mono {p : Program I α} (hQ : forall a s, Q a s -> Q' a s)
    (hC : forall s, C s -> C' s) (h : wp D F Q C p s) :
    wp D F Q' C' p s := by
  induction p generalizing s with
  | ret a => exact hQ a s h
  | call op k ih =>
      rcases h with ⟨hdone, hfail, hcut⟩
      exact ⟨ih _ hdone, fun n hn => ih _ (hfail n hn),
        fun n hn => hC _ (hcut n hn)⟩

/-- Rule of sequencing: from the postcondition of the first part follows the
weakest precondition of the second. -/
theorem wp_seq {p : Program I β} {f : β -> Program I α}
    {R : β -> D.State -> Prop} (hp : wp D F R C p s)
    (hf : forall b s', R b s' -> wp D F Q C (f b) s') :
    wp D F Q C (p >>= f) s :=
  (wp_bind p f).mpr (wp_mono hf (fun _ h => h) hp)

theorem wp_ite {c : Prop} [Decidable c] {p q : Program I α}
    (ht : c -> wp D F Q C p s) (he : ¬ c -> wp D F Q C q s) :
    wp D F Q C (if c then p else q) s := by
  by_cases h : c
  · simpa [h] using ht h
  · simpa [h] using he h

theorem wp_true (p : Program I α) (s : D.State) :
    wp D F (fun _ _ => True) (fun _ => True) p s := by
  induction p generalizing s with
  | ret a => trivial
  | call op k ih => exact ⟨ih _ _, fun _ _ => ih _ _, fun _ _ => trivial⟩

/-- What a weakest precondition promises of one execution. -/
def Ended (D : Model I) (Q : α -> D.State -> Prop) (C : D.State -> Prop) :
    Option α -> D.State -> Prop
  | some a, s => Q a s
  | none, s => C s

theorem wp_sound {p : Program I α} (h : wp D F Q C p s) {r : Option α}
    {s' : D.State} (he : Exec D F p s r s') : Ended D Q C r s' := by
  induction he with
  | ret a s => exact h
  | completed _ ih => exact ih h.1
  | failed hf _ ih => exact ih (h.2.1 _ hf)
  | cut hc => exact h.2.2 _ hc

theorem wp_returns {p : Program I α} (h : wp D F Q C p s) {a : α}
    {s' : D.State} (he : Exec D F p s (some a) s') : Q a s' :=
  wp_sound h he

theorem wp_crash {p : Program I α} (h : wp D F Q C p s) {s' : D.State}
    (he : Exec D F p s none s') : C s' :=
  wp_sound h he

theorem wp_answers {p : Program I α} (h : wp D F Q C p s) {f : α -> β} {b : β} {s' : D.State}
    (he : Exec D F (p >>= fun a => pure (f a)) s (some b) s') : exists a, b = f a ∧ Q a s' := by
  have hboth : wp D F (fun b s' => exists a, b = f a ∧ Q a s') C
      (p >>= fun a => pure (f a)) s :=
    (wp_bind p _).mpr (wp_mono (fun a _ hQ => ⟨a, rfl, hQ⟩) (fun _ hC => hC) h)
  exact wp_returns hboth he

theorem wp_never_iff {p : Program I α} :
    wp D (Faults.never I) Q C p s ↔ Q (p.eval D s).1 (p.eval D s).2 := by
  induction p generalizing s with
  | ret a => exact Iff.rfl
  | call op k ih =>
      constructor
      · intro h
        exact (ih _).mp h.1
      · intro h
        exact ⟨(ih _).mpr h, fun _ hf => hf.elim, fun _ hc => hc.elim⟩

end Rules

/-!
## Read-only programs

A program that answers `none` when a call failed and changes nothing has, from
each state, one answer besides `none`.
-/

/-- From `s` the program answers `v`, or `none` if some call failed, and leaves
the state alone. -/
def Reads (D : Model I) (F : Faults I) (p : Program I (Option α)) (s : D.State)
    (v : α) : Prop :=
  wp D F
    (fun r s' => s' = s ∧ (r = some v ∨ (r = none ∧ exists op n, F.fails op n)))
    (fun s' => s' = s) p s

theorem reads_pure {D : Model I} {F : Faults I} {s : D.State} (v : α) :
    Reads D F (pure (some v)) s v :=
  ⟨rfl, .inl rfl⟩

theorem Reads.bind {D : Model I} {F : Faults I} {s : D.State}
    {p : Program I (Option α)} {f : Option α -> Program I (Option β)} {v : α}
    {w : β} (hp : Reads D F p s v) (hnone : f none = pure none)
    (hf : Reads D F (f (some v)) s w) : Reads D F (p >>= f) s w := by
  apply wp_seq hp
  rintro r s' ⟨rfl, rfl | ⟨rfl, hfail⟩⟩
  · exact hf
  · rw [hnone]
    exact ⟨rfl, .inr ⟨rfl, hfail⟩⟩

theorem Reads.eval_eq {D : Model I} {p : Program I (Option α)} {s : D.State}
    {v : α} (h : Reads D (Faults.never I) p s v) : p.eval D s = (some v, s) := by
  obtain ⟨hstate, hval | ⟨_, _, _, hfail⟩⟩ := wp_never_iff.mp h
  · exact Prod.ext hval hstate
  · exact hfail.elim

/-!
## Frame rule

A program that only makes calls from a set `P` keeps every property of the
device that no call of `P` can break.
-/

def Uses (P : I.Op -> Prop) : Program I α -> Prop
  | .ret _ => True
  | .call op k => P op ∧ forall r, Uses P (k r)

@[simp] theorem uses_pure (P : I.Op -> Prop) (a : α) :
    Uses P (pure a : Program I α) := trivial

theorem uses_bind {P : I.Op -> Prop} {p : Program I α}
    {f : α -> Program I β} (hp : Uses P p) (hf : forall a, Uses P (f a)) :
    Uses P (p >>= f) := by
  induction p with
  | ret a => exact hf a
  | call op k ih => exact ⟨hp.1, fun r => ih r (hp.2 r)⟩

theorem uses_ite {P : I.Op -> Prop} {c : Prop} [Decidable c]
    {p q : Program I α} (hp : Uses P p) (hq : Uses P q) :
    Uses P (if c then p else q) := by
  by_cases h : c
  · simpa [h] using hp
  · simpa [h] using hq

/-- `Inv` survives the call `op`, however it ends. -/
structure Keeps (D : Model I) (op : I.Op) (Inv : D.State -> Prop) : Prop where
  complete : forall s, Inv s -> Inv (D.complete op s).2
  fail : forall n s, Inv s -> Inv (D.fail op n s).2
  lose : forall n s, Inv s -> Inv (D.lose op n s)

theorem wp_of_uses {D : Model I} {F : Faults I} {P : I.Op -> Prop}
    {Inv : D.State -> Prop} (hkeeps : forall op, P op -> Keeps D op Inv)
    {p : Program I α} (hp : Uses P p) {s : D.State} (hs : Inv s) :
    wp D F (fun _ s' => Inv s') Inv p s := by
  induction p generalizing s with
  | ret a => exact hs
  | call op k ih =>
      rcases hp with ⟨hop, hk⟩
      have keeps := hkeeps op hop
      exact ⟨ih _ (hk _) (keeps.complete s hs),
        fun n _ => ih _ (hk _) (keeps.fail n s hs),
        fun n _ => keeps.lose n s hs⟩

/-!
## Whatever the device answers

`Within A P Q p`: against every device whose answers satisfy `A`, the program `p` makes only
calls from `P` and answers a value with `Q`.  It says which calls a program can make and how
its answer hangs together, without a word about the state of the device.
-/

def Within (A : (op : I.Op) -> I.Resp op -> Prop) (P : I.Op -> Prop) (Q : α -> Prop) :
    Program I α -> Prop
  | .ret a => Q a
  | .call op k => P op ∧ forall r, A op r -> Within A P Q (k r)

/-- Completed or failed, the calls of a device are answered by `A`. -/
structure AnswersBy (D : Model I) (A : (op : I.Op) -> I.Resp op -> Prop) : Prop where
  complete : forall op s, A op (D.complete op s).1
  fail : forall op n s, A op (D.fail op n s).1

section Within

variable {A : (op : I.Op) -> I.Resp op -> Prop} {P P' : I.Op -> Prop} {Q Q' : α -> Prop}

theorem Within.mono {p : Program I α} (h : Within A P Q p) (hP : forall op, P op -> P' op)
    (hQ : forall a, Q a -> Q' a) : Within A P' Q' p := by
  induction p with
  | ret a => exact hQ a h
  | call op k ih => exact ⟨hP op h.1, fun r hr => ih r (h.2 r hr)⟩

theorem Within.bind {R : β -> Prop} {p : Program I β} {f : β -> Program I α}
    (hp : Within A P R p) (hf : forall b, R b -> Within A P Q (f b)) :
    Within A P Q (p >>= f) := by
  induction p with
  | ret b => exact hf b hp
  | call op k ih => exact ⟨hp.1, fun r hr => ih r (hp.2 r hr)⟩

theorem within_ite {c : Prop} [Decidable c] {p q : Program I α} (ht : c -> Within A P Q p)
    (he : ¬ c -> Within A P Q q) : Within A P Q (if c then p else q) := by
  by_cases h : c
  · simpa [h] using ht h
  · simpa [h] using he h

theorem within_true (p : Program I α) : Within A (fun _ => True) (fun _ => True) p := by
  induction p with
  | ret a => trivial
  | call op k ih => exact ⟨trivial, fun r _ => ih r⟩

/-- Frame rule: what no call of `P` can break holds at the end and at every power cut, and
the answer is one the program can give. -/
theorem wp_of_within {D : Model I} {F : Faults I} {Inv : D.State -> Prop}
    (hA : AnswersBy D A) (hkeeps : forall op, P op -> Keeps D op Inv) {p : Program I α}
    (hp : Within A P Q p) {s : D.State} (hs : Inv s) :
    wp D F (fun a s' => Q a ∧ Inv s') Inv p s := by
  induction p generalizing s with
  | ret a => exact ⟨hp, hs⟩
  | call op k ih =>
      rcases hp with ⟨hop, hk⟩
      have keeps := hkeeps op hop
      exact ⟨ih _ (hk _ (hA.complete op s)) (keeps.complete s hs),
        fun n _ => ih _ (hk _ (hA.fail op n s)) (keeps.fail n s hs),
        fun n _ => keeps.lose n s hs⟩

theorem wp_and {D : Model I} {F : Faults I} {Q Q' : α -> D.State -> Prop}
    {C C' : D.State -> Prop} {p : Program I α} {s : D.State} (h : wp D F Q C p s)
    (h' : wp D F Q' C' p s) :
    wp D F (fun a s' => Q a s' ∧ Q' a s') (fun s' => C s' ∧ C' s') p s := by
  induction p generalizing s with
  | ret a => exact ⟨h, h'⟩
  | call op k ih =>
      exact ⟨ih _ h.1 h'.1, fun n hn => ih _ (h.2.1 n hn) (h'.2.1 n hn),
        fun n hn => ⟨h.2.2 n hn, h'.2.2 n hn⟩⟩

end Within

end Program
end EnvMonitor.Device
