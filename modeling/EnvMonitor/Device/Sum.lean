import EnvMonitor.Device.Program

/-!
# Two devices side by side

A program over one device is also a program over that device beside another one.  Its
executions are those over the one device; the other stays as it is.
-/

namespace EnvMonitor.Device

namespace Interface

/-- The calls of either device. -/
abbrev sum (I J : Interface) : Interface where
  Op := I.Op ⊕ J.Op
  Resp := Sum.elim I.Resp J.Resp

end Interface

namespace Model

variable {I J : Interface}

abbrev sum (D : Model I) (E : Model J) : Model (I.sum J) where
  State := D.State × E.State
  complete
    | .inl op, s => ((D.complete op s.1).1, (D.complete op s.1).2, s.2)
    | .inr op, s => ((E.complete op s.2).1, s.1, (E.complete op s.2).2)
  fail
    | .inl op, n, s => ((D.fail op n s.1).1, (D.fail op n s.1).2, s.2)
    | .inr op, n, s => ((E.fail op n s.2).1, s.1, (E.fail op n s.2).2)
  lose
    | .inl op, n, s => (D.lose op n s.1, s.2)
    | .inr op, n, s => (s.1, E.lose op n s.2)

end Model

namespace Faults

variable {I J : Interface}

def left (F : Faults (I.sum J)) : Faults I where
  fails := fun op n => F.fails (.inl op) n
  cuts := fun op n => F.cuts (.inl op) n

def right (F : Faults (I.sum J)) : Faults J where
  fails := fun op n => F.fails (.inr op) n
  cuts := fun op n => F.cuts (.inr op) n

end Faults

namespace Program

variable {I J : Interface} {α β : Type}

def inLeft : Program I α -> Program (I.sum J) α
  | .ret a => .ret a
  | .call op k => .call (I := I.sum J) (.inl op) fun r => inLeft (k r)

def inRight : Program J α -> Program (I.sum J) α
  | .ret a => .ret a
  | .call op k => .call (I := I.sum J) (.inr op) fun r => inRight (k r)

variable {D : Model I} {E : Model J} {F : Faults (I.sum J)}
variable {Q : α -> (D.sum E).State -> Prop} {C : (D.sum E).State -> Prop}
variable {s : D.State} {t : E.State}

theorem wp_inLeft (p : Program I α) :
    (inLeft p).wp (D.sum E) F Q C (s, t) ↔
      p.wp D F.left (fun a s' => Q a (s', t)) (fun s' => C (s', t)) s := by
  induction p generalizing s with
  | ret a => exact Iff.rfl
  | call op k ih =>
      constructor
      · intro h
        rcases h with ⟨hdone, hfail, hcut⟩
        exact ⟨(ih _).mp hdone, fun n hn => (ih _).mp (hfail n hn), hcut⟩
      · intro h
        rcases h with ⟨hdone, hfail, hcut⟩
        exact ⟨(ih _).mpr hdone, fun n hn => (ih _).mpr (hfail n hn), hcut⟩

theorem wp_inRight (p : Program J α) :
    (inRight p).wp (D.sum E) F Q C (s, t) ↔
      p.wp E F.right (fun a t' => Q a (s, t')) (fun t' => C (s, t')) t := by
  induction p generalizing t with
  | ret a => exact Iff.rfl
  | call op k ih =>
      constructor
      · intro h
        rcases h with ⟨hdone, hfail, hcut⟩
        exact ⟨(ih _).mp hdone, fun n hn => (ih _).mp (hfail n hn), hcut⟩
      · intro h
        rcases h with ⟨hdone, hfail, hcut⟩
        exact ⟨(ih _).mpr hdone, fun n hn => (ih _).mpr (hfail n hn), hcut⟩

theorem exec_inLeft {p : Program I α} {s' : D.State} {r : Option α}
    (h : Exec D F.left p s r s') : Exec (D.sum E) F (inLeft p) (s, t) r (s', t) := by
  induction h with
  | ret a s => exact Exec.ret (D := D.sum E) a (s, t)
  | completed _ ih => exact Exec.completed (D := D.sum E) ih
  | failed hfail _ ih => exact Exec.failed (D := D.sum E) hfail ih
  | cut hcut => exact Exec.cut (D := D.sum E) (s := (_, t)) hcut

theorem exec_inRight {p : Program J α} {t' : E.State} {r : Option α}
    (h : Exec E F.right p t r t') : Exec (D.sum E) F (inRight p) (s, t) r (s, t') := by
  induction h with
  | ret a t => exact Exec.ret (D := D.sum E) a (s, t)
  | completed _ ih => exact Exec.completed (D := D.sum E) ih
  | failed hfail _ ih => exact Exec.failed (D := D.sum E) hfail ih
  | cut hcut => exact Exec.cut (D := D.sum E) (s := (s, _)) hcut

/-- The answers of either device. -/
def eitherAnswer (A : (op : I.Op) -> I.Resp op -> Prop) (B : (op : J.Op) -> J.Resp op -> Prop) :
    (op : (I.sum J).Op) -> (I.sum J).Resp op -> Prop
  | .inl op, r => A op r
  | .inr op, r => B op r

section Within

variable {A : (op : I.Op) -> I.Resp op -> Prop} {B : (op : J.Op) -> J.Resp op -> Prop}

theorem AnswersBy.sum (hA : AnswersBy D A) (hB : AnswersBy E B) :
    AnswersBy (D.sum E) (eitherAnswer A B) where
  complete op s := by
    cases op with
    | inl op => exact hA.complete op s.1
    | inr op => exact hB.complete op s.2
  fail op n s := by
    cases op with
    | inl op => exact hA.fail op n s.1
    | inr op => exact hB.fail op n s.2

theorem Within.inLeft {P : I.Op -> Prop} {Q : α -> Prop} {p : Program I α}
    (h : Within A P Q p) :
    Within (I := I.sum J) (eitherAnswer A B) (Sum.elim P (fun _ => False)) Q (inLeft p) := by
  induction p with
  | ret a => exact h
  | call op k ih => exact ⟨h.1, fun r hr => ih r (h.2 r hr)⟩

theorem Within.inRight {P : J.Op -> Prop} {Q : α -> Prop} {p : Program J α}
    (h : Within B P Q p) :
    Within (I := I.sum J) (eitherAnswer A B) (Sum.elim (fun _ => False) P) Q (inRight p) := by
  induction p with
  | ret a => exact h
  | call op k ih => exact ⟨h.1, fun r hr => ih r (h.2 r hr)⟩

end Within

theorem eval_inLeft (p : Program I α) :
    (inLeft p).eval (D.sum E) (s, t) = ((p.eval D s).1, (p.eval D s).2, t) := by
  induction p generalizing s with
  | ret a => rfl
  | call op k ih => exact ih _

theorem eval_inRight (p : Program J α) :
    (inRight p).eval (D.sum E) (s, t) = ((p.eval E t).1, s, (p.eval E t).2) := by
  induction p generalizing t with
  | ret a => rfl
  | call op k ih => exact ih _

end Program
end EnvMonitor.Device
