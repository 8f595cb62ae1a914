import Mathlib.Data.List.Basic
import Mathlib.Data.List.GetD
import Mathlib.Tactic.Common

/-!
# Byte memories that program like NOR flash

Programming can only clear bits; erasing sets a range back to all ones.  The
lemmas read a range of the memory back after a program or an erase, either
inside the range that changed or outside it.
-/

namespace EnvMonitor.Device

/-- A byte at every address. -/
abbrev Memory := Nat -> UInt8

/-- Value of an erased byte. -/
def erasedByte : UInt8 := 0xFF

theorem erasedByte_and (b : UInt8) : erasedByte &&& b = b := by
  show (-1 : UInt8) &&& b = b
  exact UInt8.neg_one_and

namespace Memory

/-- The `n` bytes from address `a` on. -/
def slice (m : Memory) (a : Nat) : Nat -> List UInt8
  | 0 => []
  | n + 1 => m a :: slice m (a + 1) n

/-- Program `d` at address `a`: each bit of the memory stays set only if the
programmed bit is set too. -/
def program (m : Memory) (a : Nat) (d : List UInt8) : Memory :=
  fun x =>
    if a <= x ∧ x < a + d.length then m x &&& d.getD (x - a) erasedByte else m x

/-- Erase the `n` bytes from address `a` on. -/
def erase (m : Memory) (a n : Nat) : Memory :=
  fun x => if a <= x ∧ x < a + n then erasedByte else m x

/-- Every byte of the range is erased. -/
def Blank (m : Memory) (a n : Nat) : Prop :=
  forall x, a <= x -> x < a + n -> m x = erasedByte

/-- The two memories agree on the range. -/
def SameOn (m m' : Memory) (a n : Nat) : Prop :=
  forall x, a <= x -> x < a + n -> m' x = m x

/-- The two memories agree outside the range. -/
def SameOutside (m m' : Memory) (a n : Nat) : Prop :=
  forall x, x < a ∨ a + n <= x -> m' x = m x

/-!
## Reading ranges
-/

variable {m m' m'' : Memory} {a b n k : Nat} {d e : List UInt8}

@[simp] theorem slice_zero (m : Memory) (a : Nat) : m.slice a 0 = [] := rfl

@[simp] theorem slice_length (m : Memory) (a n : Nat) :
    (m.slice a n).length = n := by
  induction n generalizing a with
  | zero => rfl
  | succ n ih => simp [slice, ih]

theorem slice_add (m : Memory) (a n k : Nat) :
    m.slice a (n + k) = m.slice a n ++ m.slice (a + n) k := by
  induction n generalizing a with
  | zero => simp
  | succ n ih =>
      rw [show n + 1 + k = (n + k) + 1 by omega]
      show m a :: m.slice (a + 1) (n + k) = m a :: _ ++ _
      rw [ih, show a + 1 + n = a + (n + 1) by omega]
      rfl

theorem slice_congr (h : SameOn m m' a n) : m'.slice a n = m.slice a n := by
  induction n generalizing a with
  | zero => rfl
  | succ n ih =>
      show m' a :: m'.slice (a + 1) n = m a :: m.slice (a + 1) n
      rw [h a (by omega) (by omega), ih fun x hlo hhi => h x (by omega) (by omega)]

theorem slice_take (m : Memory) (a : Nat) (h : k <= n) :
    m.slice a k = (m.slice a n).take k := by
  have hsplit := slice_add m a k (n - k)
  rw [show k + (n - k) = n by omega] at hsplit
  rw [hsplit, List.take_append_of_le_length (by simp), List.take_of_length_le (by simp)]

theorem slice_drop (m : Memory) (a : Nat) (h : k <= n) :
    m.slice (a + k) (n - k) = (m.slice a n).drop k := by
  have hsplit := slice_add m a k (n - k)
  rw [show k + (n - k) = n by omega] at hsplit
  rw [hsplit, List.drop_append_of_le_length (by simp), List.drop_of_length_le (by simp)]
  rfl

theorem slice_of_blank (h : Blank m a n) :
    m.slice a n = List.replicate n erasedByte := by
  induction n generalizing a with
  | zero => rfl
  | succ n ih =>
      show m a :: m.slice (a + 1) n = _
      rw [h a (by omega) (by omega), ih fun x hlo hhi => h x (by omega) (by omega)]
      rfl

theorem blank_of_slice (h : m.slice a n = List.replicate n erasedByte) :
    Blank m a n := by
  induction n generalizing a with
  | zero => exact fun x hlo hhi => by omega
  | succ n ih =>
      have h' : m a :: m.slice (a + 1) n =
          erasedByte :: List.replicate n erasedByte := h
      injection h' with hhead htail
      intro x hlo hhi
      by_cases hx : x = a
      · rw [hx, hhead]
      · exact ih htail x (by omega) (by omega)

/-!
## Agreement on a range
-/

theorem SameOn.refl (m : Memory) (a n : Nat) : SameOn m m a n :=
  fun _ _ _ => rfl

theorem SameOn.trans (h : SameOn m m' a n) (h' : SameOn m' m'' a n) :
    SameOn m m'' a n :=
  fun x hlo hhi => (h' x hlo hhi).trans (h x hlo hhi)

theorem SameOn.sub (h : SameOn m m' a n) (hlo : a <= b) (hhi : b + k <= a + n) :
    SameOn m m' b k :=
  fun x hx hx' => h x (by omega) (by omega)

theorem Blank.congr (h : Blank m a n) (hsame : SameOn m m' a n) :
    Blank m' a n :=
  fun x hlo hhi => (hsame x hlo hhi).trans (h x hlo hhi)

theorem Blank.sub (h : Blank m a n) (hlo : a <= b) (hhi : b + k <= a + n) :
    Blank m b k :=
  fun x hx hx' => h x (by omega) (by omega)

theorem SameOutside.refl (m : Memory) (a n : Nat) : SameOutside m m a n :=
  fun _ _ => rfl

theorem SameOutside.trans (h : SameOutside m m' a n)
    (h' : SameOutside m' m'' a n) : SameOutside m m'' a n :=
  fun x hx => (h' x hx).trans (h x hx)

theorem SameOutside.widen (h : SameOutside m m' b k) (hlo : a <= b)
    (hhi : b + k <= a + n) : SameOutside m m' a n :=
  fun x hx => h x (by omega)

theorem SameOutside.sameOn (h : SameOutside m m' a n)
    (hdisjoint : b + k <= a ∨ a + n <= b) : SameOn m m' b k :=
  fun x hlo hhi => h x (by omega)

/-!
## Programming
-/

@[simp] theorem program_nil (m : Memory) (a : Nat) : m.program a [] = m := by
  funext x
  unfold program
  rw [if_neg (by simp)]

theorem program_sameOutside (m : Memory) (a : Nat) (d : List UInt8) :
    SameOutside m (m.program a d) a d.length := by
  intro x hx
  unfold program
  rw [if_neg (by omega)]

theorem program_outside (h : b + n <= a ∨ a + d.length <= b) :
    SameOn m (m.program a d) b n :=
  (program_sameOutside m a d).sameOn h

theorem program_append (m : Memory) (a : Nat) (d e : List UInt8) :
    m.program a (d ++ e) = (m.program a d).program (a + d.length) e := by
  funext x
  unfold program
  by_cases hd : a <= x ∧ x < a + d.length
  · have hin : a <= x ∧ x < a + (d ++ e).length := by
      simp only [List.length_append]
      omega
    rw [if_pos hin, if_neg (by omega), if_pos hd, List.getD_append _ _ _ _ (by omega)]
  · by_cases he : a + d.length <= x ∧ x < a + d.length + e.length
    · have hin : a <= x ∧ x < a + (d ++ e).length := by
        simp only [List.length_append]
        omega
      rw [if_pos hin, if_pos he, if_neg hd, List.getD_append_right _ _ _ _ (by omega),
        show x - a - d.length = x - (a + d.length) by omega]
    · have hout : ¬ (a <= x ∧ x < a + (d ++ e).length) := by
        simp only [List.length_append]
        omega
      rw [if_neg hout, if_neg he, if_neg hd]

theorem program_at (hlo : a <= b) (hhi : b < a + d.length)
    (h : m b = erasedByte) : m.program a d b = d.getD (b - a) erasedByte := by
  unfold program
  rw [if_pos ⟨hlo, hhi⟩, h]
  exact erasedByte_and _

theorem slice_program (h : Blank m a d.length) :
    (m.program a d).slice a d.length = d := by
  induction d generalizing m a with
  | nil => rfl
  | cons byte d ih =>
      have hstep : m.program a (byte :: d) = (m.program a [byte]).program (a + 1) d := by
        simpa using program_append m a [byte] d
      have hhead : m.program a [byte] a = byte := by
        rw [program_at (by omega) (by simp) (h a (by omega) (by simp))]
        simp
      have hblank : Blank (m.program a [byte]) (a + 1) d.length := by
        apply Blank.congr (m := m)
        · exact h.sub (by omega) (by simp only [List.length_cons]; omega)
        · exact program_outside (by simp)
      show (m.program a (byte :: d)) a :: (m.program a (byte :: d)).slice (a + 1) d.length = _
      rw [hstep, ih hblank]
      have hkeep : SameOn (m.program a [byte])
          ((m.program a [byte]).program (a + 1) d) a 1 :=
        program_outside (by omega)
      rw [hkeep a (by omega) (by omega), hhead]

theorem slice_program_blank (h : Blank m a n) (hlen : d.length <= n) :
    (m.program a d).slice a n = d ++ List.replicate (n - d.length) erasedByte := by
  have hsplit := slice_add (m.program a d) a d.length (n - d.length)
  rw [show d.length + (n - d.length) = n by omega] at hsplit
  have hrest : Blank (m.program a d) (a + d.length) (n - d.length) := by
    apply Blank.congr (m := m)
    · exact h.sub (by omega) (by omega)
    · exact program_outside (by omega)
  rw [hsplit, slice_program (h.sub (Nat.le_refl a) (by omega)), slice_of_blank hrest]

/-!
## Erasing
-/

@[simp] theorem erase_zero (m : Memory) (a : Nat) : m.erase a 0 = m := by
  funext x
  unfold erase
  rw [if_neg (by omega)]

theorem erase_sameOutside (m : Memory) (a n : Nat) :
    SameOutside m (m.erase a n) a n := by
  intro x hx
  unfold erase
  rw [if_neg (by omega)]

theorem erase_blank (m : Memory) (a n : Nat) : Blank (m.erase a n) a n := by
  intro x hlo hhi
  unfold erase
  rw [if_pos ⟨hlo, hhi⟩]

/-!
## Two memories that change alike
-/

theorem SameOutside.program (h : SameOutside m m' a n) (b : Nat) (d : List UInt8) :
    SameOutside (m.program b d) (m'.program b d) a n := by
  intro x hx
  unfold Memory.program
  rw [h x hx]

theorem SameOutside.erase (h : SameOutside m m' a n) (b k : Nat) :
    SameOutside (m.erase b k) (m'.erase b k) a n := by
  intro x hx
  unfold Memory.erase
  rw [h x hx]

theorem SameOutside.erase_all (h : SameOutside m m' a n) (hlo : b <= a)
    (hhi : a + n <= b + k) : m'.erase b k = m.erase b k := by
  funext x
  unfold Memory.erase
  by_cases hx : b <= x ∧ x < b + k
  · rw [if_pos hx, if_pos hx]
  · rw [if_neg hx, if_neg hx]
    exact h x (by omega)

end Memory
end EnvMonitor.Device
