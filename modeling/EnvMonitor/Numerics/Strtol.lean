import Mathlib.Data.List.TakeWhile
import Mathlib.Order.Bounds.Basic
import Mathlib.Tactic.Common

/-!
# Decimal numerals and `strtol`

A numeral is an optional sign and at least one digit.  `strtol` of the C library, in base ten, reads
the numeral at the front of a string, behind white space, and returns the nearest value between the
bounds of its result type.
-/

namespace EnvMonitor.Numerics

/-- In the C locale: space, and tab to carriage return. -/
def isspace (c : UInt8) : Bool := c = 0x20 || (0x09 ≤ c && c ≤ 0x0D)

def isdigit (c : UInt8) : Bool := 0x30 ≤ c && c ≤ 0x39

def digitsValue (digits : List UInt8) : Nat :=
  digits.foldl (fun value c => 10 * value + (c.toNat - 0x30)) 0

def signed (negative : Bool) (digits : List UInt8) : Int :=
  if negative then -(digitsValue digits) else digitsValue digits

/-- The sign in front of a numeral, and what follows. -/
def splitSign : List UInt8 -> Bool × List UInt8
  | 0x2D :: rest => (true, rest)
  | 0x2B :: rest => (false, rest)
  | rest => (false, rest)

/-- The number a string stands for, if it is a numeral. -/
def numeral (s : List UInt8) : Option Int :=
  let (negative, digits) := splitSign s
  if digits ≠ [] ∧ digits.all isdigit then some (signed negative digits) else none

def clamp (lo hi n : Int) : Int := max lo (min hi n)

/-- The value and what is left of the string; without a digit that is the whole string. -/
def strtol (lo hi : Int) (s : List UInt8) : Int × List UInt8 :=
  let (negative, rest) := splitSign (s.dropWhile isspace)
  let digits := rest.takeWhile isdigit
  if digits = [] then (0, s) else (clamp lo hi (signed negative digits), rest.dropWhile isdigit)

/-- What a caller takes that wants the whole string to be the number. -/
def wholeNumber (lo hi : Int) (s : List UInt8) : Option Int :=
  let (value, rest) := strtol lo hi s
  if rest = s ∨ rest ≠ [] then none else some value

theorem clamp_eq {lo hi n : Int} (hlo : lo ≤ n) (hhi : n ≤ hi) : clamp lo hi n = n := by
  unfold clamp
  rw [min_eq_right hhi, max_eq_right hlo]

/-- For a string without white space in front, the whole string is taken exactly when it is a
numeral. -/
theorem wholeNumber_eq (lo hi : Int) {s : List UInt8}
    (hspace : forall c, c ∈ s -> isspace c = false) :
    wholeNumber lo hi s = (numeral s).map (clamp lo hi) := by
  have hfront : s.dropWhile isspace = s := by
    cases s with
    | nil => rfl
    | cons c rest =>
        apply List.dropWhile_cons_of_neg
        rw [hspace c List.mem_cons_self]
        decide
  unfold wholeNumber strtol numeral
  rw [hfront]
  rcases hsign : splitSign s with ⟨negative, digits⟩
  dsimp only
  by_cases hnone : digits.takeWhile isdigit = []
  · rw [if_pos hnone]
    have hbad : ¬(digits ≠ [] ∧ digits.all isdigit = true) := by
      intro h
      have hall := List.takeWhile_eq_self_iff.mpr (List.all_eq_true.mp h.2)
      exact h.1 (hall.symm.trans hnone)
    rw [if_neg hbad]
    exact if_pos (.inl rfl)
  · rw [if_neg hnone]
    dsimp only
    have hne : digits ≠ [] := fun h => hnone (by rw [h]; rfl)
    by_cases hall : digits.all isdigit = true
    · have htake := List.takeWhile_eq_self_iff.mpr (List.all_eq_true.mp hall)
      have hdrop : digits.dropWhile isdigit = [] :=
        List.dropWhile_eq_nil_iff.mpr (List.all_eq_true.mp hall)
      have hs : s ≠ [] := by
        intro h
        rw [h] at hsign
        cases hsign
        exact hne rfl
      rw [htake, hdrop, if_neg (fun h => h.elim (fun hself => hs hself.symm) (fun hend => hend rfl)),
        if_pos ⟨hne, hall⟩]
      rfl
    · have hdrop : digits.dropWhile isdigit ≠ [] :=
        fun h => hall (List.all_eq_true.mpr (List.dropWhile_eq_nil_iff.mp h))
      rw [if_pos (.inr hdrop), if_neg (fun h => hall h.2)]
      rfl

end EnvMonitor.Numerics
