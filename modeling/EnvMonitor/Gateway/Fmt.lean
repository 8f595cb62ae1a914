import EnvMonitor.Numerics.Decimal
import Mathlib.Tactic.FieldSimp
import Mathlib.Tactic.Linarith
import Mathlib.Tactic.NormNum

/-!
# Fixed-point text

`fmt_fixed` prints a number of units of a decimal scale, `fmt_parse_fixed` reads one.
-/

namespace EnvMonitor.Gateway.Fmt

open Numerics

/-!
## Model
-/

/-- A conversion to `int32_t`. -/
def toInt32 (n : Int) : Int := n.bmod (2 ^ 32)

/-- The parts of a decimal number. -/
structure FixedNumeral where
  /-- Nothing, `-` or `+`. -/
  sign : Option Bool
  whole : List UInt8
  /-- Behind the point; without digits there is none. -/
  fraction : List UInt8

/-- What is written. -/
def FixedNumeral.text (t : FixedNumeral) : List UInt8 :=
  (match t.sign with
    | none => []
    | some true => [0x2D]
    | some false => [0x2B]) ++ t.whole ++
    if t.fraction = [] then [] else 0x2E :: t.fraction

/-- The exact value. -/
def FixedNumeral.value (t : FixedNumeral) : ℚ :=
  let magnitude : ℚ :=
    digitsValue t.whole + digitsValue t.fraction / 10 ^ t.fraction.length
  if t.sign = some true then -magnitude else magnitude

structure FixedNumeral.Fits (t : FixedNumeral) (places : Nat) : Prop where
  whole_pos : 1 ≤ t.whole.length
  whole_le : t.whole.length ≤ 9
  whole_digits : forall c, c ∈ t.whole -> isdigit c = true
  fraction_le : t.fraction.length ≤ places
  fraction_digits : forall c, c ∈ t.fraction -> isdigit c = true

/-!
## Scales
-/

/-- A fraction with its point, or nothing. -/
def pointed (fraction : List UInt8) : List UInt8 :=
  if fraction = [] then [] else 0x2E :: fraction

def signText : Option Bool -> List UInt8
  | none => []
  | some true => [0x2D]
  | some false => [0x2B]

theorem FixedNumeral.text_eq (t : FixedNumeral) :
    t.text = signText t.sign ++ (t.whole ++ pointed t.fraction) := by
  rw [← List.append_assoc]
  rfl

end EnvMonitor.Gateway.Fmt
