import Mathlib.Data.List.TakeWhile
import Mathlib.Tactic.Common

/-!
# Flat objects

One JSON object whose members are integers, as a grammar over bytes: which bytes are such an
object, and of which members.
-/

namespace FlatJson

/-- JSON white space. -/
def isBlank (c : UInt8) : Bool := c == 0x20 || c == 0x09 || c == 0x0D || c == 0x0A

def isDigit (c : UInt8) : Bool := 0x30 ≤ c && c ≤ 0x39

/-- White space, or nothing. -/
def Blank (bytes : List UInt8) : Prop := forall c, c ∈ bytes -> isBlank c = true

/-- A key as it stands between its quotes, written without escapes. -/
def PlainKey (key : List UInt8) : Prop :=
  forall c, c ∈ key -> 0x20 ≤ c ∧ c ≠ 0x22 ∧ c ≠ 0x5C

/-- The number the digits stand for, behind one that is there already. -/
def digitsValue (digits : List UInt8) (value : Nat) : Nat :=
  digits.foldl (fun v c => v * 10 + (c.toNat - 0x30)) value

/-- An optional minus and `1 .. maxDigits` digits. -/
inductive IntegerText (maxDigits : Nat) : List UInt8 -> Int -> Prop where
  | positive {digits : List UInt8} : digits ≠ [] -> digits.length ≤ maxDigits ->
      (forall c, c ∈ digits -> isDigit c = true) ->
      IntegerText maxDigits digits (digitsValue digits 0 : Nat)
  | negative {digits : List UInt8} : digits ≠ [] -> digits.length ≤ maxDigits ->
      (forall c, c ∈ digits -> isDigit c = true) ->
      IntegerText maxDigits (0x2D :: digits) (-(digitsValue digits 0 : Nat))

/-- The digits behind the sign. -/
def unsigned (text : List UInt8) : List UInt8 :=
  if text.head? = some 0x2D then text.tail else text

/-- A JSON number that is an integer: no digit in front of the others is a zero. -/
def StrictInteger (maxDigits : Nat) (text : List UInt8) (value : Int) : Prop :=
  IntegerText maxDigits text value ∧
    ((unsigned text).head? = some 0x30 -> (unsigned text).length = 1)

section Grammar

variable (Value : List UInt8 -> Int -> Prop)

/-- White space, the key in quotes, a colon and a value. -/
inductive MemberText : List UInt8 -> List UInt8 -> Int -> Prop where
  | mk {before key middle front text : List UInt8} {value : Int} :
      Blank before -> PlainKey key -> Blank middle -> Blank front -> Value text value ->
      MemberText (before ++ 0x22 :: (key ++ 0x22 :: (middle ++ 0x3A :: (front ++ text)))) key value

/-- Members with commas between them. -/
inductive MembersText : List UInt8 -> List (List UInt8 × Int) -> Prop where
  | last {bytes after key : List UInt8} {value : Int} :
      MemberText Value bytes key value -> Blank after ->
      MembersText (bytes ++ after) [(key, value)]
  | more {bytes after key rest : List UInt8} {value : Int} {members : List (List UInt8 × Int)} :
      MemberText Value bytes key value -> Blank after -> MembersText rest members ->
      MembersText (bytes ++ (after ++ 0x2C :: rest)) ((key, value) :: members)

/-- One object of these members, with nothing but white space around it. -/
inductive ObjectText : List UInt8 -> List (List UInt8 × Int) -> Prop where
  | mk {before body after : List UInt8} {members : List (List UInt8 × Int)} :
      Blank before -> MembersText Value body members -> Blank after ->
      ObjectText (before ++ 0x7B :: (body ++ 0x7D :: after)) members

variable {Value}

theorem MembersText.first {body : List UInt8} {members : List (List UInt8 × Int)}
    (h : MembersText Value body members) (closed : List UInt8) :
    exists bytes key value after c rest, MemberText Value bytes key value ∧ Blank after ∧
      (c = 0x2C ∨ c = 0x7D) ∧ body ++ 0x7D :: closed = bytes ++ (after ++ c :: rest) := by
  cases h with
  | @last bytes after key value hmember hafter =>
      exact ⟨bytes, key, value, after, 0x7D, closed, hmember, hafter, .inr rfl,
        List.append_assoc ..⟩
  | @more bytes after key rest value _ hmember hafter _ =>
      refine ⟨bytes, key, value, after, 0x2C, rest ++ 0x7D :: closed, hmember, hafter, .inl rfl, ?_⟩
      simp only [List.append_assoc, List.cons_append]

end Grammar

/-!
## Blanks and plain texts in front of a byte
-/

section Cutting

variable {p : UInt8 -> Bool} {xs ys xs' ys' : List UInt8} {c : UInt8}

theorem dropWhile_exact (hxs : forall c, c ∈ xs -> p c = true)
    (hys : forall c, ys.head? = some c -> p c = false) : (xs ++ ys).dropWhile p = ys := by
  induction xs with
  | nil =>
      cases ys with
      | nil => rfl
      | cons c ys =>
          change (c :: ys).dropWhile p = c :: ys
          rw [List.dropWhile_cons_of_neg]
          rw [hys c rfl]
          decide
  | cons c xs ih =>
      change (c :: (xs ++ ys)).dropWhile p = ys
      rw [List.dropWhile_cons_of_pos (hxs c List.mem_cons_self)]
      exact ih fun c hc => hxs c (List.mem_cons_of_mem _ hc)

theorem blank_takeWhile (bytes : List UInt8) : Blank (bytes.takeWhile isBlank) :=
  fun _ h => List.mem_takeWhile_imp h

theorem append_cons_inj (hxs : c ∉ xs) (hxs' : c ∉ xs') (h : xs ++ c :: ys = xs' ++ c :: ys') :
    xs = xs' ∧ ys = ys' := by
  induction xs generalizing xs' with
  | nil =>
      cases xs' with
      | nil =>
          injection h with _ hrest
          exact ⟨rfl, hrest⟩
      | cons d xs' =>
          injection h with hd _
          exact absurd (by rw [hd]; exact List.mem_cons_self) hxs'
  | cons d xs ih =>
      cases xs' with
      | nil =>
          injection h with hd _
          exact absurd (by rw [← hd]; exact List.mem_cons_self) hxs
      | cons e xs' =>
          injection h with hd hrest
          rcases ih (fun hc => hxs (List.mem_cons_of_mem _ hc))
            (fun hc => hxs' (List.mem_cons_of_mem _ hc)) hrest with ⟨heq, hys⟩
          rw [hd, heq]
          exact ⟨rfl, hys⟩

end Cutting

end FlatJson
