import EnvMonitor.Json.FlatObject
import EnvMonitor.Numerics.Decimal

/-!
# JSON texts and their values

A reader for texts without white space and escapes, over bytes, and what it reads from a value that
was written member by member.
-/

namespace JsonText

open EnvMonitor.Numerics FlatJson

inductive Json where
  | null
  | bool (b : Bool)
  | int (n : Int)
  | str (chars : List UInt8)
  | arr (elements : List Json)
  | obj (members : List (List UInt8 × Json))

/-!
## The reader
-/

/-- A string behind its first quote, and what follows the last one. -/
def quoted : List UInt8 -> Option (List UInt8 × List UInt8)
  | [] => none
  | c :: text =>
      if c = 0x22 then some ([], text)
      else if c < 0x20 ∨ c = 0x5C then none
      else (quoted text).map fun r => (c :: r.1, r.2)

/-- Digits; a zero stands alone. -/
def unsignedNumber (text : List UInt8) : Option (Nat × List UInt8) :=
  let digits := text.takeWhile isdigit
  if digits = [] ∨ (digits.head? = some 0x30 ∧ digits.length ≠ 1) then none
  else some (digitsValue digits, text.dropWhile isdigit)

def number (text : List UInt8) : Option (Int × List UInt8) :=
  if text.head? = some 0x2D then
    (unsignedNumber text.tail).map fun r => (-(r.1 : Int), r.2)
  else (unsignedNumber text).map fun r => ((r.1 : Int), r.2)

/-- What follows a word. -/
def literal (word text : List UInt8) : Option (List UInt8) :=
  if text.take word.length = word then some (text.drop word.length) else none

def wordNull : List UInt8 := [0x6E, 0x75, 0x6C, 0x6C]

def wordTrue : List UInt8 := [0x74, 0x72, 0x75, 0x65]

def wordFalse : List UInt8 := [0x66, 0x61, 0x6C, 0x73, 0x65]

mutual

/-- The value at the front of a text, and what follows it. -/
def value : Nat -> List UInt8 -> Option (Json × List UInt8)
  | 0, _ => none
  | _ + 1, [] => none
  | fuel + 1, c :: text =>
      if c = 0x22 then (quoted text).map fun r => (.str r.1, r.2)
      else if c = 0x7B then
        if text.head? = some 0x7D then some (.obj [], text.tail)
        else (members fuel text).map fun r => (.obj r.1, r.2)
      else if c = 0x5B then
        if text.head? = some 0x5D then some (.arr [], text.tail)
        else (elements fuel text).map fun r => (.arr r.1, r.2)
      else if c = 0x6E then (literal wordNull (c :: text)).map fun r => (.null, r)
      else if c = 0x74 then (literal wordTrue (c :: text)).map fun r => (.bool true, r)
      else if c = 0x66 then (literal wordFalse (c :: text)).map fun r => (.bool false, r)
      else (number (c :: text)).map fun r => (.int r.1, r.2)

/-- The members of an object up to its closing brace. -/
def members : Nat -> List UInt8 -> Option (List (List UInt8 × Json) × List UInt8)
  | 0, _ => none
  | fuel + 1, text =>
      if text.head? ≠ some 0x22 then none
      else
        match quoted text.tail with
        | none => none
        | some (key, rest) =>
            if rest.head? ≠ some 0x3A then none
            else
              match value fuel rest.tail with
              | none => none
              | some (v, rest) =>
                  if rest.head? = some 0x7D then some ([(key, v)], rest.tail)
                  else if rest.head? = some 0x2C then
                    (members fuel rest.tail).map fun r => ((key, v) :: r.1, r.2)
                  else none

/-- The elements of an array up to its closing bracket. -/
def elements : Nat -> List UInt8 -> Option (List Json × List UInt8)
  | 0, _ => none
  | fuel + 1, text =>
      match value fuel text with
      | none => none
      | some (v, rest) =>
          if rest.head? = some 0x5D then some ([v], rest.tail)
          else if rest.head? = some 0x2C then
            (elements fuel rest.tail).map fun r => (v :: r.1, r.2)
          else none

end

/-- The value of a whole text; every step of the reader takes a byte. -/
def decode (text : List UInt8) : Option Json :=
  match value text.length text with
  | some (v, []) => some v
  | _ => none

/-!
## What is read back
-/

/-- Nothing that would make a number in front of it longer. -/
def NoDigit (rest : List UInt8) : Prop := forall c, rest.head? = some c -> isdigit c = false

/-- The reader takes exactly this text for the value, whatever follows. -/
def Reads (text : List UInt8) (v : Json) : Prop :=
  forall fuel rest, text.length ≤ fuel -> NoDigit rest -> value fuel (text ++ rest) = some (v, rest)

theorem noDigit_nil : NoDigit [] := fun _ h => (by cases h)

variable {c : UInt8} {bytes chars rest : List UInt8} {fuel : Nat}

theorem noDigit_cons (rest : List UInt8) (h : isdigit c = false) : NoDigit (c :: rest) := by
  intro d hd
  injection hd with hd
  rw [← hd]
  exact h

theorem Reads.decode {text : List UInt8} {v : Json} (h : Reads text v) :
    decode text = some v := by
  have hread := h text.length [] le_rfl noDigit_nil
  rw [List.append_nil] at hread
  unfold JsonText.decode
  rw [hread]

theorem quoted_plain (h : PlainKey chars) (rest : List UInt8) :
    quoted (chars ++ 0x22 :: rest) = some (chars, rest) := by
  induction chars with
  | nil => rfl
  | cons c chars ih =>
      rcases h c List.mem_cons_self with ⟨hlow, hquote, hslash⟩
      have hrefused : ¬(c < 0x20 ∨ c = 0x5C) := by
        rintro (hlt | hc)
        · exact absurd hlow (UInt8.not_le.mpr hlt)
        · exact hslash hc
      change quoted (c :: (chars ++ 0x22 :: rest)) = _
      unfold quoted
      rw [if_neg hquote, if_neg hrefused, ih fun d hd => h d (List.mem_cons_of_mem c hd)]
      rfl

theorem reads_str (h : PlainKey chars) : Reads (0x22 :: (chars ++ [0x22])) (.str chars) := by
  intro fuel rest hfuel _
  cases fuel with
  | zero => cases hfuel
  | succ fuel =>
      rw [List.cons_append, List.append_assoc, List.singleton_append]
      unfold value
      rw [if_pos rfl, quoted_plain h]
      rfl

theorem reads_null : Reads wordNull .null := by
  intro fuel rest hfuel _
  cases fuel with
  | zero => cases hfuel
  | succ fuel => rfl

theorem reads_bool (b : Bool) : Reads (if b then wordTrue else wordFalse) (.bool b) := by
  intro fuel rest hfuel _
  cases fuel with
  | zero => cases b <;> cases hfuel
  | succ fuel => cases b <;> rfl

/-!
## Numbers
-/

theorem takeWhile_digits {digits : List UInt8} (h : forall c, c ∈ digits -> isdigit c = true)
    (hrest : NoDigit rest) : (digits ++ rest).takeWhile isdigit = digits := by
  have hsplit := List.takeWhile_append_dropWhile (p := isdigit) (l := digits ++ rest)
  rw [dropWhile_exact h hrest] at hsplit
  exact List.append_cancel_right hsplit

theorem decimal_head {n : Nat} (h : n ≠ 0) : (decimal n).head? ≠ some 0x30 := by
  have hnil : Nat.digits 10 n ≠ [] := Nat.digits_ne_nil_iff_ne_zero.mpr h
  have hlast := Nat.getLast_digit_ne_zero 10 h
  have hlt := Nat.digits_lt_base (b := 10) (by decide) (List.getLast_mem hnil)
  unfold decimal
  rw [if_neg h, List.head?_map, List.head?_reverse, List.getLast?_eq_some_getLast hnil]
  intro heq
  injection heq with heq
  have hchar := digitChar_toNat hlt
  rw [heq] at hchar
  change 48 = _ at hchar
  omega

theorem unsignedNumber_decimal (n : Nat) (hrest : NoDigit rest) :
    unsignedNumber (decimal n ++ rest) = some (n, rest) := by
  have hdigits : forall c, c ∈ decimal n -> isdigit c = true := fun c hc =>
    isdigit_of_mem_decimal hc
  have hgood : ¬(decimal n = [] ∨ ((decimal n).head? = some 0x30 ∧ (decimal n).length ≠ 1)) := by
    rintro (hnil | ⟨hzero, hlong⟩)
    · exact decimal_ne_nil n hnil
    · by_cases hn : n = 0
      · rw [hn] at hlong
        exact hlong rfl
      · exact decimal_head hn hzero
  unfold unsignedNumber
  rw [takeWhile_digits hdigits hrest, dropWhile_exact hdigits hrest]
  dsimp only
  rw [if_neg hgood, digitsValue_decimal]

theorem number_decimalInt (n : Int) (hrest : NoDigit rest) :
    number (decimalInt n ++ rest) = some (n, rest) := by
  unfold number decimalInt
  by_cases hneg : n < 0
  · rw [if_pos hneg, List.cons_append, List.head?_cons, if_pos rfl, List.tail_cons,
      unsignedNumber_decimal n.natAbs hrest]
    have habs : -(n.natAbs : Int) = n := by omega
    change some (-(n.natAbs : Int), rest) = _
    rw [habs]
  · have hhead : (decimal n.natAbs ++ rest).head? ≠ some 0x2D := by
      rcases List.exists_cons_of_ne_nil (decimal_ne_nil n.natAbs) with ⟨c, digits, hcons⟩
      intro h
      rw [hcons, List.cons_append, List.head?_cons] at h
      injection h with h
      have hdigit : isdigit c = true :=
        isdigit_of_mem_decimal (by rw [hcons]; exact List.mem_cons_self)
      rw [h] at hdigit
      exact absurd hdigit (by decide)
    have habs : (n.natAbs : Int) = n := by omega
    rw [if_neg hneg, if_neg hhead, unsignedNumber_decimal n.natAbs hrest]
    change some ((n.natAbs : Int), rest) = _
    rw [habs]

theorem value_number (h : c = 0x2D ∨ isdigit c = true) (fuel : Nat) (text : List UInt8) :
    value (fuel + 1) (c :: text) = (number (c :: text)).map fun r => (.int r.1, r.2) := by
  have hne : c ≠ 0x22 ∧ c ≠ 0x7B ∧ c ≠ 0x5B ∧ c ≠ 0x6E ∧ c ≠ 0x74 ∧ c ≠ 0x66 := by
    rcases h with hminus | hdigit
    · rw [hminus]
      decide
    · have hbounds := isdigit_iff.mp hdigit
      refine ⟨?_, ?_, ?_, ?_, ?_, ?_⟩ <;>
      · intro hc
        rw [hc] at hbounds
        exact absurd hbounds (by decide)
  rcases hne with ⟨hquote, hbrace, hbracket, hnull, htrue, hfalse⟩
  unfold value
  rw [if_neg hquote, if_neg hbrace, if_neg hbracket, if_neg hnull, if_neg htrue, if_neg hfalse]

theorem decimalInt_head (n : Int) :
    exists c text, decimalInt n = c :: text ∧ (c = 0x2D ∨ isdigit c = true) := by
  unfold decimalInt
  split
  · exact ⟨_, _, rfl, .inl rfl⟩
  · rcases List.exists_cons_of_ne_nil (decimal_ne_nil n.natAbs) with ⟨c, digits, hcons⟩
    refine ⟨c, digits, hcons, .inr ?_⟩
    apply isdigit_of_mem_decimal (n := n.natAbs)
    rw [hcons]
    exact List.mem_cons_self

theorem reads_int (n : Int) : Reads (decimalInt n) (.int n) := by
  intro fuel rest hfuel hrest
  have hnumber := number_decimalInt n hrest
  rcases decimalInt_head n with ⟨c, text, hcons, hstart⟩
  rw [hcons] at hfuel hnumber ⊢
  cases fuel with
  | zero => cases hfuel
  | succ fuel =>
      rw [List.cons_append] at hnumber ⊢
      rw [value_number hstart, hnumber]
      rfl

theorem reads_nat (n : Nat) : Reads (decimal n) (.int n) := by
  have h := reads_int n
  unfold decimalInt at h
  rw [if_neg (by omega), Int.natAbs_natCast] at h
  exact h

/-!
## Objects and arrays
-/

/-- A member as it is written, and what it means. -/
structure Member where
  key : List UInt8
  text : List UInt8
  value : Json
  plain : PlainKey key
  reads : Reads text value

def Member.written (m : Member) : List UInt8 := 0x22 :: (m.key ++ 0x22 :: 0x3A :: m.text)

def Member.meaning (m : Member) : List UInt8 × Json := (m.key, m.value)

/-- The members that follow another one. -/
def moreMembers (ms : List Member) : List UInt8 := ms.flatMap fun m => 0x2C :: m.written

theorem moreMembers_cons (m : Member) (ms : List Member) :
    moreMembers (m :: ms) = 0x2C :: (m.written ++ moreMembers ms) := rfl

theorem moreMembers_append (ms ms' : List Member) :
    moreMembers (ms ++ ms') = moreMembers ms ++ moreMembers ms' := List.flatMap_append

theorem flatten_moreMembers (ms : List Member) :
    (ms.map fun m => moreMembers [m]).flatten = moreMembers ms := by
  induction ms with
  | nil => rfl
  | cons m ms ih =>
      rw [List.map_cons, List.flatten_cons, ih, ← moreMembers_append]
      rfl

theorem members_first (m : Member) (hfuel : m.written.length ≤ fuel + 1) (hrest : NoDigit rest) :
    members (fuel + 1) (m.written ++ rest) =
      if rest.head? = some 0x7D then some ([m.meaning], rest.tail)
      else if rest.head? = some 0x2C then
        (members fuel rest.tail).map fun r => (m.meaning :: r.1, r.2)
      else none := by
  have hlength : m.text.length ≤ fuel := by
    unfold Member.written at hfuel
    simp only [List.length_cons, List.length_append] at hfuel
    omega
  unfold Member.written
  rw [members, List.cons_append, List.head?_cons, if_neg (fun h => h rfl), List.tail_cons,
    List.append_assoc, List.cons_append, List.cons_append, quoted_plain m.plain]
  dsimp only
  rw [List.head?_cons, if_neg (fun h => h rfl), List.tail_cons, m.reads fuel rest hlength hrest]
  rfl

theorem members_written (ms : List Member) (m : Member) (fuel : Nat) (rest : List UInt8)
    (hfuel : m.written.length + (moreMembers ms).length ≤ fuel) :
    members fuel (m.written ++ (moreMembers ms ++ 0x7D :: rest)) =
      some ((m :: ms).map Member.meaning, rest) := by
  have hpos : 0 < m.written.length := Nat.succ_pos _
  rcases Nat.exists_eq_succ_of_ne_zero (n := fuel) (by omega) with ⟨left, rfl⟩
  induction ms generalizing m left with
  | nil =>
      change members (left + 1) (m.written ++ 0x7D :: rest) = _
      rw [members_first m hfuel (noDigit_cons rest (by decide))]
      rfl
  | cons next ms ih =>
      rw [moreMembers_cons, List.length_cons, List.length_append] at hfuel
      have hnext : 0 < next.written.length := Nat.succ_pos _
      rcases Nat.exists_eq_succ_of_ne_zero (n := left) (by omega) with ⟨fewer, rfl⟩
      change members (fewer + 1 + 1) _ = _
      rw [moreMembers_cons, List.cons_append, List.append_assoc,
        members_first m (by omega) (noDigit_cons _ (by decide)), List.head?_cons,
        if_neg (by decide), if_pos rfl, List.tail_cons, ih next hnext fewer (by omega)]
      rfl

/-- An object of at least one member. -/
def objectText (m : Member) (ms : List Member) : List UInt8 :=
  0x7B :: (m.written ++ (moreMembers ms ++ [0x7D]))

theorem reads_object (m : Member) (ms : List Member) :
    Reads (objectText m ms) (.obj ((m :: ms).map Member.meaning)) := by
  intro fuel rest hfuel _
  cases fuel with
  | zero => cases hfuel
  | succ fuel =>
      have hmembers := members_written ms m fuel rest (by
        unfold objectText at hfuel
        simp only [List.length_cons, List.length_append] at hfuel
        omega)
      have htext : objectText m ms ++ rest =
          0x7B :: (m.written ++ (moreMembers ms ++ 0x7D :: rest)) := by
        unfold objectText
        rw [List.cons_append, List.append_assoc, List.append_assoc, List.singleton_append]
      have hopen : (m.written ++ (moreMembers ms ++ 0x7D :: rest)).head? ≠ some 0x7D := by
        change some 0x22 ≠ some 0x7D
        decide
      rw [htext]
      unfold value
      rw [if_neg (by decide), if_pos rfl, if_neg hopen, hmembers]
      rfl

/-- Numbers behind another one. -/
def moreNumbers (ns : List Nat) : List UInt8 := ns.flatMap fun n => 0x2C :: decimal n

def numbersText : List Nat -> List UInt8
  | [] => [0x5B, 0x5D]
  | n :: ns => 0x5B :: (decimal n ++ (moreNumbers ns ++ [0x5D]))

theorem elements_first (n : Nat) (hfuel : (decimal n).length ≤ fuel) (hrest : NoDigit rest) :
    elements (fuel + 1) (decimal n ++ rest) =
      if rest.head? = some 0x5D then some ([.int n], rest.tail)
      else if rest.head? = some 0x2C then
        (elements fuel rest.tail).map fun r => (.int n :: r.1, r.2)
      else none := by
  rw [elements, reads_nat n fuel rest hfuel hrest]

theorem elements_numbers (ns : List Nat) (n fuel : Nat) (rest : List UInt8)
    (hfuel : (decimal n).length + (moreNumbers ns).length < fuel) :
    elements fuel (decimal n ++ (moreNumbers ns ++ 0x5D :: rest)) =
      some ((n :: ns).map fun n : Nat => .int n, rest) := by
  rcases Nat.exists_eq_succ_of_ne_zero (n := fuel) (by omega) with ⟨left, rfl⟩
  induction ns generalizing n left with
  | nil =>
      change elements (left + 1) (decimal n ++ 0x5D :: rest) = _
      rw [elements_first n (by omega) (noDigit_cons rest (by decide))]
      rfl
  | cons next ns ih =>
      have hmore : moreNumbers (next :: ns) = 0x2C :: (decimal next ++ moreNumbers ns) := rfl
      rw [hmore, List.length_cons, List.length_append] at hfuel
      rcases Nat.exists_eq_succ_of_ne_zero (n := left) (by omega) with ⟨fewer, rfl⟩
      change elements (fewer + 1 + 1) _ = _
      rw [hmore, List.cons_append, List.append_assoc,
        elements_first n (by omega) (noDigit_cons _ (by decide)), List.head?_cons,
        if_neg (by decide), if_pos rfl, List.tail_cons, ih next fewer (by omega)]
      rfl

theorem reads_numbers (ns : List Nat) :
    Reads (numbersText ns) (.arr (ns.map fun n : Nat => .int n)) := by
  intro fuel rest hfuel _
  cases fuel with
  | zero => cases ns <;> cases hfuel
  | succ fuel =>
      cases ns with
      | nil => rfl
      | cons n ns =>
          have helements := elements_numbers ns n fuel rest (by
            unfold numbersText at hfuel
            simp only [List.length_cons, List.length_append] at hfuel
            omega)
          have htext : numbersText (n :: ns) ++ rest =
              0x5B :: (decimal n ++ (moreNumbers ns ++ 0x5D :: rest)) := by
            unfold numbersText
            rw [List.cons_append, List.append_assoc, List.append_assoc, List.singleton_append]
          have hopen : (decimal n ++ (moreNumbers ns ++ 0x5D :: rest)).head? ≠ some 0x5D := by
            rcases List.exists_cons_of_ne_nil (decimal_ne_nil n) with ⟨c, digits, hcons⟩
            have hdigit : isdigit c = true :=
              isdigit_of_mem_decimal (by rw [hcons]; exact List.mem_cons_self)
            rw [hcons, List.cons_append, List.head?_cons]
            intro h
            injection h with h
            rw [h] at hdigit
            exact absurd hdigit (by decide)
          rw [htext]
          unfold value
          rw [if_neg (by decide), if_neg (by decide), if_pos rfl, if_neg hopen, helements]
          rfl

/-!
## Lengths
-/

theorem moreMembers_length_le {ms : List Member} {bound : Nat}
    (h : forall m, m ∈ ms -> m.text.length ≤ bound) :
    (moreMembers ms).length ≤
      (ms.map fun m => m.key.length).sum + ms.length * (bound + 4) := by
  induction ms with
  | nil => exact Nat.zero_le _
  | cons m ms ih =>
      have hfirst := h m List.mem_cons_self
      have hmore := ih fun m' hm' => h m' (List.mem_cons_of_mem m hm')
      rw [moreMembers_cons, List.map_cons, List.sum_cons, List.length_cons, List.length_append,
        List.length_cons, Nat.succ_mul]
      unfold Member.written
      simp only [List.length_cons, List.length_append]
      omega

/-!
## UTF-8
-/

/-- Bytes that encode characters. -/
def Utf8 (bytes : List UInt8) : Prop :=
  exists chars : List Char, bytes = chars.flatMap String.utf8EncodeChar

theorem Utf8.nil : Utf8 [] := ⟨[], rfl⟩

theorem Utf8.append {front back : List UInt8} (hfront : Utf8 front) (hback : Utf8 back) :
    Utf8 (front ++ back) := by
  rcases hfront with ⟨chars, hchars⟩
  rcases hback with ⟨more, hmore⟩
  exact ⟨chars ++ more, by rw [hchars, hmore, List.flatMap_append]⟩

theorem utf8_of_ascii (h : forall c, c ∈ bytes -> c.toNat < 0x80) : Utf8 bytes := by
  induction bytes with
  | nil => exact Utf8.nil
  | cons c bytes ih =>
      have hc := h c List.mem_cons_self
      have hvalid : c.toNat.isValidChar := .inl (by omega)
      have hone : Utf8 [c] := by
        refine ⟨[Char.ofNatAux c.toNat hvalid], ?_⟩
        have hval : (Char.ofNatAux c.toNat hvalid).val.toNat = c.toNat := rfl
        rw [List.flatMap_singleton]
        unfold String.utf8EncodeChar
        rw [hval]
        dsimp only
        rw [if_pos (by omega), UInt8.ofNat_toNat]
      exact hone.append (ih fun d hd => h d (List.mem_cons_of_mem c hd))

theorem utf8_of_all (h : (bytes.all fun c => decide (c.toNat < 0x80)) = true) : Utf8 bytes :=
  utf8_of_ascii fun c hc => of_decide_eq_true (List.all_eq_true.mp h c hc)

theorem not_utf8_of_mem (h : 0xFF ∈ bytes) : ¬Utf8 bytes := by
  rintro ⟨chars, hchars⟩
  rw [hchars] at h
  rcases List.mem_flatMap.mp h with ⟨char, _, hmem⟩
  have hfar : forall c, c ∈ String.utf8EncodeChar char -> c.toNat < 0xFF := by
    intro c hc
    unfold String.utf8EncodeChar at hc
    dsimp only at hc
    split at hc
    · rw [List.mem_singleton.mp hc, UInt8.toNat_ofNat']
      omega
    · split at hc
      · simp only [List.mem_cons, List.not_mem_nil, or_false] at hc
        rcases hc with hc | hc <;> rw [hc, UInt8.toNat_ofNat'] <;> omega
      · split at hc
        · simp only [List.mem_cons, List.not_mem_nil, or_false] at hc
          rcases hc with hc | hc | hc <;> rw [hc, UInt8.toNat_ofNat'] <;> omega
        · simp only [List.mem_cons, List.not_mem_nil, or_false] at hc
          rcases hc with hc | hc | hc | hc <;> rw [hc, UInt8.toNat_ofNat'] <;> omega
  exact absurd (hfar 0xFF hmem) (by decide)

end JsonText
