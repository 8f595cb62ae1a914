import EnvMonitor.Json.Reader

/-!
# Objects printed with format strings

The conversions of `printf` that print texts and integers, and format strings that spell out
members of a JSON object.
-/

namespace JsonText

open EnvMonitor.Numerics FlatJson

/-- An argument, under the conversion that takes it. -/
inductive Arg where
  | s (text : List UInt8)
  | c (char : UInt8)
  | u (n : Nat)
  | lu (n : Nat)
  | ld (n : Int)

/-- What `printf` prints. -/
def format : List Char -> List Arg -> List UInt8
  | '%' :: 's' :: fmt, .s text :: args => text ++ format fmt args
  | '%' :: 'c' :: fmt, .c char :: args => char :: format fmt args
  | '%' :: 'u' :: fmt, .u n :: args => decimal n ++ format fmt args
  | '%' :: 'l' :: 'u' :: fmt, .lu n :: args => decimal n ++ format fmt args
  | '%' :: 'l' :: 'd' :: fmt, .ld n :: args => decimalInt n ++ format fmt args
  | char :: fmt, args => UInt8.ofNat char.toNat :: format fmt args
  | [], _ => []

theorem format_char {char : Char} (h : char ≠ '%') (fmt : List Char) (args : List Arg) :
    format (char :: fmt) args = UInt8.ofNat char.toNat :: format fmt args := by
  rw [format]
  · intros
    exact h ‹_›
  · intros
    exact h ‹_›
  · intros
    exact h ‹_›
  · intros
    exact h ‹_›
  · intros
    exact h ‹_›

/-- The bytes of an ASCII text. -/
def bytesOf (chars : List Char) : List UInt8 := chars.map fun c => UInt8.ofNat c.toNat

/-- Stands in a format string, and in a JSON string, for itself. -/
def plainChar (c : Char) : Bool :=
  0x20 ≤ c.toNat && c.toNat < 0x7F && c ≠ '"' && c ≠ '\\' && c ≠ '%'

theorem plainChar_iff {c : Char} :
    plainChar c = true ↔
      0x20 ≤ c.toNat ∧ c.toNat < 0x7F ∧ c ≠ '"' ∧ c ≠ '\\' ∧ c ≠ '%' := by
  unfold plainChar
  simp only [Bool.and_eq_true, decide_eq_true_iff, and_assoc]

variable {chars : List Char}

theorem format_literal (h : chars.all (· ≠ '%') = true) (fmt : List Char) (args : List Arg) :
    format (chars ++ fmt) args = bytesOf chars ++ format fmt args := by
  induction chars with
  | nil => rfl
  | cons c chars ih =>
      rw [List.all_cons, Bool.and_eq_true] at h
      rw [List.cons_append, format_char (of_decide_eq_true h.1), ih h.2]
      rfl

theorem format_plain (h : chars.all plainChar = true) (fmt : List Char) (args : List Arg) :
    format (chars ++ fmt) args = bytesOf chars ++ format fmt args := by
  apply format_literal
  rw [List.all_eq_true]
  intro c hc
  exact decide_eq_true (plainChar_iff.mp (List.all_eq_true.mp h c hc)).2.2.2.2

theorem plainKey_bytesOf (h : chars.all plainChar = true) : PlainKey (bytesOf chars) := by
  intro b hb
  rcases List.mem_map.mp hb with ⟨c, hc, hbyte⟩
  rcases plainChar_iff.mp (List.all_eq_true.mp h c hc) with ⟨hlow, hhigh, hquote, hslash, _⟩
  have hnat : b.toNat = c.toNat := by
    rw [← hbyte, UInt8.toNat_ofNat']
    exact Nat.mod_eq_of_lt (by omega)
  have hne : forall d : Char, d.toNat < 0x7F -> c ≠ d -> b ≠ UInt8.ofNat d.toNat := by
    intro d hd hcd hbd
    rw [hbd, UInt8.toNat_ofNat', Nat.mod_eq_of_lt (by omega)] at hnat
    exact hcd (Char.ext (UInt32.toNat_inj.mp hnat.symm))
  refine ⟨?_, hne '"' (by decide) hquote, hne '\\' (by decide) hslash⟩
  rw [UInt8.le_iff_toNat_le, hnat]
  exact hlow

/-!
## Members
-/

/-- A value of a member: how a format string asks for it, what is printed, and what it means. -/
structure Content where
  fmt : List Char
  args : List Arg
  text : List UInt8
  value : Json
  formats : forall fmt' args', format (fmt ++ fmt') (args ++ args') = text ++ format fmt' args'
  reads : Reads text value

namespace Content

def lu (n : Nat) : Content :=
  ⟨['%', 'l', 'u'], [.lu n], decimal n, .int n, fun _ _ => rfl, reads_nat n⟩

def u (n : Nat) : Content :=
  ⟨['%', 'u'], [.u n], decimal n, .int n, fun _ _ => rfl, reads_nat n⟩

def ld (n : Int) : Content :=
  ⟨['%', 'l', 'd'], [.ld n], decimalInt n, .int n, fun _ _ => rfl, reads_int n⟩

def flag (b : Bool) : Content :=
  ⟨['%', 's'], [.s (if b then wordTrue else wordFalse)], if b then wordTrue else wordFalse,
    .bool b, fun _ _ => rfl, reads_bool b⟩

def null : Content :=
  ⟨['n', 'u', 'l', 'l'], [], wordNull, .null,
    @format_plain ['n', 'u', 'l', 'l'] (by decide), reads_null⟩

/-- A string, from what is printed between its quotes. -/
def quote (fmt : List Char) (args : List Arg) (chars : List UInt8)
    (formats : forall fmt' args', format (fmt ++ fmt') (args ++ args') =
      chars ++ format fmt' args') (plain : PlainKey chars) : Content where
  fmt := '"' :: (fmt ++ ['"'])
  args := args
  text := 0x22 :: (chars ++ [0x22])
  value := .str chars
  formats := by
    intro fmt' args'
    rw [List.cons_append, List.append_assoc, format_char (by decide), formats,
      List.singleton_append, format_char (by decide), List.cons_append, List.append_assoc]
    rfl
  reads := reads_str plain

def string (chars : List UInt8) (plain : PlainKey chars) : Content :=
  quote ['%', 's'] [.s chars] chars (fun _ _ => rfl) plain

def letter (c : UInt8) (plain : PlainKey [c]) : Content :=
  quote ['%', 'c'] [.c c] [c] (fun _ _ => rfl) plain

/-- A string that stands in the format string itself. -/
def fixed (chars : List Char) (h : chars.all plainChar = true) : Content :=
  quote chars [] (bytesOf chars) (format_plain h) (plainKey_bytesOf h)

/-- Three numbers with dots between them. -/
def dotted (a b c : Nat) : List UInt8 := decimal a ++ 0x2E :: (decimal b ++ 0x2E :: decimal c)

theorem plainKey_dotted (a b c : Nat) : PlainKey (dotted a b c) := by
  have hdigit : forall d, isdigit d = true -> 0x20 ≤ d ∧ d ≠ 0x22 ∧ d ≠ 0x5C := by
    intro d hd
    have hbounds := isdigit_iff.mp hd
    refine ⟨UInt8.le_iff_toNat_le.mpr ?_, ?_, ?_⟩
    · change 32 ≤ _
      omega
    · intro h
      rw [h] at hbounds
      exact absurd hbounds (by decide)
    · intro h
      rw [h] at hbounds
      exact absurd hbounds (by decide)
  intro d hd
  unfold dotted at hd
  simp only [List.mem_append, List.mem_cons] at hd
  rcases hd with hd | hd | hd | hd | hd
  · exact hdigit d (isdigit_of_mem_decimal hd)
  · rw [hd]
    decide
  · exact hdigit d (isdigit_of_mem_decimal hd)
  · rw [hd]
    decide
  · exact hdigit d (isdigit_of_mem_decimal hd)

def version (a b c : Nat) : Content :=
  quote ['%', 'u', '.', '%', 'u', '.', '%', 'u'] [.u a, .u b, .u c] (dotted a b c)
    (by
      intro fmt' args'
      change decimal a ++ format ('.' :: '%' :: 'u' :: '.' :: '%' :: 'u' :: fmt')
        (.u b :: .u c :: args') = _
      rw [format_char (by decide)]
      change decimal a ++ _ :: (decimal b ++ format ('.' :: '%' :: 'u' :: fmt')
        (.u c :: args')) = _
      rw [format_char (by decide)]
      unfold dotted
      rw [List.append_assoc, List.cons_append, List.append_assoc, List.cons_append]
      rfl)
    (plainKey_dotted a b c)

end Content

/-- A member with a name of plain characters. -/
structure Field where
  key : String
  content : Content
  plain : key.toList.all plainChar = true := by decide +kernel

namespace Field

def fmt (f : Field) : List Char := '"' :: (f.key.toList ++ '"' :: ':' :: f.content.fmt)

def member (f : Field) : Member :=
  ⟨bytesOf f.key.toList, f.content.text, f.content.value, plainKey_bytesOf f.plain,
    f.content.reads⟩

theorem meaning_eq (f : Field) :
    f.member.meaning = (bytesOf f.key.toList, f.content.value) := rfl

theorem format_fmt (f : Field) (fmt' : List Char) (args' : List Arg) :
    format (f.fmt ++ fmt') (f.content.args ++ args') = f.member.written ++ format fmt' args' := by
  unfold fmt
  rw [List.cons_append, List.append_assoc, List.cons_append, List.cons_append,
    format_char (by decide), format_plain f.plain, format_char (by decide),
    format_char (by decide), f.content.formats]
  unfold Member.written
  rw [List.cons_append, List.append_assoc, List.cons_append, List.cons_append]
  rfl

end Field

/-- A format string that goes on with these members. -/
def fieldsFmt (fs : List Field) : List Char := fs.flatMap fun f => ',' :: f.fmt

def fieldsArgs (fs : List Field) : List Arg := fs.flatMap fun f => f.content.args

theorem format_fields (fs : List Field) (fmt' : List Char) (args' : List Arg) :
    format (fieldsFmt fs ++ fmt') (fieldsArgs fs ++ args') =
      moreMembers (fs.map Field.member) ++ format fmt' args' := by
  induction fs with
  | nil => rfl
  | cons f fs ih =>
      unfold fieldsFmt fieldsArgs at ih ⊢
      rw [List.flatMap_cons, List.flatMap_cons, List.cons_append, List.append_assoc,
        List.cons_append, List.append_assoc, format_char (by decide), f.format_fmt, ih,
        List.map_cons, moreMembers_cons, List.cons_append, List.append_assoc]
      rfl

/-- The key and the conversion of a member, without the arguments. -/
def Field.shape (f : Field) : String × List Char := (f.key, f.content.fmt)

def shapesFmt (shapes : List (String × List Char)) : List Char :=
  shapes.flatMap fun shape => ',' :: '"' :: (shape.1.toList ++ '"' :: ':' :: shape.2)

theorem fieldsFmt_eq (fs : List Field) : fieldsFmt fs = shapesFmt (fs.map Field.shape) := by
  unfold fieldsFmt shapesFmt
  rw [List.flatMap_map]
  rfl

/-!
## Lengths and characters
-/

/-- A bounded text of encoded characters. -/
structure Content.Fits (bound : Nat) (c : Content) : Prop where
  short : c.text.length ≤ bound
  utf8 : Utf8 c.text

section Fits

variable {n bound : Nat}

theorem utf8_decimal (n : Nat) : Utf8 (decimal n) := by
  apply utf8_of_ascii
  intro c hc
  have hbounds := isdigit_iff.mp (isdigit_of_mem_decimal hc)
  omega

theorem fits_lu (hn : n < 10 ^ 10) (hb : 10 ≤ bound) : (Content.lu n).Fits bound :=
  ⟨le_trans (decimal_length_le (by decide) hn) hb, utf8_decimal n⟩

theorem fits_u (hn : n < 10 ^ 10) (hb : 10 ≤ bound) : (Content.u n).Fits bound :=
  ⟨le_trans (decimal_length_le (by decide) hn) hb, utf8_decimal n⟩

theorem fits_ld {v : Int} (hv : v.natAbs < 10 ^ 10) (hb : 11 ≤ bound) :
    (Content.ld v).Fits bound := by
  have hdigits := decimal_length_le (by decide) hv
  constructor
  · change (decimalInt v).length ≤ bound
    unfold decimalInt
    split
    · rw [List.length_cons]
      omega
    · omega
  · change Utf8 (decimalInt v)
    unfold decimalInt
    split
    · have hminus : Utf8 [0x2D] := utf8_of_all (by decide)
      exact hminus.append (utf8_decimal v.natAbs)
    · exact utf8_decimal v.natAbs

theorem fits_flag (b : Bool) (hb : 5 ≤ bound) : (Content.flag b).Fits bound := by
  cases b with
  | false => exact ⟨hb, utf8_of_all (by decide)⟩
  | true => exact ⟨le_trans (by decide) hb, utf8_of_all (by decide)⟩

theorem fits_null (hb : 4 ≤ bound) : Content.null.Fits bound :=
  ⟨hb, utf8_of_all (by decide)⟩

variable {chars : List UInt8} {limit : Nat}

theorem fits_quoted {c : Content} (htext : c.text = 0x22 :: (chars ++ [0x22])) (hutf8 : Utf8 chars)
    (hb : chars.length + 2 ≤ bound) : c.Fits bound := by
  have hquote : Utf8 [0x22] := utf8_of_all (by decide)
  constructor
  · rw [htext, List.length_cons, List.length_append, List.length_singleton]
    exact hb
  · rw [htext]
    exact hquote.append (hutf8.append hquote)

/-- A bounded text of plain ASCII characters. -/
structure Word (limit : Nat) (chars : List UInt8) : Prop where
  plain : PlainKey chars
  ascii : forall c, c ∈ chars -> c.toNat < 0x80
  short : chars.length ≤ limit

def isWord (limit : Nat) (chars : List UInt8) : Bool :=
  chars.all (fun c => 0x20 ≤ c && c < 0x80 && c ≠ 0x22 && c ≠ 0x5C) && chars.length ≤ limit

theorem word_of_isWord (h : isWord limit chars = true) : Word limit chars := by
  unfold isWord at h
  rw [Bool.and_eq_true, List.all_eq_true, decide_eq_true_iff] at h
  have hchar : forall c, c ∈ chars -> 0x20 ≤ c ∧ c < 0x80 ∧ c ≠ 0x22 ∧ c ≠ 0x5C := by
    intro c hc
    have hc := h.1 c hc
    simpa only [Bool.and_eq_true, decide_eq_true_iff, and_assoc] using hc
  constructor
  · intro c hc
    exact ⟨(hchar c hc).1, (hchar c hc).2.2⟩
  · intro c hc
    exact UInt8.lt_iff_toNat_lt.mp (hchar c hc).2.1
  · exact h.2

def Word.content {limit : Nat} {chars : List UInt8} (h : Word limit chars) : Content :=
  .string chars h.plain

theorem Word.fits (h : Word limit chars) (hb : limit + 2 ≤ bound) : h.content.Fits bound :=
  fits_quoted rfl (utf8_of_ascii h.ascii) (le_trans (Nat.add_le_add_right h.short 2) hb)

theorem fits_version {a b c : Nat} (ha : a < 10 ^ 10) (hb : b < 10 ^ 10) (hc : c < 10 ^ 10)
    (hbound : 34 ≤ bound) : (Content.version a b c).Fits bound := by
  have hdot : Utf8 [0x2E] := utf8_of_all (by decide)
  have hmajor := decimal_length_le (by decide) ha
  have hminor := decimal_length_le (by decide) hb
  have hpatch := decimal_length_le (by decide) hc
  apply @fits_quoted _ (Content.dotted a b c) _ rfl
  · exact (utf8_decimal a).append (hdot.append ((utf8_decimal b).append
      (hdot.append (utf8_decimal c))))
  · unfold Content.dotted
    simp only [List.length_append, List.length_cons]
    omega

end Fits

theorem utf8_moreMembers {ms : List Member}
    (h : forall m, m ∈ ms -> Utf8 m.key ∧ Utf8 m.text) : Utf8 (moreMembers ms) := by
  induction ms with
  | nil => exact Utf8.nil
  | cons m ms ih =>
      have hfirst := h m List.mem_cons_self
      have hopen : Utf8 [0x2C, 0x22] := utf8_of_all (by decide)
      have hmiddle : Utf8 [0x22, 0x3A] := utf8_of_all (by decide)
      have hwritten : Utf8 ([0x2C, 0x22] ++ (m.key ++ ([0x22, 0x3A] ++ m.text))) :=
        hopen.append (hfirst.1.append (hmiddle.append hfirst.2))
      exact hwritten.append (ih fun m' hm' => h m' (List.mem_cons_of_mem m hm'))

theorem Field.utf8_key (f : Field) : Utf8 f.member.key := by
  apply utf8_of_ascii
  intro c hc
  rcases List.mem_map.mp hc with ⟨char, hchar, hbyte⟩
  have hplain := plainChar_iff.mp (List.all_eq_true.mp f.plain char hchar)
  rw [← hbyte, UInt8.toNat_ofNat']
  omega

end JsonText
