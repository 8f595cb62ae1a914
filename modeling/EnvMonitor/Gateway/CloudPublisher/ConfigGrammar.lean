import EnvMonitor.Gateway.CloudPublisher.ConfigCommand
import EnvMonitor.Json.FlatObject
import Mathlib.Data.List.Induction

/-!
# What the /config parser accepts

The scanners read the grammar of flat objects: each accepts the texts of its own part, and
cuts them off where the part ends.
-/

namespace EnvMonitor.Gateway.CloudPublisher

open ConfigService FlatJson

/-!
## Scanners
-/

variable {after body key left rest text : List UInt8} {fuel n : Nat} {c : UInt8} {value : Int}
variable {out out' : CpCfgCmd} {members : List (List UInt8 × Int)}

theorem skipSpace_exact {blank : List UInt8} (hblank : Blank blank)
    (hrest : forall c, rest.head? = some c -> isBlank c = false) :
    prvSkipSpace (blank ++ rest) = rest :=
  dropWhile_exact hblank hrest

theorem skipSpace_sound (rest : List UInt8) :
    exists blank, Blank blank ∧ rest = blank ++ prvSkipSpace rest :=
  ⟨rest.takeWhile isBlank, blank_takeWhile rest, (List.takeWhile_append_dropWhile ..).symm⟩

theorem scanKeyBody_sound {acc : List UInt8} (hn : n < cpCfgKeyLen)
    (h : scanKeyBody n acc rest = some (key, left)) :
    exists body, rest = body ++ 0x22 :: left ∧ key = acc.reverse ++ body ∧ PlainKey body ∧
      n + body.length < cpCfgKeyLen := by
  induction rest generalizing n acc with
  | nil => cases h
  | cons c rest ih =>
      unfold scanKeyBody at h
      by_cases hquote : c = 0x22
      · rw [if_pos hquote] at h
        cases h
        refine ⟨[], by rw [hquote]; rfl, (List.append_nil _).symm, ?_, hn⟩
        intro d hd
        cases hd
      · rw [if_neg hquote] at h
        by_cases hbad : c < 0x20 ∨ c = 0x5C ∨ cpCfgKeyLen - 1 ≤ n
        · rw [if_pos hbad] at h
          cases h
        · rw [if_neg hbad] at h
          have hroom : ¬ 32 ≤ n := fun hle => hbad (.inr (.inr hle))
          rcases ih (by change n + 1 < 33; omega) h with ⟨body, hrest, hkey, hplain, hlen⟩
          refine ⟨c :: body, by rw [hrest]; rfl, ?_, ?_, ?_⟩
          · rw [hkey, List.reverse_cons, List.append_assoc]
            rfl
          · intro d hd
            rcases List.mem_cons.mp hd with rfl | hd
            · exact ⟨UInt8.not_lt.mp fun hlt => hbad (.inl hlt), hquote,
                fun hback => hbad (.inr (.inl hback))⟩
            · exact hplain d hd
          · rw [List.length_cons]
            omega

theorem scanKeyBody_complete (acc left : List UInt8) ( hplain : PlainKey body)
    (hlen : n + body.length < cpCfgKeyLen) :
    scanKeyBody n acc (body ++ 0x22 :: left) = some (acc.reverse ++ body, left) := by
  induction body generalizing n acc with
  | nil =>
      rw [List.nil_append, List.append_nil]
      unfold scanKeyBody
      rw [if_pos rfl]
  | cons c body ih =>
      rcases hplain c List.mem_cons_self with ⟨hprintable, hquote, hback⟩
      rw [List.length_cons] at hlen
      change n + (body.length + 1) < 33 at hlen
      have hgood : ¬ (c < 0x20 ∨ c = 0x5C ∨ cpCfgKeyLen - 1 ≤ n) := by
        rintro (hlow | hbad | hfull)
        · exact UInt8.not_lt.mpr hprintable hlow
        · exact hback hbad
        · change 32 ≤ n at hfull
          omega
      rw [List.cons_append]
      unfold scanKeyBody
      rw [if_neg hquote, if_neg hgood, ih (c :: acc) (fun d hd =>
        hplain d (List.mem_cons_of_mem _ hd)) (by change _ < 33; omega), List.reverse_cons,
        List.append_assoc]
      rfl

theorem scanDigits_sound {digits v count value : Nat} (hdigits : digits ≤ cpMaxDigits)
    (h : scanDigits digits v rest = some (count, value, left)) :
    exists text, rest = text ++ left ∧ (forall c, c ∈ text -> FlatJson.isDigit c = true) ∧
      count = digits + text.length ∧ count ≤ cpMaxDigits ∧ value = digitsValue text v ∧
      (forall c, left.head? = some c -> FlatJson.isDigit c = false) := by
  induction rest generalizing digits v with
  | nil =>
      cases h
      exact ⟨[], rfl, fun c hc => (by cases hc), rfl, hdigits, rfl, fun c hc => (by cases hc)⟩
  | cons c rest ih =>
      unfold scanDigits at h
      by_cases hdigit : CloudPublisher.isDigit c = true
      · rw [if_pos hdigit] at h
        by_cases hfull : cpMaxDigits < digits + 1
        · rw [if_pos hfull] at h
          cases h
        · rw [if_neg hfull] at h
          rcases ih (Nat.le_of_not_lt hfull) h with ⟨text, hrest, hall, hcount, hmax, hvalue, hend⟩
          refine ⟨c :: text, by rw [hrest]; rfl, ?_, ?_, hmax, hvalue, hend⟩
          · intro d hd
            rcases List.mem_cons.mp hd with rfl | hd
            · exact hdigit
            · exact hall d hd
          · rw [hcount, List.length_cons]
            omega
      · rw [if_neg hdigit] at h
        cases h
        refine ⟨[], rfl, fun d hd => (by cases hd), rfl, hdigits, rfl, ?_⟩
        intro d hd
        cases hd
        exact eq_false_of_ne_true hdigit

theorem scanDigits_complete (digits v : Nat) (left : List UInt8)
    (hall : forall c, c ∈ text -> FlatJson.isDigit c = true)
    (hlen : digits + text.length ≤ cpMaxDigits)
    (hend : forall c, left.head? = some c -> FlatJson.isDigit c = false) :
    scanDigits digits v (text ++ left) =
      some (digits + text.length, digitsValue text v, left) := by
  induction text generalizing digits v with
  | nil =>
      cases left with
      | nil => rfl
      | cons c left =>
          rw [List.nil_append]
          unfold scanDigits
          have hstop : CloudPublisher.isDigit c = false := hend c rfl
          rw [if_neg (by rw [hstop]; decide)]
          rfl
  | cons c text ih =>
      have hdigit : CloudPublisher.isDigit c = true := hall c List.mem_cons_self
      rw [List.length_cons] at hlen ⊢
      rw [List.cons_append]
      unfold scanDigits
      rw [if_pos hdigit, if_neg (by omega), ih (digits + 1) _
        (fun d hd => hall d (List.mem_cons_of_mem _ hd)) (by omega)]
      have hcount : digits + 1 + text.length = digits + (text.length + 1) := by omega
      rw [hcount]
      rfl

theorem prvScanKey_iff :
    prvScanKey rest = some (key, left) ↔
      rest = 0x22 :: (key ++ 0x22 :: left) ∧ PlainKey key ∧ key.length < cpCfgKeyLen := by
  constructor
  · intro h
    unfold prvScanKey at h
    split at h
    · cases h
    · rename_i c tail
      by_cases hquote : c = 0x22
      · rw [if_pos hquote] at h
        rcases scanKeyBody_sound (by decide) h with ⟨body, htail, hkey, hplain, hlen⟩
        rw [List.reverse_nil, List.nil_append] at hkey
        subst hkey
        rw [Nat.zero_add] at hlen
        exact ⟨by rw [hquote, htail], hplain, hlen⟩
      · rw [if_neg hquote] at h
        cases h
  · rintro ⟨rfl, hplain, hlen⟩
    unfold prvScanKey
    dsimp only
    rw [if_pos rfl]
    exact scanKeyBody_complete [] left hplain (by rw [Nat.zero_add]; exact hlen)

theorem delimited_end (h : delimited left = true) :
    forall c, left.head? = some c -> FlatJson.isDigit c = false := by
  intro c hc
  cases left with
  | nil => cases hc
  | cons d left =>
      cases hc
      unfold delimited prvIsSpace at h
      simp only [Bool.or_eq_true, beq_iff_eq] at h
      rcases h with ((((rfl | rfl) | rfl) | rfl) | rfl) | rfl <;> rfl

theorem isDigit_not_minus (h : FlatJson.isDigit c = true) : c ≠ 0x2D := by
  rintro rfl
  exact absurd h (by decide)

theorem prvScanInt_iff :
    prvScanInt rest = some (value, left) ↔
      exists text, rest = text ++ left ∧ IntegerText cpMaxDigits text value ∧
        delimited left = true := by
  constructor
  · intro h
    unfold prvScanInt at h
    dsimp only at h
    split at h
    · cases h
    · rename_i count v left' hdigits
      by_cases hnone : count = 0
      · rw [if_pos hnone] at h
        cases h
      rw [if_neg hnone] at h
      by_cases hend : delimited left' = true
      · rw [hend] at h
        rcases scanDigits_sound (Nat.zero_le _) hdigits with
          ⟨text, hrest, hall, hcount, hmax, hvalue, _⟩
        rw [Nat.zero_add] at hcount
        have hne : text ≠ [] := by
          rintro rfl
          exact hnone hcount
        have hlen : text.length ≤ cpMaxDigits := by
          rw [← hcount]
          exact hmax
        by_cases hminus : rest.head? = some 0x2D
        · rw [if_pos hminus] at hrest
          cases rest with
          | nil => cases hminus
          | cons c rest =>
              cases hminus
              cases h
              refine ⟨0x2D :: text, ?_, ?_, hend⟩
              · change rest = text ++ left at hrest
                rw [hrest]
                rfl
              · rw [hvalue]
                exact .negative hne hlen hall
        · rw [if_neg hminus] at hrest
          simp only [hminus] at h
          cases h
          refine ⟨text, hrest, ?_, hend⟩
          rw [hvalue]
          exact .positive hne hlen hall
      · rw [eq_false_of_ne_true hend] at h
        cases h
  · rintro ⟨text, rfl, htext, hend⟩
    have hstop := delimited_end hend
    cases htext with
    | @positive _ hne hlen hall =>
        have hhead : (text ++ left).head? ≠ some 0x2D := by
          cases text with
          | nil => exact absurd rfl hne
          | cons c text =>
              intro hminus
              cases hminus
              exact isDigit_not_minus (hall _ List.mem_cons_self) rfl
        unfold prvScanInt
        dsimp only
        rw [if_neg hhead, scanDigits_complete 0 0 left hall (by omega) hstop]
        dsimp only
        rw [if_neg (by rw [Nat.zero_add]; exact fun h0 => hne (List.length_eq_zero_iff.mp h0)),
          hend]
        simp only [hhead]
        rfl
    | @negative digits hne hlen hall =>
        have hhead : ((0x2D :: digits) ++ left).head? = some 0x2D := rfl
        have htail : ((0x2D :: digits) ++ left).tail = digits ++ left := rfl
        unfold prvScanInt
        dsimp only
        rw [if_pos hhead, htail, scanDigits_complete 0 0 left hall (by omega) hstop]
        dsimp only
        rw [if_neg (by rw [Nat.zero_add]; exact fun h0 => hne (List.length_eq_zero_iff.mp h0)),
          hend, if_pos hhead]
        rfl

theorem head_not_blank (h : isBlank c = false) :
    forall d, (c :: rest).head? = some d -> isBlank d = false := by
  intro d hd
  cases hd
  exact h

theorem integerText_head (h : IntegerText cpMaxDigits text value) :
    forall c, (text ++ left).head? = some c -> isBlank c = false := by
  have hdigit : forall c, FlatJson.isDigit c = true -> isBlank c = false := by
    intro c hc
    cases hblank : isBlank c with
    | false => rfl
    | true =>
        unfold isBlank at hblank
        simp only [Bool.or_eq_true, beq_iff_eq] at hblank
        rcases hblank with ((rfl | rfl) | rfl) | rfl <;> exact absurd hc (by decide)
  intro c hc
  cases h with
  | @positive _ hne hlen hall =>
      cases text with
      | nil => exact absurd rfl hne
      | cons d text =>
          cases hc
          exact hdigit _ (hall _ List.mem_cons_self)
  | negative hne hlen hall =>
      cases hc
      rfl

theorem scanMember_iff :
    scanMember rest = some (key, value, left) ↔
      exists bytes, rest = bytes ++ left ∧
        MemberText (IntegerText cpMaxDigits) bytes key value ∧ key.length < cpCfgKeyLen ∧
          delimited left = true := by
  constructor
  · intro h
    unfold scanMember at h
    split at h
    · cases h
    · rename_i key' afterKey hkey
      split at h
      · rename_i afterColon hcolon
        split at h
        · cases h
        · rename_i value' left' hint
          cases h
          rcases skipSpace_sound rest with ⟨before, hbefore, hrest⟩
          rcases skipSpace_sound afterKey with ⟨middle, hmiddle, hafterKey⟩
          rcases skipSpace_sound afterColon with ⟨front, hfront, hafterColon⟩
          rcases prvScanKey_iff.mp hkey with ⟨hquoted, hplain, hlen⟩
          rcases prvScanInt_iff.mp hint with ⟨text, htext, hinteger, hend⟩
          refine ⟨_, ?_, .mk hbefore hplain hmiddle hfront hinteger, hlen, hend⟩
          rw [hrest, hquoted, hafterKey, hcolon, hafterColon, htext]
          simp only [List.append_assoc, List.cons_append]
      · cases h
  · rintro ⟨bytes, rfl, hmember, hlen, hend⟩
    cases hmember with
    | @mk before key middle front text value hbefore hplain hmiddle hfront hinteger =>
        have hkey : prvScanKey (prvSkipSpace
            ((before ++ 0x22 :: (key ++ 0x22 :: (middle ++ 0x3A :: (front ++ text)))) ++ left)) =
            some (key, middle ++ 0x3A :: (front ++ (text ++ left))) := by
          rw [List.append_assoc, List.cons_append, skipSpace_exact hbefore (head_not_blank rfl),
            prvScanKey_iff]
          refine ⟨?_, hplain, hlen⟩
          simp only [List.append_assoc, List.cons_append]
        have hcolon : prvSkipSpace (middle ++ 0x3A :: (front ++ (text ++ left))) =
            0x3A :: (front ++ (text ++ left)) :=
          skipSpace_exact hmiddle (head_not_blank rfl)
        have hint : prvScanInt (prvSkipSpace (front ++ (text ++ left))) = some (value, left) := by
          rw [skipSpace_exact hfront (integerText_head hinteger), prvScanInt_iff]
          exact ⟨text, rfl, hinteger, hend⟩
        unfold scanMember
        rw [hkey]
        dsimp only
        rw [hcolon]
        split
        · rename_i afterColon hsame
          cases hsame
          rw [hint]
        · rename_i hother
          exact absurd rfl (hother _)

/-!
## The loop over the members
-/

/-- The members recorded one after the other; `none` when one is refused. -/
def addMembers (out : CpCfgCmd) : List (List UInt8 × Int) -> Option CpCfgCmd
  | [] => some out
  | (key, value) :: rest =>
      match prvAddMember out key value with
      | (.ok, out) => addMembers out rest
      | _ => none

theorem delimited_after (hblank : Blank after) (hc : c = 0x2C ∨ c = 0x7D) :
    delimited (after ++ c :: rest) = true := by
  cases after with
  | nil => rcases hc with rfl | rfl <;> rfl
  | cons d after =>
      have hd : prvIsSpace d = true := hblank d List.mem_cons_self
      change (prvIsSpace d || d == 0x2C || d == 0x7D) = true
      rw [hd]
      rfl

theorem parseMembers_sound (h : parseMembers fuel rest out = (.ok, out')) :
    exists members body after, rest = body ++ 0x7D :: after ∧
      MembersText (IntegerText cpMaxDigits) body members ∧ Blank after ∧
      addMembers out members = some out' ∧ out'.pairs ≠ [] := by
  induction fuel generalizing rest out with
  | zero => cases h
  | succ fuel ih =>
      unfold parseMembers at h
      split at h
      · cases h
      · rename_i key value left hscan
        rcases scanMember_iff.mp hscan with ⟨bytes, hrest, hmember, _, _⟩
        rcases skipSpace_sound left with ⟨blank, hblank, hleft⟩
        split at h
        · rename_i added hadd
          split at h
          · rename_i tail htail
            unfold closeObject at h
            split at h
            · cases h
            · rename_i hclosed
              cases h
              rcases skipSpace_sound tail with ⟨after, hafter, htail'⟩
              have hend : prvSkipSpace tail = [] := by
                by_contra hne
                exact hclosed (.inl hne)
              rw [hend, List.append_nil] at htail'
              refine ⟨[(key, value)], bytes ++ blank, tail, ?_, .last hmember hblank, ?_, ?_, ?_⟩
              · rw [hrest, hleft, htail, List.append_assoc]
              · rw [htail']
                exact hafter
              · unfold addMembers
                rw [hadd]
                rfl
              · exact fun hnone => hclosed (.inr hnone)
          · rename_i tail htail
            rcases ih h with ⟨members, body, after, htail', hmembers, hafter, hadded, hfilled⟩
            refine ⟨(key, value) :: members, bytes ++ (blank ++ 0x2C :: body), after, ?_,
              .more hmember hblank hmembers, hafter, ?_, hfilled⟩
            · rw [hrest, hleft, htail, htail']
              simp only [List.append_assoc, List.cons_append]
            · unfold addMembers
              rw [hadd]
              exact hadded
          · cases h
        · rename_i hrefused
          exact (hrefused _ h).elim

theorem parseMembers_complete (hmembers : MembersText (IntegerText cpMaxDigits) body members)
    (hafter : Blank after) (hlen : forall m, m ∈ members -> m.1.length < cpCfgKeyLen)
    (hadded : addMembers out members = some out') (hfilled : out'.pairs ≠ [])
    (hfuel : (body ++ 0x7D :: after).length < fuel) :
    parseMembers fuel (body ++ 0x7D :: after) out = (.ok, out') := by
  induction hmembers generalizing fuel out with
  | @last bytes blank key value hmember hblank =>
      cases fuel with
      | zero => exact absurd hfuel (Nat.not_lt_zero _)
      | succ fuel =>
          have hscan : scanMember ((bytes ++ blank) ++ 0x7D :: after) =
              some (key, value, blank ++ 0x7D :: after) := by
            rw [scanMember_iff]
            exact ⟨bytes, List.append_assoc .., hmember, hlen _ List.mem_cons_self,
              delimited_after hblank (.inr rfl)⟩
          have hspace : prvSkipSpace (blank ++ 0x7D :: after) = 0x7D :: after :=
            skipSpace_exact hblank (head_not_blank rfl)
          have hend : prvSkipSpace after = [] := by
            have hall : prvSkipSpace (after ++ []) = [] :=
              skipSpace_exact hafter (fun c hc => by cases hc)
            rw [List.append_nil] at hall
            exact hall
          unfold addMembers at hadded
          split at hadded
          · rename_i added hadd
            cases hadded
            unfold parseMembers
            rw [hscan]
            dsimp only
            rw [hadd]
            dsimp only
            rw [hspace]
            change closeObject _ after = _
            unfold closeObject
            rw [if_neg]
            rintro (hne | hnone)
            · exact hne hend
            · exact hfilled hnone
          · cases hadded
  | @more bytes blank key rest value members hmember hblank hmembers ih =>
      cases fuel with
      | zero => exact absurd hfuel (Nat.not_lt_zero _)
      | succ fuel =>
          have hbytes : (bytes ++ (blank ++ 0x2C :: rest)) ++ 0x7D :: after =
              bytes ++ (blank ++ 0x2C :: (rest ++ 0x7D :: after)) := by
            simp only [List.append_assoc, List.cons_append]
          have hscan : scanMember (bytes ++ (blank ++ 0x2C :: (rest ++ 0x7D :: after))) =
              some (key, value, blank ++ 0x2C :: (rest ++ 0x7D :: after)) := by
            rw [scanMember_iff]
            exact ⟨bytes, rfl, hmember, hlen _ List.mem_cons_self,
              delimited_after hblank (.inl rfl)⟩
          have hspace : prvSkipSpace (blank ++ 0x2C :: (rest ++ 0x7D :: after)) =
              0x2C :: (rest ++ 0x7D :: after) :=
            skipSpace_exact hblank (head_not_blank rfl)
          unfold addMembers at hadded
          split at hadded
          · rename_i added hadd
            rw [hbytes] at hfuel ⊢
            unfold parseMembers
            rw [hscan]
            dsimp only
            rw [hadd]
            dsimp only
            rw [hspace]
            change parseMembers fuel (rest ++ 0x7D :: after) _ = _
            apply ih (fun m hm => hlen m (List.mem_cons_of_mem _ hm)) hadded
            simp only [List.length_append, List.length_cons] at hfuel ⊢
            omega
          · cases hadded

/-!
## The members a command may have
-/

deriving instance DecidableEq for CpKeyDef

/-- A parameter that may be set remotely, with a value of its type, or a request number. -/
def MemberAllowed (m : List UInt8 × Int) : Prop :=
  (m.1 = ascii "req" ∧ 0 ≤ m.2 ∧ m.2 ≤ 0xFFFFFFFF) ∨
    exists d, d ∈ cpKeys ∧ d.remote = true ∧ ascii d.name = m.1 ∧ prvFits d m.2 = true

/-- The members that are not the request number. -/
def parameters (members : List (List UInt8 × Int)) : List (List UInt8 × Int) :=
  members.filter fun m => m.1 ≠ ascii "req"

/-- Members the table takes one by one. -/
structure Recordable (members : List (List UInt8 × Int)) : Prop where
  distinct : (members.map Prod.fst).Nodup
  allowed : forall m, m ∈ members -> MemberAllowed m
  few : (parameters members).length ≤ cpCfgMaxKeys

/-- Members that make a command: at least one is a parameter. -/
structure Admissible (members : List (List UInt8 × Int)) : Prop extends Recordable members where
  some_parameter : parameters members ≠ []

def pairOf (m : List UInt8 × Int) : Option CpCfgPair :=
  (prvFindKey m.1).map fun d => ⟨d.name, d.id, d.size, d.isSigned, m.2⟩

/-- The command of these members, in their order. -/
def commandOf (members : List (List UInt8 × Int)) : CpCfgCmd where
  req := (members.find? fun m => m.1 = ascii "req").map fun m => m.2.toNat
  pairs := members.filterMap pairOf
  badKey := []

section Table

variable {key : List UInt8} {d d' : CpKeyDef}

theorem prvFindKey_some (h : prvFindKey key = some d) : d ∈ cpKeys ∧ ascii d.name = key :=
  ⟨List.mem_of_find?_eq_some h, by simpa using List.find?_some h⟩

theorem prvFindKey_mem (h : d ∈ cpKeys) : prvFindKey (ascii d.name) = some d := by
  have hall : forall d, d ∈ cpKeys -> prvFindKey (ascii d.name) = some d := by decide +kernel
  exact hall d h

theorem cpKeys_id_inj (h : d ∈ cpKeys) (h' : d' ∈ cpKeys) (hid : d.id = d'.id) :
    ascii d.name = ascii d'.name := by
  have hall : forall d, d ∈ cpKeys -> forall d', d' ∈ cpKeys -> d.id = d'.id ->
      ascii d.name = ascii d'.name := by decide +kernel
  exact hall d h d' h' hid

theorem cpKeys_short (h : d ∈ cpKeys) : (ascii d.name).length < cpCfgKeyLen := by
  have hall : forall d, d ∈ cpKeys -> (ascii d.name).length < cpCfgKeyLen := by decide +kernel
  exact hall d h

theorem prvFindKey_req : prvFindKey (ascii "req") = none := by decide +kernel

variable {m : List UInt8 × Int}

theorem MemberAllowed.key_short (h : MemberAllowed m) : m.1.length < cpCfgKeyLen := by
  rcases h with ⟨hreq, _⟩ | ⟨d, hmem, _, hname, _⟩
  · rw [hreq]
    decide +kernel
  · rw [← hname]
    exact cpKeys_short hmem

theorem MemberAllowed.pairOf (h : MemberAllowed m) :
    (m.1 = ascii "req" ∧ CloudPublisher.pairOf m = none) ∨
      (m.1 ≠ ascii "req" ∧ exists d, prvFindKey m.1 = some d ∧ d ∈ cpKeys ∧
        CloudPublisher.pairOf m = some ⟨d.name, d.id, d.size, d.isSigned, m.2⟩) := by
  unfold CloudPublisher.pairOf
  by_cases hreq : m.1 = ascii "req"
  · left
    rw [hreq, prvFindKey_req]
    exact ⟨rfl, rfl⟩
  · right
    rcases h with ⟨hname, _⟩ | ⟨d, hmem, _, hname, _⟩
    · exact absurd hname hreq
    · have hfind := prvFindKey_mem hmem
      rw [hname] at hfind
      refine ⟨hreq, d, hfind, hmem, ?_⟩
      rw [hfind]
      rfl

end Table

section Commands

variable {members : List (List UInt8 × Int)} {m : List UInt8 × Int}

theorem commandOf_length (h : forall m, m ∈ members -> MemberAllowed m) :
    (commandOf members).pairs.length = (parameters members).length := by
  unfold commandOf parameters
  dsimp only
  induction members with
  | nil => rfl
  | cons m members ih =>
      have hrest := ih fun x hx => h x (List.mem_cons_of_mem _ hx)
      rcases (h m List.mem_cons_self).pairOf with ⟨hreq, hnone⟩ | ⟨hne, d, _, _, hpair⟩
      · rw [List.filterMap_cons_none hnone, List.filter_cons_of_neg (by simpa using hreq), hrest]
      · rw [List.filterMap_cons_some hpair, List.filter_cons_of_pos (by simpa using hne),
          List.length_cons, List.length_cons, hrest]

theorem commandOf_req (members : List (List UInt8 × Int)) :
    (commandOf members).req.isSome ↔ ascii "req" ∈ members.map Prod.fst := by
  unfold commandOf
  rw [Option.isSome_map, List.find?_isSome, List.mem_map]
  constructor
  · rintro ⟨m, hm, hreq⟩
    exact ⟨m, hm, by simpa using hreq⟩
  · rintro ⟨m, hm, hreq⟩
    exact ⟨m, hm, by simpa using hreq⟩

theorem commandOf_any (h : forall m, m ∈ members -> MemberAllowed m) {d : CpKeyDef}
    (hd : d ∈ cpKeys) :
    (commandOf members).pairs.any (fun pair => pair.id = d.id) = true ↔
      ascii d.name ∈ members.map Prod.fst := by
  unfold commandOf
  rw [List.any_eq_true, List.mem_map]
  constructor
  · rintro ⟨pair, hpair, hid⟩
    rcases List.mem_filterMap.mp hpair with ⟨m, hm, hof⟩
    rcases (h m hm).pairOf with ⟨_, hnone⟩ | ⟨_, d', hfind, hd', hsome⟩
    · rw [hnone] at hof
      cases hof
    · rw [hsome] at hof
      cases hof
      refine ⟨m, hm, ?_⟩
      rw [← (prvFindKey_some hfind).2]
      exact cpKeys_id_inj hd' hd (of_decide_eq_true hid)
  · rintro ⟨m, hm, hname⟩
    rcases (h m hm).pairOf with ⟨hreq, hnone⟩ | ⟨_, d', hfind, hd', hsome⟩
    · have hfind := prvFindKey_mem hd
      rw [← hname, hreq, prvFindKey_req] at hfind
      cases hfind
    · rw [hname, prvFindKey_mem hd] at hfind
      cases hfind
      exact ⟨_, List.mem_filterMap.mpr ⟨m, hm, hsome⟩, decide_eq_true rfl⟩

theorem Recordable.append (h : Recordable members) (hnew : m.1 ∉ members.map Prod.fst)
    (hallowed : MemberAllowed m)
    (hroom : m.1 ≠ ascii "req" -> (parameters members).length < cpCfgMaxKeys) :
    Recordable (members ++ [m]) := by
  refine ⟨?_, ?_, ?_⟩
  · rw [List.map_append, List.nodup_append]
    refine ⟨h.distinct, List.pairwise_singleton _ _, ?_⟩
    intro x hx y hy heq
    rw [heq, List.mem_singleton.mp hy] at hx
    exact hnew hx
  · intro x hx
    rcases List.mem_append.mp hx with hold | hlast
    · exact h.allowed x hold
    · rw [List.mem_singleton.mp hlast]
      exact hallowed
  · unfold parameters
    rw [List.filter_append, List.length_append]
    by_cases hreq : m.1 = ascii "req"
    · rw [List.filter_cons_of_neg (by simpa using hreq)]
      exact h.few
    · rw [List.filter_cons_of_pos (by simpa using hreq)]
      exact hroom hreq

theorem Recordable.of_append (h : Recordable (members ++ [m])) :
    Recordable members ∧ m.1 ∉ members.map Prod.fst ∧ MemberAllowed m ∧
      (m.1 ≠ ascii "req" -> (parameters members).length < cpCfgMaxKeys) := by
  have hdistinct := h.distinct
  rw [List.map_append, List.nodup_append] at hdistinct
  have hfew := h.few
  unfold parameters at hfew
  rw [List.filter_append, List.length_append] at hfew
  refine ⟨⟨hdistinct.1, fun x hx => h.allowed x (List.mem_append_left _ hx), ?_⟩, ?_,
    h.allowed m (List.mem_append_right _ List.mem_cons_self), ?_⟩
  · exact Nat.le_trans (Nat.le_add_right _ _) hfew
  · intro hmem
    exact hdistinct.2.2 _ hmem _ (List.mem_singleton.mpr rfl) rfl
  · intro hreq
    rw [List.filter_cons_of_pos (by simpa using hreq)] at hfew
    exact hfew

variable {out : CpCfgCmd}

theorem prvAddMember_iff (h : Recordable members) :
    prvAddMember (commandOf members) m.1 m.2 = (.ok, out) ↔
      Recordable (members ++ [m]) ∧ out = commandOf (members ++ [m]) := by
  by_cases hreq : m.1 = ascii "req"
  · -- a request number
    have hfind : (commandOf members).req.isSome = false ->
        commandOf (members ++ [m]) = { commandOf members with req := some m.2.toNat } := by
      intro hnone
      have hnotFound : members.find? (fun m => m.1 = ascii "req") = none := by
        unfold commandOf at hnone
        rw [Option.isSome_map] at hnone
        exact Option.isNone_iff_eq_none.mp (by rw [← Option.not_isSome, hnone]; rfl)
      unfold commandOf
      rw [List.find?_append, hnotFound, List.filterMap_append,
        List.find?_cons_of_pos (by simpa using hreq), List.filterMap_cons_none, List.filterMap_nil,
        List.append_nil]
      · rfl
      · unfold pairOf
        rw [hreq, prvFindKey_req]
        rfl
    unfold prvAddMember
    rw [if_pos hreq]
    by_cases hbad : (commandOf members).req.isSome = true ∨ m.2 < 0 ∨ 0xFFFFFFFF < m.2
    · rw [if_pos hbad]
      constructor
      · intro hok
        cases hok
      · rintro ⟨hrecorded, _⟩
        rcases hrecorded.of_append with ⟨_, hnew, hallowed, _⟩
        rcases hallowed with ⟨_, hlow, hhigh⟩ | ⟨d, hmem, _, hname, _⟩
        · rcases hbad with hknown | hneg | hbig
          · rw [hreq] at hnew
            exact absurd ((commandOf_req members).mp hknown) hnew
          · omega
          · omega
        · have htable := prvFindKey_mem hmem
          rw [hname, hreq, prvFindKey_req] at htable
          cases htable
    · rw [if_neg hbad]
      have hunknown : (commandOf members).req.isSome = false :=
        eq_false_of_ne_true fun hknown => hbad (.inl hknown)
      rw [hfind hunknown]
      constructor
      · intro hok
        cases hok
        refine ⟨h.append ?_ (.inl ⟨hreq, by omega, by omega⟩) fun hne => absurd hreq hne, rfl⟩
        intro hmem
        rw [hreq] at hmem
        exact hbad (.inl ((commandOf_req members).mpr hmem))
      · rintro ⟨_, rfl⟩
        rfl
  · -- a parameter
    unfold prvAddMember
    rw [if_neg hreq]
    cases hfind : prvFindKey m.1 with
    | none =>
        constructor
        · intro hok
          cases hok
        · rintro ⟨hrecorded, _⟩
          rcases hrecorded.of_append.2.2.1 with ⟨hname, _⟩ | ⟨d, hmem, _, hname, _⟩
          · exact absurd hname hreq
          · rw [← hname, prvFindKey_mem hmem] at hfind
            cases hfind
    | some d =>
        rcases prvFindKey_some hfind with ⟨hmem, hname⟩
        have hcommand : commandOf (members ++ [m]) = { commandOf members with
            pairs := (commandOf members).pairs ++
              [⟨d.name, d.id, d.size, d.isSigned, m.2⟩] } := by
          unfold commandOf
          rw [List.find?_append, List.filterMap_append,
            List.find?_cons_of_neg (by simpa using hreq), List.find?_nil, Option.or_none,
            List.filterMap_cons_some (b := ⟨d.name, d.id, d.size, d.isSigned, m.2⟩),
            List.filterMap_nil]
          unfold pairOf
          rw [hfind]
          rfl
        have hallowed : MemberAllowed m -> d.remote = true ∧ prvFits d m.2 = true := by
          rintro (⟨hother, _⟩ | ⟨d', hmem', hremote, hname', hfits⟩)
          · exact absurd hother hreq
          · have hsame := prvFindKey_mem hmem'
            rw [hname', hfind] at hsame
            cases hsame
            exact ⟨hremote, hfits⟩
        dsimp only
        rw [hcommand]
        by_cases hremote : d.remote = true
        · rw [if_neg (by rw [hremote]; decide)]
          by_cases hknown : (commandOf members).pairs.any (fun pair => pair.id = d.id) = true
          · rw [if_pos hknown]
            constructor
            · intro hok
              cases hok
            · rintro ⟨hrecorded, _⟩
              have hnew := hrecorded.of_append.2.1
              rw [← hname] at hnew
              exact absurd ((commandOf_any h.allowed hmem).mp hknown) hnew
          · rw [if_neg hknown, commandOf_length h.allowed]
            by_cases hfull : cpCfgMaxKeys ≤ (parameters members).length
            · rw [if_pos hfull]
              constructor
              · intro hok
                cases hok
              · rintro ⟨hrecorded, _⟩
                exact absurd (hrecorded.of_append.2.2.2 hreq) (Nat.not_lt.mpr hfull)
            · rw [if_neg hfull]
              by_cases hfits : prvFits d m.2 = true
              · rw [if_neg (by rw [hfits]; decide)]
                constructor
                · intro hok
                  cases hok
                  refine ⟨h.append ?_ (.inr ⟨d, hmem, hremote, hname, hfits⟩)
                    fun _ => Nat.lt_of_not_le hfull, rfl⟩
                  intro hold
                  rw [← hname] at hold
                  exact hknown ((commandOf_any h.allowed hmem).mpr hold)
                · rintro ⟨_, rfl⟩
                  rfl
              · rw [if_pos (by rw [eq_false_of_ne_true hfits]; rfl)]
                constructor
                · intro hok
                  cases hok
                · rintro ⟨hrecorded, _⟩
                  exact absurd (hallowed hrecorded.of_append.2.2.1).2 hfits
        · rw [if_pos (by rw [eq_false_of_ne_true hremote]; rfl)]
          constructor
          · intro hok
            cases hok
          · rintro ⟨hrecorded, _⟩
            exact absurd (hallowed hrecorded.of_append.2.2.1).1 hremote

theorem recordable_nil : Recordable [] :=
  ⟨List.Pairwise.nil, fun _ h => (by cases h), Nat.zero_le _⟩

theorem addMembers_append (out : CpCfgCmd) (members : List (List UInt8 × Int))
    (m : List UInt8 × Int) :
    addMembers out (members ++ [m]) =
      (addMembers out members).bind fun out => addMembers out [m] := by
  induction members generalizing out with
  | nil => rfl
  | cons first members ih =>
      rw [List.cons_append]
      unfold addMembers
      split
      · rename_i added _
        rw [ih added]
        rfl
      · rfl

theorem addMembers_iff :
    addMembers ⟨none, [], []⟩ members = some out ↔
      Recordable members ∧ out = commandOf members := by
  induction members using List.reverseRecOn generalizing out with
  | nil =>
      constructor
      · intro h
        cases h
        exact ⟨recordable_nil, rfl⟩
      · rintro ⟨_, rfl⟩
        rfl
  | append_singleton members m ih =>
      rw [addMembers_append, Option.bind_eq_some_iff]
      constructor
      · rintro ⟨before, hbefore, hlast⟩
        rcases ih.mp hbefore with ⟨hrecorded, rfl⟩
        unfold addMembers at hlast
        split at hlast
        · rename_i added hadd
          cases hlast
          exact (prvAddMember_iff hrecorded).mp hadd
        · cases hlast
      · rintro ⟨hrecorded, rfl⟩
        have hbefore := hrecorded.of_append.1
        refine ⟨_, ih.mpr ⟨hbefore, rfl⟩, ?_⟩
        unfold addMembers
        rw [(prvAddMember_iff hbefore).mpr ⟨hrecorded, rfl⟩]
        rfl

end Commands

/-!
## The whole command
-/

theorem membersText_head (h : MembersText (IntegerText cpMaxDigits) body members) :
    exists blank tail, Blank blank ∧ body = blank ++ 0x22 :: tail := by
  have hmember : forall {bytes key value}, MemberText (IntegerText cpMaxDigits) bytes key value ->
      exists blank tail, Blank blank ∧ bytes = blank ++ 0x22 :: tail := by
    intro bytes key value hm
    cases hm with
    | mk hbefore _ _ _ _ => exact ⟨_, _, hbefore, rfl⟩
  cases h with
  | last hm _ | more hm _ _ =>
      rcases hmember hm with ⟨blank, tail, hblank, rfl⟩
      exact ⟨blank, _, hblank, by rw [List.append_assoc, List.cons_append]⟩

theorem cpParseConfigCommand_iff {payload : List UInt8} :
    cpParseConfigCommand payload = (.ok, out) ↔
      exists members, ObjectText (IntegerText cpMaxDigits) payload members ∧
        Admissible members ∧ out = commandOf members := by
  constructor
  · intro h
    unfold cpParseConfigCommand at h
    dsimp only at h
    split at h
    · rename_i rest hopen
      split at h
      · cases h
      · rcases parseMembers_sound h with
          ⟨members, body, after, hrest, hmembers, hafter, hadded, hfilled⟩
        rcases addMembers_iff.mp hadded with ⟨hrecorded, rfl⟩
        rcases skipSpace_sound payload with ⟨before, hbefore, hpayload⟩
        refine ⟨members, ?_, ⟨hrecorded, ?_⟩, rfl⟩
        · rw [hpayload, hopen, hrest]
          exact .mk hbefore hmembers hafter
        · intro hnone
          have hlength := commandOf_length hrecorded.allowed
          rw [hnone] at hlength
          exact hfilled (List.length_eq_zero_iff.mp hlength)
    · cases h
  · rintro ⟨members, hobject, hadmissible, rfl⟩
    cases hobject with
    | @mk before body after _ hbefore hmembers hafter =>
        have hopen : prvSkipSpace (before ++ 0x7B :: (body ++ 0x7D :: after)) =
            0x7B :: (body ++ 0x7D :: after) := skipSpace_exact hbefore (head_not_blank rfl)
        have hfilled : (commandOf members).pairs ≠ [] := by
          intro hnone
          have hlength := commandOf_length hadmissible.allowed
          rw [hnone] at hlength
          exact hadmissible.some_parameter (List.length_eq_zero_iff.mp hlength.symm)
        have hadded := addMembers_iff.mpr ⟨hadmissible.toRecordable, rfl⟩
        have hfuel : (body ++ 0x7D :: after).length <
            (before ++ 0x7B :: (body ++ 0x7D :: after)).length + 1 := by
          simp only [List.length_append, List.length_cons]
          omega
        have hparsed := parseMembers_complete hmembers hafter
          (fun m hm => (hadmissible.allowed m hm).key_short) hadded hfilled hfuel
        rcases membersText_head hmembers with ⟨blank, tail, hblank, rfl⟩
        have hhead : prvSkipSpace ((blank ++ 0x22 :: tail) ++ 0x7D :: after) =
            0x22 :: (tail ++ 0x7D :: after) := by
          rw [List.append_assoc, List.cons_append]
          exact skipSpace_exact hblank (head_not_blank rfl)
        unfold cpParseConfigCommand
        dsimp only
        rw [hopen]
        split
        · rename_i rest hsame
          cases hsame
          rw [hhead]
          exact hparsed
        · rename_i hother
          exact absurd rfl (hother _)

end EnvMonitor.Gateway.CloudPublisher
