import EnvMonitor.Gateway.CloudPublisher.ConfigGrammar
import Mathlib.Data.List.DropRight

/-!
# The /config parser on its index

The scanners as they are written, with one index into the payload.  A read behind the payload
has no result here, so a result means that none was made, and that every loop has ended.
-/

namespace EnvMonitor.Gateway.CloudPublisher

open ConfigService FlatJson

section Scanners

variable (p : List UInt8)

/-- `p[i]`, for a payload of the length of the list. -/
def byteAt (i : Nat) : Option UInt8 := p[i]?

/-- `prv_skip_space` -/
def prvSkipSpaceAt (i : Nat) : Option Nat :=
  if i < p.length then do
    let c ← byteAt p i
    if prvIsSpace c then prvSkipSpaceAt (i + 1) else some i
  else some i
termination_by p.length - i

/-- The loop of `prv_scan_key`, with `n` characters in the buffer. -/
def scanKeyLoopAt (i n : Nat) (key : List UInt8) : Option (Option (List UInt8 × Nat)) :=
  if i < p.length then do
    let c ← byteAt p i
    if c = 0x22 then some (some (key.reverse, i + 1))
    else if c < 0x20 ∨ c = 0x5C ∨ cpCfgKeyLen - 1 ≤ n then some none
    -- `key` holds `CP_CFG_KEY_LEN` characters
    else if cpCfgKeyLen ≤ n then none
    else scanKeyLoopAt (i + 1) (n + 1) (c :: key)
  else some none
termination_by p.length - i

/-- `prv_scan_key` -/
def prvScanKeyAt (i : Nat) : Option (Option (List UInt8 × Nat)) :=
  if p.length <= i then some none
  else do
    let c ← byteAt p i
    if c = 0x22 then scanKeyLoopAt p (i + 1) 0 [] else some none

/-- The loop of `prv_scan_int`. -/
def scanDigitsAt (i digits v : Nat) : Option (Option (Nat × Nat × Nat)) :=
  if i < p.length then do
    let c ← byteAt p i
    if isDigit c then
      if cpMaxDigits < digits + 1 then some none
      else scanDigitsAt (i + 1) (digits + 1) (v * 10 + (c.toNat - 0x30))
    else some (some (digits, v, i))
  else some (some (digits, v, i))
termination_by p.length - i

/-- The minus sign in front of the digits. -/
def minusAt (i : Nat) : Option (Bool × Nat) :=
  if i < p.length then do
    let c ← byteAt p i
    some (if c = 0x2D then (true, i + 1) else (false, i))
  else some (false, i)

/-- The delimiter behind them. -/
def delimitedAt (i : Nat) : Option Bool :=
  if i < p.length then do
    let c ← byteAt p i
    some (prvIsSpace c || c == 0x2C || c == 0x7D)
  else some true

/-- `prv_scan_int` -/
def prvScanIntAt (i : Nat) : Option (Option (Int × Nat)) := do
  let (negative, i) ← minusAt p i
  match ← scanDigitsAt p i 0 0 with
  | none => some none
  | some (digits, v, i) =>
      if digits = 0 then some none
      else do
        let isDelimited ← delimitedAt p i
        if !isDelimited then some none
        else some (some (if negative then -(v : Int) else v, i))

/-- A byte that must be there. -/
def expectAt (i : Nat) (c : UInt8) : Option (Option Nat) :=
  if p.length <= i then some none
  else do
    let d ← byteAt p i
    some (if d = c then some (i + 1) else none)

/-- One `"key": value`, with the white space before it. -/
def scanMemberAt (i : Nat) : Option (Option (List UInt8 × Int × Nat)) := do
  let i ← prvSkipSpaceAt p i
  match ← prvScanKeyAt p i with
  | none => some none
  | some (key, i) => do
      let i ← prvSkipSpaceAt p i
      match ← expectAt p i 0x3A with
      | none => some none
      | some i => do
          let i ← prvSkipSpaceAt p i
          match ← prvScanIntAt p i with
          | none => some none
          | some (value, i) => some (some (key, value, i))

/-- The end of the object and what follows it. -/
def closeObjectAt (out : CpCfgCmd) (i : Nat) : Option (CpCfgStatus × CpCfgCmd) := do
  let i ← prvSkipSpaceAt p i
  some (if i ≠ p.length ∨ out.pairs = [] then (.badJson, out) else (.ok, out))

/-- The loop of `cp_parse_config_command`.  Out of fuel there is no result. -/
def parseMembersAt : Nat -> Nat -> CpCfgCmd -> Option (CpCfgStatus × CpCfgCmd)
  | 0, _, _ => none
  | fuel + 1, i, out => do
      match ← scanMemberAt p i with
      | none => some (.badJson, out)
      | some (key, value, i) =>
          match prvAddMember out key value with
          | (.ok, out) => do
              let i ← prvSkipSpaceAt p i
              if p.length <= i then some (.badJson, out)
              else do
                let c ← byteAt p i
                if c = 0x7D then closeObjectAt p out (i + 1)
                else if c = 0x2C then parseMembersAt fuel (i + 1) out
                else some (.badJson, out)
          | refused => some refused

/-- `cp_parse_config_command` for a payload that is there. -/
def cpParseConfigCommandAt : Option (CpCfgStatus × CpCfgCmd) :=
  let out : CpCfgCmd := ⟨none, [], []⟩
  if p.length = 0 then some (.badJson, out)
  else do
    let i ← prvSkipSpaceAt p 0
    match ← expectAt p i 0x7B with
    | none => some (.badJson, out)
    | some i => do
        let i ← prvSkipSpaceAt p i
        match ← expectAt p i 0x7D with
        | some _ => some (.badJson, out)
        | none => parseMembersAt p (p.length + 1) i out

end Scanners

/-!
## The index and what is left behind it
-/

section Agreement

variable {p : List UInt8} {i : Nat}

/-- A scanner has a result; it is the one on the bytes left, and the index stays within. -/
def Scanned {α : Type} (p : List UInt8) (r : Option (Option (α × Nat)))
    (l : Option (α × List UInt8)) : Prop :=
  exists o, r = some o ∧ o.map (fun x => (x.1, p.drop x.2)) = l ∧
    forall x, o = some x -> x.2 ≤ p.length

theorem Scanned.fails {α : Type} : Scanned (α := α) p (some none) none :=
  ⟨none, rfl, rfl, fun _ h => (by cases h)⟩

theorem Scanned.succeeds {α : Type} {a : α} {j : Nat} (hj : j ≤ p.length) :
    Scanned p (some (some (a, j))) (some (a, p.drop j)) := by
  refine ⟨some (a, j), rfl, rfl, ?_⟩
  intro x hx
  cases hx
  exact hj

theorem byteAt_drop (h : i < p.length) :
    exists c, byteAt p i = some c ∧ p.drop i = c :: p.drop (i + 1) :=
  ⟨p[i], List.getElem?_eq_getElem h, List.drop_eq_getElem_cons h⟩

theorem prvSkipSpaceAt_eq (h : i ≤ p.length) :
    exists j, prvSkipSpaceAt p i = some j ∧ j ≤ p.length ∧
      p.drop j = prvSkipSpace (p.drop i) := by
  induction hleft : p.length - i generalizing i with
  | zero =>
      have hend : ¬ i < p.length := by omega
      refine ⟨i, ?_, h, ?_⟩
      · rw [prvSkipSpaceAt, if_neg hend]
      · rw [List.drop_eq_nil_of_le (Nat.le_of_not_lt hend)]
        rfl
  | succ left ih =>
      have hin : i < p.length := by omega
      rcases byteAt_drop hin with ⟨c, hbyte, hdrop⟩
      rw [prvSkipSpaceAt, if_pos hin, hbyte, hdrop]
      unfold prvSkipSpace
      change exists j, (if prvIsSpace c then prvSkipSpaceAt p (i + 1) else some i) = some j ∧ _
      by_cases hspace : prvIsSpace c = true
      · rw [if_pos hspace, List.dropWhile_cons_of_pos hspace]
        exact ih (by omega) (by omega)
      · rw [if_neg hspace, List.dropWhile_cons_of_neg hspace]
        exact ⟨i, rfl, h, hdrop⟩

theorem scanKeyLoopAt_eq {n : Nat} (key : List UInt8) (h : i ≤ p.length) :
    Scanned p (scanKeyLoopAt p i n key) (scanKeyBody n key (p.drop i)) := by
  induction hleft : p.length - i generalizing i n key with
  | zero =>
      have hend : ¬ i < p.length := by omega
      rw [scanKeyLoopAt, if_neg hend, List.drop_eq_nil_of_le (Nat.le_of_not_lt hend)]
      exact .fails
  | succ left ih =>
      have hin : i < p.length := by omega
      rcases byteAt_drop hin with ⟨c, hbyte, hdrop⟩
      rw [scanKeyLoopAt, if_pos hin, hbyte, hdrop]
      unfold scanKeyBody
      simp only [Option.bind_eq_bind, Option.bind_some]
      by_cases hquote : c = 0x22
      · rw [if_pos hquote, if_pos hquote]
        exact .succeeds hin
      · rw [if_neg hquote, if_neg hquote]
        by_cases hbad : c < 0x20 ∨ c = 0x5C ∨ cpCfgKeyLen - 1 ≤ n
        · rw [if_pos hbad, if_pos hbad]
          exact .fails
        · have hroom : ¬ cpCfgKeyLen ≤ n := by
            intro hfull
            exact hbad (.inr (.inr (Nat.le_trans (Nat.sub_le _ _) hfull)))
          rw [if_neg hbad, if_neg hbad, if_neg hroom]
          exact ih (c :: key) (by omega) (by omega)

theorem prvScanKeyAt_eq (p : List UInt8) (i : Nat) :
    Scanned p (prvScanKeyAt p i) (prvScanKey (p.drop i)) := by
  unfold prvScanKeyAt prvScanKey
  by_cases hend : p.length <= i
  · rw [if_pos hend, List.drop_eq_nil_of_le hend]
    exact .fails
  · rcases byteAt_drop (Nat.lt_of_not_le hend) with ⟨c, hbyte, hdrop⟩
    rw [if_neg hend, hbyte, hdrop]
    simp only [Option.bind_eq_bind, Option.bind_some]
    by_cases hquote : c = 0x22
    · rw [if_pos hquote, if_pos hquote]
      exact scanKeyLoopAt_eq [] (by omega)
    · rw [if_neg hquote, if_neg hquote]
      exact .fails

theorem scanDigitsAt_eq {digits v : Nat} (h : i ≤ p.length) :
    exists o, scanDigitsAt p i digits v = some o ∧
      o.map (fun x => (x.1, x.2.1, p.drop x.2.2)) = scanDigits digits v (p.drop i) ∧
      forall x, o = some x -> x.2.2 ≤ p.length := by
  induction hleft : p.length - i generalizing i digits v with
  | zero =>
      have hend : ¬ i < p.length := by omega
      have hnil : p.drop i = [] := List.drop_eq_nil_of_le (Nat.le_of_not_lt hend)
      rw [scanDigitsAt, if_neg hend]
      refine ⟨some (digits, v, i), rfl, ?_, ?_⟩
      · change some (digits, v, p.drop i) = _
        rw [hnil]
        rfl
      · intro x hx
        cases hx
        exact h
  | succ left ih =>
      have hin : i < p.length := by omega
      rcases byteAt_drop hin with ⟨c, hbyte, hdrop⟩
      rw [scanDigitsAt, if_pos hin, hbyte, hdrop]
      unfold scanDigits
      simp only [Option.bind_eq_bind, Option.bind_some]
      by_cases hdigit : CloudPublisher.isDigit c = true
      · rw [if_pos hdigit, if_pos hdigit]
        by_cases hfull : cpMaxDigits < digits + 1
        · rw [if_pos hfull, if_pos hfull]
          exact ⟨none, rfl, rfl, fun _ hx => (by cases hx)⟩
        · rw [if_neg hfull, if_neg hfull]
          exact ih (by omega) (by omega)
      · rw [if_neg hdigit, if_neg hdigit, ← hdrop]
        refine ⟨some (digits, v, i), rfl, rfl, ?_⟩
        intro x hx
        cases hx
        exact h

theorem minusAt_eq (h : i ≤ p.length) :
    exists j, minusAt p i = some (decide ((p.drop i).head? = some 0x2D), j) ∧ j ≤ p.length ∧
      p.drop j = if (p.drop i).head? = some 0x2D then (p.drop i).tail else p.drop i := by
  unfold minusAt
  by_cases hin : i < p.length
  · rcases byteAt_drop hin with ⟨c, hbyte, hdrop⟩
    rw [if_pos hin, hbyte]
    simp only [Option.bind_eq_bind, Option.bind_some]
    rw [hdrop]
    by_cases hminus : c = 0x2D
    · rw [if_pos hminus, hminus]
      exact ⟨i + 1, rfl, hin, rfl⟩
    · have hhead : (c :: p.drop (i + 1)).head? ≠ some 0x2D := by
        intro hsome
        injection hsome with hsome
        exact hminus hsome
      rw [if_neg hminus, if_neg hhead, decide_eq_false hhead]
      exact ⟨i, rfl, h, hdrop⟩
  · rw [if_neg hin, List.drop_eq_nil_of_le (Nat.le_of_not_lt hin)]
    exact ⟨i, rfl, h, List.drop_eq_nil_of_le (Nat.le_of_not_lt hin)⟩

theorem delimitedAt_eq (p : List UInt8) (i : Nat) :
    delimitedAt p i = some (delimited (p.drop i)) := by
  unfold delimitedAt
  by_cases hin : i < p.length
  · rcases byteAt_drop hin with ⟨c, hbyte, hdrop⟩
    rw [if_pos hin, hbyte, hdrop]
    rfl
  · rw [if_neg hin, List.drop_eq_nil_of_le (Nat.le_of_not_lt hin)]
    rfl

theorem prvScanIntAt_eq (h : i ≤ p.length) :
    Scanned p (prvScanIntAt p i) (prvScanInt (p.drop i)) := by
  rcases minusAt_eq h with ⟨j, hminus, hj, hrest⟩
  rcases @scanDigitsAt_eq p j 0 0 hj with ⟨o, hdigits, hmap, hend⟩
  unfold prvScanIntAt prvScanInt
  rw [hminus]
  simp only [Option.bind_eq_bind, Option.bind_some]
  rw [hdigits, ← hrest, ← hmap]
  cases o with
  | none => exact .fails
  | some x =>
      rcases x with ⟨digits, v, k⟩
      simp only [Option.bind_some, Option.map_some]
      by_cases hnone : digits = 0
      · rw [if_pos hnone, if_pos hnone]
        exact .fails
      · rw [if_neg hnone, if_neg hnone, delimitedAt_eq]
        simp only [Option.bind_some]
        cases hstop : delimited (p.drop k) with
        | false => exact .fails
        | true =>
            refine ⟨_, rfl, ?_, ?_⟩
            · simp
            · intro y hy
              cases hy
              exact hend _ rfl

theorem expectAt_eq (p : List UInt8) (i : Nat) (c : UInt8) :
    (exists rest, p.drop i = c :: rest ∧ expectAt p i c = some (some (i + 1)) ∧
      p.drop (i + 1) = rest ∧ i + 1 ≤ p.length) ∨
    ((forall rest, p.drop i ≠ c :: rest) ∧ expectAt p i c = some none) := by
  unfold expectAt
  by_cases hend : p.length <= i
  · right
    rw [if_pos hend, List.drop_eq_nil_of_le hend]
    exact ⟨fun _ heq => (by cases heq), rfl⟩
  · rcases byteAt_drop (Nat.lt_of_not_le hend) with ⟨d, hbyte, hdrop⟩
    rw [if_neg hend, hbyte, hdrop]
    simp only [Option.bind_eq_bind, Option.bind_some]
    by_cases hd : d = c
    · rw [if_pos hd, hd]
      exact .inl ⟨_, rfl, rfl, rfl, by omega⟩
    · rw [if_neg hd]
      right
      refine ⟨?_, rfl⟩
      intro rest heq
      injection heq with heq _
      exact hd heq

theorem scanMemberAt_eq (h : i ≤ p.length) :
    exists o, scanMemberAt p i = some o ∧
      o.map (fun x => (x.1, x.2.1, p.drop x.2.2)) = scanMember (p.drop i) ∧
      forall x, o = some x -> x.2.2 ≤ p.length := by
  have hfails : exists o : Option (List UInt8 × Int × Nat), some none = some o ∧
      o.map (fun x => (x.1, x.2.1, p.drop x.2.2)) = none ∧
      forall x, o = some x -> x.2.2 ≤ p.length :=
    ⟨none, rfl, rfl, fun _ hx => (by cases hx)⟩
  rcases prvSkipSpaceAt_eq h with ⟨j, hskip, hj, hrest⟩
  rcases prvScanKeyAt_eq p j with ⟨o, hkey, hmap, hbound⟩
  unfold scanMemberAt scanMember
  rw [hskip, ← hrest, ← hmap]
  simp only [Option.bind_eq_bind, Option.bind_some]
  rw [hkey]
  cases o with
  | none => exact hfails
  | some x =>
      rcases x with ⟨key, k⟩
      rcases prvSkipSpaceAt_eq (hbound _ rfl) with ⟨j, hskip, hj, hrest⟩
      simp only [Option.bind_some, Option.map_some]
      dsimp only at hskip hrest
      rw [hskip, ← hrest]
      simp only [Option.bind_some]
      rcases expectAt_eq p j 0x3A with ⟨rest, hdrop, hexpect, hnext, hle⟩ | ⟨hnone, hexpect⟩
      · rw [hexpect, hdrop]
        simp only [Option.bind_some]
        rcases prvSkipSpaceAt_eq hle with ⟨l, hskip, hl, hspace⟩
        rcases prvScanIntAt_eq hl with ⟨o, hint, hmap, hbound⟩
        rw [hskip]
        simp only [Option.bind_some]
        rw [hint, ← hnext, ← hspace, ← hmap]
        cases o with
        | none => exact hfails
        | some y =>
            refine ⟨_, rfl, rfl, ?_⟩
            intro x hx
            cases hx
            exact hbound _ rfl
      · rw [hexpect]
        simp only [Option.bind_some]
        exact hfails

theorem closeObjectAt_eq (out : CpCfgCmd) (h : i ≤ p.length) :
    closeObjectAt p out i = some (closeObject out (p.drop i)) := by
  rcases prvSkipSpaceAt_eq h with ⟨j, hskip, hj, hrest⟩
  have hend : j ≠ p.length ↔ prvSkipSpace (p.drop i) ≠ [] := by
    rw [← hrest, ne_eq, ne_eq, List.drop_eq_nil_iff]
    constructor
    · intro hne hle
      exact hne (Nat.le_antisymm hj hle)
    · intro hne heq
      exact hne (Nat.le_of_eq heq.symm)
  unfold closeObjectAt closeObject
  rw [hskip]
  simp only [Option.bind_eq_bind, Option.bind_some, hend]

theorem prvSkipSpace_idem (rest : List UInt8) :
    prvSkipSpace (prvSkipSpace rest) = prvSkipSpace rest := by
  unfold prvSkipSpace
  exact List.dropWhile_idempotent _ _

theorem scanMember_skip (rest : List UInt8) :
    scanMember (prvSkipSpace rest) = scanMember rest := by
  unfold scanMember
  rw [prvSkipSpace_idem]

theorem parseMembers_skip (fuel : Nat) (rest : List UInt8) (out : CpCfgCmd) :
    parseMembers fuel (prvSkipSpace rest) out = parseMembers fuel rest out := by
  cases fuel with
  | zero => rfl
  | succ fuel =>
      unfold parseMembers
      rw [scanMember_skip]

theorem parseMembersAt_eq {fuel : Nat} (out : CpCfgCmd) (h : i ≤ p.length)
    (hfuel : (p.drop i).length < fuel) :
    parseMembersAt p fuel i out = some (parseMembers fuel (p.drop i) out) := by
  induction fuel generalizing i out with
  | zero => exact absurd hfuel (Nat.not_lt_zero _)
  | succ fuel ih =>
      rcases scanMemberAt_eq h with ⟨o, hscan, hmap, hbound⟩
      unfold parseMembersAt parseMembers
      rw [hscan]
      simp only [Option.bind_eq_bind, Option.bind_some]
      cases o with
      | none =>
          rw [← hmap]
          rfl
      | some x =>
          rcases x with ⟨key, value, j⟩
          have hmember : scanMember (p.drop i) = some (key, value, p.drop j) := hmap.symm
          have hshorter := scanMember_shorter hmember
          rcases prvSkipSpaceAt_eq (hbound _ rfl) with ⟨k, hskip, hk, hrest⟩
          rw [hmember]
          dsimp only at hskip hrest ⊢
          rcases hadd : prvAddMember out key value with ⟨status, added⟩
          cases status with
          | badJson | unknownKey | notRemote | tooManyKeys | invalidValue | busy => rfl
          | ok =>
            dsimp only
            rw [hskip]
            simp only [Option.bind_some]
            rw [← hrest]
            have hlength := prvSkipSpace_le (p.drop j)
            rw [← hrest] at hlength
            by_cases hend : p.length <= k
            · rw [if_pos hend, List.drop_eq_nil_of_le hend]
            · rcases byteAt_drop (Nat.lt_of_not_le hend) with ⟨c, hbyte, hdrop⟩
              rw [hdrop, List.length_cons] at hlength
              rw [if_neg hend, hbyte, hdrop]
              simp only [Option.bind_some]
              by_cases hclose : c = 0x7D
              · subst hclose
                rw [if_pos rfl]
                exact closeObjectAt_eq _ (Nat.lt_of_not_le hend)
              · rw [if_neg hclose]
                by_cases hcomma : c = 0x2C
                · subst hcomma
                  rw [if_pos rfl]
                  exact ih _ (Nat.lt_of_not_le hend) (by omega)
                · rw [if_neg hcomma]
                  split
                  · rename_i heq
                    injection heq with heq _
                    exact absurd heq hclose
                  · rename_i heq
                    injection heq with heq _
                    exact absurd heq hcomma
                  · rfl

theorem cpParseConfigCommandAt_eq (p : List UInt8) :
    cpParseConfigCommandAt p = some (cpParseConfigCommand p) := by
  unfold cpParseConfigCommandAt cpParseConfigCommand
  dsimp only
  by_cases hempty : p.length = 0
  · rw [if_pos hempty, List.length_eq_zero_iff.mp hempty]
    rfl
  rw [if_neg hempty]
  rcases prvSkipSpaceAt_eq (Nat.zero_le p.length) with ⟨j, hskip, hj, hrest⟩
  rw [List.drop_zero] at hrest
  rw [hskip, ← hrest]
  simp only [Option.bind_eq_bind, Option.bind_some]
  rcases expectAt_eq p j 0x7B with ⟨rest, hdrop, hexpect, hnext, hle⟩ | ⟨hnone, hexpect⟩
  · rcases prvSkipSpaceAt_eq hle with ⟨k, hskip, hk, hspace⟩
    rw [hnext] at hspace
    rw [hexpect, hdrop]
    simp only [Option.bind_some]
    rw [hskip, ← hspace]
    simp only [Option.bind_some]
    have hmembers : parseMembersAt p (p.length + 1) k ⟨none, [], []⟩ =
        some (parseMembers (p.length + 1) rest ⟨none, [], []⟩) := by
      rw [parseMembersAt_eq _ hk (by rw [List.length_drop]; omega), hspace, parseMembers_skip]
    rcases expectAt_eq p k 0x7D with ⟨rest', hdrop', hexpect', _⟩ | ⟨hnone', hexpect'⟩
    · rw [hexpect', hdrop']
      rfl
    · rw [hexpect']
      simp only [Option.bind_some]
      rw [hmembers]
  · rw [hexpect]
    simp only [Option.bind_some]

end Agreement

/-!
## What is accepted
-/

/-- The parser ends on every payload without a read behind it, and answers OK exactly for one
flat object of admissible members, whose command it returns. -/
theorem config_command_grammar (payload : List UInt8) :
    (exists result, cpParseConfigCommandAt payload = some result) ∧
    ((exists out, cpParseConfigCommandAt payload = some (.ok, out)) ↔
      exists members, ObjectText (IntegerText cpMaxDigits) payload members ∧
        Admissible members) ∧
    (forall members, ObjectText (IntegerText cpMaxDigits) payload members ->
      Admissible members -> cpParseConfigCommandAt payload = some (.ok, commandOf members)) := by
  rw [cpParseConfigCommandAt_eq]
  refine ⟨⟨_, rfl⟩, ?_, ?_⟩
  · constructor
    · rintro ⟨out, hout⟩
      injection hout with hout
      rcases cpParseConfigCommand_iff.mp hout with ⟨members, hobject, hadmissible, _⟩
      exact ⟨members, hobject, hadmissible⟩
    · rintro ⟨members, hobject, hadmissible⟩
      exact ⟨_, congrArg some
        (cpParseConfigCommand_iff.mpr ⟨members, hobject, hadmissible, rfl⟩)⟩
  · intro members hobject hadmissible
    exact congrArg some (cpParseConfigCommand_iff.mpr ⟨members, hobject, hadmissible, rfl⟩)

/-- A command with a request number and white space. -/
theorem config_command_grammar_request :
    exists members, ObjectText (IntegerText cpMaxDigits)
      (ascii "\x7b\"req\" : 7, \"telemetry_interval_ms\":60000 \x7d") members ∧
        Admissible members := by
  apply (config_command_grammar _).2.1.mp
  refine ⟨(cpParseConfigCommand
    (ascii "\x7b\"req\" : 7, \"telemetry_interval_ms\":60000 \x7d")).2, ?_⟩
  rw [cpParseConfigCommandAt_eq]
  have hok : (cpParseConfigCommand
      (ascii "\x7b\"req\" : 7, \"telemetry_interval_ms\":60000 \x7d")).1 = .ok := by
    decide +kernel
  exact congrArg some (Prod.ext hok rfl)

/-- An integer may begin with zeros, which a JSON number may not. -/
theorem config_command_leading_zero :
    ¬ forall payload, (exists out, cpParseConfigCommandAt payload = some (.ok, out)) ↔
      exists members, ObjectText (StrictInteger cpMaxDigits) payload members ∧
        Admissible members := by
  intro hclaim
  have haccepted : (cpParseConfigCommand
      (ascii "\x7b\"telemetry_interval_ms\":060000\x7d")).1 = .ok := by decide +kernel
  rcases (hclaim (ascii "\x7b\"telemetry_interval_ms\":060000\x7d")).mp
    ⟨_, by rw [cpParseConfigCommandAt_eq]; exact congrArg some (Prod.ext haccepted rfl)⟩ with
    ⟨members, hobject, _⟩
  generalize hpayload : ascii "\x7b\"telemetry_interval_ms\":060000\x7d" = payload at hobject
  cases hobject with
  | @mk before body after _ hbefore hmembers hafter =>
      -- the object is opened at once
      have hopened : prvSkipSpace (before ++ 0x7B :: (body ++ 0x7D :: after)) =
          0x7B :: (body ++ 0x7D :: after) := skipSpace_exact hbefore (head_not_blank rfl)
      have hcut : prvSkipSpace (ascii "\x7b\"telemetry_interval_ms\":060000\x7d") =
          0x7B :: ascii "\"telemetry_interval_ms\":060000\x7d" := by decide +kernel
      rw [← hpayload, hcut] at hopened
      injection hopened with _ hbody
      rcases hmembers.first after with
        ⟨bytes, key, value, blank, c, rest, hmember, hblank, hc, hsplit⟩
      rw [← hbody] at hsplit
      cases hmember with
      | @mk front _ middle gap text _ hfront hplain hmiddle hgap hstrict =>
          -- the key is cut at its closing quote
          rw [List.append_assoc, List.cons_append] at hsplit
          have hquoted : prvSkipSpace (ascii "\"telemetry_interval_ms\":060000\x7d") =
              0x22 :: (ascii "telemetry_interval_ms" ++ 0x22 :: ascii ":060000\x7d") := by
            decide +kernel
          rw [hsplit, skipSpace_exact hfront (head_not_blank rfl)] at hquoted
          injection hquoted with _ hkey
          rw [List.append_assoc, List.cons_append] at hkey
          have hname : (0x22 : UInt8) ∉ ascii "telemetry_interval_ms" := by decide +kernel
          rcases append_cons_inj (fun hin => (hplain _ hin).2.1 rfl) hname hkey with ⟨_, hcolon⟩
          -- the colon and the white space are skipped
          rw [List.append_assoc, List.cons_append] at hcolon
          have hvalue : prvSkipSpace (ascii ":060000\x7d") = 0x3A :: ascii "060000\x7d" := by
            decide +kernel
          rw [← hcolon, skipSpace_exact hmiddle (head_not_blank rfl)] at hvalue
          injection hvalue with _ hvalue
          rw [List.append_assoc] at hvalue
          have hdigits : prvSkipSpace (ascii "060000\x7d") = ascii "060000\x7d" := by
            decide +kernel
          rw [← hvalue, skipSpace_exact hgap (integerText_head hstrict.1), hvalue] at hdigits
          -- the integer is what the scanner takes
          have hscan : prvScanInt (text ++ (blank ++ c :: rest)) =
              some (value, blank ++ c :: rest) :=
            prvScanInt_iff.mpr ⟨text, rfl, hstrict.1, delimited_after hblank hc⟩
          have hscanned : prvScanInt (ascii "060000\x7d") = some (60000, [0x7D]) := by
            decide +kernel
          rw [hdigits, hscanned] at hscan
          injection hscan with hscan
          injection hscan with _ hleft
          have hends : ascii "060000\x7d" = ascii "060000" ++ [0x7D] := by decide +kernel
          rw [← hleft, hends] at hdigits
          have htext := List.append_cancel_right hdigits
          have hlength := hstrict.2
          rw [htext] at hlength
          exact absurd (hlength (by decide +kernel)) (by decide +kernel)

end EnvMonitor.Gateway.CloudPublisher
