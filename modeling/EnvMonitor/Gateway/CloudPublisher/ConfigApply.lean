import Mathlib.Data.List.Nodup
import EnvMonitor.Gateway.CloudPublisher.ConfigCommand
import EnvMonitor.Gateway.ConfigService.Reload

/-!
# Applying a /config command

`prv_apply_config` sets the parameters one at a time and, when one is refused, puts back the ones
before it, newest first.
-/

namespace EnvMonitor.Gateway.CloudPublisher

open ConfigService

/-- The conversion of C to an integer type. -/
def cCast : FieldKind -> Int -> Int
  | .u8, v => v % 256
  | .u16, v => v % 65536
  | .i16, v => (v + 32768) % 65536 - 32768
  | .u32, v => v % 4294967296

theorem cCast_fits (kind : FieldKind) (v : Int) :
    kind.lo ≤ cCast kind v ∧ cCast kind v ≤ kind.hi := by
  cases kind <;> simp only [FieldKind.lo, FieldKind.hi, cCast] <;> omega

variable {v value : Int} {pair refused : CpCfgPair} {param : NumericParam}
variable {after before later pairs : List CpCfgPair} {s t t' : Service} {p : ConfigParams}

theorem cCast_eq {kind : FieldKind} (h : kind.lo ≤ v ∧ v ≤ kind.hi) : cCast kind v = v := by
  cases kind <;> simp only [FieldKind.lo, FieldKind.hi, cCast] at h ⊢ <;> omega

/-- What a parameter reads from the memory of a variable. -/
def fieldValue (param : NumericParam) (v : Int) : param.Value :=
  ⟨cCast param.kind v, cCast_fits param.kind v⟩

/-- `prv_read_param`; no parameter that holds a text is remote. -/
def prvReadParam (params : ConfigParams) (pair : CpCfgPair) : Int :=
  match pair.id with
  | .numeric param => cCast (fieldType pair.size pair.isSigned) (params.num param)
  | _ => 0

/-- `prv_set_param` -/
def prvSetParam (pair : CpCfgPair) (value : Int) (s : Service) : ConfigServiceErr × Service :=
  match pair.id with
  | .numeric param =>
      let v := cCast (fieldType pair.size pair.isSigned) value
      configServiceSetParamDeferred (.numeric param) (fieldValue param v) s
  | _ => (.invalid, s)

/-- A parameter of the command with its value before the command. -/
abbrev Change : Type := CpCfgPair × Int

/-- Back out what was applied; `applied` has the newest first. -/
def backOut (applied : List Change) (s : Service) : Service :=
  applied.foldl (fun s change => (prvSetParam change.1 change.2 s).2) s

/-- The loop of `prv_apply_config`: the parameter that was refused, if any. -/
def applyPairs (applied : List Change) : List Change -> Service -> Option CpCfgPair × Service
  | [], s => (none, s)
  | change :: rest, s =>
      match prvSetParam change.1 change.1.value s with
      | (.ok, s') => applyPairs (change :: applied) rest s'
      | (_, s') => (some change.1, backOut applied s')

/-- What `prv_publish_config_result` answers. -/
structure ConfigResult where
  status : CpCfgStatus
  key : List UInt8
  req : Option Nat

/-- `prv_apply_config` -/
def prvApplyConfig (operational : Bool) (payload : List UInt8) (s : Service) :
    ConfigResult × Service :=
  let (status, cmd) := cpParseConfigCommand payload
  if !operational then (⟨.busy, [], cmd.req⟩, s)
  else if status ≠ .ok then (⟨status, cmd.badKey, cmd.req⟩, s)
  else
    let changes := cmd.pairs.map fun pair => (pair, prvReadParam s.params pair)
    match applyPairs [] changes s with
    | (none, s') => (⟨.ok, [], cmd.req⟩, s')
    | (some pair, s') => (⟨.invalidValue, ascii pair.key, cmd.req⟩, s')

/-!
## Parameters of a command
-/

/-- Not a range limit and not the server count: other rules do not depend on it across the
parameters of a command. -/
def plainParam : NumericParam -> Bool
  | .channel _ .rangeMin | .channel _ .rangeMax | .ntpServerCount => false
  | _ => true

def CpKeyDef.agrees (d : CpKeyDef) : Bool :=
  match d.id with
  | .numeric param => fieldType d.size d.isSigned == param.kind && plainParam param
  | _ => false

theorem cpKeys_agree : cpKeys.all (fun d => !d.remote || d.agrees) = true := by decide

/-- The pair sets this parameter, by its own type. -/
structure CpCfgPair.Targets (pair : CpCfgPair) (param : NumericParam) : Prop where
  id_eq : pair.id = .numeric param
  type_eq : fieldType pair.size pair.isSigned = param.kind
  plain : plainParam param = true
  fits : param.kind.lo ≤ pair.value ∧ pair.value ≤ param.kind.hi

theorem CpCfgPair.Allowed.targets (h : pair.Allowed) : exists param, pair.Targets param := by
  rcases h with ⟨d, hmem, hremote, hfits, hpair⟩
  have hagree := List.all_eq_true.mp cpKeys_agree d hmem
  rw [hremote, Bool.not_true, Bool.false_or] at hagree
  unfold CpKeyDef.agrees at hagree
  split at hagree
  · rename_i param hid
    rw [Bool.and_eq_true, beq_iff_eq] at hagree
    exists param
    rw [hpair]
    refine ⟨hid, hagree.1, hagree.2, ?_⟩
    unfold prvFits at hfits
    dsimp only at hfits
    rw [hagree.1, Bool.and_eq_true] at hfits
    exact ⟨of_decide_eq_true hfits.1, of_decide_eq_true hfits.2⟩
  · cases hagree

theorem prvReadParam_eq (h : pair.Targets param) (p : ConfigParams) :
    prvReadParam p pair = p.num param := by
  unfold prvReadParam
  rw [h.id_eq]
  dsimp only
  rw [h.type_eq]
  exact cCast_eq (p.numeric param).property

theorem num_fits (p : ConfigParams) (param : NumericParam) :
    param.kind.lo ≤ p.num param ∧ p.num param ≤ param.kind.hi :=
  (p.numeric param).property

theorem prvSetParam_eq (h : pair.Targets param)
    (hfits : param.kind.lo ≤ value ∧ value ≤ param.kind.hi) (s : Service) :
    prvSetParam pair value s = prvApply (.numeric param) ⟨value, hfits⟩ s := by
  have hvalue : fieldValue param (cCast (fieldType pair.size pair.isSigned) value) =
      ⟨value, hfits⟩ := by
    apply Subtype.ext
    change cCast param.kind (cCast (fieldType pair.size pair.isSigned) value) = value
    rw [h.type_eq, cCast_eq hfits, cCast_eq hfits]
  unfold prvSetParam
  rw [h.id_eq]
  dsimp only
  rw [hvalue]
  rfl

theorem validate_own (h : plainParam param = true) (p : ConfigParams) (value : param.Value)
    (v : Int) :
    prvValidateNumeric param v (prvWriteField p (.numeric param) value) =
      prvValidateNumeric param v p := by
  have hother := fun other => @num_write_other other param p value
  cases param with
  | channel ch field =>
      change prvValidateChannel ch field v _ = prvValidateChannel ch field v p
      cases field with
      | rangeMin => cases h
      | rangeMax => cases h
      | alarmHigh =>
          unfold prvValidateChannel
          dsimp only
          rw [hother _ (by simp), hother _ (by simp), hother _ (by simp), hother _ (by simp)]
      | alarmLow =>
          unfold prvValidateChannel
          dsimp only
          rw [hother _ (by simp), hother _ (by simp), hother _ (by simp), hother _ (by simp)]
      | hysteresis =>
          unfold prvValidateChannel
          dsimp only
          rw [hother _ (by simp), hother _ (by simp)]
  | ntpServerCount => cases h
  | _ => rfl

theorem write_back (p : ConfigParams) (param : NumericParam) (value : param.Value) :
    prvWriteField (prvWriteField p (.numeric param) value) (.numeric param) (p.numeric param) =
      p := by
  apply ConfigParams.ext
  · change Function.update (Function.update p.numeric param value) param (p.numeric param) =
      p.numeric
    rw [Function.update_idem, Function.update_eq_self]
  · rfl
  · rfl

/-!
## Forward and back
-/

/-- As an alarm threshold the value lies within the range limits of the channel. -/
def InRangeLimits (p : ConfigParams) (param : NumericParam) (v : Int) : Prop :=
  match param with
  | .channel ch .alarmHigh | .channel ch .alarmLow =>
      p.num (.channel ch .rangeMin) ≤ v ∧ v ≤ p.num (.channel ch .rangeMax)
  | _ => True

/-- If the identifier is that of an alarm threshold, it lies within the range limits. -/
def ThresholdInRange (p : ConfigParams) : ConfigParamId -> Prop
  | .numeric param => InRangeLimits p param (p.num param)
  | _ => True

/-- The parameters, newest first, were set and accepted one after the other. -/
inductive Accepted (s : Service) : List CpCfgPair -> Service -> Prop
  | none : Accepted s [] s
  | set {pairs : List CpCfgPair} {pair : CpCfgPair} {t t' : Service}
      (before : Accepted s pairs t) (accepted : prvSetParam pair pair.value t = (.ok, t')) :
      Accepted s (pair :: pairs) t'

/-- Each targets a parameter of its own. -/
structure Separate (pairs : List CpCfgPair) : Prop where
  targets : forall pair, pair ∈ pairs -> exists param, pair.Targets param
  distinct : pairs.Pairwise (fun a b => a.id ≠ b.id)

theorem Separate.tail (h : Separate (pair :: pairs)) : Separate pairs where
  targets := fun other hmem => h.targets other (List.mem_cons_of_mem _ hmem)
  distinct := (List.pairwise_cons.mp h.distinct).2

theorem CpCfgCmd.WellFormed.separate {cmd : CpCfgCmd} (h : cmd.WellFormed) :
    Separate cmd.pairs where
  targets := fun pair hmem => (h.allowed pair hmem).targets
  distinct := h.distinct

theorem prvSetParam_ok (h : pair.Targets param) {s' : Service}
    (hok : prvSetParam pair pair.value s = (.ok, s')) :
    prvValidateNumeric param pair.value s.params = true ∧
      s'.params = prvWriteField s.params (.numeric param) ⟨pair.value, h.fits⟩ := by
  rw [prvSetParam_eq h h.fits] at hok
  unfold prvApply at hok
  split at hok
  · rename_i hvalid
    cases hok
    exact ⟨hvalid, rfl⟩
  · cases hok

theorem Accepted.num (h : Accepted s pairs t) (hsep : Separate pairs) (param : NumericParam) :
    (exists pair, pair ∈ pairs ∧ pair.Targets param ∧ t.params.num param = pair.value) ∨
      ((forall pair, pair ∈ pairs -> pair.id ≠ .numeric param) ∧
        t.params.num param = s.params.num param) := by
  induction h with
  | none => exact Or.inr ⟨fun _ hmem => (by cases hmem), rfl⟩
  | @set pairs pair t t' before accepted ih =>
      rcases hsep.targets pair List.mem_cons_self with ⟨target, htarget⟩
      have hwrite := (prvSetParam_ok htarget accepted).2
      by_cases hsame : param = target
      · left
        exists pair
        rw [hsame, hwrite, num_write_same]
        exact ⟨List.mem_cons_self, htarget, rfl⟩
      · rw [hwrite, num_write_other _ _ hsame]
        rcases ih hsep.tail with ⟨other, hmem, hother, hnum⟩ | ⟨hnone, hnum⟩
        · exact Or.inl ⟨other, List.mem_cons_of_mem _ hmem, hother, hnum⟩
        · right
          refine ⟨?_, hnum⟩
          intro other hmem
          rcases List.mem_cons.mp hmem with hnew | hold
          · rw [hnew, htarget.id_eq]
            intro heq
            injection heq with heq
            exact hsame heq.symm
          · exact hnone other hold

theorem Accepted.get (h : Accepted s pairs t) (hsep : Separate pairs) {id : ConfigParamId}
    (hid : forall pair, pair ∈ pairs -> pair.id ≠ id) : t.params.get id = s.params.get id := by
  induction h with
  | none => rfl
  | @set pairs pair t t' before accepted ih =>
      rcases hsep.targets pair List.mem_cons_self with ⟨target, htarget⟩
      have hwrite := (prvSetParam_ok htarget accepted).2
      have hne := hid pair List.mem_cons_self
      rw [← ih hsep.tail (fun other hmem => hid other (List.mem_cons_of_mem _ hmem)), hwrite]
      cases id with
      | numeric param =>
          have hparam : param ≠ target := by
            intro heq
            apply hne
            rw [htarget.id_eq, heq]
          exact Function.update_of_ne hparam _ _
      | mqttBroker => rfl
      | ntpServers => rfl

theorem Accepted.sound (h : Accepted s pairs t) (hsep : Separate pairs)
    (hs : ConfigService.Sound s.params) : ConfigService.Sound t.params := by
  induction h with
  | none => exact hs
  | @set pairs pair t t' before accepted ih =>
      rcases hsep.targets pair List.mem_cons_self with ⟨target, htarget⟩
      have hset := prvSetParam_ok htarget accepted
      rw [hset.2]
      exact (ih hsep.tail).write_numeric hset.1

theorem Accepted.range (h : Accepted s pairs t) (hsep : Separate pairs)
    (hparam : plainParam param = false) : t.params.num param = s.params.num param := by
  rcases h.num hsep param with ⟨pair, -, htarget, -⟩ | ⟨-, hnum⟩
  · rw [htarget.plain] at hparam
    cases hparam
  · exact hnum

theorem InRangeLimits.congr {p' : ConfigParams} (h : InRangeLimits p param v)
    (hnum : forall other, plainParam other = false -> p'.num other = p.num other) :
    InRangeLimits p' param v := by
  unfold InRangeLimits at h ⊢
  split at h
  · rw [hnum _ rfl, hnum _ rfl]
    exact h
  · rw [hnum _ rfl, hnum _ rfl]
    exact h
  · exact h

theorem inRangeLimits_of_valid (h : prvValidateNumeric param v p = true) :
    InRangeLimits p param v := by
  unfold InRangeLimits
  split
  · exact (validate_alarmHigh.mp h).1
  · exact (validate_alarmLow.mp h).1
  · trivial

theorem valid_of_inRangeLimits (hs : ConfigService.Sound p) (hplain : plainParam param = true)
    (h : InRangeLimits p param (p.num param)) : p.holds (.numeric param) = true := by
  cases param with
  | channel ch field =>
      have hsound := hs.channel ch
      cases field with
      | rangeMin => cases hplain
      | rangeMax => cases hplain
      | alarmHigh => exact validate_alarmHigh.mpr ⟨h, hsound.band⟩
      | alarmLow => exact validate_alarmLow.mpr ⟨h, hsound.band⟩
      | hysteresis => exact validate_hysteresis.mpr ⟨hsound.hyst_pos, hsound.band⟩
  | ntpServerCount => cases hplain
  | _ => exact hs.scalar _ trivial

/-- The command's parameters with the values they had in `s`. -/
def changesOf (s : Service) (pairs : List CpCfgPair) : List Change :=
  pairs.map fun pair => (pair, prvReadParam s.params pair)

theorem Accepted.backOut (h : Accepted s pairs t) (hsep : Separate pairs)
    (hs : ConfigService.Sound s.params)
    (hin : forall pair, pair ∈ pairs -> ThresholdInRange s.params pair.id) :
    forall u : Service, u.params = t.params ->
      (backOut (changesOf s pairs) u).params = s.params := by
  induction h with
  | none => exact fun u hu => hu
  | @set pairs pair t t' before accepted ih =>
      intro u hu
      rcases hsep.targets pair List.mem_cons_self with ⟨param, htarget⟩
      have hset := prvSetParam_ok htarget accepted
      have hown : t.params.num param = s.params.num param := by
        rcases before.num hsep.tail param with ⟨other, hmem, hother, -⟩ | ⟨-, hnum⟩
        · have hne := (List.pairwise_cons.mp hsep.distinct).1 other hmem
          rw [htarget.id_eq, hother.id_eq] at hne
          exact absurd rfl hne
        · exact hnum
      have hlimits : InRangeLimits t.params param (t.params.num param) := by
        have hbefore := hin pair List.mem_cons_self
        rw [htarget.id_eq] at hbefore
        rw [hown]
        exact InRangeLimits.congr hbefore (fun other hother => before.range hsep.tail hother)
      have hvalid := valid_of_inRangeLimits (before.sound hsep.tail hs) htarget.plain hlimits
      have hback : (prvSetParam pair (prvReadParam s.params pair) u).2.params = t.params := by
        rw [prvReadParam_eq htarget, ← hown,
          prvSetParam_eq htarget (num_fits t.params param)]
        unfold prvApply
        rw [if_pos]
        · change prvWriteField u.params (.numeric param) (t.params.numeric param) = t.params
          rw [hu, hset.2]
          exact write_back _ _ _
        · change prvValidateNumeric param (t.params.num param) u.params = true
          rw [hu, hset.2, validate_own htarget.plain]
          exact hvalid
      exact ih hsep.tail (fun other hmem => hin other (List.mem_cons_of_mem _ hmem)) _ hback

theorem backOut_keeps (hout : ¬InRangeLimits s.params param (s.params.num param))
    (hpairs : forall pair, pair ∈ pairs -> exists target, pair.Targets target) :
    forall u : Service, u.params.num param = v ->
      (forall other, plainParam other = false -> u.params.num other = s.params.num other) ->
      (backOut (changesOf s pairs) u).params.num param = v := by
  induction pairs with
  | nil => exact fun u hu _ => hu
  | cons pair pairs ih =>
      intro u hu hlimits
      rcases hpairs pair List.mem_cons_self with ⟨target, htarget⟩
      apply ih (fun other hmem => hpairs other (List.mem_cons_of_mem _ hmem))
      · change (prvSetParam pair (prvReadParam s.params pair) u).2.params.num param = v
        rw [prvReadParam_eq htarget, prvSetParam_eq htarget (num_fits s.params target)]
        unfold prvApply
        split
        · rename_i hvalid
          by_cases hsame : param = target
          · subst hsame
            have hin := inRangeLimits_of_valid hvalid
            exact absurd (InRangeLimits.congr hin (fun other hother => (hlimits other hother).symm))
              hout
          · change (prvWriteField u.params (.numeric target) _).num param = v
            rw [num_write_other _ _ hsame]
            exact hu
        · exact hu
      · intro other hother
        change (prvSetParam pair (prvReadParam s.params pair) u).2.params.num other = _
        rw [prvReadParam_eq htarget, prvSetParam_eq htarget (num_fits s.params target)]
        unfold prvApply
        split
        · have hne : other ≠ target := by
            intro heq
            rw [heq, htarget.plain] at hother
            cases hother
          change (prvWriteField u.params (.numeric target) _).num other = _
          rw [num_write_other _ _ hne]
          exact hlimits other hother
        · exact hlimits other hother

/-!
## The whole message
-/

theorem prvSetParam_refused (h : (prvSetParam pair value s).1 ≠ .ok) :
    (prvSetParam pair value s).2 = s := by
  unfold prvSetParam at h ⊢
  cases hid : pair.id with
  | numeric param =>
      rw [hid] at h
      dsimp only at h ⊢
      unfold configServiceSetParamDeferred prvApply at h ⊢
      split at h
      · exact absurd rfl h
      · rename_i hinvalid
        rw [if_neg hinvalid]
  | mqttBroker => rfl
  | ntpServers => rfl

theorem applyPairs_cases {done : List CpCfgPair} (h : Accepted s done t) (rest : List CpCfgPair) :
    (exists t', applyPairs (changesOf s done) (changesOf s rest) t = (none, t') ∧
        Accepted s (rest.reverse ++ done) t') ∨
      exists before refused after t', rest = before ++ refused :: after ∧
        Accepted s (before.reverse ++ done) t' ∧
        (prvSetParam refused refused.value t').1 ≠ .ok ∧
        applyPairs (changesOf s done) (changesOf s rest) t =
          (some refused, backOut (changesOf s (before.reverse ++ done)) t') := by
  induction rest generalizing done t with
  | nil => exact Or.inl ⟨t, rfl, h⟩
  | cons pair rest ih =>
      by_cases hok : (prvSetParam pair pair.value t).1 = .ok
      · have hset : prvSetParam pair pair.value t =
            (.ok, (prvSetParam pair pair.value t).2) := Prod.ext hok rfl
        have hstep : applyPairs (changesOf s done) (changesOf s (pair :: rest)) t =
            applyPairs (changesOf s (pair :: done)) (changesOf s rest)
              (prvSetParam pair pair.value t).2 := by
          change (match prvSetParam pair pair.value t with
            | (.ok, s') => applyPairs (changesOf s (pair :: done)) (changesOf s rest) s'
            | (_, s') => (some pair, backOut (changesOf s done) s')) = _
          rw [hset]
        rw [hstep]
        rcases ih (h.set hset) with ⟨t', hall, haccepted⟩ | hstop
        · refine Or.inl ⟨t', hall, ?_⟩
          rw [List.reverse_cons, List.append_assoc]
          exact haccepted
        · right
          rcases hstop with ⟨before, refused, after, t', hrest, haccepted, hrefused, hback⟩
          refine ⟨pair :: before, refused, after, t', ?_, ?_, hrefused, ?_⟩
          · rw [hrest]
            rfl
          · rw [List.reverse_cons, List.append_assoc]
            exact haccepted
          · rw [List.reverse_cons, List.append_assoc]
            exact hback
      · right
        refine ⟨[], pair, rest, t, rfl, h, hok, ?_⟩
        change (match prvSetParam pair pair.value t with
          | (.ok, s') => applyPairs (changesOf s (pair :: done)) (changesOf s rest) s'
          | (_, s') => (some pair, backOut (changesOf s done) s')) = _
        have hsame := prvSetParam_refused hok
        cases hset : prvSetParam pair pair.value t with
        | mk err t' =>
            rw [hset] at hok hsame
            cases err with
            | ok => exact absurd rfl hok
            | invalid => exact congrArg (fun u => (some pair, backOut (changesOf s done) u)) hsame
            | persist => exact congrArg (fun u => (some pair, backOut (changesOf s done) u)) hsame

/-- Every parameter of the message is set, no other one is, and the answer says so; or the
message is answered as rejected and the live parameters are those before it. -/
def AllOrNothing (s : Service) (pairs : List CpCfgPair) (result : ConfigResult × Service) : Prop :=
  (result.1.status = .ok ∧
    (forall pair, pair ∈ pairs -> prvReadParam result.2.params pair = pair.value) ∧
    forall id, (forall pair, pair ∈ pairs -> pair.id ≠ id) ->
      result.2.params.get id = s.params.get id) ∨
  (result.1.status ≠ .ok ∧ result.2.params = s.params)

/-- Where a parameter is refused, no alarm threshold that was set before it had lain outside the
range limits. -/
def Undoable (s : Service) (pairs : List CpCfgPair) : Prop :=
  forall done refused after t, pairs = done.reverse ++ refused :: after -> Accepted s done t ->
    (prvSetParam refused refused.value t).1 ≠ .ok ->
    forall pair, pair ∈ done -> ThresholdInRange s.params pair.id

theorem Separate.reverse (h : Separate pairs) : Separate pairs.reverse where
  targets := fun pair hmem => h.targets pair (List.mem_reverse.mp hmem)
  distinct := by
    rw [List.pairwise_reverse]
    exact h.distinct.imp (fun hne heq => hne heq.symm)

theorem Separate.done {done rest : List CpCfgPair} (h : Separate (done.reverse ++ rest)) :
    Separate done where
  targets := fun pair hmem =>
    h.targets pair (List.mem_append_left _ (List.mem_reverse.mpr hmem))
  distinct := by
    have hdistinct := (List.pairwise_append.mp h.distinct).1
    rw [List.pairwise_reverse] at hdistinct
    exact hdistinct.imp (fun hne heq => hne heq.symm)

theorem prvApplyConfig_eq (payload : List UInt8) (s : Service)
    (hok : (cpParseConfigCommand payload).1 = .ok) :
    prvApplyConfig true payload s =
      match applyPairs [] (changesOf s (cpParseConfigCommand payload).2.pairs) s with
      | (none, s') => (⟨.ok, [], (cpParseConfigCommand payload).2.req⟩, s')
      | (some pair, s') =>
          (⟨.invalidValue, ascii pair.key, (cpParseConfigCommand payload).2.req⟩, s') := by
  unfold prvApplyConfig
  dsimp only
  rw [if_neg (by decide), if_neg (by rw [hok]; exact fun h => h rfl)]
  rfl

theorem prvApplyConfig_refused {operational : Bool} {payload : List UInt8} (s : Service)
    (h : operational = false ∨ (cpParseConfigCommand payload).1 ≠ .ok) :
    (prvApplyConfig operational payload s).1.status ≠ .ok ∧
      (prvApplyConfig operational payload s).2 = s := by
  unfold prvApplyConfig
  dsimp only
  cases operational with
  | false => exact ⟨fun h => (by cases h), rfl⟩
  | true =>
      rcases h with hnot | hstatus
      · cases hnot
      · rw [if_neg (by decide), if_pos hstatus]
        exact ⟨hstatus, rfl⟩

theorem Accepted.unique (h : Accepted s pairs t) (h' : Accepted s pairs t') : t = t' := by
  induction h generalizing t' with
  | none =>
      cases h'
      rfl
  | set before accepted ih =>
      cases h' with
      | set before' accepted' =>
          rw [ih before'] at accepted
          rw [accepted] at accepted'
          exact congrArg Prod.snd accepted'

theorem Accepted.split {done : List CpCfgPair} (h : Accepted s (later ++ pair :: done) t) :
    exists u, Accepted s done u ∧ (prvSetParam pair pair.value u).1 = .ok := by
  induction later generalizing t with
  | nil =>
      cases h with
      | set before accepted => exact ⟨_, before, congrArg Prod.fst accepted⟩
  | cons _ _ ih =>
      cases h with
      | set before _ => exact ih before

theorem Accepted.not_refused {u : Service} {done : List CpCfgPair}
    (h : Accepted s (later ++ pair :: done) t) (hu : Accepted s done u) :
    (prvSetParam pair pair.value u).1 = .ok := by
  rcases h.split with ⟨u', hu', hok⟩
  rw [hu.unique hu']
  exact hok

theorem stop_unique {done after' : List CpCfgPair} {refused' : CpCfgPair}
    (hsplit : before ++ refused :: after = done.reverse ++ refused' :: after')
    (h : Accepted s before.reverse t) (hrefused : (prvSetParam refused refused.value t).1 ≠ .ok)
    (h' : Accepted s done t') (hrefused' : (prvSetParam refused' refused'.value t').1 ≠ .ok) :
    done = before.reverse := by
  rcases List.append_eq_append_iff.mp hsplit with ⟨more, hdone, hrest⟩ | ⟨more, hbefore, hrest⟩
  · cases more with
    | nil =>
        rw [List.append_nil] at hdone
        rw [← hdone, List.reverse_reverse]
    | cons first more =>
        have hfirst : refused = first := (List.cons.inj hrest).1
        have hlonger : done = more.reverse ++ refused :: before.reverse := by
          rw [← List.reverse_reverse done, hdone, hfirst]
          simp
        rw [hlonger] at h'
        exact absurd (h'.not_refused h) hrefused
  · cases more with
    | nil =>
        rw [List.append_nil] at hbefore
        rw [hbefore, List.reverse_reverse]
    | cons first more =>
        have hfirst : refused' = first := (List.cons.inj hrest).1
        have hlonger : before.reverse = more.reverse ++ refused' :: done := by
          rw [hbefore, hfirst]
          simp
        rw [hlonger] at h
        exact absurd (h.not_refused h') hrefused'

theorem Accepted.inRangeLimits (h : Accepted s pairs t) (hsep : Separate pairs)
    (hmem : pair ∈ pairs) (htarget : pair.Targets param) :
    InRangeLimits s.params param pair.value := by
  induction h with
  | none => cases hmem
  | @set pairs newest t t' before accepted ih =>
      rcases List.mem_cons.mp hmem with hnew | hold
      · rw [hnew] at htarget
        have hin := inRangeLimits_of_valid (prvSetParam_ok htarget accepted).1
        rw [hnew]
        exact hin.congr (fun other hother => (before.range hsep.tail hother).symm)
      · exact ih hsep.tail hold

theorem Separate.eq_of_id (h : Separate pairs) {a b : CpCfgPair} (ha : a ∈ pairs) (hb : b ∈ pairs)
    (hid : a.id = b.id) : a = b := by
  have hnodup : (pairs.map CpCfgPair.id).Nodup := List.pairwise_map.mpr h.distinct
  exact List.inj_on_of_nodup_map hnodup ha hb hid

theorem Accepted.applied (h : Accepted s pairs.reverse t) (hsep : Separate pairs) :
    (forall pair, pair ∈ pairs -> prvReadParam t.params pair = pair.value) ∧
      forall id, (forall pair, pair ∈ pairs -> pair.id ≠ id) ->
        t.params.get id = s.params.get id := by
  constructor
  · intro pair hmem
    rcases hsep.targets pair hmem with ⟨param, htarget⟩
    rw [prvReadParam_eq htarget]
    rcases h.num hsep.reverse param with ⟨other, hother, htarget', hnum⟩ | ⟨hnone, -⟩
    · have hsame := hsep.eq_of_id hmem (List.mem_reverse.mp hother)
        (htarget.id_eq.trans htarget'.id_eq.symm)
      rw [hnum, hsame]
    · exact absurd htarget.id_eq (hnone pair (List.mem_reverse.mpr hmem))
  · intro id hid
    exact h.get hsep.reverse (fun pair hmem => hid pair (List.mem_reverse.mp hmem))

theorem backOut_iff (hs : ConfigService.Sound s.params) (hsep : Separate pairs)
    (hpairs : pairs = before ++ refused :: after) (h : Accepted s before.reverse t)
    (hrefused : (prvSetParam refused refused.value t).1 ≠ .ok) :
    (backOut (changesOf s before.reverse) t).params = s.params ↔ Undoable s pairs := by
  have hbefore : Separate before.reverse := by
    rw [hpairs, ← List.reverse_reverse before] at hsep
    exact hsep.done
  constructor
  · intro hback done refused' after' t' hpairs' h' hrefused' pair hmem
    rw [hpairs] at hpairs'
    rw [stop_unique hpairs' h hrefused h' hrefused'] at hmem
    rcases hbefore.targets pair hmem with ⟨param, htarget⟩
    rw [htarget.id_eq]
    change InRangeLimits s.params param (s.params.num param)
    apply Classical.byContradiction
    intro hout
    have hvalue : t.params.num param = pair.value := by
      rcases h.num hbefore param with ⟨other, hother, htarget', hnum⟩ | ⟨hnone, -⟩
      · have hsame := hbefore.eq_of_id hmem hother (htarget.id_eq.trans htarget'.id_eq.symm)
        rw [hnum, hsame]
      · exact absurd htarget.id_eq (hnone pair hmem)
    have hkept := backOut_keeps hout hbefore.targets t hvalue
      (fun other hother => h.range hbefore hother)
    rw [hback] at hkept
    rw [hkept] at hout
    exact hout (h.inRangeLimits hbefore hmem htarget)
  · intro hundo
    apply h.backOut hbefore hs
    · apply hundo before.reverse refused after t
      · rw [List.reverse_reverse]
        exact hpairs
      · exact h
      · exact hrefused
    · rfl

/-- A message is all or nothing exactly if what it changed before a refused parameter can be put
back. -/
theorem config_all_or_nothing_iff {s : Service} (h : ConfigReached s) (operational : Bool)
    (payload : List UInt8) :
    AllOrNothing s (cpParseConfigCommand payload).2.pairs (prvApplyConfig operational payload s) ↔
      (operational = true -> (cpParseConfigCommand payload).1 = .ok ->
        Undoable s (cpParseConfigCommand payload).2.pairs) := by
  have hsep := (cpParseConfigCommand_wellFormed payload).separate
  by_cases hstart : operational = false ∨ (cpParseConfigCommand payload).1 ≠ .ok
  · have hrefused := prvApplyConfig_refused s hstart
    constructor
    · intro _ hoperational hok
      rcases hstart with hnot | hstatus
      · rw [hoperational] at hnot
        cases hnot
      · exact absurd hok hstatus
    · exact fun _ => Or.inr ⟨hrefused.1, congrArg Service.params hrefused.2⟩
  · have hoperational : operational = true := by
      cases operational with
      | true => rfl
      | false => exact absurd (Or.inl rfl) hstart
    have hok : (cpParseConfigCommand payload).1 = .ok :=
      Classical.byContradiction (fun hstatus => hstart (Or.inr hstatus))
    rw [hoperational, prvApplyConfig_eq payload s hok]
    rcases applyPairs_cases Accepted.none (cpParseConfigCommand payload).2.pairs with
      ⟨t, hall, haccepted⟩ | ⟨before, refused, after, t, hpairs, haccepted, hrefused, hback⟩
    · rw [List.append_nil] at haccepted
      change applyPairs [] _ s = _ at hall
      rw [hall]
      constructor
      · intro _ _ _ done refused after t' hpairs hdone hrefused
        have hlonger : (cpParseConfigCommand payload).2.pairs.reverse =
            after.reverse ++ refused :: done := by
          rw [hpairs]
          simp
        rw [hlonger] at haccepted
        exact absurd (haccepted.not_refused hdone) hrefused
      · exact fun _ => Or.inl ⟨rfl, haccepted.applied hsep⟩
    · rw [List.append_nil] at haccepted
      change applyPairs [] _ s = _ at hback
      rw [List.append_nil] at hback
      rw [hback]
      have hiff := backOut_iff h.sound.params hsep hpairs haccepted hrefused
      constructor
      · intro hall _ _
        rcases hall with ⟨happlied, -⟩ | ⟨-, hsame⟩
        · cases happlied
        · exact hiff.mp hsame
      · intro hundo
        exact Or.inr ⟨fun heq => (by cases heq), hiff.mpr (hundo rfl hok)⟩

/-- A threshold that is accepted and a hysteresis that is not. -/
def refusedMessage : List UInt8 :=
  ascii "\x7b\"temp_alarm_low\":1500,\"temp_hysteresis\":30000\x7d"

theorem config_all_or_nothing_defaults :
    AllOrNothing configServiceInit (cpParseConfigCommand refusedMessage).2.pairs
        (prvApplyConfig true refusedMessage configServiceInit) ↔
      (true = true -> (cpParseConfigCommand refusedMessage).1 = .ok ->
        Undoable configServiceInit (cpParseConfigCommand refusedMessage).2.pairs) :=
  config_all_or_nothing_iff ConfigReached.init true refusedMessage

/-- With the raised range limit the old threshold is refused when it is put back. -/
theorem rejected_message_changes_threshold :
    ConfigReached raisedRange ∧
      ¬AllOrNothing raisedRange (cpParseConfigCommand refusedMessage).2.pairs
        (prvApplyConfig true refusedMessage raisedRange) := by
  refine ⟨ConfigReached.init.call _, ?_⟩
  have hstatus : (prvApplyConfig true refusedMessage raisedRange).1.status = .invalidValue := by
    decide +kernel
  have hnew : (prvApplyConfig true refusedMessage raisedRange).2.params.num
      (.channel .temp .alarmLow) = 1500 := by
    decide +kernel
  have hold : raisedRange.params.num (.channel .temp .alarmLow) = 0 := by decide +kernel
  intro h
  rcases h with ⟨hok, -⟩ | ⟨-, hsame⟩
  · rw [hstatus] at hok
    cases hok
  · rw [hsame, hold] at hnew
    cases hnew

end EnvMonitor.Gateway.CloudPublisher
