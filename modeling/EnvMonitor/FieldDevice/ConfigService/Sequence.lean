import EnvMonitor.FieldDevice.ConfigService.Registers

/-!
# Calls made one after another

A block write hands its values to `config_service_set_param` one by one and stops at the first
call that does not return OK.
-/

namespace EnvMonitor.FieldDevice.ConfigService

section Sequence

variable {rho : Type} (callback : ConfigParamId -> ConfigParams -> rho -> rho)

def runCalls : List Call -> Configured rho -> Bool × Configured rho
  | [], c => (true, c)
  | call :: calls, c =>
      match setParam callback call c with
      | (true, c) => runCalls calls c
      | (false, c) => (false, c)

variable {calls : List Call} {call : Call} {saves : List SaveOutcome} {p : ConfigParams}
variable {id : ConfigParamId}

theorem runCalls_cons_ok {c : Configured rho} (h : (setParam callback call c).1 = true) :
    runCalls callback (call :: calls) c = runCalls callback calls (setParam callback call c).2 := by
  rw [runCalls]
  split
  · rename_i c' heq
    rw [heq]
  · rename_i c' heq
    rw [heq] at h
    cases h

theorem runCalls_cons_stop {c : Configured rho} (h : (setParam callback call c).1 = false) :
    runCalls callback (call :: calls) c = (false, (setParam callback call c).2) := by
  rw [runCalls]
  split
  · rename_i c' heq
    rw [heq] at h
    cases h
  · rename_i c' heq
    rw [heq]

/-!
## Success
-/

/-- Each value is accepted beside what the ones before it made of the configuration. -/
def AcceptedInTurn : ConfigParams -> List Call -> Prop
  | _, [] => True
  | p, call :: calls =>
      validateParamInternal call.1 call.2 p = true ∧
        AcceptedInTurn (applyParamToStruct p call.1 call.2) calls

/-- Every save of a sequence of `count` calls succeeds. -/
def AllSaved (saves : List SaveOutcome) (count : Nat) : Prop :=
  forall i, i < count -> saves.getD i .saved = .saved

theorem allSaved_succ {count : Nat} :
    AllSaved saves (count + 1) ↔ saves.headD .saved = .saved ∧ AllSaved saves.tail count := by
  have hhead : saves.getD 0 .saved = saves.headD .saved := by
    cases saves <;> rfl
  have htail : forall i, saves.getD (i + 1) .saved = saves.tail.getD i .saved := by
    intro i
    cases saves <;> rfl
  constructor
  · intro h
    refine ⟨hhead ▸ h 0 (Nat.succ_pos count), fun i hi => ?_⟩
    rw [← htail]
    exact h (i + 1) (Nat.succ_lt_succ hi)
  · intro h i hi
    cases i with
    | zero => exact hhead.trans h.1
    | succ i => exact (htail i).trans (h.2 i (Nat.lt_of_succ_lt_succ hi))

/-- The whole sequence goes through. -/
def Completes (p : ConfigParams) (saves : List SaveOutcome) (calls : List Call) : Prop :=
  AcceptedInTurn p calls ∧ AllSaved saves calls.length

theorem completes_cons :
    Completes p saves (call :: calls) ↔
      validateParamInternal call.1 call.2 p = true ∧ saves.headD .saved = .saved ∧
        Completes (applyParamToStruct p call.1 call.2) saves.tail calls := by
  unfold Completes
  rw [List.length_cons, allSaved_succ, AcceptedInTurn]
  constructor
  · intro h
    exact ⟨h.1.1, h.2.1, h.1.2, h.2.2⟩
  · intro h
    exact ⟨⟨h.1, h.2.2.1⟩, h.2.1, h.2.2.2⟩

theorem setParam_cases (call : Call) (c : Configured rho) :
    (¬validateParamInternal call.1 call.2 c.config.params = true ∧
      setParam callback call c = (false, c)) ∨
    (validateParamInternal call.1 call.2 c.config.params = true ∧
      exists left, c.saves.headD .saved = .failed left ∧ (setParam callback call c).1 = false ∧
        (setParam callback call c).2.config.params =
          applyParamToStruct c.config.params call.1 call.2 ∧
        (setParam callback call c).2.config.stored = left) ∨
    (validateParamInternal call.1 call.2 c.config.params = true ∧
      c.saves.headD .saved = .saved ∧ (setParam callback call c).1 = true ∧
        (setParam callback call c).2.config.params =
          applyParamToStruct c.config.params call.1 call.2 ∧
        (setParam callback call c).2.config.stored =
          some (.full configSchemaVersion (applyParamToStruct c.config.params call.1 call.2)) ∧
        (setParam callback call c).2.saves = c.saves.tail) := by
  by_cases hvalid : validateParamInternal call.1 call.2 c.config.params = true
  · cases hsave : c.saves.headD .saved with
    | failed left =>
        exact Or.inr (Or.inl ⟨hvalid, left, rfl, setParam_failed callback hvalid hsave⟩)
    | saved => exact Or.inr (Or.inr ⟨hvalid, rfl, setParam_saved callback hvalid hsave⟩)
  · exact Or.inl ⟨hvalid, setParam_rejected callback hvalid⟩

theorem runCalls_ok_iff (calls : List Call) (c : Configured rho) :
    (runCalls callback calls c).1 = true ↔ Completes c.config.params c.saves calls := by
  induction calls generalizing c with
  | nil => exact ⟨fun _ => ⟨trivial, fun i hi => absurd hi (Nat.not_lt_zero i)⟩, fun _ => rfl⟩
  | cons call calls ih =>
      rw [completes_cons]
      rcases setParam_cases callback call c with hrej | hfail | hsaved
      · rw [runCalls_cons_stop callback (by rw [hrej.2])]
        exact ⟨fun h => (nomatch h), fun h => absurd h.1 hrej.1⟩
      · rcases hfail with ⟨hvalid, left, hsave, hstop, _⟩
        rw [runCalls_cons_stop callback hstop, hsave]
        exact ⟨fun h => (nomatch h), fun h => (nomatch h.2.1)⟩
      · rcases hsaved with ⟨hvalid, hsave, hok, hparams, _, hsaves⟩
        rw [runCalls_cons_ok callback hok, ih, hparams, hsaves]
        exact ⟨fun h => ⟨hvalid, hsave, h⟩, fun h => h.2.2⟩

theorem applyParamToStruct_other {other : ConfigParamId} (value : id.Value) (hne : other ≠ id) :
    (applyParamToStruct p id value).get other = p.get other :=
  Function.update_of_ne hne value p.get

theorem applyParamToStruct_self (p : ConfigParams) (id : ConfigParamId) (value : id.Value) :
    (applyParamToStruct p id value).get id = value :=
  Function.update_self id value p.get

theorem applyParamToStruct_eq_self {value : id.Value} :
    applyParamToStruct p id value = p ↔ p.get id = value := by
  constructor
  · intro h
    rw [← h]
    exact applyParamToStruct_self p id value
  · intro h
    apply ConfigParams.ext
    rw [← h]
    exact Function.update_eq_self id p.get

theorem runCalls_other (c : Configured rho) (hnot : forall call, call ∈ calls -> call.1 ≠ id) :
    (runCalls callback calls c).2.config.params.get id = c.config.params.get id := by
  induction calls generalizing c with
  | nil => rfl
  | cons call calls ih =>
      have hne : id ≠ call.1 := (hnot call List.mem_cons_self).symm
      have hrest := fun c => ih c fun other hother => hnot other (List.mem_cons_of_mem call hother)
      rcases setParam_cases callback call c with hrej | hfail | hsaved
      · rw [runCalls_cons_stop callback (by rw [hrej.2]), hrej.2]
      · rcases hfail with ⟨_, left, _, hstop, hparams, _⟩
        rw [runCalls_cons_stop callback hstop, hparams]
        exact applyParamToStruct_other call.2 hne
      · rcases hsaved with ⟨_, _, hok, hparams, _⟩
        rw [runCalls_cons_ok callback hok, hrest, hparams]
        exact applyParamToStruct_other call.2 hne

/-- No two calls name one parameter. -/
def Separate (calls : List Call) : Prop := (calls.map (·.1)).Nodup

theorem separate_cons (h : Separate (call :: calls)) :
    (forall other, other ∈ calls -> other.1 ≠ call.1) ∧ Separate calls := by
  unfold Separate at h
  rw [List.map_cons, List.nodup_cons] at h
  refine ⟨fun other hother heq => h.1 ?_, h.2⟩
  rw [← heq]
  exact List.mem_map_of_mem hother

/-- After a sequence that went through, every value is live and the live configuration stored. -/
theorem runCalls_completed {c : Configured rho} (hsep : Separate calls)
    (hok : (runCalls callback calls c).1 = true) (hne : calls ≠ []) :
    (forall call, call ∈ calls ->
      (runCalls callback calls c).2.config.params.get call.1 = call.2) ∧
    (runCalls callback calls c).2.config.stored =
      some (.full configSchemaVersion (runCalls callback calls c).2.config.params) := by
  induction calls generalizing c with
  | nil => exact absurd rfl hne
  | cons call calls ih =>
      have hcons := separate_cons hsep
      rcases setParam_cases callback call c with hrej | hfail | hsaved
      · rw [runCalls_cons_stop callback (by rw [hrej.2])] at hok
        cases hok
      · rcases hfail with ⟨_, left, _, hstop, _⟩
        rw [runCalls_cons_stop callback hstop] at hok
        cases hok
      · rcases hsaved with ⟨_, _, hset, hparams, hstored, _⟩
        rw [runCalls_cons_ok callback hset] at hok ⊢
        have hfirst : (runCalls callback calls (setParam callback call c).2).2.config.params.get
            call.1 = call.2 := by
          rw [runCalls_other callback _ hcons.1, hparams]
          exact applyParamToStruct_self c.config.params call.1 call.2
        by_cases hempty : calls = []
        · subst hempty
          refine ⟨fun other hother => ?_, ?_⟩
          · rw [List.mem_singleton.mp hother]
            exact hfirst
          · change (setParam callback call c).2.config.stored = _
            rw [hstored]
            change some (ConfigBlob.full configSchemaVersion _) =
              some (.full configSchemaVersion (setParam callback call c).2.config.params)
            rw [hparams]
        · have hrest := ih hcons.2 hok hempty
          refine ⟨fun other hother => ?_, hrest.2⟩
          rcases List.mem_cons.mp hother with heq | hother
          · rw [heq]
            exact hfirst
          · exact hrest.1 other hother

/-!
## Failure
-/

/-- A call fails, every value applied until then was the live one already, and what the store
holds at that point is `original`. -/
def RefusedUnchanged (original : Option ConfigBlob) (p : ConfigParams) :
    Option ConfigBlob -> List SaveOutcome -> List Call -> Prop
  | _, _, [] => False
  | stored, saves, call :: calls =>
      if validateParamInternal call.1 call.2 p = true then
        p.get call.1 = call.2 ∧
          match saves.headD .saved with
          | .failed left => left = original
          | .saved =>
              RefusedUnchanged original p (some (.full configSchemaVersion p)) saves.tail calls
      else stored = original

theorem runCalls_unchanged_iff (hsep : Separate calls) (original : Option ConfigBlob)
    (c : Configured rho) :
    ((runCalls callback calls c).1 = false ∧
      (runCalls callback calls c).2.config.params = c.config.params ∧
      (runCalls callback calls c).2.config.stored = original) ↔
    RefusedUnchanged original c.config.params c.config.stored c.saves calls := by
  induction calls generalizing c with
  | nil => exact ⟨fun h => (nomatch h.1), fun h => h.elim⟩
  | cons call calls ih =>
      have hcons := separate_cons hsep
      rw [RefusedUnchanged]
      rcases setParam_cases callback call c with hrej | hfail | hsaved
      · rw [runCalls_cons_stop callback (by rw [hrej.2]), hrej.2, if_neg hrej.1]
        exact ⟨fun h => h.2.2, fun h => ⟨rfl, rfl, h⟩⟩
      · rcases hfail with ⟨hvalid, left, hsave, hstop, hparams, hstored⟩
        rw [runCalls_cons_stop callback hstop, if_pos hvalid, hsave]
        dsimp only
        rw [hparams, hstored, applyParamToStruct_eq_self]
        exact ⟨fun h => h.2, fun h => ⟨rfl, h⟩⟩
      · rcases hsaved with ⟨hvalid, hsave, hset, hparams, hstored, hsaves⟩
        rw [runCalls_cons_ok callback hset, if_pos hvalid, hsave]
        dsimp only
        by_cases hlive : c.config.params.get call.1 = call.2
        · have hsame : applyParamToStruct c.config.params call.1 call.2 = c.config.params :=
            applyParamToStruct_eq_self.mpr hlive
          have hrest := ih hcons.2 (setParam callback call c).2
          rw [hparams, hstored, hsaves, hsame] at hrest
          rw [hrest]
          exact ⟨fun h => ⟨hlive, h⟩, fun h => h.2⟩
        · refine ⟨fun h => absurd ?_ hlive, fun h => absurd h.1 hlive⟩
          rw [← h.2.1, runCalls_other callback _ hcons.1, hparams]
          exact applyParamToStruct_self c.config.params call.1 call.2

end Sequence

end EnvMonitor.FieldDevice.ConfigService
