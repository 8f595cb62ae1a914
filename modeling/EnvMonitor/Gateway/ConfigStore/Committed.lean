import EnvMonitor.Gateway.ConfigStore.Store

/-!
# The committed configuration of the gateway

Runs of saves, loads and restarts in which every call to the flash may fail or be cut off.
-/

namespace EnvMonitor.Gateway.ConfigStore

open Device Drivers EnvMonitor.ConfigStore
open Config (Side Copy Copies Ledger)

/-- The flash, whether the gateway runs, and what was saved so far.  The slot that the module
caches in RAM is never read. -/
structure Store where
  flash : Memory
  running : Bool
  ledger : Ledger (List UInt8)

/-- What happens to the store, with the faults during it and the answer of the call; the answer
is `none` when power was lost. -/
inductive Call where
  | reboot
  | load (maxLen : Nat) (faults : OperationFaults)
      (answer : Option (Except ConfigStoreErr (List UInt8)))
  | save (data : List UInt8) (faults : OperationFaults) (answer : Option ConfigStoreErr)

/-- One call.  A save that was cut off or failed may leave its slot torn, and then the CRC of
that slot is wrong. -/
inductive Step : Store -> Call -> Store -> Prop where
  | reboot (σ : Store) : Step σ .reboot { σ with running := true }
  | load {σ : Store} {maxLen : Nat} {E : OperationFaults}
      {r : Option (Except ConfigStoreErr (List UInt8))} {m' : Memory} : σ.running = true ->
      ProbedExec csEvalSlot (csLoadActive maxLen) E σ.flash r m' ->
      Step σ (.load maxLen E r) { σ with flash := m', running := r.isSome }
  | saveRefused {σ : Store} (data : List UInt8) (E : OperationFaults) : σ.running = true ->
      configStoreMaxDataBytes < data.length -> Step σ (.save data E (some .tooLarge)) σ
  | saveCut {σ : Store} {data : List UInt8} {E : OperationFaults} {m' : Memory} :
      σ.running = true -> data.length <= configStoreMaxDataBytes ->
      Probed csEvalSlot E σ.flash none m' ->
      Step σ (.save data E none)
        { flash := m', running := false, ledger := σ.ledger.attempted data False }
  | save {σ : Store} {data : List UInt8} {E : OperationFaults} {r : Option ConfigStoreErr}
      {a b : CsSlotInfo} {m₁ m' : Memory} :
      σ.running = true -> data.length <= configStoreMaxDataBytes ->
      Probed csEvalSlot E σ.flash (some (a, b)) m₁ ->
      Program.Exec qspiFlash E.rest (csSaveTarget data a b) m₁ r m' ->
      TornRejected csFormat m₁ m' (csTarget a b).1 (csTarget a b).2 data ->
      Step σ (.save data E r)
        { flash := m', running := r.isSome, ledger := σ.ledger.attempted data (r = some .ok) }

theorem configStoreLoad_exec (maxLen : Nat) (m : Memory)
    (r : Option (Except ConfigStoreErr (List UInt8))) (m' : Memory) :
    ProbedExec csEvalSlot (csLoadActive maxLen) OperationFaults.always m r m' ↔
      Program.Exec qspiFlash (Faults.always qspi) (configStoreLoad maxLen) m r m' :=
  probedExec_always csEvalSlot (csLoadActive maxLen) m r m'

theorem configStoreSave_exec {data : List UInt8} (hlen : data.length <= configStoreMaxDataBytes)
    (m : Memory) (r : Option ConfigStoreErr) (m' : Memory) :
    ProbedExec csEvalSlot (csSaveTarget data) OperationFaults.always m r m' ↔
      Program.Exec qspiFlash (Faults.always qspi) (configStoreSave data) m r m' := by
  unfold configStoreSave
  rw [if_neg (Nat.not_lt_of_le hlen)]
  exact probedExec_always csEvalSlot (csSaveTarget data) m r m'

/-- The stores runs reach from a flash without a valid slot, when every call meets `P`; fewer
than 2^32 saves. -/
inductive Reached (P : Store -> Call -> Prop) : Store -> Prop where
  | start {flash : Memory} : (forall s, copies csFormat flash s = none) ->
      Reached P { flash := flash, running := true,
                  ledger := { attempts := [], committed := none } }
  | step {σ σ' : Store} {call : Call} : Reached P σ -> P σ call -> Step σ call σ' ->
      σ'.ledger.attempts.length < 2 ^ 32 -> Reached P σ'

/-- A load without faults gives back the committed blob or the blob of a later save. -/
def Recoverable (σ : Store) : Prop :=
  forall k, σ.ledger.committed = some k ->
    exists j blob, k <= j ∧ σ.ledger.attempts[j]? = some blob ∧
      forall maxLen, blob.length <= maxLen ->
        (configStoreLoad maxLen).eval qspiFlash σ.flash = (.ok blob, σ.flash)

/-- A load that returns OK gives the committed blob or the blob of a later save. -/
def NotOlder (σ : Store) : Call -> Prop
  | .load _ _ (some (.ok blob)) => forall k, σ.ledger.committed = some k ->
      exists j, k <= j ∧ σ.ledger.attempts[j]? = some blob
  | _ => True

/-- No read fails while the newest valid slot is examined, except by a load when the other slot
is not valid. -/
def NewestReadable (σ : Store) : Call -> Prop
  | .load _ E _ => UndisturbedPair E (copies csFormat σ.flash)
  | .save _ E _ => Undisturbed E (copies csFormat σ.flash)
  | _ => True

section Invariant

variable {σ σ' : Store}

variable {m' : Memory} {E : OperationFaults} {call : Call}

theorem load_newest {maxLen : Nat} {r : Option (Except ConfigStoreErr (List UInt8))}
    (hquiet : UndisturbedPair E (copies csFormat σ.flash))
    (hexec : ProbedExec csEvalSlot (csLoadActive maxLen) E σ.flash r m') :
    m' = σ.flash ∧ forall blob, r = some (.ok blob) ->
      exists s x, Copies.newest (copies csFormat σ.flash) = some s ∧
        copies csFormat σ.flash s = some x ∧ blob = x.value := by
  rcases hexec with ⟨rfl, hcut⟩ | ⟨a, b, m₁, hprobed, hrest⟩
  · exact ⟨hcut.flash_eq sees_csEvalSlot, fun blob hblob => nomatch hblob⟩
  · have hm₁ := hprobed.flash_eq sees_csEvalSlot
    subst hm₁
    cases hpick : csPickActive a b with
    | none =>
        rw [csLoadActive_none maxLen hpick] at hrest
        have hload : Program.Ended qspiFlash
            (fun answer m' => m' = σ.flash ∧ answer = .error (csReportNoneValid a b))
            (fun m' => m' = σ.flash) r m' :=
          Program.wp_sound ((Program.wp_pure _).mpr ⟨rfl, rfl⟩) hrest
        cases r with
        | none => exact ⟨hload, fun blob hblob => nomatch hblob⟩
        | some answer =>
            rcases hload with ⟨hflash, rfl⟩
            exact ⟨hflash, fun blob hblob => nomatch hblob⟩
    | some s =>
        have hfound : Copies.newestOf a.found b.found = some s :=
          (csPickActive_eq a b).symm.trans hpick
        have hseen := hprobed.sees_pair sees_csEvalSlot hquiet
          fun h => nomatch hfound.symm.trans h
        have hnewest := hseen.newestOf_eq.symm.trans hfound
        rcases (reports_of_probed hprobed s).valid (csPickActive_valid hpick) with
          ⟨x, hx, _, hdata, hlen⟩
        have hload := Program.wp_sound
          (wp_csLoadActive (F := E.rest) maxLen hpick hx hdata hlen) hrest
        cases r with
        | none => exact ⟨hload, fun blob hblob => nomatch hblob⟩
        | some answer =>
            constructor
            · exact hload.1
            · intro blob hblob
              cases hblob
              rcases hload.2 with hok | ⟨⟨e, herror⟩, _⟩
              · cases hok
                exact ⟨s, x, hnewest, hx, rfl⟩
              · cases herror

theorem save_keeps (hkeeps : Copies.Keeps (copies csFormat σ.flash) σ.ledger) {data : List UInt8}
    {r : Option ConfigStoreErr} {a b : CsSlotInfo} {m₁ : Memory}
    (hroom : σ.ledger.attempts.length + 1 < 2 ^ 32) (hlen : data.length <= configStoreMaxDataBytes)
    (hquiet : Undisturbed E (copies csFormat σ.flash))
    (hprobed : Probed csEvalSlot E σ.flash (some (a, b)) m₁)
    (hexec : Program.Exec qspiFlash E.rest (csSaveTarget data a b) m₁ r m')
    (htorn : TornRejected csFormat m₁ m' (csTarget a b).1 (csTarget a b).2 data) :
    Copies.Keeps (copies csFormat m') (σ.ledger.attempted data (r = some .ok)) := by
  have hm₁ := hprobed.flash_eq sees_csEvalSlot
  subst hm₁
  have hchosen := csTarget_chosen (hprobed.sees sees_csEvalSlot hquiet)
    (fun s x hx => by
      have hle := hkeeps.seq_le hx
      omega)
  have hnum := hchosen.le hkeeps
  apply hkeeps.write hchosen
  have hended := Program.wp_sound (wp_csSaveTarget (F := E.rest) hlen a b) hexec
  cases r with
  | none => exact written_of_slot hlen (by omega) hended (fun h => nomatch h) htorn
  | some e =>
      apply written_of_slot hlen (by omega) hended.1 _ htorn
      intro hok
      cases hok
      exact hended.2.1 rfl

theorem Step.keeps (hkeeps : Copies.Keeps (copies csFormat σ.flash) σ.ledger)
    (hmeets : NewestReadable σ call) (hstep : Step σ call σ')
    (hroom : σ'.ledger.attempts.length < 2 ^ 32) :
    Copies.Keeps (copies csFormat σ'.flash) σ'.ledger := by
  cases hstep with
  | reboot => exact hkeeps
  | load _ hexec =>
      rw [(load_newest hmeets hexec).1]
      exact hkeeps
  | saveRefused => exact hkeeps
  | saveCut _ _ hcut =>
      have hflash := hcut.flash_eq sees_csEvalSlot
      subst hflash
      exact hkeeps.untouched not_false
  | save _ hlen hprobed hexec htorn =>
      have hcount : σ.ledger.attempts.length + 1 < 2 ^ 32 := by
        change (σ.ledger.attempts ++ [_]).length < 2 ^ 32 at hroom
        rw [List.length_append] at hroom
        exact hroom
      exact save_keeps hkeeps hcount hlen hmeets hprobed hexec htorn

theorem Reached.keeps (hreached : Reached NewestReadable σ) :
    Copies.Keeps (copies csFormat σ.flash) σ.ledger := by
  induction hreached with
  | start hnone => exact Copies.keeps_nothing hnone
  | step _ hmeets hstep hroom ih => exact hstep.keeps ih hmeets hroom

theorem recoverable_of_keeps (hkeeps : Copies.Keeps (copies csFormat σ.flash) σ.ledger) :
    Recoverable σ := by
  intro k hk
  rcases hkeeps.newest hk with ⟨s, x, j, hnew, hx, hle, hattempt⟩
  exact ⟨j, x.value, hle, hattempt, fun maxLen hroom => eval_configStoreLoad hnew hx hroom⟩

theorem notOlder_of_keeps (hkeeps : Copies.Keeps (copies csFormat σ.flash) σ.ledger)
    (hmeets : NewestReadable σ call) (hstep : Step σ call σ') : NotOlder σ call := by
  cases hstep with
  | reboot => trivial
  | @load _ _ r _ _ hexec =>
      cases r with
      | none => trivial
      | some answer =>
          cases answer with
          | error e => trivial
          | ok blob =>
              intro k hk
              rcases (load_newest hmeets hexec).2 blob rfl with ⟨s, x, hnew, hx, rfl⟩
              rcases hkeeps.newest hk with ⟨s', x', j, hnew', hx', hle, hattempt⟩
              rw [hnew] at hnew'
              cases hnew'
              rw [hx] at hx'
              cases hx'
              exact ⟨j, hle, hattempt⟩
  | saveRefused => trivial
  | saveCut => trivial
  | save => trivial

end Invariant

/-- While no read of the newest slot fails during its examination, the committed configuration is
never endangered. -/
theorem committed_blob_survives {σ : Store} (hreached : Reached NewestReadable σ) :
    Recoverable σ ∧ forall call σ', NewestReadable σ call -> Step σ call σ' -> NotOlder σ call :=
  ⟨recoverable_of_keeps hreached.keeps, fun _ _ => notOlder_of_keeps hreached.keeps⟩

/-!
## Two saves, and a read error
-/

section Runs

variable {n : Nat}

theorem step_save_never {σ : Store} (data : List UInt8) (hrunning : σ.running = true)
    (hlen : data.length <= configStoreMaxDataBytes) {t : Side}
    (htarget : forall a b, a.found = (copies csFormat σ.flash .a).map Copy.seq ->
      b.found = (copies csFormat σ.flash .b).map Copy.seq -> csTarget a b = (t, n))
    (hn : n < 256 ^ 4) :
    exists m', Step σ (.save data OperationFaults.never (some .ok))
        { flash := m', running := true, ledger := σ.ledger.attempted data True } ∧
      copies csFormat m' t = some ⟨n, data⟩ ∧
      copies csFormat m' t.other = copies csFormat σ.flash t.other := by
  rcases eval_csEvalSlot σ.flash .a with ⟨a, hevalA, hfoundA, _⟩
  rcases eval_csEvalSlot σ.flash .b with ⟨b, hevalB, hfoundB, _⟩
  have hat := htarget a b hfoundA hfoundB
  have hseq : (csTarget a b).2 < 256 ^ 4 := by
    rw [hat]
    exact hn
  rcases exec_csSaveTarget (F := Faults.never qspi) hlen hseq σ.flash with
    ⟨m', hexec, htorn, hnew, hother⟩
  have hstep := Step.save (E := OperationFaults.never) hrunning hlen
    (.done (Program.exec_of_eval hevalA) (Program.exec_of_eval hevalB)) hexec htorn
  rw [hat] at hnew hother
  exact ⟨m', hstep, hnew, hother⟩

theorem csTarget_of_found {a b : CsSlotInfo} {s : Side}
    (hpick : Copies.newestOf a.found b.found = some s) (hseq : (s.pick a b).found = some n) :
    csTarget a b = (s.other, (n + 1) % 256 ^ 4) := by
  rw [← csPickActive_eq] at hpick
  unfold CsSlotInfo.found at hseq
  rw [if_pos (csPickActive_valid hpick)] at hseq
  unfold csTarget
  rw [hpick]
  dsimp only
  rw [Option.some.inj hseq]

theorem reached_two_saves : exists m, Reached NewestReadable ⟨m, true, ⟨[[1], [2]], some 1⟩⟩ ∧
    copies csFormat m .a = some ⟨1, [1]⟩ ∧ copies csFormat m .b = some ⟨2, [2]⟩ := by
  have hone : (1 : Nat) < 2 ^ 32 := by decide
  have htwo : (2 : Nat) < 2 ^ 32 := by decide
  have hquiet : forall (σ : Store) data r,
      NewestReadable σ (.save data OperationFaults.never r) :=
    fun _ _ _ _ _ => Faults.never_neverFails
  let blank : Memory := fun _ => erasedByte
  have hblank : forall s, copies csFormat blank s = none := fun s => copies_erased fun _ _ _ => rfl
  have hready : Reached NewestReadable ⟨blank, true, ⟨[], none⟩⟩ := Reached.start hblank
  have htarget₁ : forall a b : CsSlotInfo, a.found = (copies csFormat blank .a).map Copy.seq ->
      b.found = (copies csFormat blank .b).map Copy.seq -> csTarget a b = (Side.a, 1) := by
    intro a b ha hb
    rw [hblank] at ha hb
    have hpick : csPickActive a b = none := by
      rw [csPickActive_eq, ha, hb]
      rfl
    unfold csTarget
    rw [hpick]
  rcases step_save_never (σ := ⟨blank, true, ⟨[], none⟩⟩) [1] rfl (by decide) htarget₁
    (by decide) with ⟨m₁, hsave₁, ha₁, hb₁⟩
  have hfirst : Reached NewestReadable ⟨m₁, true, ⟨[[1]], some 0⟩⟩ :=
    hready.step (hquiet _ _ _) hsave₁ hone
  have hgone₁ : copies csFormat m₁ .b = none := hb₁.trans (hblank _)
  have htarget₂ : forall a b : CsSlotInfo, a.found = (copies csFormat m₁ .a).map Copy.seq ->
      b.found = (copies csFormat m₁ .b).map Copy.seq -> csTarget a b = (Side.b, 2) := by
    intro a b ha hb
    rw [ha₁] at ha
    rw [hgone₁] at hb
    have hpick : Copies.newestOf a.found b.found = some Side.a := by
      rw [ha, hb]
      rfl
    exact csTarget_of_found hpick ha
  rcases step_save_never (σ := ⟨m₁, true, ⟨[[1]], some 0⟩⟩) [2] rfl (by decide) htarget₂
    (by decide) with ⟨m₂, hsave₂, hb₂, ha₂⟩
  have hsecond : Reached NewestReadable ⟨m₂, true, ⟨[[1], [2]], some 1⟩⟩ :=
    hfirst.step (hquiet _ _ _) hsave₂ htwo
  exact ⟨m₂, hsecond, ha₂.trans ha₁, hb₂⟩

/-- After two saves a load without faults gives the second, and no load the first. -/
theorem committed_blob_survives_two_saves :
    exists m, copies csFormat m .b = some ⟨2, [2]⟩ ∧
      Recoverable ⟨m, true, ⟨[[1], [2]], some 1⟩⟩ ∧
      forall call σ', NewestReadable ⟨m, true, ⟨[[1], [2]], some 1⟩⟩ call ->
        Step ⟨m, true, ⟨[[1], [2]], some 1⟩⟩ call σ' ->
        NotOlder ⟨m, true, ⟨[[1], [2]], some 1⟩⟩ call := by
  rcases reached_two_saves with ⟨m, hreached, _, hb⟩
  exact ⟨m, hb, committed_blob_survives hreached⟩

end Runs

end EnvMonitor.Gateway.ConfigStore
