import EnvMonitor.FieldDevice.ConfigStore.Store

/-!
# The committed configuration of the field device

Runs of saves, loads and restarts in which every call to the flash may fail or be cut off.  A
store keeps the committed configuration when a load without faults gives back the blob of the
last save that returned OK, or that of a later save.
-/

namespace EnvMonitor.FieldDevice.ConfigStore

open Device Drivers EnvMonitor.ConfigStore
open Config (Side Copy Copies Ledger)

/-- The flash, the module's flag in RAM, and what was saved so far. -/
structure Store where
  flash : Memory
  initialised : Bool
  ledger : Ledger (List UInt8)

/-- What happens to the store, with the faults during it and the answer of the call; the answer
is `none` when power was lost. -/
inductive Call where
  | reboot
  | init (faults : Faults qspi) (answer : Option ConfigStoreErr)
  | load (maxLen : Nat) (faults : OperationFaults)
      (answer : Option (Except ConfigStoreErr (List UInt8)))
  | save (data : List UInt8) (faults : OperationFaults) (answer : Option ConfigStoreErr)

/-- One call.  A save that was cut off or failed may leave its slot torn, and then the CRC of
that slot is wrong. -/
inductive Step : Store -> Call -> Store -> Prop where
  | reboot (σ : Store) : Step σ .reboot { σ with initialised := false }
  | init {σ : Store} {F : Faults qspi} {r : Option ConfigStoreErr} {m' : Memory} :
      Program.Exec qspiFlash F (configStoreInit σ.initialised) σ.flash r m' ->
      Step σ (.init F r) { σ with flash := m', initialised := r = some .ok }
  | loadRefused {σ : Store} (maxLen : Nat) (E : OperationFaults) : σ.initialised = false ->
      Step σ (.load maxLen E (some (.error .notInit))) σ
  | load {σ : Store} {maxLen : Nat} {E : OperationFaults}
      {r : Option (Except ConfigStoreErr (List UInt8))} {m' : Memory} : σ.initialised = true ->
      ProbedExec csValidateSlot (csLoadSelected maxLen) E σ.flash r m' ->
      Step σ (.load maxLen E r) { σ with flash := m', initialised := r.isSome }
  | saveRefused {σ : Store} (data : List UInt8) (E : OperationFaults) {e : ConfigStoreErr} :
      (σ.initialised = false ∧ e = .notInit) ∨
        (σ.initialised = true ∧ configStoreMaxDataBytes < data.length ∧ e = .tooLarge) ->
      Step σ (.save data E (some e)) σ
  | saveCut {σ : Store} {data : List UInt8} {E : OperationFaults} {m' : Memory} :
      σ.initialised = true -> data.length <= configStoreMaxDataBytes ->
      Probed csValidateSlot E σ.flash none m' ->
      Step σ (.save data E none)
        { flash := m', initialised := false, ledger := σ.ledger.attempted data False }
  | save {σ : Store} {data : List UInt8} {E : OperationFaults} {r : Option ConfigStoreErr}
      {seqA seqB : Option Nat} {m₁ m' : Memory} :
      σ.initialised = true -> data.length <= configStoreMaxDataBytes ->
      Probed csValidateSlot E σ.flash (some (seqA, seqB)) m₁ ->
      Program.Exec qspiFlash E.rest (csSaveTarget data seqA seqB) m₁ r m' ->
      TornRejected csFormat m₁ m' (csSelectTarget seqA seqB).1 (csSelectTarget seqA seqB).2 data ->
      Step σ (.save data E r)
        { flash := m', initialised := r.isSome, ledger := σ.ledger.attempted data (r = some .ok) }

theorem configStoreLoad_exec (maxLen : Nat) (m : Memory)
    (r : Option (Except ConfigStoreErr (List UInt8))) (m' : Memory) :
    ProbedExec csValidateSlot (csLoadSelected maxLen) OperationFaults.always m r m' ↔
      Program.Exec qspiFlash (Faults.always qspi) (configStoreLoad true maxLen) m r m' :=
  probedExec_always csValidateSlot (csLoadSelected maxLen) m r m'

theorem configStoreSave_exec {data : List UInt8} (hlen : data.length <= configStoreMaxDataBytes)
    (m : Memory) (r : Option ConfigStoreErr) (m' : Memory) :
    ProbedExec csValidateSlot (csSaveTarget data) OperationFaults.always m r m' ↔
      Program.Exec qspiFlash (Faults.always qspi) (configStoreSave true data) m r m' := by
  unfold configStoreSave
  rw [if_neg (by decide), if_neg (Nat.not_lt_of_le hlen)]
  exact probedExec_always csValidateSlot (csSaveTarget data) m r m'

/-- The stores runs reach from a flash without a valid slot, when every call meets `P`; fewer
than 2^32 saves. -/
inductive Reached (P : Store -> Call -> Prop) : Store -> Prop where
  | start {flash : Memory} : (forall s, copies csFormat flash s = none) ->
      Reached P { flash := flash, initialised := false,
                  ledger := { attempts := [], committed := none } }
  | step {σ σ' : Store} {call : Call} : Reached P σ -> P σ call -> Step σ call σ' ->
      σ'.ledger.attempts.length < 2 ^ 32 -> Reached P σ'

/-- A load without faults gives back the committed blob or the blob of a later save. -/
def Recoverable (σ : Store) : Prop :=
  forall k, σ.ledger.committed = some k ->
    exists j blob, k <= j ∧ σ.ledger.attempts[j]? = some blob ∧
      forall maxLen, blob.length <= maxLen ->
        (configStoreLoad true maxLen).eval qspiFlash σ.flash = (.ok blob, σ.flash)

/-- A load that returns OK gives the committed blob or the blob of a later save. -/
def NotOlder (σ : Store) : Call -> Prop
  | .load _ _ (some (.ok blob)) => forall k, σ.ledger.committed = some k ->
      exists j, k <= j ∧ σ.ledger.attempts[j]? = some blob
  | _ => True

/-- No read fails while the newest valid slot is validated, except by a load when the other
slot is not valid; and what is saved is not empty. -/
def NewestReadable (σ : Store) : Call -> Prop
  | .load _ E _ => UndisturbedPair E (copies csFormat σ.flash)
  | .save data E _ => Undisturbed E (copies csFormat σ.flash) ∧ 0 < data.length
  | _ => True

/-!
## The invariant
-/

structure StoreInv (σ : Store) : Prop where
  keeps : Copies.Keeps (copies csFormat σ.flash) σ.ledger
  fits : forall blob, blob ∈ σ.ledger.attempts ->
    0 < blob.length ∧ blob.length <= configStoreMaxDataBytes

section Invariant

variable {σ σ' : Store}

variable {initialised : Bool} {m' : Memory} {data : List UInt8} {r : Option ConfigStoreErr}
variable {E : OperationFaults} {call : Call}

theorem StoreInv.attempted (hinv : StoreInv σ) {ok : Prop} [Decidable ok] (hpos : 0 < data.length)
    (hlen : data.length <= configStoreMaxDataBytes)
    (hkeeps : Copies.Keeps (copies csFormat m') (σ.ledger.attempted data ok)) :
    StoreInv { flash := m', initialised := initialised, ledger := σ.ledger.attempted data ok } := by
  constructor
  · exact hkeeps
  · intro blob hblob
    rcases List.mem_append.mp hblob with hold | hnew
    · exact hinv.fits blob hold
    · rw [List.mem_singleton.mp hnew]
      exact ⟨hpos, hlen⟩

theorem configStoreInit_flash {F : Faults qspi} {m : Memory}
    (hexec : Program.Exec qspiFlash F (configStoreInit initialised) m r m') : m' = m := by
  have hwp : (configStoreInit initialised).wp qspiFlash F (fun _ m' => m' = m)
      (fun m' => m' = m) m := by
    unfold configStoreInit
    apply Program.wp_ite
    · exact fun _ => rfl
    · intro _
      rw [Program.wp_bind, wp_qspiRead (by decide) (by decide)]
      exact ⟨rfl, fun _ _ => rfl, fun _ _ => rfl⟩
  cases r with
  | none => exact Program.wp_crash hwp hexec
  | some e => exact Program.wp_returns hwp hexec

theorem StoreInv.load (hinv : StoreInv σ) {maxLen : Nat}
    {r : Option (Except ConfigStoreErr (List UInt8))}
    (hquiet : UndisturbedPair E (copies csFormat σ.flash))
    (hexec : ProbedExec csValidateSlot (csLoadSelected maxLen) E σ.flash r m') :
    m' = σ.flash ∧ forall blob, r = some (.ok blob) ->
      exists s x, Copies.newest (copies csFormat σ.flash) = some s ∧
        copies csFormat σ.flash s = some x ∧ blob = x.value := by
  rcases hexec with ⟨rfl, hcut⟩ | ⟨seqA, seqB, m₁, hprobed, hrest⟩
  · exact ⟨hcut.flash_eq sees_csValidateSlot, fun blob hblob => nomatch hblob⟩
  · have hm₁ := hprobed.flash_eq sees_csValidateSlot
    subst hm₁
    cases hnew : Copies.newestOf seqA seqB with
    | none =>
        rw [csLoadSelected_none maxLen hnew] at hrest
        have hload : Program.Ended qspiFlash
            (fun answer m' => m' = σ.flash ∧ answer = .error .noValidSlot)
            (fun m' => m' = σ.flash) r m' :=
          Program.wp_sound ((Program.wp_pure _).mpr ⟨rfl, rfl⟩) hrest
        cases r with
        | none => exact ⟨hload, fun blob hblob => nomatch hblob⟩
        | some answer =>
            rcases hload with ⟨hflash, rfl⟩
            exact ⟨hflash, fun blob hblob => nomatch hblob⟩
    | some s =>
        have hseen := hprobed.sees_pair sees_csValidateSlot hquiet
          (show Copies.newestOf (id seqA) (id seqB) ≠ none from fun h => nomatch hnew.symm.trans h)
        have hnewest := hseen.newestOf_eq
        change Copies.newestOf seqA seqB = _ at hnewest
        rw [hnew] at hnewest
        rcases Copies.newest_valid hnewest.symm with ⟨x, hx⟩
        have hload := Program.wp_sound (wp_csLoadSelected (F := E.rest) maxLen hnew hx
          (hinv.fits _ (hinv.keeps.mem hx)).2) hrest
        cases r with
        | none => exact ⟨hload, fun blob hblob => nomatch hblob⟩
        | some answer =>
            constructor
            · exact hload.1
            · intro blob hblob
              cases hblob
              rcases hload.2 with hok | ⟨⟨e, herror⟩, _⟩
              · cases hok
                exact ⟨s, x, hnewest.symm, hx, rfl⟩
              · cases herror

theorem StoreInv.save (hinv : StoreInv σ) {seqA seqB : Option Nat} {m₁ : Memory}
    (hroom : σ.ledger.attempts.length + 1 < 2 ^ 32) (hlen : data.length <= configStoreMaxDataBytes)
    (hquiet : Undisturbed E (copies csFormat σ.flash))
    (hprobed : Probed csValidateSlot E σ.flash (some (seqA, seqB)) m₁)
    (hexec : Program.Exec qspiFlash E.rest (csSaveTarget data seqA seqB) m₁ r m')
    (htorn : TornRejected csFormat m₁ m' (csSelectTarget seqA seqB).1
      (csSelectTarget seqA seqB).2 data) :
    Copies.Keeps (copies csFormat m') (σ.ledger.attempted data (r = some .ok)) := by
  have hm₁ := hprobed.flash_eq sees_csValidateSlot
  subst hm₁
  have hchosen := csSelectTarget_chosen (hprobed.sees sees_csValidateSlot hquiet)
    (fun s x hx => by
      have hle := hinv.keeps.seq_le hx
      omega)
  change Copies.Chosen (copies csFormat σ.flash) (csSelectTarget seqA seqB).1
    (csSelectTarget seqA seqB).2 at hchosen
  have hnum := hchosen.le hinv.keeps
  apply hinv.keeps.write hchosen
  have hended := Program.wp_sound (wp_csSaveTarget (F := E.rest) hlen seqA seqB) hexec
  cases r with
  | none => exact written_of_slot hlen (by omega) hended (fun h => nomatch h) htorn
  | some e =>
      apply written_of_slot hlen (by omega) hended.1 _ htorn
      intro hok
      cases hok
      exact hended.2.1 rfl

theorem StoreInv.step (hinv : StoreInv σ) (hmeets : NewestReadable σ call) (hstep : Step σ call σ')
    (hroom : σ'.ledger.attempts.length < 2 ^ 32) : StoreInv σ' := by
  cases hstep with
  | reboot => exact ⟨hinv.keeps, hinv.fits⟩
  | init hexec =>
      have hflash := configStoreInit_flash hexec
      subst hflash
      exact ⟨hinv.keeps, hinv.fits⟩
  | loadRefused => exact hinv
  | load _ hexec =>
      have hflash := (hinv.load hmeets hexec).1
      subst hflash
      exact ⟨hinv.keeps, hinv.fits⟩
  | saveRefused => exact hinv
  | saveCut _ hlen hcut =>
      have hflash := hcut.flash_eq sees_csValidateSlot
      subst hflash
      exact hinv.attempted hmeets.2 hlen (hinv.keeps.untouched not_false)
  | save _ hlen hprobed hexec htorn =>
      have hcount : σ.ledger.attempts.length + 1 < 2 ^ 32 := by
        change (σ.ledger.attempts ++ [_]).length < 2 ^ 32 at hroom
        rw [List.length_append] at hroom
        exact hroom
      exact hinv.attempted hmeets.2 hlen
        (hinv.save hcount hlen hmeets.1 hprobed hexec htorn)

theorem Reached.inv (hreached : Reached NewestReadable σ) : StoreInv σ := by
  induction hreached with
  | start hnone => exact ⟨Copies.keeps_nothing hnone, fun _ hblob => nomatch hblob⟩
  | step _ hmeets hstep hroom ih => exact ih.step hmeets hstep hroom

theorem StoreInv.recoverable (hinv : StoreInv σ) : Recoverable σ := by
  intro k hk
  rcases hinv.keeps.newest hk with ⟨s, x, j, hnew, hx, hle, hattempt⟩
  rcases hinv.fits _ (hinv.keeps.mem hx) with ⟨hpos, hlen⟩
  exact ⟨j, x.value, hle, hattempt,
    fun maxLen hroom => eval_configStoreLoad hnew hx hlen hpos hroom⟩

theorem StoreInv.notOlder (hinv : StoreInv σ) (hmeets : NewestReadable σ call)
    (hstep : Step σ call σ') : NotOlder σ call := by
  cases hstep with
  | @load _ _ r _ _ hexec =>
      cases r with
      | none => trivial
      | some answer =>
          cases answer with
          | error e => trivial
          | ok blob =>
              intro k hk
              rcases (hinv.load hmeets hexec).2 blob rfl with ⟨s, x, hnew, hx, rfl⟩
              rcases hinv.keeps.newest hk with ⟨s', x', j, hnew', hx', hle, hattempt⟩
              rw [hnew] at hnew'
              cases hnew'
              rw [hx] at hx'
              cases hx'
              exact ⟨j, hle, hattempt⟩
  | _ => trivial

end Invariant

/-- While no read of the newest slot fails during validation, and nothing empty is saved, the
committed configuration is never endangered. -/
theorem committed_configuration_survives {σ : Store} (hreached : Reached NewestReadable σ) :
    Recoverable σ ∧ forall call σ', NewestReadable σ call -> Step σ call σ' -> NotOlder σ call :=
  ⟨hreached.inv.recoverable, fun _ _ hmeets hstep => hreached.inv.notOlder hmeets hstep⟩

/-!
## Two saves, and a read error
-/

section Runs

variable {σ : Store}

theorem newestReadable_never {data : List UInt8} (hpos : 0 < data.length)
    (r : Option ConfigStoreErr) : NewestReadable σ (.save data OperationFaults.never r) :=
  ⟨fun _ _ => Faults.never_neverFails, hpos⟩

theorem step_save_never (data : List UInt8) (hready : σ.initialised = true)
    (hlen : data.length <= configStoreMaxDataBytes) {t : Side} {n : Nat}
    (htarget : csSelectTarget ((copies csFormat σ.flash .a).map Copy.seq)
      ((copies csFormat σ.flash .b).map Copy.seq) = (t, n)) (hn : n < 256 ^ 4) :
    exists m', Step σ (.save data OperationFaults.never (some .ok))
        { flash := m', initialised := true, ledger := σ.ledger.attempted data True } ∧
      copies csFormat m' t = some ⟨n, data⟩ ∧
      copies csFormat m' t.other = copies csFormat σ.flash t.other := by
  have hprobe : forall s, Program.Exec qspiFlash (Faults.never qspi) (csValidateSlot s) σ.flash
      (some ((copies csFormat σ.flash s).map Copy.seq)) σ.flash :=
    fun s => Program.exec_of_eval (eval_csValidateSlot σ.flash s)
  have hexec := exec_csSaveTarget (F := Faults.never qspi) hlen
    (by rw [htarget]; exact hn) σ.flash
  rcases hexec with ⟨m', hexec, htorn, hnew, hother⟩
  have hstep := Step.save (E := OperationFaults.never) hready hlen
    (.done (hprobe .a) (hprobe .b)) hexec htorn
  rw [htarget] at hnew hother
  exact ⟨m', hstep, hnew, hother⟩

theorem reached_two_saves : exists m, Reached NewestReadable ⟨m, true, ⟨[[1], [2]], some 1⟩⟩ ∧
    copies csFormat m .a = some ⟨2, [2]⟩ ∧ copies csFormat m .b = some ⟨1, [1]⟩ := by
  have hone : (1 : Nat) < 2 ^ 32 := by decide
  have htwo : (2 : Nat) < 2 ^ 32 := by decide
  let blank : Memory := fun _ => erasedByte
  have hblank : forall s, copies csFormat blank s = none := fun s => copies_erased fun _ _ _ => rfl
  have hinit : Program.Exec qspiFlash (Faults.never qspi) (configStoreInit false) blank
      (some .ok) blank := Program.exec_of_eval rfl
  have hinitMeets : NewestReadable ⟨blank, false, ⟨[], none⟩⟩
      (.init (Faults.never qspi) (some .ok)) := trivial
  have hready : Reached NewestReadable ⟨blank, true, ⟨[], none⟩⟩ :=
    (Reached.start hblank).step hinitMeets (.init hinit) (by decide)
  have htarget₁ : csSelectTarget ((copies csFormat blank .a).map Copy.seq)
      ((copies csFormat blank .b).map Copy.seq) = (.b, 1) := by
    rw [hblank, hblank]
    rfl
  rcases step_save_never (σ := ⟨blank, true, ⟨[], none⟩⟩) [1] rfl (by decide) htarget₁
    (by decide) with ⟨m₁, hsave₁, hb₁, ha₁⟩
  have hfirst : Reached NewestReadable ⟨m₁, true, ⟨[[1]], some 0⟩⟩ :=
    hready.step (newestReadable_never (by decide) _) hsave₁ hone
  have htarget₂ : csSelectTarget ((copies csFormat m₁ .a).map Copy.seq)
      ((copies csFormat m₁ .b).map Copy.seq) = (.a, 2) := by
    rw [show copies csFormat m₁ .a = none from ha₁.trans (hblank _), hb₁]
    rfl
  rcases step_save_never (σ := ⟨m₁, true, ⟨[[1]], some 0⟩⟩) [2] rfl (by decide) htarget₂
    (by decide) with ⟨m₂, hsave₂, ha₂, hb₂⟩
  have hsecond : Reached NewestReadable ⟨m₂, true, ⟨[[1], [2]], some 1⟩⟩ :=
    hfirst.step (newestReadable_never (by decide) _) hsave₂ htwo
  exact ⟨m₂, hsecond, ha₂, hb₂.trans hb₁⟩

theorem Reached.mono {P Q : Store -> Call -> Prop} (hPQ : forall σ call, P σ call -> Q σ call)
    (hreached : Reached P σ) : Reached Q σ := by
  induction hreached with
  | start hnone => exact .start hnone
  | step _ hmeets hstep hroom ih => exact ih.step (hPQ _ _ hmeets) hstep hroom

/-- After two saves a load without faults gives the second, and no load the first. -/
theorem committed_configuration_survives_two_saves :
    exists m, copies csFormat m .a = some ⟨2, [2]⟩ ∧
      Recoverable ⟨m, true, ⟨[[1], [2]], some 1⟩⟩ ∧
      forall call σ', NewestReadable ⟨m, true, ⟨[[1], [2]], some 1⟩⟩ call ->
        Step ⟨m, true, ⟨[[1], [2]], some 1⟩⟩ call σ' ->
        NotOlder ⟨m, true, ⟨[[1], [2]], some 1⟩⟩ call := by
  rcases reached_two_saves with ⟨m, hreached, ha, _⟩
  exact ⟨m, ha, committed_configuration_survives hreached⟩

/-- One read error while slot A is validated. -/
def slotAUnreadable : OperationFaults where
  probing := fun s => match s with
    | .a => Faults.always qspi
    | .b => Faults.never qspi
  rest := Faults.always qspi

theorem probed_slotAUnreadable {m : Memory} {x : Copy (List UInt8)}
    (hb : copies csFormat m .b = some x) :
    Probed csValidateSlot slotAUnreadable m (some (none, some x.seq)) m := by
  have ha : Program.Exec qspiFlash (Faults.always qspi) (csValidateSlot .a) m (some none) m :=
    Program.exec_run qspiFlash (csValidateSlot .a) [.failed 0] m
      (Program.allowed_always qspiFlash _ _ _)
  have hb' := eval_csValidateSlot m .b
  rw [hb] at hb'
  exact .done ha (Program.exec_of_eval hb')

theorem first_not_later {blob : List UInt8} {j : Nat} (rest : List (List UInt8))
    (hnot : blob ∉ rest) (hle : 1 <= j) : (blob :: rest)[j]? ≠ some blob := by
  intro hattempt
  cases j with
  | zero => omega
  | succ j => exact hnot (List.mem_of_getElem? hattempt)

/-- The committed `[2]` is in slot A.  A load that cannot read it answers `[1]` with OK; a save
that cannot read it erases it, and once power is cut then only `[1]` is left. -/
theorem unreadable_newest_is_endangered :
    (exists σ call σ', Reached (fun _ _ => True) σ ∧ Step σ call σ' ∧ ¬ NotOlder σ call) ∧
      exists σ, Reached (fun _ _ => True) σ ∧ ¬ Recoverable σ := by
  rcases reached_two_saves with ⟨m, hreached, ha, hb⟩
  have hany := hreached.mono (Q := fun _ _ => True) fun _ _ _ => trivial
  have hprobed := probed_slotAUnreadable hb
  constructor
  · have hfound : Copies.newestOf none (some 1) = some .b := rfl
    have hload := eval_csLoadSelected hfound hb (by decide) (by decide) (Nat.le_refl 1)
    refine ⟨_, _, _, hany, Step.load (E := slotAUnreadable) rfl
      (.inr ⟨none, some 1, m, hprobed, Program.exec_of_eval hload⟩), ?_⟩
    intro hnot
    rcases hnot 1 rfl with ⟨j, hle, hattempt⟩
    exact first_not_later [[2]] (by decide) hle hattempt
  · have hcut : Program.Exec qspiFlash (Faults.always qspi) (csSaveTarget [3] none (some 1)) m
        none (qspiErasePart 0 4096 m) :=
      Program.exec_run qspiFlash (csSaveTarget [3] none (some 1)) [.cut 4096] m
        (Program.allowed_always qspiFlash _ _ _)
    have herased : qspiErasePart 0 4096 m = m.erase 0 4096 := rfl
    rw [herased] at hcut
    have hlost : copies csFormat (m.erase 0 4096) .a = none :=
      copies_erased ((Memory.erase_blank m 0 4096).sub (Nat.le_refl 0) (by decide))
    have hkept : copies csFormat (m.erase 0 4096) .b = some ⟨1, [1]⟩ := by
      unfold copies
      rw [Memory.slice_congr ((Memory.erase_sameOutside m 0 4096).sameOn (.inr (by decide)))]
      exact hb
    have hfits : ([3] : List UInt8).length <= configStoreMaxDataBytes := by decide
    have hstep := Step.save (σ := ⟨m, true, ⟨[[1], [2]], some 1⟩⟩) (E := slotAUnreadable) rfl hfits
      hprobed hcut fun _ _ => hlost
    have hthree : (3 : Nat) < 2 ^ 32 := by decide
    refine ⟨_, hany.step trivial hstep hthree, ?_⟩
    intro hrecoverable
    rcases hrecoverable 1 rfl with ⟨j, blob, hle, hattempt, hload⟩
    have hroom : 1 <= blob.length + 1 := Nat.le_add_left 1 _
    have hold := eval_configStoreLoad (Copies.newest_of_alone (s := .b) hkept hlost) hkept
      (by decide) (by decide) hroom
    have hsame := (hload (blob.length + 1) (Nat.le_succ _)).symm.trans hold
    have hblob : blob = [1] := Except.ok.inj (congrArg Prod.fst hsame)
    subst hblob
    exact first_not_later [[2], [3]] (by decide) hle hattempt

end Runs

end EnvMonitor.FieldDevice.ConfigStore
