import EnvMonitor.Gateway.FirmwareStore.Scope

/-!
# Boot control

The ways `activate`, `confirm`, `rollback` and `acknowledge_rollback` end, and what they mean
for the record the next boot selects.
-/

namespace EnvMonitor.Gateway.FirmwareStore

open Device Drivers Gateway.ConfigStore Bootloader
open Program (wp_bind wp_inLeft wp_ite wp_mono wp_returns)

/-!
## Requests
-/

/-- The calls that may write the boot record. -/
def IsBootControl : FsCall -> Prop
  | .activate => True
  | .confirm => True
  | .rollback => True
  | .acknowledgeRollback => True
  | _ => False

/-- The calls that erase the descriptor left behind once the record is written. -/
def Settles : FsCall -> Prop
  | .confirm => True
  | .acknowledgeRollback => True
  | _ => False

instance (call : FsCall) : Decidable (IsBootControl call) := by
  unfold IsBootControl
  cases call <;> infer_instance

instance (call : FsCall) : Decidable (Settles call) := by
  unfold Settles
  cases call <;> infer_instance

/-- The call gets as far as writing the record. -/
def Requests (fs : FsInst) : FsCall -> Prop
  | .activate =>
      fs.boot.otaCapable = true ∧ fs.op = .installed ∧ fs.boot.state = .confirmed
  | .confirm => fs.boot.otaCapable = true ∧ fs.boot.state = .trialRunning
  | .rollback => fs.boot.otaCapable = true ∧ fs.boot.state = .trialRunning
  | .acknowledgeRollback => fs.boot.otaCapable = true ∧ fs.boot.state = .rolledBack
  | _ => False

/-- The record the call writes. -/
def requestedRecord (fs : FsInst) : FsCall -> FirmwareBootMeta
  | .activate =>
      fsMetaRecord (fsBankFromSlot fs.targetSlot) firmwareMetaStateTrialPending
        (fsBankFromSlot fs.boot.runningSlot) fs.fsMeta.rollbackCount
        (fsMetaNextGeneration fs.fsMeta)
  | .rollback =>
      fsMetaRecord fs.fsMeta.previousBank firmwareMetaStateRolledBack fs.fsMeta.activeBank
        (fs.fsMeta.rollbackCount + 1) (fsMetaNextGeneration fs.fsMeta)
  | _ =>
      fsMetaRecord fs.fsMeta.activeBank firmwareMetaStateConfirmed fs.fsMeta.previousBank 0
        (fsMetaNextGeneration fs.fsMeta)

/-- The instance once the record is written. -/
def recorded (fs : FsInst) : FsCall -> FsInst
  | .activate =>
      { fs with
        fsMeta := fsMetaOf (fsMetaTarget fs.fsMeta) (requestedRecord fs .activate)
        boot := { fs.boot with state := .trialPending }
        op := .activated }
  | .rollback =>
      { fs with
        fsMeta := fsMetaOf (fsMetaTarget fs.fsMeta) (requestedRecord fs .rollback)
        boot :=
          { fs.boot with state := .rolledBack, rollbackCount := fs.fsMeta.rollbackCount + 1 } }
  | call =>
      { fs with
        fsMeta := fsMetaOf (fsMetaTarget fs.fsMeta) (requestedRecord fs call)
        boot := { fs.boot with state := .confirmed, rollbackCount := 0 } }

/-- The slot whose descriptor settling erases. -/
def leftSlot (fs : FsInst) : FirmwareSlot :=
  fsSlotFromBank fs.fsMeta.previousBank

/-- The exits of a boot-control call. -/
inductive BootCallExit (F : Faults iflash) (m : Memory) (fs : FsInst) (call : FsCall) :
    FirmwareStoreErr -> FsInst -> Memory -> Prop where
  | idle {err : FirmwareStoreErr} : ¬ Requests fs call ->
      (err = .ok -> Settles call ∧ fs.boot.otaCapable = true ∧ fs.boot.state = .confirmed) ->
      BootCallExit F m fs call err fs m
  | failed {err : FirmwareStoreErr} {m' : Memory} : Requests fs call -> err ≠ .ok ->
      WriteExit F m (fsMetaTarget fs.fsMeta) (requestedRecord fs call) false m' ->
      BootCallExit F m fs call err fs m'
  | done : Requests fs call -> ¬ Settles call ->
      BootCallExit F m fs call .ok (recorded fs call)
        (written m (fsMetaTarget fs.fsMeta) (requestedRecord fs call) 24)
  | settled : Requests fs call -> Settles call ->
      BootCallExit F m fs call .ok (recorded fs call)
        ((written m (fsMetaTarget fs.fsMeta) (requestedRecord fs call) 24).erase
          (fsDescAddr (leftSlot fs)) 2048)
  | unsettled (n : Nat) : Requests fs call -> Settles call ->
      F.fails (.erasePage (fsDescAddr (leftSlot fs))) n ->
      BootCallExit F m fs call .flashErase (recorded fs call)
        ((written m (fsMetaTarget fs.fsMeta) (requestedRecord fs call) 24).erase
          (fsDescAddr (leftSlot fs)) (min n 2048))

/-- What a power cut during a boot-control call leaves. -/
inductive BootCallCut (F : Faults iflash) (m : Memory) (fs : FsInst) (call : FsCall) :
    Memory -> Prop where
  | idle : BootCallCut F m fs call m
  | writing {m' : Memory} : Requests fs call ->
      Midway F m (fsMetaTarget fs.fsMeta) (requestedRecord fs call) m' ->
      BootCallCut F m fs call m'
  | settling (n : Nat) : Requests fs call -> Settles call -> n <= 2048 ->
      BootCallCut F m fs call
        ((written m (fsMetaTarget fs.fsMeta) (requestedRecord fs call) 24).erase
          (fsDescAddr (leftSlot fs)) n)

/-!
## Exits
-/

section

variable {F : Faults storeIo} {m : Memory} {t : (qspiFlash.sum cryptoDevice).State}
variable {crypto : OtaCrypto} {fs : FsInst}

/-- A capable instance holds a record with legal banks. -/
def LegalBanks (fs : FsInst) : Prop :=
  fs.boot.otaCapable = true ->
    metaBankLegal fs.fsMeta.activeBank ∧ metaBankLegal fs.fsMeta.previousBank

theorem fsBankFromSlot_legal (slot : FirmwareSlot) : metaBankLegal (fsBankFromSlot slot) := by
  unfold fsBankFromSlot
  split
  · exact .inr rfl
  · exact .inl rfl

theorem wp_onFlash {α : Type} {Q : α -> storeDevice.State -> Prop}
    {C : storeDevice.State -> Prop} {p : IFlash α} :
    (onFlash p).wp storeDevice F Q C (m, t) ↔
      p.wp internalFlash F.left (fun a m' => Q a (m', t)) (fun m' => C (m', t)) m :=
  wp_inLeft p

theorem eraseAccepted_desc (slot : FirmwareSlot) : iflashEraseAccepted (fsDescAddr slot) := by
  unfold fsDescAddr
  split
  · decide
  · decide

theorem wp_fsDescErase {G : Faults iflash} {C : Memory -> Prop} {slot : FirmwareSlot}
    {Q : FirmwareStoreErr -> Memory -> Prop} :
    (fsDescErase slot).wp internalFlash G Q C m ↔
      Q .ok (m.erase (fsDescAddr slot) 2048) ∧
        (forall n, G.fails (.erasePage (fsDescAddr slot)) n ->
          Q .flashErase (m.erase (fsDescAddr slot) (min n 2048))) ∧
        (forall n, G.cuts (.erasePage (fsDescAddr slot)) n ->
          C (m.erase (fsDescAddr slot) (min n 2048))) := by
  unfold fsDescErase fsIfErasePage
  rw [wp_bind, wp_iflashErasePage (eraseAccepted_desc slot)]
  exact Iff.rfl

/-- A call that writes the record it asks for goes on from the record written; a write that
fails leaves the instance. -/
theorem wp_requestedWrite {call : FsCall} {active state previous : UInt8} {count : UInt32}
    {Q : FirmwareStoreErr × FsMeta -> storeDevice.State -> Prop} (hrequests : Requests fs call)
    (hrecord : requestedRecord fs call =
      fsMetaRecord active state previous count (fsMetaNextGeneration fs.fsMeta))
    (hactive : metaBankLegal active) (hprevious : metaBankLegal previous)
    (hstate : metaStateLegal state)
    (hdone : Q (.ok, fsMetaOf (fsMetaTarget fs.fsMeta) (requestedRecord fs call))
      (written m (fsMetaTarget fs.fsMeta) (requestedRecord fs call) 24, t))
    (hfailed : forall err m', err ≠ .ok -> BootCallExit F.left m fs call err fs m' ->
      Q (err, fs.fsMeta) (m', t)) :
    (onFlash (fsMetaWrite fs.fsMeta active state previous count)).wp storeDevice F Q
      (fun s' => BootCallCut F.left m fs call s'.1) (m, t) := by
  rw [wp_onFlash]
  apply wp_mono _ _ (wp_fsMetaWrite fs.fsMeta count hactive hprevious hstate)
  · intro out m' hout
    rcases out with ⟨err, fsMeta⟩
    rw [← hrecord] at hout
    rcases hout with ⟨hexit, hnew, hold⟩
    change WriteExit _ m _ _ (decide (err = .ok)) m' at hexit
    by_cases hok : err = .ok
    · subst hok
      have hmeta : fsMeta = _ := hnew rfl
      subst hmeta
      cases hexit with
      | done => exact hdone
    · have hmeta : fsMeta = _ := hold hok
      subst hmeta
      rw [decide_eq_false hok] at hexit
      exact hfailed err m' hok (.failed hrequests hok hexit)
  · intro m' hcut
    rw [← hrecord] at hcut
    exact .writing hrequests hcut

theorem wp_doActivate :
    (doActivate fs).wp storeDevice F
      (fun out s' => BootCallExit F.left m fs .activate out.1 out.2 s'.1)
      (fun s' => BootCallCut F.left m fs .activate s'.1) (m, t) := by
  unfold doActivate
  apply wp_ite
  · intro hcapable
    exact .idle (fun h => by cases hcapable.symm.trans h.1) (fun h => by cases h)
  · intro hcapable
    have hota : fs.boot.otaCapable = true := by simpa using hcapable
    apply wp_ite
    · intro hbad
      refine .idle (fun h => ?_) (fun h => by cases h)
      rcases hbad with hop | hstate
      · exact hop h.2.1
      · exact hstate h.2.2
    · intro hready
      have hrequests : Requests fs .activate := by
        simp only [not_or, not_not] at hready
        exact ⟨hota, hready.1, hready.2⟩
      rw [wp_bind]
      apply wp_requestedWrite hrequests rfl (fsBankFromSlot_legal _) (fsBankFromSlot_legal _)
        metaStateLegal_trialPending
      · exact .done hrequests (fun h => h)
      · intro err m' herr hexit
        dsimp only
        rw [if_neg herr]
        exact hexit

theorem wp_settleConfirmed {call : FsCall} (hsettles : Settles call) (hrequests : Requests fs call)
    (hactive : metaBankLegal fs.fsMeta.activeBank)
    (hprevious : metaBankLegal fs.fsMeta.previousBank) :
    (settleConfirmed fs).wp storeDevice F
      (fun out s' => BootCallExit F.left m fs call out.1 out.2 s'.1)
      (fun s' => BootCallCut F.left m fs call s'.1) (m, t) := by
  have hrecord : requestedRecord fs call = fsMetaRecord fs.fsMeta.activeBank
      firmwareMetaStateConfirmed fs.fsMeta.previousBank 0 (fsMetaNextGeneration fs.fsMeta) := by
    cases call <;> first | rfl | exact hsettles.elim
  have hrecorded : recorded fs call =
      { fs with
        fsMeta := fsMetaOf (fsMetaTarget fs.fsMeta) (requestedRecord fs call)
        boot := { fs.boot with state := .confirmed, rollbackCount := 0 } } := by
    cases call <;> first | rfl | exact hsettles.elim
  unfold settleConfirmed
  rw [wp_bind]
  apply wp_requestedWrite hrequests hrecord hactive hprevious metaStateLegal_confirmed
  · have hleft : fsSlotFromBank (fsMetaOf (fsMetaTarget fs.fsMeta)
        (requestedRecord fs call)).previousBank = leftSlot fs := by
      rw [hrecord]
      rfl
    dsimp only
    rw [if_neg (not_not.mpr rfl), hleft, wp_bind, wp_onFlash, wp_fsDescErase, ← hrecorded]
    exact ⟨.settled hrequests hsettles, fun n hn => .unsettled n hrequests hsettles hn,
      fun n _ => .settling _ hrequests hsettles (Nat.min_le_right _ _)⟩
  · intro err m' herr hexit
    dsimp only
    rw [if_pos herr]
    exact hexit

theorem wp_doConfirm (hlegal : LegalBanks fs) :
    (doConfirm fs).wp storeDevice F
      (fun out s' => BootCallExit F.left m fs .confirm out.1 out.2 s'.1)
      (fun s' => BootCallCut F.left m fs .confirm s'.1) (m, t) := by
  unfold doConfirm
  apply wp_ite
  · intro hcapable
    exact .idle (fun h => by cases hcapable.symm.trans h.1) (fun h => by cases h)
  · intro hcapable
    have hota : fs.boot.otaCapable = true := by simpa using hcapable
    apply wp_ite
    · intro hconfirmed
      exact .idle (fun h => by cases hconfirmed.symm.trans h.2) (fun _ => ⟨trivial, hota, hconfirmed⟩)
    · intro _
      apply wp_ite
      · intro hrunning
        exact wp_settleConfirmed trivial ⟨hota, hrunning⟩ (hlegal hota).1 (hlegal hota).2
      · intro hother
        exact .idle (fun h => hother h.2) (fun h => by cases h)

theorem wp_doAcknowledgeRollback (hlegal : LegalBanks fs) :
    (doAcknowledgeRollback fs).wp storeDevice F
      (fun out s' => BootCallExit F.left m fs .acknowledgeRollback out.1 out.2 s'.1)
      (fun s' => BootCallCut F.left m fs .acknowledgeRollback s'.1) (m, t) := by
  unfold doAcknowledgeRollback
  apply wp_ite
  · intro hcapable
    exact .idle (fun h => by cases hcapable.symm.trans h.1) (fun h => by cases h)
  · intro hcapable
    have hota : fs.boot.otaCapable = true := by simpa using hcapable
    apply wp_ite
    · intro hconfirmed
      exact .idle (fun h => by cases hconfirmed.symm.trans h.2) (fun _ => ⟨trivial, hota, hconfirmed⟩)
    · intro _
      apply wp_ite
      · intro hrolled
        exact wp_settleConfirmed trivial ⟨hota, hrolled⟩ (hlegal hota).1 (hlegal hota).2
      · intro hother
        exact .idle (fun h => hother h.2) (fun h => by cases h)

theorem wp_doRollback (hlegal : LegalBanks fs) :
    (doRollback fs).wp storeDevice F
      (fun out s' => BootCallExit F.left m fs .rollback out.1 out.2 s'.1)
      (fun s' => BootCallCut F.left m fs .rollback s'.1) (m, t) := by
  unfold doRollback
  apply wp_ite
  · intro hcapable
    exact .idle (fun h => by cases hcapable.symm.trans h.1) (fun h => by cases h)
  · intro hcapable
    have hota : fs.boot.otaCapable = true := by simpa using hcapable
    apply wp_ite
    · intro hother
      exact .idle (fun h => hother h.2) (fun h => by cases h)
    · intro hrunning
      have hrequests : Requests fs .rollback := ⟨hota, not_not.mp hrunning⟩
      dsimp only
      rw [wp_bind]
      apply wp_requestedWrite hrequests rfl (hlegal hota).2 (hlegal hota).1 metaStateLegal_rolledBack
      · exact .done hrequests (fun h => h)
      · intro err m' herr hexit
        dsimp only
        rw [if_neg herr]
        exact hexit

theorem wp_bootControl {call : FsCall} (hcall : IsBootControl call) (hlegal : LegalBanks fs) :
    (fsPerform crypto fs call).wp storeDevice F
      (fun out s' => BootCallExit F.left m fs call out.1.err out.2 s'.1)
      (fun s' => BootCallCut F.left m fs call s'.1) (m, t) := by
  cases call with
  | activate => exact (wp_bind _ _).mpr wp_doActivate
  | confirm => exact (wp_bind _ _).mpr (wp_doConfirm hlegal)
  | rollback => exact (wp_bind _ _).mpr (wp_doRollback hlegal)
  | acknowledgeRollback => exact (wp_bind _ _).mpr (wp_doAcknowledgeRollback hlegal)
  | _ => exact hcall.elim

end

/-!
## Sessions
-/

/-- How many bytes of the record stand on the page after one of its programs failed. -/
inductive FailedAfter (F : Faults iflash) (c : Nat) (r : FirmwareBootMeta) : Nat -> Prop where
  | body (n : Nat) : F.fails (.program (fsMetaAddr c) (r.bytes.take 16)) n ->
      FailedAfter F c r (min n 16)
  | tail (n : Nat) : F.fails (.program (fsMetaAddr c + 16) (r.bytes.drop 16)) n ->
      FailedAfter F c r (16 + min n 8)

/-- The failures that cannot hide a commit: the record is not the one after the last
generation; its read-back does not fail; and a program of it that fails leaves no record behind. -/
structure CommitSafe (F : Faults iflash) (fs : FsInst) (m : Memory) (call : FsCall) :
    Prop where
  generation : forall c r, inForce m = some (c, r) -> r.generation < firmwareErasedWord
  readBack : forall n, ¬ F.fails (.read (fsMetaAddr (targetOf m)) 24) n
  torn : forall k, FailedAfter F (targetOf m) (requestedRecord fs call) k ->
    metaParse (torn (requestedRecord fs call) k) = none

/-- The states a session reaches from any flash: the store is created, then called in any
order, each call with its own failures and its own staging content. -/
inductive FsSession (crypto : OtaCrypto) : FsInst -> Memory -> Prop where
  | created {F : Faults iflash} {base : Nat} {m m' : Memory} {fs : FsInst} :
      Program.Exec internalFlash F (firmwareStoreCreate base) m (some (some fs)) m' ->
      FsSession crypto fs m'
  | called {F : Faults storeIo} {fs fs' : FsInst} {m m' : Memory} {call : FsCall}
      {answer : FsAnswer} {t t' : (qspiFlash.sum cryptoDevice).State} :
      FsSession crypto fs m ->
      (IsBootControl call -> Requests fs call -> CommitSafe F.left fs m call) ->
      Program.Exec storeDevice F (fsPerform crypto fs call) (m, t) (some (answer, fs')) (m', t') ->
      FsSession crypto fs' m'

/-- The record in RAM is the one in force. -/
structure Synced (fs : FsInst) (m : Memory) : Prop where
  inv : StoreInv fs
  fsMeta : fs.fsMeta = fsMetaIn m
  state : fs.boot.otaCapable = true ->
    exists c r, inForce m = some (c, r) ∧ fs.boot.state = firmwareBootState r.bootState

section

variable {F : Faults iflash} {m m' : Memory} {fs fs' : FsInst} {call : FsCall}
variable {crypto : OtaCrypto}

theorem fsMetaIn_some {c : Nat} {r : FirmwareBootMeta} (h : inForce m = some (c, r)) :
    fsMetaIn m = fsMetaOf c r := by
  unfold fsMetaIn
  rw [h]

theorem fsMetaIn_congr (h : inForce m' = inForce m) : fsMetaIn m' = fsMetaIn m := by
  unfold fsMetaIn
  rw [h]

theorem Synced.legalBanks (h : Synced fs m) : LegalBanks fs := by
  intro hota
  rcases h.state hota with ⟨c, r, hforce, _⟩
  have hvalid := inForce_valid hforce
  rw [h.fsMeta, fsMetaIn_some hforce]
  exact ⟨hvalid.2.2.1, hvalid.2.2.2.1⟩

theorem created_synced (m : Memory) (base : Nat) : Synced (createdStore m base) m where
  inv := createdStore_inv m base
  fsMeta := rfl
  state := by
    intro hota
    change otaCapable _ (fsMetaIn m) = true at hota
    unfold otaCapable at hota
    have hselected := (of_decide_eq_true hota).2.1
    rcases inForce_cases m with ⟨hnone, _⟩ | ⟨c, r, hsome, _, _⟩
    · have hmeta : fsMetaIn m = fsMetaAbsent := by
        unfold fsMetaIn
        rw [hnone]
      rw [hmeta] at hselected
      exact absurd rfl hselected
    · refine ⟨c, r, hsome, ?_⟩
      change (if (fsMetaIn m).selected ≠ fsMetaNone then firmwareBootState (fsMetaIn m).bootState
        else .confirmed) = _
      rw [if_pos hselected, fsMetaIn_some hsome]
      rfl

theorem Synced.quiet (h : Synced fs m) (hquiet : Quiet fs fs') (hforce : inForce m' = inForce m) :
    Synced fs' m' where
  inv := hquiet.inv
  fsMeta := by
    rw [hquiet.kept.2, h.fsMeta, fsMetaIn_congr hforce]
  state := by
    rw [hquiet.kept.1, hforce]
    exact h.state

theorem requestedRecord_valid (hlegal : LegalBanks fs) (hrequests : Requests fs call) :
    RecordIsValid (requestedRecord fs call) ∧ (requestedRecord fs call).pad = firmwareErasedWord ∧
      (requestedRecord fs call).generation = fsMetaNextGeneration fs.fsMeta := by
  cases call with
  | activate =>
      exact ⟨fsMetaRecord_valid (fsBankFromSlot_legal _) (fsBankFromSlot_legal _)
        metaStateLegal_trialPending, rfl, rfl⟩
  | confirm =>
      have hbanks := hlegal hrequests.1
      exact ⟨fsMetaRecord_valid hbanks.1 hbanks.2 metaStateLegal_confirmed, rfl, rfl⟩
  | rollback =>
      have hbanks := hlegal hrequests.1
      exact ⟨fsMetaRecord_valid hbanks.2 hbanks.1 metaStateLegal_rolledBack, rfl, rfl⟩
  | acknowledgeRollback =>
      have hbanks := hlegal hrequests.1
      exact ⟨fsMetaRecord_valid hbanks.1 hbanks.2 metaStateLegal_confirmed, rfl, rfl⟩
  | _ => exact hrequests.elim

theorem Synced.newer (h : Synced fs m) (hrequests : Requests fs call)
    (hgeneration : forall c r, inForce m = some (c, r) -> r.generation < firmwareErasedWord) :
    forall c r, inForce m = some (c, r) ->
      r.generation < (requestedRecord fs call).generation := by
  rw [(requestedRecord_valid h.legalBanks hrequests).2.2, h.fsMeta, fsMetaNextGeneration_eq]
  exact recordNextGeneration_newer hgeneration

theorem Synced.inForce_recorded (h : Synced fs m) (hrequests : Requests fs call)
    (hgeneration : forall c r, inForce m = some (c, r) -> r.generation < firmwareErasedWord) :
    inForce (written m (fsMetaTarget fs.fsMeta) (requestedRecord fs call) 24) =
      some (targetOf m, requestedRecord fs call) := by
  rw [h.fsMeta, fsMetaTarget_eq]
  exact inForce_writtenAll (requestedRecord_valid h.legalBanks hrequests).1
    (h.newer hrequests hgeneration)

theorem Synced.inForce_failed (h : Synced fs m) (hsafe : CommitSafe F fs m call)
    (hexit : WriteExit F m (fsMetaTarget fs.fsMeta) (requestedRecord fs call) false m') :
    inForce m' = inForce m := by
  rw [h.fsMeta, fsMetaTarget_eq] at hexit
  have hother : forall c, c < 2 -> c ≠ targetOf m -> copyAt m' c = copyAt m c :=
    fun c hc hne => copyAt_otherPage hexit.midway.sameOutside (targetOf_lt m) hc hne
  cases hexit with
  | eraseFailed n _ => exact inForce_kept hother (copyAt_erased m _ _)
  | bodyFailed n hfail =>
      have hcopy := copyAt_written m (targetOf m) (requestedRecord fs call) (k := min n 16)
        (by omega)
      rw [hsafe.torn _ (.body n hfail)] at hcopy
      exact inForce_kept hother (.inl hcopy)
  | tailFailed n hfail =>
      have hcopy := copyAt_written m (targetOf m) (requestedRecord fs call) (k := 16 + min n 8)
        (by omega)
      rw [hsafe.torn _ (.tail n hfail)] at hcopy
      exact inForce_kept hother (.inl hcopy)
  | readFailed n hfail => exact absurd hfail (hsafe.readBack n)

theorem inForce_descErased (slot : FirmwareSlot) (n : Nat) (hn : n <= 2048) :
    inForce (m.erase (fsDescAddr slot) n) = inForce m := by
  have hsame : SameBut m (descArea slot) (m.erase (fsDescAddr slot) n) := by
    intro x hx
    apply Memory.erase_sameOutside
    unfold descArea at hx
    omega
  exact inForce_sameBut hsame fun x hx => Nat.le_trans (fsDescAddr_le slot).1 hx.1

theorem firmwareBootState_confirmed {r : FirmwareBootMeta} (hvalid : RecordIsValid r)
    (h : firmwareBootState r.bootState = .confirmed) :
    r.bootState = firmwareMetaStateConfirmed := by
  unfold firmwareBootState at h
  by_cases hpending : r.bootState = firmwareMetaStateTrialPending
  · rw [if_pos hpending] at h
    cases h
  · rw [if_neg hpending] at h
    by_cases hrunning : r.bootState = firmwareMetaStateTrialRunning
    · rw [if_pos hrunning] at h
      cases h
    · rw [if_neg hrunning] at h
      by_cases hrolled : r.bootState = firmwareMetaStateRolledBack
      · rw [if_pos hrolled] at h
        cases h
      · have hlo := hvalid.2.2.2.2.1
        have hhi := hvalid.2.2.2.2.2
        rw [ge_iff_le, UInt8.le_iff_toNat_le] at hlo
        rw [UInt8.le_iff_toNat_le] at hhi
        rw [← UInt8.toNat_inj] at hpending hrunning hrolled ⊢
        change 1 <= r.bootState.toNat at hlo
        change r.bootState.toNat <= 4 at hhi
        change ¬ r.bootState.toNat = 2 at hpending
        change ¬ r.bootState.toNat = 3 at hrunning
        change ¬ r.bootState.toNat = 4 at hrolled
        change r.bootState.toNat = 1
        omega

theorem Synced.bootCall (h : Synced fs m) {err : FirmwareStoreErr}
    (hsafe : Requests fs call -> CommitSafe F fs m call)
    (hexit : BootCallExit F m fs call err fs' m') :
    (err ≠ .ok ∧ inForce m' = inForce m ∧ fs' = fs) ∨
      (err = .ok ∧ ¬ Requests fs call ∧ fs.boot.otaCapable = true ∧
        fs.boot.state = .confirmed ∧ inForce m' = inForce m ∧ fs' = fs) ∨
      (Requests fs call ∧ inForce m' = some (targetOf m, requestedRecord fs call) ∧
        fs' = recorded fs call ∧ (err = .ok ∨ (err = .flashErase ∧ Settles call ∧
          exists n, F.fails (.erasePage (fsDescAddr (leftSlot fs))) n))) := by
  cases hexit with
  | idle hnot hok =>
      by_cases herr : err = .ok
      · exact .inr (.inl ⟨herr, hnot, (hok herr).2.1, (hok herr).2.2, rfl, rfl⟩)
      · exact .inl ⟨herr, rfl, rfl⟩
  | failed hrequests herr hwrite =>
      exact .inl ⟨herr, h.inForce_failed (hsafe hrequests) hwrite, rfl⟩
  | done hrequests _ =>
      exact .inr (.inr ⟨hrequests, h.inForce_recorded hrequests
        (hsafe hrequests).generation, rfl, .inl rfl⟩)
  | settled hrequests _ =>
      refine .inr (.inr ⟨hrequests, ?_, rfl, .inl rfl⟩)
      rw [inForce_descErased _ _ (Nat.le_refl _)]
      exact h.inForce_recorded hrequests (hsafe hrequests).generation
  | unsettled n hrequests hsettles hfail =>
      refine .inr (.inr ⟨hrequests, ?_, rfl, .inr ⟨rfl, hsettles, n, hfail⟩⟩)
      rw [inForce_descErased _ _ (Nat.min_le_right _ _)]
      exact h.inForce_recorded hrequests (hsafe hrequests).generation

theorem recorded_inv (hinv : StoreInv fs) (hcall : IsBootControl call) :
    StoreInv (recorded fs call) := by
  cases call with
  | activate =>
      apply StoreInv.of_notAccepted
      rw [accepted_of_eq .activated rfl]
      decide
  | confirm => exact ⟨hinv.target, hinv.length, hinv.page⟩
  | rollback => exact ⟨hinv.target, hinv.length, hinv.page⟩
  | acknowledgeRollback => exact ⟨hinv.target, hinv.length, hinv.page⟩
  | _ => exact hcall.elim

theorem recorded_meta (fs : FsInst) (hcall : IsBootControl call) :
    (recorded fs call).fsMeta = fsMetaOf (fsMetaTarget fs.fsMeta) (requestedRecord fs call) ∧
      (recorded fs call).boot.state = firmwareBootState (requestedRecord fs call).bootState := by
  cases call with
  | activate => exact ⟨rfl, rfl⟩
  | confirm => exact ⟨rfl, rfl⟩
  | rollback => exact ⟨rfl, rfl⟩
  | acknowledgeRollback => exact ⟨rfl, rfl⟩
  | _ => exact hcall.elim

theorem Synced.called (h : Synced fs m) {G : Faults storeIo} {answer : FsAnswer}
    {t t' : (qspiFlash.sum cryptoDevice).State}
    (hsafe : IsBootControl call -> Requests fs call -> CommitSafe G.left fs m call)
    (hexec : Program.Exec storeDevice G (fsPerform crypto fs call) (m, t) (some (answer, fs'))
      (m', t')) : Synced fs' m' := by
  by_cases hcall : IsBootControl call
  · have hexit : BootCallExit G.left m fs call answer.err fs' m' :=
      wp_returns (wp_bootControl hcall h.legalBanks) hexec
    rcases h.bootCall (hsafe hcall) hexit with ⟨_, hforce, hfs⟩ | ⟨_, _, _, _, hforce, hfs⟩ |
      ⟨hrequests, hforce, hfs, _⟩
    · subst hfs
      exact h.quiet ⟨.refl fs', h.inv⟩ hforce
    · subst hfs
      exact h.quiet ⟨.refl fs', h.inv⟩ hforce
    · subst hfs
      have hmeta := recorded_meta fs hcall
      refine ⟨recorded_inv h.inv hcall, ?_, fun _ => ⟨_, _, hforce, hmeta.2⟩⟩
      rw [fsMetaIn_some hforce, hmeta.1, h.fsMeta, fsMetaTarget_eq]
  · have hquiet := wp_returns (wp_storeWithin (within_quiet crypto call h.inv
      (by rintro rfl; exact hcall trivial) (by rintro rfl; exact hcall trivial)
      (by rintro rfl; exact hcall trivial) (by rintro rfl; exact hcall trivial))) hexec
    apply h.quiet hquiet.1
    refine inForce_sameBut hquiet.2 fun x hx => ?_
    cases call with
    | installBegin => exact targetArea_le hx
    | installStep => exact targetArea_le hx
    | begin _ _ => exact hx.elim
    | resume _ _ => exact hx.elim
    | writeChunk _ _ => exact hx.elim
    | discard => exact hx.elim
    | verify => exact hx.elim
    | activate => exact (hcall trivial).elim
    | confirm => exact (hcall trivial).elim
    | rollback => exact (hcall trivial).elim
    | acknowledgeRollback => exact (hcall trivial).elim

theorem FsSession.synced (h : FsSession crypto fs m) : Synced fs m := by
  induction h with
  | created hexec =>
      rename_i F base m m' fs
      have hread := wp_returns (reads_firmwareStoreCreate F m base) hexec
      rcases hread with ⟨hsame, hfs | ⟨hnone, _⟩⟩
      · subst hsame
        cases hfs
        exact created_synced m' base
      · cases hnone
  | called _ hsafe hexec ih => exact ih.called hsafe hexec

end

/-- In every session with such failures, a boot-control call that reports an error leaves the
record both sides select and the cached state as they were, or only failed to erase the descriptor
after its commit, and its record is in force on flash and in RAM; one that reports success leaves
its own record selected (none is written when the state is confirmed already). -/
theorem reported_is_what_boots {crypto : OtaCrypto} {fs fs' : FsInst} {m m' : Memory}
    {F : Faults storeIo} {call : FsCall} {answer : FsAnswer}
    {t t' : (qspiFlash.sum cryptoDevice).State} {boot : BootRecord}
    (hsession : FsSession crypto fs m) (hcall : IsBootControl call)
    (hsafe : Requests fs call -> CommitSafe F.left fs m call)
    (hexec : Program.Exec storeDevice F (fsPerform crypto fs call) (m, t)
      (some (answer, fs')) (m', t')) (hboot : BothSelect m boot) :
    (answer.err ≠ .ok -> (BothSelect m' boot ∧ fs'.boot.state = fs.boot.state) ∨
        (answer.err = .flashErase ∧ Settles call ∧ Requests fs call ∧
          (exists n, F.left.fails (.erasePage (fsDescAddr (leftSlot fs))) n) ∧
          BothSelect m' (some (recordTarget boot, requestedRecord fs call)) ∧
          fs'.boot.state = .confirmed)) ∧
      (answer.err = .ok ->
        (Requests fs call ∧ BothSelect m' (some (recordTarget boot, requestedRecord fs call))) ∨
        (¬ Requests fs call ∧ BothSelect m' boot ∧
          exists c r, boot = some (c, r) ∧ r.bootState = firmwareMetaStateConfirmed)) := by
  have hsynced := hsession.synced
  have hforce := bothSelect_iff.mp hboot
  subst hforce
  have hexit : BootCallExit F.left m fs call answer.err fs' m' :=
    wp_returns (wp_bootControl hcall hsynced.legalBanks) hexec
  rcases hsynced.bootCall hsafe hexit with ⟨herr, hkept, hfs⟩ |
    ⟨hok, hnot, hota, hstate, hkept, hfs⟩ |
    ⟨hrequests, hnew, hfs, hok | ⟨herr, hsettles, hfails⟩⟩
  · refine ⟨fun _ => .inl ⟨bothSelect_iff.mpr hkept, ?_⟩, fun hok => absurd hok herr⟩
    rw [hfs]
  · refine ⟨fun herr => absurd hok herr, fun _ => .inr ⟨hnot, bothSelect_iff.mpr hkept, ?_⟩⟩
    rcases hsynced.state hota with ⟨c, r, hforce, hboot⟩
    exact ⟨c, r, hforce, firmwareBootState_confirmed (inForce_valid hforce)
      (hboot.symm.trans hstate)⟩
  · refine ⟨fun herr => absurd hok herr, fun _ => .inl ⟨hrequests, ?_⟩⟩
    rw [targetOf_eq]
    exact bothSelect_iff.mpr hnew
  · refine ⟨fun _ => .inr ⟨herr, hsettles, hrequests, hfails, ?_, ?_⟩, fun hok => ?_⟩
    · rw [targetOf_eq]
      exact bothSelect_iff.mpr hnew
    · rw [hfs]
      cases call <;> first | rfl | exact hsettles.elim
    · rw [herr] at hok
      cases hok

/-!
## A trial confirmed
-/

theorem exec_confirm (crypto : OtaCrypto) {F : Faults storeIo} {m m' : Memory}
    {t : (qspiFlash.sum cryptoDevice).State} {fs : FsInst} {err : FirmwareStoreErr}
    (hlegal : LegalBanks fs) (hrequests : Requests fs .confirm)
    (herase : Program.Exec internalFlash F.left (fsDescErase (leftSlot fs))
      (written m (fsMetaTarget fs.fsMeta) (requestedRecord fs .confirm) 24) (some err) m') :
    Program.Exec storeDevice F (fsPerform crypto fs .confirm) (m, t)
      (some (⟨err, none, false⟩, recorded fs .confirm)) (m', t) := by
  have hbanks := hlegal hrequests.1
  have hwrite := fsMetaWrite_eval (m := m) 0 fs.fsMeta hbanks.1 hbanks.2 metaStateLegal_confirmed
  have hsettle : Program.Exec storeDevice F (settleConfirmed fs) (m, t)
      (some (err, recorded fs .confirm)) (m', t) := by
    unfold settleConfirmed
    apply Program.Exec.bind (Program.exec_inLeft (Program.exec_of_eval hwrite))
    dsimp only
    rw [if_neg (by simp)]
    exact Program.Exec.bind (Program.exec_inLeft herase) (.ret _ _)
  have hconfirm : doConfirm fs = settleConfirmed fs := by
    unfold doConfirm
    rw [if_neg (by rw [hrequests.1]; simp), if_neg (by rw [hrequests.2]; simp),
      if_pos hrequests.2]
  change Program.Exec storeDevice F (doConfirm fs >>= _) _ _ _
  rw [hconfirm]
  exact Program.Exec.bind hsettle (.ret _ _)

/-- A trial of slot B. -/
def trialRunningRecord : FirmwareBootMeta :=
  fsMetaRecord firmwareBankB firmwareMetaStateTrialRunning firmwareBankA 0 1

/-- A library that accepts nothing. -/
def noCrypto : OtaCrypto where
  sha256 := fun _ => []
  ecdsaP256Verify := fun _ _ => false

def blankStaging : (qspiFlash.sum cryptoDevice).State :=
  (fun _ => erasedByte, ())

/-- The instance in the trial. -/
def trialStore : FsInst :=
  createdStore (deviceFlash .b trialRunningRecord) firmwareSlotBBase

theorem trialStore_facts :
    inForce (deviceFlash .b trialRunningRecord) = some (0, trialRunningRecord) ∧
      FsSession noCrypto trialStore (deviceFlash .b trialRunningRecord) ∧
      Requests trialStore .confirm ∧ trialStore.fsMeta = fsMetaOf 0 trialRunningRecord := by
  have hvalid : RecordIsValid trialRunningRecord :=
    fsMetaRecord_valid (.inr rfl) (.inl rfl) metaStateLegal_trialRunning
  have hforce := inForce_deviceFlash .b hvalid
  have hcapable := createdStore_capable hforce (by decide)
  have hcreated := (reads_firmwareStoreCreate (Faults.never iflash)
    (deviceFlash .b trialRunningRecord) firmwareSlotBBase).eval_eq
  exact ⟨hforce, .created (F := Faults.never iflash) (Program.exec_of_eval hcreated), ⟨hcapable.1, hcapable.2.1⟩,
    fsMetaIn_some hforce⟩

/-- The descriptor erase behind the new record fails and does nothing. -/
theorem exec_unsettled {F : Faults storeIo}
    (hfails : F.left.fails (.erasePage (fsDescAddr (leftSlot trialStore))) 0) :
    exists m', Program.Exec storeDevice F (fsPerform noCrypto trialStore .confirm)
        (deviceFlash .b trialRunningRecord, blankStaging)
        (some (⟨.flashErase, none, false⟩, recorded trialStore .confirm)) (m', blankStaging) ∧
      inForce m' = some (1, requestedRecord trialStore .confirm) := by
  rcases trialStore_facts with ⟨hforce, hsession, hrequests, hmeta⟩
  have hsynced := hsession.synced
  have herase : Program.Exec internalFlash F.left (fsDescErase (leftSlot trialStore))
      (written (deviceFlash .b trialRunningRecord) (fsMetaTarget trialStore.fsMeta)
        (requestedRecord trialStore .confirm) 24) (some .flashErase) _ :=
    .failed (n := 0) hfails (.ret _ _)
  refine ⟨_, exec_confirm noCrypto (t := blankStaging) hsynced.legalBanks hrequests herase, ?_⟩
  have hpart : iflashErasePart (fsDescAddr (leftSlot trialStore)) 0
      (written (deviceFlash .b trialRunningRecord) (fsMetaTarget trialStore.fsMeta)
        (requestedRecord trialStore .confirm) 24) =
      (written (deviceFlash .b trialRunningRecord) (fsMetaTarget trialStore.fsMeta)
        (requestedRecord trialStore .confirm) 24).erase (fsDescAddr (leftSlot trialStore))
        (min 0 2048) := if_pos (eraseAccepted_desc _)
  have htarget : targetOf (deviceFlash .b trialRunningRecord) = 1 := by
    rw [← targetOf_eq, hforce]
    rfl
  change inForce (iflashErasePart _ 0 _) = _
  rw [hpart, inForce_descErased _ _ (by omega), ← htarget]
  apply hsynced.inForce_recorded hrequests
  intro c r hsome
  rw [hforce] at hsome
  cases hsome
  decide

/-- A confirm that reports a failed erase has put its record in force. -/
theorem failed_confirm_takes_effect :
    BothSelect (deviceFlash .b trialRunningRecord) (some (0, trialRunningRecord)) ∧
    FsSession noCrypto trialStore (deviceFlash .b trialRunningRecord) ∧
    exists fs' m', Program.Exec storeDevice (Faults.always storeIo)
        (fsPerform noCrypto trialStore .confirm)
        (deviceFlash .b trialRunningRecord, blankStaging)
        (some (⟨.flashErase, none, false⟩, fs')) (m', blankStaging) ∧
      ¬ BothSelect m' (some (0, trialRunningRecord)) ∧
      fs'.boot.state ≠ trialStore.boot.state := by
  rcases trialStore_facts with ⟨hforce, hsession, hrequests, hmeta⟩
  rcases exec_unsettled (F := Faults.always storeIo) trivial with ⟨m', hexec, hnew⟩
  refine ⟨bothSelect_iff.mpr hforce, hsession, _, m', hexec, ?_, ?_⟩
  · intro hsame
    rw [bothSelect_iff.mp hsame] at hnew
    cases hnew
  · rw [hrequests.2]
    change FirmwareBootState.confirmed ≠ .trialRunning
    decide

/-- The descriptor erase may fail, nothing else. -/
def eraseMayFail : Faults storeIo where
  fails := fun op _ => op = .inl (.erasePage (fsDescAddr (leftSlot trialStore)))
  cuts := fun _ _ => False

theorem eraseMayFail_safe :
    CommitSafe eraseMayFail.left trialStore (deviceFlash .b trialRunningRecord) .confirm := by
  refine ⟨?_, fun _ h => (by cases h), ?_⟩
  · intro c r hsome
    rw [trialStore_facts.1] at hsome
    cases hsome
    decide
  · intro k hfailed
    cases hfailed with
    | body n h => cases h
    | tail n h => cases h

/-- A confirm whose descriptor erase succeeds, and one whose erase fails. -/
theorem reported_is_what_boots_confirm :
    (exists fs' m', Program.Exec storeDevice eraseMayFail (fsPerform noCrypto trialStore .confirm)
        (deviceFlash .b trialRunningRecord, blankStaging)
        (some (⟨.ok, none, false⟩, fs')) (m', blankStaging) ∧
      BothSelect m' (some (1, requestedRecord trialStore .confirm))) ∧
    exists fs' m', Program.Exec storeDevice eraseMayFail (fsPerform noCrypto trialStore .confirm)
        (deviceFlash .b trialRunningRecord, blankStaging)
        (some (⟨.flashErase, none, false⟩, fs')) (m', blankStaging) ∧
      BothSelect m' (some (1, requestedRecord trialStore .confirm)) ∧
      fs'.boot.state = .confirmed := by
  rcases trialStore_facts with ⟨hforce, hsession, hrequests, hmeta⟩
  have hsynced := hsession.synced
  constructor
  · have hexec := exec_confirm noCrypto (F := eraseMayFail)
      (m := deviceFlash .b trialRunningRecord) (t := blankStaging) hsynced.legalBanks hrequests
      (Program.exec_eval internalFlash _ (fsDescErase (leftSlot trialStore)) _)
    have herase : ((fsDescErase (leftSlot trialStore)).eval internalFlash
        (written (deviceFlash .b trialRunningRecord) (fsMetaTarget trialStore.fsMeta)
          (requestedRecord trialStore .confirm) 24)).1 = .ok :=
      Program.wp_never_iff.mp ((wp_fsDescErase (C := fun _ => True)
        (Q := fun err _ => err = .ok)).mpr ⟨rfl, fun _ h => h.elim, fun _ _ => trivial⟩)
    rw [herase] at hexec
    have hreport := reported_is_what_boots hsession (by exact trivial)
      (fun _ => eraseMayFail_safe) hexec (bothSelect_iff.mpr hforce)
    rcases hreport.2 rfl with ⟨_, hnew⟩ | ⟨hnot, _⟩
    · exact ⟨_, _, hexec, hnew⟩
    · exact absurd hrequests hnot
  · rcases exec_unsettled (F := eraseMayFail) rfl with ⟨m', hexec, hnew⟩
    have hreport := reported_is_what_boots hsession (by exact trivial)
      (fun _ => eraseMayFail_safe) hexec (bothSelect_iff.mpr hforce)
    rcases hreport.1 (fun h => by cases h) with ⟨hsame, _⟩ | ⟨_, _, _, _, hboth, hstate⟩
    · rw [bothSelect_iff.mp hsame] at hnew
      cases hnew
    · exact ⟨_, m', hexec, hboth, hstate⟩

end EnvMonitor.Gateway.FirmwareStore
