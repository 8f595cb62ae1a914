import EnvMonitor.Gateway.CircularFlashLog.Failures
import EnvMonitor.Gateway.CircularFlashLog.OnFlash

/-!
# Power cuts

Sessions of the log on a flash that never reports a failure, each ended by a reset or by a
loss of power between two flash primitives or inside a page program.  A ledger says, from
the calls and their answers alone, which records were stored and consumed; the flash
agrees with it at every boot.
-/

namespace EnvMonitor.Gateway.CircularFlashLog

open Device Drivers
open Program (wp_bind wp_crash wp_mono wp_of_uses wp_returns wp_seq)

/-!
## Runs
-/

/-- Power may be lost before or after any primitive, and inside a page program. -/
def cutFaults : Faults qspi where
  fails := fun _ _ => False
  cuts := fun op n =>
    match op with
    | .read _ _ => True
    | .writePage _ _ => True
    | .eraseSector _ => n = 0 ∨ cflSectorSizeBytes <= n

theorem cutFaults_neverFails : cutFaults.NeverFails :=
  fun _ _ h => h

/-- The flash, and the instance while the gateway is up. -/
structure LogState where
  flash : Memory
  inst : Option CflInst

inductive CutAction where
  | create
  | returned (call : CflCall) (err : CflErr)
  | interrupted (call : CflCall)
  | reset
  deriving DecidableEq, Repr

/-- The head sector the metadata on the flash names. -/
def persistedHead (m : Memory) : Nat :=
  match ((cflMetaLoad cflInstZero).eval qspiFlash m).1 with
  | some inst => inst.headSector
  | none => 0

/-- The sector an append writes its record to. -/
def callSector (inst : CflInst) : CflCall -> Nat
  | .append data =>
      if inst.tailOffset + cflRecordSize data.length > cflSectorSizeBytes then
        cflNextSector inst.tailSector
      else
        inst.tailSector
  | .peek _ => inst.tailSector
  | .consume => inst.tailSector
  | .drop => inst.tailSector

/-- What a step did, the sector of its record if it is an append, and the persisted head
before and after. -/
structure CutEvent where
  action : CutAction
  sector : Nat
  headBefore : Nat
  headAfter : Nat
  deriving DecidableEq, Repr

inductive CutStep : LogState -> CutEvent -> LogState -> Prop where
  | create {m m' : Memory} {inst : CflInst} :
      Program.Exec qspiFlash cutFaults cflCreate m (some (some inst)) m' ->
      CutStep ⟨m, none⟩ ⟨.create, 0, persistedHead m, persistedHead m'⟩ ⟨m', some inst⟩
  | createCut {m m' : Memory} :
      Program.Exec qspiFlash cutFaults cflCreate m none m' ->
      CutStep ⟨m, none⟩ ⟨.reset, 0, persistedHead m, persistedHead m'⟩ ⟨m', none⟩
  | call {m m' : Memory} {inst inst' : CflInst} {call : CflCall} {answer : CflAnswer} :
      Program.Exec qspiFlash cutFaults (cflPerform inst call) m (some (answer, inst')) m' ->
      CutStep ⟨m, some inst⟩
        ⟨.returned call answer.err, callSector inst call, persistedHead m, persistedHead m'⟩
        ⟨m', some inst'⟩
  | callCut {m m' : Memory} {inst : CflInst} {call : CflCall} :
      Program.Exec qspiFlash cutFaults (cflPerform inst call) m none m' ->
      CutStep ⟨m, some inst⟩
        ⟨.interrupted call, callSector inst call, persistedHead m, persistedHead m'⟩
        ⟨m', none⟩
  | reset {m : Memory} {inst : CflInst} :
      CutStep ⟨m, some inst⟩ ⟨.reset, 0, persistedHead m, persistedHead m⟩ ⟨m, none⟩

/-- Steps from states that meet a condition. -/
inductive CutRun (Ok : LogState -> Prop) : LogState -> List CutEvent -> LogState -> Prop where
  | done (s : LogState) : CutRun Ok s [] s
  | step {s s₁ s' : LogState} {event : CutEvent} {events : List CutEvent} :
      Ok s -> CutStep s event s₁ -> CutRun Ok s₁ events s' ->
      CutRun Ok s (event :: events) s'

/-- The complete records `cfl_scan_sector` counts in a sector. -/
def sectorCount (m : Memory) (sector : Nat) : Nat :=
  match ((cflScanSector sector 0 false).eval qspiFlash m).1 with
  | some scan => scan.count
  | none => 0

/-- The persisted head sector begins with a complete record, or no sector does. -/
def HeadHasRecords (m : Memory) : Prop :=
  sectorCount m (persistedHead m) ≠ 0 ∨ forall i, i < 254 -> sectorCount m i = 0

/-- At a boot the head sector has records; before a call the metadata sequence number can
still count up. -/
def BootsOnRecords (s : LogState) : Prop :=
  match s.inst with
  | none => HeadHasRecords s.flash
  | some inst => inst.metaSeqNum + 1 < 2 ^ 32

/-!
## The ledger
-/

/-- Records in the order of their appends; how many were consumed, how many lie in sectors
the persisted head has left, and how many are behind the read position of the session. -/
structure Ledger where
  log : List LogEntry
  consumed : Nat
  left : Nat
  front : Nat
  deriving DecidableEq, Repr

namespace Ledger

def start : Ledger where
  log := []
  consumed := 0
  left := 0
  front := 0

def append (L : Ledger) (data : List UInt8) (sector : Nat) : Ledger :=
  { L with log := L.log ++ [⟨data, sector⟩] }

/-- Reading starts at the persisted head sector again. -/
def boot (L : Ledger) : Ledger :=
  { L with front := L.left }

def consume (L : Ledger) : Ledger :=
  { L with front := L.front + 1, consumed := max L.consumed (L.front + 1) }

/-- The persisted head leaves the records of its sector. -/
def moveHead (L : Ledger) (headBefore headAfter : Nat) : Ledger :=
  if headAfter = headBefore then
    L
  else
    { L with
      left := L.left + ((L.log.drop L.left).takeWhile fun e => e.sector == headBefore).length }

end Ledger

/-- What an action may do to the ledger: an interrupted call may have had its effect. -/
def LedgerAction (L : Ledger) (sector : Nat) : CutAction -> Ledger -> Prop
  | .create, L' => L' = L.boot
  | .reset, L' => L' = L
  | .returned (.append data) err, L' =>
      (err = .ok ∧ L' = L.append data sector) ∨ (err ≠ .ok ∧ L' = L)
  | .returned (.peek _) _, L' => L' = L
  | .returned .consume err, L' => (err = .ok ∧ L' = L.consume) ∨ (err ≠ .ok ∧ L' = L)
  | .returned .drop err, L' => (err = .ok ∧ L' = L.consume) ∨ (err ≠ .ok ∧ L' = L)
  | .interrupted (.append data), L' => L' = L ∨ L' = L.append data sector
  | .interrupted (.peek _), L' => L' = L
  | .interrupted .consume, L' => L' = L ∨ L' = L.consume
  | .interrupted .drop, L' => L' = L ∨ L' = L.consume

def LedgerStep (L : Ledger) (event : CutEvent) (L' : Ledger) : Prop :=
  LedgerAction (L.moveHead event.headBefore event.headAfter) event.sector event.action L'

def LedgerRun : Ledger -> List CutEvent -> Ledger -> Prop
  | L, [], L' => L' = L
  | L, event :: events, L' => exists L₁, LedgerStep L event L₁ ∧ LedgerRun L₁ events L'

/-!
## The flash agrees with the ledger
-/

/-- What the flash holds, whether the gateway is up or down. -/
structure Stored (R : Ring) (inst : CflInst) (d : Nat) (L : Ledger) (nextSeq : Nat) :
    Prop where
  head : HeadStored R inst
  flash : OnFlash R inst.headSector d L.log L.left nextSeq
  left_le : L.left <= L.consumed
  consumed_le : L.consumed <= L.log.length
  consumed_head : L.consumed <= L.left + (R.recs inst.headSector).length

/-- What holds while the gateway is down; `inst` stands for the metadata. -/
def Down (m : Memory) (L : Ledger) : Prop :=
  exists R inst d nextSeq, Holds m R ∧ Stored R inst d L nextSeq

/-- The session's read position agrees with the ledger's. -/
structure Reading (q : List Rec) (L : Ledger) : Prop where
  queue : q.map Rec.payload = (L.log.drop L.front).map LogEntry.payload
  left_le : L.left <= L.front
  front_le : L.front <= L.consumed

/-- What holds between two calls of a session. -/
structure Up (m : Memory) (R : Ring) (inst : CflInst) (d : Nat) (q : List Rec) (L : Ledger) :
    Prop where
  sim : Sim m R inst
  session : Session R inst q
  held : Stored R inst d L inst.nextSeqNum
  tail : inst.tailSector = (inst.headSector + d) % 254
  reading : Reading q L

def LedgerHolds (s : LogState) (L : Ledger) : Prop :=
  match s.inst with
  | none => Down s.flash L
  | some inst => exists R d q, Up s.flash R inst d q L

section Agreement

variable {m m' : Memory} {R R' : Ring} {inst inst' : CflInst} {d nextSeq : Nat} {L : Ledger}
variable {q : List Rec} {data : List UInt8} {new : Rec}

theorem persistedHead_eq (hm : Holds m R) (h : HeadStored R inst) :
    persistedHead m = inst.headSector := by
  have hload := (reads_cflMetaLoad (F := Faults.never qspi) hm.slots).eval_eq
  unfold persistedHead
  rw [hload]
  exact h.loaded.1

theorem sectorCount_eq (hm : Holds m R) {i : Nat} (hi : i < 254) :
    sectorCount m i = (R.recs i).length := by
  have hscan := (reads_cflScanSector_joins (F := Faults.never qspi) 0 false hi (hm.sectors i hi) (fun _ _ h => by cases h)).eval_eq
  unfold sectorCount
  rw [hscan]
  exact Nat.zero_add _

theorem Stored.down (h : Stored R inst d L nextSeq) (hm : Holds m R) : Down m L :=
  ⟨R, inst, d, nextSeq, hm, h⟩

theorem Stored.congr (h : Stored R inst d L nextSeq) (hrecs : R'.recs = R.recs)
    (hhead : HeadStored R' inst') (hsector : inst'.headSector = inst.headSector) :
    Stored R' inst' d L nextSeq where
  head := hhead
  flash := by
    rw [hsector]
    exact h.flash.congr hrecs
  left_le := h.left_le
  consumed_le := h.consumed_le
  consumed_head := by
    rw [hsector, hrecs]
    exact h.consumed_head

variable {k : Nat} {s s' : LogState} {events : List CutEvent}

theorem takeWhile_sector {h : Nat} (hk : k < 254) :
    ((entries R h (k + 1)).takeWhile fun e => e.sector == h) = sectorEntries R h := by
  have hothers : forall e, e ∈ entries R (cflNextSector h) k -> (e.sector == h) = false := by
    intro e he
    rcases List.mem_flatMap.mp he with ⟨j, hj, hej⟩
    rcases List.mem_map.mp hej with ⟨r, _, hr⟩
    rcases (mem_ringFrom (cflNextSector_lt h)).mp hj with ⟨i, hi, hji⟩
    rw [← hr]
    rw [cflNextSector_eq] at hji
    apply beq_eq_false_iff_ne.mpr
    change j ≠ h
    omega
  have hhead : forall e, e ∈ sectorEntries R h -> (e.sector == h) = true := by
    intro e he
    rcases List.mem_map.mp he with ⟨r, _, hr⟩
    rw [← hr]
    exact beq_self_eq_true h
  rw [entries_succ, List.takeWhile_append_of_pos hhead]
  cases hrest : entries R (cflNextSector h) k with
  | nil => simp
  | cons e rest =>
      have he := hothers e (by rw [hrest]; exact List.mem_cons_self ..)
      rw [List.takeWhile_cons, he]
      simp

theorem Stored.moveHead (h : Stored R inst d L nextSeq) {headAfter : Nat}
    (hne : headAfter ≠ inst.headSector) :
    L.moveHead inst.headSector headAfter =
      { L with left := L.left + (R.recs inst.headSector).length } := by
  unfold Ledger.moveHead
  rw [if_neg hne, ← h.flash.spans.covers,
    takeWhile_sector h.flash.spans.dist_lt, sectorEntries_length]

theorem Ledger.moveHead_same {head : Nat} : L.moveHead head head = L :=
  if_pos rfl

theorem Stored.length (h : Stored R inst d L nextSeq) :
    (joined R inst.headSector (d + 1)).length = L.log.length - L.left := by
  have hcovers := congrArg (fun l => (l.map LogEntry.payload).length) h.flash.spans.covers
  simp only [entries_payload, List.length_map, List.length_drop] at hcovers
  exact hcovers

theorem Up.length (h : Up m R inst d q L) : q.length = L.log.length - L.front := by
  have hqueue := congrArg List.length h.reading.queue
  simp only [List.length_map, List.length_drop] at hqueue
  exact hqueue

theorem Up.down (h : Up m R inst d q L) : Down m L :=
  h.held.down h.sim.holds

theorem Up.headStored (h : Up m R inst d q L) : persistedHead m = inst.headSector :=
  persistedHead_eq h.sim.holds h.held.head

/-!
## Writing a record
-/

/-- Everything but the record is in place. -/
structure Ready (R : Ring) (inst : CflInst) (d : Nat) (L : Ledger) : Prop where
  head : HeadStored R inst
  spans : Spans R inst.headSector d L.log L.left inst.nextSeqNum
  tail : inst.tailSector = (inst.headSector + d) % 254
  left_le : L.left <= L.consumed
  consumed_le : L.consumed <= L.log.length
  consumed_head : L.consumed <= L.left + (R.recs inst.headSector).length

theorem Stored.ready (h : Stored R inst d L inst.nextSeqNum)
    (htail : inst.tailSector = (inst.headSector + d) % 254) : Ready R inst d L :=
  ⟨h.head, h.flash.spans, htail, h.left_le, h.consumed_le, h.consumed_head⟩

theorem Ready.write (h : Ready R inst d L) (hnext : IsNext inst data new) :
    Stored (withNext R inst new) (appended inst data.length) d
      (L.append data inst.tailSector) (u32 (inst.nextSeqNum + 1)) := by
  have hwrite := h.spans.write hnext.1
  rw [← h.tail, hnext.2] at hwrite
  constructor
  · exact h.head.appended new data.length
  · exact hwrite
  · exact h.left_le
  · change L.consumed <= (L.log ++ [_]).length
    rw [List.length_append]
    exact Nat.le_add_right_of_le h.consumed_le
  · have hle : (R.recs inst.headSector).length <=
        ((withNext R inst new).recs inst.headSector).length := by
      by_cases hsame : inst.headSector = inst.tailSector
      · rw [withNext, hsame, Ring.setRecs_same, List.length_append]
        exact Nat.le_add_right _ _
      · rw [withNext, Ring.setRecs_other hsame]
    exact Nat.le_trans h.consumed_head (Nat.add_le_add_left hle _)

theorem Ready.cut {back : CflInst} {n : Nat} (h : Ready R inst d L) (hback : Stored R back k L n)
    (hhead : back.headSector = inst.headSector) (hexit : WriteExit cutFaults R inst data none R')
    (hm : Holds m' R') :
    persistedHead m' = inst.headSector ∧
      (Down m' L ∨ Down m' (L.append data inst.tailSector)) := by
  cases hexit with
  | cut _ =>
      constructor
      · rw [persistedHead_eq hm hback.head, hhead]
      · left
        exact hback.down hm
  | cutDone new hnext _ =>
      have hwrite := h.write hnext
      constructor
      · exact (persistedHead_eq hm hwrite.head :)
      · right
        exact hwrite.down hm

/-!
## Appending
-/

theorem Reading.append (h : Reading q L) (hfront : L.front <= L.log.length)
    (hnew : new.payload = data) (sector : Nat) :
    Reading (q ++ [new]) (L.append data sector) where
  queue := by
    change (q ++ [new]).map Rec.payload = ((L.log ++ [_]).drop L.front).map LogEntry.payload
    rw [List.drop_append_of_le_length hfront, List.map_append, List.map_append, h.queue]
    simp [hnew]
  left_le := h.left_le
  front_le := h.front_le

theorem Up.front_le (h : Up m R inst d q L) : L.front <= L.log.length :=
  Nat.le_trans h.reading.front_le h.held.consumed_le

theorem Up.empty (h : Up m R inst d q L) (hzero : inst.entryCount = 0) :
    q = [] ∧ d = 0 ∧ L.front = L.log.length ∧ L.consumed = L.log.length := by
  have hq := h.session.length_zero_iff.mp hzero
  have hlen := h.length
  have hfront := h.front_le
  have hread := h.reading.front_le
  have hconsumed := h.held.consumed_le
  rw [hq, List.length_nil] at hlen
  refine ⟨hq, ?_, by omega, by omega⟩
  cases h.session.layout with
  | inl hparked =>
      have hsector := hparked.2.sector
      have htail := h.tail
      have hlt := h.held.flash.spans.head_lt
      have hd := h.held.flash.spans.dist_lt
      omega
  | inr hfull =>
      rcases hfull with ⟨_, k, pre, r, post, hlay⟩
      have hqueue := hlay.queue
      rw [hq] at hqueue
      simp at hqueue

theorem Up.room (h : Up m R inst d q L) (hfull : ¬ RingFull inst) : d + 1 < 254 := by
  by_cases hzero : inst.entryCount = 0
  · have hd := (h.empty hzero).2.1
    omega
  · have hne : cflNextSector inst.tailSector ≠ inst.headSector := fun heq => hfull ⟨heq, hzero⟩
    have htail := h.tail
    have hlt := h.held.flash.spans.head_lt
    have hd := h.held.flash.spans.dist_lt
    rw [cflNextSector_eq] at hne
    omega

theorem Up.nextSector (h : Up m R inst d q L) :
    cflNextSector inst.tailSector = (inst.headSector + (d + 1)) % 254 := by
  rw [h.tail, next_of_tail]

theorem Up.erase (h : Up m R inst d q L) (hroom : d + 1 < 254) :
    Stored (nextErased R inst) inst d L inst.nextSeqNum := by
  have herase := h.held.flash.erase hroom
  have hlt := h.held.flash.spans.head_lt
  rw [← h.nextSector] at herase
  constructor
  · exact h.held.head.congr rfl rfl rfl rfl rfl
  · exact herase
  · exact h.held.left_le
  · exact h.held.consumed_le
  · have hsame : (nextErased R inst).recs inst.headSector = R.recs inst.headSector := by
      apply Ring.setRecs_other
      rw [h.nextSector]
      omega
    rw [hsame]
    exact h.held.consumed_head

theorem Up.advance (h : Up m R inst d q L) (hroom : d + 1 < 254)
    (hne : inst.entryCount ≠ 0) : Ready (nextErased R inst) (advanced inst) (d + 1) L := by
  have herase := h.erase hroom
  have hfull : R.recs ((inst.headSector + d) % 254) ≠ [] := by
    rw [← h.tail]
    cases h.session.layout with
    | inl hparked => exact absurd (h.session.length_zero_iff.mpr hparked.1) hne
    | inr hlay => exact hlay.1
  have hadvance := h.held.flash.advance hroom hfull
  rw [← h.nextSector] at hadvance
  constructor
  · exact herase.head.congr rfl rfl rfl rfl rfl
  · exact hadvance
  · exact h.nextSector
  · exact herase.left_le
  · exact herase.consumed_le
  · exact herase.consumed_head

/-- The instance of a drained ring whose head moved into the erased sector. -/
def restarted (inst : CflInst) : CflInst :=
  headOnTail (advanced inst)

theorem Up.restart_old (h : Up m R inst d q L) (hroom : d + 1 < 254) :
    HeadStored (nextErased R inst) (withHead (restarted inst) inst.headSector) :=
  (h.erase hroom).head.congr rfl rfl rfl rfl rfl

theorem Up.restart (h : Up m R inst d q L) (hroom : d + 1 < 254) (hzero : inst.entryCount = 0)
    (hseq : inst.metaSeqNum + 1 < 2 ^ 32) :
    Stored ((nextErased R inst).setSlot (targetSlot (restarted inst))
        (some (headEntry (restarted inst)))) (stored (restarted inst)) 0
      (L.moveHead inst.headSector (cflNextSector inst.tailSector)) inst.nextSeqNum ∧
      L.moveHead inst.headSector (cflNextSector inst.tailSector) =
        { L with left := L.log.length } := by
  rcases h.empty hzero with ⟨hq, hd, hfront, hconsumed⟩
  have hlt := h.held.flash.spans.head_lt
  have hne : cflNextSector inst.tailSector ≠ inst.headSector := by
    rw [h.nextSector]
    omega
  have hlen := h.held.length
  have hleft := h.held.flash.spans.left_le
  have hmove : L.moveHead inst.headSector (cflNextSector inst.tailSector) =
      { L with left := L.log.length } := by
    rw [h.held.moveHead hne]
    rw [hd, joined_succ] at hlen
    simp only [joined, ringFrom, List.flatMap_nil, List.append_nil] at hlen
    have hall : L.left + (R.recs inst.headSector).length = L.log.length := by omega
    rw [hall]
  have hrestart := h.held.flash.restart hroom
  rw [← h.nextSector] at hrestart
  constructor
  · rw [hmove]
    constructor
    · exact (h.restart_old hroom).stored hseq
    · exact hrestart.congr rfl
    · exact Nat.le_of_eq hconsumed.symm
    · exact h.held.consumed_le
    · exact Nat.le_trans h.held.consumed_le (Nat.le_add_right _ _)
  · exact hmove

theorem recordSector_here (hneeds : ¬ NeedsSector inst data) :
    callSector inst (.append data) = inst.tailSector :=
  if_neg hneeds

theorem recordSector_next (hneeds : NeedsSector inst data) :
    callSector inst (.append data) = cflNextSector inst.tailSector :=
  if_pos hneeds

theorem PersistExit.restarted_ok {err : CflErr} (hlt : inst.tailSector < 254)
    (hhead : inst.headSector = inst.tailSector)
    (hexit : PersistExit cutFaults (nextErased R inst) inst.headSector (restarted inst)
      (some (err, inst')) R') :
    inst' = CircularFlashLog.stored (restarted inst) ∧
      R' = (nextErased R inst).setSlot (targetSlot (restarted inst))
        (some (headEntry (restarted inst))) := by
  cases hexit with
  | same hsame =>
      have hnext : cflNextSector inst.tailSector = inst.headSector := hsame
      rw [hhead] at hnext
      exact absurd hnext.symm (cflNextSector_ne hlt)
  | stores _ _ _ hmeta =>
      cases hmeta with
      | stored => exact ⟨rfl, rfl⟩
      | failed _ _ _ _ hfail =>
          rcases hfail with ⟨_, _, _, hn⟩
          exact hn.elim

theorem Up.append (h : Up m R inst d q L) (hseq : inst.metaSeqNum + 1 < 2 ^ 32)
    {out : CflErr × CflInst} (hexit : AppendExit cutFaults R inst data (some out) R')
    (hsim : Sim m' R' out.2) :
    exists L' d' q',
      LedgerAction (L.moveHead inst.headSector out.2.headSector)
        (callSector inst (.append data)) (.returned (.append data) out.1) L' ∧
      Up m' R' out.2 d' q' L' := by
  have hsession := h.session.append h.sim
    (appendSafe_of_neverFails cutFaults_neverFails inst data) hexit hsim.holds
  -- refused: nothing changed
  have hrefused : forall err, err ≠ .ok -> Sim m' R inst ->
      exists L' d' q', LedgerAction (L.moveHead inst.headSector inst.headSector)
        (callSector inst (.append data)) (.returned (.append data) err) L' ∧
        Up m' R inst d' q' L' := by
    intro err herr hsame
    refine ⟨L, d, q, .inr ⟨herr, Ledger.moveHead_same.symm⟩, ?_⟩
    exact ⟨hsame, h.session, h.held, h.tail, h.reading⟩
  -- written: the record is behind the others
  have hwritten : forall {R₁ : Ring} {inst₁ : CflInst} {d₁ : Nat} {L₁ : Ledger},
      Ready R₁ inst₁ d₁ L₁ -> L₁.front <= L₁.log.length -> Reading q L₁ ->
      callSector inst (.append data) = inst₁.tailSector ->
      L.moveHead inst.headSector inst₁.headSector = L₁ ->
      WriteExit cutFaults R₁ inst₁ data (some out) R' ->
      exists L' d' q', LedgerAction (L.moveHead inst.headSector out.2.headSector)
        (callSector inst (.append data)) (.returned (.append data) out.1) L' ∧
        Up m' R' out.2 d' q' L' := by
    intro R₁ inst₁ d₁ L₁ hready hfront hread hsector hmove hwrite
    cases hwrite with
    | done new hnext =>
        rcases hsession with ⟨_, stored, hpayload, hafter⟩ | ⟨herr, _⟩
        · refine ⟨L₁.append data inst₁.tailSector, d₁, q ++ [stored], .inl ⟨rfl, ?_⟩, ?_⟩
          · change _ = (L.moveHead inst.headSector inst₁.headSector).append data _
            rw [hsector, hmove]
          · exact ⟨hsim, hafter, hready.write hnext, hready.tail,
              hread.append hfront hpayload _⟩
        · exact absurd rfl herr
    | failed hfail =>
        rcases hfail with ⟨_, _, _, hn⟩
        exact hn.elim
    | failedDone _ _ hfail =>
        rcases hfail with ⟨_, _, _, hn, _⟩
        exact hn.elim
  cases hexit with
  | tooLarge _ => exact hrefused _ (by simp) hsim
  | full _ _ _ => exact hrefused _ (by simp) hsim
  | here _ _ _ hneeds hwrite =>
      exact hwritten (h.held.ready h.tail) h.front_le h.reading (recordSector_here hneeds)
        Ledger.moveHead_same hwrite
  | eraseFailed _ _ _ _ _ hfail =>
      rcases hfail with ⟨_, _, hn⟩
      exact hn.elim
  | advance _ _ _ hneeds hfull hne hwrite =>
      exact hwritten (h.advance (h.room hfull) hne) h.front_le h.reading
        (recordSector_next hneeds) Ledger.moveHead_same hwrite
  | moveFailed _ _ _ _ _ _ herr hmove =>
      exact absurd (hmove.ok_of_neverFails cutFaults_neverFails) herr
  | moveDone _ _ _ _ _ hneeds hzero hmove hwrite =>
      rcases h.empty hzero with ⟨_, hd, hfront, hconsumed⟩
      have hlt := h.sim.head_lt
      have hhead : inst.headSector = inst.tailSector := by
        rw [h.tail, hd]
        omega
      rcases hmove.restarted_ok h.sim.tail_lt hhead with ⟨hinst, hR⟩
      have hrestart := h.restart (by omega) hzero hseq
      subst hinst
      subst hR
      refine hwritten ⟨hrestart.1.head, hrestart.1.flash.spans, ?_, hrestart.1.left_le,
        hrestart.1.consumed_le, hrestart.1.consumed_head⟩ ?_ ?_ (recordSector_next hneeds) rfl
        hwrite
      · exact (Nat.mod_eq_of_lt (cflNextSector_lt _)).symm
      · rw [hrestart.2]
        exact h.front_le
      · rw [hrestart.2]
        exact ⟨h.reading.queue, Nat.le_of_eq hfront.symm, h.reading.front_le⟩

theorem Up.append_cut (h : Up m R inst d q L) (hseq : inst.metaSeqNum + 1 < 2 ^ 32)
    (hexit : AppendExit cutFaults R inst data none R') (hm : Holds m' R') :
    exists L', LedgerAction (L.moveHead inst.headSector (persistedHead m'))
        (callSector inst (.append data)) (.interrupted (.append data)) L' ∧ Down m' L' := by
  have hkept : forall {R₁ : Ring} {back : CflInst} {k n : Nat}, Stored R₁ back k L n ->
      back.headSector = inst.headSector -> Holds m' R₁ ->
      exists L', LedgerAction (L.moveHead inst.headSector (persistedHead m'))
        (callSector inst (.append data)) (.interrupted (.append data)) L' ∧ Down m' L' := by
    intro R₁ back k n hstored hhead hholds
    refine ⟨L, .inl ?_, hstored.down hholds⟩
    rw [persistedHead_eq hholds hstored.head, hhead, Ledger.moveHead_same]
  have hwritten : forall {R₁ : Ring} {inst₁ back : CflInst} {d₁ k n : Nat} {L₁ : Ledger},
      Ready R₁ inst₁ d₁ L₁ -> Stored R₁ back k L₁ n -> back.headSector = inst₁.headSector ->
      callSector inst (.append data) = inst₁.tailSector ->
      L.moveHead inst.headSector inst₁.headSector = L₁ ->
      WriteExit cutFaults R₁ inst₁ data none R' ->
      exists L', LedgerAction (L.moveHead inst.headSector (persistedHead m'))
        (callSector inst (.append data)) (.interrupted (.append data)) L' ∧ Down m' L' := by
    intro R₁ inst₁ back d₁ k n L₁ hready hback hhead hsector hmove hwrite
    rcases hready.cut hback hhead hwrite hm with ⟨hpersisted, hdown⟩
    rw [hpersisted, hmove, hsector]
    cases hdown with
    | inl hnone => exact ⟨_, .inl rfl, hnone⟩
    | inr hdone => exact ⟨_, .inr rfl, hdone⟩
  cases hexit with
  | here _ _ _ hneeds hwrite =>
      exact hwritten (h.held.ready h.tail) h.held rfl (recordSector_here hneeds)
        Ledger.moveHead_same hwrite
  | eraseCut rs _ _ hfull hrs _ =>
      cases hrs with
      | inl hold =>
          rw [hold, Ring.setRecs_self] at hm
          exact hkept h.held rfl hm
      | inr hnil =>
          rw [hnil] at hm
          exact hkept (h.erase (h.room hfull)) rfl hm
  | advance _ _ _ hneeds hfull hne hwrite =>
      have hroom := h.room hfull
      exact hwritten (h.advance hroom hne) (h.erase hroom) rfl (recordSector_next hneeds)
        Ledger.moveHead_same hwrite
  | moveCut _ _ _ hzero hmove =>
      have hd := (h.empty hzero).2.1
      have hroom : d + 1 < 254 := by omega
      have hrestart := h.restart hroom hzero hseq
      cases hmove with
      | stores _ _ _ hmeta =>
          cases hmeta with
          | cut x hx _ =>
              cases (h.restart_old hroom).torn hseq hx with
              | inl hold =>
                  have hback : Stored ((nextErased R inst).setSlot (targetSlot (restarted inst)) x)
                      (withHead (restarted inst) inst.headSector) d L inst.nextSeqNum :=
                    (h.erase hroom).congr rfl hold rfl
                  exact hkept hback rfl hm
              | inr hnew =>
                  have hstored : Stored ((nextErased R inst).setSlot (targetSlot (restarted inst)) x)
                      (CircularFlashLog.stored (restarted inst)) 0
                      (L.moveHead inst.headSector (cflNextSector inst.tailSector))
                      inst.nextSeqNum :=
                    hrestart.1.congr rfl hnew rfl
                  refine ⟨_, .inl rfl, ?_⟩
                  rw [persistedHead_eq hm hstored.head]
                  exact hstored.down hm
  | moveDone _ _ _ _ _ hneeds hzero hmove hwrite =>
      have hd := (h.empty hzero).2.1
      have hlt := h.sim.head_lt
      have hhead : inst.headSector = inst.tailSector := by
        rw [h.tail, hd]
        omega
      rcases hmove.restarted_ok h.sim.tail_lt hhead with ⟨hinst, hR⟩
      have hrestart := h.restart (by omega) hzero hseq
      subst hinst
      subst hR
      refine hwritten ⟨hrestart.1.head, hrestart.1.flash.spans, ?_, hrestart.1.left_le,
        hrestart.1.consumed_le, hrestart.1.consumed_head⟩ hrestart.1 rfl
        (recordSector_next hneeds) rfl hwrite
      exact (Nat.mod_eq_of_lt (cflNextSector_lt _)).symm

/-!
## Consuming
-/

theorem Reading.consume {r : Rec} {rest : List Rec} (h : Reading (r :: rest) L) :
    rest.map Rec.payload = (L.consume.log.drop L.consume.front).map LogEntry.payload := by
  have htail := congrArg List.tail h.queue
  rw [List.map_cons, List.tail_cons, ← List.map_tail, List.tail_drop] at htail
  exact htail

section Oldest

variable {r : Rec} {rest pre post : List Rec}

theorem Up.layout (h : Up m R inst d (r :: rest) L) :
    inst.entryCount ≠ 0 ∧ R.recs inst.tailSector ≠ [] ∧
      exists pre post, Layout R inst (r :: rest) d pre r post := by
  rcases h.session.nonempty with ⟨hcount, hfull, k, pre, post, hlay⟩
  have hsame : k = d := by
    have hlt := hlay.head_lt
    have hk := hlay.dist_lt
    have hd := h.held.flash.spans.dist_lt
    have htail := hlay.tail
    rw [h.tail] at htail
    omega
  rw [hsame] at hlay
  exact ⟨hcount, hfull, pre, post, hlay⟩

theorem Up.front_eq (h : Up m R inst d (r :: rest) L)
    (hlay : Layout R inst (r :: rest) d pre r post) : L.front = L.left + pre.length := by
  have hall := h.held.length
  have hqueue := congrArg List.length hlay.queue
  have hlen := h.length
  have hfront := h.front_le
  have hleft := h.held.flash.spans.left_le
  rw [joined_succ, hlay.atHead.split] at hall
  simp only [List.length_append, List.length_cons] at hall hqueue hlen
  omega

theorem Up.behind (h : Up m R inst d (r :: rest) L)
    (hlay : Layout R inst (r :: rest) d pre r post) :
    Stored R inst d L.consume inst.nextSeqNum := by
  have hfront := h.front_eq hlay
  have hlen := h.length
  have hhead := h.held.consumed_head
  have hlog := h.held.consumed_le
  have hleft := h.held.left_le
  have hrecs : (R.recs inst.headSector).length = pre.length + (post.length + 1) := by
    rw [hlay.atHead.split, List.length_append, List.length_cons]
  rw [List.length_cons] at hlen
  constructor
  · exact h.held.head
  · exact h.held.flash
  · exact Nat.le_trans hleft (Nat.le_max_left _ _)
  · change max L.consumed (L.front + 1) <= L.log.length
    omega
  · change max L.consumed (L.front + 1) <= L.left + _
    omega

theorem Reading.passed (h : Reading (r :: rest) L) : Reading rest L.consume where
  queue := h.consume
  left_le := Nat.le_succ_of_le h.left_le
  front_le := Nat.le_max_right _ _

theorem Up.nextHead (h : Up m R inst d (r :: rest) L)
    (hlay : Layout R inst (r :: rest) d pre r []) (hrest : rest ≠ []) (n : Nat) :
    exists k, d = k + 1 ∧
      OnFlash R (headOnNext (passed inst r.size n)).headSector k L.log
        (L.left + (R.recs inst.headSector).length) inst.nextSeqNum := by
  cases d with
  | zero =>
      have hqueue := hlay.queue
      simp [joined, ringFrom] at hqueue
      exact absurd hqueue hrest
  | succ k => exact ⟨k, rfl, h.held.flash.leave⟩

variable {n : Nat}

theorem headOnNext_ne (hlt : inst.headSector < 254) :
    (headOnNext (passed inst r.size n)).headSector ≠ inst.headSector :=
  (cflNextSector_ne hlt).symm

theorem Up.oldHead (h : Up m R inst d (r :: rest) L) (n : Nat) :
    HeadStored R (withHead (headOnNext (passed inst r.size n)) inst.headSector) :=
  h.held.head.congr rfl rfl rfl rfl rfl

theorem Up.leave (h : Up m R inst d (r :: rest) L) (hlay : Layout R inst (r :: rest) d pre r [])
    (hrest : rest ≠ []) {x : Option (Nat × Nat)}
    (hstored : HeadStored (R.setSlot (targetSlot (headOnNext (passed inst r.size n))) x)
      (stored (headOnNext (passed inst r.size n)))) :
    exists k, d = k + 1 ∧
      Stored (R.setSlot (targetSlot (headOnNext (passed inst r.size n))) x)
        (stored (headOnNext (passed inst r.size n))) k
        (L.moveHead inst.headSector (cflNextSector inst.headSector)).consume
        inst.nextSeqNum ∧
      Reading rest (L.moveHead inst.headSector (cflNextSector inst.headSector)).consume := by
  rcases h.nextHead hlay hrest n with ⟨k, hk, hflash⟩
  have hlt := h.held.flash.spans.head_lt
  have hmove := h.held.moveHead (cflNextSector_ne hlt).symm
  have hfront := h.front_eq hlay
  have hrecs : (R.recs inst.headSector).length = pre.length + 1 := by
    rw [hlay.atHead.split, List.length_append, List.length_cons, List.length_nil]
  have hread := h.reading.passed
  have hconsumed := h.held.consumed_head
  have hlog := h.held.consumed_le
  have hlen := h.length
  rw [List.length_cons] at hlen
  have hall : max L.consumed (L.front + 1) = L.left + (R.recs inst.headSector).length := by
    omega
  refine ⟨k, hk, ?_, ?_⟩
  · rw [hmove]
    constructor
    · exact hstored
    · exact hflash.congr rfl
    · change _ <= max L.consumed (L.front + 1)
      exact Nat.le_of_eq hall.symm
    · change max L.consumed (L.front + 1) <= L.log.length
      omega
    · change max L.consumed (L.front + 1) <= L.left + (R.recs inst.headSector).length + _
      rw [hall]
      exact Nat.le_add_right _ _
  · rw [hmove]
    constructor
    · exact hread.queue
    · change L.left + (R.recs inst.headSector).length <= L.front + 1
      omega
    · exact hread.front_le

theorem Layout.drained (hlay : Layout R inst [r] d pre r post) (hfull : R.recs inst.tailSector ≠ [])
    : inst.headSector = inst.tailSector := by
  have hlt := hlay.head_lt
  have htail := hlay.tail
  have hqueue := hlay.queue
  cases d with
  | zero => omega
  | succ k =>
      have hlast : (cflNextSector inst.headSector + k) % 254 = inst.tailSector := by
        rw [htail, cflNextSector_eq]
        omega
      rw [joined_snoc R (cflNextSector_lt _), hlast] at hqueue
      simp at hqueue
      exact absurd hqueue.2.2 hfull

theorem Up.consume (h : Up m R inst d (r :: rest) L)
    (hlay : Layout R inst (r :: rest) d pre r post) (hfull : R.recs inst.tailSector ≠ [])
    (hseq : inst.metaSeqNum + 1 < 2 ^ 32) {out : CflErr × CflInst}
    (hexit : ConsumeExit cutFaults R inst r post (some out) R') (hsim : Sim m' R' out.2) :
    out.1 = .ok ∧ exists k,
      Up m' R' out.2 k rest (L.moveHead inst.headSector out.2.headSector).consume := by
  have hok := hexit.ok_of_neverFails cutFaults_neverFails
  have hlt := h.held.flash.spans.head_lt
  have hcount := h.session.count
  rw [List.length_cons] at hcount
  have hsession : Session R' out.2 rest := by
    rcases h.session.consume h.sim hfull hlay
      (consumeSafe_of_neverFails cutFaults_neverFails m inst) hexit with hafter | ⟨herr, _⟩
    · exact hafter
    · exact absurd hok herr
  refine ⟨hok, ?_⟩
  cases hexit with
  | readFailed hfail =>
      rcases hfail with ⟨_, hn⟩
      exact hn.elim
  | advances _ _ hadvance =>
      cases hadvance with
      | drains _ _ hzero hpersist =>
          have hrest : rest = [] := by
            have hzero' : inst.entryCount - 1 = 0 := hzero
            exact List.length_eq_zero_iff.mp (by omega)
          subst hrest
          have hhead := hlay.drained hfull
          cases hpersist with
          | same _ =>
              change exists k, Up m' R _ k [] (L.moveHead inst.headSector inst.tailSector).consume
              rw [← hhead, Ledger.moveHead_same]
              have hbehind := h.behind hlay
              have hzeroDist : d = 0 := by
                have htail := h.tail
                have hd := h.held.flash.spans.dist_lt
                omega
              subst hzeroDist
              refine ⟨0, hsim, hsession, hbehind.congr rfl ?_ hhead.symm, ?_, h.reading.passed⟩
              · exact h.held.head.congr rfl rfl rfl rfl hhead.symm
              · exact (Nat.mod_eq_of_lt h.sim.tail_lt).symm
          | stores _ _ hne _ => exact absurd hhead.symm hne
      | moreFailed _ hfail =>
          rcases hfail with ⟨_, hn⟩
          exact hn.elim
      | stays _ _ _ _ hpersist =>
          cases hpersist with
          | same _ =>
              change exists k, Up m' R _ k rest (L.moveHead inst.headSector inst.headSector).consume
              rw [Ledger.moveHead_same]
              refine ⟨d, hsim, hsession, (h.behind hlay).congr rfl ?_ rfl, h.tail,
                h.reading.passed⟩
              exact h.held.head.congr rfl rfl rfl rfl rfl
          | stores _ _ hne _ => exact absurd rfl hne
      | next _ _ hpos hlast hpersist =>
          have hpost : post = [] := by simpa using hlast
          subst hpost
          have hrest : rest ≠ [] := by
            intro hnil
            have hpos' : inst.entryCount - 1 ≠ 0 := hpos
            rw [hnil, List.length_nil] at hcount
            omega
          cases hpersist with
          | same hsame => exact absurd hsame (headOnNext_ne hlt)
          | stores _ _ _ hmeta =>
              cases hmeta with
              | stored =>
                  rcases h.leave hlay hrest ((h.oldHead _).stored hseq) with
                    ⟨k, hk, hleave, hread⟩
                  refine ⟨k, hsim, hsession, hleave, ?_, hread⟩
                  change inst.tailSector = (cflNextSector inst.headSector + k) % 254
                  rw [h.tail, hk, cflNextSector_eq]
                  omega
              | failed _ _ _ _ hfail =>
                  rcases hfail with ⟨_, _, _, hn⟩
                  exact hn.elim

theorem Up.consume_cut (h : Up m R inst d (r :: rest) L)
    (hlay : Layout R inst (r :: rest) d pre r post) (hfull : R.recs inst.tailSector ≠ [])
    (hseq : inst.metaSeqNum + 1 < 2 ^ 32)
    (hexit : ConsumeExit cutFaults R inst r post none R') (hm : Holds m' R') :
    exists L', (L' = L.moveHead inst.headSector (persistedHead m') ∨
      L' = (L.moveHead inst.headSector (persistedHead m')).consume) ∧ Down m' L' := by
  have hlt := h.held.flash.spans.head_lt
  have hcount := h.session.count
  rw [List.length_cons] at hcount
  have hkept : forall {R₁ : Ring} {back : CflInst}, Stored R₁ back d L inst.nextSeqNum ->
      back.headSector = inst.headSector -> Holds m' R₁ ->
      exists L', (L' = L.moveHead inst.headSector (persistedHead m') ∨
        L' = (L.moveHead inst.headSector (persistedHead m')).consume) ∧ Down m' L' := by
    intro R₁ back hstored hhead hholds
    refine ⟨L, .inl ?_, hstored.down hholds⟩
    rw [persistedHead_eq hholds hstored.head, hhead, Ledger.moveHead_same]
  cases hexit with
  | readCut _ => exact hkept h.held rfl hm
  | advances _ _ hadvance =>
      cases hadvance with
      | drains _ _ hzero hpersist =>
          have hrest : rest = [] := by
            have hzero' : inst.entryCount - 1 = 0 := hzero
            exact List.length_eq_zero_iff.mp (by omega)
          subst hrest
          have hhead := hlay.drained hfull
          cases hpersist with
          | stores _ _ hne _ => exact absurd hhead.symm hne
      | moreCut _ => exact hkept h.held rfl hm
      | stays _ _ _ _ hpersist =>
          cases hpersist with
          | stores _ _ hne _ => exact absurd rfl hne
      | next _ _ hpos hlast hpersist =>
          have hpost : post = [] := by simpa using hlast
          subst hpost
          have hrest : rest ≠ [] := by
            intro hnil
            have hpos' : inst.entryCount - 1 ≠ 0 := hpos
            rw [hnil, List.length_nil] at hcount
            omega
          cases hpersist with
          | stores _ _ _ hmeta =>
              cases hmeta with
              | cut x hx _ =>
                  cases (h.oldHead _).torn hseq hx with
                  | inl hold =>
                      have hback : Stored
                          (R.setSlot (targetSlot (headOnNext (passed inst r.size _))) x)
                          (withHead (headOnNext (passed inst r.size _)) inst.headSector) d L
                          inst.nextSeqNum :=
                        h.held.congr rfl hold rfl
                      exact hkept hback rfl hm
                  | inr hnew =>
                      rcases h.leave hlay hrest hnew with ⟨k, _, hleave, _⟩
                      refine ⟨_, .inr ?_, hleave.down hm⟩
                      rw [persistedHead_eq hm hleave.head]
                      rfl

end Oldest

/-!
## Booting
-/

theorem Stored.booted {i : CflInst} (h : Stored R i d L nextSeq) (hm : Holds m R)
    (hhead : inst.headSector = i.headSector) (hbooted : Booted R inst k) (hok : HeadHasRecords m) :
    exists d', OnFlash R inst.headSector d' L.log L.left inst.nextSeqNum ∧
      inst.tailSector = (inst.headSector + d') % 254 ∧
      (joined R inst.headSector k).map Rec.payload = (L.log.drop L.left).map LogEntry.payload := by
  have hflash := h.flash
  have hlt := hflash.spans.head_lt
  have hcount := sectorCount_eq hm hlt
  have hcovers := congrArg (List.map LogEntry.payload) hflash.spans.covers
  rw [entries_payload] at hcovers
  rw [← hhead] at hflash hlt hcount hcovers
  unfold HeadHasRecords at hok
  rw [persistedHead_eq hm h.head, ← hhead] at hok
  by_cases hne : R.recs inst.headSector = []
  · -- no sector has a record
    have hall : forall j, j < 254 -> R.recs j = [] := by
      intro j hj
      cases hok with
      | inl hpos =>
          rw [hcount, hne] at hpos
          exact absurd rfl hpos
      | inr hzero =>
          have hj' := hzero j hj
          rw [sectorCount_eq hm hj] at hj'
          exact List.length_eq_zero_iff.mp hj'
    have hjoined : forall first n, first < 254 -> joined R first n = [] := by
      intro first n hfirst
      apply List.flatMap_eq_nil_iff.mpr
      intro j hj
      exact hall j (ringFrom_lt hfirst hj)
    have hdist : d = 0 := by
      by_contra hd
      exact hflash.tail hd (hall _ (Nat.mod_lt _ (by decide)))
    have hk : k = 0 := by
      cases k with
      | zero => rfl
      | succ k => exact absurd hne (hbooted.joins.nonempty _ (List.mem_cons_self ..))
    subst hdist
    subst hk
    have hseq : inst.nextSeqNum = 0 := hbooted.nextSeqNum
    refine ⟨0, ⟨⟨hlt, hflash.spans.dist_lt, hflash.spans.covers, hflash.spans.left_le,
      hflash.spans.full, ?_⟩, hflash.tail⟩, ?_, ?_⟩
    · constructor
      · exact hflash.spans.chain.consecutive
      · intro hsome
        exact absurd (hjoined _ _ (cflNextSector_lt _)) hsome
    · have htail : inst.tailSector = inst.headSector := hbooted.tailSector
      rw [htail]
      exact (Nat.mod_eq_of_lt hlt).symm
    · rw [← hcovers, hjoined _ _ hlt, hjoined _ _ hlt]
  · -- the scan joins the sectors up to the tail
    have hk := hflash.booted hm hbooted hne
    subst hk
    rcases hflash.suffix with ⟨before, hround⟩
    have hrest : joined R inst.headSector (d + 1) ≠ [] := hbooted.joins.ne_nil (Nat.succ_pos d)
    have hnext := hflash.spans.chain.next (by rw [hround]; simp [hrest])
    rw [hround, lastSeq_suffix hrest] at hnext
    have hseq := hbooted.nextSeqNum
    rw [if_pos (Nat.succ_pos d), ← hnext] at hseq
    rw [hseq]
    exact ⟨d, hflash, hbooted.tailSector, hcovers⟩

theorem Down.boot (h : Down m L) (hok : HeadHasRecords m)
    (hexec : Program.Exec qspiFlash cutFaults cflCreate m (some (some inst)) m') :
    m' = m ∧ exists R d q, Up m R inst d q L.boot := by
  rcases h with ⟨R, i, d, nextSeq, hm, hstored⟩
  rcases create_exec hm hexec with ⟨hsame, ⟨k, hbooted⟩, hsim⟩
  rcases hstored.head.loaded with ⟨hheadLoaded, hslot, hseq, hvalid⟩
  have hhead : inst.headSector = i.headSector := hbooted.headSector.trans hheadLoaded
  rcases hstored.booted hm hhead hbooted hok with ⟨d', hflash, htail, hqueue⟩
  refine ⟨hsame, R, d', joined R inst.headSector k, hsim, hbooted.session hsim, ?_, htail,
    hqueue, Nat.le_refl _, hstored.left_le⟩
  constructor
  · exact hstored.head.congr rfl (hbooted.metaSlot.trans hslot) (hbooted.metaSeqNum.trans hseq)
      (hbooted.metaSlotValid.trans hvalid) hhead
  · exact hflash
  · exact hstored.left_le
  · exact hstored.consumed_le
  · rw [hhead]
    exact hstored.consumed_head

/-!
## Runs keep the agreement
-/

theorem createCut_same (hm : Holds m R)
    (hexec : Program.Exec qspiFlash cutFaults cflCreate m none m') : m' = m := by
  rcases reads_cflCreate cutFaults hm with ⟨_, _, hreads, _, _⟩
  exact wp_crash hreads hexec

theorem Up.wp_append (h : Up m R inst d q L) (hseq : inst.metaSeqNum + 1 < 2 ^ 32)
    (data : List UInt8) :
    (cflAppend inst data).wp qspiFlash cutFaults
      (fun out m' => exists L', LedgerAction (L.moveHead inst.headSector out.2.headSector)
        (callSector inst (.append data)) (.returned (.append data) out.1) L' ∧
        LedgerHolds ⟨m', some out.2⟩ L')
      (fun m' => exists L', LedgerAction (L.moveHead inst.headSector (persistedHead m'))
        (callSector inst (.append data)) (.interrupted (.append data)) L' ∧ Down m' L') m := by
  apply wp_mono _ _ (wp_cflAppend h.sim data)
  · intro out m' hout
    rcases hout with ⟨R', hexit, hsim⟩
    rcases h.append hseq hexit hsim with ⟨L', d', q', haction, hup⟩
    exact ⟨L', haction, R', d', q', hup⟩
  · intro m' hout
    rcases hout with ⟨R', hexit, hm⟩
    exact h.append_cut hseq hexit hm

theorem Up.wp_consume (h : Up m R inst d q L) (hseq : inst.metaSeqNum + 1 < 2 ^ 32) :
    (cflConsumeOldest inst).wp qspiFlash cutFaults
      (fun out m' => exists L',
        ((out.1 = .ok ∧ L' = (L.moveHead inst.headSector out.2.headSector).consume) ∨
          (out.1 ≠ .ok ∧ L' = L.moveHead inst.headSector out.2.headSector)) ∧
        LedgerHolds ⟨m', some out.2⟩ L')
      (fun m' => exists L',
        (L' = L.moveHead inst.headSector (persistedHead m') ∨
          L' = (L.moveHead inst.headSector (persistedHead m')).consume) ∧ Down m' L') m := by
  cases q with
  | nil =>
      unfold cflConsumeOldest
      rw [if_pos (h.session.length_zero_iff.mpr rfl)]
      refine ⟨L, .inr ⟨by simp, ?_⟩, R, d, [], h⟩
      exact Ledger.moveHead_same.symm
  | cons r rest =>
      rcases h.layout with ⟨hcount, hfull, pre, post, hlay⟩
      apply wp_mono _ _ (wp_cflConsumeOldest h.sim hlay.atHead hcount)
      · intro out m' hout
        rcases hout with ⟨R', hexit, hsim⟩
        rcases h.consume hlay hfull hseq hexit hsim with ⟨hok, k, hup⟩
        exact ⟨_, .inl ⟨hok, rfl⟩, R', k, rest, hup⟩
      · intro m' hout
        rcases hout with ⟨R', hexit, hm⟩
        exact h.consume_cut hlay hfull hseq hexit hm

theorem Up.wp_perform (h : Up m R inst d q L) (hseq : inst.metaSeqNum + 1 < 2 ^ 32)
    (call : CflCall) :
    (cflPerform inst call).wp qspiFlash cutFaults
      (fun out m' => exists L', LedgerAction (L.moveHead inst.headSector out.2.headSector)
        (callSector inst call) (.returned call out.1.err) L' ∧ LedgerHolds ⟨m', some out.2⟩ L')
      (fun m' => exists L', LedgerAction (L.moveHead inst.headSector (persistedHead m'))
        (callSector inst call) (.interrupted call) L' ∧ Down m' L') m := by
  cases call with
  | append data =>
      apply wp_seq (h.wp_append hseq data)
      intro out m' hout
      exact hout
  | peek maxLen =>
      refine (wp_bind _ _).mpr (wp_mono ?_ ?_
        (wp_of_uses keeps_read (uses_cflPeekOldest inst maxLen) rfl))
      · intro out m' hsame
        subst hsame
        exact ⟨L, Ledger.moveHead_same.symm, R, d, q, h⟩
      · intro m' hsame
        subst hsame
        refine ⟨L, ?_, h.down⟩
        rw [h.headStored]
        exact Ledger.moveHead_same.symm
  | consume =>
      apply wp_seq (h.wp_consume hseq)
      intro out m' hout
      exact hout
  | drop =>
      apply wp_seq (h.wp_consume hseq)
      intro out m' hout
      exact hout

theorem LedgerHolds.persistedHead (h : LedgerHolds ⟨m, some inst⟩ L) :
    persistedHead m = inst.headSector := by
  rcases h with ⟨R, d, q, hup⟩
  exact hup.headStored

theorem CutStep.holds {event : CutEvent} (hstep : CutStep s event s') (hok : BootsOnRecords s)
    (h : LedgerHolds s L) : exists L', LedgerStep L event L' ∧ LedgerHolds s' L' := by
  cases hstep with
  | create hexec =>
      rcases h.boot hok hexec with ⟨hsame, hup⟩
      subst hsame
      refine ⟨L.boot, ?_, hup⟩
      change L.boot = (L.moveHead _ _).boot
      rw [Ledger.moveHead_same]
  | createCut hexec =>
      rcases h with ⟨R, i, d, nextSeq, hm, hstored⟩
      have hsame := createCut_same hm hexec
      subst hsame
      exact ⟨L, Ledger.moveHead_same.symm, R, i, d, nextSeq, hm, hstored⟩
  | call hexec =>
      rcases h with ⟨R, d, q, hup⟩
      rcases wp_returns (hup.wp_perform hok _) hexec with ⟨L', haction, hafter⟩
      refine ⟨L', ?_, hafter⟩
      unfold LedgerStep
      rw [hup.headStored, hafter.persistedHead]
      exact haction
  | callCut hexec =>
      rcases h with ⟨R, d, q, hup⟩
      rcases wp_crash (hup.wp_perform hok _) hexec with ⟨L', haction, hafter⟩
      refine ⟨L', ?_, hafter⟩
      unfold LedgerStep
      rw [hup.headStored]
      exact haction
  | reset =>
      rcases h with ⟨R, d, q, hup⟩
      exact ⟨L, Ledger.moveHead_same.symm, hup.down⟩

theorem CutRun.holds (hrun : CutRun BootsOnRecords s events s') (h : LedgerHolds s L) :
    exists L', LedgerRun L events L' ∧ LedgerHolds s' L' := by
  induction hrun generalizing L with
  | done s => exact ⟨L, rfl, h⟩
  | step hok hstep _ ih =>
      rcases hstep.holds hok h with ⟨L₁, hfirst, hafter⟩
      rcases ih hafter with ⟨L', hrest, hlast⟩
      exact ⟨L', ⟨L₁, hfirst, hrest⟩, hlast⟩

theorem erased_stored : Stored Ring.erased freshInst 0 .start 0 := by
  have hempty : forall first k, joined Ring.erased first k = [] :=
    fun first k => List.flatMap_eq_nil_iff.mpr fun _ _ => rfl
  constructor
  · exact .fresh rfl rfl rfl rfl rfl rfl
  · refine ⟨⟨by decide, by decide, rfl, Nat.le_refl _, ?_, ?_, ?_⟩, ?_⟩
    · intro j hj
      cases hj
    · rw [hempty]
      exact List.isChain_nil
    · intro hne
      exact absurd (hempty _ _) hne
    · intro hne
      exact absurd rfl hne
  · exact Nat.le_refl _
  · exact Nat.le_refl _
  · exact Nat.le_refl _

theorem erased_holds (herased : PartitionErased m) : LedgerHolds ⟨m, none⟩ .start :=
  erased_stored.down (holds_erased herased)

theorem CutRun.boot {m₀ : Memory} (herased : PartitionErased m₀)
    (hrun : CutRun BootsOnRecords ⟨m₀, none⟩ events ⟨m, none⟩) (hok : HeadHasRecords m)
    (hexec : Program.Exec qspiFlash cutFaults cflCreate m (some (some inst)) m') :
    exists L R d q, LedgerRun .start events L ∧ m' = m ∧ Up m' R inst d q L.boot := by
  rcases hrun.holds (erased_holds herased) with ⟨L, hledger, hdown⟩
  rcases Down.boot hdown hok hexec with ⟨hsame, R, d, q, hup⟩
  subst hsame
  exact ⟨L, R, d, q, hledger, rfl, hup⟩

theorem Up.contains (h : Up m R inst d q L) :
    Contains m inst ((L.log.drop L.front).map LogEntry.payload) :=
  ⟨R, q, h.sim, h.session, h.reading.queue⟩

theorem Stored.redelivered (h : Stored R inst d L nextSeq) {e : LogEntry}
    (he : e ∈ (L.log.take L.consumed).drop L.left) : e.sector = inst.headSector := by
  have hcovers := h.flash.spans.covers
  rw [entries_succ] at hcovers
  have hlen : L.consumed - L.left <= (sectorEntries R inst.headSector).length := by
    have := h.consumed_head
    rw [sectorEntries_length]
    omega
  rw [List.drop_take, ← hcovers, List.take_append_of_le_length hlen] at he
  rcases List.mem_map.mp (List.mem_of_mem_take he) with ⟨r, _, hr⟩
  rw [← hr]

end Agreement

/-!
## No record is lost over a power cut
-/

/-- Across power cuts, a drain after the next boot delivers the records that were not
consumed, in order and without a gap; before them may come consumed records of the persisted
head sector.  An interrupted append or consume may or may not have had its effect. -/
theorem cuts_keep_messages {m₀ m m' : Memory} {events : List CutEvent} {inst : CflInst}
    (herased : PartitionErased m₀)
    (hrun : CutRun BootsOnRecords ⟨m₀, none⟩ events ⟨m, none⟩) (hok : HeadHasRecords m)
    (hcreate : Program.Exec qspiFlash cutFaults cflCreate m (some (some inst)) m') :
    exists L redelivered, LedgerRun .start events L ∧
      ((cflDrainAll inst).eval qspiFlash m').1 =
        (.empty, (redelivered ++ L.log.drop L.consumed).map LogEntry.payload) ∧
      redelivered <:+ L.log.take L.consumed ∧
      forall e, e ∈ redelivered -> e.sector = persistedHead m := by
  rcases hrun.boot herased hok hcreate with ⟨L, R, d, q, hledger, hsame, hup⟩
  have hdrain := hup.contains.drainAll
  have hsplit : (L.log.take L.consumed).drop L.left ++ L.log.drop L.consumed =
      L.log.drop L.left := by
    have hle : L.left <= L.consumed := hup.held.left_le
    have hlog : L.consumed <= L.log.length := hup.held.consumed_le
    have hall := List.take_append_drop L.consumed L.log
    rw [← List.drop_append_of_le_length (by rw [List.length_take]; omega), hall]
  refine ⟨L, (L.log.take L.consumed).drop L.left, hledger, ?_, List.drop_suffix _ _, ?_⟩
  · rw [hsplit]
    exact hdrain
  · intro e he
    rw [← hsame, hup.headStored]
    exact hup.held.redelivered he

variable {call : CflCall} {inst : CflInst} {m : Memory}

theorem CutStep.scripted {inst' : CflInst} {answer : CflAnswer} (script : List Outcome)
    (hallowed : Program.Allowed qspiFlash cutFaults script (cflPerform inst call) m)
    (hcall : (Program.run qspiFlash script (cflPerform inst call) m).1 = some (answer, inst')) :
    CutStep ⟨m, some inst⟩
      ⟨.returned call answer.err, callSector inst call, persistedHead m,
        persistedHead (flashAfter script inst call m)⟩
      ⟨flashAfter script inst call m, some inst'⟩ := by
  have hexec := Program.exec_run qspiFlash (cflPerform inst call) script m hallowed
  rw [hcall] at hexec
  exact .call hexec

theorem CutStep.scriptedCut (script : List Outcome)
    (hallowed : Program.Allowed qspiFlash cutFaults script (cflPerform inst call) m)
    (hcall : (Program.run qspiFlash script (cflPerform inst call) m).1 = none) :
    CutStep ⟨m, some inst⟩
      ⟨.interrupted call, callSector inst call, persistedHead m,
        persistedHead (flashAfter script inst call m)⟩
      ⟨flashAfter script inst call m, none⟩ := by
  have hexec := Program.exec_run qspiFlash (cflPerform inst call) script m hallowed
  rw [hcall] at hexec
  exact .callCut hexec

theorem CutStep.reset_at {head : Nat} (h : persistedHead m = head) :
    CutStep ⟨m, some inst⟩ ⟨.reset, 0, head, head⟩ ⟨m, none⟩ := by
  have hstep : CutStep ⟨m, some inst⟩ ⟨.reset, 0, persistedHead m, persistedHead m⟩ ⟨m, none⟩ :=
    .reset
  rw [h] at hstep
  exact hstep

/-- The flash holds a ring, and a running instance matches it. -/
def LogState.Sound (s : LogState) : Prop :=
  match s.inst with
  | none => exists R, Holds s.flash R
  | some inst => exists R, Sim s.flash R inst

theorem CutStep.sound {s s' : LogState} {event : CutEvent} (hstep : CutStep s event s')
    (h : s.Sound) : s'.Sound := by
  cases hstep with
  | create hexec =>
      rcases h with ⟨R, hm⟩
      rcases create_exec hm hexec with ⟨hsame, _, hsim⟩
      subst hsame
      exact ⟨R, hsim⟩
  | createCut hexec =>
      rcases h with ⟨R, hm⟩
      have hsame := createCut_same hm hexec
      subst hsame
      exact ⟨R, hm⟩
  | call hexec =>
      rcases h with ⟨R, hsim⟩
      exact wp_returns (wp_cflPerform_any hsim _) hexec
  | callCut hexec =>
      rcases h with ⟨R, hsim⟩
      exact wp_crash (wp_cflPerform_any hsim _) hexec
  | reset =>
      rcases h with ⟨R, hsim⟩
      exact ⟨R, hsim.holds⟩

theorem create_eval (h : LogState.Sound ⟨m, none⟩)
    (hcreate : (cflCreate.eval qspiFlash m).1 = some inst) :
    cflCreate.eval qspiFlash m = (some inst, m) := by
  rcases h with ⟨R, hm⟩
  rcases reads_cflCreate (Faults.never qspi) hm with ⟨found, _, hreads, _, _⟩
  rw [hreads.eval_eq] at hcreate ⊢
  rw [← hcreate]

theorem create_returns (h : LogState.Sound ⟨m, none⟩)
    (hcreate : (cflCreate.eval qspiFlash m).1 = some inst) :
    Program.Exec qspiFlash cutFaults cflCreate m (some (some inst)) m :=
  Program.exec_of_eval (create_eval h hcreate)

theorem CutStep.created (h : LogState.Sound ⟨m, none⟩)
    (hcreate : (cflCreate.eval qspiFlash m).1 = some inst) :
    CutStep ⟨m, none⟩ ⟨.create, 0, persistedHead m, persistedHead m⟩ ⟨m, some inst⟩ :=
  .create (create_returns h hcreate)

theorem erasedFlash_sound : LogState.Sound ⟨erasedFlash, none⟩ :=
  ⟨Ring.erased, holds_erased (fun _ _ _ => rfl)⟩

/-- The payloads of the appends that answered `CFL_ERR_OK`. -/
def acknowledged : List CutEvent -> List (List UInt8)
  | [] => []
  | ⟨.returned (.append data) .ok, _, _, _⟩ :: events => data :: acknowledged events
  | _ :: events => acknowledged events

/-!
## Single calls
-/

section Calls

variable {m : Memory} {R : Ring} {inst : CflInst} {data : List UInt8}

theorem append_step (m : Memory) (inst : CflInst) (data : List UInt8) :
    CutStep ⟨m, some inst⟩
      ⟨.returned (.append data) ((cflAppend inst data).eval qspiFlash m).1.1,
        callSector inst (.append data), persistedHead m,
        persistedHead ((cflAppend inst data).eval qspiFlash m).2⟩
      ⟨((cflAppend inst data).eval qspiFlash m).2,
        some ((cflAppend inst data).eval qspiFlash m).1.2⟩ := by
  have hexec : Program.Exec qspiFlash cutFaults (cflPerform inst (.append data)) m
      (some (codeOnly ((cflAppend inst data).eval qspiFlash m).1.1,
        ((cflAppend inst data).eval qspiFlash m).1.2))
      ((cflAppend inst data).eval qspiFlash m).2 :=
    (Program.exec_eval qspiFlash cutFaults (cflAppend inst data) m).bind (.ret _ _)
  exact .call hexec

theorem consume_step (m : Memory) (inst : CflInst) :
    CutStep ⟨m, some inst⟩
      ⟨.returned .consume ((cflConsumeOldest inst).eval qspiFlash m).1.1,
        callSector inst .consume, persistedHead m,
        persistedHead ((cflConsumeOldest inst).eval qspiFlash m).2⟩
      ⟨((cflConsumeOldest inst).eval qspiFlash m).2,
        some ((cflConsumeOldest inst).eval qspiFlash m).1.2⟩ := by
  have hexec : Program.Exec qspiFlash cutFaults (cflPerform inst .consume) m
      (some (codeOnly ((cflConsumeOldest inst).eval qspiFlash m).1.1,
        ((cflConsumeOldest inst).eval qspiFlash m).1.2))
      ((cflConsumeOldest inst).eval qspiFlash m).2 :=
    (Program.exec_eval qspiFlash cutFaults (cflConsumeOldest inst) m).bind (.ret _ _)
  exact .call hexec

theorem Sim.append_here (h : Sim m R inst) (hlen : LengthOk data)
    (hneeds : ¬ NeedsSector inst data) :
    exists r, IsNext inst data r ∧
      ((cflAppend inst data).eval qspiFlash m).1 = (.ok, appended inst data.length) ∧
      AppendExit cutFaults R inst data (some (.ok, appended inst data.length))
        (withNext R inst r) ∧
      Sim ((cflAppend inst data).eval qspiFlash m).2 (withNext R inst r)
        (appended inst data.length) := by
  have hexec := Program.exec_eval qspiFlash cutFaults (cflAppend inst data) m
  rcases wp_returns (wp_cflAppend h data) hexec with ⟨R', hexit, hsim⟩
  generalize ((cflAppend inst data).eval qspiFlash m).1 = out at hexit hsim
  generalize ((cflAppend inst data).eval qspiFlash m).2 = m' at hsim
  cases hexit with
  | tooLarge hbad => exact absurd hlen hbad
  | here _ _ _ _ hwrite =>
      cases hwrite with
      | done r hnext => exact ⟨r, hnext, rfl, .here _ _ hlen hneeds (.done r hnext), hsim⟩
      | failed hfail =>
          rcases hfail with ⟨_, _, _, hn⟩
          exact hn.elim
      | failedDone _ _ hfail =>
          rcases hfail with ⟨_, _, _, hn, _⟩
          exact hn.elim
  | full _ hyes _ => exact absurd hyes hneeds
  | eraseFailed _ _ hyes _ _ _ => exact absurd hyes hneeds
  | advance _ _ _ hyes _ _ _ => exact absurd hyes hneeds
  | moveFailed _ _ _ _ hyes _ _ _ => exact absurd hyes hneeds
  | moveDone _ _ _ _ _ hyes _ _ _ => exact absurd hyes hneeds

theorem boot_one_sector (hsim : Sim m R inst) (hstored : HeadStored R inst)
    (htail : inst.tailSector = inst.headSector) (hroom : cflRoomForRecord inst.tailOffset)
    (hne : R.recs inst.headSector ≠ []) (hnext : R.recs (cflNextSector inst.headSector) = []) :
    exists inst', cflCreate.eval qspiFlash m = (some inst', m) ∧ Sim m R inst' ∧
      HeadStored R inst' ∧ inst'.tailSector = inst'.headSector ∧
      inst'.tailOffset = inst.tailOffset ∧ inst'.headSector = inst.headSector ∧
      Contains m inst' ((R.recs inst.headSector).map Rec.payload) := by
  rcases reads_cflCreate (Faults.never qspi) hsim.holds with
    ⟨inst', k, hreads, hbooted, hsim', hkeeps⟩
  rcases hstored.loaded with ⟨hload, hslot, hseq, hvalid⟩
  have hhead : inst'.headSector = inst.headSector := hbooted.headSector.trans hload
  have hlt := hsim.head_lt
  have hsession := hbooted.session hsim'
  have hone : k = 1 := by
    have hjoins := hbooted.joins.nonempty
    rw [hhead] at hjoins
    match k, hbooted.ends, hjoins with
    | 0, hends, _ =>
        rcases hends with hall | hnil | hbreak
        · cases hall
        · rw [hhead, Nat.add_zero, Nat.mod_eq_of_lt hlt] at hnil
          exact absurd hnil hne
        · exact absurd hbreak.1 (Nat.lt_irrefl 0)
    | 1, _, _ => rfl
    | k + 2, _, hjoins =>
        exact absurd hnext (hjoins _ (List.mem_cons_of_mem _ (List.mem_cons_self ..)))
  subst hone
  have hall : joined R inst.headSector 1 = R.recs inst.headSector := List.append_nil _
  rw [hhead, hall] at hsession
  have htail' : inst'.tailSector = inst.headSector := by
    rw [hbooted.tailSector, hhead]
    exact Nat.mod_eq_of_lt hlt
  have hend : endOfRun R inst'.headSector 1 = inst.tailOffset := by
    rw [hsim.tail_end hroom, htail, ← htail', hbooted.tailSector]
    rfl
  refine ⟨inst', hreads.eval_eq, hsim', hstored.congr rfl (hbooted.metaSlot.trans hslot)
    (hbooted.metaSeqNum.trans hseq) (hbooted.metaSlotValid.trans hvalid) hhead,
    htail'.trans hhead.symm, ?_, hhead, R, _, hsim', hsession, rfl⟩
  rw [← hend]
  apply hkeeps
  rw [hend, htail', ← htail]
  exact hsim.tail_blank hroom

end Calls

/-- An erased device on which `[1]` was appended. -/
def oneRecord : Memory :=
  flashAfter [] freshInst (.append [1]) erasedFlash

/-- Power is lost during the third program of an append, after its twelfth byte. -/
def headerCut : List Outcome :=
  [.completed, .completed, .cut 12]

/-- The instance that has consumed the record. -/
def consumedInst : CflInst :=
  { smallInst 0 16 1 with
    headOffset := 16
    entryCount := 0
    byteCount := 0 }

def consumedFlash : Memory :=
  ((cflConsumeOldest (smallInst 0 16 1)).eval qspiFlash oneRecord).2

/-- `[2]` was appended behind the consumed record, but the call did not return. -/
def tornAppend : Memory :=
  flashAfter headerCut consumedInst (.append [2]) consumedFlash

def tornEvents : List CutEvent :=
  [⟨.create, 0, 0, 0⟩, ⟨.returned (.append [1]) .ok, 0, 0, 0⟩, ⟨.returned .consume .ok, 0, 0, 0⟩,
    ⟨.interrupted (.append [2]), 0, 0, 0⟩]

/-- The answers of the calls on these devices, and the head each device has stored. -/
theorem torn_calls :
    persistedHead erasedFlash = 0 ∧ persistedHead oneRecord = 0 ∧
    persistedHead consumedFlash = 0 ∧ persistedHead tornAppend = 0 ∧
    (cflCreate.eval qspiFlash erasedFlash).1 = some freshInst ∧
    (Program.run qspiFlash [] (cflPerform freshInst (.append [1])) erasedFlash).1 =
      some (codeOnly .ok, smallInst 0 16 1) ∧
    ((cflConsumeOldest (smallInst 0 16 1)).eval qspiFlash oneRecord).1 = (.ok, consumedInst) ∧
    (Program.run qspiFlash headerCut (cflPerform consumedInst (.append [2])) consumedFlash).1 =
      none ∧
    (cflCreate.eval qspiFlash tornAppend).1 = some (smallInst 0 32 2) ∧
    sectorCount tornAppend 0 ≠ 0 := by
  decide +kernel

theorem freshInst_step :
    CutStep ⟨erasedFlash, none⟩ ⟨.create, 0, 0, 0⟩ ⟨erasedFlash, some freshInst⟩ := by
  rcases torn_calls with ⟨hhead, _, _, _, hcreate, _⟩
  have hstep := CutStep.created erasedFlash_sound hcreate
  rw [hhead] at hstep
  exact hstep

theorem oneRecord_step :
    CutStep ⟨erasedFlash, some freshInst⟩ ⟨.returned (.append [1]) .ok, 0, 0, 0⟩
      ⟨oneRecord, some (smallInst 0 16 1)⟩ := by
  rcases torn_calls with ⟨hbefore, hafter, _, _, _, hcall, _⟩
  have hstep := CutStep.scripted [] trivial hcall
  rw [hbefore, show flashAfter [] freshInst (.append [1]) erasedFlash = oneRecord from rfl,
    hafter] at hstep
  exact hstep

theorem consumed_step :
    CutStep ⟨oneRecord, some (smallInst 0 16 1)⟩ ⟨.returned .consume .ok, 0, 0, 0⟩
      ⟨consumedFlash, some consumedInst⟩ := by
  rcases torn_calls with ⟨_, hbefore, hafter, _, _, _, hout, _⟩
  have hstep := consume_step oneRecord (smallInst 0 16 1)
  rw [hout, show ((cflConsumeOldest (smallInst 0 16 1)).eval qspiFlash oneRecord).2 =
    consumedFlash from rfl, hbefore, hafter] at hstep
  exact hstep

theorem tornAppend_step :
    CutStep ⟨consumedFlash, some consumedInst⟩ ⟨.interrupted (.append [2]), 0, 0, 0⟩
      ⟨tornAppend, none⟩ := by
  rcases torn_calls with ⟨_, _, hbefore, hafter, _, _, _, hcut, _⟩
  have hstep : CutStep ⟨consumedFlash, some consumedInst⟩
      ⟨.interrupted (.append [2]), callSector consumedInst (.append [2]),
        persistedHead consumedFlash, persistedHead tornAppend⟩ ⟨tornAppend, none⟩ :=
    .scriptedCut headerCut trivial hcut
  rw [hbefore, hafter] at hstep
  exact hstep

theorem tornAppend_run :
    CutRun BootsOnRecords ⟨erasedFlash, none⟩ tornEvents ⟨tornAppend, none⟩ := by
  have hpartition : PartitionErased erasedFlash := fun _ _ _ => rfl
  have herased : HeadHasRecords erasedFlash :=
    .inr fun i hi => sectorCount_eq (holds_erased hpartition) hi
  have hseq : forall m inst, inst.metaSeqNum = 0 -> BootsOnRecords ⟨m, some inst⟩ := by
    intro _ inst hzero
    change inst.metaSeqNum + 1 < 2 ^ 32
    rw [hzero]
    decide
  exact .step herased freshInst_step (.step (hseq _ _ rfl) oneRecord_step
    (.step (hseq _ _ rfl) consumed_step (.step (hseq _ _ rfl) tornAppend_step (.done _))))

/-- One record was stored and consumed, and power was lost inside the append of a second one:
the boot delivers both, the consumed one first. -/
theorem cuts_keep_messages_torn :
    exists L redelivered, LedgerRun .start tornEvents L ∧
      ((cflDrainAll (smallInst 0 32 2)).eval qspiFlash tornAppend).1 =
        (.empty, (redelivered ++ L.log.drop L.consumed).map LogEntry.payload) ∧
      redelivered <:+ L.log.take L.consumed ∧
      forall e, e ∈ redelivered -> e.sector = persistedHead tornAppend := by
  have hsound : LogState.Sound ⟨tornAppend, none⟩ :=
    tornAppend_step.sound (consumed_step.sound
      (oneRecord_step.sound (freshInst_step.sound erasedFlash_sound)))
  rcases torn_calls with ⟨_, _, _, hhead, _, _, _, _, hcreate, hstored⟩
  have hrecords : HeadHasRecords tornAppend := by
    left
    rw [hhead]
    exact hstored
  exact cuts_keep_messages (fun _ _ _ => rfl) tornAppend_run hrecords
    (create_returns hsound hcreate)

/-- `[2]` was appended to `oneRecord`, but the call did not return. -/
def tornAnswer : Memory :=
  flashAfter headerCut (smallInst 0 16 1) (.append [2]) oneRecord

theorem tornAnswer_step :
    CutStep ⟨oneRecord, some (smallInst 0 16 1)⟩
      ⟨.interrupted (.append [2]), callSector (smallInst 0 16 1) (.append [2]),
        persistedHead oneRecord, persistedHead tornAnswer⟩ ⟨tornAnswer, none⟩ :=
  .scriptedCut headerCut trivial rfl

/-- An append that lost power behind its last byte never answered, but its record is
delivered between those whose appends did. -/
theorem interrupted_append_intervenes :
    exists events m inst,
      CutRun (fun _ => True) ⟨erasedFlash, none⟩ events ⟨m, none⟩ ∧
      acknowledged events = [[1], [3]] ∧
      (forall event, event ∈ events -> event.action ≠ .returned .consume .ok ∧
        event.action ≠ .returned .drop .ok) ∧
      Program.Exec qspiFlash cutFaults cflCreate m (some (some inst)) m ∧
      ((cflDrainAll inst).eval qspiFlash m).1 = (.empty, [[1], [2], [3]]) ∧
      forall before, ((cflDrainAll inst).eval qspiFlash m).1 ≠
        (.empty, before ++ acknowledged events) := by
  have hlen : forall b : UInt8, LengthOk [b] := fun b => ⟨by simp, by simp⟩
  -- the records [1] and [2]
  have hcreate : Program.Exec qspiFlash cutFaults cflCreate erasedFlash (some (some freshInst))
      erasedFlash := create_returns erasedFlash_sound torn_calls.2.2.2.2.1
  have hpartition : PartitionErased erasedFlash := fun _ _ _ => rfl
  rcases create_exec (holds_erased hpartition) hcreate with ⟨_, _, hsim₀⟩
  have hroom : forall n : Nat, n < 3 -> ¬ NeedsSector (smallInst 0 (16 * n) n) [0] := by
    intro n hn
    change ¬ (16 * n + 16 > 4096)
    omega
  rcases hsim₀.append_here (hlen 1) (hroom 0 (by decide)) with ⟨r₁, hr₁, _, _, hsim₁⟩
  have hstored₁ := erased_stored.head.appended r₁ 1
  rcases hsim₁.append_here (hlen 2) (hroom 1 (by decide)) with ⟨r₂, hr₂, _, _, hsim₂⟩
  have hstored₂ := hstored₁.appended r₂ 1
  change Sim tornAnswer _ (smallInst 0 32 2) at hsim₂
  generalize hR₂ : withNext (withNext Ring.erased freshInst r₁) (smallInst 0 16 1) r₂ = R₂
  have hsim₂' : Sim tornAnswer R₂ (smallInst 0 32 2) := by
    rw [← hR₂]
    exact hsim₂
  have hstored₂' : HeadStored R₂ (smallInst 0 32 2) := by
    rw [← hR₂]
    exact hstored₂
  have hrecs₂ : R₂.recs 0 = [r₁, r₂] ∧ R₂.recs 1 = [] := by
    rw [← hR₂]
    exact ⟨rfl, rfl⟩
  -- the boot that finds both, and [3] behind them
  have hne₂ : R₂.recs (smallInst 0 32 2).headSector ≠ [] := by
    change R₂.recs 0 ≠ []
    rw [hrecs₂.1]
    simp
  rcases boot_one_sector hsim₂' hstored₂' rfl (by decide) hne₂ hrecs₂.2 with
    ⟨inst, hboot, hsim₃, hstored₃, htail, hoffset, hhead, _⟩
  have hroom₃ : ¬ NeedsSector inst [3] := by
    unfold NeedsSector
    rw [hoffset]
    exact hroom 2 (by decide)
  rcases hsim₃.append_here (hlen 3) hroom₃ with ⟨r₃, hr₃, hout, _, hsim₄⟩
  have hstored₄ := hstored₃.appended r₃ [(3 : UInt8)].length
  have happend := append_step tornAnswer inst [3]
  rw [hout] at happend
  generalize ((cflAppend inst [3]).eval qspiFlash tornAnswer).2 = m at hsim₄ happend
  have hhead₀ : inst.headSector = 0 := hhead
  have hrecs₄ : (withNext R₂ inst r₃).recs 0 = [r₁, r₂, r₃] ∧ (withNext R₂ inst r₃).recs 1 = [] := by
    unfold withNext
    rw [htail, hhead₀, Ring.setRecs_same, Ring.setRecs_other (by decide), hrecs₂.1]
    exact ⟨rfl, hrecs₂.2⟩
  have hroom₄ : cflRoomForRecord (appended inst [(3 : UInt8)].length).tailOffset := by
    change cflRoomForRecord (inst.tailOffset + 16)
    rw [hoffset]
    decide
  have hhead₄ : (appended inst [(3 : UInt8)].length).headSector = 0 := hhead
  rcases boot_one_sector hsim₄ hstored₄ htail hroom₄ (by rw [hhead₄, hrecs₄.1]; simp)
    (by rw [hhead₄]; exact hrecs₄.2) with ⟨inst', hboot', hsim₅, _, _, _, _, hcontains⟩
  rw [hhead₄, hrecs₄.1] at hcontains
  have hpayloads : [r₁, r₂, r₃].map Rec.payload = [[1], [2], [3]] := by
    simp only [List.map_cons, List.map_nil, hr₁.2, hr₂.2, hr₃.2]
  rw [hpayloads] at hcontains
  have hdrain := hcontains.drainAll
  have hbootStep := CutStep.create (Program.exec_of_eval hboot)
  refine ⟨_, m, inst', .step trivial freshInst_step (.step trivial oneRecord_step
    (.step trivial tornAnswer_step (.step trivial hbootStep (.step trivial happend
      (.step trivial .reset (.done _)))))), rfl, by simp,
    Program.exec_of_eval hboot', hdrain, ?_⟩
  intro before hsame
  rw [hdrain] at hsame
  have hlists : [[1], [2], [3]] = before ++ [[1], [3]] := congrArg Prod.snd hsame
  have hcount := congrArg List.length hlists
  rw [List.length_append] at hcount
  match before, hcount with
  | [_], _ => simp at hlists

end EnvMonitor.Gateway.CircularFlashLog
