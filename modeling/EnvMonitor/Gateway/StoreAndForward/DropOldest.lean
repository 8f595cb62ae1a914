import EnvMonitor.Gateway.StoreAndForward.Outbox

/-!
# A buffer that drops its oldest entries

On flash that does not fail the buffer stores every valid entry.  For room it gives up the
oldest ones, those of the single sector the new entry needs, and an entry that a caller still
holds is then gone for the caller as well.
-/

namespace EnvMonitor
namespace Gateway
namespace CircularFlashLog

open Device Drivers
open Program (wp_bind wp_mono wp_returns wp_seq)

/-!
## The oldest sector
-/

/-- The queue, `n` records of which lie in the head's sector. -/
def Placed (m : Memory) (inst : CflInst) (q : List (List UInt8)) (n : Nat) : Prop :=
  exists R rs d pre r post, Sim m R inst ∧ Session R inst rs ∧ R.recs inst.tailSector ≠ [] ∧
    Layout R inst rs d pre r post ∧ rs.map Rec.payload = q ∧ post.length + 1 = n

/-- The payloads are those of the last records in a data sector. -/
def SectorEnds (m : Memory) (sector : Nat) (payloads : List (List UInt8)) : Prop :=
  exists R pre, Holds m R ∧ (R.recs sector).map Rec.payload = pre ++ payloads

section Placed

variable {m m' : Memory} {inst : CflInst} {q : List (List UInt8)} {n : Nat}

theorem Contains.placed (h : Contains m inst q) (hne : q ≠ []) : exists n, Placed m inst q n := by
  rcases h with ⟨R, rs, hsim, hsession, hq⟩
  cases rs with
  | nil => exact absurd hq.symm hne
  | cons r rest =>
      rcases hsession.nonempty with ⟨_, hfull, d, pre, post, hlay⟩
      exact ⟨_, R, _, d, pre, r, post, hsim, hsession, hfull, hlay, hq, rfl⟩

theorem Placed.contains (h : Placed m inst q n) : Contains m inst q := by
  rcases h with ⟨R, rs, _, _, _, _, hsim, hsession, _, _, hq, _⟩
  exact ⟨R, rs, hsim, hsession, hq⟩

theorem Placed.head_lt (h : Placed m inst q n) : inst.headSector < 254 := by
  rcases h with ⟨_, _, _, _, _, _, hsim, _, _, _, _, _⟩
  exact hsim.head_lt

theorem Placed.sectorEnds (h : Placed m inst q n) :
    SectorEnds m inst.headSector (q.take n) ∧ n ≤ q.length := by
  rcases h with ⟨R, rs, d, pre, r, post, hsim, _, _, hlay, hq, hn⟩
  have hqueue : q = (r :: post).map Rec.payload ++
      (joined R (cflNextSector inst.headSector) d).map Rec.payload := by
    rw [← hq, hlay.queue, List.map_append]
  have hlength : ((r :: post).map Rec.payload).length = n := by
    rw [List.length_map, List.length_cons]
    exact hn
  constructor
  · refine ⟨R, pre.map Rec.payload, hsim.holds, ?_⟩
    rw [hlay.atHead.split, List.map_append, hqueue, List.take_left' hlength]
  · rw [hqueue, List.length_append, hlength]
    exact Nat.le_add_right _ _

/-- What a removal does to the head: it stays in its sector until the last record there. -/
structure Removed (m' : Memory) (inst inst' : CflInst) (q : List (List UInt8)) (n : Nat) :
    Prop where
  tailSector : inst'.tailSector = inst.tailSector
  tailOffset : inst'.tailOffset = inst.tailOffset
  head : (1 < n ∧ inst'.headSector = inst.headSector ∧ inst'.entryCount ≠ 0 ∧
      Placed m' inst' q.tail (n - 1)) ∨
    (n = 1 ∧ Contains m' inst' q.tail ∧
      (inst'.entryCount = 0 ∨ inst'.headSector = cflNextSector inst.headSector))

variable {inst' : CflInst} {F : Faults qspi}

theorem Removed.contains (h : Removed m' inst inst' q n) : Contains m' inst' q.tail := by
  rcases h.head with ⟨_, _, _, hplaced⟩ | ⟨_, hcontains, _⟩
  · exact hplaced.contains
  · exact hcontains

theorem PersistExit.fields {R R' : Ring} {previous : Nat} {err : CflErr}
    (h : PersistExit F R previous inst (some (err, inst')) R') :
    inst'.tailSector = inst.tailSector ∧ inst'.tailOffset = inst.tailOffset ∧
      inst'.headSector = inst.headSector ∧ inst'.entryCount = inst.entryCount := by
  cases h with
  | same _ => exact ⟨rfl, rfl, rfl, rfl⟩
  | stores _ _ _ hmeta =>
      cases hmeta with
      | stored => exact ⟨rfl, rfl, rfl, rfl⟩
      | failed _ _ _ _ _ => exact ⟨rfl, rfl, rfl, rfl⟩

theorem Placed.consume (hF : F.NeverFails) (h : Placed m inst q n) :
    (cflConsumeOldest inst).wp qspiFlash F
      (fun out m' => out.1 = .ok ∧ Removed m' inst out.2 q n) (fun _ => True) m := by
  rcases h with ⟨R, rs, d, pre, r, post, hsim, hsession, hfull, hlay, rfl, hn⟩
  cases rs with
  | nil =>
      have hqueue := hlay.queue
      cases hqueue
  | cons s rest =>
      have hqueue := hlay.queue
      rw [List.cons_append] at hqueue
      cases (List.cons.inj hqueue).1
      have hrest := (List.cons.inj hqueue).2
      have hcount : inst.entryCount ≠ 0 := by
        rw [hsession.count, List.length_cons]
        exact Nat.succ_ne_zero _
      apply wp_mono _ (fun _ _ => trivial) (wp_cflConsumeOldest hsim hlay.atHead hcount)
      intro out m' hexit
      rcases hexit with ⟨R', hexit, hsim'⟩
      have hok := hexit.ok_of_neverFails hF
      have hafter : Session R' out.2 rest := by
        rcases hsession.consume hsim hfull hlay
          (consumeSafe_of_neverFails hF m inst) hexit with hafter | ⟨herr, _⟩
        · exact hafter
        · exact absurd hok herr
      have hcontains : Contains m' out.2 (rest.map Rec.payload) := ⟨R', rest, hsim', hafter, rfl⟩
      refine ⟨hok, ?_⟩
      cases hexit with
      | readFailed hfail =>
          rcases hfail with ⟨_, hfails⟩
          exact absurd hfails (hF _ _)
      | advances _ _ hadvance =>
          rcases out with ⟨err, inst'⟩
          cases hadvance with
          | drains _ _ hzero hpersist =>
              have hfields := hpersist.fields
              have hempty : rest = [] :=
                List.length_eq_zero_iff.mp (hafter.count.symm.trans (hfields.2.2.2.trans hzero))
              have hpost : post = [] := by
                rw [hempty] at hrest
                exact (List.append_eq_nil_iff.mp hrest.symm).1
              refine ⟨hfields.1, hfields.2.1, .inr ⟨?_, hcontains, .inl ?_⟩⟩
              · rw [← hn, hpost]
                rfl
              · exact hfields.2.2.2.trans hzero
          | moreFailed _ hfail =>
              rcases hfail with ⟨_, hfails⟩
              exact absurd hfails (hF _ _)
          | stays _ _ hcount' hmore hpersist =>
              have hfields := hpersist.fields
              cases hpersist with
              | stores _ _ hmoved _ => exact absurd rfl hmoved
              | same _ =>
                  cases post with
                  | nil => exact absurd rfl hmore
                  | cons t post =>
                      refine ⟨rfl, rfl, .inl ⟨?_, rfl, hcount', R, rest, d, pre ++ [r], t, post,
                        hsim', hafter, hfull, hlay.passed_more _, rfl, ?_⟩⟩
                      · rw [← hn, List.length_cons]
                        omega
                      · rw [← hn, List.length_cons]
                        omega
          | next _ _ _ hlast hpersist =>
              have hfields := hpersist.fields
              have hpost : post = [] := Classical.not_not.mp hlast
              refine ⟨hfields.1, hfields.2.1, .inr ⟨?_, hcontains, .inr hfields.2.2.1⟩⟩
              rw [← hn, hpost]
              rfl

end Placed

/-!
## Calls on flash that does not fail
-/

/-- No call of the flash fails. -/
def NoFaults (F : Faults qspi) (_ : CflDevice) (_ : CflCall) : Prop :=
  F.NeverFails

theorem answer_exists (s : CflDevice) (call : CflCall) :
    exists answer s', CflApiStep NoFaults s call answer s' :=
  ⟨_, _, .answers Faults.never_neverFails
    (Program.exec_eval qspiFlash (Faults.never qspi) (cflPerform s.inst call) s.flash)⟩

section Calls

variable {s s' : CflDevice} {answer : CflAnswer} {q : List (List UInt8)} {raw : List UInt8}
variable {n : Nat}

theorem CflApiStep.append_room (h : CflApiStep NoFaults s (.append raw) answer s')
    (hq : Contains s.flash s.inst q) (hlen : LengthOk raw)
    (hroom : ¬ (NeedsSector s.inst raw ∧ RingFull s.inst)) :
    answer.err = .ok ∧ Contains s'.flash s'.inst (q ++ [raw]) := by
  cases h with
  | @answers F _ _ _ _ _ hF hexec =>
      rcases hq with ⟨R, rs, hsim, hsession, rfl⟩
      have hwp : (cflPerform s.inst (.append raw)).wp qspiFlash F
          (fun out m' => out.1.err = .ok ∧ Contains m' out.2 (rs.map Rec.payload ++ [raw]))
          (fun _ => True) s.flash := by
        apply (wp_bind _ _).mpr
        apply wp_mono _ (fun _ _ => trivial) (wp_cflAppend hsim raw)
        intro out m' hexit
        rcases hexit with ⟨R', hexit, hsim'⟩
        have hok : out.1 = .ok := by
          rcases hexit.of_neverFails hF with ⟨hbad, _⟩ | ⟨_, hneeds, hfull, _⟩ | ⟨_, hok⟩
          · exact absurd hlen hbad
          · exact absurd ⟨hneeds, hfull⟩ hroom
          · exact hok
        rcases hsession.append hsim (appendSafe_of_neverFails hF _ _) hexit hsim'.holds with
          ⟨_, new, hnew, hafter⟩ | ⟨herr, _⟩
        · refine ⟨hok, R', _, hsim', hafter, ?_⟩
          rw [List.map_append, List.map_cons, hnew]
          rfl
        · exact absurd hok herr
      exact wp_returns hwp hexec

theorem CflApiStep.append_refused (h : CflApiStep NoFaults s (.append raw) answer s')
    (hlen : LengthOk raw) (hneeds : NeedsSector s.inst raw) (hfull : RingFull s.inst) :
    answer.err = .full ∧ s'.flash = s.flash ∧ s'.inst = s.inst := by
  cases h with
  | @answers F _ _ _ _ _ hF hexec =>
      have hwp : (cflPerform s.inst (.append raw)).wp qspiFlash F
          (fun out m' => out.1.err = .full ∧ m' = s.flash ∧ out.2 = s.inst)
          (fun _ => True) s.flash := by
        apply (wp_bind _ _).mpr
        rw [cflAppend_full hlen hneeds hfull]
        exact ⟨rfl, rfl, rfl⟩
      exact wp_returns hwp hexec

theorem CflApiStep.removed {call : CflCall} (h : CflApiStep NoFaults s call answer s')
    (hcall : call.Removes) (hq : Placed s.flash s.inst q n) :
    answer.err = .ok ∧ Removed s'.flash s.inst s'.inst q n := by
  cases h with
  | @answers F _ _ _ _ _ hF hexec =>
      have hwp : (cflPerform s.inst call).wp qspiFlash F
          (fun out m' => out.1.err = .ok ∧ Removed m' s.inst out.2 q n)
          (fun _ => True) s.flash := by
        rcases hcall with rfl | rfl
        · exact wp_seq (hq.consume hF) (fun _ _ hexit => hexit)
        · exact wp_seq (hq.consume hF) (fun _ _ hexit => hexit)
      exact wp_returns hwp hexec

/-- What a peek answers for a queue. -/
def frontAnswer : List (List UInt8) -> CflAnswer
  | [] => ⟨.empty, none, none⟩
  | front :: _ => ⟨.ok, some front, some front.length⟩

theorem CflApiStep.peeked (h : CflApiStep NoFaults s (.peek cflMaxRecordBytes) answer s')
    (hq : Contains s.flash s.inst q) :
    s'.flash = s.flash ∧ s'.inst = s.inst ∧ answer = frontAnswer q := by
  cases h with
  | @answers F _ _ _ _ _ hF hexec =>
      have hwp : (cflPerform s.inst (.peek cflMaxRecordBytes)).wp qspiFlash F
          (fun out m' => Peeked F cflMaxRecordBytes q out.1 ∧ out.2 = s.inst ∧ m' = s.flash)
          (fun _ => True) s.flash := by
        apply (wp_bind _ _).mpr
        apply wp_mono _ (fun _ _ => trivial) (hq.peek cflMaxRecordBytes)
        intro out m' hexit
        exact ⟨hexit.1, rfl, hexit.2⟩
      rcases wp_returns hwp hexec with ⟨hpeek, hinst, hflash⟩
      refine ⟨hflash, hinst, ?_⟩
      cases q with
      | nil => exact hpeek
      | cons front rest =>
          rcases hpeek with ⟨_, hanswer⟩ | ⟨hlarge, _⟩ | ⟨_, _, _, hfails⟩
          · exact hanswer
          · exact absurd (hq.payload_le front (List.mem_cons_self ..)) (Nat.not_le_of_lt hlarge)
          · exact absurd hfails (hF _ _)

end Calls

end CircularFlashLog

namespace StoreAndForward

open Device Drivers CircularFlashLog

/-!
## The drop loop
-/

/-- The drops among the calls of the log. -/
def dropsIn (calls : List CflEvent) : Nat :=
  calls.countP (fun e => decide (e.call = .drop ∧ e.err = .ok))

theorem safEntryRemoved_eq (inst : SafInst) :
    safEntryRemoved inst = { inst with entryCount := inst.entryCount - 1 } := by
  unfold safEntryRemoved
  split
  · rfl
  · next hzero =>
      have hcount : inst.entryCount - 1 = inst.entryCount := by omega
      rw [hcount]

/-- What `saf_enqueue` needs of its loop after `n` drops. -/
structure LoopDone (inst : SafInst) (raw : List UInt8) (q : List (List UInt8)) (n drops : Nat)
    (out : SafDropExit × SafInst) (s : CflDevice) : Prop where
  exit : out.1 = .append .ok
  inst : out.2 = { inst with
    hasPending := if n = 0 then inst.hasPending else false
    entryCount := inst.entryCount - n }
  contains : Contains s.flash s.inst (q.drop n ++ [raw])
  drops : dropsIn s.calls = drops + n

section Loop

variable {s s' : CflDevice} {inst : SafInst} {q : List (List UInt8)} {raw : List UInt8}
variable {answer : CflAnswer} {n : Nat}

theorem every_safDropLoop_stored (fuel : Nat) (hfuel : 0 < fuel)
    (hq : Contains s.flash s.inst (q ++ [raw])) :
    Program.EveryCall (CflApiStep NoFaults) (LoopDone inst raw q 0 (dropsIn s.calls))
      (safDropLoop raw fuel .ok inst) s := by
  cases fuel with
  | zero => exact absurd hfuel (Nat.lt_irrefl 0)
  | succ fuel =>
      unfold safDropLoop
      rw [if_neg (by simp)]
      exact ⟨rfl, rfl, hq, rfl⟩

theorem dropsIn_append (calls : List CflEvent) (cfl : CflInst) (raw : List UInt8) (err : CflErr) :
    dropsIn (⟨cfl, .append raw, err⟩ :: calls) = dropsIn calls :=
  List.countP_cons_of_neg (by simp)

theorem dropsIn_drop (calls : List CflEvent) (cfl : CflInst) :
    dropsIn (⟨cfl, .drop, .ok⟩ :: calls) = dropsIn calls + 1 :=
  List.countP_cons_of_pos (by simp)

theorem LoopDone.after_drop {drops : Nat} {out : SafDropExit × SafInst}
    (h : LoopDone (safEntryRemoved { inst with hasPending := false }) raw q.tail n (drops + 1)
      out s) : LoopDone inst raw q (n + 1) drops out s where
  exit := h.exit
  inst := by
    rw [h.inst, safEntryRemoved_eq, if_neg (Nat.succ_ne_zero n), Nat.add_comm n 1, Nat.sub_add_eq]
    cases n with
    | zero => rfl
    | succ n => rfl
  contains := by
    have hcontains := h.contains
    rw [← List.drop_one, List.drop_drop, Nat.add_comm 1 n] at hcontains
    exact hcontains
  drops := by
    rw [h.drops]
    omega

theorem every_safDropLoop_full (fuel : Nat) (hfuel : n < fuel) (hlen : LengthOk raw)
    (hq : Placed s.flash s.inst q n) (hneeds : NeedsSector s.inst raw)
    (hfull : RingFull s.inst) :
    Program.EveryCall (CflApiStep NoFaults) (LoopDone inst raw q n (dropsIn s.calls))
      (safDropLoop raw fuel .full inst) s := by
  induction fuel generalizing s inst q n with
  | zero => exact absurd hfuel (Nat.not_lt_zero _)
  | succ fuel ih =>
      unfold safDropLoop
      rw [if_pos rfl]
      apply Program.every_call
      intro drop s₁ hdrop
      rcases hdrop.removed (.inr rfl) hq with ⟨hok, hremoved⟩
      have hdrops : dropsIn s₁.calls = dropsIn s.calls + 1 := by
        rw [hdrop.calls, hok]
        exact dropsIn_drop _ _
      have hneeds₁ : NeedsSector s₁.inst raw := by
        unfold NeedsSector
        rw [hremoved.tailOffset]
        exact hneeds
      rw [if_neg (by rw [hok]; simp), if_neg (by rw [hok]; simp)]
      apply Program.every_call
      intro append s₂ happend
      have hsame : dropsIn s₂.calls = dropsIn s.calls + 1 := by
        rw [happend.calls, dropsIn_append, hdrops]
      rcases hremoved.head with ⟨hmany, hhead, hcount, hplaced⟩ | ⟨hlast, hcontains, hleft⟩
      · -- the head stays in its sector: the ring is still full
        have hfull₁ : RingFull s₁.inst := by
          constructor
          · rw [hremoved.tailSector, hhead]
            exact hfull.1
          · exact hcount
        rcases happend.append_refused hlen hneeds₁ hfull₁ with ⟨herr, hflash, hinst⟩
        have hafter : Placed s₂.flash s₂.inst q.tail (n - 1) := by
          rw [hflash, hinst]
          exact hplaced
        have hloop := @ih s₂ (safEntryRemoved { inst with hasPending := false }) q.tail (n - 1)
          (by omega) hafter (by rw [hinst]; exact hneeds₁) (by rw [hinst]; exact hfull₁)
        rw [herr]
        apply Program.every_mono _ hloop
        intro out s' hdone
        rw [hsame] at hdone
        have hnext := hdone.after_drop
        have hn : n - 1 + 1 = n := by omega
        rw [hn] at hnext
        exact hnext
      · -- the last record of the sector is gone, and the head with it
        have hroom : ¬ (NeedsSector s₁.inst raw ∧ RingFull s₁.inst) := by
          intro hfull₁
          rcases hleft with hzero | hnext
          · exact hfull₁.2.2 hzero
          · have hring := hfull₁.2.1
            rw [hremoved.tailSector, hnext, hfull.1] at hring
            exact cflNextSector_ne hq.head_lt hring
        rcases happend.append_room hcontains hlen hroom with ⟨herr, hafter⟩
        rw [herr, hlast]
        apply Program.every_mono _ (every_safDropLoop_stored fuel (by omega) hafter)
        intro out s' hdone
        rw [hsame] at hdone
        exact hdone.after_drop

/-- What `saf_enqueue` may drop: the records of the one sector it needs, from a full ring. -/
structure MakesRoom (m : Memory) (cfl : CflInst) (raw : List UInt8) (q : List (List UInt8))
    (k : Nat) : Prop where
  needs : NeedsSector cfl raw
  full : RingFull cfl
  le : k <= q.length
  sector : SectorEnds m (cflNextSector cfl.tailSector) (q.take k)

theorem every_safAppendLoop_done (hq : Contains s.flash s.inst q) (hlen : LengthOk raw) :
    Program.EveryCall (CflApiStep NoFaults)
      (fun out s' => exists k, LoopDone inst raw q k (dropsIn s.calls) out s' ∧
        (k ≠ 0 -> MakesRoom s.flash s.inst raw q k))
      (safAppendLoop inst raw) s := by
  apply Program.every_call
  intro append s₁ happend
  have hsame : dropsIn s₁.calls = dropsIn s.calls := by
    rw [happend.calls, dropsIn_append]
  by_cases hfull : NeedsSector s.inst raw ∧ RingFull s.inst
  · rcases hfull with ⟨hneeds, hring⟩
    rcases hq.placed (hq.ne_nil_of_full hring) with ⟨n, hplaced⟩
    rcases hplaced.sectorEnds with ⟨hends, hle⟩
    rcases happend.append_refused hlen hneeds hring with ⟨herr, hflash, hinst⟩
    have hbound := hq.length_le
    have hfuel : n < safLoopFuel := by
      simp only [safLoopFuel]
      omega
    have hloop := @every_safDropLoop_full s₁ inst q raw n safLoopFuel hfuel hlen
      (by rw [hflash, hinst]; exact hplaced) (by rw [hinst]; exact hneeds)
      (by rw [hinst]; exact hring)
    rw [herr]
    apply Program.every_mono _ hloop
    intro out s' hdone
    rw [hsame] at hdone
    refine ⟨n, hdone, fun _ => ⟨hneeds, hring, hle, ?_⟩⟩
    rw [hring.1]
    exact hends
  · rcases happend.append_room hq hlen hfull with ⟨herr, hafter⟩
    rw [herr]
    apply Program.every_mono _ (every_safDropLoop_stored safLoopFuel (Nat.succ_pos _) hafter)
    intro out s' hdone
    rw [hsame] at hdone
    exact ⟨0, hdone, fun hne => absurd rfl hne⟩

end Loop

/-!
## The buffer
-/

def SafEntry.Valid (e : SafEntry) : Prop :=
  (0 < e.topic.length ∧ e.topic.length <= safTopicMax) ∧
    (0 < e.payload.length ∧ e.payload.length <= safPayloadMax)

instance (e : SafEntry) : Decidable e.Valid :=
  inferInstanceAs (Decidable (_ ∧ _))

def SafEntry.blob (e : SafEntry) : List UInt8 :=
  safSerialise e.topic e.payload e.qos

/-- Entries in the order they were stored, how many have left from the front, and the number
of the entry `saf_dequeue` returned last. -/
structure Buffer where
  stored : List SafEntry
  gone : Nat
  returned : Option Nat

namespace Buffer

def waiting (B : Buffer) : List SafEntry :=
  B.stored.drop B.gone

/-- What a caller sees of a call, when storing an entry has `dropped` this many. -/
def perform (B : Buffer) (dropped : Nat) : SafCall -> SafAnswer × Buffer
  | .enqueue topic buf qos =>
      if SafEntry.Valid ⟨topic, buf, qos⟩ then
        (⟨.ok, none⟩,
          { B with stored := B.stored ++ [⟨topic, buf, qos⟩], gone := B.gone + dropped })
      else
        (⟨.tooLarge, none⟩, B)
  | .dequeue =>
      match B.waiting with
      | [] => (⟨.empty, none⟩, B)
      | e :: _ => (⟨.ok, some e⟩, { B with returned := some B.gone })
  | .confirm =>
      if B.returned = some B.gone then
        (⟨.ok, none⟩, { B with gone := B.gone + 1 })
      else
        (⟨.ok, none⟩, B)

end Buffer

/-- The flash, the log's handle and the buffer's own fields hold the entries that wait. -/
structure Buffered (m : Memory) (cfl : CflInst) (inst : SafInst) (B : Buffer) : Prop where
  contains : Contains m cfl (B.waiting.map SafEntry.blob)
  valid : forall e, e ∈ B.stored -> e.Valid
  gone_le : B.gone <= B.stored.length
  count : inst.entryCount = cfl.entryCount
  pending : inst.hasPending = true ↔ B.returned = some B.gone
  returned_le : forall n, B.returned = some n -> n <= B.gone
  front : inst.hasPending = true -> B.waiting.head? = some inst.pending

section Buffered

variable {s : CflDevice} {m m' : Memory} {cfl cfl' : CflInst} {inst : SafInst} {B : Buffer}

theorem SafEntry.blob_length (e : SafEntry) :
    e.blob.length = e.topic.length + e.payload.length + 4 := by
  unfold SafEntry.blob safSerialise
  simp
  omega

variable {e : SafEntry}

theorem SafEntry.Valid.lengthOk (h : e.Valid) : LengthOk e.blob := by
  have htopic : e.topic.length <= 64 := h.1.2
  have hpayload : e.payload.length <= 4010 := h.2.2
  constructor
  · rw [e.blob_length]
    omega
  · rw [e.blob_length]
    omega

theorem SafEntry.Valid.parses (h : e.Valid) : Parses e.blob e :=
  safSerialise_parses e.qos h.1 h.2

theorem Buffered.stored {k drops : Nat} {out : SafDropExit × SafInst} (h : Buffered m cfl inst B)
    (hvalid : e.Valid) (hk : k <= B.waiting.length)
    (hdone : LoopDone inst e.blob (B.waiting.map SafEntry.blob) k drops out s) :
    Buffered s.flash s.inst { out.2 with entryCount := u32 (out.2.entryCount + 1) }
      { B with stored := B.stored ++ [e], gone := B.gone + k } := by
  have hgone := h.gone_le
  have hlength : B.waiting.length = B.stored.length - B.gone := List.length_drop
  have hwaiting : (B.stored ++ [e]).drop (B.gone + k) = B.waiting.drop k ++ [e] := by
    rw [List.drop_append_of_le_length (by omega), ← List.drop_drop]
    rfl
  have hcontains : Contains s.flash s.inst
      (((B.stored ++ [e]).drop (B.gone + k)).map SafEntry.blob) := by
    rw [hwaiting, List.map_append, List.map_drop]
    exact hdone.contains
  have hstart := h.contains.count
  have hafter := hcontains.count
  have hbound := hcontains.length_le
  rw [hwaiting] at hafter hbound
  simp only [List.length_map, List.length_append, List.length_drop, List.length_cons,
    List.length_nil] at hstart hafter hbound
  have hinst := hdone.inst
  constructor
  · exact hcontains
  · intro e' hmem
    rcases List.mem_append.mp hmem with hold | hnew
    · exact h.valid e' hold
    · rw [List.mem_singleton.mp hnew]
      exact hvalid
  · change B.gone + k <= (B.stored ++ [e]).length
    rw [List.length_append]
    omega
  · change u32 (out.2.entryCount + 1) = s.inst.entryCount
    rw [hinst]
    change u32 (inst.entryCount - k + 1) = _
    rw [h.count, hstart, hafter]
    exact Nat.mod_eq_of_lt (by omega)
  · change out.2.hasPending = true ↔ B.returned = some (B.gone + k)
    rw [hinst]
    cases k with
    | zero => exact h.pending
    | succ k =>
        constructor
        · intro hpending
          cases hpending
        · intro hreturned
          have hle := h.returned_le _ hreturned
          omega
  · intro n hreturned
    have hle := h.returned_le n hreturned
    exact Nat.le_add_right_of_le hle
  · change out.2.hasPending = true -> ((B.stored ++ [e]).drop (B.gone + k)).head? = some out.2.pending
    rw [hinst]
    cases k with
    | zero =>
        intro hpending
        rw [hwaiting, List.drop_zero, List.head?_append, h.front hpending]
        rfl
    | succ k =>
        intro hpending
        cases hpending

theorem Buffered.confirmed {inst' : SafInst} (h : Buffered m cfl inst B) (hne : B.waiting ≠ [])
    (hcontains : Contains m' cfl' (B.waiting.map SafEntry.blob).tail)
    (hcount : inst'.entryCount = inst.entryCount - 1) (hfree : inst'.hasPending = false) :
    Buffered m' cfl' inst' { B with gone := B.gone + 1 } := by
  have hlength : B.waiting.length = B.stored.length - B.gone := List.length_drop
  have hpos := List.length_pos_iff.mpr hne
  have hrest : B.stored.drop (B.gone + 1) = B.waiting.tail := by
    unfold Buffer.waiting
    rw [List.tail_drop]
  have hafter : Contains m' cfl' ((B.stored.drop (B.gone + 1)).map SafEntry.blob) := by
    rw [hrest, List.map_tail]
    exact hcontains
  constructor
  · exact hafter
  · exact h.valid
  · change B.gone + 1 <= B.stored.length
    rw [hlength] at hpos
    exact Nat.le_of_lt_succ (Nat.succ_lt_succ (Nat.lt_of_sub_pos hpos))
  · have hleft : cfl'.entryCount = B.stored.length - (B.gone + 1) := by
      rw [hafter.count, List.length_map, List.length_drop]
    rw [hcount, h.count, h.contains.count, hleft, List.length_map, hlength, Nat.sub_add_eq]
  · constructor
    · intro hpending
      rw [hfree] at hpending
      cases hpending
    · intro hreturned
      exact absurd (h.returned_le _ hreturned) (Nat.not_succ_le_self _)
  · intro n hreturned
    exact Nat.le_succ_of_le (h.returned_le n hreturned)
  · intro hpending
    rw [hfree] at hpending
    cases hpending

theorem Buffered.dequeued {rest : List SafEntry} (h : Buffered m cfl inst B)
    (hwaiting : B.waiting = e :: rest) :
    Buffered m cfl { inst with pending := e, hasPending := true }
      { B with returned := some B.gone } where
  contains := h.contains
  valid := h.valid
  gone_le := h.gone_le
  count := h.count
  pending := by simp
  returned_le := fun n hreturned => Nat.le_of_eq (Option.some.inj hreturned).symm
  front := by
    intro _
    change B.waiting.head? = some e
    rw [hwaiting]
    rfl

/-- Only storing an entry drops any, and only for room. -/
def DropsOldest (m : Memory) (cfl : CflInst) (B : Buffer) (call : SafCall) (k : Nat) : Prop :=
  k ≠ 0 -> exists topic buf qos, call = .enqueue topic buf qos ∧
    MakesRoom m cfl (safSerialise topic buf qos) (B.waiting.map SafEntry.blob) k

/-- A call answers as the buffer says, and leaves what the buffer says. -/
def CallDone (m : Memory) (cfl : CflInst) (B : Buffer) (call : SafCall)
    (out : SafAnswer × SafInst) (s : CflDevice) : Prop :=
  out.1 = (B.perform (dropsIn s.calls) call).1 ∧ DropsOldest m cfl B call (dropsIn s.calls) ∧
    Buffered s.flash s.inst out.2 (B.perform (dropsIn s.calls) call).2

theorem every_safEnqueue (h : Buffered s.flash s.inst inst B) (hcalls : s.calls = [])
    (topic buf : List UInt8) (qos : UInt8) :
    Program.EveryCall (CflApiStep NoFaults)
      (CallDone s.flash s.inst B (.enqueue topic buf qos))
      (safPerform inst (.enqueue topic buf qos)) s := by
  apply Program.every_bind
  unfold safEnqueue
  have hnone : dropsIn s.calls = 0 := by
    rw [hcalls]
    rfl
  apply Program.every_ite
  · intro hinvalid
    have hbad : ¬ SafEntry.Valid ⟨topic, buf, qos⟩ := by
      intro hvalid
      rcases hvalid with ⟨⟨ht, ht'⟩, hb, hb'⟩
      dsimp only at ht ht' hb hb'
      omega
    have hperform : B.perform (dropsIn s.calls) (.enqueue topic buf qos) =
        (⟨.tooLarge, none⟩, B) := if_neg hbad
    change CallDone _ _ _ _ (⟨.tooLarge, none⟩, inst) s
    refine ⟨by rw [hperform], fun hne => absurd hnone hne, ?_⟩
    rw [hperform]
    exact h
  · intro hfits
    have hvalid : SafEntry.Valid ⟨topic, buf, qos⟩ := by
      constructor
      · constructor
        · change 0 < topic.length
          omega
        · change topic.length <= safTopicMax
          omega
      · constructor
        · change 0 < buf.length
          omega
        · change buf.length <= safPayloadMax
          omega
    apply Program.every_seq (every_safAppendLoop_done h.contains hvalid.lengthOk)
    intro out s' hend
    rcases hend with ⟨k, hdone, hroom⟩
    have hk : dropsIn s'.calls = k := by
      rw [hdone.drops, hnone, Nat.zero_add]
    have hle : k <= B.waiting.length := by
      cases k with
      | zero => exact Nat.zero_le _
      | succ k =>
          have hle := (hroom (Nat.succ_ne_zero k)).le
          rw [List.length_map] at hle
          exact hle
    have hperform : B.perform (dropsIn s'.calls) (.enqueue topic buf qos) =
        (⟨.ok, none⟩, { B with stored := B.stored ++ [⟨topic, buf, qos⟩], gone := B.gone + k }) := by
      rw [hk]
      exact if_pos hvalid
    apply Program.every_ite
    · intro _
      refine ⟨by rw [hperform], ?_, ?_⟩
      · rw [hk]
        exact fun hne => ⟨topic, buf, qos, rfl, hroom hne⟩
      · rw [hperform]
        exact h.stored hvalid hle hdone
    · intro herr
      exact absurd hdone.exit herr

theorem every_safDequeue (h : Buffered s.flash s.inst inst B) (hcalls : s.calls = []) :
    Program.EveryCall (CflApiStep NoFaults) (CallDone s.flash s.inst B .dequeue)
      (safPerform inst .dequeue) s := by
  apply Program.every_bind
  unfold safDequeue
  apply Program.every_ite
  · intro hpending
    have hfront := h.front hpending
    have hreturned := h.pending.mp hpending
    cases hwaiting : B.waiting with
    | nil =>
        rw [hwaiting] at hfront
        cases hfront
    | cons e rest =>
        rw [hwaiting] at hfront
        cases hfront
        have hperform : B.perform (dropsIn s.calls) .dequeue = (⟨.ok, some inst.pending⟩, B) := by
          unfold Buffer.perform
          rw [hwaiting]
          dsimp only
          rw [← hreturned]
        change CallDone _ _ _ _ (⟨.ok, some inst.pending⟩, inst) s
        refine ⟨by rw [hperform], ?_, ?_⟩
        · rw [hcalls]
          exact fun hne => absurd rfl hne
        · rw [hperform]
          exact h
  · intro hfree
    change Program.EveryCall _ _ (safPeekLoop (254 * 256 + 1) inst >>= _) s
    unfold safPeekLoop
    apply Program.every_bind
    apply Program.every_call
    intro peek s₁ hpeek
    rcases hpeek.peeked h.contains with ⟨hflash, hinst, hanswer⟩
    have hdrops : dropsIn s₁.calls = 0 := by
      rw [hpeek.calls, hcalls]
      exact List.countP_cons_of_neg (by simp)
    have hsame : Buffered s₁.flash s₁.inst inst B := by
      rw [hflash, hinst]
      exact h
    cases hwaiting : B.waiting with
    | nil =>
        rw [hwaiting] at hanswer
        have hempty : peek = ⟨.empty, none, none⟩ := hanswer
        have hperform : B.perform (dropsIn s₁.calls) .dequeue = (⟨.empty, none⟩, B) := by
          unfold Buffer.perform
          rw [hwaiting]
        subst hempty
        change CallDone _ _ _ _ (⟨.empty, none⟩, inst) s₁
        refine ⟨by rw [hperform], fun hne => absurd hdrops hne, ?_⟩
        rw [hperform]
        exact hsame
    | cons e rest =>
        rw [hwaiting] at hanswer
        have hfound : peek = ⟨.ok, some e.blob, some e.blob.length⟩ := hanswer
        have hvalid : e.Valid := by
          apply h.valid e
          apply List.mem_of_mem_drop (i := B.gone)
          change e ∈ B.waiting
          rw [hwaiting]
          exact List.mem_cons_self
        have hparses := hvalid.parses inst.pending
        have hperform : B.perform (dropsIn s₁.calls) .dequeue =
            (⟨.ok, some e⟩, { B with returned := some B.gone }) := by
          unfold Buffer.perform
          rw [hwaiting]
        rw [hfound, if_neg (by simp), if_pos (.inl rfl)]
        dsimp only
        rw [if_pos rfl, Option.getD_some, hparses]
        change CallDone _ _ _ _ (⟨.ok, some e⟩, { inst with pending := e, hasPending := true }) s₁
        refine ⟨by rw [hperform], fun hne => absurd hdrops hne, ?_⟩
        rw [hperform]
        exact hsame.dequeued hwaiting

theorem every_safConfirm (h : Buffered s.flash s.inst inst B) (hcalls : s.calls = []) :
    Program.EveryCall (CflApiStep NoFaults) (CallDone s.flash s.inst B .confirm)
      (safPerform inst .confirm) s := by
  apply Program.every_bind
  unfold safConfirm
  apply Program.every_ite
  · intro hfree
    have hother : B.returned ≠ some B.gone := by
      intro hreturned
      rw [h.pending.mpr hreturned] at hfree
      cases hfree
    have hperform : B.perform (dropsIn s.calls) .confirm = (⟨.ok, none⟩, B) := if_neg hother
    change CallDone _ _ _ _ (⟨.ok, none⟩, inst) s
    refine ⟨by rw [hperform], ?_, ?_⟩
    · rw [hcalls]
      exact fun hne => absurd rfl hne
    · rw [hperform]
      exact h
  · intro hheld
    have hpending : inst.hasPending = true := by simpa using hheld
    have hreturned := h.pending.mp hpending
    have hfront := h.front hpending
    cases hwaiting : B.waiting with
    | nil =>
        rw [hwaiting] at hfront
        cases hfront
    | cons e rest =>
    rcases h.contains.placed (by rw [hwaiting]; simp) with ⟨n, hplaced⟩
    apply Program.every_call
    intro consume s₁ hconsume
    rcases hconsume.removed (.inl rfl) hplaced with ⟨hok, hremoved⟩
    have hperform : B.perform (dropsIn s₁.calls) .confirm =
        (⟨.ok, none⟩, { B with gone := B.gone + 1 }) := if_pos hreturned
    have hdrops : dropsIn s₁.calls = 0 := by
      rw [hconsume.calls, hcalls]
      exact List.countP_cons_of_neg (by simp)
    rw [if_neg (by rw [hok]; simp)]
    refine ⟨by rw [hperform], fun hne => absurd hdrops hne, ?_⟩
    rw [hperform]
    apply h.confirmed _ hremoved.contains
    · rw [safEntryRemoved_eq]
    · rw [safEntryRemoved_eq]
    · rw [hwaiting]
      simp

theorem every_safPerform_done (h : Buffered s.flash s.inst inst B) (hcalls : s.calls = [])
    (call : SafCall) :
    Program.EveryCall (CflApiStep NoFaults) (CallDone s.flash s.inst B call)
      (safPerform inst call) s := by
  cases call with
  | enqueue topic buf qos => exact every_safEnqueue h hcalls topic buf qos
  | dequeue => exact every_safDequeue h hcalls
  | confirm => exact every_safConfirm h hcalls

end Buffered

/-!
## Whole runs
-/

/-- A buffer created over a log that holds serialised entries, and then called.  What a call
has dropped is read off the drops that the log answered. -/
inductive Tracked : Memory -> CflInst -> SafInst -> Buffer -> Prop where
  | create {m₀ m : Memory} {cfl : CflInst} {entries : List SafEntry} (capacity : Nat) :
      FlashHistory m₀ -> cflCreate.eval qspiFlash m₀ = (some cfl, m) ->
      (forall e, e ∈ entries -> e.Valid) ->
      ((cflDrainAll cfl).eval qspiFlash m).1 = (.empty, entries.map SafEntry.blob) ->
      Tracked m cfl (safCreate (cflGetOccupancy cfl).1 capacity) ⟨entries, 0, none⟩
  | call {m m' : Memory} {cfl cfl' : CflInst} {inst inst' : SafInst} {B : Buffer}
      {call : SafCall} {answer : SafAnswer} {calls : List CflEvent} :
      Tracked m cfl inst B ->
      Program.Calls (CflApiStep NoFaults) (safPerform inst call) ⟨m, cfl, []⟩
        (answer, inst') ⟨m', cfl', calls⟩ ->
      Tracked m' cfl' inst' (B.perform (dropsIn calls) call).2

section Tracked

variable {m : Memory} {cfl : CflInst} {inst : SafInst} {B : Buffer}

theorem Tracked.buffered (h : Tracked m cfl inst B) : Buffered m cfl inst B := by
  induction h with
  | @create m₀ m cfl entries capacity hhistory hcreate hvalid hdrain =>
      rcases hhistory.holds with ⟨R, hholds⟩
      rcases contains_of_create hholds with ⟨cfl', q, heval, hcontains⟩
      rw [heval] at hcreate
      cases hcreate
      have hq := hcontains.drainAll
      rw [hdrain] at hq
      rw [← (Prod.mk.inj hq).2] at hcontains
      exact ⟨hcontains, hvalid, Nat.zero_le _, rfl, by simp [safCreate],
        (fun _ hreturned => nomatch hreturned), (fun hpending => nomatch hpending)⟩
  | call _ hcalls ih => exact (Program.every_sound (every_safPerform_done ih rfl _) hcalls).2.2

/-- The buffer keeps its count in step with the ring, holds what the ring holds, and every
call of it ends, answers as the buffer says, and drops no more than the records of the one
sector it needs. -/
theorem buffer_drops_oldest (h : Tracked m cfl inst B) :
    inst.entryCount = cfl.entryCount ∧ cfl.entryCount = B.waiting.length ∧
      ((cflDrainAll cfl).eval qspiFlash m).1 = (.empty, B.waiting.map SafEntry.blob) ∧
      forall call,
        (exists out s', Program.Calls (CflApiStep NoFaults) (safPerform inst call) ⟨m, cfl, []⟩
          out s') ∧
        forall out s', Program.Calls (CflApiStep NoFaults) (safPerform inst call) ⟨m, cfl, []⟩
          out s' ->
          out.1 = (B.perform (dropsIn s'.calls) call).1 ∧
            DropsOldest m cfl B call (dropsIn s'.calls) ∧
            Tracked s'.flash s'.inst out.2 (B.perform (dropsIn s'.calls) call).2 := by
  have hbuffered := h.buffered
  refine ⟨hbuffered.count, ?_, hbuffered.contains.drainAll, ?_⟩
  · rw [hbuffered.contains.count, List.length_map]
  · intro call
    constructor
    · exact Program.exists_calls answer_exists (safPerform inst call) _
    · intro out s' hcalls
      rcases Program.every_sound (every_safPerform_done hbuffered rfl call) hcalls with
        ⟨hanswer, hdrops, _⟩
      exact ⟨hanswer, hdrops, h.call hcalls⟩

end Tracked

theorem tracked_erased :
    Tracked erasedFlash freshInst (safCreate (cflGetOccupancy freshInst).1 8) ⟨[], 0, none⟩ := by
  rcases create_erased (m := erasedFlash) (fun _ _ _ => rfl) with ⟨cfl, heval, hcontains⟩
  have hinst : (cflCreate.eval qspiFlash erasedFlash).1 = some freshInst := by decide +kernel
  rw [heval] at hinst
  cases hinst
  exact .create 8 (.erased (fun _ _ _ => rfl)) heval (fun e he => by cases he)
    hcontains.drainAll

/-- Storing one small entry over and over, the buffer holds ever more of them until storing
one drops others. -/
theorem tracked_until_drop (n : Nat) :
    (exists m cfl inst B, Tracked m cfl inst B ∧ n <= B.waiting.length) ∨
      exists m cfl inst B out s', Tracked m cfl inst B ∧
        Program.Calls (CflApiStep NoFaults) (safPerform inst (.enqueue [97] [1] 0)) ⟨m, cfl, []⟩
          out s' ∧ 0 < dropsIn s'.calls := by
  induction n with
  | zero => exact .inl ⟨_, _, _, _, tracked_erased, Nat.zero_le _⟩
  | succ n ih =>
      rcases ih with ⟨m, cfl, inst, B, htracked, hn⟩ | hdrops
      · rcases Program.exists_calls answer_exists (safPerform inst (.enqueue [97] [1] 0))
          ⟨m, cfl, []⟩ with ⟨out, s', hcalls⟩
        rcases Nat.eq_zero_or_pos (dropsIn s'.calls) with hnone | hdrop
        · left
          have hnext := htracked.call hcalls
          rw [hnone] at hnext
          refine ⟨_, _, _, _, hnext, ?_⟩
          have hgone := htracked.buffered.gone_le
          change n <= (B.stored.drop B.gone).length at hn
          change n + 1 <= ((B.stored ++ [smallEntry 97 1]).drop (B.gone + 0)).length
          rw [List.length_drop] at hn
          rw [List.length_drop, List.length_append, List.length_singleton]
          omega
        · exact .inr ⟨m, cfl, inst, B, out, s', htracked, hcalls, hdrop⟩
      · exact .inr hdrops

/-- A buffer filled until storing an entry drops others: they lie at the front, in the one
sector the entry needs, and the entry is stored behind the rest. -/
theorem buffer_drops_oldest_full :
    exists m cfl inst B out s', Tracked m cfl inst B ∧
      Program.Calls (CflApiStep NoFaults) (safPerform inst (.enqueue [97] [1] 0)) ⟨m, cfl, []⟩
        out s' ∧
      0 < dropsIn s'.calls ∧ out.1 = ⟨.ok, none⟩ ∧
      MakesRoom m cfl (smallBlob 97 1) (B.waiting.map SafEntry.blob) (dropsIn s'.calls) ∧
      Tracked s'.flash s'.inst out.2
        ⟨B.stored ++ [smallEntry 97 1], B.gone + dropsIn s'.calls, B.returned⟩ := by
  rcases tracked_until_drop (254 * 256 + 1) with
    ⟨m, cfl, inst, B, htracked, hlong⟩ | ⟨m, cfl, inst, B, out, s', htracked, hcalls, hdrop⟩
  · have hle := htracked.buffered.contains.length_le
    rw [List.length_map] at hle
    exact absurd (Nat.le_trans hlong hle) (by decide)
  · rcases (buffer_drops_oldest htracked).2.2.2 (.enqueue [97] [1] 0) with ⟨_, hall⟩
    rcases hall out s' hcalls with ⟨hanswer, hdrops, hnext⟩
    rcases hdrops (Nat.ne_of_gt hdrop) with ⟨topic, buf, qos, hcall, hroom⟩
    cases hcall
    exact ⟨m, cfl, inst, B, out, s', htracked, hcalls, hdrop, hanswer, hroom, hnext⟩

end StoreAndForward
end Gateway
end EnvMonitor
