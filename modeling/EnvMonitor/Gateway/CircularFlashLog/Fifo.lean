import EnvMonitor.Gateway.CircularFlashLog.Session

/-!
# The ring is a queue

On a flash that does not fail, the log is a first-in first-out queue of payloads.
-/

namespace EnvMonitor.Gateway.CircularFlashLog

open Device Drivers
open Program (eval_bind eval_pure wp wp_bind wp_mono)

/-!
## Exits without failures
-/

section NeverFails

variable {F : Faults qspi} {m m' : Memory} {R R' : Ring} {inst : CflInst} {out : CflErr × CflInst}
variable {data : List UInt8} {r : Rec} {post : List Rec} {previous : Nat}

theorem MetaExit.ok_of_neverFails (hF : F.NeverFails)
    (h : MetaExit F R inst (some out) R') : out.1 = .ok := by
  cases h with
  | stored => rfl
  | failed _ _ _ _ hfail =>
      obtain ⟨_, _, _, hn⟩ := hfail
      exact (hF _ _ hn).elim

theorem PersistExit.ok_of_neverFails (hF : F.NeverFails)
    (h : PersistExit F R previous inst (some out) R') : out.1 = .ok := by
  cases h with
  | same _ => rfl
  | stores _ _ _ hmeta => exact hmeta.ok_of_neverFails hF

theorem WriteExit.ok_of_neverFails (hF : F.NeverFails)
    (h : WriteExit F R inst data (some out) R') : out.1 = .ok := by
  cases h with
  | done _ _ => rfl
  | failed hfail =>
      obtain ⟨_, _, _, hn⟩ := hfail
      exact (hF _ _ hn).elim
  | failedDone _ _ hfail =>
      obtain ⟨_, _, _, hn, _⟩ := hfail
      exact (hF _ _ hn).elim

theorem AppendExit.of_neverFails (hF : F.NeverFails)
    (h : AppendExit F R inst data (some out) R') :
    (¬ LengthOk data ∧ out = (.tooLarge, inst)) ∨
      (LengthOk data ∧ NeedsSector inst data ∧ RingFull inst ∧ out = (.full, inst)) ∨
      (LengthOk data ∧ out.1 = .ok) := by
  cases h with
  | tooLarge hlen => exact .inl ⟨hlen, rfl⟩
  | here _ _ hlen _ hwrite => exact .inr (.inr ⟨hlen, hwrite.ok_of_neverFails hF⟩)
  | full hlen hneeds hfull => exact .inr (.inl ⟨hlen, hneeds, hfull, rfl⟩)
  | eraseFailed _ _ _ _ _ hfail =>
      obtain ⟨_, _, hn⟩ := hfail
      exact (hF _ _ hn).elim
  | advance _ _ hlen _ _ _ hwrite => exact .inr (.inr ⟨hlen, hwrite.ok_of_neverFails hF⟩)
  | moveFailed _ _ _ _ _ _ herr hmove => exact absurd (hmove.ok_of_neverFails hF) herr
  | moveDone _ _ _ _ hlen _ _ _ hwrite => exact .inr (.inr ⟨hlen, hwrite.ok_of_neverFails hF⟩)

theorem ConsumeExit.ok_of_neverFails (hF : F.NeverFails)
    (h : ConsumeExit F R inst r post (some out) R') : out.1 = .ok := by
  cases h with
  | readFailed hfail =>
      obtain ⟨_, hn⟩ := hfail
      exact (hF _ _ hn).elim
  | advances _ _ hadvance =>
      cases hadvance with
      | drains _ _ _ hpersist => exact hpersist.ok_of_neverFails hF
      | moreFailed _ hfail =>
          obtain ⟨_, hn⟩ := hfail
          exact (hF _ _ hn).elim
      | stays _ _ _ _ hpersist => exact hpersist.ok_of_neverFails hF
      | next _ _ _ _ hpersist => exact hpersist.ok_of_neverFails hF

theorem appendSafe_of_neverFails (hF : F.NeverFails) (inst : CflInst) (data : List UInt8) :
    AppendSafe F inst data :=
  fun _ _ _ _ hn => (hF _ _ hn).elim

theorem consumeSafe_of_neverFails (hF : F.NeverFails) (m : Memory) (inst : CflInst) :
    ConsumeSafe F m inst :=
  fun _ hn => (hF _ _ hn).elim

end NeverFails

/-!
## The contents of the log
-/

/-- The flash and the instance hold the payloads `q`, oldest first. -/
def Contains (m : Memory) (inst : CflInst) (q : List (List UInt8)) : Prop :=
  exists R rs, Sim m R inst ∧ Session R inst rs ∧ rs.map Rec.payload = q

section

variable {F : Faults qspi} {m : Memory} {inst : CflInst} {q : List (List UInt8)}

theorem Contains.count (h : Contains m inst q) : inst.entryCount = q.length := by
  obtain ⟨R, rs, _, hsession, rfl⟩ := h
  rw [hsession.count, List.length_map]

theorem Contains.bytes (h : Contains m inst q) :
    inst.byteCount = (q.map List.length).sum := by
  obtain ⟨R, rs, _, hsession, rfl⟩ := h
  rw [hsession.bytes, payloadBytes, List.map_map]
  rfl

theorem Session.nonempty {R : Ring} {r : Rec} {rest : List Rec}
    (h : Session R inst (r :: rest)) :
    inst.entryCount ≠ 0 ∧ R.recs inst.tailSector ≠ [] ∧
      exists d pre post, Layout R inst (r :: rest) d pre r post := by
  refine ⟨fun hzero => by simpa using h.length_zero_iff.mp hzero, ?_⟩
  rcases h.layout with ⟨hnil, _⟩ | ⟨hfull, d, pre, s, post, hlay⟩
  · simp at hnil
  · have hqueue := hlay.queue
    have hrs : r = s := by
      rw [List.cons_append] at hqueue
      exact (List.cons.inj hqueue).1
    subst hrs
    exact ⟨hfull, d, pre, post, hlay⟩

theorem Contains.append (h : Contains m inst q) (data : List UInt8)
    (hsafe : AppendSafe F inst data) :
    (cflAppend inst data).wp qspiFlash F
      (fun out m' => (out.1 = .ok ∧ Contains m' out.2 (q ++ [data])) ∨
        (out.1 ≠ .ok ∧ Contains m' out.2 q))
      (fun _ => True) m := by
  obtain ⟨R, rs, hsim, hsession, rfl⟩ := h
  apply wp_mono _ (fun _ _ => trivial) (wp_cflAppend hsim data)
  rintro out m' ⟨R', hexit, hsim'⟩
  rcases hsession.append hsim hsafe hexit hsim'.holds with
    ⟨hok, new, hnew, hafter⟩ | ⟨herr, hafter⟩
  · exact .inl ⟨hok, R', _, hsim', hafter, by simp [hnew]⟩
  · exact .inr ⟨herr, R', _, hsim', hafter, rfl⟩

/-- What a peek answers: the front payload, if it fits the caller's buffer and no read
failed. -/
def Peeked (F : Faults qspi) (maxLen : Nat) (q : List (List UInt8)) (answer : CflAnswer) :
    Prop :=
  match q with
  | [] => answer = ⟨.empty, none, none⟩
  | front :: _ =>
      (front.length <= maxLen ∧ answer = ⟨.ok, some front, some front.length⟩) ∨
        (front.length > maxLen ∧ answer = ⟨.tooLarge, none, some front.length⟩) ∨
        (answer.err = .flashRead ∧ exists op n, F.fails op n)

theorem Contains.peek (h : Contains m inst q) (maxLen : Nat) :
    (cflPeekOldest inst maxLen).wp qspiFlash F
      (fun answer m' => Peeked F maxLen q answer ∧ m' = m) (fun m' => m' = m) m := by
  obtain ⟨R, rs, hsim, hsession, rfl⟩ := h
  cases rs with
  | nil =>
      unfold cflPeekOldest
      rw [if_pos (hsession.length_zero_iff.mpr rfl)]
      exact ⟨rfl, rfl⟩
  | cons r rest =>
      obtain ⟨hcount, _, d, pre, post, hlay⟩ := hsession.nonempty
      apply wp_mono _ (fun _ hm => hm) (wp_cflPeekOldest hsim hlay.atHead hcount maxLen)
      rintro answer m' ⟨hexit, rfl⟩
      refine ⟨?_, rfl⟩
      cases hexit with
      | found hlen => exact .inl ⟨hlen, rfl⟩
      | tooLarge hlen => exact .inr (.inl ⟨hlen, rfl⟩)
      | readFailed _ hfail => exact .inr (.inr ⟨rfl, hfail⟩)

/-- What a consume or drop leaves: the queue without its front, or, after an error, possibly
the queue as it was. -/
theorem Contains.consume (h : Contains m inst q) (hsafe : ConsumeSafe F m inst) :
    (cflConsumeOldest inst).wp qspiFlash F
      (fun out m' => Contains m' out.2 q.tail ∨ (out.1 ≠ .ok ∧ Contains m' out.2 q))
      (fun _ => True) m := by
  obtain ⟨R, rs, hsim, hsession, rfl⟩ := h
  cases rs with
  | nil =>
      unfold cflConsumeOldest
      rw [if_pos (hsession.length_zero_iff.mpr rfl)]
      exact .inl ⟨R, [], hsim, hsession, rfl⟩
  | cons r rest =>
      obtain ⟨hcount, hfull, d, pre, post, hlay⟩ := hsession.nonempty
      apply wp_mono _ (fun _ _ => trivial) (wp_cflConsumeOldest hsim hlay.atHead hcount)
      rintro out m' ⟨R', hexit, hsim'⟩
      rcases hsession.consume hsim hfull hlay hsafe hexit with hafter | ⟨herr, hafter⟩
      · exact .inl ⟨R', rest, hsim', hafter, rfl⟩
      · exact .inr ⟨herr, R', r :: rest, hsim', hafter, rfl⟩

theorem Contains.consume_never (h : Contains m inst q) :
    (cflConsumeOldest inst).wp qspiFlash (Faults.never qspi)
      (fun out m' => (q = [] ∧ out = (.empty, inst) ∧ m' = m) ∨
        (q ≠ [] ∧ out.1 = .ok ∧ Contains m' out.2 q.tail)) (fun _ => True) m := by
  obtain ⟨R, rs, hsim, hsession, rfl⟩ := h
  cases rs with
  | nil =>
      unfold cflConsumeOldest
      rw [if_pos (hsession.length_zero_iff.mpr rfl)]
      exact .inl ⟨rfl, rfl, rfl⟩
  | cons r rest =>
      obtain ⟨hcount, hfull, d, pre, post, hlay⟩ := hsession.nonempty
      apply wp_mono _ (fun _ _ => trivial) (wp_cflConsumeOldest hsim hlay.atHead hcount)
      rintro out m' ⟨R', hexit, hsim'⟩
      have hok := hexit.ok_of_neverFails Faults.never_neverFails
      rcases hsession.consume hsim hfull hlay (consumeSafe_of_neverFails Faults.never_neverFails m inst) hexit with
        hafter | ⟨herr, _⟩
      · exact .inr ⟨by simp, hok, R', rest, hsim', hafter, rfl⟩
      · exact absurd hok herr

theorem Contains.drain (h : Contains m inst q) (hlen : forall d, d ∈ q -> d.length <= 4078)
    {fuel : Nat} (hfuel : q.length < fuel) :
    (cflDrain fuel inst).wp qspiFlash (Faults.never qspi)
      (fun out _ => out = (.empty, q)) (fun _ => True) m := by
  induction fuel generalizing m inst q with
  | zero => omega
  | succ fuel ih =>
      unfold cflDrain
      rw [wp_bind]
      apply wp_mono _ (fun _ _ => trivial) (h.peek cflMaxRecordBytes)
      rintro answer m' ⟨hpeek, rfl⟩
      cases q with
      | nil =>
          have hanswer : answer = ⟨.empty, none, none⟩ := hpeek
          rw [hanswer]
          rfl
      | cons front rest =>
          have hfront := hlen front (List.mem_cons_self ..)
          rcases hpeek with ⟨_, rfl⟩ | ⟨hlarge, _⟩ | ⟨_, _, _, hfail⟩
          · show wp qspiFlash _ _ _ (cflConsumeOldest inst >>= _) m'
            rw [wp_bind]
            apply wp_mono _ (fun _ _ => trivial) h.consume_never
            rintro ⟨err, after⟩ m'' (⟨hnil, _⟩ | ⟨_, hok, hafter⟩)
            · simp at hnil
            · have herr : err = .ok := hok
              subst herr
              show wp qspiFlash _ _ _ (cflDrain fuel after >>= _) m''
              rw [wp_bind]
              apply wp_mono _ (fun _ _ => trivial)
                (ih hafter (fun d hd => hlen d (List.mem_cons_of_mem _ hd)) (by
                  simp only [List.tail_cons, List.length_cons] at hfuel ⊢
                  omega))
              rintro ⟨last, tail⟩ _ heq
              cases heq
              rfl
          · simp only [cflMaxRecordBytes] at hlarge
            omega
          · exact hfail.elim

theorem Contains.payload_le (h : Contains m inst q) : forall d, d ∈ q -> d.length <= 4078 := by
  obtain ⟨R, rs, _, _, rfl⟩ := h
  intro d hd
  obtain ⟨r, _, rfl⟩ := List.mem_map.mp hd
  exact r.payload_le

theorem Contains.drainAll (h : Contains m inst q) :
    ((cflDrainAll inst).eval qspiFlash m).1 = (.empty, q) := by
  have hfuel : q.length < inst.entryCount + 1 := by
    rw [h.count]
    omega
  exact Program.wp_never_iff.mp (h.drain h.payload_le hfuel)

end

/-!
## The erased ring
-/

/-- Every byte of the partition is erased. -/
def PartitionErased (m : Memory) : Prop :=
  Memory.Blank m cflPartitionBaseAddr (256 * cflSectorSizeBytes)

theorem holds_erased {m : Memory} (h : PartitionErased m) : Holds m Ring.erased where
  sectors := by
    intro i hi
    apply SectorHolds.of_firstByte_erased
    apply h <;> rw [cflDataSectorAddr_eq] <;>
      simp only [cflPartitionBaseAddr, cflSectorSizeBytes] <;> omega
  slots := by
    intro s hs
    apply slotParse_erased
    apply h <;> rw [cflMetaSlotAddr_eq] <;>
      simp only [cflPartitionBaseAddr, cflSectorSizeBytes] <;> omega

theorem contains_of_create {m : Memory} {R : Ring} (h : Holds m R) :
    exists inst q, cflCreate.eval qspiFlash m = (some inst, m) ∧ Contains m inst q := by
  obtain ⟨inst, k, hreads, hbooted, hsim, _⟩ := reads_cflCreate (Faults.never qspi) h
  exact ⟨inst, _, hreads.eval_eq, R, _, hsim, hbooted.session hsim, rfl⟩

theorem create_erased {m : Memory} (h : PartitionErased m) :
    exists inst, cflCreate.eval qspiFlash m = (some inst, m) ∧ Contains m inst [] := by
  obtain ⟨inst, k, hreads, hbooted, hsim, _⟩ :=
    reads_cflCreate (Faults.never qspi) (holds_erased h)
  have hnone : joined Ring.erased inst.headSector k = [] := by
    unfold joined
    rw [List.flatMap_eq_nil_iff]
    intro _ _
    rfl
  have hsession := hbooted.session hsim
  rw [hnone] at hsession
  exact ⟨inst, hreads.eval_eq, Ring.erased, [], hsim, hsession, rfl⟩

/-!
## Refinement
-/

/-- The answer of a call that reports nothing but its code. -/
def codeOnly (err : CflErr) : CflAnswer :=
  ⟨err, none, none⟩

/-- What a queue of payloads allows each call to answer, and the queue behind it.  A
queue refuses an append for lack of room. -/
inductive FifoStep (noRoom : List UInt8 -> Prop) :
    List (List UInt8) -> CflCall -> CflAnswer -> List (List UInt8) -> Prop where
  | appended (q : List (List UInt8)) (data : List UInt8) :
      LengthOk data -> FifoStep noRoom q (.append data) (codeOnly .ok) (q ++ [data])
  | full (q : List (List UInt8)) (data : List UInt8) :
      LengthOk data -> noRoom data -> FifoStep noRoom q (.append data) (codeOnly .full) q
  | tooLarge (q : List (List UInt8)) (data : List UInt8) :
      ¬ LengthOk data -> FifoStep noRoom q (.append data) (codeOnly .tooLarge) q
  | peekEmpty (maxLen : Nat) : FifoStep noRoom [] (.peek maxLen) (codeOnly .empty) []
  | peek (front : List UInt8) (rest : List (List UInt8)) (maxLen : Nat) :
      front.length <= maxLen ->
      FifoStep noRoom (front :: rest) (.peek maxLen) ⟨.ok, some front, some front.length⟩
        (front :: rest)
  | peekTooLarge (front : List UInt8) (rest : List (List UInt8)) (maxLen : Nat) :
      front.length > maxLen ->
      FifoStep noRoom (front :: rest) (.peek maxLen) ⟨.tooLarge, none, some front.length⟩
        (front :: rest)
  | removeEmpty (call : CflCall) :
      call = .consume ∨ call = .drop -> FifoStep noRoom [] call (codeOnly .empty) []
  | remove (front : List UInt8) (rest : List (List UInt8)) (call : CflCall) :
      call = .consume ∨ call = .drop -> FifoStep noRoom (front :: rest) call (codeOnly .ok) rest

/-- The payload needs another sector and the next one is the head's. -/
def NoRoom (inst : CflInst) (data : List UInt8) : Prop :=
  NeedsSector inst data ∧ RingFull inst

/-- Along the calls, each answer is one the queue allows, the counters are those of the
queue, and a refused append changes nothing. -/
def RefinesFifo : List CflCall -> Memory -> CflInst -> List (List UInt8) -> Prop
  | [], _, inst, q => cflGetOccupancy inst = (q.length, (q.map List.length).sum)
  | call :: calls, m, inst, q =>
      let done := (cflPerform inst call).eval qspiFlash m
      cflGetOccupancy inst = (q.length, (q.map List.length).sum) ∧
        (done.1.1.err = .full -> done.1.2 = inst ∧ done.2 = m) ∧
        exists q', FifoStep (NoRoom inst) q call done.1.1 q' ∧ RefinesFifo calls done.2 done.1.2 q'

section

variable {m : Memory} {inst : CflInst} {q : List (List UInt8)}

theorem Contains.occupancy (h : Contains m inst q) :
    cflGetOccupancy inst = (q.length, (q.map List.length).sum) := by
  unfold cflGetOccupancy
  rw [h.count, h.bytes]

theorem Contains.append_never (h : Contains m inst q) (data : List UInt8) :
    (cflAppend inst data).wp qspiFlash (Faults.never qspi)
      (fun out m' => (out.1 = .full -> out.2 = inst) ∧
        exists q', FifoStep (NoRoom inst) q (.append data) (codeOnly out.1) q' ∧
          Contains m' out.2 q')
      (fun _ => True) m := by
  obtain ⟨R, rs, hsim, hsession, rfl⟩ := h
  apply wp_mono _ (fun _ _ => trivial) (wp_cflAppend hsim data)
  rintro out m' ⟨R', hexit, hsim'⟩
  have hkeeps := hsession.append hsim (appendSafe_of_neverFails Faults.never_neverFails inst data) hexit hsim'.holds
  rcases hexit.of_neverFails Faults.never_neverFails with
    ⟨hlen, rfl⟩ | ⟨hlen, hneeds, hfull, rfl⟩ | ⟨hlen, hok⟩
  · rcases hkeeps with ⟨hok, _⟩ | ⟨_, hafter⟩
    · simp at hok
    · exact ⟨by simp, _, .tooLarge _ _ hlen, R', rs, hsim', hafter, rfl⟩
  · rcases hkeeps with ⟨hok, _⟩ | ⟨_, hafter⟩
    · simp at hok
    · exact ⟨fun _ => rfl, _, .full _ _ hlen ⟨hneeds, hfull⟩, R', rs, hsim', hafter, rfl⟩
  · rcases hkeeps with ⟨_, new, hnew, hafter⟩ | ⟨herr, _⟩
    · rw [hok]
      refine ⟨by simp, _, .appended _ _ hlen, R', rs ++ [new], hsim', hafter, ?_⟩
      simp [hnew]
    · exact absurd hok herr

theorem cflAppend_full {data : List UInt8} (hlen : LengthOk data)
    (hneeds : NeedsSector inst data) (hfull : RingFull inst) :
    cflAppend inst data = pure (.full, inst) := by
  have hvalid : ¬ (data.length = 0 ∨ data.length > cflMaxRecordBytes) := by
    obtain ⟨hpos, hmax⟩ := hlen
    simp only [cflMaxRecordBytes]
    omega
  have hneeds' : inst.tailOffset + cflRecordSize data.length > cflSectorSizeBytes := hneeds
  unfold cflAppend
  rw [if_neg hvalid, if_pos hneeds']
  exact if_pos hfull

theorem Contains.append_full (h : Contains m inst q) (data : List UInt8)
    (herr : ((cflAppend inst data).eval qspiFlash m).1.1 = .full) :
    ((cflAppend inst data).eval qspiFlash m).2 = m := by
  obtain ⟨R, rs, hsim, hsession, rfl⟩ := h
  obtain ⟨R', hexit, _⟩ :=
    Program.wp_never_iff.mp (wp_cflAppend (F := Faults.never qspi) hsim data)
  rcases hexit.of_neverFails Faults.never_neverFails with ⟨_, hout⟩ | ⟨hlen, hneeds, hfull, _⟩ | ⟨_, hok⟩
  · rw [hout] at herr
    simp at herr
  · rw [cflAppend_full hlen hneeds hfull]
    rfl
  · rw [hok] at herr
    simp at herr

theorem Contains.perform (h : Contains m inst q) (call : CflCall) :
    let done := (cflPerform inst call).eval qspiFlash m
    (done.1.1.err = .full -> done.1.2 = inst ∧ done.2 = m) ∧
      exists q', FifoStep (NoRoom inst) q call done.1.1 q' ∧ Contains done.2 done.1.2 q' := by
  cases call with
  | append data =>
      obtain ⟨hsame, q', hstep, hafter⟩ := Program.wp_never_iff.mp (h.append_never data)
      have hfull := h.append_full data
      simp only [cflPerform, eval_bind, eval_pure]
      exact ⟨fun herr => ⟨hsame herr, hfull herr⟩, q', hstep, hafter⟩
  | peek maxLen =>
      obtain ⟨hpeek, hm⟩ := Program.wp_never_iff.mp
        (h.peek (F := Faults.never qspi) maxLen)
      simp only [cflPerform, eval_bind, eval_pure]
      rw [hm]
      refine ⟨fun _ => by simp, q, ?_, h⟩
      cases q with
      | nil =>
          have hanswer : _ = CflAnswer.mk .empty none none := hpeek
          rw [hanswer]
          exact .peekEmpty maxLen
      | cons front rest =>
          rcases hpeek with ⟨hlen, hanswer⟩ | ⟨hlen, hanswer⟩ | ⟨_, _, _, hfail⟩
          · rw [hanswer]
            exact .peek front rest maxLen hlen
          · rw [hanswer]
            exact .peekTooLarge front rest maxLen hlen
          · exact hfail.elim
  | consume =>
      have hconsume := Program.wp_never_iff.mp h.consume_never
      simp only [cflPerform, eval_bind, eval_pure]
      rcases hconsume with ⟨rfl, hout, hm⟩ | ⟨hne, hok, hafter⟩
      · rw [hout, hm]
        exact ⟨by simp, [], .removeEmpty _ (.inl rfl), h⟩
      · rw [hok]
        cases q with
        | nil => exact absurd rfl hne
        | cons front rest => exact ⟨by simp, rest, .remove front rest _ (.inl rfl), hafter⟩
  | drop =>
      have hconsume := Program.wp_never_iff.mp h.consume_never
      simp only [cflPerform, cflDropOldest, eval_bind, eval_pure]
      rcases hconsume with ⟨rfl, hout, hm⟩ | ⟨hne, hok, hafter⟩
      · rw [hout, hm]
        exact ⟨by simp, [], .removeEmpty _ (.inr rfl), h⟩
      · rw [hok]
        cases q with
        | nil => exact absurd rfl hne
        | cons front rest => exact ⟨by simp, rest, .remove front rest _ (.inr rfl), hafter⟩

theorem Contains.refinesFifo (h : Contains m inst q) (calls : List CflCall) :
    RefinesFifo calls m inst q := by
  induction calls generalizing m inst q with
  | nil => exact h.occupancy
  | cons call calls ih =>
      obtain ⟨hfull, q', hstep, hafter⟩ := h.perform call
      exact ⟨h.occupancy, hfull, q', hstep, ih hafter⟩

end

/-- From a fully erased ring, every sequence of calls refines the queue. -/
theorem cfl_refines_fifo (m : Memory) (h : PartitionErased m) :
    exists inst, cflCreate.eval qspiFlash m = (some inst, m) ∧
      forall calls, RefinesFifo calls m inst [] := by
  obtain ⟨inst, hcreate, hcontains⟩ := create_erased h
  exact ⟨inst, hcreate, hcontains.refinesFifo⟩

/-- An erased device. -/
def erasedFlash : Memory :=
  fun _ => erasedByte

theorem cfl_refines_fifo_erasedFlash :
    exists inst, cflCreate.eval qspiFlash erasedFlash = (some inst, erasedFlash) ∧
      forall calls, RefinesFifo calls erasedFlash inst [] :=
  cfl_refines_fifo erasedFlash (fun _ _ _ => rfl)

end EnvMonitor.Gateway.CircularFlashLog
