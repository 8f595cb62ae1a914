import EnvMonitor.Gateway.StoreAndForward.Buffer

/-!
# Only the published message is removed

An outbox numbers the stored entries and says how each may leave: confirmed while it is the
entry last returned, dropped while the log is full, or skipped because it does not parse.
The buffer over the log keeps to it as long as no failure inside the log removes an entry
behind the caller's back.
-/

namespace EnvMonitor.Gateway.StoreAndForward

open Device Drivers CircularFlashLog

/-!
## The outbox
-/

/-- Entries in the order they were stored, how many have left from the front, and the number
of the entry `saf_dequeue` returned last. -/
structure Outbox where
  entries : List (List UInt8)
  gone : Nat
  returned : Option Nat

namespace Outbox

def queue (O : Outbox) : List (List UInt8) :=
  O.entries.drop O.gone

def store (O : Outbox) (raw : List UInt8) : Outbox :=
  { O with entries := O.entries ++ [raw] }

def leave (O : Outbox) : Outbox :=
  { O with gone := O.gone + 1 }

def publish (O : Outbox) : Outbox :=
  { O with returned := some O.gone }

@[simp] theorem leave_queue (O : Outbox) : O.leave.queue = O.queue.tail := by
  change O.entries.drop (O.gone + 1) = (O.entries.drop O.gone).tail
  rw [List.tail_drop]

variable {O : Outbox}

theorem store_queue (raw : List UInt8) (h : O.gone <= O.entries.length) :
    (O.store raw).queue = O.queue ++ [raw] :=
  List.drop_append_of_le_length h

theorem gone_lt (h : O.queue ≠ []) : O.gone < O.entries.length := by
  rcases Nat.lt_or_ge O.gone O.entries.length with hlt | hge
  · exact hlt
  · exact absurd (List.drop_eq_nil_of_le hge) h

end Outbox

/-- A blob `saf_deserialise` accepts, and the entry it makes of it. -/
def Parses (raw : List UInt8) (entry : SafEntry) : Prop :=
  forall pending, safDeserialise pending raw = (true, entry)

def Malformed (raw : List UInt8) : Prop :=
  forall pending, (safDeserialise pending raw).1 = false

/-- What a call of the log, made on behalf of the buffer's call, does to the outbox. -/
inductive OutboxMove : SafCall -> Outbox -> CflEvent -> Outbox -> Prop where
  | stays {call : SafCall} {O : Outbox} {e : CflEvent} :
      (forall raw, e.call = .append raw -> e.err ≠ .ok) -> OutboxMove call O e O
  | stored {topic buf : List UInt8} {qos : UInt8} {O : Outbox} {inst : CflInst} :
      OutboxMove (.enqueue topic buf qos) O
        ⟨inst, .append (safSerialise topic buf qos), .ok⟩
        (O.store (safSerialise topic buf qos))
  | dropped {topic buf : List UInt8} {qos : UInt8} {O : Outbox} {inst : CflInst}
      {err : CflErr} :
      O.queue ≠ [] -> NeedsSector inst (safSerialise topic buf qos) -> RingFull inst ->
      OutboxMove (.enqueue topic buf qos) O ⟨inst, .drop, err⟩ O.leave
  | skipped {O : Outbox} {inst : CflInst} {err : CflErr} {raw : List UInt8} :
      O.queue.head? = some raw -> Malformed raw ->
      OutboxMove .dequeue O ⟨inst, .consume, err⟩ O.leave
  | confirmed {O : Outbox} {inst : CflInst} {err : CflErr} :
      O.queue ≠ [] -> O.returned = some O.gone ->
      OutboxMove .confirm O ⟨inst, .consume, err⟩ O.leave

/-- The moves of the log's calls, latest first. -/
def OutboxMoves (call : SafCall) (O : Outbox) : List CflEvent -> Outbox -> Prop
  | [], O' => O' = O
  | e :: earlier, O' => exists O₁, OutboxMoves call O earlier O₁ ∧ OutboxMove call O₁ e O'

/-- What a call does to the outbox: the moves of the log's calls, and what its answer
says. -/
def OutboxStep (O : Outbox) (call : SafCall) (calls : List CflEvent) (answer : SafAnswer)
    (O' : Outbox) : Prop :=
  exists O₁, OutboxMoves call O calls O₁ ∧
    match call with
    | .enqueue topic buf qos =>
        O' = O₁ ∧ O₁.entries =
          if answer.err = .ok then O.entries ++ [safSerialise topic buf qos] else O.entries
    | .dequeue =>
        if answer.err = .ok then
          O' = O₁.publish ∧ exists raw entry, O₁.queue.head? = some raw ∧ Parses raw entry ∧
            answer.out = some entry
        else
          O' = O₁
    | .confirm => O' = O₁

/-- An answered call and the calls of the log it made. -/
structure SafEvent where
  call : SafCall
  calls : List CflEvent
  answer : SafAnswer
  deriving DecidableEq, Repr

def OutboxRun : Outbox -> List SafEvent -> Outbox -> Prop
  | O, [], O' => O' = O
  | O, e :: events, O' =>
      exists O₁, OutboxStep O e.call e.calls e.answer O₁ ∧ OutboxRun O₁ events O'

/-!
## Runs of the buffer
-/

/-- The calls of a session, under a condition on the faults of the log's calls that may look
at whether an entry is pending. -/
inductive SafRun (Safe : Bool -> Faults qspi -> CflDevice -> CflCall -> Prop) :
    Memory -> CflInst -> SafInst -> List SafEvent -> Memory -> CflInst -> SafInst -> Prop where
  | done (m : Memory) (cfl : CflInst) (inst : SafInst) : SafRun Safe m cfl inst [] m cfl inst
  | call {m m₁ m' : Memory} {cfl cfl₁ cfl' : CflInst} {inst inst₁ inst' : SafInst}
      {call : SafCall} {calls : List CflEvent} {answer : SafAnswer} {events : List SafEvent} :
      Program.Calls (CflApiStep (Safe inst.hasPending)) (safPerform inst call) ⟨m, cfl, []⟩
        (answer, inst₁) ⟨m₁, cfl₁, calls⟩ ->
      SafRun Safe m₁ cfl₁ inst₁ events m' cfl' inst' ->
      SafRun Safe m cfl inst (⟨call, calls, answer⟩ :: events) m' cfl' inst'

/-!
## Blobs
-/

theorem parses_or_malformed (raw : List UInt8) :
    (exists entry, Parses raw entry) ∨ Malformed raw := by
  by_cases hlen : raw.length < safBlobMinSz
  · right
    intro pending
    unfold safDeserialise
    rw [if_pos hlen]
  · by_cases htopic : fieldAt raw 0 1 = 0 ∨ fieldAt raw 0 1 > safTopicMax ∨
        1 + fieldAt raw 0 1 + 1 + 2 > raw.length
    · right
      intro pending
      unfold safDeserialise
      rw [if_neg hlen]
      exact congrArg Prod.fst (if_pos htopic)
    · by_cases hpayload : fieldAt raw (1 + fieldAt raw 0 1 + 1) 2 = 0 ∨
          fieldAt raw (1 + fieldAt raw 0 1 + 1) 2 > safPayloadMax ∨
          1 + fieldAt raw 0 1 + 1 + 2 + fieldAt raw (1 + fieldAt raw 0 1 + 1) 2 ≠ raw.length
      · right
        intro pending
        unfold safDeserialise
        rw [if_neg hlen]
        simp only [if_neg htopic, if_pos hpayload]
      · left
        exists
          { topic := (raw.drop 1).take (fieldAt raw 0 1)
            payload := (raw.drop (1 + fieldAt raw 0 1 + 1 + 2)).take
              (fieldAt raw (1 + fieldAt raw 0 1 + 1) 2)
            qos := raw.getD (1 + fieldAt raw 0 1) 0 }
        intro pending
        unfold safDeserialise
        rw [if_neg hlen]
        simp only [if_neg htopic, if_neg hpayload]

variable {parsed pending : SafEntry} {raw : List UInt8} {O : Outbox} {cfl cfl' : CflInst}
variable {m m' : Memory} {answer : CflAnswer} {call : CflCall} {calls : List CflEvent}

theorem Parses.head_eq {entry : SafEntry} (h : safDeserialise pending raw = (true, parsed))
    (hparses : Parses raw entry) : parsed = entry := by
  have hentry := hparses pending
  rw [h] at hentry
  exact (Prod.mk.inj hentry).2

theorem parses_of_accepted (h : safDeserialise pending raw = (true, parsed)) :
    Parses raw parsed := by
  rcases parses_or_malformed raw with ⟨entry, hparses⟩ | hmalformed
  · rw [Parses.head_eq h hparses]
    exact hparses
  · have hrefused := hmalformed pending
    rw [h] at hrefused
    cases hrefused

theorem malformed_of_refused (h : (safDeserialise pending raw).1 = false) : Malformed raw := by
  rcases parses_or_malformed raw with ⟨entry, hparses⟩ | hmalformed
  · rw [hparses pending] at h
    cases h
  · exact hmalformed

theorem safSerialise_parses {topic buf : List UInt8} (qos : UInt8)
    (htopic : 0 < topic.length ∧ topic.length <= safTopicMax)
    (hbuf : 0 < buf.length ∧ buf.length <= safPayloadMax) :
    Parses (safSerialise topic buf qos) ⟨topic, buf, qos⟩ := by
  intro pending
  have hmax : topic.length <= 64 := htopic.2
  have hpayloadMax : buf.length <= 4010 := hbuf.2
  have hlen : (safSerialise topic buf qos).length = topic.length + buf.length + 4 := by
    simp [safSerialise]
    omega
  have htopicLen : fieldAt (safSerialise topic buf qos) 0 1 = topic.length :=
    fieldAt_putLe (by omega)
  have hpayloadLen : fieldAt (safSerialise topic buf qos) (1 + topic.length + 1) 2 =
      buf.length := by
    unfold safSerialise
    rw [fieldAt_append_right (by simp), fieldAt_append_right (by simp),
      fieldAt_append_right (by simp)]
    have hzero : 1 + topic.length + 1 - (putLe 1 topic.length).length - topic.length -
        [qos].length = 0 := by
      simp
    rw [hzero]
    exact fieldAt_putLe (by omega)
  have hname : ((safSerialise topic buf qos).drop 1).take topic.length = topic := by
    unfold safSerialise
    rw [List.drop_left' (by simp), List.take_left' rfl]
  have hqos : (safSerialise topic buf qos).getD (1 + topic.length) 0 = qos := by
    unfold safSerialise
    rw [List.getD_append_right _ _ _ _ (by simp), List.getD_append_right _ _ _ _ (by simp)]
    simp
  have hpayload : ((safSerialise topic buf qos).drop (1 + topic.length + 1 + 2)).take
      buf.length = buf := by
    have hassoc : safSerialise topic buf qos =
        (putLe 1 topic.length ++ topic ++ [qos] ++ putLe 2 buf.length) ++ buf := by
      simp [safSerialise]
    rw [hassoc, List.drop_left' (by simp; omega), List.take_of_length_le (Nat.le_refl _)]
  have hshort : ¬ (safSerialise topic buf qos).length < safBlobMinSz := by
    rw [hlen]
    simp only [safBlobMinSz]
    omega
  unfold safDeserialise
  rw [if_neg hshort, htopicLen]
  simp only [hpayloadLen, hname, hqos, hpayload, hlen]
  rw [if_neg (by simp only [safTopicMax]; omega), if_neg (by
    simp only [safPayloadMax, cflMaxRecordBytes, safHeaderOverheadMax]
    omega)]

/-!
## One call
-/

/-- The log holds the queue, and a pending entry is its front and was the last one
returned. -/
structure Holding (s : CflDevice) (inst : SafInst) (O : Outbox) : Prop where
  contains : Contains s.flash s.inst O.queue
  gone_le : O.gone <= O.entries.length
  pending : inst.hasPending = true -> O.returned = some O.gone ∧
    exists raw, O.queue.head? = some raw ∧ Parses raw inst.pending

section

variable {held : Bool} {s s' : CflDevice} {inst : SafInst} {O O₁ : Outbox}
variable {answer : CflAnswer} {call : SafCall}

@[simp] theorem safEntryRemoved_hasPending (inst : SafInst) :
    (safEntryRemoved inst).hasPending = inst.hasPending := by
  unfold safEntryRemoved
  split
  · rfl
  · rfl

@[simp] theorem safEntryRemoved_pending (inst : SafInst) :
    (safEntryRemoved inst).pending = inst.pending := by
  unfold safEntryRemoved
  split
  · rfl
  · rfl

theorem Holding.free (hcontains : Contains s.flash s.inst O.queue)
    (hgone : O.gone <= O.entries.length) (hfree : inst.hasPending = false) :
    Holding s inst O where
  contains := hcontains
  gone_le := hgone
  pending := fun htrue => by rw [hfree] at htrue; cases htrue

theorem Holding.move (h : Holding s inst O) (hcontains : Contains s'.flash s'.inst O.queue) :
    Holding s' inst O where
  contains := hcontains
  gone_le := h.gone_le
  pending := h.pending

theorem Holding.recount (h : Holding s inst O) (count : Nat) :
    Holding s { inst with entryCount := count } O where
  contains := h.contains
  gone_le := h.gone_le
  pending := h.pending

variable {raw : List UInt8} {rc : CflErr}

theorem Holding.store (h : Holding s inst O)
    (hcontains : Contains s'.flash s'.inst (O.queue ++ [raw])) : Holding s' inst (O.store raw) where
  contains := by
    rw [Outbox.store_queue raw h.gone_le]
    exact hcontains
  gone_le := by
    change O.gone <= (O.entries ++ [raw]).length
    rw [List.length_append]
    exact Nat.le_add_right_of_le h.gone_le
  pending := by
    intro hpending
    rcases h.pending hpending with ⟨hreturned, front, hfront, hparses⟩
    refine ⟨hreturned, front, ?_, hparses⟩
    rw [Outbox.store_queue raw h.gone_le, List.head?_append, hfront]
    rfl

/-- What the loop of `saf_enqueue` has done so far, and the code of its last append. -/
structure Enqueuing (held : Bool) (topic buf : List UInt8) (qos : UInt8) (O : Outbox)
    (s : CflDevice) (inst : SafInst) (rc : CflErr) (O₁ : Outbox) : Prop where
  moves : OutboxMoves (.enqueue topic buf qos) O s.calls O₁
  holding : Holding s inst O₁
  held : inst.hasPending = true -> held = true ∧ NoneRemoved s.calls
  entries : O₁.entries =
    if rc = .ok then O.entries ++ [safSerialise topic buf qos] else O.entries
  full : rc = .full ->
    NeedsSector s.inst (safSerialise topic buf qos) ∧ RingFull s.inst

theorem noneRemoved_cons {calls : List CflEvent} {e : CflEvent} (h : NoneRemoved calls)
    (he : e.call.Removes -> e.err ≠ .ok) : NoneRemoved (e :: calls) := by
  intro e' hmem
  cases hmem with
  | head => exact he
  | tail _ hmem => exact h e' hmem

theorem not_removes_append (raw : List UInt8) : ¬ (CflCall.append raw).Removes := by
  intro h
  rcases h with h | h
  · cases h
  · cases h

variable {topic buf : List UInt8} {qos : UInt8}

theorem Enqueuing.append (h : Enqueuing held topic buf qos O s inst rc O₁) (hrc : rc ≠ .ok)
    (hstep : CflApiStep (HeldSafe held) s (.append (safSerialise topic buf qos)) answer s') :
    (answer.err = .ok ∧ Enqueuing held topic buf qos O s' inst .ok
      (O₁.store (safSerialise topic buf qos))) ∨
      (answer.err ≠ .ok ∧ Enqueuing held topic buf qos O s' inst answer.err O₁) := by
  rcases hstep.append h.holding.contains with ⟨hexit, hfull⟩
  have hentries := h.entries
  rw [if_neg hrc] at hentries
  have hcalls := hstep.calls
  have hheld : inst.hasPending = true -> held = true ∧ NoneRemoved s'.calls := by
    intro hpending
    rcases h.held hpending with ⟨hheld, hnone⟩
    rw [hcalls]
    exact ⟨hheld, noneRemoved_cons hnone (fun hremoves => absurd hremoves (not_removes_append _))⟩
  rcases hexit with ⟨hok, hafter⟩ | ⟨herr, hafter⟩
  · left
    refine ⟨hok, ?_, h.holding.store hafter, hheld, ?_, fun hne => by cases hne⟩
    · rw [hcalls, hok]
      exact ⟨O₁, h.moves, .stored⟩
    · change O₁.entries ++ _ = _
      rw [if_pos rfl, hentries]
  · right
    refine ⟨herr, ?_, h.holding.move hafter, hheld, ?_, hfull⟩
    · rw [hcalls]
      exact ⟨O₁, h.moves, .stays (fun _ _ => herr)⟩
    · rw [if_neg herr, hentries]

theorem Enqueuing.dropped (h : Enqueuing held topic buf qos O s inst .full O₁) (rc : CflErr)
    (next : SafInst) (hstep : CflApiStep (HeldSafe held) s .drop answer s')
    (hafter : Contains s'.flash s'.inst O₁.queue.tail) (hfree : next.hasPending = false)
    (hrc : rc ≠ .ok ∧ rc ≠ .full) :
    Enqueuing held topic buf qos O s' next rc O₁.leave where
  moves := by
    rw [hstep.calls]
    rcases h.full rfl with ⟨hneeds, hring⟩
    exact ⟨O₁, h.moves,
      .dropped (h.holding.contains.ne_nil_of_full hring) hneeds hring⟩
  holding := by
    have hne := h.holding.contains.ne_nil_of_full (h.full rfl).2
    refine .free ?_ (Outbox.gone_lt hne) hfree
    rw [Outbox.leave_queue]
    exact hafter
  held := fun htrue => by rw [hfree] at htrue; cases htrue
  entries := by
    have hentries := h.entries
    rw [if_neg (by simp)] at hentries
    rw [if_neg hrc.1]
    exact hentries
  full := fun hfull => absurd hfull hrc.2

/-- What `saf_enqueue` needs of its loop. -/
def DropLoopEnds (topic buf : List UInt8) (qos : UInt8) (O : Outbox)
    (out : SafDropExit × SafInst) (s : CflDevice) : Prop :=
  out.1 ≠ .outOfFuel ∧ exists O₁, OutboxMoves (.enqueue topic buf qos) O s.calls O₁ ∧
    Holding s out.2 O₁ ∧ O₁.entries =
      if out.1 = .append .ok then O.entries ++ [safSerialise topic buf qos] else O.entries

theorem Enqueuing.ends (h : Enqueuing held topic buf qos O s inst rc O₁) :
    DropLoopEnds topic buf qos O (.append rc, inst) s := by
  refine ⟨by simp, O₁, h.moves, h.holding, ?_⟩
  rw [h.entries]
  simp only [SafDropExit.append.injEq]

theorem every_safDropLoop (fuel : Nat) (h : Enqueuing held topic buf qos O s inst rc O₁)
    (hpos : 0 < fuel) (hfuel : rc = .full -> O₁.queue.length < fuel) :
    Program.EveryCall (CflApiStep (HeldSafe held)) (DropLoopEnds topic buf qos O)
      (safDropLoop (safSerialise topic buf qos) fuel rc inst) s := by
  induction fuel generalizing s inst O₁ rc with
  | zero => exact absurd hpos (Nat.lt_irrefl 0)
  | succ fuel ih =>
      unfold safDropLoop
      apply Program.every_ite
      · intro hrc
        subst hrc
        apply Program.every_call
        intro drop s₁ hdrop
        have hne := h.holding.contains.ne_nil_of_full (h.full rfl).2
        rcases hdrop.remove (.inr rfl) h.holding.contains with ⟨hexit, hkept⟩
        -- a drop that answered an error leaves a pending entry in place
        have hfailed : drop.err ≠ .ok -> exists O₂,
            OutboxMoves (.enqueue topic buf qos) O s₁.calls O₂ ∧ Holding s₁ inst O₂ ∧
              O₂.entries = O.entries := by
          intro herr
          have hstays : OutboxMoves (.enqueue topic buf qos) O s₁.calls O₁ := by
            rw [hdrop.calls]
            exact ⟨O₁, h.moves, .stays (fun _ hcall => by cases hcall)⟩
          have hentries := h.entries
          rw [if_neg (by simp)] at hentries
          cases hpending : inst.hasPending with
          | true =>
              rcases h.held hpending with ⟨hheld, hnone⟩
              exact ⟨O₁, hstays, h.holding.move (hkept hheld hnone herr), hentries⟩
          | false =>
              rcases hexit with ⟨_, hafter⟩ | ⟨_, hafter⟩
              · have hdone := h.dropped .empty _ hdrop hafter hpending ⟨by simp, by simp⟩
                have hsame := hdone.entries
                rw [if_neg (by simp)] at hsame
                exact ⟨O₁.leave, hdone.moves, hdone.holding, hsame⟩
              · exact ⟨O₁, hstays, h.holding.move hafter, hentries⟩
        apply Program.every_ite
        · intro hempty
          rcases hfailed (by rw [hempty]; simp) with ⟨O₂, hmoves, hholding, hentries⟩
          refine ⟨by simp, O₂, hmoves, hholding, ?_⟩
          rw [if_neg (by simp), hentries]
        · intro _
          apply Program.every_ite
          · intro herr
            rcases hfailed herr with ⟨O₂, hmoves, hholding, hentries⟩
            refine ⟨by simp, O₂, hmoves, hholding, ?_⟩
            rw [if_neg (by simp), hentries]
          · intro hok
            apply Program.every_call
            intro append s₂ happend
            rcases hexit with ⟨_, hafter⟩ | ⟨herr, _⟩
            · have hdone := h.dropped .empty
                (safEntryRemoved { inst with hasPending := false }) hdrop hafter
                (by simp) ⟨by simp, by simp⟩
              have hlen := hfuel rfl
              have hsome := List.length_pos_iff.mpr hne
              rcases hdone.append (by simp) happend with ⟨hstored, hnext⟩ | ⟨_, hnext⟩
              · rw [hstored]
                exact ih hnext (by omega) (fun hfull => by cases hfull)
              · apply ih hnext (by omega)
                intro _
                rw [Outbox.leave_queue, List.length_tail]
                omega
            · exact absurd herr hok
      · intro _
        exact h.ends

theorem every_safAppendLoop (h : Holding s inst O) (hcalls : s.calls = [])
    (hheld : inst.hasPending = held) :
    Program.EveryCall (CflApiStep (HeldSafe held)) (DropLoopEnds topic buf qos O)
      (safAppendLoop inst (safSerialise topic buf qos)) s := by
  apply Program.every_call
  intro append s₁ happend
  have hstart : Enqueuing held topic buf qos O s inst .empty O := by
    refine ⟨?_, h, ?_, by simp, fun hne => by cases hne⟩
    · rw [hcalls]
      rfl
    · intro hpending
      rw [hcalls]
      exact ⟨hheld.symm.trans hpending, fun e he => by cases he⟩
  have hlen := h.contains.length_le
  rcases hstart.append (by simp) happend with ⟨hok, hnext⟩ | ⟨_, hnext⟩
  · rw [hok]
    exact every_safDropLoop _ hnext (by simp only [safLoopFuel]; omega)
      (fun hfull => by cases hfull)
  · apply every_safDropLoop _ hnext (by simp only [safLoopFuel]; omega)
    intro _
    simp only [safLoopFuel]
    omega

/-- What `saf_dequeue` needs of its loop. -/
def PeekLoopEnds (O : Outbox) (out : Option SafErr × SafInst) (s : CflDevice) : Prop :=
  exists err O₁, out.1 = some err ∧ OutboxMoves .dequeue O s.calls O₁ ∧
    if err = .ok then
      out.2.hasPending = true ∧ Holding s out.2 O₁.publish ∧
        exists raw, O₁.queue.head? = some raw ∧ Parses raw out.2.pending
    else
      Holding s out.2 O₁

theorem every_skip {next : SafInst} (after : CflErr -> Program cflApi (Option SafErr × SafInst))
    (hmoves : OutboxMoves .dequeue O s.calls O₁) (hcontains : Contains s.flash s.inst O₁.queue)
    (hgone : O₁.gone <= O₁.entries.length) (hfront : O₁.queue.head? = some raw)
    (hmalformed : Malformed raw)
    (hfailed : forall err, err ≠ .ok -> after err = pure (some .flash, next))
    (hfree : next.hasPending = false)
    (hskipped : forall s', OutboxMoves .dequeue O s'.calls O₁.leave ->
      Contains s'.flash s'.inst O₁.leave.queue -> O₁.leave.gone <= O₁.leave.entries.length ->
      Program.EveryCall (CflApiStep (HeldSafe held)) (PeekLoopEnds O) (after .ok) s') :
    Program.EveryCall (CflApiStep (HeldSafe held)) (PeekLoopEnds O)
      (cflCall .consume >>= fun consume => after consume.err) s := by
  apply Program.every_call
  intro consume s₁ hconsume
  have hne : O₁.queue ≠ [] := by
    intro hnil
    rw [hnil] at hfront
    cases hfront
  have hleave : OutboxMoves .dequeue O s₁.calls O₁.leave := by
    rw [hconsume.calls]
    exact ⟨O₁, hmoves, .skipped hfront hmalformed⟩
  have hlt : O₁.leave.gone <= O₁.leave.entries.length := Outbox.gone_lt hne
  rcases hconsume.remove (.inl rfl) hcontains with ⟨⟨_, hafter⟩ | ⟨herr, hafter⟩, _⟩
  · have hrest : Contains s₁.flash s₁.inst O₁.leave.queue := by
      rw [Outbox.leave_queue]
      exact hafter
    by_cases hok : consume.err = .ok
    · rw [hok]
      exact hskipped s₁ hleave hrest hlt
    · rw [hfailed _ hok]
      exact ⟨.flash, O₁.leave, rfl, hleave, .free hrest hlt hfree⟩
  · rw [hfailed _ herr]
    refine ⟨.flash, O₁, rfl, ?_, .free hafter hgone hfree⟩
    rw [hconsume.calls]
    exact ⟨O₁, hmoves, .stays (fun _ hcall => by cases hcall)⟩

theorem every_safPeekLoop (fuel : Nat) (hmoves : OutboxMoves .dequeue O s.calls O₁)
    (hcontains : Contains s.flash s.inst O₁.queue) (hgone : O₁.gone <= O₁.entries.length)
    (hfree : inst.hasPending = false) (hfuel : O₁.queue.length < fuel) :
    Program.EveryCall (CflApiStep (HeldSafe held)) (PeekLoopEnds O) (safPeekLoop fuel inst)
      s := by
  induction fuel generalizing s inst O₁ with
  | zero => exact absurd hfuel (Nat.not_lt_zero _)
  | succ fuel ih =>
      unfold safPeekLoop
      apply Program.every_call
      intro peek s₁ hpeek
      rcases hpeek.peek hcontains with ⟨⟨F, hpeeked⟩, hsame⟩
      have hstays : OutboxMoves .dequeue O s₁.calls O₁ := by
        rw [hpeek.calls]
        exact ⟨O₁, hmoves, .stays (fun _ hcall => by cases hcall)⟩
      have hends : forall (err : SafErr) (next : SafInst), err ≠ .ok ->
          next.hasPending = false -> PeekLoopEnds O (some err, next) s₁ := by
        intro err next herr hnext
        refine ⟨err, O₁, rfl, hstays, ?_⟩
        rw [if_neg herr]
        exact .free hsame hgone hnext
      cases hqueue : O₁.queue with
      | nil =>
          rw [hqueue] at hpeeked
          have hanswer : peek = ⟨.empty, none, none⟩ := hpeeked
          subst hanswer
          exact hends .empty inst (by simp) hfree
      | cons raw rest =>
          rw [hqueue] at hpeeked
          have hfront : O₁.queue.head? = some raw := by
            rw [hqueue]
            rfl
          rcases hpeeked with ⟨_, hanswer⟩ | ⟨hlarge, _⟩ | ⟨hread, _⟩
          · subst hanswer
            change Program.EveryCall _ _
              (if (safDeserialise inst.pending raw).1 = true then
                pure (some .ok, { inst with
                  pending := (safDeserialise inst.pending raw).2, hasPending := true })
              else
                cflCall .consume >>= fun consume => if consume.err ≠ .ok then
                    pure (some .flash,
                      { inst with pending := (safDeserialise inst.pending raw).2 })
                  else safPeekLoop fuel (safEntryRemoved
                    { inst with pending := (safDeserialise inst.pending raw).2 })) s₁
            cases hparsed : safDeserialise inst.pending raw with
            | mk accepted parsed =>
                cases accepted with
                | true =>
                    rw [if_pos rfl]
                    have hparses := parses_of_accepted hparsed
                    refine ⟨.ok, O₁, rfl, hstays, ?_⟩
                    change _ = true ∧ _ ∧ _
                    exact ⟨rfl, ⟨hsame, hgone, fun _ => ⟨rfl, raw, hfront, hparses⟩⟩,
                      raw, hfront, hparses⟩
                | false =>
                    have hmalformed : Malformed raw :=
                      malformed_of_refused (by rw [hparsed])
                    rw [if_neg (by simp)]
                    apply every_skip
                      (fun err => if err ≠ .ok then
                          pure (some .flash, { inst with pending := parsed })
                        else safPeekLoop fuel (safEntryRemoved { inst with pending := parsed }))
                      hstays hsame hgone hfront hmalformed
                      (fun err herr => if_pos herr) hfree
                    intro s₂ hleave hrest hlt
                    apply ih hleave hrest hlt (by simpa using hfree)
                    rw [Outbox.leave_queue, hqueue, List.tail_cons]
                    rw [hqueue, List.length_cons] at hfuel
                    exact Nat.lt_of_succ_lt_succ hfuel
          · have hle := hcontains.payload_le raw (by rw [hqueue]; exact List.mem_cons_self ..)
            simp only [cflMaxRecordBytes] at hlarge
            exact absurd hle (Nat.not_le_of_lt hlarge)
          · rw [if_neg (by rw [hread]; simp), if_neg (by rw [hread]; simp)]
            exact hends .flash inst (by simp) hfree

theorem every_safPerform (h : Holding s inst O) (hcalls : s.calls = []) :
    Program.EveryCall (CflApiStep (HeldSafe inst.hasPending))
      (fun out s' => exists O', OutboxStep O call s'.calls out.1 O' ∧ Holding s' out.2 O')
      (safPerform inst call) s := by
  have hnone : forall call, OutboxMoves call O s.calls O := by
    intro call
    rw [hcalls]
    rfl
  cases call with
  | enqueue topic buf qos =>
      apply Program.every_bind
      unfold safEnqueue
      apply Program.every_ite
      · intro _
        refine ⟨O, ⟨O, hnone _, rfl, ?_⟩, h⟩
        rw [if_neg (by simp)]
      · intro _
        apply Program.every_seq (every_safAppendLoop h hcalls rfl)
        intro out s' hends
        rcases hends with ⟨_, O₁, hmoves, hholding, hentries⟩
        apply Program.every_ite
        · intro hok
          rw [if_pos hok] at hentries
          refine ⟨O₁, ⟨O₁, hmoves, rfl, ?_⟩, hholding.recount _⟩
          rw [if_pos rfl, hentries]
        · intro herr
          rw [if_neg herr] at hentries
          refine ⟨O₁, ⟨O₁, hmoves, rfl, ?_⟩, hholding⟩
          rw [if_neg (by simp), hentries]
  | dequeue =>
      apply Program.every_bind
      unfold safDequeue
      apply Program.every_ite
      · intro hpending
        rcases h.pending hpending with ⟨hreturned, raw, hfront, hparses⟩
        have hsame : O.publish = O := by
          unfold Outbox.publish
          rw [← hreturned]
        refine ⟨O, ⟨O, hnone _, ?_⟩, h⟩
        change O = O.publish ∧ _
        exact ⟨hsame.symm, raw, inst.pending, hfront, hparses, rfl⟩
      · intro hfree
        have hlen := h.contains.length_le
        have hloop : Program.EveryCall (CflApiStep (HeldSafe inst.hasPending))
            (PeekLoopEnds O) (safPeekLoop safLoopFuel inst) s :=
          every_safPeekLoop safLoopFuel (hnone _) h.contains h.gone_le (by simpa using hfree)
            (by simp only [safLoopFuel]; omega)
        apply Program.every_seq hloop
        intro out s' hends
        rcases out with ⟨result, after⟩
        rcases hends with ⟨err, O₁, rfl, hmoves, hends⟩
        by_cases hok : err = .ok
        · subst hok
          rw [if_pos rfl] at hends
          rcases hends with ⟨_, hholding, raw, hfront, hparses⟩
          refine ⟨O₁.publish, ⟨O₁, hmoves, ?_⟩, hholding⟩
          change O₁.publish = O₁.publish ∧ _
          exact ⟨rfl, raw, _, hfront, hparses, rfl⟩
        · rw [if_neg hok] at hends
          refine ⟨O₁, ⟨O₁, hmoves, ?_⟩, hends⟩
          change if (err = .ok) then _ else _
          rw [if_neg hok]
  | confirm =>
      apply Program.every_bind
      unfold safConfirm
      apply Program.every_ite
      · intro _
        exact ⟨O, ⟨O, hnone _, rfl⟩, h⟩
      · intro hpending
        have htrue : inst.hasPending = true := by simpa using hpending
        rcases h.pending htrue with ⟨hreturned, raw, hfront, _⟩
        have hne : O.queue ≠ [] := by
          intro hnil
          rw [hnil] at hfront
          cases hfront
        apply Program.every_call
        intro consume s₁ hconsume
        rcases hconsume.remove (.inl rfl) h.contains with ⟨hexit, hkept⟩
        apply Program.every_ite
        · intro herr
          have hsame := hkept htrue (by rw [hcalls]; exact fun e he => by cases he) herr
          refine ⟨O, ⟨O, ?_, rfl⟩, h.move hsame⟩
          rw [hconsume.calls]
          exact ⟨O, hnone _, .stays (fun _ hcall => by cases hcall)⟩
        · intro hok
          rcases hexit with ⟨_, hafter⟩ | ⟨herr, _⟩
          · refine ⟨O.leave, ⟨O.leave, ?_, rfl⟩, .free ?_ (Outbox.gone_lt hne) (by simp)⟩
            · rw [hconsume.calls]
              exact ⟨O, hnone _, .confirmed hne hreturned⟩
            · rw [Outbox.leave_queue]
              exact hafter
          · exact absurd herr hok

end

/-!
## Whole sessions
-/

theorem SafRun.outbox {inst inst' : SafInst} {events : List SafEvent}
    (hrun : SafRun HeldSafe m cfl inst events m' cfl' inst') (h : Holding ⟨m, cfl, []⟩ inst O) :
    exists O', OutboxRun O events O' ∧ Holding ⟨m', cfl', []⟩ inst' O' := by
  induction hrun generalizing O with
  | done _ _ _ => exact ⟨O, rfl, h⟩
  | call hcalls _ ih =>
      rcases Program.every_sound (every_safPerform h rfl) hcalls with ⟨O₁, hstep, hholding⟩
      rcases ih (hholding.move hholding.contains) with ⟨O', hrest, hafter⟩
      exact ⟨O', ⟨O₁, hstep, hrest⟩, hafter⟩

/-- In a session whose failures are harmless to the ring and none of which strikes behind
the removal of an entry the caller holds, every entry that leaves is confirmed while it is
the one last returned, dropped from a full ring, or skipped as malformed; a drain delivers
the others. -/
theorem only_published_is_removed {m₀ m₁ m : Memory} {cfl₀ cfl : CflInst} {inst : SafInst}
    {F : Faults qspi} {events : List SafEvent} {capacity : Nat} (hhistory : FlashHistory m₀)
    (hcreate : Program.Exec qspiFlash F cflCreate m₀ (some (some cfl₀)) m₁)
    (hrun : SafRun HeldSafe m₁ cfl₀ (safCreate (cflGetOccupancy cfl₀).1 capacity) events
      m cfl inst) :
    exists q₀ O, ((cflDrainAll cfl₀).eval qspiFlash m₁).1 = (.empty, q₀) ∧
      OutboxRun ⟨q₀, 0, none⟩ events O ∧
      ((cflDrainAll cfl).eval qspiFlash m).1 = (.empty, O.queue) := by
  rcases hhistory.holds with ⟨R, hholds⟩
  rcases create_exec hholds hcreate with ⟨rfl, ⟨k, hbooted⟩, hsim⟩
  have hstart : Contains m₁ cfl₀ ((joined R cfl₀.headSector k).map Rec.payload) :=
    ⟨R, _, hsim, hbooted.session hsim, rfl⟩
  rcases hrun.outbox (O := ⟨_, 0, none⟩) (.free hstart (Nat.zero_le _) rfl) with
    ⟨O, houtbox, hholding⟩
  exact ⟨_, O, hstart.drainAll, houtbox, hholding.contains.drainAll⟩

theorem scripted_step {Safe : Faults qspi -> CflDevice -> CflCall -> Prop} {F : Faults qspi}
    (script : List Outcome) (hsafe : Safe F ⟨m, cfl, calls⟩ call)
    (hallowed : Program.Allowed qspiFlash F script (cflPerform cfl call) m)
    (hcall : (Program.run qspiFlash script (cflPerform cfl call) m).1 = some (answer, cfl'))
    (hflash : m' = flashAfter script cfl call m) :
    CflApiStep Safe ⟨m, cfl, calls⟩ call answer
      ⟨m', cfl', ⟨cfl, call, answer.err⟩ :: calls⟩ := by
  have hexec := Program.exec_run qspiFlash (cflPerform cfl call) script m hallowed
  rw [hcall] at hexec
  subst hflash
  exact .answers hsafe hexec

/-- The entry of a one-byte topic and a one-byte payload, and its blob. -/
def smallEntry (topic payload : UInt8) : SafEntry :=
  ⟨[topic], [payload], 0⟩

def smallBlob (topic payload : UInt8) : List UInt8 :=
  [1, topic, 0, 1, 0, payload]

/-- The log with `count` such blobs between the offsets. -/
def blobInst (headOffset tailOffset nextSeqNum count : Nat) : CflInst :=
  { freshInst with
    headOffset := headOffset
    tailOffset := tailOffset
    nextSeqNum := nextSeqNum
    entryCount := count
    byteCount := 6 * count }

/-- The flash with one entry, and with two. -/
def oneBlob : Memory :=
  flashAfter [] freshInst (.append (smallBlob 97 1)) erasedFlash

def twoBlobs : Memory :=
  flashAfter [] (blobInst 0 20 1 1) (.append (smallBlob 98 2)) oneBlob

/-- The flash after the failed confirm, and after the one that repeats it. -/
def failedOnce : Memory :=
  flashAfter [.completed, .failed 0] (blobInst 0 40 2 2) .consume twoBlobs

def confirmedTwice : Memory :=
  flashAfter [] (blobInst 20 40 2 1) .consume failedOnce

/-- The erased flash is created empty; two small entries are stored, and the first is read. -/
theorem blob_calls :
    (cflCreate.eval qspiFlash erasedFlash).1 = some freshInst ∧
    (Program.run qspiFlash [] (cflPerform freshInst (.append (smallBlob 97 1)))
      erasedFlash).1 = some (codeOnly .ok, blobInst 0 20 1 1) ∧
    (Program.run qspiFlash [] (cflPerform (blobInst 0 20 1 1) (.append (smallBlob 98 2)))
      oneBlob).1 = some (codeOnly .ok, blobInst 0 40 2 2) ∧
    (Program.run qspiFlash [] (cflPerform (blobInst 0 40 2 2) (.peek 4078)) twoBlobs).1 =
      some (⟨.ok, some (smallBlob 97 1), some 6⟩, blobInst 0 40 2 2) := by
  decide +kernel

/-- Every failure is admitted. -/
def AnyHeldFaults (_ : Bool) (_ : Faults qspi) (_ : CflDevice) (_ : CflCall) : Prop :=
  True

theorem any_step (held : Bool) (script : List Outcome)
    (hcall : (Program.run qspiFlash script (cflPerform cfl call) m).1 = some (answer, cfl'))
    (hflash : m' = flashAfter script cfl call m) :
    CflApiStep (AnyHeldFaults held) ⟨m, cfl, []⟩ call answer
      ⟨m', cfl', [⟨cfl, call, answer.err⟩]⟩ :=
  scripted_step script trivial (Program.allowed_always _ _ _ _) hcall hflash

theorem confirm_moves {O' : Outbox} {n : Nat} (h : OutboxMoves .confirm O calls O')
    (hreturned : O.returned = some n) (hgone : O.gone <= n + 1) :
    O'.entries = O.entries ∧ O'.returned = some n ∧ O'.gone <= n + 1 := by
  induction calls generalizing O' with
  | nil =>
      cases h
      exact ⟨rfl, hreturned, hgone⟩
  | cons e calls ih =>
      rcases h with ⟨O₁, hmoves, hmove⟩
      rcases ih hmoves with ⟨hentries, hlast, hle⟩
      cases hmove with
      | stays _ => exact ⟨hentries, hlast, hle⟩
      | confirmed _ hheld =>
          rw [hlast] at hheld
          cases hheld
          exact ⟨hentries, hlast, Nat.le_refl _⟩

theorem flashAfter_peek (script : List Outcome) (cfl : CflInst) (maxLen : Nat) (m : Memory) :
    flashAfter script cfl (.peek maxLen) m = m := by
  have hexec := Program.exec_run qspiFlash (cflPerform cfl (.peek maxLen)) script m
    (Program.allowed_always _ _ _ _)
  have huses : Program.Uses IsRead (cflPerform cfl (.peek maxLen)) :=
    Program.uses_bind (uses_cflPeekOldest cfl maxLen) (fun _ => Program.uses_pure _ _)
  have hsame := Program.wp_sound
    (Program.wp_of_uses (F := Faults.always qspi) keeps_read huses rfl) hexec
  unfold flashAfter
  cases hanswer : (Program.run qspiFlash script (cflPerform cfl (.peek maxLen)) m).1 with
  | none =>
      rw [hanswer] at hsame
      exact hsame.symm
  | some _ =>
      rw [hanswer] at hsame
      exact hsame.symm

/-- Two entries, a dequeue, a confirm that fails and its repetition. -/
def repeatedConfirm : List SafEvent :=
  [⟨.enqueue [97] [1] 0, [⟨freshInst, .append (smallBlob 97 1), .ok⟩], ⟨.ok, none⟩⟩,
    ⟨.enqueue [98] [2] 0, [⟨blobInst 0 20 1 1, .append (smallBlob 98 2), .ok⟩], ⟨.ok, none⟩⟩,
    ⟨.dequeue, [⟨blobInst 0 40 2 2, .peek 4078, .ok⟩], ⟨.ok, some (smallEntry 97 1)⟩⟩,
    ⟨.confirm, [⟨blobInst 0 40 2 2, .consume, .flashRead⟩], ⟨.flash, none⟩⟩,
    ⟨.confirm, [⟨blobInst 20 40 2 1, .consume, .ok⟩], ⟨.ok, none⟩⟩]

/-- The same entries and dequeue, and a confirm that succeeds. -/
def confirmedOnce : List SafEvent :=
  repeatedConfirm.take 3 ++
    [⟨.confirm, [⟨blobInst 0 40 2 2, .consume, .ok⟩], ⟨.ok, none⟩⟩]

def oneLeft : Memory :=
  flashAfter [] (blobInst 0 40 2 2) .consume twoBlobs

theorem quiet_step (held : Bool)
    (hcall : (Program.run qspiFlash [] (cflPerform cfl call) m).1 = some (answer, cfl'))
    (hflash : m' = flashAfter [] cfl call m) :
    CflApiStep (HeldSafe held) ⟨m, cfl, []⟩ call answer
      ⟨m', cfl', [⟨cfl, call, answer.err⟩]⟩ := by
  have hsafe : CallSafe (Faults.never qspi) m cfl call := by
    cases call with
    | append data => exact appendSafe_of_neverFails Faults.never_neverFails cfl data
    | peek maxLen => trivial
    | consume => exact consumeSafe_of_neverFails Faults.never_neverFails m cfl
    | drop => exact consumeSafe_of_neverFails Faults.never_neverFails m cfl
  exact scripted_step (F := Faults.never qspi) [] ⟨hsafe, fun _ _ _ _ _ hn => hn.elim⟩ trivial
    hcall hflash

/-- Of two entries the first is dequeued and confirmed: it alone has left, and a drain
delivers the second. -/
theorem only_published_is_removed_confirmed :
    exists q₀ O, ((cflDrainAll freshInst).eval qspiFlash erasedFlash).1 = (.empty, q₀) ∧
      OutboxRun ⟨q₀, 0, none⟩ confirmedOnce O ∧
      ((cflDrainAll (blobInst 20 40 2 1)).eval qspiFlash oneLeft).1 = (.empty, O.queue) ∧
      O.queue = [smallBlob 98 2] := by
  have hcreate := Program.exec_eval qspiFlash (Faults.never qspi) cflCreate erasedFlash
  rcases create_erased (m := erasedFlash) (fun _ _ _ => rfl) with ⟨cfl, heval, _⟩
  rcases blob_calls with ⟨hinst, hfirst, hsecond, hpeek⟩
  rw [heval] at hinst hcreate
  cases hinst
  have hconsume : (Program.run qspiFlash [] (cflPerform (blobInst 0 40 2 2) .consume)
      twoBlobs).1 = some (codeOnly .ok, blobInst 20 40 2 1) := by decide +kernel
  have hrun : SafRun HeldSafe erasedFlash freshInst (safCreate (cflGetOccupancy freshInst).1 8)
      confirmedOnce oneLeft (blobInst 20 40 2 1) ⟨8, 1, false, smallEntry 97 1⟩ :=
    .call (.call (quiet_step _ hfirst rfl) (.ret _ _))
      (.call (.call (quiet_step _ hsecond rfl) (.ret _ _))
        (.call (.call (quiet_step _ hpeek (flashAfter_peek _ _ _ _).symm) (.ret _ _))
          (.call (.call (quiet_step _ hconsume rfl) (.ret _ _)) (.done _ _ _))))
  rcases only_published_is_removed (.erased (fun _ _ _ => rfl)) hcreate hrun with
    ⟨q₀, O, hbefore, houtbox, hafter⟩
  have hleft : ((cflDrainAll (blobInst 20 40 2 1)).eval qspiFlash oneLeft).1 =
      (.empty, [smallBlob 98 2]) := by decide +kernel
  refine ⟨q₀, O, hbefore, houtbox, hafter, ?_⟩
  rw [hleft] at hafter
  exact (Prod.mk.inj hafter).2.symm

theorem repeatedConfirm_leaves_one (h : OutboxRun ⟨[], 0, none⟩ repeatedConfirm O) :
    O.queue ≠ [] := by
  rcases h with ⟨O₁, ⟨_, ⟨_, hnil, hone⟩, rfl, hentries₁⟩, h⟩
  cases hnil
  cases hone with
  | stays hne => exact absurd rfl (hne _ rfl)
  | stored =>
  rcases h with ⟨O₂, ⟨_, ⟨_, hnil, htwo⟩, rfl, hentries₂⟩, h⟩
  cases hnil
  cases htwo with
  | stays hne => exact absurd rfl (hne _ rfl)
  | stored =>
  rcases h with ⟨O₃, ⟨_, ⟨_, hnil, hpeek⟩, hpublish⟩, h⟩
  cases hnil
  cases hpeek with
  | stays _ =>
  rcases hpublish with ⟨rfl, _⟩
  rcases h with ⟨O₄, ⟨_, hfailed, rfl⟩, O₅, ⟨_, hagain, rfl⟩, rfl⟩
  rcases confirm_moves (n := 0) hfailed rfl (Nat.zero_le _) with ⟨hfirst, hlast, hle⟩
  rcases confirm_moves hagain hlast hle with ⟨hsecond, _, hgone⟩
  intro hqueue
  have hall := List.drop_eq_nil_iff.mp hqueue
  rw [hsecond, hfirst] at hall
  have htwoEntries : 2 <= O.gone := hall
  omega

/-- A confirm whose second header read fails has removed the entry; repeated, it removes the
next one, which nobody received. -/
theorem repeated_confirm_removes_unseen :
    exists m cfl inst,
      cflCreate.eval qspiFlash erasedFlash = (some freshInst, erasedFlash) ∧
      SafRun AnyHeldFaults erasedFlash freshInst (safCreate 0 8) repeatedConfirm m cfl inst ∧
      ((cflDrainAll cfl).eval qspiFlash m).1 = (.empty, []) ∧
      forall O, OutboxRun ⟨[], 0, none⟩ repeatedConfirm O ->
        ((cflDrainAll cfl).eval qspiFlash m).1 ≠ (.empty, O.queue) := by
  rcases create_erased (m := erasedFlash) (fun _ _ _ => rfl) with ⟨cfl, hcreate, _⟩
  rcases blob_calls with ⟨hinst, hfirst, hsecond, hpeek⟩
  rw [hcreate] at hinst
  cases hinst
  have hfailed : (Program.run qspiFlash [.completed, .failed 0]
      (cflPerform (blobInst 0 40 2 2) .consume) twoBlobs).1 =
      some (codeOnly .flashRead, blobInst 20 40 2 1) := by decide +kernel
  have hagain : (Program.run qspiFlash [] (cflPerform (blobInst 20 40 2 1) .consume)
      failedOnce).1 = some (codeOnly .ok, blobInst 40 40 2 0) := by decide +kernel
  have hempty : ((cflDrainAll (blobInst 40 40 2 0)).eval qspiFlash confirmedTwice).1 =
      (.empty, []) := rfl
  have hrun : SafRun AnyHeldFaults erasedFlash freshInst (safCreate 0 8) repeatedConfirm
      confirmedTwice (blobInst 40 40 2 0) ⟨8, 1, false, smallEntry 97 1⟩ :=
    .call (.call (any_step _ [] hfirst rfl) (.ret _ _))
      (.call (.call (any_step _ [] hsecond rfl) (.ret _ _))
        (.call (.call (any_step _ [] hpeek (flashAfter_peek _ _ _ _).symm) (.ret _ _))
          (.call (.call (any_step _ [.completed, .failed 0] hfailed rfl) (.ret _ _))
            (.call (.call (any_step _ [] hagain rfl) (.ret _ _)) (.done _ _ _)))))
  refine ⟨confirmedTwice, blobInst 40 40 2 0, _, hcreate, hrun, hempty, ?_⟩
  intro O houtbox hdrain
  rw [hempty] at hdrain
  exact repeatedConfirm_leaves_one houtbox (Prod.mk.inj hdrain).2.symm

end EnvMonitor.Gateway.StoreAndForward
