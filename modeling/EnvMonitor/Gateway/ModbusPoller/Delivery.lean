import EnvMonitor.Gateway.ModbusPoller.Bus

/-!
# What a reported result is worth

The invariant ties every response on the bus to an answered request, and for a running write
command every matching one to that command.
-/

namespace EnvMonitor.Gateway

open Modbus

/-- The bytes of an attempt are damaged, or a response that was on the bus. -/
def Explained (s : Bus) (req : PollerRequest) (bytes : List UInt8) : Prop :=
  Garbled bytes ∨ exists reply, reply ∈ s.answered ∧ bytes = reply.frame.onWire ∧
    (isWrite req.operation = true -> reply.sent.addr = req.slaveAddr ->
      reply.sent.op.functionCode = req.operation.functionCode -> reply.sent = s.sentBy req)

structure Inv (s : Bus) : Prop where
  requested : forall sent, s.InFlight sent -> exists req : PollerRequest, sent.op = req.operation
  responses : forall reply, reply ∈ s.responses -> reply ∈ s.answered
  answered : forall reply, reply ∈ s.answered -> reply.sent ∈ s.received ∧
    Conforms reply.sent.op reply.answer ∧ exists req : PollerRequest, reply.sent.op = req.operation
  own : forall run, s.current = some run -> isWrite run.req.operation = true ->
    forall sent, s.InFlight sent -> sent.addr = run.req.slaveAddr ->
      sent.op.functionCode = run.req.operation.functionCode -> sent = s.sentBy run.req
  attempts : forall run, s.current = some run -> forall bytes, Attempt.frame bytes ∈ run.attempts ->
    Explained s run.req bytes
  faithful : Faithful s

theorem Inv.initial : Inv Bus.initial where
  requested := by
    intro sent h
    rcases h with h | ⟨reply, h, -⟩
    · cases h
    · cases h
  responses := fun _ h => (by cases h)
  answered := fun _ h => (by cases h)
  own := fun _ h => (by cases h)
  attempts := fun _ h => (by cases h)
  faithful := fun _ h => (by cases h)

/-!
## Accepted responses
-/

theorem functionCode_not_exception (op other : Operation) :
    op.functionCode ≠ other.functionCode ||| exceptionFlag := by
  have hplain : forall op : Operation,
      op.functionCode = fcReadInput ∨ op.functionCode = fcWriteSingle ∨
        op.functionCode = fcWriteMultiple := by
    intro op
    cases op with
    | readInput start count => exact Or.inl rfl
    | writeSingle reg value => exact Or.inr (Or.inl rfl)
    | writeMultiple start values => exact Or.inr (Or.inr rfl)
  rcases hplain op with hop | hop | hop
  all_goals
    rcases hplain other with hother | hother | hother
    all_goals
      rw [hop, hother]
      decide

variable {other req : PollerRequest} {response : ModbusFrame} {reply : Reply} {words : List UInt16}
variable {s s' : Bus} {run : Running} {alpha : Type} {sent : Sent} {event : Event}
variable {maxRetries : Nat}

theorem read_block_unique {start count start' count' : UInt16}
    (hreq : req.operation = .readInput start count)
    (hother : other.operation = .readInput start' count') (hcount : count = count') :
    start = start' := by
  have hblock : forall (req : PollerRequest) (start count : UInt16),
      req.operation = .readInput start count ->
        (start = identityRegStart ∧ count = identityRegCount) ∨ (start = 0x0010 ∧ count = 3) ∨
          (start = fdRegAlarmFlags ∧ count = 1) := by
    intro req start count h
    cases req with
    | identity profile =>
        cases h
        exact Or.inl ⟨rfl, rfl⟩
    | telemetry profile map known =>
        have hmap := mapFor_known known
        cases h
        rw [hmap]
        exact Or.inr (Or.inl ⟨rfl, rfl⟩)
    | alarmFlags profile =>
        cases h
        exact Or.inr (Or.inr ⟨rfl, rfl⟩)
    | command cmd encodable =>
        change cmd.operation = _ at h
        unfold ModbusCommand.operation at h
        split at h
        · cases h
        · cases h
  rcases hblock req start count hreq with ⟨hs, hc⟩ | ⟨hs, hc⟩ | ⟨hs, hc⟩
  all_goals
    rcases hblock other start' count' hother with ⟨hs', hc'⟩ | ⟨hs', hc'⟩ | ⟨hs', hc'⟩
    all_goals
      rw [hc, hc'] at hcount
      first
        | exact absurd hcount (by decide)
        | rw [hs, hs']

/-- A response that the master takes is an acknowledgement of a request with the same slave and
function code. -/
theorem reply_accepted (h : processResponse req.frame reply.frame.onWire = .ok (.ok, some response))
    :
    exists words, reply.answer = .ok words ∧ response = reply.frame ∧
      reply.sent.addr = req.slaveAddr ∧
      reply.sent.op.functionCode = req.operation.functionCode := by
  rcases processResponse_accepts h with ⟨hresponse, haddr, hfc⟩
  rw [frame_eq] at haddr hfc
  unfold Reply.frame at haddr hfc
  rw [Operation.response_slaveAddr] at haddr
  cases hanswer : reply.answer with
  | error code =>
      rw [hanswer] at hfc
      exact absurd hfc.symm (functionCode_not_exception req.operation reply.sent.op)
  | ok words =>
      rw [hanswer, Operation.response_functionCode] at hfc
      exact ⟨words, rfl, hresponse, haddr, hfc⟩

theorem reply_same_read (hread : isWrite req.operation = false)
    (hreq : reply.sent.op = other.operation) (hanswer : reply.answer = .ok words)
    (hconforms : Conforms reply.sent.op reply.answer)
    (hfc : reply.sent.op.functionCode = req.operation.functionCode)
    (hlen : dataLengthOk req.operation reply.frame = true) : reply.sent.op = req.operation := by
  cases hop : req.operation with
  | writeSingle reg value =>
      rw [hop] at hread
      cases hread
  | writeMultiple start values =>
      rw [hop] at hread
      cases hread
  | readInput start count =>
      rw [hop] at hfc hlen
      cases hsent : reply.sent.op with
      | writeSingle reg value =>
          rw [hsent] at hfc
          change fcWriteSingle = fcReadInput at hfc
          exact absurd hfc (by decide)
      | writeMultiple start' values =>
          rw [hsent] at hfc
          change fcWriteMultiple = fcReadInput at hfc
          exact absurd hfc (by decide)
      | readInput start' count' =>
          have hwords : words.length = count'.toNat := by
            rw [hsent, hanswer] at hconforms
            exact hconforms
          have hdata : reply.frame.data.length = 1 + count.toNat * 2 := of_decide_eq_true hlen
          unfold Reply.frame at hdata
          rw [hsent, hanswer] at hdata
          change (Operation.byteCount words.length :: wordsBytes words).length = _ at hdata
          rw [List.length_cons, wordsBytes_length, hwords] at hdata
          have hcount : count' = count := by
            apply UInt16.toNat_inj.mp
            omega
          rw [hsent] at hreq
          rw [read_block_unique hreq.symm hop hcount, hcount]

/-!
## One attempt
-/

theorem finishAttempt_cases (s : Bus) (maxRetries : Nat) (run : Running) (attempt : Attempt) :
    (exists response,
      modbusMasterTransact run.req.frame (run.attempts ++ [attempt]) = (.ok, some response) ∧
      dataLengthOk run.req.operation response = true ∧
      s.finishAttempt maxRetries run attempt =
        { s with current := none, posted := ⟨s.sentBy run.req, response⟩ :: s.posted }) ∨
    s.finishAttempt maxRetries run attempt = { s with current := none } ∨
    s.finishAttempt maxRetries run attempt =
      { s with current := some (run.failed attempt) } := by
  unfold Bus.finishAttempt
  dsimp only
  split
  · unfold Bus.post
    split
    · rename_i response hresult
      split
      · rename_i hlen
        exact Or.inl ⟨response, hresult, hlen, rfl⟩
      · exact Or.inr (Or.inl rfl)
    · exact Or.inr (Or.inl rfl)
  · exact Or.inr (Or.inr rfl)

theorem posted_faithful {attempts : List Attempt} (hinv : Inv s)
    (hexplained : forall bytes, Attempt.frame bytes ∈ attempts -> Explained s req bytes)
    (hok : modbusMasterTransact req.frame attempts = (.ok, some response))
    (hlen : dataLengthOk req.operation response = true) :
    exists reply words, reply ∈ s.answered ∧ reply.sent ∈ s.received ∧
      reply.answer = .ok words ∧ response = reply.frame ∧ reply.sent.addr = req.slaveAddr ∧
      reply.sent.op = req.operation ∧
      (isWrite req.operation = true -> reply.sent = s.sentBy req) := by
  rcases transact_ok hok with ⟨bytes, hmem, hprocess⟩
  rcases hexplained bytes hmem with hgarbled | ⟨reply, hanswered, hbytes, hown⟩
  · rcases @processResponse_garbled req.frame _ hgarbled with ⟨err, herr⟩
    rw [herr] at hprocess
    cases hprocess
  · rw [hbytes] at hprocess
    rcases reply_accepted hprocess with ⟨words, hanswer, hresponse, haddr, hfc⟩
    rcases hinv.answered reply hanswered with ⟨hreceived, hconforms, other, hother⟩
    have hsame : reply.sent.op = req.operation := by
      cases hwrite : isWrite req.operation with
      | true =>
          rw [hown hwrite haddr hfc]
          rfl
      | false =>
          rw [hresponse] at hlen
          exact reply_same_read hwrite hother hanswer hconforms hfc hlen
    exact ⟨reply, words, hanswered, hreceived, hanswer, hresponse, haddr, hsame,
      fun hwrite => hown hwrite haddr hfc⟩

theorem Inv.finishAttempt {attempt : Attempt} (hinv : Inv s) (maxRetries : Nat)
    (hcurrent : s.current = some run)
    (hattempt : forall bytes, attempt = .frame bytes -> Explained s run.req bytes) :
    Inv (s.finishAttempt maxRetries run attempt) := by
  have hexplained : forall bytes, Attempt.frame bytes ∈ run.attempts ++ [attempt] ->
      Explained s run.req bytes := by
    intro bytes hmem
    rcases List.mem_append.mp hmem with hearlier | hlast
    · exact hinv.attempts run hcurrent bytes hearlier
    · exact hattempt bytes (List.mem_singleton.mp hlast).symm
  rcases finishAttempt_cases s maxRetries run attempt with
    ⟨response, hok, hlen, hstate⟩ | hstate | hstate
  · have hnew := posted_faithful hinv hexplained hok hlen
    rw [hstate]
    exact {
      requested := hinv.requested
      responses := hinv.responses
      answered := hinv.answered
      own := fun _ h => (by cases h)
      attempts := fun _ h => (by cases h)
      faithful := by
        intro posted hposted
        rcases List.mem_cons.mp hposted with hhead | hold
        · rw [hhead]
          exact hnew
        · exact hinv.faithful posted hold }
  · rw [hstate]
    exact {
      requested := hinv.requested
      responses := hinv.responses
      answered := hinv.answered
      own := fun _ h => (by cases h)
      attempts := fun _ h => (by cases h)
      faithful := hinv.faithful }
  · rw [hstate]
    exact {
      requested := hinv.requested
      responses := hinv.responses
      answered := hinv.answered
      own := by
        intro run' hrun'
        cases hrun'
        exact hinv.own run hcurrent
      attempts := by
        intro run' hrun'
        cases hrun'
        exact hexplained
      faithful := hinv.faithful }

/-!
## Frames in flight
-/

theorem Inv.fewer (hinv : Inv s) {requests : List Sent} {responses : List Reply}
    (hrequests : forall sent, sent ∈ requests -> sent ∈ s.requests)
    (hresponses : forall reply, reply ∈ responses -> reply ∈ s.responses) :
    Inv { s with requests := requests, responses := responses } := by
  have hflight : forall sent,
      Bus.InFlight { s with requests := requests, responses := responses } sent ->
        s.InFlight sent := by
    intro sent h
    rcases h with hrequest | ⟨reply, hreply, hsent⟩
    · exact Or.inl (hrequests sent hrequest)
    · exact Or.inr ⟨reply, hresponses reply hreply, hsent⟩
  exact {
    requested := fun sent h => hinv.requested sent (hflight sent h)
    responses := fun reply h => hinv.responses reply (hresponses reply h)
    answered := hinv.answered
    own := fun run hrun hwrite sent h => hinv.own run hrun hwrite sent (hflight sent h)
    attempts := hinv.attempts
    faithful := hinv.faithful }

theorem Explained.mono {bytes : List UInt8} (h : Explained s req bytes) (htxn : s'.txn = s.txn)
    (hanswered : forall reply, reply ∈ s.answered -> reply ∈ s'.answered) :
    Explained s' req bytes := by
  rcases h with hgarbled | ⟨reply, hreply, hbytes, hown⟩
  · exact Or.inl hgarbled
  · refine Or.inr ⟨reply, hanswered reply hreply, hbytes, ?_⟩
    unfold Bus.sentBy
    rw [htxn]
    exact hown

theorem Faithful.mono (h : Faithful s) (hposted : s'.posted = s.posted)
    (hreceived : forall sent, sent ∈ s.received -> sent ∈ s'.received)
    (hanswered : forall reply, reply ∈ s.answered -> reply ∈ s'.answered) : Faithful s' := by
  intro posted hmem
  rw [hposted] at hmem
  rcases h posted hmem with ⟨reply, words, hreply, hsent, hrest⟩
  exact ⟨reply, words, hanswered reply hreply, hreceived reply.sent hsent, hrest⟩

theorem mem_of_flying {before after : List alpha} {x y : alpha} (h : y ∈ before ++ after) :
    y ∈ before ++ x :: after := by
  rcases List.mem_append.mp h with hbefore | hafter
  · exact List.mem_append_left (x :: after) hbefore
  · exact List.mem_append_right before (List.mem_cons_of_mem x hafter)

theorem flying_mem {before after xs : List alpha} {x : alpha} (h : xs = before ++ x :: after) :
    x ∈ xs := by
  rw [h]
  exact List.mem_append_right before List.mem_cons_self

theorem Inv.receive (hinv : Inv s) {before after : List Sent}
    (hflying : s.requests = before ++ sent :: after) :
    Inv { s with requests := before ++ after, received := sent :: s.received } := by
  have hfewer : Inv { s with requests := before ++ after } := by
    apply hinv.fewer
    · intro other hother
      rw [hflying]
      exact mem_of_flying hother
    · intro reply hreply
      exact hreply
  exact {
    requested := hfewer.requested
    responses := hfewer.responses
    answered := by
      intro reply hreply
      rcases hinv.answered reply hreply with ⟨hreceived, hrest⟩
      exact ⟨List.mem_cons_of_mem sent hreceived, hrest⟩
    own := hfewer.own
    attempts := hfewer.attempts
    faithful := hfewer.faithful.mono rfl (fun _ h => List.mem_cons_of_mem sent h)
      (fun _ h => h) }

theorem Inv.answer (hinv : Inv s) {answer : Answer} (hreceived : sent ∈ s.received)
    (hconforms : Conforms sent.op answer)
    (hrequest : exists req : PollerRequest, sent.op = req.operation)
    (hown : forall run, s.current = some run -> isWrite run.req.operation = true ->
      sent.addr = run.req.slaveAddr ->
      sent.op.functionCode = run.req.operation.functionCode -> sent = s.sentBy run.req) :
    Inv { s with responses := ⟨sent, answer⟩ :: s.responses,
                 answered := ⟨sent, answer⟩ :: s.answered } := by
  have hflight : forall other,
      Bus.InFlight { s with responses := ⟨sent, answer⟩ :: s.responses,
                            answered := ⟨sent, answer⟩ :: s.answered } other ->
        other = sent ∨ s.InFlight other := by
    intro other h
    rcases h with hrequest | ⟨reply, hreply, hsent⟩
    · exact Or.inr (Or.inl hrequest)
    · rcases List.mem_cons.mp hreply with hnew | hold
      · rw [hnew] at hsent
        exact Or.inl hsent.symm
      · exact Or.inr (Or.inr ⟨reply, hold, hsent⟩)
  exact {
    requested := by
      intro other h
      rcases hflight other h with hnew | hold
      · rw [hnew]
        exact hrequest
      · exact hinv.requested other hold
    responses := by
      intro reply hreply
      rcases List.mem_cons.mp hreply with hnew | hold
      · rw [hnew]
        exact List.mem_cons_self
      · exact List.mem_cons_of_mem _ (hinv.responses reply hold)
    answered := by
      intro reply hreply
      rcases List.mem_cons.mp hreply with hnew | hold
      · rw [hnew]
        exact ⟨hreceived, hconforms, hrequest⟩
      · exact hinv.answered reply hold
    own := by
      intro run hrun hwrite other h haddr hfc
      rcases hflight other h with hnew | hold
      · rw [hnew] at haddr hfc ⊢
        exact hown run hrun hwrite haddr hfc
      · exact hinv.own run hrun hwrite other hold haddr hfc
    attempts := by
      intro run hrun bytes hbytes
      exact (hinv.attempts run hrun bytes hbytes).mono rfl
        (fun _ h => List.mem_cons_of_mem _ h)
    faithful := hinv.faithful.mono rfl (fun _ h => h) (fun _ h => List.mem_cons_of_mem _ h) }

theorem Inv.transmit (hinv : Inv s) (hcurrent : s.current = some run) :
    Inv { s with current := some { run with waiting := true },
                 requests := s.sentBy run.req :: s.requests } := by
  have hflight : forall sent,
      Bus.InFlight { s with current := some { run with waiting := true },
                            requests := s.sentBy run.req :: s.requests } sent ->
        sent = s.sentBy run.req ∨ s.InFlight sent := by
    intro sent h
    rcases h with hrequest | hreply
    · rcases List.mem_cons.mp hrequest with hnew | hold
      · exact Or.inl hnew
      · exact Or.inr (Or.inl hold)
    · exact Or.inr (Or.inr hreply)
  exact {
    requested := by
      intro sent h
      rcases hflight sent h with hnew | hold
      · rw [hnew]
        exact ⟨run.req, rfl⟩
      · exact hinv.requested sent hold
    responses := hinv.responses
    answered := hinv.answered
    own := by
      intro run' hrun' hwrite sent h haddr hfc
      cases hrun'
      rcases hflight sent h with hnew | hold
      · exact hnew
      · exact hinv.own run hcurrent hwrite sent hold haddr hfc
    attempts := by
      intro run' hrun'
      cases hrun'
      exact hinv.attempts run hcurrent
    faithful := hinv.faithful }

theorem Inv.start (hinv : Inv s) (hclear : ClearFor s (.start req)) :
    Inv { s with txn := s.txn + 1, current := some ⟨req, [], false⟩ } where
  requested := hinv.requested
  responses := hinv.responses
  answered := hinv.answered
  own := by
    intro run hrun hwrite sent h haddr hfc
    cases hrun
    exact absurd hfc (hclear hwrite sent h haddr)
  attempts := by
    intro run hrun bytes hbytes
    cases hrun
    cases hbytes
  faithful := hinv.faithful

theorem Inv.step (hinv : Inv s) (hclear : ClearFor s event) (h : Step maxRetries s event s') :
    Inv s' := by
  cases h with
  | start idle => exact hinv.start hclear
  | transmit current ready => exact hinv.transmit current
  | txFailed current ready =>
      exact hinv.finishAttempt maxRetries current (fun _ h => (by cases h))
  | noResponse current waits =>
      exact hinv.finishAttempt maxRetries current (fun _ h => (by cases h))
  | rxError current waits =>
      exact hinv.finishAttempt maxRetries current (fun _ h => (by cases h))
  | garbledFrame current waits garbled =>
      apply hinv.finishAttempt maxRetries current
      intro bytes h
      cases h
      exact Or.inl garbled
  | @responseArrives run before after reply current waits flying =>
      have hreply : reply ∈ s.responses := flying_mem flying
      have hfewer : Inv { s with responses := before ++ after } := by
        apply hinv.fewer
        · intro sent hsent
          exact hsent
        · intro other hother
          rw [flying]
          exact mem_of_flying hother
      apply hfewer.finishAttempt maxRetries current
      intro bytes h
      cases h
      exact Or.inr ⟨reply, hinv.responses reply hreply, rfl,
        fun hwrite => hinv.own run current hwrite reply.sent (Or.inr ⟨reply, hreply, rfl⟩)⟩
  | slaveSilent flying => exact hinv.receive flying
  | @slaveAnswers before after sent answer flying conforms =>
      have hsent : s.InFlight sent := Or.inl (flying_mem flying)
      exact (hinv.receive flying).answer List.mem_cons_self conforms
        (hinv.requested sent hsent)
        (fun run hrun hwrite => hinv.own run hrun hwrite sent hsent)
  | @duplicateRequest sent flying =>
      apply hinv.fewer
      · intro other hother
        rcases List.mem_cons.mp hother with hcopy | hold
        · rw [hcopy]
          exact flying
        · exact hold
      · exact fun _ h => h
  | loseRequest flying =>
      apply hinv.fewer
      · intro other hother
        rw [flying]
        exact mem_of_flying hother
      · exact fun _ h => h
  | @duplicateResponse reply flying =>
      apply hinv.fewer
      · exact fun _ h => h
      · intro other hother
        rcases List.mem_cons.mp hother with hcopy | hold
        · rw [hcopy]
          exact flying
        · exact hold
  | loseResponse flying =>
      apply hinv.fewer
      · exact fun _ h => h
      · intro other hother
        rw [flying]
        exact mem_of_flying hother

/-- In every run whose write commands each start on a clear bus, every reported result was
executed as sent. -/
theorem reported_as_sent {maxRetries : Nat} {s : Bus}
    (h : Reachable maxRetries ClearFor s) : Faithful s := by
  have hinv : Inv s := by
    induction h with
    | initial => exact Inv.initial
    | step reached meets step ih => exact ih.step meets step
  exact hinv.faithful

/-!
## A late acknowledgement
-/

theorem finishAttempt_reply (s : Bus) (maxRetries : Nat) (req : PollerRequest) (reply : Reply)
    (hanswer : reply.answer = .ok words) (haddr : reply.sent.addr = req.slaveAddr)
    (hfc : reply.sent.op.functionCode = req.operation.functionCode)
    (hlen : dataLengthOk req.operation reply.frame = true) :
    s.finishAttempt maxRetries ⟨req, [], true⟩ (.frame reply.frame.onWire) =
      { s with current := none, posted := ⟨s.sentBy req, reply.frame⟩ :: s.posted } := by
  have hprocess : processResponse req.frame reply.frame.onWire = .ok (.ok, some reply.frame) := by
    apply processResponse_ok
    · unfold Reply.frame
      rw [Operation.response_slaveAddr, frame_eq]
      exact haddr
    · unfold Reply.frame
      rw [hanswer, Operation.response_functionCode, frame_eq]
      exact hfc
    · rw [frame_eq]
      exact Operation.functionCode_plain req.operation
  have hfits : req.frame.data.length ≤ modbusMaxDataBytes := by
    rw [frame_eq]
    exact Operation.data_length (operation_fits req)
  have hends : ends req (.frame reply.frame.onWire) = true := by
    unfold ends runAttempt
    dsimp only
    rw [hprocess]
  unfold Bus.finishAttempt
  dsimp only
  rw [hends, Bool.true_or, if_pos rfl, List.nil_append, transact_first [] hfits hprocess]
  unfold Bus.post
  dsimp only
  rw [if_pos hlen]
  rfl

/-- Set the low and the high temperature threshold of slave 1. -/
def setLow : PollerRequest :=
  .command ⟨1, fcWriteSingle, 0x0100, 0, [100]⟩ (by decide)

def setHigh : PollerRequest :=
  .command ⟨1, fcWriteSingle, 0x0101, 0, [400]⟩ (by decide)

def lowSent : Sent := ⟨1, 1, .writeSingle 0x0100 100⟩

def highSent : Sent := ⟨2, 1, .writeSingle 0x0101 400⟩

def lowReply : Reply := ⟨lowSent, .ok [0x0100, 100]⟩

/-- The command alone on a clear bus. -/
def promptBus : Bus :=
  { Bus.initial with txn := 1, received := [lowSent], answered := [lowReply],
                     posted := [⟨lowSent, lowReply.frame⟩] }

theorem Reachable.next {guard : Bus -> Event -> Prop} (h : Reachable maxRetries guard s)
    (step : Step maxRetries s event s') (meets : guard s event) : Reachable maxRetries guard s' :=
  h.step meets step

theorem promptBus_reachable : Reachable 1 ClearFor promptBus := by
  have hclear : ClearFor Bus.initial (.start setLow) := by
    intro _ sent h
    rcases h with h | ⟨reply, h, -⟩
    · cases h
    · cases h
  have hstart := Reachable.initial.next (@Step.start 1 _ setLow rfl) hclear
  have hsent := hstart.next (Step.transmit rfl rfl) trivial
  have hanswered := hsent.next
    (@Step.slaveAnswers 1 _ [] [] lowSent (.ok [0x0100, 100]) rfl rfl) trivial
  have hdone := hanswered.next
    (@Step.responseArrives 1 _ ⟨setLow, [], true⟩ [] [] lowReply rfl rfl rfl) trivial
  rw [finishAttempt_reply _ 1 setLow lowReply rfl rfl rfl rfl] at hdone
  exact hdone

theorem reported_as_sent_prompt : Faithful promptBus :=
  reported_as_sent promptBus_reachable

/-- The response to the low threshold comes after both its attempts have timed out, and is taken
for the high one. -/
def lateBus : Bus :=
  { Bus.initial with txn := 2, requests := [highSent, lowSent], received := [lowSent],
                     answered := [lowReply], posted := [⟨highSent, lowReply.frame⟩] }

theorem lateBus_reachable : Reachable 1 (fun _ _ => True) lateBus := by
  have hlow := (@Reachable.initial 1 (fun _ _ => True)).next (@Step.start 1 _ setLow rfl)
    trivial
  have hsent := hlow.next (Step.transmit rfl rfl) trivial
  have hanswered := hsent.next
    (@Step.slaveAnswers 1 _ [] [] lowSent (.ok [0x0100, 100]) rfl rfl) trivial
  have hfirst := hanswered.next (Step.noResponse rfl rfl) trivial
  have hagain := hfirst.next (@Step.transmit 1 _ ⟨setLow, [.noResponse], false⟩ rfl rfl)
    trivial
  have hsecond := hagain.next (Step.noResponse rfl rfl) trivial
  have hhigh := hsecond.next (@Step.start 1 _ setHigh rfl) trivial
  have hhighSent := hhigh.next (Step.transmit rfl rfl) trivial
  have hdone := hhighSent.next
    (@Step.responseArrives 1 _ ⟨setHigh, [], true⟩ [] [] lowReply rfl rfl rfl) trivial
  rw [finishAttempt_reply _ 1 setHigh lowReply rfl rfl rfl rfl] at hdone
  exact hdone

theorem late_response_reported :
    exists s, Reachable 1 (fun _ _ => True) s ∧ ¬Faithful s := by
  refine ⟨lateBus, lateBus_reachable, ?_⟩
  intro h
  rcases h ⟨highSent, lowReply.frame⟩ List.mem_cons_self with
    ⟨reply, words, hanswered, -, -, -, -, -, hown⟩
  have hreply : reply = lowReply := List.mem_singleton.mp hanswered
  have hsame : reply.sent = highSent := hown rfl
  rw [hreply] at hsame
  exact absurd hsame (by decide)

end EnvMonitor.Gateway
