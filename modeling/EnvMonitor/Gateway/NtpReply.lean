import EnvMonitor.Gateway.NtpClient

/-!
# What an answer of NtpClient is worth
-/

namespace EnvMonitor.Gateway.NtpClient

open Device Device.Program

/-!
## Reply
-/

theorem shifted_byte (x : UInt8) {k : UInt32} (hk : k.toNat ≤ 24) :
    (x.toUInt32 <<< k).toNat = x.toNat <<< k.toNat := by
  have hx : x.toNat < 2 ^ 8 := x.toNat_lt
  have hmod : k.toNat % 32 = k.toNat := Nat.mod_eq_of_lt (Nat.lt_of_le_of_lt hk (by decide))
  rw [UInt32.toNat_shiftLeft, UInt8.toNat_toUInt32, hmod]
  apply Nat.mod_eq_of_lt
  rw [Nat.shiftLeft_eq]
  calc x.toNat * 2 ^ k.toNat < 2 ^ 8 * 2 ^ k.toNat :=
        Nat.mul_lt_mul_of_pos_right hx (Nat.two_pow_pos _)
    _ = 2 ^ (8 + k.toNat) := (Nat.pow_add 2 8 _).symm
    _ ≤ 2 ^ 32 := Nat.pow_le_pow_right (by decide) (Nat.add_le_add_left hk 8)

theorem byte_or {x low w : Nat} (hx : x < 2 ^ 8) (hlow : low < 2 ^ w) :
    (x <<< w) ||| low = x * 2 ^ w + low ∧ x * 2 ^ w + low < 2 ^ (w + 8) := by
  constructor
  · rw [← Nat.shiftLeft_add_eq_or_of_lt hlow, Nat.shiftLeft_eq]
  · have hle : (x + 1) * 2 ^ w ≤ 2 ^ 8 * 2 ^ w := Nat.mul_le_mul_right _ hx
    rw [Nat.pow_add, Nat.mul_comm (2 ^ w)]
    rw [Nat.add_mul, Nat.one_mul] at hle
    exact Nat.lt_of_lt_of_le (Nat.add_lt_add_left hlow _) hle

theorem readBe32_toNat (pkt : List UInt8) :
    (readBe32 pkt ntpTxTsSecOffset).toNat = transmitSeconds pkt := by
  unfold readBe32 transmitSeconds
  have hd : (pkt.getD 43 0).toNat < 2 ^ 8 := UInt8.toNat_lt _
  rcases byte_or (pkt.getD 42 0).toNat_lt hd with ⟨hc, hclt⟩
  rcases byte_or (pkt.getD 41 0).toNat_lt hclt with ⟨hb, hblt⟩
  rcases byte_or (pkt.getD 40 0).toNat_lt hblt with ⟨ha, _⟩
  rw [UInt32.toNat_or, UInt32.toNat_or, UInt32.toNat_or, UInt8.toNat_toUInt32,
    shifted_byte _ (by decide), shifted_byte _ (by decide), shifted_byte _ (by decide)]
  change (pkt.getD 40 0).toNat <<< 24 ||| (pkt.getD 41 0).toNat <<< 16 |||
    (pkt.getD 42 0).toNat <<< 8 ||| (pkt.getD 43 0).toNat = _
  rw [Nat.or_assoc, Nat.or_assoc, hc, hb, ha]
  simp only [Nat.add_assoc]

theorem serverReply_of_sane {pkt : List UInt8} (hlen : pkt.length = ntpPacketBytes)
    (hsane : replyIsSane pkt (readBe32 pkt ntpTxTsSecOffset) = true) :
    ServerReply pkt (readBe32 pkt ntpTxTsSecOffset - ntpUnixOffset) := by
  unfold replyIsSane at hsane
  by_cases hmode : pkt.getD 0 0 &&& ntpModeMask ≠ ntpModeServer
  · rw [if_pos hmode] at hsane
    cases hsane
  · rw [if_neg hmode] at hsane
    by_cases hstratum : pkt.getD 1 0 = 0 ∨ ntpStratumMax < pkt.getD 1 0
    · rw [if_pos hstratum] at hsane
      cases hsane
    · rw [if_neg hstratum, Bool.and_eq_true, decide_eq_true_iff, decide_eq_true_iff] at hsane
      refine ⟨hlen, ?_, ?_, ?_⟩
      · have heq := congrArg UInt8.toNat (Classical.not_not.mp hmode)
        rw [UInt8.toNat_and] at heq
        exact (Nat.and_two_pow_sub_one_eq_mod _ 3).symm.trans heq
      · constructor
        · apply Nat.pos_of_ne_zero
          intro hzero
          exact hstratum (Or.inl (UInt8.toNat_inj.mp hzero))
        · apply Nat.le_of_not_lt
          intro hlt
          exact hstratum (Or.inr (UInt8.lt_iff_toNat_lt.mpr hlt))
      · rw [UInt32.toNat_sub_of_le _ _ hsane.2, readBe32_toNat]
        have hle : ntpUnixOffset.toNat ≤ transmitSeconds pkt := by
          rw [← readBe32_toNat]
          exact UInt32.le_iff_toNat_le.mp hsane.2
        exact Nat.sub_add_cancel hle

/-!
## One server
-/

/-- `body` is what the exchange did. -/
structure Exchanged (sock : WifiSocket) (r : Option UInt32) (body : List NtpEvent) : Prop where
  noSocket : body.filter isSocketEvent = []
  reply : forall epoch, r = some epoch -> exists d,
    body = [.sent sock ntpRequest, .received sock d] ∧ ServerReply d.bytes epoch

theorem exchange_spec (sock : WifiSocket) (trace : List NtpEvent) :
    EveryCall NtpStep (fun r trace' => exists body, trace' = trace ++ body ∧ Exchanged sock r body)
      (exchange sock) trace := by
  unfold exchange
  apply every_call
  intro ok trace₁ hsend
  cases hok : ok with
  | false =>
      subst hok
      cases hsend with
      | sends =>
          exact ⟨[.sent sock ntpRequest], rfl, rfl, fun _ h => nomatch h⟩
      | sendsNot => exact ⟨[], (List.append_nil trace).symm, rfl, fun _ h => nomatch h⟩
  | true =>
      subst hok
      cases hsend with
      | sends =>
          apply every_call
          intro r trace₂ hrecv
          cases hrecv with
          | receivesNot =>
              exact ⟨[.sent sock ntpRequest], rfl, rfl, fun _ h => nomatch h⟩
          | receives _ _ _ d hroom hsent =>
              have hboth : trace ++ [NtpEvent.sent sock ntpRequest] ++ [.received sock d] =
                  trace ++ [.sent sock ntpRequest, .received sock d] := List.append_assoc _ _ _
              rw [hboth]
              apply every_ite
              · intro _
                exact ⟨[.sent sock ntpRequest, .received sock d], rfl, rfl, fun _ h => nomatch h⟩
              · intro hlen
                apply every_ite
                · intro hsane
                  refine ⟨[.sent sock ntpRequest, .received sock d], rfl, rfl, ?_⟩
                  intro epoch hepoch
                  cases hepoch
                  exact ⟨d, rfl, serverReply_of_sane (Classical.not_not.mp hlen) hsane⟩
                · intro _
                  apply every_call
                  intro _ trace₃ hpush
                  cases hpush
                  exact ⟨[.sent sock ntpRequest, .received sock d, .pushed .ntpBadResponse 0],
                    List.append_assoc _ _ _, rfl, fun _ h => nomatch h⟩

theorem ClosesSockets.nil : ClosesSockets [] := ⟨[], rfl⟩

theorem ClosesSockets.append {front rest : List NtpEvent} (hfront : ClosesSockets front)
    (hrest : ClosesSockets rest) : ClosesSockets (front ++ rest) := by
  rcases hfront with ⟨socks, hsocks⟩
  rcases hrest with ⟨socks', hsocks'⟩
  exact ⟨socks ++ socks', by rw [List.filter_append, hsocks, hsocks', List.flatMap_append]⟩

theorem ClosesSockets.pushed (event : HealthEvent) (value : UInt32) :
    ClosesSockets [.pushed event value] := ⟨[], rfl⟩

/-- `body` is what went on for one server. -/
structure Attempted (r : Option UInt32) (body : List NtpEvent) : Prop where
  closes : ClosesSockets body
  reply : forall epoch, r = some epoch -> exists sock d,
    body = [.opened sock, .sent sock ntpRequest, .received sock d, .closed sock] ∧
    ServerReply d.bytes epoch

theorem Attempted.nothing : Attempted none [] where
  closes := .nil
  reply _ h := nomatch h

theorem Exchanged.attempted {sock : WifiSocket} {r : Option UInt32} {body : List NtpEvent}
    (h : Exchanged sock r body) : Attempted r (.opened sock :: (body ++ [.closed sock])) where
  closes := by
    refine ⟨[sock], ?_⟩
    rw [List.filter_cons_of_pos rfl, List.filter_append, h.noSocket]
    rfl
  reply epoch hepoch := by
    rcases h.reply epoch hepoch with ⟨d, hbody, hreply⟩
    exact ⟨sock, d, by rw [hbody]; rfl, hreply⟩

theorem queryAddress_spec (ip : String) (trace : List NtpEvent) :
    EveryCall NtpStep (fun r trace' => exists body, trace' = trace ++ body ∧ Attempted r body)
      (queryAddress ip) trace := by
  unfold queryAddress
  apply every_call
  intro r trace₁ hopen
  cases hopen with
  | opensNot => exact ⟨[], (List.append_nil trace).symm, .nothing⟩
  | opens _ _ sock =>
      apply every_seq (exchange_spec sock _)
      rintro epoch trace₂ ⟨body, htrace, hexchanged⟩
      apply every_call
      intro ok trace₃ hclose
      cases hclose
      refine ⟨.opened sock :: (body ++ [.closed sock]), ?_, hexchanged.attempted⟩
      rw [htrace, List.append_assoc, List.append_assoc]
      rfl

theorem queryOne_spec (server : Option String) (trace : List NtpEvent) :
    EveryCall NtpStep (fun r trace' => exists body, trace' = trace ++ body ∧ Attempted r body)
      (queryOne server) trace := by
  cases server with
  | none => exact ⟨[], (List.append_nil trace).symm, .nothing⟩
  | some name =>
      unfold queryOne
      dsimp only
      apply every_ite
      · exact fun _ => queryAddress_spec name trace
      · intro _
        apply every_call
        intro ip trace₁ hresolve
        cases hresolve
        cases ip with
        | none => exact ⟨[], (List.append_nil trace).symm, .nothing⟩
        | some ip => exact queryAddress_spec ip trace

/-!
## Query
-/

theorem queryServers_spec (servers : List (Option String)) (trace : List NtpEvent) :
    EveryCall NtpStep (fun result trace' => exists calls, trace' = trace ++ calls ∧
      FreshReply result calls) (queryServers servers) trace := by
  induction servers generalizing trace with
  | nil =>
      unfold queryServers
      apply every_call
      intro _ trace₁ hpush
      cases hpush
      exact ⟨[.pushed .ntpSyncFailed 0], rfl, .pushed _ _, fun _ h => nomatch h⟩
  | cons server rest ih =>
      unfold queryServers
      apply every_seq (queryOne_spec server trace)
      rintro r trace₁ ⟨body, htrace, hattempted⟩
      subst htrace
      cases r with
      | some epoch =>
          apply every_call
          intro _ trace₂ hpush
          cases hpush
          refine ⟨body ++ [.pushed .ntpSyncOk epoch], List.append_assoc _ _ _,
            hattempted.closes.append (.pushed _ _), ?_⟩
          intro epoch' hepoch
          cases hepoch
          rcases hattempted.reply epoch rfl with ⟨sock, d, hbody, hreply⟩
          exact ⟨[], sock, d, by rw [hbody]; rfl, hreply⟩
      | none =>
          refine every_mono ?_ (ih (trace ++ body))
          rintro result trace₂ ⟨calls, htrace, hfresh⟩
          refine ⟨body ++ calls, htrace.trans (List.append_assoc _ _ _),
            hattempted.closes.append hfresh.closes, ?_⟩
          intro epoch hepoch
          rcases hfresh.reply epoch hepoch with ⟨before, sock, d, hcalls, hreply⟩
          exact ⟨body ++ before, sock, d, by rw [hcalls, List.append_assoc], hreply⟩

theorem ntpClientQuery_spec (inUse : Bool) (servers : List (Option String))
    (trace : List NtpEvent) :
    EveryCall NtpStep (fun result trace' => exists calls, trace' = trace ++ calls ∧
      FreshReply result calls) (ntpClientQuery inUse servers) trace := by
  have hrefused (err : NtpClientErr) : exists calls, trace = trace ++ calls ∧
      FreshReply (.error err) calls :=
    ⟨[], (List.append_nil trace).symm, .nil, fun _ h => nomatch h⟩
  unfold ntpClientQuery
  apply every_ite
  · exact fun _ => hrefused .nullPtr
  · intro _
    apply every_ite
    · exact fun _ => hrefused .invalidArg
    · exact fun _ => queryServers_spec servers trace

/-- Whatever was sent and received before and however WifiTask answers, a time comes from a server
packet received behind a request of the same call, and no socket stays open. -/
theorem query_returns_fresh_reply (inUse : Bool) (servers : List (Option String))
    {trace trace' : List NtpEvent} {result : Except NtpClientErr UInt32}
    (calls : Calls NtpStep (ntpClientQuery inUse servers) trace result trace') :
    exists new, trace' = trace ++ new ∧ FreshReply result new :=
  every_sound (ntpClientQuery_spec inUse servers trace) calls

/-!
## A reply that comes twice
-/

/-- The reply of a server to request number 0. -/
def firstReply : Datagram where
  bytes := [0x24, 1] ++ List.replicate 38 0 ++ [0xEC, 0x0D, 0xA3, 0x80] ++ List.replicate 4 0
  answers := some 0

/-- A query of one server, in which `firstReply` comes out of the socket. -/
def firstReplyQuery : List NtpEvent :=
  [.opened 0, .sent 0 ntpRequest, .received 0 firstReply, .closed 0, .pushed .ntpSyncOk 1751328000]

theorem firstReplyQuery_calls (trace : List NtpEvent) :
    Calls NtpStep (ntpClientQuery true [some "192.0.2.1"]) trace (.ok 1751328000)
      (trace ++ firstReplyQuery) := by
  have hliteral : isIpv4Literal "192.0.2.1" = true := by decide +kernel
  have hlen : ¬firstReply.bytes.length ≠ ntpPacketBytes := by decide
  have hsane :
      replyIsSane firstReply.bytes (readBe32 firstReply.bytes ntpTxTsSecOffset) = true := by
    decide +kernel
  have htime : readBe32 firstReply.bytes ntpTxTsSecOffset - ntpUnixOffset = 1751328000 := by
    decide +kernel
  have hsent : forall n, firstReply.answers = some n ->
      n < sentCount (trace ++ [NtpEvent.opened 0] ++ [.sent 0 ntpRequest]) := by
    intro n hn
    cases hn
    unfold sentCount
    rw [List.countP_append]
    exact Nat.lt_of_lt_of_le Nat.one_pos (Nat.le_add_left _ _)
  have htrace : trace ++ firstReplyQuery = trace ++ [NtpEvent.opened 0] ++ [.sent 0 ntpRequest] ++
      [.received 0 firstReply] ++ [.closed 0] ++ [.pushed .ntpSyncOk 1751328000] := by
    simp only [List.append_assoc]
    rfl
  rw [htrace]
  unfold ntpClientQuery
  rw [if_neg (List.cons_ne_nil _ _), if_neg (by decide)]
  unfold queryServers queryOne
  dsimp only
  rw [if_pos hliteral]
  refine .call (.opens trace _ _ 0) (.call (.sends _ 0 ntpRequest true)
    (.call (.receives _ 0 _ _ firstReply (by decide) hsent) ?_))
  dsimp only
  simp only [Program.bind, if_neg hlen, if_pos hsane, htime]
  exact .call (.closes _ 0 true) (.call (.pushes _ .ntpSyncOk 1751328000) (.ret _ _))

/-- The first of two queries. -/
theorem query_returns_fresh_reply_first :
    exists new, [] ++ firstReplyQuery = [] ++ new ∧
      FreshReply (.ok 1751328000) new :=
  query_returns_fresh_reply true [some "192.0.2.1"] (firstReplyQuery_calls [])

/-- The second of two queries gets the reply to the first one again. -/
theorem earlier_reply_taken_again :
    ¬forall inUse servers trace result new, NtpRun trace ->
      Calls NtpStep (ntpClientQuery inUse servers) trace result (trace ++ new) ->
      OwnReply trace result new := by
  intro hclaim
  have hrun : NtpRun firstReplyQuery := .query .start true _ (firstReplyQuery_calls [])
  rcases (hclaim true _ firstReplyQuery _ _ hrun (firstReplyQuery_calls firstReplyQuery)).reply
    _ rfl with ⟨sock, d, n, hmem, _, hanswers, hown, _⟩
  have hd : sock = 0 ∧ d = firstReply := by
    unfold firstReplyQuery at hmem
    simpa using hmem
  rw [hd.2] at hanswers
  cases hanswers
  exact absurd hown (by decide)

end EnvMonitor.Gateway.NtpClient
