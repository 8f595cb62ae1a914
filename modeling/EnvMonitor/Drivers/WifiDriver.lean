import Mathlib.Tactic.Common

/-!
# The Wi-Fi driver

`wifi_recv` of `wifi_driver.c`: the AT commands of one read, the answers the module clocks out
in 16-bit words, and the search for the markers in them.
-/

namespace EnvMonitor.Drivers

/-- `wifi_err_t`, as far as `wifi_recv` returns it for a handle and buffers that are there. -/
inductive WifiErr where
  | ok
  | notInit
  | invalidArg
  | timeout
  | spi
  | socket
  | module
  deriving DecidableEq, Repr

abbrev wifiMaxSockets : Nat := 4
abbrev wifiAtBufSize : Nat := 1536
abbrev wifiMaxPacketSize : Nat := 1460

/-- `"\r\nOK\r\n"` -/
def wifiRespOkMarker : List UInt8 := [0x0D, 0x0A, 0x4F, 0x4B, 0x0D, 0x0A]

/-- `"\r\nERROR"` -/
def wifiRespErrorMarker : List UInt8 := [0x0D, 0x0A, 0x45, 0x52, 0x52, 0x4F, 0x52]

/-!
## Response parsing helpers
-/

/-- `prv_contains`: where the needle stands first. -/
def prvContains (haystack needle : List UInt8) : Option Nat :=
  if needle.length = 0 ∨ haystack.length < needle.length then none
  else
    (List.range (haystack.length - needle.length + 1)).find? fun i =>
      (haystack.drop i).take needle.length == needle

/-- `prv_parse_response` -/
def prvParseResponse (resp : List UInt8) : WifiErr :=
  if (prvContains resp wifiRespErrorMarker).isSome then .module
  else if (prvContains resp wifiRespOkMarker).isSome then .ok
  else .timeout

/-!
## Commands
-/

/-- The bytes of the words of a Data Phase, the low one of each first. -/
def wordBytes (words : List UInt16) : List UInt8 :=
  words.flatMap fun (word : UInt16) => [(word &&& 0xFF).toUInt8, (word >>> 8).toUInt8]

/-- `prv_recv_words`: words until DRDY falls or the buffer is full. -/
def prvRecvWords : Nat -> List UInt16 -> List UInt8
  | 0, _ => []
  | _, [] => []
  | 1, word :: _ => [(word &&& 0xFF).toUInt8]
  | room + 2, word :: words =>
      (word &&& 0xFF).toUInt8 :: (word >>> 8).toUInt8 :: prvRecvWords room words

/-- What becomes of a command: DRDY does not rise for it, it cannot be clocked out, no answer
comes, or the words of the answer. -/
inductive AtOutcome where
  | notReady
  | sendFailed
  | silent
  | answered (words : List UInt16)
  deriving DecidableEq, Repr

/-- `prv_at_command`: the error and what is in the working buffer. -/
def prvAtCommand : AtOutcome -> WifiErr × List UInt8
  | .notReady => (.timeout, [])
  | .sendFailed => (.spi, [])
  | .silent => (.timeout, [])
  | .answered words =>
      let resp := prvRecvWords wifiAtBufSize words
      (prvParseResponse resp, resp)

/-- The module, by its answer to each command text of one call. -/
abbrev WifiModule := String -> AtOutcome

/-- `prv_send_kv` -/
def prvSendKv (answers : WifiModule) (code : String) (value : Option String) :
    WifiErr × List UInt8 :=
  match value with
  | some value => prvAtCommand (answers (code ++ "=" ++ value ++ "\r"))
  | none => prvAtCommand (answers (code ++ "\r"))

/-- How `wifi_recv` passes on the error of a command. -/
def recvErr : WifiErr -> WifiErr
  | .timeout => .timeout
  | _ => .socket

structure WifiInst where
  ready : Bool
  socketOpen : Nat -> Bool

/-- The payload in the answer to `R0`. -/
def recvPayload (resp : List UInt8) (bufLen : Nat) : WifiErr × Option (List UInt8) :=
  let payloadStart := if resp.take 2 = [0x0D, 0x0A] then 2 else 0
  let payloadLen := match prvContains resp wifiRespOkMarker with
    | some markerPos => markerPos - payloadStart
    | none => resp.length - payloadStart
  if payloadLen = 0 then (.timeout, none)
  else (.ok, some ((resp.drop payloadStart).take (min payloadLen bufLen)))

/-- `wifi_recv`: the error, and what is in `buf` when it is `WIFI_ERR_OK`. -/
def wifiRecv (inst : WifiInst) (answers : WifiModule) (socket bufLen timeoutMs : Nat) :
    WifiErr × Option (List UInt8) :=
  if !inst.ready then (.notInit, none)
  else if wifiMaxSockets <= socket ∨ !inst.socketOpen socket then (.invalidArg, none)
  else
    let select := prvSendKv answers "P0" (some (toString socket))
    if select.1 ≠ .ok then (recvErr select.1, none)
    else
      let size := prvSendKv answers "R1" (some (toString (min bufLen wifiMaxPacketSize)))
      if size.1 ≠ .ok then (recvErr size.1, none)
      else
        let timeout := prvSendKv answers "R2" (some (toString timeoutMs))
        if timeout.1 ≠ .ok then (recvErr timeout.1, none)
        else
          let data := prvSendKv answers "R0" none
          if data.1 ≠ .ok then (recvErr data.1, none)
          else recvPayload data.2 bufLen

/-!
## The search
-/

section Search

variable {haystack needle : List UInt8} {i : Nat}

theorem prvContains_eq_some (hne : needle ≠ []) :
    prvContains haystack needle = some i ↔
      needle <+: haystack.drop i ∧ forall j, j < i -> ¬ needle <+: haystack.drop j := by
  have hstands : forall j, ((haystack.drop j).take needle.length == needle) = true ↔
      needle <+: haystack.drop j := by
    intro j
    rw [List.prefix_iff_eq_take, beq_iff_eq]
    exact eq_comm
  have hpos := List.length_pos_iff.mpr hne
  have hroom : forall j, needle <+: haystack.drop j ->
      j + needle.length ≤ haystack.length := by
    intro j hj
    have hle := hj.length_le
    rw [List.length_drop] at hle
    omega
  unfold prvContains
  by_cases hshort : needle.length = 0 ∨ haystack.length < needle.length
  · rw [if_pos hshort]
    constructor
    · intro h
      cases h
    · rintro ⟨hstart, _⟩
      have hfits := hroom i hstart
      omega
  · rw [if_neg hshort, List.find?_range_eq_some, hstands, List.mem_range]
    constructor
    · rintro ⟨hstart, _, hfirst⟩
      refine ⟨hstart, ?_⟩
      intro j hj hearlier
      have hnot := hfirst j hj
      rw [(hstands j).mpr hearlier] at hnot
      cases hnot
    · rintro ⟨hstart, hfirst⟩
      have hfits := hroom i hstart
      refine ⟨hstart, by omega, ?_⟩
      intro j hj
      rw [eq_false_of_ne_true fun h => hfirst j hj ((hstands j).mp h)]
      rfl

theorem prvContains_le (hne : needle ≠ []) (h : needle <+: haystack.drop i) :
    exists j, prvContains haystack needle = some j ∧ j ≤ i := by
  induction i using Nat.strongRecOn with
  | ind i ih =>
      by_cases hearlier : exists j, j < i ∧ needle <+: haystack.drop j
      · rcases hearlier with ⟨j, hj, hstart⟩
        rcases ih j hj hstart with ⟨k, hk, hle⟩
        exact ⟨k, hk, by omega⟩
      · refine ⟨i, (prvContains_eq_some hne).mpr ⟨h, ?_⟩, Nat.le_refl _⟩
        intro j hj hstart
        exact hearlier ⟨j, hj, hstart⟩

theorem infix_iff_drop : needle <:+: haystack ↔ exists i, needle <+: haystack.drop i := by
  rw [List.infix_iff_prefix_suffix]
  constructor
  · rintro ⟨tail, hstart, hsuffix⟩
    refine ⟨haystack.length - tail.length, ?_⟩
    rw [← List.suffix_iff_eq_drop.mp hsuffix]
    exact hstart
  · rintro ⟨i, hstart⟩
    exact ⟨_, hstart, List.drop_suffix i haystack⟩

theorem prvContains_isSome (hne : needle ≠ []) :
    (prvContains haystack needle).isSome = true ↔ needle <:+: haystack := by
  rw [infix_iff_drop]
  constructor
  · intro h
    rcases Option.isSome_iff_exists.mp h with ⟨i, hi⟩
    exact ⟨i, ((prvContains_eq_some hne).mp hi).1⟩
  · rintro ⟨i, hstart⟩
    rcases prvContains_le hne hstart with ⟨j, hj, _⟩
    rw [hj]
    rfl

theorem prvRecvWords_eq (room : Nat) (words : List UInt16) :
    prvRecvWords room words = (wordBytes words).take room := by
  fun_induction prvRecvWords room words with
  | case1 words => rfl
  | case2 room => exact (List.take_nil).symm
  | case3 word words => rfl
  | case4 room word words ih =>
      rw [ih]
      rfl

end Search

/-!
## Received payloads
-/

/-- The answer of the module to `R0`: a payload between its line ends, and what follows the
marker (a prompt, the pad byte of an odd answer). -/
def framed (payload trailing : List UInt8) : List UInt8 :=
  [0x0D, 0x0A] ++ (payload ++ (wifiRespOkMarker ++ trailing))

/-- A call whose commands are accepted and whose `R0` is answered with the payload. -/
structure Receives (inst : WifiInst) (answers : WifiModule) (socket bufLen timeoutMs : Nat)
    (payload trailing : List UInt8) : Prop where
  ready : inst.ready = true
  socket_lt : socket < wifiMaxSockets
  socket_open : inst.socketOpen socket = true
  selected : (prvSendKv answers "P0" (some (toString socket))).1 = .ok
  sized : (prvSendKv answers "R1" (some (toString (min bufLen wifiMaxPacketSize)))).1 = .ok
  timed : (prvSendKv answers "R2" (some (toString timeoutMs))).1 = .ok
  data : exists words, answers "R0\r" = .answered words ∧
    wordBytes words = framed payload trailing
  payload_pos : 1 <= payload.length
  payload_le : payload.length <= wifiMaxPacketSize
  roomy : payload.length <= bufLen

/-- The working buffer holds no error marker, and no OK marker in front of the module's own. -/
def Unmarked (payload trailing : List UInt8) : Prop :=
  ¬ wifiRespErrorMarker <:+: (framed payload trailing).take wifiAtBufSize ∧
    ¬ wifiRespOkMarker <:+: [0x0D, 0x0A] ++ (payload ++ [0x0D, 0x0A, 0x4F, 0x4B, 0x0D])

section Receives

variable {inst : WifiInst} {answers : WifiModule} {socket bufLen timeoutMs : Nat}
variable {payload trailing : List UInt8}

theorem framed_take (h : payload.length <= wifiMaxPacketSize) :
    exists rest, (framed payload trailing).take wifiAtBufSize = framed payload rest := by
  refine ⟨trailing.take (wifiAtBufSize - 8 - payload.length), ?_⟩
  change payload.length <= 1460 at h
  have hfits : payload.length + 8 <= 1536 := by omega
  unfold framed
  rw [List.take_append, List.take_append, List.take_append]
  have htwo : ([0x0D, 0x0A] : List UInt8).length = 2 := rfl
  have hsix : wifiRespOkMarker.length = 6 := rfl
  rw [List.take_of_length_le (by rw [htwo]; decide), htwo,
    List.take_of_length_le (by change payload.length <= 1536 - 2; omega),
    List.take_of_length_le (by rw [hsix]; change 6 <= 1536 - 2 - payload.length; omega), hsix]
  have hroom : wifiAtBufSize - 2 - payload.length - 6 = wifiAtBufSize - 8 - payload.length := by
    change 1536 - 2 - payload.length - 6 = 1536 - 8 - payload.length
    omega
  rw [hroom]

theorem framed_marker (payload rest : List UInt8) :
    wifiRespOkMarker <+: (framed payload rest).drop (2 + payload.length) := by
  have hdrop : (framed payload rest).drop (2 + payload.length) = wifiRespOkMarker ++ rest := by
    unfold framed
    rw [← List.drop_drop]
    change (payload ++ (wifiRespOkMarker ++ rest)).drop payload.length = _
    exact List.drop_left
  rw [hdrop]
  exact List.prefix_append _ _

theorem framed_first (payload rest : List UInt8) :
    prvContains (framed payload rest) wifiRespOkMarker = some (2 + payload.length) ↔
      ¬ wifiRespOkMarker <:+: [0x0D, 0x0A] ++ (payload ++ [0x0D, 0x0A, 0x4F, 0x4B, 0x0D]) := by
  have hne : wifiRespOkMarker ≠ [] := by decide
  have hfront : framed payload rest =
      ([0x0D, 0x0A] ++ (payload ++ [0x0D, 0x0A, 0x4F, 0x4B, 0x0D])) ++ (0x0A :: rest) := by
    unfold framed wifiRespOkMarker
    simp only [List.append_assoc, List.cons_append, List.nil_append]
  have hlength : ([0x0D, 0x0A] ++ (payload ++ [0x0D, 0x0A, 0x4F, 0x4B, 0x0D])).length =
      payload.length + 7 := by
    rw [List.length_append, List.length_append]
    change 2 + (payload.length + 5) = _
    omega
  have hsix : wifiRespOkMarker.length = 6 := rfl
  rw [prvContains_eq_some hne, infix_iff_drop]
  constructor
  · rintro ⟨_, hfirst⟩ ⟨j, hj⟩
    have hle := hj.length_le
    rw [List.length_drop, hlength, hsix] at hle
    apply hfirst j (by omega)
    rw [hfront, List.drop_append_of_le_length (by rw [hlength]; omega)]
    exact hj.trans (List.prefix_append _ _)
  · intro hnone
    refine ⟨framed_marker payload rest, ?_⟩
    intro j hj hstart
    apply hnone
    refine ⟨j, ?_⟩
    rw [hfront, List.drop_append_of_le_length (by rw [hlength]; omega)] at hstart
    exact List.prefix_of_prefix_length_le hstart (List.prefix_append _ _)
      (by rw [List.length_drop, hlength, hsix]; omega)

theorem recvPayload_framed (payload rest : List UInt8) (hpos : 1 <= payload.length)
    (hroomy : payload.length <= bufLen) :
    recvPayload (framed payload rest) bufLen = (.ok, some payload) ↔
      prvContains (framed payload rest) wifiRespOkMarker = some (2 + payload.length) := by
  have hne : wifiRespOkMarker ≠ [] := by decide
  have hstart : (framed payload rest).take 2 = [0x0D, 0x0A] := rfl
  have hdrop : (framed payload rest).drop 2 = payload ++ (wifiRespOkMarker ++ rest) := rfl
  rcases prvContains_le hne (framed_marker payload rest) with ⟨m, hm, hle⟩
  unfold recvPayload
  rw [if_pos hstart, hm]
  dsimp only
  rw [hdrop]
  constructor
  · intro h
    split at h
    · cases h
    · injection h with _ h
      injection h with h
      have hlength := congrArg List.length h
      rw [List.length_take, List.length_append] at hlength
      change min (min (m - 2) bufLen) _ = _ at hlength
      have hwhole : m = 2 + payload.length := by omega
      rw [hwhole]
  · intro h
    injection h with h
    subst h
    rw [Nat.add_sub_cancel_left, if_neg (by omega), Nat.min_eq_left hroomy, List.take_left]

/-- A read returns exactly the payload when and only when the driver's search for the markers
finds none but the module's own. -/
theorem wifiRecv_transparent_iff
    (h : Receives inst answers socket bufLen timeoutMs payload trailing) :
    wifiRecv inst answers socket bufLen timeoutMs = (.ok, some payload) ↔
      Unmarked payload trailing := by
  rcases h with ⟨hready, hsocket, hopen, hselected, hsized, htimed, ⟨words, hwords, hbytes⟩, hpos,
    hle, hroomy⟩
  rcases @framed_take payload trailing hle with ⟨rest, hrest⟩
  have hdata : prvSendKv answers "R0" none =
      (prvParseResponse (framed payload rest), framed payload rest) := by
    have hanswer : answers ("R0" ++ "\r") = .answered words := hwords
    unfold prvSendKv
    dsimp only
    rw [hanswer]
    unfold prvAtCommand
    dsimp only
    rw [prvRecvWords_eq, hbytes, hrest]
  have hvalid : ¬ (wifiMaxSockets <= socket ∨ (!inst.socketOpen socket) = true) := by
    rw [hopen]
    rintro (hbig | hclosed)
    · omega
    · cases hclosed
  unfold wifiRecv Unmarked
  rw [hready, if_neg (by decide), if_neg hvalid]
  dsimp only
  rw [if_neg (fun hne => hne hselected), if_neg (fun hne => hne hsized),
    if_neg (fun hne => hne htimed), hdata, hrest, ← framed_first payload rest]
  dsimp only
  have herror := @prvContains_isSome (framed payload rest) wifiRespErrorMarker (by decide)
  have hok := (@prvContains_isSome (framed payload rest) wifiRespOkMarker (by decide)).mpr
    (infix_iff_drop.mpr ⟨_, framed_marker payload rest⟩)
  unfold prvParseResponse
  by_cases hmarked : wifiRespErrorMarker <:+: framed payload rest
  · rw [if_pos (herror.mpr hmarked), if_pos (by decide)]
    constructor
    · intro hgot
      cases hgot
    · rintro ⟨hnone, _⟩
      exact absurd hmarked hnone
  · rw [if_neg (fun hsome => hmarked (herror.mp hsome)), if_pos hok, if_neg (fun hne => hne rfl),
      recvPayload_framed payload rest hpos hroomy]
    constructor
    · intro hfirst
      exact ⟨hmarked, hfirst⟩
    · rintro ⟨_, hfirst⟩
      exact hfirst

end Receives

/-- A module that accepts every command and answers `R0` with these words. -/
def answering (words : List UInt16) : WifiModule := fun command =>
  if command = "R0\r" then .answered words
  else .answered [0x0A0D, 0x4B4F, 0x0A0D, 0x203E]

theorem answering_receives {words : List UInt16} {payload trailing : List UInt8}
    (hbytes : wordBytes words = framed payload trailing) (hpos : 1 <= payload.length)
    (hle : payload.length <= wifiMaxPacketSize) :
    Receives ⟨true, fun _ => true⟩ (answering words) 0 1460 3000 payload trailing := by
  have haccepted : forall command, command ≠ "R0\r" ->
      (prvAtCommand (answering words command)).1 = .ok := by
    intro command hne
    unfold answering
    rw [if_neg hne]
    decide +kernel
  refine ⟨rfl, by decide, rfl, ?_, ?_, ?_, ⟨words, ?_, hbytes⟩, hpos, hle, hle⟩
  · exact haccepted ("P0" ++ "=" ++ toString 0 ++ "\r") (by decide +kernel)
  · exact haccepted ("R1" ++ "=" ++ toString (min 1460 wifiMaxPacketSize) ++ "\r")
      (by decide +kernel)
  · exact haccepted ("R2" ++ "=" ++ toString 3000 ++ "\r") (by decide +kernel)
  · unfold answering
    rw [if_pos rfl]

/-- Two bytes, followed by the prompt. -/
theorem wifiRecv_transparent_short :
    wifiRecv ⟨true, fun _ => true⟩
      (answering [0x0A0D, 0x0317, 0x0A0D, 0x4B4F, 0x0A0D, 0x203E]) 0 1460 3000 =
        (.ok, some [0x17, 0x03]) :=
  (@wifiRecv_transparent_iff _ _ _ _ _ _ [0x3E, 0x20]
    (answering_receives (by decide) (by decide) (by decide))).mpr
    ⟨by decide +kernel, by decide +kernel⟩

/-- A payload that holds the OK marker is cut there. -/
theorem wifiRecv_cut :
    ¬ forall inst answers socket bufLen timeoutMs payload trailing,
      Receives inst answers socket bufLen timeoutMs payload trailing ->
      wifiRecv inst answers socket bufLen timeoutMs = (.ok, some payload) := by
  intro hclaim
  have hrecv := hclaim _ _ _ _ _ [0x17, 0x03, 0x0D, 0x0A, 0x4F, 0x4B, 0x0D, 0x0A, 0x2A, 0x2B]
    [0x3E, 0x20] (@answering_receives [0x0A0D, 0x0317, 0x0A0D, 0x4B4F, 0x0A0D, 0x2B2A, 0x0A0D,
      0x4B4F, 0x0A0D, 0x203E] _ _ (by decide) (by decide) (by decide))
  have hcut : wifiRecv ⟨true, fun _ => true⟩ (answering [0x0A0D, 0x0317, 0x0A0D, 0x4B4F, 0x0A0D,
      0x2B2A, 0x0A0D, 0x4B4F, 0x0A0D, 0x203E]) 0 1460 3000 = (.ok, some [0x17, 0x03]) := by
    decide +kernel
  rw [hcut] at hrecv
  injection hrecv with _ hrecv
  injection hrecv with hrecv
  exact absurd hrecv (by decide)

end EnvMonitor.Drivers
