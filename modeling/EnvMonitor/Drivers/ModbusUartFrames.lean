import EnvMonitor.Drivers.ModbusUart

/-!
# Which frames the Modbus UARTs hand over
-/

namespace EnvMonitor.Drivers.ModbusUart

open Device (IndexedBuffer)

/-!
## Handlers
-/

/-- The first part of both handlers. -/
def store (b : Board) (rxne : Option UInt8) (u : Uart) : Uart :=
  match rxne with
  | some byte =>
      if u.rxLen < modbusUartBufSize then
        { u with rxBuf := u.rxBuf.put u.rxLen byte, rxLen := u.rxLen + 1 }
      else
        match b with
        | .fieldDevice => u
        | .gateway => { u with rxOverflow := true }
  | none => u

/-- The buffer is given up. -/
def reset (b : Board) (u : Uart) : Uart :=
  match b with
  | .fieldDevice => { u with rxLen := 0 }
  | .gateway => { u with rxLen := 0, rxOverflow := false }

/-- The handler takes what it finds for too long. -/
def Overflowed (b : Board) (u : Uart) : Prop :=
  match b with
  | .fieldDevice => modbusUartBufSize ≤ u.rxLen
  | .gateway => u.rxOverflow = true

@[simp] theorem reset_rxLen (b : Board) (u : Uart) : (reset b u).rxLen = 0 := by
  cases b <;> rfl

@[simp] theorem reset_rxBuf (b : Board) (u : Uart) : (reset b u).rxBuf = u.rxBuf := by
  cases b <;> rfl

variable {b : Board} {status : Status} {u : Uart}

theorem modbusUartIsr_eq (status : Status) (u : Uart) :
    modbusUartIsr status u =
      let u := store .fieldDevice status.rxne u
      let (events, u) :=
        if status.idle then
          if modbusUartBufSize ≤ u.rxLen then ([Event.rxError], { u with rxLen := 0 })
          else ([Event.rxDone], u)
        else ([], u)
      if status.error then (events ++ [.rxError], { u with rxLen := 0 }) else (events, u) := by
  unfold modbusUartIsr store
  cases status.rxne <;> rfl

theorem uart4IrqHandler_eq (status : Status) (u : Uart) :
    uart4IrqHandler status u =
      let u := store .gateway status.rxne u
      if status.error then ([.rxError], { u with rxLen := 0, rxOverflow := false })
      else if status.idle then
        if u.rxOverflow then ([.rxError], { u with rxLen := 0, rxOverflow := false })
        else if 0 < u.rxLen then ([.rxDone], u)
        else ([], u)
      else ([], u) := by
  unfold uart4IrqHandler store
  cases status.rxne <;> rfl

theorem handler_quiet (hidle : status.idle = false) (herror : status.error = false) :
    handler b status u = ([], store b status.rxne u) := by
  cases b with
  | fieldDevice =>
      change modbusUartIsr status u = _
      rw [modbusUartIsr_eq, hidle, herror]
      rfl
  | gateway =>
      change uart4IrqHandler status u = _
      rw [uart4IrqHandler_eq, hidle, herror]
      rfl

theorem handler_error (herror : status.error = true)
    (hgap : b = .fieldDevice -> status.idle = true ->
      modbusUartBufSize ≤ (store b status.rxne u).rxLen) :
    Event.rxDone ∉ (handler b status u).1 ∧
      (handler b status u).2 = reset b (store b status.rxne u) := by
  cases b with
  | fieldDevice =>
      change Event.rxDone ∉ (modbusUartIsr status u).1 ∧ (modbusUartIsr status u).2 = _
      rw [modbusUartIsr_eq, herror]
      cases hidle : status.idle with
      | false => exact ⟨by simp, rfl⟩
      | true =>
          dsimp only
          rw [if_pos rfl, if_pos rfl, if_pos (hgap rfl hidle)]
          exact ⟨by simp, rfl⟩
  | gateway =>
      change Event.rxDone ∉ (uart4IrqHandler status u).1 ∧ (uart4IrqHandler status u).2 = _
      rw [uart4IrqHandler_eq, herror]
      exact ⟨by simp, rfl⟩

theorem handler_overflow (hidle : status.idle = true) (herror : status.error = false)
    (hover : Overflowed b (store b status.rxne u)) :
    handler b status u = ([.rxError], reset b (store b status.rxne u)) := by
  cases b with
  | fieldDevice =>
      change modbusUartBufSize ≤ (store .fieldDevice status.rxne u).rxLen at hover
      change modbusUartIsr status u = _
      rw [modbusUartIsr_eq, hidle, herror]
      dsimp only
      rw [if_pos rfl, if_pos hover]
      rfl
  | gateway =>
      change (store .gateway status.rxne u).rxOverflow = true at hover
      change uart4IrqHandler status u = _
      rw [uart4IrqHandler_eq, hidle, herror]
      dsimp only
      rw [if_neg Bool.false_ne_true, if_pos rfl, if_pos hover]
      rfl

theorem handler_gap (u : Uart) (hidle : status.idle = true) (herror : status.error = false)
    (hfits : ¬Overflowed b (store b status.rxne u)) :
    handler b status u =
      (if b = .fieldDevice ∨ 0 < (store b status.rxne u).rxLen then [.rxDone] else [],
        store b status.rxne u) := by
  cases b with
  | fieldDevice =>
      change ¬modbusUartBufSize ≤ (store .fieldDevice status.rxne u).rxLen at hfits
      change modbusUartIsr status u = _
      rw [modbusUartIsr_eq, hidle, herror]
      dsimp only
      rw [if_pos rfl, if_neg hfits, if_pos (Or.inl rfl)]
      rfl
  | gateway =>
      change ¬(store .gateway status.rxne u).rxOverflow = true at hfits
      change uart4IrqHandler status u = _
      rw [uart4IrqHandler_eq, hidle, herror]
      dsimp only
      rw [if_neg Bool.false_ne_true, if_pos rfl, if_neg hfits]
      by_cases hpos : 0 < (store .gateway status.rxne u).rxLen
      · rw [if_pos hpos, if_pos (Or.inr hpos)]
      · rw [if_neg hpos, if_neg fun h => h.elim (fun h => nomatch h) hpos]

/-!
## Buffer
-/

/-- The bytes in the buffer. -/
def Uart.content (u : Uart) : List UInt8 := u.rxBuf.read u.rxLen

/-- The buffer has of `bytes` what fits. -/
structure Filled (b : Board) (u : Uart) (bytes : List UInt8) : Prop where
  content : u.content = bytes.take modbusUartBufSize
  overflow : b = .gateway -> (u.rxOverflow = true ↔ modbusUartBufSize < bytes.length)

theorem content_of_empty (h : u.rxLen = 0) : u.content = [] := by
  unfold Uart.content
  rw [h]
  rfl

variable {bytes : List UInt8}

theorem Filled.rxLen (h : Filled b u bytes) : u.rxLen = min modbusUartBufSize bytes.length := by
  have hlen := congrArg List.length h.content
  unfold Uart.content at hlen
  rwa [IndexedBuffer.read_length, List.length_take] at hlen

theorem filled_nil (hlen : u.rxLen = 0) (hover : ¬Overflowed b u) : Filled b u [] where
  content := content_of_empty hlen
  overflow hb := by
    subst hb
    exact iff_of_false hover (Nat.not_lt_zero _)

theorem not_overflowed_reset (b : Board) (u : Uart) : ¬Overflowed b (reset b u) := by
  cases b with
  | fieldDevice => exact Nat.not_succ_le_zero _
  | gateway => exact Bool.false_ne_true

theorem filled_reset (b : Board) (u : Uart) : Filled b (reset b u) [] :=
  filled_nil (reset_rxLen b u) (not_overflowed_reset b u)

theorem Filled.overflowed_iff (h : Filled b u bytes) : Overflowed b u ↔ ¬Fits b bytes := by
  cases b with
  | fieldDevice =>
      change modbusUartBufSize ≤ u.rxLen ↔ ¬bytes.length < modbusUartBufSize
      rw [h.rxLen, Nat.not_lt, Nat.le_min]
      exact and_iff_right (Nat.le_refl _)
  | gateway => exact (h.overflow rfl).trans Nat.not_le.symm

theorem Filled.content_eq (h : Filled b u bytes) (hfits : ¬Overflowed b u) : u.content = bytes := by
  have hle : bytes.length ≤ modbusUartBufSize := by
    have hin := Classical.not_not.mp fun hno => hfits (h.overflowed_iff.mpr hno)
    cases b with
    | fieldDevice => exact Nat.le_of_lt hin
    | gateway => exact hin
  rw [h.content, List.take_of_length_le hle]

theorem Filled.store (h : Filled b u bytes) (byte : UInt8) :
    Filled b (store b (some byte) u) (bytes ++ [byte]) := by
  have hsnoc : (bytes ++ [byte]).length = bytes.length + 1 := List.length_append
  by_cases hroom : u.rxLen < modbusUartBufSize
  · have hlt : bytes.length < modbusUartBufSize := by
      rw [h.rxLen] at hroom
      omega
    have hcontent : u.content = bytes := by
      rw [h.content, List.take_of_length_le (Nat.le_of_lt hlt)]
    have hlen : u.rxLen = bytes.length := by
      rw [h.rxLen, Nat.min_eq_right (Nat.le_of_lt hlt)]
    have hstore : ModbusUart.store b (some byte) u =
        { u with rxBuf := u.rxBuf.put u.rxLen byte, rxLen := u.rxLen + 1 } := if_pos hroom
    rw [hstore]
    constructor
    · have hholds : u.rxBuf.Holds bytes := by
        unfold IndexedBuffer.Holds
        rw [← hlen]
        exact hcontent
      have hput := hholds.put byte
      unfold IndexedBuffer.Holds at hput
      change (u.rxBuf.put u.rxLen byte).read (u.rxLen + 1) = _
      rw [List.take_of_length_le (by rw [hsnoc]; exact hlt), hlen, ← hsnoc]
      exact hput
    · intro hb
      rw [hsnoc]
      exact iff_of_false (fun hover => absurd ((h.overflow hb).mp hover) (Nat.lt_asymm hlt))
        (Nat.not_lt.mpr hlt)
  · have hge : modbusUartBufSize ≤ bytes.length := by
      rw [h.rxLen] at hroom
      omega
    constructor
    · rw [List.take_append_of_le_length hge, ← h.content]
      unfold ModbusUart.store
      dsimp only
      rw [if_neg hroom]
      cases b <;> rfl
    · intro hb
      subst hb
      unfold ModbusUart.store
      dsimp only
      rw [if_neg hroom, hsnoc]
      exact iff_of_true rfl (Nat.lt_succ_of_le hge)

/-!
## Invariant
-/

/-- What `call` has copied and will return. -/
structure Copying (s : Reception) (call : Call) : Prop where
  copied : call.copied = s.uart.rxBuf.read call.copied.length
  le : call.copied.length ≤ call.frameLen
  collecting : s.collecting ≠ [] ->
    OnlyFrame s.ended s.collecting (s.uart.rxBuf.read call.frameLen)
  owed : forall n, n ∈ s.owed -> s.ended[n]? = some ⟨[], false⟩

/-- What the buffer has of the frames that ended. -/
def Reception.waiting (s : Reception) : List UInt8 :=
  if s.current.bytes = [] then s.uart.content else []

structure UartInv (b : Board) (s : Reception) : Prop where
  cleared : s.current.damaged = true -> Filled b s.uart []
  filling : s.current.damaged = false -> s.current.bytes ≠ [] ->
    s.call = none ∧ Filled b s.uart s.current.bytes
  fits : s.current.bytes = [] -> ¬Overflowed b s.uart
  waiting : s.call = none -> s.owed ≠ [] -> OnlyFrame s.ended s.owed s.waiting
  held : s.call = none -> s.current.bytes = [] -> s.uart.rxLen ≠ 0 -> s.owed ≠ []
  between : s.call ≠ none -> s.current.bytes = [] ∨ s.current.damaged = true
  copying : forall call, s.call = some call -> Copying s call
  whole : WholeFrames b s

theorem UartInv.start (b : Board) (buf : IndexedBuffer UInt8) : UartInv b (receptionStart buf) where
  cleared h := nomatch h
  filling _ h := absurd rfl h
  fits _ := by
    cases b with
    | fieldDevice => exact Nat.not_succ_le_zero _
    | gateway => exact Bool.false_ne_true
  waiting _ h := absurd rfl h
  held _ _ h := absurd rfl h
  between h := absurd rfl h
  copying _ h := nomatch h
  whole :=
    { undamaged := fun _ h => nomatch h
      announced := fun _ _ h => nomatch h
      whole := fun _ _ h => nomatch h }

section

variable {s : Reception}

variable {n : Nat} {f new : Frame} {ended : List Frame} {numbers : List Nat} {Done : Prop}
variable {call : Call}

theorem getElem?_ended (h : ended[n]? = some f) (new : Frame) : (ended ++ [new])[n]? = some f := by
  rw [List.getElem?_append_left (List.getElem?_eq_some_iff.mp h).1]
  exact h

theorem OnlyFrame.ended_append {bytes : List UInt8} (h : OnlyFrame ended numbers bytes)
    (new : Frame) : OnlyFrame (ended ++ [new]) numbers bytes := by
  rcases h with ⟨n, hn, hget, hothers⟩
  exact ⟨n, hn, getElem?_ended hget new, fun other hother hne =>
    getElem?_ended (hothers other hother hne) new⟩

theorem OnlyFrame.all_empty (h : OnlyFrame ended numbers []) :
    forall n, n ∈ numbers -> ended[n]? = some ⟨[], false⟩ := by
  rcases h with ⟨n, _, hget, hothers⟩
  intro other hother
  by_cases heq : other = n
  · rw [heq]
    exact hget
  · exact hothers other hother heq

theorem onlyFrame_of_empty (hne : numbers ≠ [])
    (hall : forall n, n ∈ numbers -> ended[n]? = some ⟨[], false⟩) :
    OnlyFrame ended numbers [] := by
  rcases List.exists_mem_of_ne_nil numbers hne with ⟨n, hn⟩
  exact ⟨n, hn, hall n hn, fun other hother _ => hall other hother⟩

theorem getElem?_ended_cases (h : (s.ended ++ [new])[n]? = some f) :
    s.ended[n]? = some f ∨ (n = s.ended.length ∧ new = f) := by
  rcases Nat.lt_trichotomy n s.ended.length with hlt | heq | hgt
  · rw [List.getElem?_append_left hlt] at h
    exact Or.inl h
  · subst heq
    rw [List.getElem?_concat_length] at h
    exact Or.inr ⟨rfl, Option.some.inj h⟩
  · rw [List.getElem?_eq_none (by rw [List.length_append]; exact hgt)] at h
    cases h

/-- The record of a gap: the frame `new` ended, with RX_DONE if `Done`. -/
def Reception.gap (s : Reception) (u : Uart) (new : Frame) (Done : Prop) [Decidable Done] :
    Reception :=
  { s with
    uart := u
    current := ⟨[], false⟩
    ended := s.ended ++ [new]
    reported := s.reported ++ if Done then [s.ended.length] else []
    owed := s.owed ++ if Done then [s.ended.length] else [] }

theorem mem_append_if [Decidable Done] {m : Nat} {l : List Nat} :
    n ∈ l ++ (if Done then [m] else []) ↔ n ∈ l ∨ (Done ∧ n = m) := by
  rw [List.mem_append]
  by_cases h : Done
  · rw [if_pos h, List.mem_singleton]
    exact or_congr_right (and_iff_right h).symm
  · rw [if_neg h]
    exact or_congr_right (iff_of_false (fun hmem => nomatch hmem) fun hdone => h hdone.1)

theorem WholeFrames.gap (h : WholeFrames b s) (u : Uart) (new : Frame) (Done : Prop)
    [Decidable Done] (hdone : Done -> new.damaged = false)
    (hnot : ¬Done -> new.damaged = false -> new.bytes ≠ [] -> ¬Fits b new.bytes) :
    WholeFrames b (s.gap u new Done) where
  undamaged n hn := by
    rcases mem_append_if.mp hn with hold | ⟨hd, heq⟩
    · rcases h.undamaged n hold with ⟨bytes, hget⟩
      exact ⟨bytes, getElem?_ended hget new⟩
    · refine ⟨new.bytes, ?_⟩
      rw [heq]
      change (s.ended ++ [new])[s.ended.length]? = some ⟨new.bytes, false⟩
      rw [List.getElem?_concat_length, ← hdone hd]
  announced n bytes hget hne hfits := by
    apply mem_append_if.mpr
    rcases getElem?_ended_cases hget with hold | ⟨heq, hnew⟩
    · exact Or.inl (h.announced n bytes hold hne hfits)
    · refine Or.inr ⟨?_, heq⟩
      subst hnew
      exact Classical.byContradiction fun hno => hnot hno rfl hne hfits
  whole owed bytes hgot hne := (h.whole owed bytes hgot hne).ended_append new

theorem UartInv.gap (hinv : UartInv b s) [Decidable Done] (hover : ¬Overflowed b u)
    (hdone : Done -> new.damaged = false)
    (hnot : ¬Done -> new.damaged = false -> new.bytes ≠ [] -> ¬Fits b new.bytes)
    (hwaiting : s.call = none ->
      (Done ∧ new.bytes = u.content ∧ s.waiting = []) ∨
        ((Done -> s.owed ≠ [] ∧ new.bytes = []) ∧ s.waiting = u.content))
    (hheld : s.call = none -> u.rxLen ≠ 0 -> Done ∨ s.owed ≠ [])
    (hcall : s.call ≠ none -> u.rxBuf = s.uart.rxBuf ∧ (Done -> new.bytes = [])) :
    UartInv b (s.gap u new Done) where
  cleared h := nomatch h
  filling _ h := absurd rfl h
  fits _ := hover
  waiting hnone hne := by
    change OnlyFrame (s.ended ++ [new]) (s.owed ++ _) u.content
    rcases hwaiting hnone with ⟨hd, hbytes, hempty⟩ | ⟨hdone', hwait⟩
    · -- the new frame waits, and those before it are empty
      refine ⟨s.ended.length, mem_append_if.mpr (Or.inr ⟨hd, rfl⟩), ?_, ?_⟩
      · rw [List.getElem?_concat_length, ← hbytes, ← hdone hd]
      · intro other hother hne'
        rcases mem_append_if.mp hother with hold | ⟨_, heq⟩
        · have hframe := hinv.waiting hnone (List.ne_nil_of_mem hold)
          rw [hempty] at hframe
          exact getElem?_ended (hframe.all_empty other hold) new
        · exact absurd heq hne'
    · have howed : s.owed ≠ [] := by
        by_cases hd : Done
        · exact (hdone' hd).1
        · intro hnil
          apply hne
          change s.owed ++ (if Done then _ else []) = []
          rw [hnil, if_neg hd]
          rfl
      rcases hinv.waiting hnone howed with ⟨n, hn, hget, hothers⟩
      refine ⟨n, mem_append_if.mpr (Or.inl hn), ?_, ?_⟩
      · rw [← hwait]
        exact getElem?_ended hget new
      · intro other hother hne'
        rcases mem_append_if.mp hother with hold | ⟨hd, heq⟩
        · exact getElem?_ended (hothers other hold hne') new
        · rw [heq, List.getElem?_concat_length, ← (hdone' hd).2, ← hdone hd]
  held hnone _ hlen := by
    change s.owed ++ (if Done then _ else []) ≠ []
    rcases hheld hnone hlen with hd | hne
    · rw [if_pos hd]
      exact List.append_ne_nil_of_right_ne_nil _ (List.cons_ne_nil _ _)
    · exact List.append_ne_nil_of_left_ne_nil hne _
  between _ := Or.inl rfl
  copying call hsome := by
    have hc := hinv.copying call hsome
    have hbuf := hcall fun hnone => by
      cases hnone.symm.trans hsome
    constructor
    · change call.copied = u.rxBuf.read _
      rw [hbuf.1]
      exact hc.copied
    · exact hc.le
    · intro hne
      change OnlyFrame (s.ended ++ [new]) s.collecting (u.rxBuf.read _)
      rw [hbuf.1]
      exact (hc.collecting hne).ended_append new
    · intro n hn
      rcases mem_append_if.mp hn with hold | ⟨hd, heq⟩
      · exact getElem?_ended (hc.owed n hold) new
      · rw [heq]
        change (s.ended ++ [new])[s.ended.length]? = some ⟨[], false⟩
        rw [List.getElem?_concat_length, ← hbuf.2 hd, ← hdone hd]
  whole := hinv.whole.gap u new Done hdone hnot

/-!
## Interrupts
-/

theorem interrupt_gap (Done : Prop) [Decidable Done] (hidle : status.idle = true)
    (hu : (handler b status s.uart).2 = u) (hdone : .rxDone ∈ (handler b status s.uart).1 ↔ Done) :
    s.step b (.interrupt status) = s.gap u (s.current.add status) Done := by
  change s.interrupt b status = _
  unfold Reception.interrupt Reception.gap
  rw [hidle, ← hu]
  dsimp only
  rw [if_pos rfl]
  by_cases hd : Done
  · rw [if_pos hd, if_pos (hdone.mpr hd)]
  · rw [if_neg hd, if_neg fun h => hd (hdone.mp h)]

theorem interrupt_quiet (hidle : status.idle = false) (hu : (handler b status s.uart).2 = u) :
    s.step b (.interrupt status) = { s with uart := u, current := s.current.add status } := by
  change s.interrupt b status = _
  unfold Reception.interrupt
  rw [hidle, ← hu]
  rfl

/-- If the frame in progress has been given up or has just begun, what waits is in an empty buffer. -/
theorem waiting_of_empty (h : s.current.bytes = [] -> s.uart.rxLen = 0) : s.waiting = [] := by
  unfold Reception.waiting
  by_cases hbytes : s.current.bytes = []
  · rw [if_pos hbytes]
    exact content_of_empty (h hbytes)
  · exact if_neg hbytes

theorem add_bytes_none (h : status.rxne = none) :
    (s.current.add status).bytes = s.current.bytes := by
  change s.current.bytes ++ status.rxne.toList = _
  rw [h]
  exact List.append_nil _

theorem store_none (h : status.rxne = none) : store b status.rxne u = u := by
  rw [h]
  rfl

theorem rxBuf_of_call (hok : Allowed b s (.interrupt status)) (hcall : s.call ≠ none) :
    status.rxne = none := by
  by_cases hrxne : status.rxne = none
  · exact hrxne
  · exact absurd (hok.2.1 hrxne).1 hcall

theorem UartInv.error_step (hinv : UartInv b s) (hok : Allowed b s (.interrupt status))
    (herror : status.error = true) : UartInv b (s.step b (.interrupt status)) := by
  have hfull : b = .fieldDevice -> status.idle = true ->
      modbusUartBufSize ≤ (store b status.rxne s.uart).rxLen := by
    intro hb hidle
    have hle := (hok.2.2 hb hidle).2 herror
    cases hrxne : status.rxne with
    | none =>
        rw [hrxne] at hle
        exact hle
    | some byte =>
        rw [hrxne] at hle
        unfold store
        dsimp only
        split
        · exact hle
        · next hno =>
            subst hb
            exact Nat.le_of_not_lt hno
  rcases handler_error herror hfull with ⟨hnone, huart⟩
  have hdamaged : (s.current.add status).damaged = true := by
    change (s.current.damaged || status.error) = true
    rw [herror, Bool.or_true]
  have hbuf : s.call ≠ none -> (reset b (store b status.rxne s.uart)).rxBuf = s.uart.rxBuf := by
    intro hcall
    rw [reset_rxBuf, store_none (rxBuf_of_call hok hcall)]
  have hempty : s.call = none -> s.waiting = [] := by
    intro hcall
    apply waiting_of_empty
    intro hbytes
    exact (hok.1 (Or.inr herror) hbytes).resolve_left fun h => h hcall
  cases hidle : status.idle with
  | true =>
      rw [interrupt_gap False hidle huart ⟨hnone, False.elim⟩]
      refine hinv.gap (not_overflowed_reset b _) (fun h => h.elim) ?_ ?_ ?_ ?_
      · intro _ hno
        rw [hdamaged] at hno
        cases hno
      · intro hcall
        refine Or.inr ⟨fun h => h.elim, ?_⟩
        rw [hempty hcall, content_of_empty (reset_rxLen b _)]
      · exact fun _ hlen => absurd (reset_rxLen b _) hlen
      · exact fun hcall => ⟨hbuf hcall, fun h => h.elim⟩
  | false =>
      rw [interrupt_quiet hidle huart]
      constructor
      · exact fun _ => filled_reset b _
      · intro hno
        rw [hdamaged] at hno
        cases hno
      · exact fun _ => not_overflowed_reset b _
      · intro hcall hne
        have hframe := hinv.waiting hcall hne
        rw [hempty hcall] at hframe
        rw [waiting_of_empty fun _ => reset_rxLen b _]
        exact hframe
      · exact fun _ _ hlen => absurd (reset_rxLen b _) hlen
      · exact fun _ => Or.inr hdamaged
      · intro call hsome
        have hc := hinv.copying call hsome
        have hsame := hbuf fun hnone' => by cases hnone'.symm.trans hsome
        constructor
        · change call.copied = (reset b _).rxBuf.read _
          rw [hsame]
          exact hc.copied
        · exact hc.le
        · change _ -> OnlyFrame s.ended s.collecting ((reset b _).rxBuf.read call.frameLen)
          rw [hsame]
          exact hc.collecting
        · exact hc.owed
      · exact ⟨hinv.whole.undamaged, hinv.whole.announced, hinv.whole.whole⟩

theorem UartInv.stored (hinv : UartInv b s) (hok : Allowed b s (.interrupt status))
    (herror : status.error = false) {byte : UInt8} (hrxne : status.rxne = some byte) :
    s.call = none ∧ s.current.damaged = false ∧ s.waiting = [] ∧
      Filled b (store b status.rxne s.uart) (s.current.bytes ++ [byte]) := by
  have hsome : status.rxne ≠ none := by
    rw [hrxne]
    exact fun h => nomatch h
  rcases hok.2.1 hsome with ⟨hcall, hundamaged⟩
  have hlen : s.current.bytes = [] -> s.uart.rxLen = 0 := fun hbytes =>
    (hok.1 (Or.inl hsome) hbytes).resolve_left fun h => h hcall
  refine ⟨hcall, hundamaged herror, waiting_of_empty hlen, ?_⟩
  rw [hrxne]
  by_cases hbytes : s.current.bytes = []
  · rw [hbytes]
    exact (filled_nil (hlen hbytes) (hinv.fits hbytes)).store byte
  · exact (hinv.filling (hundamaged herror) hbytes).2.store byte

theorem UartInv.byte_step (hinv : UartInv b s) (hok : Allowed b s (.interrupt status))
    (herror : status.error = false) (hidle : status.idle = false) :
    UartInv b (s.step b (.interrupt status)) := by
  rw [interrupt_quiet hidle (by rw [handler_quiet hidle herror])]
  have hdamaged : (s.current.add status).damaged = s.current.damaged := by
    change (s.current.damaged || status.error) = _
    rw [herror, Bool.or_false]
  cases hrxne : status.rxne with
  | none =>
      have hsame : s.current.add status = s.current := by
        have hbytes : (s.current.add status).bytes = s.current.bytes := add_bytes_none hrxne
        cases hcur : s.current.add status
        rw [hcur] at hbytes hdamaged
        exact congr (congrArg Frame.mk hbytes) hdamaged
      rw [hsame]
      exact hinv
  | some byte =>
      rcases hinv.stored hok herror hrxne with ⟨hcall, hundamaged, hwait, hfilled⟩
      rw [hrxne] at hfilled
      have hbytes : (s.current.add status).bytes = s.current.bytes ++ [byte] := by
        change s.current.bytes ++ status.rxne.toList = _
        rw [hrxne]
        rfl
      have hne : (s.current.add status).bytes ≠ [] := by
        rw [hbytes]
        exact List.append_ne_nil_of_right_ne_nil _ (List.cons_ne_nil _ _)
      constructor
      · intro h
        change (s.current.add status).damaged = true at h
        rw [hdamaged, hundamaged] at h
        cases h
      · intro _ _
        refine ⟨hcall, ?_⟩
        change Filled b _ (s.current.add status).bytes
        rw [hbytes]
        exact hfilled
      · exact fun h => absurd h hne
      · intro _ howed
        have hframe := hinv.waiting hcall howed
        rw [hwait] at hframe
        rw [waiting_of_empty fun h => absurd h hne]
        exact hframe
      · exact fun _ h => absurd h hne
      · exact fun h => absurd hcall h
      · intro call hsome
        cases hcall.symm.trans hsome
      · exact ⟨hinv.whole.undamaged, hinv.whole.announced, hinv.whole.whole⟩

theorem UartInv.frame_ends (hinv : UartInv b s) (herror : status.error = false)
    (hidle : status.idle = true) (hcall : s.call = none) (hwait : s.waiting = [])
    (hundamaged : s.current.damaged = false)
    (hfilled : Filled b (store b status.rxne s.uart) (s.current.add status).bytes)
    (hne : (s.current.add status).bytes ≠ []) : UartInv b (s.step b (.interrupt status)) := by
  have hdamaged : (s.current.add status).damaged = false := by
    change (s.current.damaged || status.error) = false
    rw [herror, hundamaged]
    rfl
  by_cases hover : Overflowed b (store b status.rxne s.uart)
  · have hhandler := handler_overflow hidle herror hover
    rw [interrupt_gap False hidle (by rw [hhandler]) (by rw [hhandler]; simp)]
    refine hinv.gap (not_overflowed_reset b _) (fun h => h.elim) ?_ ?_ ?_ ?_
    · exact fun _ _ _ => hfilled.overflowed_iff.mp hover
    · intro _
      refine Or.inr ⟨fun h => h.elim, ?_⟩
      rw [hwait, content_of_empty (reset_rxLen b _)]
    · exact fun _ hlen => absurd (reset_rxLen b _) hlen
    · exact fun h => absurd hcall h
  · have hpos : 0 < (store b status.rxne s.uart).rxLen := by
      rw [hfilled.rxLen]
      exact Nat.lt_min.mpr ⟨by decide, List.length_pos_iff.mpr hne⟩
    have hhandler := handler_gap s.uart hidle herror hover
    rw [if_pos (Or.inr hpos)] at hhandler
    rw [interrupt_gap True hidle (by rw [hhandler]) (by rw [hhandler]; simp)]
    refine hinv.gap hover (fun _ => hdamaged) ?_ ?_ ?_ ?_
    · exact fun h => absurd trivial h
    · exact fun _ => Or.inl ⟨trivial, (hfilled.content_eq hover).symm, hwait⟩
    · exact fun _ _ => Or.inl trivial
    · exact fun h => absurd hcall h

theorem UartInv.empty_ends (hinv : UartInv b s) (herror : status.error = false)
    (hidle : status.idle = true) (hrxne : status.rxne = none)
    (hundamaged : s.current.damaged = false) (hnil : s.current.bytes = []) :
    UartInv b (s.step b (.interrupt status)) := by
  have hstore : store b status.rxne s.uart = s.uart := store_none hrxne
  have hbytes : (s.current.add status).bytes = [] := (add_bytes_none hrxne).trans hnil
  have hdamaged : (s.current.add status).damaged = false := by
    change (s.current.damaged || status.error) = false
    rw [herror, hundamaged]
    rfl
  have hfits := hinv.fits hnil
  have hwaiting : s.waiting = s.uart.content := if_pos hnil
  have hhandler := handler_gap s.uart hidle herror (by rw [hstore]; exact hfits)
  rw [hstore] at hhandler
  rw [interrupt_gap (b = .fieldDevice ∨ 0 < s.uart.rxLen) hidle (by rw [hhandler]) (by
    rw [hhandler]
    split <;> simp [*])]
  refine hinv.gap hfits (fun _ => hdamaged) ?_ ?_ ?_ ?_
  · exact fun _ _ h => absurd hbytes h
  · intro hcall
    by_cases hdone : b = .fieldDevice ∨ 0 < s.uart.rxLen
    · by_cases howed : s.owed = []
      · have hlen : s.uart.rxLen = 0 :=
          Classical.byContradiction fun h => hinv.held hcall hnil h howed
        exact Or.inl ⟨hdone, by rw [hbytes, content_of_empty hlen], waiting_of_empty fun _ => hlen⟩
      · exact Or.inr ⟨fun _ => ⟨howed, hbytes⟩, hwaiting⟩
    · exact Or.inr ⟨fun h => absurd h hdone, hwaiting⟩
  · exact fun _ h => Or.inl (Or.inr (Nat.pos_of_ne_zero h))
  · exact fun _ => ⟨rfl, fun _ => hbytes⟩

theorem UartInv.damaged_ends (hinv : UartInv b s) (hok : Allowed b s (.interrupt status))
    (herror : status.error = false) (hidle : status.idle = true)
    (hdamaged : s.current.damaged = true) : UartInv b (s.step b (.interrupt status)) := by
  have hrxne : status.rxne = none := by
    by_cases hrxne : status.rxne = none
    · exact hrxne
    · cases hdamaged.symm.trans ((hok.2.1 hrxne).2 herror)
  have hboard : b ≠ .fieldDevice := fun hb =>
    nomatch hdamaged.symm.trans (hok.2.2 hb hidle).1
  have hstore : store b status.rxne s.uart = s.uart := store_none hrxne
  have hcleared := hinv.cleared hdamaged
  have hlen : s.uart.rxLen = 0 := hcleared.rxLen
  have hover : ¬Overflowed b s.uart := by
    rw [hcleared.overflowed_iff]
    cases b with
    | fieldDevice => exact absurd rfl hboard
    | gateway => exact fun h => h (Nat.zero_le _)
  have hadded : (s.current.add status).damaged = true := by
    change (s.current.damaged || status.error) = true
    rw [hdamaged]
    rfl
  have hhandler := handler_gap s.uart hidle herror (by rw [hstore]; exact hover)
  rw [hstore, if_neg fun h => h.elim hboard fun hpos => absurd hlen (Nat.ne_of_gt hpos)]
    at hhandler
  rw [interrupt_gap False hidle (by rw [hhandler]) (by rw [hhandler]; simp)]
  refine hinv.gap hover (fun h => h.elim) ?_ ?_ ?_ ?_
  · intro _ hno
    rw [hadded] at hno
    cases hno
  · intro _
    refine Or.inr ⟨fun h => h.elim, ?_⟩
    rw [waiting_of_empty fun _ => hlen, content_of_empty hlen]
  · exact fun _ h => absurd hlen h
  · exact fun _ => ⟨rfl, fun h => h.elim⟩

theorem UartInv.gap_step (hinv : UartInv b s) (hok : Allowed b s (.interrupt status))
    (herror : status.error = false) (hidle : status.idle = true) :
    UartInv b (s.step b (.interrupt status)) := by
  cases hdamaged : s.current.damaged with
  | true => exact hinv.damaged_ends hok herror hidle hdamaged
  | false =>
      cases hrxne : status.rxne with
      | some byte =>
          rcases hinv.stored hok herror hrxne with ⟨hcall, _, hwait, hfilled⟩
          have hbytes : (s.current.add status).bytes = s.current.bytes ++ [byte] := by
            change s.current.bytes ++ status.rxne.toList = _
            rw [hrxne]
            rfl
          rw [← hbytes] at hfilled
          refine hinv.frame_ends herror hidle hcall hwait hdamaged hfilled ?_
          rw [hbytes]
          exact List.append_ne_nil_of_right_ne_nil _ (List.cons_ne_nil _ _)
      | none =>
          by_cases hnil : s.current.bytes = []
          · exact hinv.empty_ends herror hidle hrxne hdamaged hnil
          · rcases hinv.filling hdamaged hnil with ⟨hcall, hfilled⟩
            refine hinv.frame_ends herror hidle hcall (if_neg hnil) hdamaged ?_ ?_
            · rw [store_none hrxne, add_bytes_none hrxne]
              exact hfilled
            · rw [add_bytes_none hrxne]
              exact hnil

/-!
## Calls
-/

theorem UartInv.call_step (hinv : UartInv b s) (hok : Allowed b s .call) :
    UartInv b (s.step b .call) := by
  cases hcall : s.call with
  | some call =>
      have hstep : s.step b .call = s := by
        unfold Reception.step
        rw [hcall]
      rw [hstep]
      exact hinv
  | none =>
      have hstep : s.step b .call =
          { s with call := some ⟨s.uart.rxLen, []⟩, collecting := s.owed, owed := [] } := by
        unfold Reception.step
        rw [hcall]
      rw [hstep]
      constructor
      · exact hinv.cleared
      · intro hdamaged hne
        rcases hok with hnil | hyes
        · exact absurd hnil hne
        · cases hyes.symm.trans hdamaged
      · exact hinv.fits
      · exact fun h => nomatch h
      · exact fun h => nomatch h
      · exact fun _ => hok
      · intro call hsome
        cases hsome
        constructor
        · rfl
        · exact Nat.zero_le _
        · intro howed
          have hframe := hinv.waiting hcall howed
          have hsame : s.waiting = s.uart.content := by
            unfold Reception.waiting
            by_cases hnil : s.current.bytes = []
            · rw [if_pos hnil]
            · -- the frame in progress was given up, and the buffer is empty
              have hlen := (hinv.cleared (hok.resolve_left hnil)).rxLen
              rw [if_neg hnil, content_of_empty hlen]
          rw [hsame] at hframe
          exact hframe
        · exact fun _ h => nomatch h
      · exact ⟨hinv.whole.undamaged, hinv.whole.announced, hinv.whole.whole⟩

theorem UartInv.copy_step (hinv : UartInv b s) (hcall : s.call = some call)
    (hmore : call.copied.length < call.frameLen) : UartInv b (s.step b .task) := by
  have hstep : s.step b .task =
      { s with
        call := some { call with
          copied := call.copied ++ [s.uart.rxBuf.cell call.copied.length] } } := by
    unfold Reception.step
    rw [hcall]
    exact if_pos hmore
  have hbusy : s.call ≠ none := by
    rw [hcall]
    exact fun h => nomatch h
  rw [hstep]
  constructor
  · exact hinv.cleared
  · intro hdamaged hne
    exact absurd (hinv.filling hdamaged hne).1 hbusy
  · exact hinv.fits
  · exact fun h => nomatch h
  · exact fun h => nomatch h
  · exact fun _ => hinv.between hbusy
  · intro call' hsome
    cases hsome
    have hc := hinv.copying call hcall
    have hlen : (call.copied ++ [s.uart.rxBuf.cell call.copied.length]).length =
        call.copied.length + 1 := List.length_append
    constructor
    · change call.copied ++ [_] = s.uart.rxBuf.read (call.copied ++ [_]).length
      rw [hlen]
      unfold IndexedBuffer.read
      rw [List.range_succ, List.map_append, List.map_singleton]
      exact congrArg (· ++ [_]) hc.copied
    · change (call.copied ++ [_]).length ≤ call.frameLen
      rw [hlen]
      exact hmore
    · exact hc.collecting
    · exact hc.owed
  · exact ⟨hinv.whole.undamaged, hinv.whole.announced, hinv.whole.whole⟩

theorem UartInv.return_step (hinv : UartInv b s) (hcall : s.call = some call)
    (hdone : ¬call.copied.length < call.frameLen) : UartInv b (s.step b .task) := by
  have hstep : s.step b .task =
      { s with
        uart := { s.uart with rxLen := 0 }
        call := none
        got := s.got ++ [(s.collecting, call.copied)] } := by
    unfold Reception.step
    rw [hcall]
    exact if_neg hdone
  have hbusy : s.call ≠ none := by
    rw [hcall]
    exact fun h => nomatch h
  have hc := hinv.copying call hcall
  have hall : call.copied.length = call.frameLen := Nat.le_antisymm hc.le (Nat.le_of_not_lt hdone)
  have hover (h : ¬Overflowed b s.uart) : ¬Overflowed b { s.uart with rxLen := 0 } := by
    cases b with
    | fieldDevice => exact Nat.not_succ_le_zero _
    | gateway => exact h
  rw [hstep]
  constructor
  · intro hdamaged
    have hcleared := hinv.cleared hdamaged
    exact ⟨content_of_empty rfl, hcleared.overflow⟩
  · intro hdamaged hne
    exact absurd (hinv.filling hdamaged hne).1 hbusy
  · exact fun hnil => hover (hinv.fits hnil)
  · intro _ howed
    rw [waiting_of_empty fun _ => rfl]
    exact onlyFrame_of_empty howed hc.owed
  · exact fun _ _ h => absurd rfl h
  · exact fun h => absurd rfl h
  · exact fun _ h => nomatch h
  · refine ⟨hinv.whole.undamaged, hinv.whole.announced, ?_⟩
    intro owed bytes hmem hne
    rcases List.mem_append.mp hmem with hold | hnew
    · exact hinv.whole.whole owed bytes hold hne
    · cases List.mem_singleton.mp hnew
      rw [hc.copied, hall]
      exact hc.collecting hne

/-!
## Runs
-/

theorem UartInv.step (hinv : UartInv b s) {step : UartStep} (hok : Allowed b s step) :
    UartInv b (s.step b step) := by
  cases step with
  | interrupt status =>
      cases herror : status.error with
      | true => exact hinv.error_step hok herror
      | false =>
          cases hidle : status.idle with
          | true => exact hinv.gap_step hok herror hidle
          | false => exact hinv.byte_step hok herror hidle
  | call => exact hinv.call_step hok
  | task =>
      cases hcall : s.call with
      | none =>
          have hstep : s.step b .task = s := by
            unfold Reception.step
            rw [hcall]
          rw [hstep]
          exact hinv
      | some call =>
          by_cases hmore : call.copied.length < call.frameLen
          · exact hinv.copy_step hcall hmore
          · exact hinv.return_step hcall hmore

theorem UartRun.inv (run : UartRun b (Allowed b) s) : UartInv b s := by
  induction run with
  | start buf => exact .start b buf
  | step _ step hok ih => exact ih.step hok

end

/-- In every run whose steps are allowed, the frames are handed over whole. -/
theorem frames_handed_over_whole (b : Board) {s : Reception} (run : UartRun b (Allowed b) s) :
    WholeFrames b s :=
  run.inv.whole

def arrival (byte : UInt8) : UartStep := .interrupt ⟨some byte, false, false⟩

def idleGap : UartStep := .interrupt ⟨none, true, false⟩

def receiveError : UartStep := .interrupt ⟨none, false, true⟩

def emptyBuffer : IndexedBuffer UInt8 := ⟨fun _ => 0, 0⟩

/-- Two bytes that are copied out before the next ones arrive. -/
theorem frames_handed_over_whole_pair :
    WholeFrames .gateway ([arrival 1, arrival 3, idleGap, .call, .task, .task, .task].foldl
      (Reception.step .gateway) (receptionStart emptyBuffer)) :=
  frames_handed_over_whole .gateway (.step (.step (.step (.step (.step (.step (.step
    (.start emptyBuffer) (arrival 1) (by decide)) (arrival 3) (by decide)) idleGap (by decide))
    .call (by decide)) .task (by decide)) .task (by decide)) .task (by decide))

/-- A receive error in the middle of a frame. -/
theorem rest_of_damaged_frame_reported :
    (¬forall s, UartRun .fieldDevice (fun _ _ => True) s -> WholeFrames .fieldDevice s) ∧
      ¬forall s, UartRun .gateway (fun _ _ => True) s -> WholeFrames .gateway s := by
  constructor
  · intro hclaim
    rcases (hclaim _ (.step (.step (.step (.step (.start emptyBuffer) (arrival 1) trivial)
      receiveError trivial) (arrival 3) trivial) idleGap trivial)).undamaged 0 (by decide)
      with ⟨bytes, hget⟩
    cases hget
  · intro hclaim
    rcases (hclaim _ (.step (.step (.step (.step (.start emptyBuffer) (arrival 1) trivial)
      receiveError trivial) (arrival 3) trivial) idleGap trivial)).undamaged 0 (by decide)
      with ⟨bytes, hget⟩
    cases hget

end EnvMonitor.Drivers.ModbusUart
