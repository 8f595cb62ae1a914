import EnvMonitor.Device.IndexedBuffer

/-!
# Receiving over the Modbus UARTs

The interrupt handlers of both boards fill one buffer, and `modbus_uart_get_rx_frame` copies it out
byte by byte while they go on.
-/

namespace EnvMonitor.Drivers.ModbusUart

open Device (IndexedBuffer)

abbrev modbusUartBufSize : Nat := 256

inductive Board where
  | fieldDevice
  | gateway
  deriving DecidableEq

/-- `modbus_uart_event_t` -/
inductive Event where
  | rxDone
  | rxError
  deriving DecidableEq

/-- What the handler and the task share; `rxOverflow` is the gateway's. -/
structure Uart where
  rxBuf : IndexedBuffer UInt8
  rxLen : Nat
  rxOverflow : Bool

/-- The flags of the status register, RXNE with its byte; `error` is any of ORE, FE and NE. -/
structure Status where
  rxne : Option UInt8
  idle : Bool
  error : Bool
  deriving DecidableEq

/-- `modbus_uart_isr` of the field device, with its calls of `rx_cb`. -/
def modbusUartIsr (status : Status) (u : Uart) : List Event × Uart :=
  let u :=
    match status.rxne with
    | some byte =>
        if u.rxLen < modbusUartBufSize then
          { u with rxBuf := u.rxBuf.put u.rxLen byte, rxLen := u.rxLen + 1 }
        else u
    | none => u
  let (events, u) :=
    if status.idle then
      if modbusUartBufSize ≤ u.rxLen then ([Event.rxError], { u with rxLen := 0 })
      else ([Event.rxDone], u)
    else ([], u)
  if status.error then (events ++ [.rxError], { u with rxLen := 0 }) else (events, u)

/-- `UART4_IRQHandler` of the gateway, with its calls of `rx_cb`. -/
def uart4IrqHandler (status : Status) (u : Uart) : List Event × Uart :=
  let u :=
    match status.rxne with
    | some byte =>
        if u.rxLen < modbusUartBufSize then
          { u with rxBuf := u.rxBuf.put u.rxLen byte, rxLen := u.rxLen + 1 }
        else { u with rxOverflow := true }
    | none => u
  if status.error then ([.rxError], { u with rxLen := 0, rxOverflow := false })
  else if status.idle then
    if u.rxOverflow then ([.rxError], { u with rxLen := 0, rxOverflow := false })
    else if 0 < u.rxLen then ([.rxDone], u)
    else ([], u)
  else ([], u)

def handler : Board -> Status -> Uart -> List Event × Uart
  | .fieldDevice => modbusUartIsr
  | .gateway => uart4IrqHandler

/-- A call of `modbus_uart_get_rx_frame`: `frame_len`, and what it has copied. -/
structure Call where
  frameLen : Nat
  copied : List UInt8
  deriving DecidableEq

/-- What arrived between two idle gaps. -/
structure Frame where
  bytes : List UInt8
  /-- A receive error occurred. -/
  damaged : Bool
  deriving DecidableEq

/-- The driver with a record of its input and output. -/
structure Reception where
  uart : Uart
  call : Option Call
  /-- Since the last idle gap. -/
  current : Frame
  ended : List Frame
  /-- The numbers of the frames that ended with RX_DONE. -/
  reported : List Nat
  /-- Those of them since the last call began, and those before it. -/
  owed : List Nat
  collecting : List Nat
  /-- What each call returned, with the frames reported since the call before it. -/
  got : List (List Nat × List UInt8)

inductive UartStep where
  | interrupt (status : Status)
  /-- `frame_len` is read. -/
  | call
  /-- The next access of the call: a byte is read or `rx_len` is written. -/
  | task
  deriving DecidableEq

/-- What has arrived with an interrupt. -/
def Frame.add (f : Frame) (status : Status) : Frame where
  bytes := f.bytes ++ status.rxne.toList
  damaged := f.damaged || status.error

def Reception.interrupt (b : Board) (status : Status) (s : Reception) : Reception :=
  let (events, uart) := handler b status s.uart
  if status.idle then
    let done := if .rxDone ∈ events then [s.ended.length] else []
    { s with
      uart := uart
      current := ⟨[], false⟩
      ended := s.ended ++ [s.current.add status]
      reported := s.reported ++ done
      owed := s.owed ++ done }
  else { s with uart := uart, current := s.current.add status }

def Reception.step (b : Board) (s : Reception) : UartStep -> Reception
  | .interrupt status => s.interrupt b status
  | .call =>
      match s.call with
      | some _ => s
      | none =>
          { s with call := some ⟨s.uart.rxLen, []⟩, collecting := s.owed, owed := [] }
  | .task =>
      match s.call with
      | none => s
      | some c =>
          if c.copied.length < c.frameLen then
            { s with
              call := some { c with copied := c.copied ++ [s.uart.rxBuf.cell c.copied.length] } }
          else
            { s with
              uart := { s.uart with rxLen := 0 }
              call := none
              got := s.got ++ [(s.collecting, c.copied)] }

/-- Nothing has been received; the buffer may hold anything. -/
def receptionStart (buf : IndexedBuffer UInt8) : Reception :=
  ⟨⟨buf, 0, false⟩, none, ⟨[], false⟩, [], [], [], [], []⟩

/-- The lengths of frames that fit into the buffer as the handler sees it. -/
def Fits : Board -> List UInt8 -> Prop
  | .fieldDevice, bytes => bytes.length < modbusUartBufSize
  | .gateway, bytes => bytes.length ≤ modbusUartBufSize

/-- `bytes` are those of one of the frames with these numbers, and the others are empty. -/
def OnlyFrame (ended : List Frame) (numbers : List Nat) (bytes : List UInt8) : Prop :=
  exists n, n ∈ numbers ∧ ended[n]? = some ⟨bytes, false⟩ ∧
    forall other, other ∈ numbers -> other ≠ n -> ended[other]? = some ⟨[], false⟩

/-- RX_DONE reports frames without an error, all that fit, and a call behind it returns the one
that is not empty. -/
structure WholeFrames (b : Board) (s : Reception) : Prop where
  undamaged : forall n, n ∈ s.reported -> exists bytes, s.ended[n]? = some ⟨bytes, false⟩
  announced : forall n bytes, s.ended[n]? = some ⟨bytes, false⟩ -> bytes ≠ [] -> Fits b bytes ->
    n ∈ s.reported
  whole : forall owed bytes, (owed, bytes) ∈ s.got -> owed ≠ [] -> OnlyFrame s.ended owed bytes

/-- A byte or an error finds no reported frame that still waits to be copied, and a byte finds no
call in progress and no error before it in its frame.  On the field device an idle gap ends no
damaged frame, unless the buffer is full and the error comes with the gap.  A call does not begin in
the middle of a frame. -/
def Allowed (b : Board) (s : Reception) : UartStep -> Prop
  | .interrupt status =>
      (status.rxne ≠ none ∨ status.error = true -> s.current.bytes = [] ->
        s.call ≠ none ∨ s.uart.rxLen = 0) ∧
      (status.rxne ≠ none ->
        s.call = none ∧ (status.error = false -> s.current.damaged = false)) ∧
      (b = .fieldDevice -> status.idle = true ->
        s.current.damaged = false ∧
          (status.error = true ->
            modbusUartBufSize ≤ s.uart.rxLen + status.rxne.toList.length))
  | .call => s.current.bytes = [] ∨ s.current.damaged = true
  | .task => True

instance (b : Board) (s : Reception) (step : UartStep) : Decidable (Allowed b s step) :=
  match step with
  | .interrupt _ => inferInstanceAs (Decidable (_ ∧ _ ∧ _))
  | .call => inferInstanceAs (Decidable (_ ∨ _))
  | .task => inferInstanceAs (Decidable True)

inductive UartRun (b : Board) (allowed : Reception -> UartStep -> Prop) : Reception -> Prop
  | start (buf : IndexedBuffer UInt8) : UartRun b allowed (receptionStart buf)
  | step {s : Reception} (run : UartRun b allowed s) (step : UartStep) (ok : allowed s step) :
      UartRun b allowed (s.step b step)

end EnvMonitor.Drivers.ModbusUart
