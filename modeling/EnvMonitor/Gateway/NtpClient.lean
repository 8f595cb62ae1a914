import Mathlib
import EnvMonitor.Device.Client

/-!
# NtpClient

One query over a list of servers.  WifiTask answers each call in any way it can; what went through
it is recorded, with the request that a datagram answers.
-/

namespace EnvMonitor.Gateway.NtpClient

open Device Device.Program

/-!
## WifiTask and HealthMonitor
-/

abbrev WifiSocket : Type := UInt8

inductive HealthEvent where
  | ntpSyncOk
  | ntpSyncFailed
  | ntpBadResponse
  deriving DecidableEq

inductive NtpOp where
  | resolve (host : String)
  | openSocket (address : String) (port : Nat)
  | send (sock : WifiSocket) (data : List UInt8)
  | recv (sock : WifiSocket) (room : Nat) (timeoutMs : Nat)
  | closeSocket (sock : WifiSocket)
  | pushEvent (event : HealthEvent) (value : UInt32)

/-- `none` and `false` are errors of WifiTask. -/
abbrev ntpInterface : Interface where
  Op := NtpOp
  Resp
    | .resolve _ => Option String
    | .openSocket _ _ => Option WifiSocket
    | .send _ _ => Bool
    | .recv _ _ _ => Option (List UInt8)
    | .closeSocket _ => Bool
    | .pushEvent _ _ => Unit

/-!
## Client
-/

abbrev ntpServerPort : Nat := 123

abbrev ntpPacketBytes : Nat := 48

def ntpRequestLiVnMode : UInt8 := 0x1B

def ntpModeMask : UInt8 := 0x07

def ntpModeServer : UInt8 := 4

def ntpStratumMax : UInt8 := 15

abbrev ntpTxTsSecOffset : Nat := 40

abbrev ntpClientQueryTimeoutMs : Nat := 3000

abbrev ntpClientMaxServers : Nat := 4

def ntpUnixOffset : UInt32 := 2208988800

inductive NtpClientErr where
  | nullPtr
  | allFailed
  | invalidArg
  deriving DecidableEq

/-- The field of four bytes that begins at `i`. -/
def readBe32 (bytes : List UInt8) (i : Nat) : UInt32 :=
  ((bytes.getD i 0).toUInt32 <<< 24) ||| ((bytes.getD (i + 1) 0).toUInt32 <<< 16) |||
    ((bytes.getD (i + 2) 0).toUInt32 <<< 8) ||| (bytes.getD (i + 3) 0).toUInt32

def replyIsSane (pkt : List UInt8) (txTsSec : UInt32) : Bool :=
  if pkt.getD 0 0 &&& ntpModeMask ≠ ntpModeServer then false
  else if pkt.getD 1 0 = 0 ∨ ntpStratumMax < pkt.getD 1 0 then false
  else txTsSec ≠ 0 && ntpUnixOffset ≤ txTsSec

/-- The loop of `is_ipv4_literal`. -/
def isIpv4LiteralFrom (hasDigit : Bool) : List Char -> Bool
  | [] => hasDigit
  | c :: rest =>
      if '0' ≤ c ∧ c ≤ '9' then isIpv4LiteralFrom true rest
      else if c ≠ '.' then false
      else isIpv4LiteralFrom hasDigit rest

def isIpv4Literal (s : String) : Bool := isIpv4LiteralFrom false s.toList

def ntpRequest : List UInt8 := ntpRequestLiVnMode :: List.replicate 47 0

/-- `query_one` on an open socket. -/
def exchange (sock : WifiSocket) : Program ntpInterface (Option UInt32) := do
  if ← perform (I := ntpInterface) (.send sock ntpRequest) then
    match ← perform (I := ntpInterface) (.recv sock ntpPacketBytes ntpClientQueryTimeoutMs) with
    | none => pure none
    | some pkt =>
        if pkt.length ≠ ntpPacketBytes then pure none
        else if replyIsSane pkt (readBe32 pkt ntpTxTsSecOffset) then
          pure (some (readBe32 pkt ntpTxTsSecOffset - ntpUnixOffset))
        else do
          let _ ← perform (I := ntpInterface) (.pushEvent .ntpBadResponse 0)
          pure none
  else pure none

/-- `query_one` with the address of the server. -/
def queryAddress (ip : String) : Program ntpInterface (Option UInt32) := do
  match ← perform (I := ntpInterface) (.openSocket ip ntpServerPort) with
  | none => pure none
  | some sock => do
      let epoch ← exchange sock
      let _ ← perform (I := ntpInterface) (.closeSocket sock)
      pure epoch

def queryOne (server : Option String) : Program ntpInterface (Option UInt32) :=
  match server with
  | none => pure none
  | some name =>
      if isIpv4Literal name then queryAddress name
      else do
        match ← perform (I := ntpInterface) (.resolve name) with
        | none => pure none
        | some ip => queryAddress ip

/-- The loop of `ntp_client_query`. -/
def queryServers : List (Option String) -> Program ntpInterface (Except NtpClientErr UInt32)
  | [] => do
      let _ ← perform (I := ntpInterface) (.pushEvent .ntpSyncFailed 0)
      pure (.error .allFailed)
  | server :: rest => do
      match ← queryOne server with
      | some epoch => do
          let _ ← perform (I := ntpInterface) (.pushEvent .ntpSyncOk epoch)
          pure (.ok epoch)
      | none => queryServers rest

def ntpClientQuery (inUse : Bool) (serverList : List (Option String)) :
    Program ntpInterface (Except NtpClientErr UInt32) :=
  if serverList = [] then pure (.error .nullPtr)
  else if ntpClientMaxServers < serverList.length ∨ inUse = false then pure (.error .invalidArg)
  else queryServers serverList

/-!
## Channel
-/

/-- `answers` is the number of the request that it is a reply to, unless somebody made it up. -/
structure Datagram where
  bytes : List UInt8
  answers : Option Nat
  deriving DecidableEq

inductive NtpEvent where
  | opened (sock : WifiSocket)
  | sent (sock : WifiSocket) (data : List UInt8)
  | received (sock : WifiSocket) (d : Datagram)
  | closed (sock : WifiSocket)
  | pushed (event : HealthEvent) (value : UInt32)
  deriving DecidableEq

def isSent : NtpEvent -> Bool
  | .sent _ _ => true
  | _ => false

/-- So many requests were sent; they are numbered in this order. -/
def sentCount (trace : List NtpEvent) : Nat := trace.countP isSent

/-- How a call can be answered after `trace`.  Any datagram can come out of any socket, any number
of times; a reply needs a request before it. -/
inductive NtpStep : List NtpEvent -> (op : NtpOp) -> ntpInterface.Resp op -> List NtpEvent -> Prop
  | resolve (trace : List NtpEvent) (host : String) (ip : Option String) :
      NtpStep trace (.resolve host) ip trace
  | opens (trace : List NtpEvent) (address : String) (port : Nat) (sock : WifiSocket) :
      NtpStep trace (.openSocket address port) (some sock) (trace ++ [.opened sock])
  | opensNot (trace : List NtpEvent) (address : String) (port : Nat) :
      NtpStep trace (.openSocket address port) none trace
  | sends (trace : List NtpEvent) (sock : WifiSocket) (data : List UInt8) (ok : Bool) :
      NtpStep trace (.send sock data) ok (trace ++ [.sent sock data])
  | sendsNot (trace : List NtpEvent) (sock : WifiSocket) (data : List UInt8) :
      NtpStep trace (.send sock data) false trace
  | receives (trace : List NtpEvent) (sock : WifiSocket) (room timeoutMs : Nat) (d : Datagram)
      (hroom : d.bytes.length ≤ room)
      (hsent : forall n, d.answers = some n -> n < sentCount trace) :
      NtpStep trace (.recv sock room timeoutMs) (some d.bytes) (trace ++ [.received sock d])
  | receivesNot (trace : List NtpEvent) (sock : WifiSocket) (room timeoutMs : Nat) :
      NtpStep trace (.recv sock room timeoutMs) none trace
  | closes (trace : List NtpEvent) (sock : WifiSocket) (ok : Bool) :
      NtpStep trace (.closeSocket sock) ok (trace ++ [.closed sock])
  | pushes (trace : List NtpEvent) (event : HealthEvent) (value : UInt32) :
      NtpStep trace (.pushEvent event value) () (trace ++ [.pushed event value])

/-- What calls of `ntp_client_query` one after another can leave. -/
inductive NtpRun : List NtpEvent -> Prop
  | start : NtpRun []
  | query {trace trace' : List NtpEvent} {result : Except NtpClientErr UInt32}
      (run : NtpRun trace) (inUse : Bool) (serverList : List (Option String))
      (calls : Calls NtpStep (ntpClientQuery inUse serverList) trace result trace') :
      NtpRun trace'

/-!
## What is claimed and what holds
-/

/-- The seconds of the transmit timestamp. -/
def transmitSeconds (pkt : List UInt8) : Nat :=
  (pkt.getD 40 0).toNat * 2 ^ 24 + (pkt.getD 41 0).toNat * 2 ^ 16 +
    (pkt.getD 42 0).toNat * 2 ^ 8 + (pkt.getD 43 0).toNat

/-- A whole packet of a server, and the time that it tells. -/
structure ServerReply (pkt : List UInt8) (epoch : UInt32) : Prop where
  length : pkt.length = 48
  mode : (pkt.getD 0 0).toNat % 8 = 4
  stratum : 1 ≤ (pkt.getD 1 0).toNat ∧ (pkt.getD 1 0).toNat ≤ 15
  time : epoch.toNat + 2208988800 = transmitSeconds pkt

def isSocketEvent : NtpEvent -> Bool
  | .opened _ => true
  | .closed _ => true
  | _ => false

/-- Each socket is closed once, before the next one is opened. -/
def ClosesSockets (trace : List NtpEvent) : Prop :=
  exists socks : List WifiSocket, trace.filter isSocketEvent =
    socks.flatMap fun sock => [.opened sock, .closed sock]

/-- The call `calls` returned `result`, and the time is a reply to a request of its own. -/
structure OwnReply (trace : List NtpEvent) (result : Except NtpClientErr UInt32)
    (calls : List NtpEvent) : Prop where
  closes : ClosesSockets calls
  reply : forall epoch, result = .ok epoch -> exists sock d n, .received sock d ∈ calls ∧
    ServerReply d.bytes epoch ∧ d.answers = some n ∧
    sentCount trace ≤ n ∧ n < sentCount (trace ++ calls)

/-- The time is that of a server packet, received on a socket that was opened in this call, behind
the request that was sent on it. -/
structure FreshReply (result : Except NtpClientErr UInt32) (calls : List NtpEvent) : Prop where
  closes : ClosesSockets calls
  reply : forall epoch, result = .ok epoch -> exists before sock d,
    calls = before ++ [.opened sock, .sent sock ntpRequest, .received sock d, .closed sock,
      .pushed .ntpSyncOk epoch] ∧
    ServerReply d.bytes epoch

end EnvMonitor.Gateway.NtpClient
