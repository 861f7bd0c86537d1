import TunnelitRelay.Concurrent.Embedding
import TunnelitRelay.Handlers

namespace TunnelitRelay

open Concurrent Program

/-! # Listings, telemetry and the locks of the proxies

The requests that only read (`admin.rs`), and what the proxy tasks do with the
shared state (`tcp_proxy.rs`, `udp_proxy.rs`): one more lock and a few more
operations than those of the handlers.
-/

inductive HostLock where
  | relay (lock : Lock)
  | liveTraffic
deriving DecidableEq, Repr

inductive HostOp where
  | relay (op : Op)
  | listAllUsers
  | listAllAgents
  | listAllTunnels
  | liveTraffic
  /-- `AppState::record_traffic`, under its guard. -/
  | recordTraffic (tunnelId : Uuid) (bytesIn bytesOut : UInt64)
  | insertConnSender (connId : Uuid)
deriving DecidableEq, Repr

/-- Bytes received and sent for each tunnel. -/
abbrev LiveTraffic := Uuid → Option (UInt64 × UInt64)

@[reducible] def HostOp.Result : HostOp → Type
  | .relay op => op.Result
  | .listAllUsers => Except Failure (List UserRecord)
  | .listAllAgents => Except Failure (List AgentRecord)
  | .listAllTunnels => Except Failure (List TunnelRecord)
  | .liveTraffic => LiveTraffic
  | .recordTraffic .. | .insertConnSender _ => Unit

abbrev hostSignature : Signature where
  Op := HostOp
  Result := HostOp.Result
  Lock := HostLock

abbrev Host := Program hostSignature

def intoHost : Embedding relaySignature hostSignature where
  op := .relay
  result := fun _ result => result
  lock := .relay
  locks := fun _ _ same => HostLock.relay.inj same

/-- A program of the handlers, as one of the whole host. -/
abbrev fromRelay (program : Relay α) : Host α := program.embed intoHost

abbrev hostAccess (op : HostOp) : Host op.Result := @Program.perform hostSignature op

abbrev withHostLock (lock : HostLock) (mode : Mode) (body : Host α) : Host α :=
  @Program.guarded hostSignature α lock mode body

/-! ## Requests that only read -/

/-- One entry of the live statistics; `total_mb` is `total` over 2^20. -/
structure TrafficStats where
  bytesIn : UInt64
  bytesOut : UInt64
  total : UInt64
deriving DecidableEq, Repr

inductive HostReply where
  | relay (reply : Reply)
  | user (record : UserRecord)
  | users (records : List UserRecord)
  | agents (code : StatusCode) (records : List AgentRecord)
  | tunnels (code : StatusCode) (records : List TunnelRecord)
  | stats (entries : String → Option TrafficStats)

variable [Externals]

def getMe (headers : HeaderMap) : Host HostReply := do
  match ← fromRelay (getCurrentUserId headers) with
  | none => return .relay (.text .unauthorized "Not logged in")
  | some userId =>
      match ← fromRelay (query (.getUserById userId)) with
      | .error failure => return .relay failure.dbError
      | .ok none => return .relay (.text .notFound "User not found")
      | .ok (some user) => return .user user

def adminListUsers (headers : HeaderMap) : Host HostReply := do
  match ← fromRelay (isAdmin headers) with
  | false => return .relay (.text .forbidden "Admin access required")
  | true =>
      match ← withHostLock (.relay .db) .exclusive (hostAccess .listAllUsers) with
      | .error failure => return .relay failure.dbError
      | .ok users => return .users users

/-- `unwrap_or_default`. -/
def orEmpty (answer : Except Failure (List α)) : List α :=
  match answer with
  | .ok rows => rows
  | .error _ => []

def listAgents (headers : HeaderMap) : Host HostReply := do
  let isAdm ← fromRelay (isAdmin headers)
  let currentUid ← fromRelay (getCurrentUserId headers)
  match isAdm, currentUid with
  | false, none => return .agents .unauthorized []
  | true, _ =>
      let agents ← withHostLock (.relay .db) .exclusive (hostAccess .listAllAgents)
      return .agents .ok (orEmpty agents)
  | false, some userId =>
      let agents ← fromRelay (query (.listAgentsForUser userId))
      return .agents .ok (orEmpty agents)

def listTunnels (headers : HeaderMap) : Host HostReply := do
  let isAdm ← fromRelay (isAdmin headers)
  let currentUid ← fromRelay (getCurrentUserId headers)
  match isAdm, currentUid with
  | false, none => return .tunnels .unauthorized []
  | true, _ =>
      let tunnels ← withHostLock (.relay .db) .exclusive (hostAccess .listAllTunnels)
      return .tunnels .ok (orEmpty tunnels)
  | false, some userId =>
      let tunnels ← fromRelay (query (.listTunnelsForUser userId))
      return .tunnels .ok (orEmpty tunnels)

/-- The map of the answer: its keys are printed identifiers. -/
def statsOf (traffic : LiveTraffic) (key : String) : Option TrafficStats :=
  match parseUuid key with
  | some tunnelId =>
      if uuidToString tunnelId = key then
        (traffic tunnelId).map fun (bytesIn, bytesOut) => { bytesIn, bytesOut, total := bytesIn + bytesOut }
      else none
  | none => none

/-- The handler does not look at the caller's headers. -/
def getLiveStats : Host HostReply := do
  let traffic ← withHostLock .liveTraffic .shared (hostAccess .liveTraffic)
  return .stats (statsOf traffic)

/-! ## The passes of the proxy loops -/

/-- What a proxy task does with the shared state in one pass of its loop. -/
inductive ProxyPass where
  /-- An accepted TCP connection is announced and put into the map. -/
  | acceptTcp (tunnelId connId : Uuid) (agentSender : Channel)
  | readTcp (tunnelId connId : Uuid) (agentSender : Channel) (bytes : List UInt8)
  | writeTcp (tunnelId : Uuid) (data : List UInt8)
  | cleanUpTcp (connId : Uuid) (agentSender : Channel)
  | announceUdp (tunnelId connId : Uuid) (agentSender : Channel)
  | enrollUdp (connId : Uuid)
  | receiveUdp (tunnelId connId : Uuid) (agentSender : Channel) (bytes : List UInt8)
  | replyUdp (tunnelId : Uuid) (data : List UInt8)
deriving DecidableEq, Repr

def recordTraffic (tunnelId : Uuid) (bytesIn bytesOut : UInt64) : Host Unit :=
  withHostLock .liveTraffic .exclusive (hostAccess (.recordTraffic tunnelId bytesIn bytesOut))

def tell (sender : Channel) (message : RelayMessage) : Host Unit :=
  hostAccess (.relay (.send sender message))

def ProxyPass.run : ProxyPass → Host HostReply
  | .acceptTcp tunnelId connId agentSender => do
      tell agentSender (.newConnection tunnelId connId)
      withHostLock (.relay .tcpConnSenders) .exclusive (hostAccess (.insertConnSender connId))
      return .relay .none
  | .readTcp tunnelId connId agentSender bytes | .receiveUdp tunnelId connId agentSender bytes => do
      recordTraffic tunnelId (.ofNat bytes.length) 0
      tell agentSender (.data connId (encodeBase64 bytes))
      return .relay .none
  | .writeTcp tunnelId data | .replyUdp tunnelId data => do
      recordTraffic tunnelId 0 (.ofNat data.length)
      return .relay .none
  | .cleanUpTcp connId agentSender => do
      tell agentSender (.closeConnection connId)
      fromRelay (withLock .tcpConnSenders .exclusive (access (.removeConnSender connId)))
      return .relay .none
  | .announceUdp tunnelId connId agentSender => do
      tell agentSender (.newConnection tunnelId connId)
      return .relay .none
  | .enrollUdp connId => do
      withHostLock (.relay .tcpConnSenders) .exclusive (hostAccess (.insertConnSender connId))
      return .relay .none

end TunnelitRelay
