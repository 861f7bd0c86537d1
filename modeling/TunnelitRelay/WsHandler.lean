import TunnelitRelay.TunnelManager

namespace TunnelitRelay

open Concurrent Program

variable [Externals]

/-! # WebSocket sessions (`ws_handler.rs`)

`handle_socket` is a loop over the frames of one socket.  Between two frames it
does nothing but wait, so each iteration is a program of its own; the local
variables of the loop are kept in the session's record.
-/

/-- `unwrap_or_default` on a list of rows. -/
def rowsOrNone (result : Except Failure (List α)) : List α :=
  match result with
  | .ok rows => rows
  | .error _ => []

def query (query : Query) : Relay (Except Failure query.Value) :=
  withLock .db .exclusive (access (.db query))

def tunnelConfig (tunnelId agentId : Uuid) (tunnel : TunnelRecord) : TunnelConfig where
  id := tunnelId
  agentId := agentId
  name := tunnel.name
  localPort := tunnel.localPort
  protocol := tunnel.protocol
  publicPort := tunnel.publicPort
  subdomain := tunnel.subdomain
  enabled := tunnel.enabled

/-- The loop of `sync_agent_tunnels`; it returns the configurations pushed. -/
def syncRows (agentId : Uuid) (agentSender : Channel) :
    List TunnelRecord → Relay (List TunnelConfig)
  | [] => return []
  | tunnel :: rest =>
      match parseUuid tunnel.id with
      | none => syncRows agentId agentSender rest
      | some tunnelId => do
          let config := tunnelConfig tunnelId agentId tunnel
          if config.enabled then
            -- Reserve the port in memory, then start the listener.
            withLock .allocatedPorts .exclusive (access (.insertAllocatedPort config.publicPort))
            let _ ← startTunnelListener config agentSender
            let configs ← syncRows agentId agentSender rest
            return config :: configs
          else
            let configs ← syncRows agentId agentSender rest
            return config :: configs

def syncAgentTunnels (agentId : Uuid) (agentSender : Channel) : Relay Unit := do
  let dbTunnels ← query (.listTunnelsForAgent (uuidToString agentId))
  let tunnelConfigs ← syncRows agentId agentSender (rowsOrNone dbTunnels)
  access (.send agentSender (.syncTunnels tunnelConfigs))

/-- Stop the listener of a row and release its port. -/
def stopRow (tunnel : TunnelRecord) : Relay Unit :=
  match parseUuid tunnel.id with
  | none => return ()
  | some tunnelId => do
      stopTunnelListener tunnelId
      withLock .allocatedPorts .exclusive (access (.freePort tunnel.publicPort))

def cleanupAgent (agentId : Uuid) : Relay Unit := do
  let _ ← withLock .agentSenders .exclusive (access (.removeAgentSender agentId))
  let _ ← query (.setAgentOnline (uuidToString agentId) false none)
  let dbTunnels ← query (.listTunnelsForAgent (uuidToString agentId))
  forEach stopRow (rowsOrNone dbTunnels)

def requestClaim (session : SessionId) (hostname : String) : Relay Unit :=
  -- The database stays locked until the answer has been sent.
  withLock .db .exclusive do
    match ← access (.db (.createAgentClaim hostname)) with
    | .ok (record, code) =>
        access (.setCurrentClaimCode session code)
        withLock .pendingClaims .exclusive (access (.insertPendingClaim code session))
        access (.send session (.claimReady code ("/claim/" ++ code) (some record.token)))
    | .error _ => access (.send session (.error "Failed to generate claim code"))

def auth (session : SessionId) (token hostname : String) : Relay Unit := do
  match ← query (.getAgentByToken token) with
  | .ok (some agent) =>
      match agent.claimCode with
      | some code =>
          -- Still unclaimed: keep waiting for the confirmation on the web.
          access (.setCurrentClaimCode session code)
          withLock .pendingClaims .exclusive (access (.insertPendingClaim code session))
          access (.send session (.claimReady code ("/claim/" ++ code) (some token)))
      | none =>
          match parseUuid agent.id with
          | none => access (.send session (.error "Invalid agent ID format in database"))
          | some agentId =>
              access (.setAuthenticatedAgentId session agentId)
              let _ ← query (.setAgentOnline agent.id true (some hostname))
              withLock .agentSenders .exclusive (access (.insertAgentSender agentId session))
              access (.send session (.authSuccess agentId agent.name agent.token))
              syncAgentTunnels agentId session
  | .ok none => access (.send session (.error "Invalid or expired token"))
  | .error _ => access (.send session (.error "Database authentication error"))

def handleMessage (session : SessionId) : AgentMessage → Relay Unit
  | .requestClaim hostname => requestClaim session hostname
  | .auth token hostname => auth session token hostname
  | .data connId payload =>
      match decodeBase64 payload with
      | some data => withLock .tcpConnSenders .shared (access (.enqueueData connId data))
      | none => return ()
  | .closeConnection connId =>
      withLock .tcpConnSenders .exclusive (access (.removeConnSender connId))
  | .ping => access (.send session .pong)

/-- What happens after the loop. -/
def teardown (session : SessionId) : Relay Unit := do
  access (.abortSendTask session)
  let (authenticatedAgentId, currentClaimCode) ← access (.sessionLocals session)
  ifSome (fun code => do
    let _ ← withLock .pendingClaims .exclusive (access (.removePendingClaim code))) currentClaimCode
  ifSome cleanupAgent authenticatedAgentId
  access (.returnSession session)

/-- What `ws_receiver.next()` yields: a text that parses as a message, the end
of the stream, a close frame or a read error, and everything that is skipped. -/
inductive Frame where
  | message (message : AgentMessage)
  | ignored
  | hangup
deriving DecidableEq, Repr

/-- One iteration of the loop of `handle_socket`. -/
def handleFrame (session : SessionId) : Frame → Relay Unit
  | .message message => do
      handleMessage session message
      access (.awaitFrame session)
  | .ignored => access (.awaitFrame session)
  | .hangup => teardown session

end TunnelitRelay
