import TunnelitRelay.Externals

namespace TunnelitRelay

/-! # Messages between relay and agent (`protocol.rs`) -/

structure TunnelConfig where
  id : Uuid
  agentId : Uuid
  name : String
  localPort : UInt16
  protocol : String
  publicPort : UInt16
  subdomain : Option String
  enabled : Bool
deriving DecidableEq, Repr

inductive AgentMessage where
  /-- Agent sends credentials to authenticate. -/
  | auth (token hostname : String)
  /-- First-time setup: request a web claim URL. -/
  | requestClaim (hostname : String)
  /-- Data transfer, in base64. -/
  | data (connId : Uuid) (payload : String)
  | closeConnection (connId : Uuid)
  | ping
deriving DecidableEq, Repr

inductive RelayMessage where
  | authSuccess (agentId : Uuid) (name token : String)
  | claimReady (code claimUrl : String) (token : Option String)
  | syncTunnels (tunnels : List TunnelConfig)
  | startTunnel (tunnel : TunnelConfig)
  | stopTunnel (tunnelId : Uuid)
  | newConnection (tunnelId connId : Uuid)
  | data (connId : Uuid) (payload : String)
  | closeConnection (connId : Uuid)
  | pong
  | error (message : String)
deriving DecidableEq, Repr

end TunnelitRelay
