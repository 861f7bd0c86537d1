import TunnelitRelay.State

namespace TunnelitRelay

open Concurrent Program Data

/-! # Starting and stopping listeners (`tunnel_manager.rs`) -/

def stopTunnelListener (tunnelId : Uuid) : Relay Unit :=
  withLock .tunnelTasks .exclusive (access (.removeTunnelTask tunnelId))

/-- The kind of socket a protocol name selects: everything but `tcp` is UDP. -/
def transportOf (protocol : String) : Transport :=
  if lower protocol = "tcp" then .tcp else .udp

def Transport.name : Transport → String
  | .tcp => "TCP"
  | .udp => "UDP"

def startTunnelListener (tunnel : TunnelConfig) (agentSender : Channel) :
    Relay (Except String Unit) := do
  access (.enterStartTunnelListener tunnel agentSender)
  -- A listener that is already running is aborted first.
  stopTunnelListener tunnel.id
  let transport := transportOf tunnel.protocol
  match ← access (.bind transport tunnel.publicPort) with
  | .ok () =>
      let handle ← access
        (.spawnProxy transport tunnel.publicPort tunnel.id tunnel.agentId agentSender)
      withLock .tunnelTasks .exclusive (access (.insertTunnelTask tunnel.id handle))
      return .ok ()
  | .error error =>
      return .error ("Failed to bind " ++ transport.name ++ " port " ++
        toString tunnel.publicPort.toNat ++ ": " ++ error)

end TunnelitRelay
