import TunnelitRelay.Admin
import TunnelitRelay.Concurrent.Sequential

namespace TunnelitRelay

open Concurrent Program

variable [Externals]

/-! # The two servers (`main.rs`)

A job is one HTTP request or one frame of a WebSocket session.  Requests are
served at any time and in any number; a session reads its next frame when it
has dealt with the last one, and none after it has hung up.
-/

inductive Job where
  | register (body : AuthRequest)
  | login (body : AuthRequest)
  | logout (headers : HeaderMap)
  | adminLogin (password : String)
  | adminBanUser (id : String) (headers : HeaderMap)
  | adminUnbanUser (id : String) (headers : HeaderMap)
  | claimAgent (code : String) (headers : HeaderMap)
  | generateAgentToken (headers : HeaderMap)
  | deleteAgent (id : String)
  | createTunnel (headers : HeaderMap) (body : CreateTunnelRequest)
  | updateTunnel (id : String) (body : UpdateTunnelRequest)
  | toggleTunnel (id : String)
  | deleteTunnel (id : String)
  | getLauncherSh (query : ScriptQuery) (headers : HeaderMap)
  | getLauncherBat (query : ScriptQuery) (headers : HeaderMap)
  | connect (session : SessionId)
  | frame (session : SessionId) (frame : Frame)
deriving DecidableEq, Repr

def accept (world : World) : Job → Option World
  | .connect session =>
      match world.sessions session with
      | some _ => none
      | none => some { world with sessions := Function.update world.sessions session (some
          { phase := .reading, busy := false, authenticatedAgentId := none, currentClaimCode := none }) }
  | .frame session _ =>
      match world.sessions session with
      | some locals =>
          if locals.phase = .reading ∧ locals.busy = false then
            some (updateSession world session ({ · with busy := true }))
          else none
      | none => none
  | _ => some world

def serve : Job → Relay Reply
  | .register body => register body
  | .login body => login body
  | .logout headers => logout headers
  | .adminLogin password => adminLogin password
  | .adminBanUser id headers => adminBanUser id headers
  | .adminUnbanUser id headers => adminUnbanUser id headers
  | .claimAgent code headers => claimAgent code headers
  | .generateAgentToken headers => generateAgentToken headers
  | .deleteAgent id => deleteAgent id
  | .createTunnel headers body => createTunnel headers body
  | .updateTunnel id body => updateTunnel id body
  | .toggleTunnel id => toggleTunnel id
  | .deleteTunnel id => deleteTunnel id
  | .getLauncherSh query headers => getLauncherSh query headers
  | .getLauncherBat query headers => getLauncherBat query headers
  | .connect _ => return .none
  | .frame session frame => do
      handleFrame session frame
      return .none

def Job.isHttp : Job → Bool
  | .connect _ | .frame .. => false
  | _ => true

abbrev relay : System relaySignature where
  State := World
  Choice := Choice
  Job := Job
  Reply := Reply
  exec := exec
  accept := accept
  program := serve
  reboot := World.reboot

/-- The configurations of a relay started on an empty database. -/
abbrev Reached (allowed : Condition relay) (portRange : UInt16 × UInt16) (config : Config relay) : Prop :=
  Reachable allowed (World.initial portRange Database.empty []) config

omit [Externals] in
theorem accept_same {world after : World} {job : Job} (admitted : accept world job = some after) :
    ∃ sessions, after = { world with sessions } := by
  unfold accept at admitted
  split at admitted
  · split at admitted
    · contradiction
    · cases admitted
      exact ⟨_, rfl⟩
  · split at admitted
    · split at admitted
      · cases admitted
        exact ⟨_, rfl⟩
      · contradiction
    · contradiction
  · cases admitted
    exact ⟨_, rfl⟩

end TunnelitRelay
