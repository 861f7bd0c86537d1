import Mathlib.Data.Finset.Basic
import Mathlib.Logic.Function.Basic
import TunnelitRelay.Concurrent.Program
import TunnelitRelay.Db
import TunnelitRelay.Protocol

namespace TunnelitRelay

open Concurrent

/-! # Shared state (`state.rs`)

Every access to a field of `AppState` is one operation; `exec` gives its
effect.  The process around the state is kept beside it: the local variables
of each WebSocket session, everything handed to its channel, and the random
identifiers drawn so far.
-/

/-- A session is named by the order of its connection; it creates one channel,
which is named like it. -/
abbrev SessionId := Nat

abbrev Channel := SessionId

inductive Transport where
  | tcp
  | udp
deriving DecidableEq, Repr

/-- The handle of a spawned proxy task, with what the task was spawned with. -/
structure JoinHandle where
  task : Nat
  transport : Transport
  port : UInt16
  sender : Channel
deriving DecidableEq, Repr

structure AppState where
  db : Database
  portRange : UInt16 × UInt16
  allocatedPorts : Finset UInt16
  userSessions : String → Option String
  adminSessions : String → Bool
  agentSenders : Uuid → Option Channel
  pendingClaims : String → Option Channel
  tcpConnSenders : Uuid → Bool
  tunnelTasks : Uuid → Option JoinHandle

inductive Phase where
  | reading
  | closing
  | returned
deriving DecidableEq, Repr

/-- The local variables of `handle_socket`. -/
structure Session where
  phase : Phase
  busy : Bool
  authenticatedAgentId : Option Uuid
  currentClaimCode : Option String
deriving DecidableEq, Repr

/-- The relay process: its shared state, its sessions, the messages handed to
each channel (oldest first), the payloads queued for each connection, the
identifiers drawn and the number of proxy tasks spawned. -/
structure World extends AppState where
  sessions : SessionId → Option Session
  sent : Channel → List RelayMessage
  queued : Uuid → List (List UInt8)
  drawn : List Uuid
  spawned : Nat

def World.initial (portRange : UInt16 × UInt16) (db : Database) (drawn : List Uuid) : World where
  db := db
  portRange := portRange
  allocatedPorts := ∅
  userSessions := fun _ => none
  adminSessions := fun _ => false
  agentSenders := fun _ => none
  pendingClaims := fun _ => none
  tcpConnSenders := fun _ => false
  tunnelTasks := fun _ => none
  sessions := fun _ => none
  sent := fun _ => []
  queued := fun _ => []
  drawn := drawn
  spawned := 0

/-- A restart of the process keeps the database and nothing else. -/
def World.reboot (world : World) : World :=
  World.initial world.portRange world.db world.drawn

/-! ## Database calls -/

/-- The calls of `db.rs`. -/
inductive Query where
  | registerUser (username password : String)
  | verifyUser (username password : String)
  | getUserById (id : String)
  | toggleUserBan (id : String) (banned : Bool)
  | createAgentClaim (name : String)
  | createAgentForUser (userId name : String)
  | claimAgentToUser (code userId : String)
  | getAgentByToken (token : String)
  | setAgentOnline (id : String) (isOnline : Bool) (name : Option String)
  | listAgentsForUser (userId : String)
  | deleteAgent (id : String)
  | createTunnel (agentId : String) (userId : Option String) (name : String) (localPort : UInt16)
      (protocol : String) (publicPort : UInt16) (subdomain : Option String)
  | listTunnelsForUser (userId : String)
  | listTunnelsForAgent (agentId : String)
  | getTunnelById (id : String)
  | setTunnelEnabled (id : String) (enabled : Bool)
  | updateTunnel (id name : String) (localPort : UInt16) (protocol : String)
      (subdomain : Option String)
  | isSubdomainTaken (subdomain : String) (excludeId : Option String)
  | deleteTunnel (id : String)
deriving DecidableEq, Repr

@[reducible] def Query.Value : Query → Type
  | .registerUser .. => UserRecord
  | .verifyUser .. => Option UserRecord
  | .getUserById .. => Option UserRecord
  | .toggleUserBan .. => Unit
  | .createAgentClaim .. => AgentRecord × String
  | .createAgentForUser .. => AgentRecord
  | .claimAgentToUser .. => Option AgentRecord
  | .getAgentByToken .. => Option AgentRecord
  | .setAgentOnline .. => Unit
  | .listAgentsForUser .. => List AgentRecord
  | .deleteAgent .. => Unit
  | .createTunnel .. => TunnelRecord
  | .listTunnelsForUser .. => List TunnelRecord
  | .listTunnelsForAgent .. => List TunnelRecord
  | .getTunnelById .. => Option TunnelRecord
  | .setTunnelEnabled .. => Unit
  | .updateTunnel .. => Unit
  | .isSubdomainTaken .. => Bool
  | .deleteTunnel .. => Unit

def Query.run [Externals] (choice : Choice) (portRange : UInt16 × UInt16) (db : Database) :
    (query : Query) → Database × Except Failure query.Value
  | .registerUser username password => Db.registerUser choice portRange db username password
  | .verifyUser username password => (db, Db.verifyUser choice db username password)
  | .getUserById id => (db, Db.getUserById choice db id)
  | .toggleUserBan id banned => Db.toggleUserBan choice db id banned
  | .createAgentClaim name => Db.createAgentClaim choice db name
  | .createAgentForUser userId name => Db.createAgentForUser choice db userId name
  | .claimAgentToUser code userId => Db.claimAgentToUser choice db code userId
  | .getAgentByToken token => (db, Db.getAgentByToken choice db token)
  | .setAgentOnline id isOnline name => Db.setAgentOnline choice db id isOnline name
  | .listAgentsForUser userId => (db, Db.listAgentsForUser choice db userId)
  | .deleteAgent id => Db.deleteAgent choice db id
  | .createTunnel agentId userId name localPort protocol publicPort subdomain =>
      Db.createTunnel choice db agentId userId name localPort protocol publicPort subdomain
  | .listTunnelsForUser userId => (db, Db.listTunnelsForUser choice db userId)
  | .listTunnelsForAgent agentId => (db, Db.listTunnelsForAgent choice db agentId)
  | .getTunnelById id => (db, Db.getTunnelById choice db id)
  | .setTunnelEnabled id enabled => Db.setTunnelEnabled choice db id enabled
  | .updateTunnel id name localPort protocol subdomain =>
      Db.updateTunnel choice db id name localPort protocol subdomain
  | .isSubdomainTaken subdomain excludeId => (db, Db.isSubdomainTaken choice db subdomain excludeId)
  | .deleteTunnel id => Db.deleteTunnel choice db id

/-- The identifiers a call draws from `Uuid::new_v4`. -/
def Query.draws (choice : Choice) : Query → List Uuid
  | .registerUser .. => [choice.id]
  | .createAgentClaim .. => [choice.id, choice.token]
  | .createAgentForUser .. => [choice.id, choice.token]
  | .createTunnel .. => [choice.id]
  | _ => []

/-! ## Operations -/

inductive Lock where
  | db
  | allocatedPorts
  | userSessions
  | adminSessions
  | agentSenders
  | pendingClaims
  | tcpConnSenders
  | tunnelTasks
deriving DecidableEq, Repr

inductive Op where
  | db (query : Query)
  | userSession (token : String)
  | insertUserSession (token userId : String)
  | removeUserSession (token : String)
  | isAdminSession (token : String)
  | insertAdminSession (token : String)
  /-- `Uuid::new_v4` for a session token. -/
  | newUuid
  | agentSender (agentId : Uuid)
  | insertAgentSender (agentId : Uuid) (sender : Channel)
  | removeAgentSender (agentId : Uuid)
  | insertPendingClaim (code : String) (sender : Channel)
  | removePendingClaim (code : String)
  | allocatePort (preferred : Option UInt16)
  | insertAllocatedPort (port : UInt16)
  | freePort (port : UInt16)
  /-- Entry of `start_tunnel_listener`; it has no effect of its own. -/
  | enterStartTunnelListener (tunnel : TunnelConfig) (sender : Channel)
  /-- `tasks.remove` followed by `abort`. -/
  | removeTunnelTask (tunnelId : Uuid)
  | bind (transport : Transport) (port : UInt16)
  | spawnProxy (transport : Transport) (port : UInt16) (tunnelId agentId : Uuid) (sender : Channel)
  | insertTunnelTask (tunnelId : Uuid) (handle : JoinHandle)
  | send (sender : Channel) (message : RelayMessage)
  | enqueueData (connId : Uuid) (data : List UInt8)
  | removeConnSender (connId : Uuid)
  | sessionLocals (session : SessionId)
  | setAuthenticatedAgentId (session : SessionId) (agentId : Uuid)
  | setCurrentClaimCode (session : SessionId) (code : String)
  | abortSendTask (session : SessionId)
  /-- The session waits for its next frame. -/
  | awaitFrame (session : SessionId)
  /-- `handle_socket` returns. -/
  | returnSession (session : SessionId)
deriving DecidableEq, Repr

@[reducible] def Op.Result : Op → Type
  | .db query => Except Failure query.Value
  | .userSession _ => Option String
  | .isAdminSession _ => Bool
  | .newUuid => Uuid
  | .agentSender _ => Option Channel
  | .removeAgentSender _ => Option Channel
  | .removePendingClaim _ => Option Channel
  | .allocatePort _ => Option UInt16
  | .bind .. => Except String Unit
  | .spawnProxy .. => JoinHandle
  | .sessionLocals _ => Option Uuid × Option String
  | _ => Unit

/-- The lock that protects what an operation accesses. -/
def Op.guard : Op → Option (Lock × Mode)
  | .db _ => some (.db, .exclusive)
  | .userSession _ => some (.userSessions, .shared)
  | .insertUserSession .. | .removeUserSession _ => some (.userSessions, .exclusive)
  | .isAdminSession _ => some (.adminSessions, .shared)
  | .insertAdminSession _ => some (.adminSessions, .exclusive)
  | .agentSender _ => some (.agentSenders, .shared)
  | .insertAgentSender .. | .removeAgentSender _ => some (.agentSenders, .exclusive)
  | .insertPendingClaim .. | .removePendingClaim _ => some (.pendingClaims, .exclusive)
  | .allocatePort _ | .insertAllocatedPort _ | .freePort _ => some (.allocatedPorts, .exclusive)
  | .removeTunnelTask _ | .insertTunnelTask .. => some (.tunnelTasks, .exclusive)
  | .enqueueData .. => some (.tcpConnSenders, .shared)
  | .removeConnSender _ => some (.tcpConnSenders, .exclusive)
  | _ => none

abbrev relaySignature : Signature where
  Op := Op
  Result := Op.Result
  Lock := Lock

abbrev Relay := Program relaySignature

/-- A single operation; the guard that protects it is taken by the caller. -/
abbrev access (op : Op) : Relay op.Result := @Program.perform relaySignature op

/-- A block that holds the guard of one lock. -/
abbrev withLock (lock : Lock) (mode : Mode) (body : Relay α) : Relay α :=
  @Program.guarded relaySignature α lock mode body

theorem access_avoids {restricted : Op → Prop} {op : Op} (free : ¬ restricted op) :
    (access op).Avoids restricted :=
  Program.avoids_perform.mpr free

/-- `AppState::allocate_port`. -/
def AppState.allocatePort (state : AppState) : Option UInt16 → Option UInt16
  | some port => if 1024 ≤ port ∧ port ∉ state.allocatedPorts then some port else none
  | none =>
      ((List.range' state.portRange.1.toNat
        (state.portRange.2.toNat + 1 - state.portRange.1.toNat)).map UInt16.ofNat).find?
          (· ∉ state.allocatedPorts)

def updateSession (world : World) (session : SessionId) (change : Session → Session) : World :=
  { world with sessions := Function.update world.sessions session ((world.sessions session).map change) }

/-- The effect of one operation.  An identifier drawn at random has never been
drawn before; every other choice of the environment is possible. -/
def exec [Externals] (world : World) (choice : Choice) : (op : Op) → Option (World × op.Result)
  | .db query =>
      if (query.draws choice).Nodup ∧ (query.draws choice).all (· ∉ world.drawn) then
        let (db, result) := query.run choice world.portRange world.db
        some ({ world with db, drawn := query.draws choice ++ world.drawn }, result)
      else none
  | .userSession token => some (world, world.userSessions token)
  | .insertUserSession token userId =>
      some ({ world with userSessions := Function.update world.userSessions token (some userId) }, ())
  | .removeUserSession token =>
      some ({ world with userSessions := Function.update world.userSessions token none }, ())
  | .isAdminSession token => some (world, world.adminSessions token)
  | .insertAdminSession token =>
      some ({ world with adminSessions := Function.update world.adminSessions token true }, ())
  | .newUuid =>
      if choice.token ∈ world.drawn then none
      else some ({ world with drawn := choice.token :: world.drawn }, choice.token)
  | .agentSender agentId => some (world, world.agentSenders agentId)
  | .insertAgentSender agentId sender =>
      some ({ world with agentSenders := Function.update world.agentSenders agentId (some sender) }, ())
  | .removeAgentSender agentId =>
      some ({ world with agentSenders := Function.update world.agentSenders agentId none },
        world.agentSenders agentId)
  | .insertPendingClaim code sender =>
      some ({ world with pendingClaims := Function.update world.pendingClaims code (some sender) }, ())
  | .removePendingClaim code =>
      some ({ world with pendingClaims := Function.update world.pendingClaims code none },
        world.pendingClaims code)
  | .allocatePort preferred =>
      match world.allocatePort preferred with
      | some port => some ({ world with allocatedPorts := insert port world.allocatedPorts }, some port)
      | none => some (world, none)
  | .insertAllocatedPort port =>
      some ({ world with allocatedPorts := insert port world.allocatedPorts }, ())
  | .freePort port => some ({ world with allocatedPorts := world.allocatedPorts.erase port }, ())
  | .enterStartTunnelListener .. => some (world, ())
  | .removeTunnelTask tunnelId =>
      some ({ world with tunnelTasks := Function.update world.tunnelTasks tunnelId none }, ())
  | .bind .. =>
      match choice.bindError with
      | some error => some (world, .error error)
      | none => some (world, .ok ())
  | .spawnProxy transport port _ _ sender =>
      some ({ world with spawned := world.spawned + 1 },
        { task := world.spawned, transport, port, sender })
  | .insertTunnelTask tunnelId handle =>
      some ({ world with tunnelTasks := Function.update world.tunnelTasks tunnelId (some handle) }, ())
  | .send sender message =>
      some ({ world with sent := Function.update world.sent sender (world.sent sender ++ [message]) }, ())
  | .enqueueData connId data =>
      if world.tcpConnSenders connId then
        some ({ world with queued := Function.update world.queued connId (world.queued connId ++ [data]) }, ())
      else some (world, ())
  | .removeConnSender connId =>
      some ({ world with tcpConnSenders := Function.update world.tcpConnSenders connId false }, ())
  | .sessionLocals session =>
      match world.sessions session with
      | some locals => some (world, (locals.authenticatedAgentId, locals.currentClaimCode))
      | none => none
  | .setAuthenticatedAgentId session agentId =>
      some (updateSession world session ({ · with authenticatedAgentId := some agentId }), ())
  | .setCurrentClaimCode session code =>
      some (updateSession world session ({ · with currentClaimCode := some code }), ())
  | .abortSendTask session =>
      some (updateSession world session ({ · with phase := .closing }), ())
  | .awaitFrame session => some (updateSession world session ({ · with busy := false }), ())
  | .returnSession session => some (updateSession world session ({ · with phase := .returned }), ())

end TunnelitRelay
