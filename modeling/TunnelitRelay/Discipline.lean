import TunnelitRelay.Server

namespace TunnelitRelay

open Concurrent Program

/-! # What the text of the handlers guarantees

Every operation of a handler is justified by what the same handler has seen
before: the channel it registers was read from somewhere, the row it starts a
listener for was returned by a query.  `discipline` states these facts once,
for each operation and each guard; it is proved by going through the handlers
and is all that later proofs use of their text.
-/

abbrev Past := List (Event relaySignature)

abbrev Held := List (Guard relaySignature)

/-- The task performed the operation and got this result. -/
def Did (past : Past) (op : Op) (result : op.Result) : Prop :=
  (⟨op, result⟩ : Event relaySignature) ∈ past

variable [Externals]

/-! ## Evidence for a channel -/

/-- The session presented the token of an agent that was already claimed. -/
def Authenticated (job : Job) (past : Past) (agent : AgentRecord) (sender : Channel) : Prop :=
  ∃ token hostname, job = .frame sender (.message (.auth token hostname)) ∧
    Did past (.db (.getAgentByToken token)) (.ok (some agent)) ∧ agent.claimCode = none

/-- The request claimed the agent and found the session waiting under the code. -/
def Confirmed (job : Job) (past : Past) (agent : AgentRecord) (sender : Channel) : Prop :=
  ∃ code headers userId, job = .claimAgent code headers ∧
    Did past (.db (.claimAgentToUser code userId)) (.ok (some agent)) ∧
    Did past (.removePendingClaim code) (some sender)

/-- The agent id is that of a row the task has seen claimed, and the channel
is that of the session which is to serve it. -/
def Entitled (job : Job) (past : Past) (agentId : Uuid) (sender : Channel) : Prop :=
  ∃ agent, parseUuid agent.id = some agentId ∧
    (Authenticated job past agent sender ∨ Confirmed job past agent sender)

/-- The channel was read from the registry under a guard that is still held. -/
def Registered (job : Job) (past : Past) (held : Held) (agentId : Uuid) (sender : Channel) : Prop :=
  job.isHttp ∧ Did past (.agentSender agentId) (some sender) ∧ (Lock.agentSenders, Mode.shared) ∈ held

/-- Where the channel of an agent comes from when a listener is started with it. -/
def Serves (job : Job) (past : Past) (held : Held) (agentId : Uuid) (sender : Channel) : Prop :=
  Entitled job past agentId sender ∨ Registered job past held agentId sender

/-! ## Evidence for a claim code -/

/-- The session's frame read an unclaimed agent, which carries the code. -/
def ReadCode (job : Job) (past : Past) (session : SessionId) (code token : String) : Prop :=
  ∃ hostname agent, job = .frame session (.message (.auth token hostname)) ∧
    Did past (.db (.getAgentByToken token)) (.ok (some agent)) ∧ agent.claimCode = some code

/-- The session's frame created an agent under the code. -/
def DrewCode (job : Job) (past : Past) (session : SessionId) (code token : String) : Prop :=
  ∃ hostname record, job = .frame session (.message (.requestClaim hostname)) ∧
    Did past (.db (.createAgentClaim hostname)) (.ok (record, code)) ∧ record.token = token

def claimReady (code token : String) : RelayMessage := .claimReady code ("/claim/" ++ code) (some token)

/-- The task has sent the session the code. -/
def Announced (past : Past) (session : SessionId) (code token : String) : Prop :=
  Did past (.send session (claimReady code token)) ()

/-! ## Other evidence -/

/-- A frame of a session performs nothing after its last operation. -/
def Live (job : Job) (past : Past) : Prop :=
  ∀ session frame, job = .frame session frame →
    ¬ Did past (.awaitFrame session) () ∧ ¬ Did past (.returnSession session) ()

/-- A request that has disabled the tunnel and has not yet stopped its listener. -/
def OwesStop (job : Job) (past : Past) (tunnelId : Uuid) : Prop :=
  ∃ id tunnel result, job = .toggleTunnel id ∧
    Did past (.db (.getTunnelById id)) (.ok (some tunnel)) ∧ parseUuid tunnel.id = some tunnelId ∧
    Did past (.db (.setTunnelEnabled id false)) result ∧ ¬ Did past (.removeTunnelTask tunnelId) ()

/-- The task has put the port into the set of allocated ports. -/
def Reserved (past : Past) (port : UInt16) : Prop :=
  Did past (.insertAllocatedPort port) () ∨ Did past (.allocatePort (some port)) (some port)

/-- The teardown has listed the tunnels of the agent its session was
authenticated as, and the row is one of them. -/
def Listed (past : Past) (session : SessionId) (row : TunnelRecord) : Prop :=
  ∃ agentId code rows, Did past (.sessionLocals session) (some agentId, code) ∧
    Did past (.db (.listTunnelsForAgent (uuidToString agentId))) (.ok rows) ∧ row ∈ rows

/-- The row was returned to the task by a query on tunnels. -/
def SawRow (past : Past) (row : TunnelRecord) : Prop :=
  (∃ id rows, Did past (.db (.listTunnelsForAgent id)) (.ok rows) ∧ row ∈ rows) ∨
    (∃ id, Did past (.db (.getTunnelById id)) (.ok (some row))) ∨
    ∃ agentId userId name localPort protocol publicPort subdomain,
      Did past (.db (.createTunnel agentId userId name localPort protocol publicPort subdomain)) (.ok row)

/-- The request has looked up the subdomain it is to write and has not found it in use. -/
def FoundFree (past : Past) (subdomain excludeId : Option String) : Prop :=
  ∀ name, subdomain = some name →
    ∃ result, Did past (.db (.isSubdomainTaken name excludeId)) result ∧ result ≠ .ok true

/-- The request has written no subdomain yet. -/
def Unwritten (past : Past) : Prop :=
  (∀ agentId userId name localPort protocol publicPort subdomain result,
    ¬ Did past (.db (.createTunnel agentId userId name localPort protocol publicPort subdomain)) result) ∧
  ∀ id name localPort protocol subdomain result,
    ¬ Did past (.db (.updateTunnel id name localPort protocol subdomain)) result

/-- The ban has stopped the listener of every row it has listed. -/
def StoppedListed (past : Past) (userId : String) : Prop :=
  ∀ result, Did past (.db (.toggleUserBan userId true)) result →
    ∃ rows, Did past (.db (.listTunnelsForUser userId)) rows ∧ ∀ row ∈ rowsOrNone rows, ∀ tunnelId,
      parseUuid row.id = some tunnelId → Did past (.removeTunnelTask tunnelId) ()

/-! ## The discipline -/

/-- The order in which guards are nested. -/
def Lock.rank : Lock → Nat
  | .agentSenders => 0
  | .db => 1
  | .pendingClaims => 2
  | .allocatedPorts => 3
  | .tunnelTasks => 4
  | .userSessions => 5
  | .adminSessions => 6
  | .tcpConnSenders => 7

/-- Everything the end of a session does, and in which order. -/
def TearsDown (session : SessionId) (past : Past) : Op → Prop
  | .abortSendTask closed => closed = session ∧ past = []
  | .sessionLocals closed => closed = session ∧ Did past (.abortSendTask session) ()
  | .removePendingClaim code => ∃ agentId, Did past (.sessionLocals session) (agentId, some code)
  | .removeAgentSender agentId => ∃ code, Did past (.sessionLocals session) (some agentId, code)
  | .db (.setAgentOnline id isOnline name) =>
      ∃ agentId code, Did past (.sessionLocals session) (some agentId, code) ∧
        id = uuidToString agentId ∧ isOnline = false ∧ name = none
  | .db (.listTunnelsForAgent id) =>
      ∃ agentId code sender, Did past (.sessionLocals session) (some agentId, code) ∧
        id = uuidToString agentId ∧ Did past (.removeAgentSender agentId) sender ∧
        ∀ tunnelId, ¬ Did past (.removeTunnelTask tunnelId) ()
  | .removeTunnelTask tunnelId =>
      ∃ row, Listed past session row ∧ parseUuid row.id = some tunnelId
  | .freePort port => ∃ row, Listed past session row ∧ row.publicPort = port
  | .returnSession closed =>
      closed = session ∧ ∃ agentId code, Did past (.sessionLocals session) (agentId, code) ∧
        (∀ code', code = some code' → ∃ sender, Did past (.removePendingClaim code') sender) ∧
        ∀ agentId', agentId = some agentId' →
          ∃ rows, Did past (.db (.listTunnelsForAgent (uuidToString agentId'))) rows ∧
            ∀ row ∈ rowsOrNone rows, ∀ tunnelId, parseUuid row.id = some tunnelId →
              Did past (.removeTunnelTask tunnelId) ()
  | _ => False

/-- Why a task other than the end of a session may perform an operation. -/
def Justified (job : Job) (past : Past) (held : Held) : Op → Prop
  | .db (.createAgentClaim hostname) =>
      past = [] ∧ ∃ session, job = .frame session (.message (.requestClaim hostname))
  | .db (.getAgentByToken token) =>
      ∃ session hostname, job = .frame session (.message (.auth token hostname))
  | .db (.claimAgentToUser code userId) =>
      ∃ headers token, job = .claimAgent code headers ∧ Did past (.userSession token) (some userId) ∧
        ∀ sender, ¬ Did past (.removePendingClaim code) sender
  | .db (.createTunnel agentId userId _ _ _ publicPort subdomain) =>
      ∃ headers body token uid user, job = .createTunnel headers body ∧
        extractToken headers = some token ∧ Did past (.userSession token) (some uid) ∧
        Did past (.db (.getUserById uid)) (.ok (some user)) ∧ user.dedicatedPort = publicPort ∧
        Did past (.allocatePort (some publicPort)) (some publicPort) ∧
        agentId = body.agentId ∧ userId = some uid ∧ subdomain = cleanSubdomain body.subdomain ∧
        FoundFree past subdomain none ∧ Unwritten past
  | .db (.updateTunnel id _ _ _ subdomain) =>
      ∃ body, job = .updateTunnel id body ∧ subdomain = cleanSubdomain body.subdomain ∧
        FoundFree past subdomain (some id) ∧ Unwritten past
  | .allocatePort _ => ∃ headers body, job = .createTunnel headers body
  | .db (.setTunnelEnabled id enabled) =>
      ∃ tunnel tunnelId, job = .toggleTunnel id ∧
        Did past (.db (.getTunnelById id)) (.ok (some tunnel)) ∧ enabled = !tunnel.enabled ∧
        parseUuid tunnel.id = some tunnelId ∧ ∀ other, ¬ Did past (.removeTunnelTask other) ()
  | .db (.deleteTunnel id) => job = .deleteTunnel id
  | .db (.deleteAgent id) => job = .deleteAgent id
  | .insertPendingClaim code sender =>
      ∃ token, (ReadCode job past sender code token ∨ DrewCode job past sender code token) ∧
        ¬ Announced past sender code token
  | .send sender (.claimReady code url token) =>
      ∃ token', .claimReady code url token = claimReady code token' ∧
        (ReadCode job past sender code token' ∨ DrewCode job past sender code token') ∧
        Did past (.insertPendingClaim code sender) ()
  | .send sender (.authSuccess agentId _ token) =>
      ∃ agent, parseUuid agent.id = some agentId ∧ agent.token = token ∧
        (Authenticated job past agent sender ∨ Confirmed job past agent sender)
  | .removePendingClaim code =>
      ∃ headers userId agent, job = .claimAgent code headers ∧
        Did past (.db (.claimAgentToUser code userId)) (.ok (some agent)) ∧
        ∀ sender, ¬ Did past (.removePendingClaim code) sender
  | .insertAgentSender agentId sender => Entitled job past agentId sender
  | .removeAgentSender agentId => ∃ id, job = .deleteAgent id ∧ parseUuid id = some agentId
  | .enterStartTunnelListener tunnel sender => Serves job past held tunnel.agentId sender ∧
      ∃ row, SawRow past row ∧ parseUuid row.id = some tunnel.id
  | .insertAllocatedPort port => (∃ id, job = .toggleTunnel id) ∨
      ∃ id rows row, Did past (.db (.listTunnelsForAgent id)) (.ok rows) ∧ row ∈ rows ∧
        row.enabled = true ∧ row.publicPort = port
  | .db (.toggleUserBan id banned) =>
      banned = true → ∀ rows, ¬ Did past (.db (.listTunnelsForUser id)) rows
  | .db (.listTunnelsForUser id) => (∃ headers, job = .adminBanUser id headers) ∧
      ∀ tunnelId, ¬ Did past (.removeTunnelTask tunnelId) ()
  | .insertTunnelTask tunnelId handle =>
      ∃ tunnel sender, Did past (.enterStartTunnelListener tunnel sender) () ∧
        tunnel.id = tunnelId ∧ Serves job past held tunnel.agentId sender ∧
        Did past (.spawnProxy (transportOf tunnel.protocol) tunnel.publicPort tunnelId
          tunnel.agentId sender) handle ∧ Reserved past tunnel.publicPort
  | .freePort _ => (∃ id headers, job = .adminBanUser id headers) ∨ (∃ id, job = .toggleTunnel id) ∨
      ∃ id, job = .deleteTunnel id
  | .send _ (.newConnection ..) | .send _ (.data ..) | .send _ (.closeConnection _) => False
  | .enqueueData connId data =>
      past = [] ∧ ∃ session payload, job = .frame session (.message (.data connId payload)) ∧
        decodeBase64 payload = some data
  | .removeConnSender connId =>
      past = [] ∧ ∃ session, job = .frame session (.message (.closeConnection connId))
  | .setAuthenticatedAgentId session _ | .setCurrentClaimCode session _ =>
      ∃ frame, job = .frame session frame
  | .awaitFrame session =>
      ∃ frame, job = .frame session frame ∧ ∀ connId payload data,
        frame = .message (.data connId payload) → decodeBase64 payload = some data →
          Did past (.enqueueData connId data) ()
  | .abortSendTask _ | .sessionLocals _ | .returnSession _ => False
  | _ => True

/-- The end of a session keeps to its own list, every other task to the general one. -/
def Permitted (job : Job) (past : Past) (held : Held) (op : Op) : Prop :=
  match job with
  | .frame session .hangup => TearsDown session past op
  | _ => Justified job past held op

theorem Permitted.general {job : Job} {past : Past} {held : Held} {op : Op}
    (permitted : Permitted job past held op) (foreign : ∀ session, ¬ TearsDown session past op) :
    Justified job past held op ∧ ∀ session, job ≠ .frame session .hangup := by
  unfold Permitted at permitted
  split at permitted
  · exact absurd permitted (foreign _)
  · rename_i other
    exact ⟨permitted, other⟩

/-- What a task may do next. -/
def discipline (job : Job) : Law relaySignature := fun past held move =>
  match move with
  | .call op => Live job past ∧ (∀ guard, op.guard = some guard → guard ∈ held) ∧
      Permitted job past held op
  | .acquire lock _ => (∀ own ∈ held, own.1.rank < lock.rank) ∧
      (lock = .agentSenders → ∀ agentId sender, ¬ Did past (.agentSender agentId) sender)
  | .release lock => lock = .db →
      ∀ session code token, DrewCode job past session code token → Announced past session code token

/-- What a task's answer tells about it. -/
def answered (job : Job) (past : Past) (held : Held) (reply : Reply) : Prop :=
  held = [] ∧ (∀ tunnelId, ¬ OwesStop job past tunnelId) ∧
    (∀ code headers, job = .claimAgent code headers → reply = .text .ok "Agent claimed successfully" →
      ∃ userId agent, Did past (.db (.claimAgentToUser code userId)) (.ok (some agent))) ∧
    ∀ id headers, job = .adminBanUser id headers → StoppedListed past id

def contract : Contract relay where
  law := discipline
  answer := answered

end TunnelitRelay
