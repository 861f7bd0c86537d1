import TunnelitRelay.WsHandler

namespace TunnelitRelay

open Concurrent Program Data

variable [Externals]

/-! # HTTP handlers (`admin.rs`) -/

def adminPassword : String := "09090912Qw_"

/-- A header value; `none` where `to_str` refuses its bytes. -/
abbrev HeaderValue := Option String

abbrev HeaderMap := List (String × HeaderValue)

def HeaderMap.get (headers : HeaderMap) (name : String) : Option HeaderValue :=
  (headers.find? (·.1 == name)).map (·.2)

def bearerToken (headers : HeaderMap) : Option String :=
  match headers.get "authorization" with
  | some (some value) => (stripPrefix "Bearer " value).map trim
  | _ => none

def extractToken (headers : HeaderMap) : Option String :=
  match bearerToken headers with
  | some token => some token
  | none =>
      match headers.get "x-session-token" with
      | some (some value) => some (trim value)
      | _ => none

inductive StatusCode where
  | ok
  | created
  | badRequest
  | unauthorized
  | forbidden
  | notFound
  | conflict
  | internalServerError
deriving DecidableEq, Repr

/-- What a job answers.  A session's frame is answered by nothing but the
messages on its channel. -/
inductive Reply where
  | none
  | status (code : StatusCode)
  | text (code : StatusCode) (message : String)
  | session (code : StatusCode) (token : String) (user : UserRecord)
  | adminSession (token : String)
  | agentToken (token id : String)
  | tunnel (record : TunnelRecord)
  | script (contentType fileName body : String)
  | panicked
deriving DecidableEq, Repr

/-- `map_err` on a database result. -/
def Failure.reply (code : StatusCode) (label : String) : Failure → Reply
  | .error text => .text code (label ++ text)
  | .panicked => .panicked

def Failure.dbError : Failure → Reply := Failure.reply .internalServerError "DB error: "

def getCurrentUserId (headers : HeaderMap) : Relay (Option String) :=
  match extractToken headers with
  | none => return none
  | some token => withLock .userSessions .shared (access (.userSession token))

def isAdmin (headers : HeaderMap) : Relay Bool :=
  match extractToken headers with
  | none => return false
  | some token => withLock .adminSessions .shared (access (.isAdminSession token))

/-! ## Auth endpoints -/

structure AuthRequest where
  username : String
  password : String
deriving DecidableEq, Repr

def userToken (id : Uuid) : String := "usr_" ++ withoutHyphens (uuidToString id)

def adminToken (id : Uuid) : String := "adm_" ++ withoutHyphens (uuidToString id)

/-- Both `register` and `login` end by issuing a session for the user. -/
def issueSession (code : StatusCode) (user : UserRecord) : Relay Reply := do
  let id ← access .newUuid
  withLock .userSessions .exclusive (access (.insertUserSession (userToken id) user.id))
  return .session code (userToken id) user

def register (body : AuthRequest) : Relay Reply :=
  if (trim body.username).utf8ByteSize < 3 then
    return .text .badRequest "Username must be at least 3 characters"
  else if body.password.utf8ByteSize < 6 then
    return .text .badRequest "Password must be at least 6 characters"
  else do
    match ← query (.registerUser (trim body.username) body.password) with
    | .ok user => issueSession .created user
    | .error failure =>
        return failure.reply .conflict "Registration failed (username might be taken): "

def login (body : AuthRequest) : Relay Reply := do
  match ← query (.verifyUser (trim body.username) body.password) with
  | .error failure => return failure.dbError
  | .ok none => return .text .unauthorized "Invalid username or password"
  | .ok (some user) =>
      if user.isBanned then return .text .forbidden "This account is suspended"
      else issueSession .ok user

def logout (headers : HeaderMap) : Relay Reply := do
  ifSome (fun token => withLock .userSessions .exclusive (access (.removeUserSession token)))
    (extractToken headers)
  return .status .ok

/-! ## Master admin endpoints -/

def adminLogin (password : String) : Relay Reply :=
  if password = adminPassword then do
    let id ← access .newUuid
    withLock .adminSessions .exclusive (access (.insertAdminSession (adminToken id)))
    return .adminSession (adminToken id)
  else return .text .unauthorized "Invalid master admin password"

def adminBanUser (id : String) (headers : HeaderMap) : Relay Reply := do
  if ← isAdmin headers then
    -- The database stays locked while the tunnels are stopped.
    withLock .db .exclusive do
      let _ ← access (.db (.toggleUserBan id true))
      let tunnels ← access (.db (.listTunnelsForUser id))
      forEach stopRow (rowsOrNone tunnels)
    return .status .ok
  else return .text .forbidden "Admin access required"

def adminUnbanUser (id : String) (headers : HeaderMap) : Relay Reply := do
  if ← isAdmin headers then
    let _ ← query (.toggleUserBan id false)
    return .status .ok
  else return .text .forbidden "Admin access required"

/-! ## Claiming an agent -/

/-- The last part of `claim_agent`: hand the credential to the waiting session. -/
def confirmClaim (agentId : Uuid) (agent : AgentRecord) (sender : Channel) : Relay Unit := do
  let _ ← query (.setAgentOnline agent.id true none)
  withLock .agentSenders .exclusive (access (.insertAgentSender agentId sender))
  access (.send sender (.authSuccess agentId agent.name agent.token))
  syncAgentTunnels agentId sender

def claimAgent (code : String) (headers : HeaderMap) : Relay Reply := do
  match ← getCurrentUserId headers with
  | none => return .text .unauthorized "Registration or login is required to link devices"
  | some currentUserId =>
      match ← query (.claimAgentToUser code currentUserId) with
      | .error (.error _) => return .text .internalServerError "Database error"
      | .error .panicked => return .panicked
      | .ok none => return .text .notFound "Invalid or expired claim code"
      | .ok (some agent) =>
          match parseUuid agent.id with
          | none => return .text .internalServerError "Invalid agent ID"
          | some agentId =>
              let waitingSender ← withLock .pendingClaims .exclusive
                (access (.removePendingClaim code))
              ifSome (confirmClaim agentId agent) waitingSender
              return .text .ok "Agent claimed successfully"

/-! ## Agents and tunnels -/

/-- The token of the user's newest agent, or of a new one.  The database is
locked by the caller. -/
def firstOrNewAgent (userId : String) (agents : List AgentRecord) :
    Relay (Except Failure AgentRecord) :=
  match agents with
  | first :: _ => return .ok first
  | [] => access (.db (.createAgentForUser userId "My Computer"))

def generateAgentToken (headers : HeaderMap) : Relay Reply := do
  match ← getCurrentUserId headers with
  | none => return .text .unauthorized "Please sign in first"
  | some userId =>
      withLock .db .exclusive do
        match ← access (.db (.listAgentsForUser userId)) with
        | .error failure => return failure.dbError
        | .ok existingAgents =>
            match ← firstOrNewAgent userId existingAgents with
            | .error failure => return failure.dbError
            | .ok agent => return .agentToken agent.token agent.id

/-- The handler does not look at the caller's headers. -/
def deleteAgent (id : String) : Relay Reply := do
  ifSome (fun agentId =>
    withLock .agentSenders .exclusive do
      let sender ← access (.removeAgentSender agentId)
      ifSome (fun sender => access (.send sender (.error "Agent deleted from dashboard"))) sender)
    (parseUuid id)
  let _ ← query (.deleteAgent id)
  return .status .ok

structure CreateTunnelRequest where
  agentId : String
  name : String
  localPort : UInt16
  protocol : String
  preferredPort : Option UInt16
  subdomain : Option String
deriving DecidableEq, Repr

/-- `as_deref().map(trim).filter(non-empty)`. -/
def cleanSubdomain (subdomain : Option String) : Option String :=
  (subdomain.map trim).filter (· != "")

/-- Whether the subdomain, if there is one, is found in use; a failing query
counts as free. -/
def subdomainTaken (subdomain excludeId : Option String) : Relay Bool :=
  match subdomain with
  | none => return false
  | some subdomain => do
      match ← query (.isSubdomainTaken subdomain excludeId) with
      | .ok taken => return taken
      | .error _ => return false

/-- The last part of `create_tunnel`. -/
def announceTunnel (agentId : Uuid) (config : TunnelConfig) : Relay Unit :=
  withLock .agentSenders .shared do
    let agentSender ← access (.agentSender agentId)
    ifSome (fun agentSender => do
      let _ ← startTunnelListener config agentSender
      access (.send agentSender (.startTunnel config))) agentSender

/-- The part of `create_tunnel` after the port has been reserved. -/
def insertTunnel (currentUid : String) (agentId : Uuid) (publicPort : UInt16)
    (body : CreateTunnelRequest) : Relay Reply := do
  match ← query (.createTunnel body.agentId (some currentUid) body.name body.localPort
      body.protocol publicPort (cleanSubdomain body.subdomain)) with
  | .error failure => return failure.dbError
  | .ok tunnelRecord =>
      match parseUuid tunnelRecord.id with
      | none => return .text .internalServerError "UUID parse error"
      | some tunnelId =>
          announceTunnel agentId
            { tunnelConfig tunnelId agentId tunnelRecord with publicPort, enabled := true }
          return .tunnel tunnelRecord

/-- The public port is the dedicated port of the caller, whatever was preferred. -/
def reservePort (currentUid : String) (agentId : Uuid) (body : CreateTunnelRequest) :
    Relay Reply := do
  match ← query (.getUserById currentUid) with
  | .error failure => return failure.dbError
  | .ok none => return .text .unauthorized "User account not found"
  | .ok (some user) =>
      match ← withLock .allocatedPorts .exclusive
          (access (.allocatePort (some user.dedicatedPort))) with
      | some port =>
          if port = user.dedicatedPort then insertTunnel currentUid agentId port body
          else return portConflict user
      | none => return portConflict user
where
  portConflict (user : UserRecord) : Reply :=
    .text .conflict ("Ваш выделенный порт :" ++ toString user.dedicatedPort.toNat ++
      " уже используется другим активным туннелем. Отключите или удалите его.")

def createTunnel (headers : HeaderMap) (body : CreateTunnelRequest) : Relay Reply := do
  match ← getCurrentUserId headers with
  | none => return .text .unauthorized "Registration or sign in is required to create tunnels"
  | some currentUid =>
      match parseUuid body.agentId with
      | none => return .text .badRequest "Invalid agent ID"
      | some agentId =>
          if ← subdomainTaken (cleanSubdomain body.subdomain) none then
            return .text .conflict ("Subdomain '" ++
              (cleanSubdomain body.subdomain).getD "" ++ "' is already in use")
          else reservePort currentUid agentId body

structure UpdateTunnelRequest where
  name : String
  localPort : UInt16
  protocol : String
  subdomain : Option String
deriving DecidableEq, Repr

/-- The last part of `update_tunnel`. -/
def resyncAgent (agentId : Uuid) : Relay Unit :=
  withLock .agentSenders .shared do
    let sender ← access (.agentSender agentId)
    ifSome (syncAgentTunnels agentId) sender

/-- The handler does not look at the caller's headers. -/
def updateTunnel (id : String) (body : UpdateTunnelRequest) : Relay Reply := do
  match ← query (.getTunnelById id) with
  | .error failure => return failure.dbError
  | .ok none => return .text .notFound "Tunnel not found"
  | .ok (some tunnel) =>
      if ← subdomainTaken (cleanSubdomain body.subdomain) (some id) then
        return .text .conflict ("Subdomain '" ++
          (cleanSubdomain body.subdomain).getD "" ++ "' is already taken")
      else
        match ← query (.updateTunnel id body.name body.localPort body.protocol
            (cleanSubdomain body.subdomain)) with
        | .error failure => return failure.dbError
        | .ok () =>
            ifSome resyncAgent (parseUuid tunnel.agentId)
            return .status .ok

/-- The part of `toggle_tunnel` after the row has been written. -/
def switchTunnel (tunnelId agentId : Uuid) (tunnel : TunnelRecord) (newEnabled : Bool) :
    Relay Unit :=
  withLock .agentSenders .shared do
    let agentSender ← access (.agentSender agentId)
    if newEnabled then
      -- The guard of the port set is held until the listener has been started.
      withLock .allocatedPorts .exclusive do
        access (.insertAllocatedPort tunnel.publicPort)
        let config := { tunnelConfig tunnelId agentId tunnel with enabled := true }
        ifSome (fun agentSender => do
          let _ ← startTunnelListener config agentSender
          access (.send agentSender (.startTunnel config))) agentSender
    else do
      stopTunnelListener tunnelId
      withLock .allocatedPorts .exclusive (access (.freePort tunnel.publicPort))
      ifSome (fun agentSender => access (.send agentSender (.stopTunnel tunnelId))) agentSender

/-- The handler does not look at the caller's headers. -/
def toggleTunnel (id : String) : Relay Reply := do
  match ← query (.getTunnelById id) with
  | .error failure => return failure.dbError
  | .ok none => return .text .notFound "Tunnel not found"
  | .ok (some tunnel) =>
      match parseUuid tunnel.id, parseUuid tunnel.agentId with
      | none, _ => return .text .internalServerError "Invalid ID"
      | some _, none => return .text .internalServerError "Invalid agent ID"
      | some tunnelId, some agentId =>
          let newEnabled := !tunnel.enabled
          let _ ← query (.setTunnelEnabled id newEnabled)
          switchTunnel tunnelId agentId tunnel newEnabled
          return .status .ok

/-- The part of `delete_tunnel` before the row is deleted. -/
def stopDeleted (tunnel : TunnelRecord) (tunnelId : Uuid) : Relay Unit := do
  stopTunnelListener tunnelId
  withLock .allocatedPorts .exclusive (access (.freePort tunnel.publicPort))
  ifSome (fun agentId =>
    withLock .agentSenders .shared do
      let sender ← access (.agentSender agentId)
      ifSome (fun sender => access (.send sender (.stopTunnel tunnelId))) sender)
    (parseUuid tunnel.agentId)

/-- The handler does not look at the caller's headers. -/
def deleteTunnel (id : String) : Relay Reply := do
  match ← query (.getTunnelById id) with
  | .error failure => return failure.dbError
  | .ok none => return .status .ok
  | .ok (some tunnel) =>
      ifSome (stopDeleted tunnel) (parseUuid tunnel.id)
      let _ ← query (.deleteTunnel id)
      return .status .ok

/-! ## One-click launchers -/

structure ScriptQuery where
  token : Option String
  session : Option String
deriving DecidableEq, Repr

def explicitToken (query : ScriptQuery) : Option String :=
  match query.token with
  | some token => if trim token ≠ "" ∧ token ≠ "YOUR_TOKEN_HERE" then some (trim token) else none
  | none => none

def scriptUser (query : ScriptQuery) (headers : HeaderMap) : Relay (Option String) :=
  match query.session with
  | some session => withLock .userSessions .shared (access (.userSession session))
  | none => getCurrentUserId headers

/-- The part of `resolve_token_for_script` that holds the database. -/
def tokenOfUser (userId : String) : Relay (Option String) :=
  withLock .db .exclusive do
    let agents ← access (.db (.listAgentsForUser userId))
    match ← firstOrNewAgent userId (rowsOrNone agents) with
    | .ok agent => return some agent.token
    | .error _ => return none

def resolveTokenForScript (query : ScriptQuery) (headers : HeaderMap) : Relay (Option String) :=
  match explicitToken query with
  | some token => return some token
  | none => do
      match ← scriptUser query headers with
      | some userId => tokenOfUser userId
      | none => return none

def tokenArg : Option String → String
  | some token => "--token \"" ++ token ++ "\""
  | none => ""

def launcherSh (tokenArg : String) : String :=
  "#!/bin/bash\nset -e\necho \"⚡ Downloading tunnelit-agent...\"\nmkdir -p \"$HOME/.tunnelit\"\n" ++
  "curl -sSL \"https://github.com/visionn1488/tunnelit-agent/releases/download/latest/tunnelit-agent-linux-amd64\" -o \"$HOME/.tunnelit/tunnelit-agent\"\n" ++
  "chmod +x \"$HOME/.tunnelit/tunnelit-agent\"\n\necho \"🚀 Starting tunnelit-agent...\"\n" ++
  "\"$HOME/.tunnelit/tunnelit-agent\" " ++ tokenArg ++ " --relay \"wss://ws.ezbchat.fun/ws\"\n"

def launcherBat (tokenArg : String) : String :=
  "@echo off\necho ⚡ Downloading tunnelit-agent for Windows...\n" ++
  "powershell -Command \"Invoke-WebRequest -Uri 'https://github.com/visionn1488/tunnelit-agent/releases/download/latest/tunnelit-agent-windows-amd64.exe' -OutFile 'tunnelit-agent.exe'\"\n" ++
  "echo 🚀 Starting tunnelit-agent...\ntunnelit-agent.exe " ++ tokenArg ++
  " --relay \"wss://ws.ezbchat.fun/ws\"\npause\n"

def getLauncherSh (query : ScriptQuery) (headers : HeaderMap) : Relay Reply := do
  let token ← resolveTokenForScript query headers
  return .script "text/x-shellscript" "launch-tunnelit.sh" (launcherSh (tokenArg token))

def getLauncherBat (query : ScriptQuery) (headers : HeaderMap) : Relay Reply := do
  let token ← resolveTokenForScript query headers
  return .script "text/plain" "launch-tunnelit.bat" (launcherBat (tokenArg token))

end TunnelitRelay
