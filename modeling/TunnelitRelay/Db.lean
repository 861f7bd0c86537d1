import Mathlib.Data.List.Sort
import TunnelitRelay.Data.Text
import TunnelitRelay.Externals

namespace TunnelitRelay

open Data

/-! # The database (`db.rs`)

The tables are lists of rows in the order of insertion, which is the order in
which a query without `ORDER BY` scans them.  The schema is the one `init_db`
creates in an empty file: primary keys and `UNIQUE` columns are checked, and so
are the declared foreign keys, as the bundled build of SQLite does.
-/

structure UserRecord where
  id : String
  username : String
  dedicatedPort : UInt16
  isBanned : Bool
  createdAt : Int
deriving DecidableEq, Repr

/-- A row of `users`; the password hash is the one column no record carries. -/
structure UserRow extends UserRecord where
  passwordHash : String
deriving DecidableEq, Repr

structure AgentRecord where
  id : String
  userId : Option String
  token : String
  claimCode : Option String
  name : String
  createdAt : Int
  lastSeen : Int
  isOnline : Bool
deriving DecidableEq, Repr

structure TunnelRecord where
  id : String
  agentId : String
  userId : Option String
  name : String
  localPort : UInt16
  protocol : String
  publicPort : UInt16
  subdomain : Option String
  enabled : Bool
  bytesIn : UInt64
  bytesOut : UInt64
  createdAt : Int
deriving DecidableEq, Repr

structure Database where
  users : List UserRow
  agents : List AgentRecord
  tunnels : List TunnelRecord
deriving DecidableEq, Repr

/-- The database `init_db` creates in an empty file. -/
def Database.empty : Database := { users := [], agents := [], tunnels := [] }

/-- How a database function fails: with an error of the driver, or by a panic. -/
inductive Failure where
  | error (text : String)
  | panicked
deriving DecidableEq, Repr

/-- A statement the database refuses to run, with the driver's message.  The
statements of a function are numbered in the order of its text; the repeated
queries of the port generator come after all others. -/
structure Fault where
  statement : Nat
  text : String
deriving DecidableEq, Repr

/-- What the environment decides while one operation runs: the clock, the
random values, whether a statement is refused and whether a socket is bound
(the operating system's message, if not). -/
structure Choice where
  fault : Option Fault
  now : Int
  id : Uuid
  token : Uuid
  code : Nat
  ports : Nat → Nat
  bindError : Option String

def Choice.refuses (choice : Choice) (statement : Nat) : Option Failure :=
  match choice.fault with
  | some fault => if fault.statement = statement then some (.error fault.text) else none
  | none => none

/-- One statement: it is refused, or it runs. -/
def Choice.statement (choice : Choice) (number : Nat) (run : Except Failure α) : Except Failure α :=
  match choice.refuses number with
  | some failure => .error failure
  | none => run

/-- A statement that writes: a failing statement leaves the tables as they were. -/
def Database.write (db : Database) (written : Except Failure Database) (value : α) :
    Database × Except Failure α :=
  match written with
  | .ok after => (after, .ok value)
  | .error failure => (db, .error failure)

namespace Db

/-! ## Users -/

def hashPassword [Externals] (password : String) : String :=
  lowerHex (defaultHash ("salt_090909_" ++ password)).toNat

/-- The sequential search of the port generator, over the ports still to be tried. -/
def fallbackPort (choice : Choice) (db : Database) : List UInt16 → Except Failure UInt16
  | [] => .error (.error "Query returned no rows")
  | port :: rest => do
      let count ← choice.statement (1001 + port.toNat)
        (.ok (db.users.countP fun user => user.dedicatedPort == port))
      if count = 0 then .ok port else fallbackPort choice db rest

/-- The random phase of the port generator with `attempts` left of `1000`.
The release build wraps `u16` arithmetic and panics on a zero divisor. -/
def randomPort (choice : Choice) (db : Database) (portRange : UInt16 × UInt16) :
    Nat → Except Failure UInt16
  | 0 => fallbackPort choice db
      ((List.range' portRange.1.toNat (portRange.2.toNat + 1 - portRange.1.toNat)).map UInt16.ofNat)
  | attempts + 1 => do
      let modulus := (portRange.2 - portRange.1).toNat
      if modulus = 0 then .error .panicked
      else
        let port := UInt16.ofNat (choice.ports (999 - attempts) % modulus) + portRange.1
        let count ← choice.statement (1 + (999 - attempts))
          (.ok (db.users.countP fun user => user.dedicatedPort == port))
        if count = 0 then .ok port else randomPort choice db portRange attempts

def generateUniqueDedicatedPort (choice : Choice) (db : Database) (portRange : UInt16 × UInt16) :
    Except Failure UInt16 :=
  randomPort choice db portRange 1000

def insertUser (db : Database) (row : UserRow) : Except Failure Database :=
  if db.users.any (·.id == row.id) then .error (.error "UNIQUE constraint failed: users.id")
  else if db.users.any (·.username == row.username) then
    .error (.error "UNIQUE constraint failed: users.username")
  else if db.users.any (·.dedicatedPort == row.dedicatedPort) then
    .error (.error "UNIQUE constraint failed: users.dedicated_port")
  else .ok { db with users := db.users ++ [row] }

def registerUser [Externals] (choice : Choice) (portRange : UInt16 × UInt16) (db : Database)
    (username password : String) : Database × Except Failure UserRecord :=
  match generateUniqueDedicatedPort choice db portRange with
  | .error failure => (db, .error failure)
  | .ok dedicatedPort =>
      let record : UserRecord :=
        { id := uuidToString choice.id, username, dedicatedPort, isBanned := false, createdAt := choice.now }
      db.write (choice.statement 0 (insertUser db { record with passwordHash := hashPassword password })) record

def verifyUser [Externals] (choice : Choice) (db : Database) (username password : String) :
    Except Failure (Option UserRecord) :=
  choice.statement 0 (.ok ((db.users.find? fun user =>
    user.username == username && user.passwordHash == hashPassword password).map (·.toUserRecord)))

def getUserById (choice : Choice) (db : Database) (id : String) : Except Failure (Option UserRecord) :=
  choice.statement 0 (.ok ((db.users.find? (·.id == id)).map (·.toUserRecord)))

def toggleUserBan (choice : Choice) (db : Database) (id : String) (banned : Bool) :
    Database × Except Failure Unit :=
  db.write (choice.statement 0 (.ok { db with
    users := db.users.map fun user => if user.id == id then { user with isBanned := banned } else user })) ()

/-! ## Agents -/

/-- A foreign key into `users`; `NULL` refers to nothing. -/
def userExists (db : Database) : Option String → Bool
  | some id => db.users.any (·.id == id)
  | none => true

def insertAgent (db : Database) (row : AgentRecord) : Except Failure Database :=
  if db.agents.any (·.id == row.id) then .error (.error "UNIQUE constraint failed: agents.id")
  else if db.agents.any (·.token == row.token) then
    .error (.error "UNIQUE constraint failed: agents.token")
  else if userExists db row.userId then .ok { db with agents := db.agents ++ [row] }
  else .error (.error "FOREIGN KEY constraint failed")

def agentToken [Externals] (choice : Choice) : String :=
  "tk_" ++ withoutHyphens (uuidToString choice.token)

def createAgentClaim [Externals] (choice : Choice) (db : Database) (name : String) :
    Database × Except Failure (AgentRecord × String) :=
  let claimCode := sixDigits (choice.code % 1000000)
  let record : AgentRecord :=
    { id := uuidToString choice.id, userId := none, token := agentToken choice,
      claimCode := some claimCode, name, createdAt := choice.now, lastSeen := choice.now,
      isOnline := false }
  db.write (choice.statement 0 (insertAgent db record)) (record, claimCode)

def createAgentForUser [Externals] (choice : Choice) (db : Database) (userId name : String) :
    Database × Except Failure AgentRecord :=
  let record : AgentRecord :=
    { id := uuidToString choice.id, userId := some userId, token := agentToken choice,
      claimCode := none, name, createdAt := choice.now, lastSeen := choice.now, isOnline := false }
  db.write (choice.statement 0 (insertAgent db record)) record

/-- `UPDATE agents SET claim_code = NULL, user_id = ?1 WHERE id = ?2`. -/
def setAgentOwner (db : Database) (id userId : String) : Except Failure Database :=
  if userExists db (some userId) then
    .ok { db with agents := db.agents.map fun agent =>
      if agent.id == id then { agent with claimCode := none, userId := some userId } else agent }
  else .error (.error "FOREIGN KEY constraint failed")

/-- The first row carrying the code is taken; the record returned already
names the new owner but still the old code. -/
def claimAgentToUser (choice : Choice) (db : Database) (code userId : String) :
    Database × Except Failure (Option AgentRecord) :=
  match choice.statement 0 (.ok (db.agents.find? (·.claimCode == some code))) with
  | .error failure => (db, .error failure)
  | .ok none => (db, .ok none)
  | .ok (some row) =>
      db.write (choice.statement 1 (setAgentOwner db row.id userId))
        (some { row with userId := some userId })

def getAgentByToken (choice : Choice) (db : Database) (token : String) :
    Except Failure (Option AgentRecord) :=
  choice.statement 0 (.ok (db.agents.find? (·.token == token)))

def setAgentOnline (choice : Choice) (db : Database) (id : String) (isOnline : Bool)
    (name : Option String) : Database × Except Failure Unit :=
  db.write (choice.statement 0 (.ok { db with agents := db.agents.map fun agent =>
    if agent.id == id then
      { agent with isOnline, lastSeen := choice.now, name := name.getD agent.name }
    else agent })) ()

def newestFirst (agents : List AgentRecord) : List AgentRecord :=
  agents.insertionSort fun left right => right.createdAt ≤ left.createdAt

def listAgentsForUser (choice : Choice) (db : Database) (userId : String) :
    Except Failure (List AgentRecord) :=
  choice.statement 0 (.ok (newestFirst (db.agents.filter (·.userId == some userId))))

/-- Deleting a row of `agents` also deletes the tunnels that refer to it. -/
def deleteAgent (choice : Choice) (db : Database) (id : String) : Database × Except Failure Unit :=
  let tunnels := db.tunnels.filter (·.agentId != id)
  match choice.statement 0 (.ok { db with tunnels }) with
  | .error failure => (db, .error failure)
  | .ok db => db.write (choice.statement 1 (.ok { db with agents := db.agents.filter (·.id != id), tunnels })) ()

/-! ## Tunnels -/

def insertTunnel (db : Database) (row : TunnelRecord) : Except Failure Database :=
  if db.tunnels.any (·.id == row.id) then .error (.error "UNIQUE constraint failed: tunnels.id")
  else if db.agents.any (·.id == row.agentId) && userExists db row.userId then
    .ok { db with tunnels := db.tunnels ++ [row] }
  else .error (.error "FOREIGN KEY constraint failed")

def createTunnel [Externals] (choice : Choice) (db : Database) (agentId : String)
    (userId : Option String) (name : String) (localPort : UInt16) (protocol : String)
    (publicPort : UInt16) (subdomain : Option String) : Database × Except Failure TunnelRecord :=
  let record : TunnelRecord :=
    { id := uuidToString choice.id, agentId, userId, name, localPort, protocol, publicPort,
      subdomain, enabled := true, bytesIn := 0, bytesOut := 0, createdAt := choice.now }
  db.write (choice.statement 0 (insertTunnel db record)) record

def oldestFirst (tunnels : List TunnelRecord) : List TunnelRecord :=
  tunnels.insertionSort fun left right => left.createdAt ≤ right.createdAt

def listTunnelsForUser (choice : Choice) (db : Database) (userId : String) :
    Except Failure (List TunnelRecord) :=
  choice.statement 0 (.ok (oldestFirst (db.tunnels.filter (·.userId == some userId))))

def listTunnelsForAgent (choice : Choice) (db : Database) (agentId : String) :
    Except Failure (List TunnelRecord) :=
  choice.statement 0 (.ok (oldestFirst (db.tunnels.filter (·.agentId == agentId))))

def getTunnelById (choice : Choice) (db : Database) (id : String) :
    Except Failure (Option TunnelRecord) :=
  choice.statement 0 (.ok (db.tunnels.find? (·.id == id)))

def setTunnelEnabled (choice : Choice) (db : Database) (id : String) (enabled : Bool) :
    Database × Except Failure Unit :=
  db.write (choice.statement 0 (.ok { db with tunnels := db.tunnels.map fun tunnel =>
    if tunnel.id == id then { tunnel with enabled } else tunnel })) ()

def updateTunnel (choice : Choice) (db : Database) (id name : String) (localPort : UInt16)
    (protocol : String) (subdomain : Option String) : Database × Except Failure Unit :=
  db.write (choice.statement 0 (.ok { db with tunnels := db.tunnels.map fun tunnel =>
    if tunnel.id == id then { tunnel with name, localPort, protocol, subdomain } else tunnel })) ()

/-- A row whose `subdomain` is `NULL` never counts: `NULL` compares with nothing. -/
def isSubdomainTaken (choice : Choice) (db : Database) (subdomain : String)
    (excludeId : Option String) : Except Failure Bool :=
  choice.statement 0 (.ok (0 < db.tunnels.countP fun tunnel =>
    tunnel.subdomain.map lower == some (lower subdomain) && excludeId != some tunnel.id))

def deleteTunnel (choice : Choice) (db : Database) (id : String) : Database × Except Failure Unit :=
  db.write (choice.statement 0 (.ok { db with tunnels := db.tunnels.filter (·.id != id) })) ()

end Db

end TunnelitRelay
