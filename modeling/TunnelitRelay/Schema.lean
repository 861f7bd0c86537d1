import TunnelitRelay.Data.Sql
import TunnelitRelay.State

namespace TunnelitRelay

open Data

/-! # Opening the database (`init_db`)

`init_db` makes the tables that are missing and then tries to add the columns
that older versions did not have; an error of these statements is passed over.
Everything else in this development works on the rows as a `Database`; here is
how they lie in the file, and that they survive its being opened again.
-/

def textColumn (name : String) (notNull : Bool) (key : Option Key) : Column :=
  { name, affinity := .text, notNull, key, default := .null }

def integerColumn (name : String) (key : Option Key) : Column :=
  { name, affinity := .integer, notNull := true, key, default := .null }

/-- `INTEGER NOT NULL DEFAULT ..`. -/
def countColumn (name : String) (value : Int) : Column :=
  { name, affinity := .integer, notNull := true, key := none, default := .integer value }

namespace Db

def users : Table := .fresh
  [textColumn "id" false (some .primary), textColumn "username" true (some .unique),
    textColumn "password_hash" true none, integerColumn "dedicated_port" (some .unique),
    countColumn "is_banned" 0, integerColumn "created_at" none]
  []

def agents : Table := .fresh
  [textColumn "id" false (some .primary), textColumn "user_id" false none,
    textColumn "token" true (some .unique), textColumn "claim_code" false none,
    textColumn "name" true none, integerColumn "created_at" none, integerColumn "last_seen" none,
    countColumn "is_online" 0]
  [{ column := "user_id", table := "users", target := "id" }]

def tunnels : Table := .fresh
  [textColumn "id" false (some .primary), textColumn "agent_id" true none,
    textColumn "user_id" false none, textColumn "name" true none, integerColumn "local_port" none,
    textColumn "protocol" true none, integerColumn "public_port" none,
    textColumn "subdomain" false none, countColumn "enabled" 1, countColumn "bytes_in" 0,
    countColumn "bytes_out" 0, integerColumn "created_at" none]
  [{ column := "agent_id", table := "agents", target := "id" },
    { column := "user_id", table := "users", target := "id" }]

/-- The tables with the columns the statements of the program name. -/
def declared : List (String × Table) :=
  [("users", users), ("agents", agents), ("tunnels", tunnels)]

/-- The automatic migrations, in their order. -/
def migrations : List (String × Column) :=
  [("agents", textColumn "user_id" false none),
    ("tunnels", textColumn "user_id" false none),
    ("tunnels", countColumn "bytes_in" 0),
    ("tunnels", countColumn "bytes_out" 0),
    ("tunnels", { name := "name", affinity := .text, notNull := true, key := none, default := .text "Server" }),
    ("tunnels", textColumn "subdomain" false none),
    ("tunnels", countColumn "enabled" 1)]

/-- The statements are numbered in their order, the opening of the file first. -/
def initDb (refused : Nat → Option String) (file : DbFile) : Except String DbFile := do
  let conn ← statement refused 0 (.ok file)
  let conn ← statement refused 1 (.ok (conn.createIfAbsent "users" users))
  let conn ← statement refused 2 (.ok (conn.createIfAbsent "agents" agents))
  let conn ← statement refused 3 (.ok (conn.createIfAbsent "tunnels" tunnels))
  return conn.migrate refused 4 migrations

end Db

/-! ## Rows in the file -/

namespace Db

/-- What a text, an optional text or a number is stored as. -/
def optionalText : Option String → SqlValue
  | some text => .text text
  | none => .null

def getText : SqlValue → Option String
  | .text text => some text
  | _ => none

def getOptionalText : SqlValue → Option (Option String)
  | .text text => some (some text)
  | .null => some none
  | .integer _ => none

def getInteger : SqlValue → Option Int
  | .integer value => some value
  | _ => none

def getNatural : SqlValue → Option Nat
  | .integer (.ofNat value) => some value
  | _ => none

/-- A number is refused as a `u16` unless it fits. -/
def getPort (value : SqlValue) : Option UInt16 := do
  let value ← getNatural value
  if value < UInt16.size then some (.ofNat value) else none

def getCount (value : SqlValue) : Option UInt64 := do
  let value ← getNatural value
  if value < UInt64.size then some (.ofNat value) else none

/-- `row.get::<_, i64>(..)? != 0`. -/
def getFlag (value : SqlValue) : Option Bool := do
  let value ← getInteger value
  return value != 0

def storedFlag (flag : Bool) : SqlValue := .integer (if flag then 1 else 0)

def storedUser (row : UserRow) : List SqlValue :=
  [.text row.id, .text row.username, .text row.passwordHash, .integer row.dedicatedPort.toNat,
    storedFlag row.isBanned, .integer row.createdAt]

def readUser : List SqlValue → Option UserRow
  | [id, username, passwordHash, dedicatedPort, isBanned, createdAt] => do
      return {
        id := ← getText id
        username := ← getText username
        passwordHash := ← getText passwordHash
        dedicatedPort := ← getPort dedicatedPort
        isBanned := ← getFlag isBanned
        createdAt := ← getInteger createdAt }
  | _ => none

def storedAgent (row : AgentRecord) : List SqlValue :=
  [.text row.id, optionalText row.userId, .text row.token, optionalText row.claimCode, .text row.name,
    .integer row.createdAt, .integer row.lastSeen, storedFlag row.isOnline]

def readAgent : List SqlValue → Option AgentRecord
  | [id, userId, token, claimCode, name, createdAt, lastSeen, isOnline] => do
      return {
        id := ← getText id
        userId := ← getOptionalText userId
        token := ← getText token
        claimCode := ← getOptionalText claimCode
        name := ← getText name
        createdAt := ← getInteger createdAt
        lastSeen := ← getInteger lastSeen
        isOnline := ← getFlag isOnline }
  | _ => none

def storedTunnel (row : TunnelRecord) : List SqlValue :=
  [.text row.id, .text row.agentId, optionalText row.userId, .text row.name,
    .integer row.localPort.toNat, .text row.protocol, .integer row.publicPort.toNat,
    optionalText row.subdomain, storedFlag row.enabled, .integer row.bytesIn.toNat,
    .integer row.bytesOut.toNat, .integer row.createdAt]

def readTunnel : List SqlValue → Option TunnelRecord
  | [id, agentId, userId, name, localPort, protocol, publicPort, subdomain, enabled, bytesIn, bytesOut,
      createdAt] => do
      return {
        id := ← getText id
        agentId := ← getText agentId
        userId := ← getOptionalText userId
        name := ← getText name
        localPort := ← getPort localPort
        protocol := ← getText protocol
        publicPort := ← getPort publicPort
        subdomain := ← getOptionalText subdomain
        enabled := ← getFlag enabled
        bytesIn := ← getCount bytesIn
        bytesOut := ← getCount bytesOut
        createdAt := ← getInteger createdAt }
  | _ => none

@[simp] theorem getOptionalText_optionalText (text : Option String) :
    getOptionalText (optionalText text) = some text := by
  cases text <;> rfl

@[simp] theorem getFlag_storedFlag (flag : Bool) : getFlag (storedFlag flag) = some flag := by
  cases flag <;> rfl

@[simp] theorem getPort_toNat (port : UInt16) : getPort (.integer port.toNat) = some port := by
  change (if port.toNat < UInt16.size then some (UInt16.ofNat port.toNat) else none) = some port
  rw [if_pos port.toNat_lt, UInt16.ofNat_toNat]

@[simp] theorem getCount_toNat (count : UInt64) : getCount (.integer count.toNat) = some count := by
  change (if count.toNat < UInt64.size then some (UInt64.ofNat count.toNat) else none) = some count
  rw [if_pos count.toNat_lt, UInt64.ofNat_toNat]

theorem readUser_stored (row : UserRow) : readUser (storedUser row) = some row := by
  simp [readUser, storedUser, getText, getInteger]

theorem readAgent_stored (row : AgentRecord) : readAgent (storedAgent row) = some row := by
  simp [readAgent, storedAgent, getText, getInteger]

theorem readTunnel_stored (row : TunnelRecord) : readTunnel (storedTunnel row) = some row := by
  simp [readTunnel, storedTunnel, getText, getInteger]

/-! ## The database in the file -/

/-- A `SELECT` of every declared column, read into a row. -/
def selected {α : Type} (table : Table) (readRow : List SqlValue → Option α) (read : String → Option SqlValue) :
    Option α :=
  ((table.columns.map (·.name)).mapM read).bind readRow

/-- The rows of the three tables, where columns that are missing read as assumed. -/
def loadAssuming (assumed : String → String → Option SqlValue) (file : DbFile) : Option Database := do
  let userRows ← file.load assumed "users" (selected users readUser)
  let agentRows ← file.load assumed "agents" (selected agents readAgent)
  let tunnelRows ← file.load assumed "tunnels" (selected tunnels readTunnel)
  return { users := userRows, agents := agentRows, tunnels := tunnelRows }

/-- The rows as the queries read them: a column that is missing is an error. -/
def load : DbFile → Option Database := loadAssuming DbFile.strict

def storedTable {α : Type} (table : Table) (stored : α → List SqlValue)
    (width : ∀ row, (stored row).length = table.columns.length) (rows : List α) : Table where
  columns := table.columns
  references := table.references
  rows := rows.map stored
  fits := by
    intro row member
    obtain ⟨old, _, rfl⟩ := List.mem_map.mp member
    exact width old

/-- A file with the declared tables and these rows. -/
def store (db : Database) : DbFile
  | "users" => some (storedTable users storedUser (fun _ => rfl) db.users)
  | "agents" => some (storedTable agents storedAgent (fun _ => rfl) db.agents)
  | "tunnels" => some (storedTable tunnels storedTunnel (fun _ => rfl) db.tunnels)
  | _ => none

/-- The columns of a declared table have different names. -/
theorem declared_distinct : ∀ entry ∈ declared, (entry.2.columns.map fun column => lower column.name).Nodup := by
  decide +kernel

theorem load_storedTable {α : Type} {file : DbFile} {name : String} {table : Table}
    {stored : α → List SqlValue} {width : ∀ row, (stored row).length = table.columns.length}
    {readRow : List SqlValue → Option α} {rows : List α} (listed : (name, table) ∈ declared)
    (found : file name = some (storedTable table stored width rows)) (parses : ∀ row, readRow (stored row) = some row) :
    file.load DbFile.strict name (selected table readRow) = some rows := by
  have distinct := declared_distinct _ listed
  unfold DbFile.load
  rw [found]
  dsimp only [storedTable]
  have each : ∀ row ∈ rows, selected table readRow
      ((storedTable table stored width rows).read (DbFile.strict name) (stored row)) = some row := by
    intro row member
    have whole : (table.columns.map (·.name)).mapM
        ((storedTable table stored width rows).read (DbFile.strict name) (stored row)) = some (stored row) :=
      @Table.read_all (storedTable table stored width rows) distinct _ _ (List.mem_map_of_mem member)
    rw [selected, whole, Option.bind_some, parses]
  rw [List.mapM_map]
  calc rows.mapM _ = rows.mapM fun row => some row := mapM_congr each
    _ = some rows := by rw [mapM_some, List.map_id']

/-- Reading a stored database gives the database. -/
theorem load_store (db : Database) : load (store db) = some db := by
  have userRows := @load_storedTable _ (store db) "users" users _ _ _ _ (by simp [declared]) rfl readUser_stored
  have agentRows := @load_storedTable _ (store db) "agents" agents _ _ _ _ (by simp [declared]) rfl readAgent_stored
  have tunnelRows := @load_storedTable _ (store db) "tunnels" tunnels _ _ _ _ (by simp [declared]) rfl readTunnel_stored
  simp only [load, loadAssuming, userRows, agentRows, tunnelRows, Option.bind_eq_bind, Option.bind_some]
  rfl

/-! ## Opening a file -/

/-- Opening fails only where one of the first four statements is refused. -/
theorem initDb_ok {refused : Nat → Option String} {file after : DbFile} :
    initDb refused file = .ok after ↔
      (∀ number < 4, refused number = none) ∧ after = (file.createAll declared).migrate refused 4 migrations := by
  simp only [initDb, statement_bind_ok]
  constructor
  · rintro ⟨first, second, third, fourth, made⟩
    refine ⟨fun number below => ?_, (Except.ok.inj made).symm⟩
    rcases number with _ | _ | _ | _ | number
    · exact first
    · exact second
    · exact third
    · exact fourth
    · omega
  · rintro ⟨runs, rfl⟩
    exact ⟨runs 0 (by omega), runs 1 (by omega), runs 2 (by omega), runs 3 (by omega), rfl⟩

/-- The tables that are there have every declared column, but for those the migrations add. -/
def Covers (file : DbFile) : Prop :=
  ∀ entry ∈ declared, ∀ table, file entry.1 = some table → ∀ column ∈ entry.2.columns,
    table.has column.name ∨ ∃ other, (entry.1, other) ∈ migrations ∧ lower other.name = lower column.name

/-- Every table is there with every column that the statements of the program name. -/
def Usable (file : DbFile) : Prop :=
  ∀ entry ∈ declared, ∃ table, file entry.1 = some table ∧ ∀ column ∈ entry.2.columns, table.has column.name

theorem migrations_addable : ∀ change ∈ migrations, Table.Addable change.2 := by decide

theorem migrations_unambiguous : DbFile.Unambiguous migrations := by decide +kernel

/-- What is in the file when the migrations begin. -/
theorem created {file : DbFile} {entry : String × Table} (listed : entry ∈ declared) :
    file.createAll declared entry.1 = some ((file entry.1).getD entry.2) := by
  rw [DbFile.createAll_apply]
  have found : declared.find? (·.1 == entry.1) = some entry := by
    simp only [declared, List.mem_cons, List.not_mem_nil, or_false] at listed
    rcases listed with rfl | rfl | rfl <;> rfl
  cases file entry.1 <;> simp [found]

theorem usable_iff {refused : Nat → Option String} {file after : DbFile} (opened : initDb refused file = .ok after)
    (migrated : ∀ number, 4 ≤ number → refused number = none) : Usable after ↔ Covers file := by
  obtain ⟨_, rfl⟩ := initDb_ok.mp opened
  have grown := @DbFile.migrate_grown refused migrations 4 (file.createAll declared)
  constructor
  · intro usable entry listed table found column member
    obtain ⟨later, there, complete⟩ := usable entry listed
    obtain ⟨same, added, last, grows, changes⟩ := grown.kept entry.1 table (by rw [created listed, found]; rfl)
    rw [there, Option.some.injEq] at last
    subst last
    rcases grows.has.mp (complete column member) with old | ⟨other, new, named⟩
    · exact .inl old
    · exact .inr ⟨other, changes other new, named⟩
  · intro covers entry listed
    obtain ⟨later, added, there, grows, _⟩ := grown.kept entry.1 _ (created listed)
    refine ⟨later, there, fun column member => ?_⟩
    cases found : file entry.1 with
    | none =>
        rw [found] at grows
        exact grows.has.mpr (.inl ⟨column, member, rfl⟩)
    | some table =>
        rw [found] at grows
        rcases covers entry listed table found column member with old | ⟨other, change, named⟩
        · exact grows.has.mpr (.inl old)
        · obtain ⟨given, present, same⟩ := DbFile.migrate_has migrated migrations_addable change there
          exact ⟨given, present, same.trans named⟩

/-- After all migrations have been tried, opening the file again changes nothing. -/
theorem initDb_again {refused again : Nat → Option String} {file after : DbFile}
    (opened : initDb refused file = .ok after) (migrated : ∀ number, 4 ≤ number → refused number = none)
    (runs : ∀ number < 4, again number = none) : initDb again after = .ok after := by
  obtain ⟨_, made⟩ := initDb_ok.mp opened
  have grown := @DbFile.migrate_grown refused migrations 4 (file.createAll declared)
  have whole : after.createAll declared = after := by
    refine DbFile.createAll_whole fun entry listed => ?_
    obtain ⟨later, _, there, _⟩ := grown.kept entry.1 _ (created listed)
    exact ⟨later, made ▸ there⟩
  refine initDb_ok.mpr ⟨runs, ?_⟩
  rw [whole, DbFile.migrate_complete]
  intro change member table there
  rw [made] at there
  exact DbFile.migrate_has migrated migrations_addable member there

/-! ## Opening a file of this version -/

/-- Every column the migrations add is declared. -/
theorem migrations_declared : ∀ change ∈ migrations, ∃ entry ∈ declared, entry.1 = change.1 ∧
    ∃ column ∈ entry.2.columns, lower column.name = lower change.2.name := by
  decide +kernel

/-- Every declared table is there, with the columns it is declared with. -/
def Current (file : DbFile) : Prop :=
  ∀ entry ∈ declared, ∃ table, file entry.1 = some table ∧ table.columns = entry.2.columns

theorem Current.createAll {file : DbFile} (current : Current file) : file.createAll declared = file := by
  refine DbFile.createAll_whole fun entry listed => ?_
  obtain ⟨table, there, _⟩ := current entry listed
  exact ⟨table, there⟩

theorem Current.migrate {refused : Nat → Option String} {file : DbFile} (current : Current file) :
    file.migrate refused 4 migrations = file := by
  refine DbFile.migrate_complete fun change member table there => ?_
  obtain ⟨entry, listed, named, column, declares, same⟩ := migrations_declared change member
  obtain ⟨other, found, columns⟩ := current entry listed
  rw [named, there, Option.some.injEq] at found
  subst found
  exact ⟨column, columns ▸ declares, same⟩

theorem store_current (db : Database) : Current (store db) := by
  intro entry listed
  simp only [declared, List.mem_cons, List.not_mem_nil, or_false] at listed
  rcases listed with rfl | rfl | rfl
  · exact ⟨_, rfl, rfl⟩
  · exact ⟨_, rfl, rfl⟩
  · exact ⟨_, rfl, rfl⟩

theorem initDb_store {refused : Nat → Option String} (runs : ∀ number < 4, refused number = none) (db : Database) :
    initDb refused (store db) = .ok (store db) :=
  initDb_ok.mpr ⟨runs, by rw [(store_current db).createAll, (store_current db).migrate]⟩

/-- The tables made in an empty file are those of the empty database. -/
theorem createAll_empty : DbFile.createAll declared (fun _ => none) = store Database.empty := by
  funext name
  rw [DbFile.createAll_apply]
  by_cases one : name = "users"
  · subst one
    rfl
  by_cases two : name = "agents"
  · subst two
    rfl
  by_cases three : name = "tunnels"
  · subst three
    rfl
  have missing : declared.find? (·.1 == name) = none := by
    simp [declared, Ne.symm one, Ne.symm two, Ne.symm three]
  simp [missing, store]

theorem initDb_empty {refused : Nat → Option String} (runs : ∀ number < 4, refused number = none) :
    initDb refused (fun _ => none) = .ok (store Database.empty) :=
  initDb_ok.mpr ⟨runs, by rw [createAll_empty, (store_current _).migrate]⟩

end Db

/-- Opening a file of any version keeps every table with its rows and their
values, and only ever adds columns of the migrations, which hold their defaults
in the rows that are there, and tables of the program that were missing.  Where
no migration is refused, the rows read from then on are those of the old file
with the defaults in place of what it lacked; opening it once more changes
nothing; and the program's statements find all their columns if and only if the
old tables had all but the migrated ones. -/
theorem init_db_migrates {refused : Nat → Option String} {file after : DbFile}
    (opened : Db.initDb refused file = .ok after) :
    (∀ name table, file name = some table → ∃ later added, after name = some later ∧
      table.Grown later added ∧ ∀ column ∈ added, (name, column) ∈ Db.migrations) ∧
    (∀ name, file name = none → name ∉ Db.declared.map (·.1) → after name = none) ∧
    ((∀ number, 4 ≤ number → refused number = none) →
      Db.load after = Db.loadAssuming (DbFile.defaults Db.migrations) file ∧
      (∀ again : Nat → Option String, (∀ number < 4, again number = none) →
        Db.initDb again after = .ok after) ∧
      (Db.Usable after ↔ Db.Covers file)) := by
  obtain ⟨_, made⟩ := Db.initDb_ok.mp opened
  have grown := @DbFile.migrate_grown refused Db.migrations 4 (file.createAll Db.declared)
  rw [← made] at grown
  refine ⟨?_, ?_, fun migrated => ⟨?_, fun again runs => Db.initDb_again opened migrated runs,
    Db.usable_iff opened migrated⟩⟩
  · intro name table found
    exact grown.kept name table (by rw [DbFile.createAll_apply, found]; rfl)
  · intro name absent undeclared
    refine grown.none name ?_
    have missing : Db.declared.find? (·.1 == name) = none := by
      refine List.find?_eq_none.mpr fun entry member same => undeclared ?_
      exact List.mem_map.mpr ⟨entry, member, by simpa using same⟩
    rw [DbFile.createAll_apply, absent, missing]
    rfl
  · have empty : ∀ entry ∈ Db.declared, entry.2.rows = [] := by
      simp [Db.declared, Db.users, Db.agents, Db.tunnels, Table.fresh]
    simp only [Db.load, Db.loadAssuming, made,
      DbFile.migrate_load migrated Db.migrations_addable Db.migrations_unambiguous, DbFile.createAll_load empty]

/-- A file of a version that knew neither users nor subdomains, with one tunnel. -/
def oldFile : DbFile
  | "tunnels" => some {
      columns := [textColumn "ID" false (some .primary), textColumn "agent_id" true none,
        integerColumn "local_port" none, textColumn "protocol" true none, integerColumn "public_port" none,
        integerColumn "created_at" none]
      references := []
      rows := [[.text "t", .text "a", .integer 80, .text "tcp", .integer 10001, .integer 7]]
      fits := by simp }
  | _ => none

/-- The tunnel of the old file is called a server and is enabled. -/
theorem init_db_migrates_old : ∃ after, Db.initDb (fun _ => none) oldFile = .ok after ∧
    Db.load after = some {
      users := []
      agents := []
      tunnels := [{
        id := "t", agentId := "a", userId := none, name := "Server", localPort := 80, protocol := "tcp",
        publicPort := 10001, subdomain := none, enabled := true, bytesIn := 0, bytesOut := 0, createdAt := 7 }] } := by
  have opened : Db.initDb (fun _ => none) oldFile =
      .ok ((oldFile.createAll Db.declared).migrate (fun _ => none) 4 Db.migrations) :=
    Db.initDb_ok.mpr ⟨fun _ _ => rfl, rfl⟩
  refine ⟨_, opened, ?_⟩
  rw [((init_db_migrates opened).2.2 fun _ _ => rfl).1]
  decide +kernel

end TunnelitRelay
