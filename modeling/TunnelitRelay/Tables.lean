import TunnelitRelay.State

namespace TunnelitRelay

/-! # What a database call can do

`Change` lists every way in which one call can leave the tables.  A call that
fails leaves them unchanged, except that `delete_agent` may have deleted the
tunnels before its second statement fails.
-/

/-! ## Writing statements -/

/-- No row of the table has the id or the token of a new agent. -/
def Unused (db : Database) (row : AgentRecord) : Prop :=
  ∀ other ∈ db.agents, other.id ≠ row.id ∧ other.token ≠ row.token

theorem Choice.statement_ok {α : Type} {choice : Choice} {number : Nat} {run : Except Failure α}
    {value : α} (ran : choice.statement number run = .ok value) : run = .ok value := by
  unfold Choice.statement at ran
  split at ran
  · contradiction
  · exact ran

/-- A writing statement leaves the tables as they were or as it wrote them. -/
theorem Database.write_statement {α : Type} {choice : Choice} {number : Nat} {db : Database}
    {run : Except Failure Database} {value : α} {holds : Database → Prop} (unchanged : holds db)
    (written : ∀ after, run = .ok after → holds after) :
    holds (db.write (choice.statement number run) value).1 := by
  unfold Database.write
  split
  · rename_i after ran
    exact written after (Choice.statement_ok ran)
  · exact unchanged

theorem Db.insertUser_ok {db after : Database} {row : UserRow} (inserted : insertUser db row = .ok after) :
    after = { db with users := db.users ++ [row] } ∧
      ∀ other ∈ db.users, other.id ≠ row.id ∧ other.username ≠ row.username ∧
        other.dedicatedPort ≠ row.dedicatedPort := by
  unfold insertUser at inserted
  split_ifs at inserted with sameId sameName samePort
  simp only [List.any_eq_true, beq_iff_eq, not_exists, not_and] at sameId sameName samePort
  cases inserted
  exact ⟨rfl, fun other member => ⟨sameId other member, sameName other member, samePort other member⟩⟩

theorem Db.insertAgent_ok {db after : Database} {row : AgentRecord}
    (inserted : insertAgent db row = .ok after) :
    after = { db with agents := db.agents ++ [row] } ∧ Unused db row := by
  unfold insertAgent at inserted
  split_ifs at inserted with sameId sameToken
  simp only [List.any_eq_true, beq_iff_eq, not_exists, not_and] at sameId sameToken
  cases inserted
  exact ⟨rfl, fun other member => ⟨sameId other member, sameToken other member⟩⟩

theorem Db.insertTunnel_ok {db after : Database} {row : TunnelRecord}
    (inserted : insertTunnel db row = .ok after) :
    after = { db with tunnels := db.tunnels ++ [row] } ∧
      (∀ other ∈ db.tunnels, other.id ≠ row.id) ∧ ∃ agent ∈ db.agents, agent.id = row.agentId := by
  unfold insertTunnel at inserted
  split_ifs at inserted with sameId attached
  simp only [List.any_eq_true, beq_iff_eq, not_exists, not_and, Bool.and_eq_true] at sameId attached
  cases inserted
  exact ⟨rfl, sameId, attached.1⟩

theorem Db.setAgentOwner_ok {db after : Database} {id userId : String}
    (written : setAgentOwner db id userId = .ok after) :
    after = { db with agents := db.agents.map fun agent =>
      if agent.id == id then { agent with claimCode := none, userId := some userId } else agent } := by
  unfold setAgentOwner at written
  split_ifs at written
  cases written
  rfl

/-! ## Calls -/

variable [Externals]

inductive Change (choice : Choice) (db : Database) : Query → Database → Prop where
  | kept {query} : Change choice db query db
  | registered {username password} {row : UserRow}
      (named : row.id = uuidToString choice.id)
      (unique : ∀ other ∈ db.users, other.id ≠ row.id ∧ other.username ≠ row.username ∧
        other.dedicatedPort ≠ row.dedicatedPort)
      (account : row.username = username ∧ row.isBanned = false ∧
        row.passwordHash = Db.hashPassword password) :
      Change choice db (.registerUser username password) { db with users := db.users ++ [row] }
  | banned {id isBanned} :
      Change choice db (.toggleUserBan id isBanned) { db with
        users := db.users.map fun user => if user.id == id then { user with isBanned } else user }
  | requested {name} {row : AgentRecord}
      (named : row.id = uuidToString choice.id) (unused : Unused db row)
      (unclaimed : row.claimCode = some (Data.sixDigits (choice.code % 1000000)) ∧ row.userId = none) :
      Change choice db (.createAgentClaim name) { db with agents := db.agents ++ [row] }
  | issued {userId name} {row : AgentRecord}
      (named : row.id = uuidToString choice.id) (unused : Unused db row)
      (owned : row.claimCode = none ∧ row.userId = some userId) :
      Change choice db (.createAgentForUser userId name) { db with agents := db.agents ++ [row] }
  | claimed {code userId} {row : AgentRecord}
      (found : db.agents.find? (·.claimCode == some code) = some row) :
      Change choice db (.claimAgentToUser code userId) { db with
        agents := db.agents.map fun agent =>
          if agent.id == row.id then { agent with claimCode := none, userId := some userId } else agent }
  | touched {id isOnline name} :
      Change choice db (.setAgentOnline id isOnline name) { db with
        agents := db.agents.map fun agent =>
          if agent.id == id then
            { agent with isOnline, lastSeen := choice.now, name := name.getD agent.name }
          else agent }
  | detached {id} :
      Change choice db (.deleteAgent id) { db with tunnels := db.tunnels.filter (·.agentId != id) }
  | deleted {id} :
      Change choice db (.deleteAgent id) { db with
        agents := db.agents.filter (·.id != id)
        tunnels := db.tunnels.filter (·.agentId != id) }
  | opened {agentId userId name localPort protocol publicPort subdomain} {row : TunnelRecord}
      (named : row.id = uuidToString choice.id) (unused : ∀ other ∈ db.tunnels, other.id ≠ row.id)
      (attached : ∃ agent ∈ db.agents, agent.id = row.agentId)
      (fields : row.agentId = agentId ∧ row.userId = userId ∧ row.publicPort = publicPort ∧
        row.subdomain = subdomain ∧ row.enabled = true) :
      Change choice db
        (.createTunnel agentId userId name localPort protocol publicPort subdomain)
        { db with tunnels := db.tunnels ++ [row] }
  | switched {id enabled} :
      Change choice db (.setTunnelEnabled id enabled) { db with
        tunnels := db.tunnels.map fun tunnel =>
          if tunnel.id == id then { tunnel with enabled } else tunnel }
  | edited {id name localPort protocol subdomain} :
      Change choice db (.updateTunnel id name localPort protocol subdomain) { db with
        tunnels := db.tunnels.map fun tunnel =>
          if tunnel.id == id then { tunnel with name, localPort, protocol, subdomain } else tunnel }
  | closed {id} :
      Change choice db (.deleteTunnel id) { db with tunnels := db.tunnels.filter (·.id != id) }

theorem Query.run_change {choice : Choice} {portRange : UInt16 × UInt16} {db : Database} (query : Query) :
    Change choice db query (query.run choice portRange db).1 := by
  cases query with
  | verifyUser | getUserById | getAgentByToken | listAgentsForUser | listTunnelsForUser
  | listTunnelsForAgent | getTunnelById | isSubdomainTaken => exact .kept
  | registerUser username password =>
      simp only [run, Db.registerUser]
      split
      · exact .kept
      · refine Database.write_statement .kept fun after inserted => ?_
        obtain ⟨rfl, unique⟩ := Db.insertUser_ok inserted
        exact .registered rfl unique ⟨rfl, rfl, rfl⟩
  | toggleUserBan id banned =>
      refine Database.write_statement .kept fun after written => ?_
      cases written
      exact .banned
  | createAgentClaim name =>
      refine Database.write_statement .kept fun after inserted => ?_
      obtain ⟨rfl, unused⟩ := Db.insertAgent_ok inserted
      exact .requested rfl unused ⟨rfl, rfl⟩
  | createAgentForUser userId name =>
      refine Database.write_statement .kept fun after inserted => ?_
      obtain ⟨rfl, unused⟩ := Db.insertAgent_ok inserted
      exact .issued rfl unused ⟨rfl, rfl⟩
  | claimAgentToUser code userId =>
      simp only [run, Db.claimAgentToUser]
      split
      · exact .kept
      · exact .kept
      · rename_i row selected
        have found := Except.ok.inj (Choice.statement_ok selected)
        refine Database.write_statement .kept fun after written => ?_
        rw [Db.setAgentOwner_ok written]
        exact .claimed found
  | setAgentOnline id isOnline name =>
      refine Database.write_statement .kept fun after written => ?_
      cases written
      exact .touched
  | deleteAgent id =>
      simp only [run, Db.deleteAgent]
      split
      · exact .kept
      · rename_i cleared ran
        cases Choice.statement_ok ran
        refine Database.write_statement .detached fun after written => ?_
        cases written
        exact .deleted
  | createTunnel agentId userId name localPort protocol publicPort subdomain =>
      refine Database.write_statement .kept fun after inserted => ?_
      obtain ⟨rfl, unused, attached⟩ := Db.insertTunnel_ok inserted
      exact .opened rfl unused attached ⟨rfl, rfl, rfl, rfl, rfl⟩
  | setTunnelEnabled id enabled =>
      refine Database.write_statement .kept fun after written => ?_
      cases written
      exact .switched
  | updateTunnel id name localPort protocol subdomain =>
      refine Database.write_statement .kept fun after written => ?_
      cases written
      exact .edited
  | deleteTunnel id =>
      refine Database.write_statement .kept fun after written => ?_
      cases written
      exact .closed

/-- A row of `agents` was there with the same id, token and flag, its flag has been written, or it is new. -/
theorem Query.run_agents {choice : Choice} {portRange : UInt16 × UInt16} {db : Database} {query : Query}
    {row : AgentRecord} (member : row ∈ (query.run choice portRange db).1.agents) :
    (∃ old ∈ db.agents, old.id = row.id ∧ old.token = row.token ∧
      (old.isOnline = row.isOnline ∨ ∃ name, query = .setAgentOnline row.id row.isOnline name)) ∨
    row.isOnline = false ∧ row.id = uuidToString choice.id ∧ choice.id ∈ query.draws choice ∧
      row.token = Db.agentToken choice := by
  have inserted {α : Type} {new : AgentRecord} {value : α}
      (there : row ∈ (db.write (choice.statement 0 (Db.insertAgent db new)) value).1.agents) :
      row ∈ db.agents ∨ row = new := by
    unfold Database.write at there
    split at there
    · rename_i after ran
      obtain ⟨rfl, _⟩ := Db.insertAgent_ok (Choice.statement_ok ran)
      exact (List.mem_append.mp there).imp_right List.mem_singleton.mp
    · exact .inl there
  by_cases creates : (∃ name, query = .createAgentClaim name) ∨ ∃ userId name, query = .createAgentForUser userId name
  · rcases creates with ⟨name, rfl⟩ | ⟨userId, name, rfl⟩
    · rcases inserted member with old | rfl
      · exact .inl ⟨row, old, rfl, rfl, .inl rfl⟩
      · exact .inr ⟨rfl, rfl, List.mem_cons_self, rfl⟩
    · rcases inserted member with old | rfl
      · exact .inl ⟨row, old, rfl, rfl, .inl rfl⟩
      · exact .inr ⟨rfl, rfl, List.mem_cons_self, rfl⟩
  · rw [not_or] at creates
    have change := @run_change _ choice portRange db query
    generalize (query.run choice portRange db).1 = after at change member
    refine .inl ?_
    cases change with
    | requested => exact absurd ⟨_, rfl⟩ creates.1
    | issued => exact absurd ⟨_, _, rfl⟩ creates.2
    | claimed =>
        obtain ⟨old, there, rfl⟩ := List.mem_map.mp member
        refine ⟨old, there, ?_⟩
        split <;> exact ⟨rfl, rfl, .inl rfl⟩
    | @touched id isOnline name =>
        obtain ⟨old, there, rfl⟩ := List.mem_map.mp member
        refine ⟨old, there, ?_⟩
        split
        · rename_i named
          exact ⟨rfl, rfl, .inr ⟨name, by rw [eq_of_beq named]⟩⟩
        · exact ⟨rfl, rfl, .inl rfl⟩
    | deleted => exact ⟨row, (List.mem_filter.mp member).1, rfl, rfl, .inl rfl⟩
    | _ => exact ⟨row, member, rfl, rfl, .inl rfl⟩

def Query.writesTunnels : Query → Bool
  | .deleteAgent _ | .createTunnel .. | .setTunnelEnabled .. | .updateTunnel .. | .deleteTunnel _ => true
  | _ => false

theorem Query.run_tunnels {choice : Choice} {portRange : UInt16 × UInt16} {db : Database} {query : Query}
    (reads : query.writesTunnels = false) : (query.run choice portRange db).1.tunnels = db.tunnels := by
  have change := @Query.run_change _ choice portRange db query
  generalize (query.run choice portRange db).1 = after at change
  cases change with
  | detached | deleted | opened | switched | edited | closed => simp [writesTunnels] at reads
  | _ => rfl

/-! ## Operations -/

theorem exec_db {world after : World} {choice : Choice} {query : Query} {result}
    (executed : exec world choice (.db query) = some (after, result)) :
    after = { world with
      db := (query.run choice world.portRange world.db).1
      drawn := query.draws choice ++ world.drawn } ∧
    result = (query.run choice world.portRange world.db).2 ∧
    ∀ id ∈ query.draws choice, id ∉ world.drawn := by
  simp only [exec] at executed
  split_ifs at executed with fresh
  cases executed
  exact ⟨rfl, rfl, by simpa using List.all_eq_true.mp fresh.2⟩

theorem getAgentByToken_found {world after : World} {choice : Choice} {token : String}
    {agent : AgentRecord}
    (executed : exec world choice (.db (.getAgentByToken token)) = some (after, .ok (some agent))) :
    world.db.agents.find? (·.token == token) = some agent ∧ after.db = world.db ∧
      after.drawn = world.drawn := by
  obtain ⟨rfl, found, _⟩ := exec_db executed
  exact ⟨Except.ok.inj (Choice.statement_ok found.symm), rfl, rfl⟩

theorem claimAgentToUser_taken {world after : World} {choice : Choice} {code userId : String}
    {agent : AgentRecord}
    (executed : exec world choice (.db (.claimAgentToUser code userId)) = some (after, .ok (some agent))) :
    ∃ row, world.db.agents.find? (·.claimCode == some code) = some row ∧
      agent = { row with userId := some userId } ∧ after.drawn = world.drawn ∧
      after.db = { world.db with agents := world.db.agents.map fun other =>
        if other.id == row.id then { other with claimCode := none, userId := some userId } else other } := by
  obtain ⟨rfl, taken, _⟩ := exec_db executed
  simp only [Query.run, Db.claimAgentToUser, Database.write] at taken ⊢
  split at taken
  · simp at taken
  · simp at taken
  · rename_i row selected
    split at taken
    · rename_i written ran
      cases taken
      exact ⟨row, Except.ok.inj (Choice.statement_ok selected), rfl, rfl,
        Db.setAgentOwner_ok (Choice.statement_ok ran)⟩
    · contradiction

/-- What one operation does to the tables: a call changes them, and names new
rows by identifiers never drawn before; nothing else touches them. -/
theorem exec_change {world after : World} {choice : Choice} {op : Op} {result : op.Result}
    (executed : exec world choice op = some (after, result)) :
    (∃ query, op = .db query ∧ Change choice world.db query after.db ∧
      after.drawn = query.draws choice ++ world.drawn ∧ ∀ id ∈ query.draws choice, id ∉ world.drawn) ∨
    (after.db = world.db ∧ world.drawn ⊆ after.drawn) := by
  cases op with
  | db query =>
      obtain ⟨rfl, _, fresh⟩ := exec_db executed
      exact .inl ⟨query, rfl, query.run_change, rfl, fresh⟩
  | newUuid =>
      simp only [exec] at executed
      split_ifs at executed
      cases executed
      exact .inr ⟨rfl, List.subset_cons_self _ _⟩
  | allocatePort preferred =>
      simp only [exec] at executed
      split at executed <;> cases executed <;> exact .inr ⟨rfl, List.Subset.refl _⟩
  | bind transport port =>
      simp only [exec] at executed
      split at executed <;> cases executed <;> exact .inr ⟨rfl, List.Subset.refl _⟩
  | enqueueData connId data =>
      simp only [exec] at executed
      split_ifs at executed <;> cases executed <;> exact .inr ⟨rfl, List.Subset.refl _⟩
  | sessionLocals session =>
      simp only [exec] at executed
      split at executed
      · cases executed
        exact .inr ⟨rfl, List.Subset.refl _⟩
      · contradiction
  | _ =>
      cases executed
      exact .inr ⟨rfl, List.Subset.refl _⟩

/-! ## Consistent tables -/

/-- Rows are named by distinct identifiers that have been drawn, every tunnel
belongs to an agent, and an agent is either claimed or waiting under a code. -/
structure Consistent (db : Database) (drawn : List Uuid) : Prop where
  agentIds : (db.agents.map (·.id)).Nodup
  agentDrawn : ∀ row ∈ db.agents, ∃ id ∈ drawn, row.id = uuidToString id
  tunnelIds : (db.tunnels.map (·.id)).Nodup
  tunnelDrawn : ∀ row ∈ db.tunnels, ∃ id ∈ drawn, row.id = uuidToString id
  attached : ∀ row ∈ db.tunnels, ∃ agent ∈ db.agents, agent.id = row.agentId
  halves : ∀ row ∈ db.agents, row.claimCode.isSome ↔ row.userId = none

theorem Consistent.empty {drawn : List Uuid} : Consistent Database.empty drawn := by
  constructor <;> simp [Database.empty]

namespace Consistent

variable {db : Database} {drawn : List Uuid}

theorem more {later : List Uuid} (consistent : Consistent db drawn) (grows : drawn ⊆ later) :
    Consistent db later where
  agentIds := consistent.agentIds
  agentDrawn := fun row member => by
    obtain ⟨id, old, named⟩ := consistent.agentDrawn row member
    exact ⟨id, grows old, named⟩
  tunnelIds := consistent.tunnelIds
  tunnelDrawn := fun row member => by
    obtain ⟨id, old, named⟩ := consistent.tunnelDrawn row member
    exact ⟨id, grows old, named⟩
  attached := consistent.attached
  halves := consistent.halves

theorem insertAgent {row : AgentRecord} {id : Uuid} (consistent : Consistent db drawn)
    (named : row.id = uuidToString id) (known : id ∈ drawn) (unused : Unused db row)
    (half : row.claimCode.isSome ↔ row.userId = none) :
    Consistent { db with agents := db.agents ++ [row] } drawn where
  agentIds := by
    rw [List.map_append, List.nodup_append]
    refine ⟨consistent.agentIds, by simp, ?_⟩
    simp only [List.map_cons, List.map_nil, List.mem_singleton, List.mem_map]
    rintro _ ⟨other, member, rfl⟩ _ rfl
    exact (unused other member).1
  agentDrawn := by
    intro other member
    rcases List.mem_append.mp member with old | new
    · exact consistent.agentDrawn other old
    · exact ⟨id, known, List.mem_singleton.mp new ▸ named⟩
  tunnelIds := consistent.tunnelIds
  tunnelDrawn := consistent.tunnelDrawn
  attached := fun tunnel member => by
    obtain ⟨agent, there, same⟩ := consistent.attached tunnel member
    exact ⟨agent, List.mem_append_left _ there, same⟩
  halves := by
    intro other member
    rcases List.mem_append.mp member with old | new
    · exact consistent.halves other old
    · exact List.mem_singleton.mp new ▸ half

theorem mapAgents {change : AgentRecord → AgentRecord} (consistent : Consistent db drawn)
    (named : ∀ row, (change row).id = row.id)
    (half : ∀ row ∈ db.agents, (change row).claimCode.isSome ↔ (change row).userId = none) :
    Consistent { db with agents := db.agents.map change } drawn where
  agentIds := by simpa [Function.comp_def, named] using consistent.agentIds
  agentDrawn := by simpa [named] using consistent.agentDrawn
  tunnelIds := consistent.tunnelIds
  tunnelDrawn := consistent.tunnelDrawn
  attached := by simpa [named] using consistent.attached
  halves := by simpa using half

theorem insertTunnel {row : TunnelRecord} {id : Uuid} (consistent : Consistent db drawn)
    (named : row.id = uuidToString id) (known : id ∈ drawn)
    (unused : ∀ other ∈ db.tunnels, other.id ≠ row.id)
    (attached : ∃ agent ∈ db.agents, agent.id = row.agentId) :
    Consistent { db with tunnels := db.tunnels ++ [row] } drawn where
  agentIds := consistent.agentIds
  agentDrawn := consistent.agentDrawn
  tunnelIds := by
    rw [List.map_append, List.nodup_append]
    refine ⟨consistent.tunnelIds, by simp, ?_⟩
    simp only [List.map_cons, List.map_nil, List.mem_singleton, List.mem_map]
    rintro _ ⟨other, member, rfl⟩ _ rfl
    exact unused other member
  tunnelDrawn := by
    intro other member
    rcases List.mem_append.mp member with old | new
    · exact consistent.tunnelDrawn other old
    · exact ⟨id, known, List.mem_singleton.mp new ▸ named⟩
  attached := by
    intro other member
    rcases List.mem_append.mp member with old | new
    · exact consistent.attached other old
    · exact List.mem_singleton.mp new ▸ attached
  halves := consistent.halves

theorem mapTunnels {change : TunnelRecord → TunnelRecord} (consistent : Consistent db drawn)
    (named : ∀ row, (change row).id = row.id ∧ (change row).agentId = row.agentId) :
    Consistent { db with tunnels := db.tunnels.map change } drawn where
  agentIds := consistent.agentIds
  agentDrawn := consistent.agentDrawn
  tunnelIds := by simpa [Function.comp_def, named] using consistent.tunnelIds
  tunnelDrawn := by simpa [named] using consistent.tunnelDrawn
  attached := by simpa [named] using consistent.attached
  halves := consistent.halves

theorem filterTunnels {keeps : TunnelRecord → Bool} (consistent : Consistent db drawn) :
    Consistent { db with tunnels := db.tunnels.filter keeps } drawn where
  agentIds := consistent.agentIds
  agentDrawn := consistent.agentDrawn
  tunnelIds := consistent.tunnelIds.sublist (List.filter_sublist.map _)
  tunnelDrawn := fun row member => consistent.tunnelDrawn row (List.mem_of_mem_filter member)
  attached := fun row member => consistent.attached row (List.mem_of_mem_filter member)
  halves := consistent.halves

theorem deleteAgent {id : String} (consistent : Consistent db drawn) :
    Consistent { db with
      agents := db.agents.filter (·.id != id)
      tunnels := db.tunnels.filter (·.agentId != id) } drawn where
  agentIds := consistent.agentIds.sublist (List.filter_sublist.map _)
  agentDrawn := fun row member => consistent.agentDrawn row (List.mem_of_mem_filter member)
  tunnelIds := consistent.tunnelIds.sublist (List.filter_sublist.map _)
  tunnelDrawn := fun row member => consistent.tunnelDrawn row (List.mem_of_mem_filter member)
  attached := by
    intro row member
    obtain ⟨old, other⟩ := List.mem_filter.mp member
    obtain ⟨agent, there, same⟩ := consistent.attached row old
    exact ⟨agent, List.mem_filter.mpr ⟨there, same ▸ other⟩, same⟩
  halves := fun row member => consistent.halves row (List.mem_of_mem_filter member)

theorem change {choice : Choice} {query : Query} {after : Database}
    (consistent : Consistent db drawn) (change : Change choice db query after) :
    Consistent after (query.draws choice ++ drawn) := by
  have grown := consistent.more (List.subset_append_right (query.draws choice) drawn)
  cases change with
  | kept => exact grown
  | registered | banned => exact { grown with }
  | requested named unused unclaimed =>
      exact grown.insertAgent named (by simp [Query.draws]) unused (by simp [unclaimed])
  | issued named unused owned =>
      exact grown.insertAgent named (by simp [Query.draws]) unused (by simp [owned])
  | claimed found =>
      refine grown.mapAgents (fun row => by split <;> rfl) fun row member => ?_
      split
      · simp
      · exact grown.halves row member
  | touched =>
      refine grown.mapAgents (fun row => by split <;> rfl) fun row member => ?_
      split <;> exact grown.halves row member
  | detached => exact grown.filterTunnels
  | deleted => exact grown.deleteAgent
  | opened named unused attached fields =>
      exact grown.insertTunnel named (by simp [Query.draws]) unused attached
  | switched | edited => exact grown.mapTunnels fun row => by split <;> exact ⟨rfl, rfl⟩
  | closed => exact grown.filterTunnels

theorem exec {world after : World} {choice : Choice} {op : Op} {result : op.Result}
    (consistent : Consistent world.db world.drawn)
    (executed : exec world choice op = some (after, result)) : Consistent after.db after.drawn := by
  rcases exec_change executed with ⟨query, _, change, drawn, _⟩ | ⟨same, drawn⟩
  · rw [drawn]
    exact consistent.change change
  · rw [same]
    exact consistent.more drawn

theorem spelled {row : TunnelRecord} {tunnelId : Uuid} (consistent : Consistent db drawn)
    (listed : row ∈ db.tunnels) (parsed : parseUuid row.id = some tunnelId) : row.id = uuidToString tunnelId := by
  obtain ⟨id, _, named⟩ := consistent.tunnelDrawn row listed
  rw [named, parseUuid_uuidToString, Option.some.injEq] at parsed
  rw [named, parsed]

/-- The ids of a row are well formed. -/
theorem parses {row : TunnelRecord} (consistent : Consistent db drawn) (listed : row ∈ db.tunnels) :
    ∃ tunnelId agentId, parseUuid row.id = some tunnelId ∧ parseUuid row.agentId = some agentId ∧
      row.agentId = uuidToString agentId := by
  obtain ⟨tunnelId, _, named⟩ := consistent.tunnelDrawn row listed
  obtain ⟨agent, there, attached⟩ := consistent.attached row listed
  obtain ⟨agentId, _, agentNamed⟩ := consistent.agentDrawn agent there
  have text : row.agentId = uuidToString agentId := attached.symm.trans agentNamed
  exact ⟨tunnelId, agentId, by rw [named, parseUuid_uuidToString], by rw [text, parseUuid_uuidToString], text⟩

end Consistent

end TunnelitRelay
