import TunnelitRelay.Ownership
import TunnelitRelay.Schema

namespace TunnelitRelay

open Concurrent Data

/-! # The declared constraints hold in every run

The functions of `Db` check a constraint of the schema only where their statement
could break it.  Taken together they keep them all, so that the file a run leaves
behind is one that the schema of `init_db` allows.
-/

def Db.userIds (db : Database) : List String := db.users.map (·.id)

/-- The constraints that the schema declares, on the rows themselves. -/
structure Constrained (db : Database) : Prop where
  userIds : (Db.userIds db).Nodup
  usernames : (db.users.map (·.username)).Nodup
  ports : (db.users.map (·.dedicatedPort)).Nodup
  agentIds : (db.agents.map (·.id)).Nodup
  tokens : (db.agents.map (·.token)).Nodup
  tunnelIds : (db.tunnels.map (·.id)).Nodup
  owners : ∀ row ∈ db.agents, ∀ userId, row.userId = some userId → userId ∈ Db.userIds db
  attached : ∀ row ∈ db.tunnels, row.agentId ∈ db.agents.map (·.id)
  tenants : ∀ row ∈ db.tunnels, ∀ userId, row.userId = some userId → userId ∈ Db.userIds db

theorem Constrained.empty : Constrained Database.empty := by
  constructor <;> simp [Database.empty, Db.userIds]

theorem userExists_iff {db : Database} {userId : String} :
    Db.userExists db (some userId) = true ↔ userId ∈ Db.userIds db := by
  simp [Db.userExists, Db.userIds]

theorem nodup_snoc {α β : Type} {items : List α} {item : α} {key : α → β} (distinct : (items.map key).Nodup)
    (unused : ∀ other ∈ items, key other ≠ key item) : ((items ++ [item]).map key).Nodup := by
  rw [List.map_append, List.map_singleton, List.nodup_append]
  refine ⟨distinct, by simp, fun value member other single => ?_⟩
  obtain ⟨old, listed, rfl⟩ := List.mem_map.mp member
  rw [List.mem_singleton.mp single]
  exact unused old listed

theorem map_same {α β : Type} {items : List α} {change : α → α} {key : α → β}
    (same : ∀ item, key (change item) = key item) : (items.map change).map key = items.map key := by
  rw [List.map_map]
  exact List.map_congr_left fun item _ => same item

theorem nodup_map {α β : Type} {items : List α} {change : α → α} {key : α → β}
    (distinct : (items.map key).Nodup) (same : ∀ item, key (change item) = key item) :
    ((items.map change).map key).Nodup := by
  rwa [map_same same]

theorem nodup_filter {α β : Type} {items : List α} {keeps : α → Bool} {key : α → β}
    (distinct : (items.map key).Nodup) : ((items.filter keeps).map key).Nodup :=
  distinct.sublist (List.filter_sublist.map key)

namespace Constrained

variable {db : Database}

theorem insertUser {row : UserRow} {after : Database} (constrained : Constrained db)
    (inserted : Db.insertUser db row = .ok after) : Constrained after := by
  obtain ⟨rfl, unique⟩ := Db.insertUser_ok inserted
  have more {userId : String} (known : userId ∈ Db.userIds db) :
      userId ∈ Db.userIds { db with users := db.users ++ [row] } := by
    simp only [Db.userIds, List.map_append, List.mem_append]
    exact .inl known
  exact { constrained with
    userIds := nodup_snoc constrained.userIds fun other member => (unique other member).1
    usernames := nodup_snoc constrained.usernames fun other member => (unique other member).2.1
    ports := nodup_snoc constrained.ports fun other member => (unique other member).2.2
    owners := fun row member userId owned => more (constrained.owners row member userId owned)
    tenants := fun row member userId owned => more (constrained.tenants row member userId owned) }

theorem mapUsers {change : UserRow → UserRow} (constrained : Constrained db)
    (same : ∀ row, (change row).id = row.id ∧ (change row).username = row.username ∧
      (change row).dedicatedPort = row.dedicatedPort) : Constrained { db with users := db.users.map change } := by
  have ids : Db.userIds { db with users := db.users.map change } = Db.userIds db := map_same fun row => (same row).1
  exact { constrained with
    userIds := ids ▸ constrained.userIds
    usernames := nodup_map constrained.usernames fun row => (same row).2.1
    ports := nodup_map constrained.ports fun row => (same row).2.2
    owners := fun row member userId owned => ids ▸ constrained.owners row member userId owned
    tenants := fun row member userId owned => ids ▸ constrained.tenants row member userId owned }

theorem insertAgent {row : AgentRecord} {after : Database} (constrained : Constrained db)
    (inserted : Db.insertAgent db row = .ok after) : Constrained after := by
  have owned : ∀ userId, row.userId = some userId → userId ∈ Db.userIds db := by
    intro userId owned
    unfold Db.insertAgent at inserted
    split_ifs at inserted with _ _ known
    exact userExists_iff.mp (owned ▸ known)
  obtain ⟨rfl, unused⟩ := Db.insertAgent_ok inserted
  exact { constrained with
    agentIds := nodup_snoc constrained.agentIds fun other member => (unused other member).1
    tokens := nodup_snoc constrained.tokens fun other member => (unused other member).2
    owners := fun other member => by
      rcases List.mem_append.mp member with old | new
      · exact constrained.owners other old
      · exact List.mem_singleton.mp new ▸ owned
    attached := fun tunnel member => by
      rw [List.map_append, List.mem_append]
      exact .inl (constrained.attached tunnel member) }

theorem mapAgents {change : AgentRecord → AgentRecord} (constrained : Constrained db)
    (same : ∀ row, (change row).id = row.id ∧ (change row).token = row.token)
    (owned : ∀ row ∈ db.agents, ∀ userId, (change row).userId = some userId → userId ∈ Db.userIds db) :
    Constrained { db with agents := db.agents.map change } := by
  have ids : (db.agents.map change).map (·.id) = db.agents.map (·.id) := map_same fun row => (same row).1
  exact { constrained with
    agentIds := ids ▸ constrained.agentIds
    tokens := nodup_map constrained.tokens fun row => (same row).2
    owners := fun row member => by
      obtain ⟨old, there, rfl⟩ := List.mem_map.mp member
      exact owned old there
    attached := fun tunnel member => ids ▸ constrained.attached tunnel member }

theorem insertTunnel {row : TunnelRecord} {after : Database} (constrained : Constrained db)
    (inserted : Db.insertTunnel db row = .ok after) : Constrained after := by
  have owned : ∀ userId, row.userId = some userId → userId ∈ Db.userIds db := by
    intro userId owned
    unfold Db.insertTunnel at inserted
    split_ifs at inserted with _ known
    exact userExists_iff.mp (owned ▸ ((Bool.and_eq_true _ _).mp known).2)
  obtain ⟨rfl, unused, agent, there, named⟩ := Db.insertTunnel_ok inserted
  exact { constrained with
    tunnelIds := nodup_snoc constrained.tunnelIds unused
    attached := fun other member => by
      rcases List.mem_append.mp member with old | new
      · exact constrained.attached other old
      · exact List.mem_map.mpr ⟨agent, there, List.mem_singleton.mp new ▸ named⟩
    tenants := fun other member => by
      rcases List.mem_append.mp member with old | new
      · exact constrained.tenants other old
      · exact List.mem_singleton.mp new ▸ owned }

theorem mapTunnels {change : TunnelRecord → TunnelRecord} (constrained : Constrained db)
    (same : ∀ row, (change row).id = row.id ∧ (change row).agentId = row.agentId ∧
      (change row).userId = row.userId) : Constrained { db with tunnels := db.tunnels.map change } :=
  { constrained with
    tunnelIds := nodup_map constrained.tunnelIds fun row => (same row).1
    attached := fun row member => by
      obtain ⟨old, there, rfl⟩ := List.mem_map.mp member
      exact (same old).2.1 ▸ constrained.attached old there
    tenants := fun row member => by
      obtain ⟨old, there, rfl⟩ := List.mem_map.mp member
      exact (same old).2.2 ▸ constrained.tenants old there }

theorem filterTunnels {keeps : TunnelRecord → Bool} (constrained : Constrained db) :
    Constrained { db with tunnels := db.tunnels.filter keeps } :=
  { constrained with
    tunnelIds := nodup_filter constrained.tunnelIds
    attached := fun row member => constrained.attached row (List.mem_of_mem_filter member)
    tenants := fun row member => constrained.tenants row (List.mem_of_mem_filter member) }

/-- The tunnels of an agent go before the agent goes. -/
theorem deleteAgent {id : String} (constrained : Constrained db) :
    Constrained { db with
      agents := db.agents.filter (·.id != id)
      tunnels := db.tunnels.filter (·.agentId != id) } :=
  { constrained with
    agentIds := nodup_filter constrained.agentIds
    tokens := nodup_filter constrained.tokens
    tunnelIds := nodup_filter constrained.tunnelIds
    owners := fun row member => constrained.owners row (List.mem_of_mem_filter member)
    tenants := fun row member => constrained.tenants row (List.mem_of_mem_filter member)
    attached := fun row member => by
      obtain ⟨listed, other⟩ := List.mem_filter.mp member
      obtain ⟨agent, there, named⟩ := List.mem_map.mp (constrained.attached row listed)
      exact List.mem_map.mpr ⟨agent, List.mem_filter.mpr ⟨there, named ▸ other⟩, named⟩ }

/-- No call of `db.rs` breaks a constraint, whether it succeeds or not. -/
theorem run [Externals] {choice : Choice} {portRange : UInt16 × UInt16} {query : Query}
    (constrained : Constrained db) : Constrained (query.run choice portRange db).1 := by
  cases query with
  | verifyUser | getUserById | getAgentByToken | listAgentsForUser | listTunnelsForUser
  | listTunnelsForAgent | getTunnelById | isSubdomainTaken => exact constrained
  | registerUser username password =>
      simp only [Query.run, Db.registerUser]
      split
      · exact constrained
      · exact Database.write_statement constrained fun after inserted => constrained.insertUser inserted
  | toggleUserBan id banned =>
      refine Database.write_statement constrained fun after written => ?_
      cases written
      exact constrained.mapUsers fun row => by split <;> exact ⟨rfl, rfl, rfl⟩
  | createAgentClaim name =>
      exact Database.write_statement constrained fun after inserted => constrained.insertAgent inserted
  | createAgentForUser userId name =>
      exact Database.write_statement constrained fun after inserted => constrained.insertAgent inserted
  | claimAgentToUser code userId =>
      simp only [Query.run, Db.claimAgentToUser]
      split
      · exact constrained
      · exact constrained
      · refine Database.write_statement constrained fun after written => ?_
        have known : userId ∈ Db.userIds db := by
          unfold Db.setAgentOwner at written
          split_ifs at written with known
          exact userExists_iff.mp known
        rw [Db.setAgentOwner_ok written]
        refine constrained.mapAgents (fun row => by split <;> exact ⟨rfl, rfl⟩) fun row member owner owned => ?_
        split at owned
        · exact Option.some.inj owned ▸ known
        · exact constrained.owners row member owner owned
  | setAgentOnline id isOnline name =>
      refine Database.write_statement constrained fun after written => ?_
      cases written
      refine constrained.mapAgents (fun row => by split <;> exact ⟨rfl, rfl⟩) fun row member owner owned => ?_
      split at owned <;> exact constrained.owners row member owner owned
  | deleteAgent id =>
      simp only [Query.run, Db.deleteAgent]
      split
      · exact constrained
      · rename_i cleared ran
        cases Choice.statement_ok ran
        refine Database.write_statement constrained.filterTunnels fun after written => ?_
        cases written
        exact constrained.deleteAgent
  | createTunnel agentId userId name localPort protocol publicPort subdomain =>
      exact Database.write_statement constrained fun after inserted => constrained.insertTunnel inserted
  | setTunnelEnabled id enabled =>
      refine Database.write_statement constrained fun after written => ?_
      cases written
      exact constrained.mapTunnels fun row => by split <;> exact ⟨rfl, rfl, rfl⟩
  | updateTunnel id name localPort protocol subdomain =>
      refine Database.write_statement constrained fun after written => ?_
      cases written
      exact constrained.mapTunnels fun row => by split <;> exact ⟨rfl, rfl, rfl⟩
  | deleteTunnel id =>
      refine Database.write_statement constrained fun after written => ?_
      cases written
      exact constrained.filterTunnels

end Constrained

/-! ## The constraints as the schema states them -/

/-- A value that identifies a row is stored so that it still does. -/
theorem stored_nodup {α β : Type} {items : List α} {stored : α → List SqlValue} {index : Nat} {key : α → β}
    {value : β → SqlValue} (injective : Function.Injective value) (distinct : (items.map key).Nodup)
    (there : ∀ item, (stored item)[index]? = some (value (key item))) :
    ((items.map stored).map fun row => row[index]?).Nodup := by
  have same : (items.map stored).map (fun row => row[index]?) = (items.map key).map fun k => some (value k) := by
    simp only [List.map_map]
    exact List.map_congr_left fun item _ => there item
  rw [same]
  exact distinct.map fun left right equal => injective (Option.some.inj equal)

theorem text_injective : Function.Injective SqlValue.text := fun _ _ same => SqlValue.text.inj same

theorem port_injective : Function.Injective fun port : UInt16 => SqlValue.integer port.toNat :=
  fun _ _ same => UInt16.toNat_inj.mp (Int.ofNat_inj.mp (SqlValue.integer.inj same))

theorem Constrained.keepsUsers {db : Database} (constrained : Constrained db) :
    (Db.store db).Keeps (Db.storedTable Db.users Db.storedUser (fun _ => rfl) db.users) where
  keys := by
    intro index column declared keyed
    rcases index with _ | _ | _ | _ | _ | _ | index
    · exact stored_nodup text_injective constrained.userIds fun _ => rfl
    · exact stored_nodup text_injective constrained.usernames fun _ => rfl
    · cases declared
      contradiction
    · exact stored_nodup port_injective constrained.ports fun _ => rfl
    · cases declared
      contradiction
    · cases declared
      contradiction
    · contradiction
  filled := by
    intro index column declared needed row member
    obtain ⟨user, _, rfl⟩ := List.mem_map.mp member
    rcases index with _ | _ | _ | _ | _ | _ | index
    · cases declared
      contradiction
    all_goals simp [Db.storedUser, Db.storedFlag]
  references := by
    intro reference member
    contradiction

/-- A reference to a user is `NULL` or the id of a row that is there. -/
theorem refersToUser {db : Database} {userId : Option String}
    (known : ∀ id, userId = some id → id ∈ Db.userIds db) :
    some (Db.optionalText userId) = some .null ∨
      ∃ other ∈ db.users.map Db.storedUser, other[0]? = some (Db.optionalText userId) := by
  cases userId with
  | none => exact .inl rfl
  | some id =>
      obtain ⟨user, there, rfl⟩ := List.mem_map.mp (known id rfl)
      exact .inr ⟨Db.storedUser user, List.mem_map_of_mem there, rfl⟩

theorem Constrained.keepsAgents {db : Database} (constrained : Constrained db) :
    (Db.store db).Keeps (Db.storedTable Db.agents Db.storedAgent (fun _ => rfl) db.agents) where
  keys := by
    intro index column declared keyed
    rcases index with _ | _ | _ | index
    · exact stored_nodup text_injective constrained.agentIds fun _ => rfl
    · cases declared
      contradiction
    · exact stored_nodup text_injective constrained.tokens fun _ => rfl
    · rcases index with _ | _ | _ | _ | _ | index
      all_goals first | contradiction | (cases declared; contradiction)
  filled := by
    intro index column declared needed row member
    obtain ⟨agent, _, rfl⟩ := List.mem_map.mp member
    rcases index with _ | _ | _ | _ | index
    · cases declared
      contradiction
    · cases declared
      contradiction
    · simp [Db.storedAgent]
    · cases declared
      contradiction
    · rcases index with _ | _ | _ | _ | index
      all_goals simp [Db.storedAgent, Db.storedFlag]
  references := by
    intro reference member
    rw [List.mem_singleton.mp member]
    refine ⟨1, _, _, 0, _, rfl, rfl, rfl, rfl, rfl, fun row stored => ?_⟩
    obtain ⟨agent, listed, rfl⟩ := List.mem_map.mp stored
    exact refersToUser (constrained.owners agent listed)

theorem Constrained.keepsTunnels {db : Database} (constrained : Constrained db) :
    (Db.store db).Keeps (Db.storedTable Db.tunnels Db.storedTunnel (fun _ => rfl) db.tunnels) where
  keys := by
    intro index column declared keyed
    rcases index with _ | index
    · exact stored_nodup text_injective constrained.tunnelIds fun _ => rfl
    · rcases index with _ | _ | _ | _ | _ | _ | _ | _ | _ | _ | _ | index
      all_goals first | contradiction | (cases declared; contradiction)
  filled := by
    intro index column declared needed row member
    obtain ⟨tunnel, _, rfl⟩ := List.mem_map.mp member
    rcases index with _ | _ | _ | _ | _ | _ | _ | _ | index
    · cases declared
      contradiction
    · simp [Db.storedTunnel]
    · cases declared
      contradiction
    · simp [Db.storedTunnel]
    · simp [Db.storedTunnel]
    · simp [Db.storedTunnel]
    · simp [Db.storedTunnel]
    · cases declared
      contradiction
    · rcases index with _ | _ | _ | _ | index
      all_goals simp [Db.storedTunnel, Db.storedFlag]
  references := by
    intro reference member
    rcases List.mem_cons.mp member with rfl | other
    · refine ⟨1, _, _, 0, _, rfl, rfl, rfl, rfl, rfl, fun row stored => .inr ?_⟩
      obtain ⟨tunnel, listed, rfl⟩ := List.mem_map.mp stored
      obtain ⟨agent, there, named⟩ := List.mem_map.mp (constrained.attached tunnel listed)
      exact ⟨Db.storedAgent agent, List.mem_map_of_mem there, congrArg (fun id => some (SqlValue.text id)) named⟩
    · rw [List.mem_singleton.mp other]
      refine ⟨2, _, _, 0, _, rfl, rfl, rfl, rfl, rfl, fun row stored => ?_⟩
      obtain ⟨tunnel, listed, rfl⟩ := List.mem_map.mp stored
      exact refersToUser (constrained.tenants tunnel listed)

section Runs

variable [Externals] {allowed : Condition relay} {portRange : UInt16 × UInt16}

theorem Reached.constrained {config : Config relay} (reached : Reached allowed portRange config) :
    Constrained config.state.db := by
  refine @Reachable.induct _ relay allowed (fun config => Constrained config.state.db) _ _ .empty ?_ reached
  intro before action after _ constrained _ step
  cases step with
  | start admitted =>
      obtain ⟨sessions, rfl⟩ := accept_same admitted
      exact constrained
  | call _ _ executed =>
      obtain ⟨query, rfl, _⟩ | ⟨unchanged, _⟩ := exec_change executed
      · rw [(exec_db executed).1]
        exact constrained.run
      · exact unchanged ▸ constrained
  | acquire | release | reboot => exact constrained

/-- In every run, restarts included, the file in which the tables are stored keeps
every constraint that `init_db` declares: keys, columns that may not be `NULL`,
and references. -/
theorem constraints_kept {config : Config relay} (reached : Reached allowed portRange config) {name : String}
    {table : Table} (there : Db.store config.state.db name = some table) :
    (Db.store config.state.db).Keeps table := by
  have constrained := reached.constrained
  unfold Db.store at there
  split at there
  · cases there
    exact constrained.keepsUsers
  · cases there
    exact constrained.keepsAgents
  · cases there
    exact constrained.keepsTunnels
  · contradiction

end Runs

/-- Alice's tunnel is stored with the agent and the account it refers to. -/
theorem constraints_kept_tunnel : ∃ (config : Config relay) (table : Table),
    Db.store config.state.db "tunnels" = some table ∧ table.rows ≠ [] ∧
      (Db.store config.state.db).Keeps table := by
  have passed : (relay.follow (fun _ _ _ _ => true) 200
      (inOrder [(.register { username := "alice", password := "secret" }, answer 1 0),
        (.generateAgentToken (signedIn 1), answer 2 0),
        (.createTunnel (signedIn 1) (webTunnel (BitVec.ofNat 128 4)), answer 3 0)]) ⟨newRelay, []⟩).any
      (fun config : Config relay => !config.state.db.tunnels.isEmpty) = true := by
    decide +kernel
  obtain ⟨config, reached, tested⟩ := newRelay_run passed
  have there : Db.store config.state.db "tunnels" = some _ := rfl
  refine ⟨config, _, there, ?_, constraints_kept reached there⟩
  simpa [Db.storedTable] using tested

end TunnelitRelay
