import TunnelitRelay.DedicatedPorts
import TunnelitRelay.Ownership
import TunnelitRelay.PortExclusivity
import TunnelitRelay.Undisturbed

namespace TunnelitRelay

open Concurrent Program

/-! # Reserved ports and enabled rows

A port is reserved by one operation and its row written by another.  Where the
second fails, or the row goes without its port being released, the port stays
reserved for nobody.
-/

section Runs

variable [Externals] {world : World} {portRange : UInt16 × UInt16}

/-- Every reserved port is that of an enabled tunnel. -/
def World.PortsHeld (world : World) : Prop :=
  ∀ port ∈ world.allocatedPorts, occupied world.db port = true

/-- The calls that can leave a reserved port without an enabled row do not: the
row of a new tunnel is written, the row of a tunnel switched on is updated, and
an agent is deleted only if its enabled tunnels have no reserved ports to
themselves. -/
def keepsPortsHeld (world : World) (choice : Choice) : Op → Bool
  | .db (.createTunnel agentId _ _ _ _ publicPort _) => occupied world.db publicPort ||
      (choice.refuses 0).isNone && world.db.agents.any (·.id == agentId)
  | .db (.setTunnelEnabled id true) => (choice.refuses 0).isNone || world.db.tunnels.all fun row =>
      row.id != id || occupied world.db row.publicPort
  | .db (.deleteAgent id) => (choice.refuses 0).isSome || world.db.tunnels.all fun row =>
      row.agentId != id || !row.enabled || decide (row.publicPort ∉ world.allocatedPorts) ||
        occupied { world.db with tunnels := world.db.tunnels.filter (·.agentId != id) } row.publicPort
  | _ => true

/-- The relay whose database calls do not strand a reserved port. -/
abbrev careful : System relaySignature := relay.restrict keepsPortsHeld

/-! ## Jobs that reserve only the ports of enabled rows -/

def Job.strands : Job → Bool
  | .createTunnel .. | .toggleTunnel _ | .deleteTunnel _ | .deleteAgent _ => true
  | _ => false

/-- What holds while a job runs that strands no port. -/
structure Holding (past : Past) (world : World) : Prop where
  held : world.PortsHeld
  listed : ∀ id rows, Did past (.db (.listTunnelsForAgent id)) (.ok rows) → ∀ row ∈ rows,
    row.enabled = true → occupied world.db row.publicPort = true

/-- Calls that take no enabled row away. -/
def Query.vacates : Query → Bool
  | .setTunnelEnabled .. | .deleteTunnel _ | .deleteAgent _ => true
  | _ => false

theorem occupied_kept {choice : Choice} {db after : Database} {query : Query} {port : UInt16}
    (occupies : occupied db port = true) (change : Change choice db query after)
    (keeps : query.vacates = false) : occupied after port = true := by
  obtain ⟨row, listed, enabled, same⟩ := occupied_iff.mp occupies
  cases change with
  | detached | deleted | switched | closed => contradiction
  | opened => exact occupied_iff.mpr ⟨row, List.mem_append_left _ listed, enabled, same⟩
  | edited =>
      refine occupied_iff.mpr ⟨_, List.mem_map_of_mem listed, ?_, ?_⟩
      · split <;> exact enabled
      · split <;> exact same
  | _ => exact occupies

theorem vacates_of_permitted {job : Job} {past : Past} {held : Held} {query : Query}
    (keeps : job.strands = false) (permitted : Permitted job past held (.db query)) :
    query.vacates = false := by
  cases query with
  | setTunnelEnabled id enabled =>
      obtain ⟨_, _, rfl, _⟩ := (permitted.general fun _ torn => torn).1
      contradiction
  | deleteTunnel id =>
      have request := (permitted.general fun _ torn => torn).1
      subst request
      contradiction
  | deleteAgent id =>
      have request := (permitted.general fun _ torn => torn).1
      subst request
      contradiction
  | _ => rfl

theorem Holding.exec {job : Job} {past : Past} {held : Held} {op : Op} {choice : Choice}
    {after : World} {result : op.Result} (holding : Holding past world) (keeps : job.strands = false)
    (lawful : discipline job past held (.call op))
    (executed : exec world choice op = some (after, result)) : Holding (⟨op, result⟩ :: past) after := by
  have permitted := lawful.2.2
  have still {port : UInt16} (occupies : occupied world.db port = true) : occupied after.db port = true := by
    rcases exec_change executed with ⟨query, rfl, change, _⟩ | ⟨same, _⟩
    · exact occupied_kept occupies change (vacates_of_permitted keeps permitted)
    · rwa [same]
  constructor
  · intro port reserved
    rw [exec_allocatedPorts executed] at reserved
    cases op with
    | allocatePort preferred =>
        obtain ⟨_, _, rfl⟩ := (permitted.general fun _ torn => torn).1
        contradiction
    | insertAllocatedPort other =>
        rcases Finset.mem_insert.mp reserved with rfl | old
        · rcases (permitted.general fun _ torn => torn).1 with ⟨_, rfl⟩ | ⟨id, rows, row, did, member, enabled, rfl⟩
          · contradiction
          · exact still (holding.listed id rows did row member enabled)
        · exact still (holding.held port old)
    | freePort other => exact still (holding.held port (Finset.mem_of_mem_erase reserved))
    | _ => exact still (holding.held port reserved)
  · intro id rows did row member enabled
    rcases List.mem_cons.mp did with new | old
    · cases new
      obtain ⟨_, answer, _⟩ := exec_db executed
      have listed := Except.ok.inj (Choice.statement_ok answer.symm)
      rw [← listed, Db.oldestFirst, List.mem_insertionSort] at member
      exact still (occupied_iff.mpr ⟨row, (List.mem_filter.mp member).1, enabled, rfl⟩)
    · exact still (holding.listed id rows old row member enabled)

theorem PortsHeld.of_keeping {job : Job} (held : world.PortsHeld) (keeps : job.strands = false) :
    (serve job).Always relay (fun after _ => after.PortsHeld) world := by
  have starts : Holding [] world := ⟨held, fun _ _ did => absurd did did_nil⟩
  refine Always.mono (Obeys.always (relay_lawful job)
    (fun lawful holding executed => holding.exec keeps lawful executed) starts) ?_
  rintro after reply ⟨past, guards, holding, _⟩
  exact holding.held

/-! ## Blocks under the condition -/

/-- A query that changes nothing. -/
theorem read_always {query' : Query} {post : World → Except Failure query'.Value → Prop}
    (reads : ∀ choice portRange db, (query'.run choice portRange db).1 = db)
    (undrawn : ∀ choice, query'.draws choice = [])
    (answered : ∀ choice, post world (query'.run choice world.portRange world.db).2) :
    (query query').Always relay post world := by
  refine withLock_always fun choice after result executed => ?_
  obtain ⟨rfl, rfl, _⟩ := exec_db executed
  rw [reads, undrawn]
  exact answered choice

/-- A listener may come or go; the ports and the tables stay. -/
theorem startTunnelListener_keeps {tunnel : TunnelConfig} {sender : Channel}
    {post : World → Except String Unit → Prop} (held : world.PortsHeld)
    (ends : ∀ after result, World.PortsHeld after → post after result) :
    (startTunnelListener tunnel sender).Always relay post world := by
  refine access_always fun choice entered result executed => ?_
  cases executed
  refine always_bind.mpr (withLock_always fun choice after result executed => ?_)
  cases executed
  refine access_always fun choice bound result executed => ?_
  simp only [exec] at executed
  split at executed
  · cases executed
    exact ends _ _ held
  · cases executed
    refine access_always fun choice spawned handle executed => ?_
    cases executed
    refine always_bind.mpr (withLock_always fun choice after result executed => ?_)
    cases executed
    exact ends _ _ held

/-- Starting the listener on the agent's channel, if it has one, and telling it. -/
theorem startIfServed_keeps {tunnel : TunnelConfig} {sender : Option Channel}
    {post : World → Unit → Prop} (held : world.PortsHeld)
    (ends : ∀ after, World.PortsHeld after → post after ()) :
    (ifSome (fun sender => do
      let _ ← startTunnelListener tunnel sender
      access (.send sender (.startTunnel tunnel))) sender).Always relay post world := by
  refine ifSome_always (fun _ => ends _ held) fun channel _ => ?_
  refine always_bind.mpr (startTunnelListener_keeps held fun after result kept => ?_)
  intro choice later sent executed
  cases executed
  exact ends _ kept

omit [Externals] in
/-- A writing call that fails leaves the tables as they were. -/
theorem Database.write_failed {α : Type} {db : Database} {written : Except Failure Database} {value : α}
    {failure : Failure} (failed : (db.write written value).2 = .error failure) : (db.write written value).1 = db := by
  unfold Database.write at failed ⊢
  split at failed
  · contradiction
  · rfl

omit [Externals] in
/-- A writing call that succeeds has written, and answers what it was to answer. -/
theorem Database.write_done {α : Type} {db : Database} {written : Except Failure Database} {value answer : α}
    (done : (db.write written value).2 = .ok answer) :
    answer = value ∧ written = .ok (db.write written value).1 := by
  unfold Database.write at done ⊢
  split at done
  · exact ⟨(Except.ok.inj done).symm, rfl⟩
  · contradiction

/-! ## Creating a tunnel -/

theorem getCurrentUserId_stays {headers : HeaderMap} :
    (getCurrentUserId headers).Always relay (fun after _ => after = world) world := by
  unfold getCurrentUserId
  split
  · rfl
  · refine withLock_always fun choice after user executed => ?_
    cases executed
    rfl

theorem subdomainTaken_stays {subdomain excludeId : Option String} :
    (subdomainTaken subdomain excludeId).Always relay (fun after _ => after = world) world := by
  unfold subdomainTaken
  split
  · rfl
  · refine always_bind.mpr (read_always (fun _ _ _ => rfl) (fun _ => rfl) fun choice => ?_)
    split <;> rfl

/-- An insertion that meets the condition leaves the port with an enabled row. -/
theorem createTunnel_occupies {choice : Choice} {agentId uid name protocol : String}
    {localPort publicPort : UInt16} {subdomain : Option String} (consistent : Consistent world.db world.drawn)
    (registered : ∃ user ∈ world.db.users, user.id = uid)
    (meets : keepsPortsHeld world choice (.db (.createTunnel agentId (some uid) name localPort protocol
      publicPort subdomain)) = true) (fresh : choice.id ∉ world.drawn) :
    occupied (Db.createTunnel choice world.db agentId (some uid) name localPort protocol publicPort
      subdomain).1 publicPort = true := by
  have grown {db : Database} {row : TunnelRecord} (enabled : row.enabled = true)
      (same : row.publicPort = publicPort) :
      occupied { db with tunnels := db.tunnels ++ [row] } publicPort = true :=
    occupied_iff.mpr ⟨row, List.mem_append_right _ (List.mem_singleton.mpr rfl), enabled, same⟩
  have change := @Query.run_change _ choice world.portRange world.db
    (.createTunnel agentId (some uid) name localPort protocol publicPort subdomain)
  rcases Bool.or_eq_true _ _ |>.mp meets with already | accepted
  · exact occupied_kept already change rfl
  · obtain ⟨unrefused, attached⟩ := Bool.and_eq_true _ _ |>.mp accepted
    have known : Db.userExists world.db (some uid) = true := by
      obtain ⟨user, listed, named⟩ := registered
      exact List.any_eq_true.mpr ⟨user, listed, by simp [named]⟩
    have unused : (world.db.tunnels.any fun row => row.id == uuidToString choice.id) = false := by
      refine List.any_eq_false.mpr fun row listed same => fresh ?_
      obtain ⟨id, drawn, named⟩ := consistent.tunnelDrawn row listed
      have alike : uuidToString id = uuidToString choice.id := named.symm.trans (eq_of_beq same)
      have parsed := congrArg parseUuid alike
      rw [parseUuid_uuidToString, parseUuid_uuidToString, Option.some.injEq] at parsed
      exact parsed ▸ drawn
    simp only [Db.createTunnel, Choice.statement, Option.isNone_iff_eq_none.mp unrefused, Db.insertTunnel,
      unused, attached, known, Database.write, Bool.false_eq_true, if_false, Bool.and_self, if_true]
    exact grown rfl rfl

theorem announceTunnel_keeps {agentId : Uuid} {config : TunnelConfig} (held : world.PortsHeld) :
    (announceTunnel agentId config).Always relay (fun after _ => after.PortsHeld) world := by
  refine always_guarded.mpr (access_always fun choice read sender executed => ?_)
  cases executed
  exact startIfServed_keeps held fun _ kept => kept

/-- The row is written under the port just reserved. -/
theorem insertTunnel_keeps {uid : String} {agentId : Uuid} {publicPort : UInt16} {body : CreateTunnelRequest}
    (held : ∀ port ∈ world.allocatedPorts, port = publicPort ∨ occupied world.db port = true)
    (consistent : Consistent world.db world.drawn) (registered : ∃ user ∈ world.db.users, user.id = uid) :
    (insertTunnel uid agentId publicPort body).Always careful (fun after _ => after.PortsHeld) world := by
  refine always_bind.mpr (query_restricted fun choice meets fresh => ?_)
  have kept : World.PortsHeld { world with
      db := (Query.run choice world.portRange world.db (.createTunnel body.agentId (some uid) body.name
        body.localPort body.protocol publicPort (cleanSubdomain body.subdomain))).1
      drawn := choice.id :: world.drawn } := by
    intro port reserved
    rcases held port reserved with rfl | old
    · exact createTunnel_occupies consistent registered meets (fresh choice.id (List.mem_singleton.mpr rfl))
    · exact occupied_kept old (Query.run_change _) rfl
  cases inserted : (Query.run choice world.portRange world.db (.createTunnel body.agentId (some uid) body.name
      body.localPort body.protocol publicPort (cleanSubdomain body.subdomain))).2 with
  | error failure => exact kept
  | ok record =>
      dsimp only
      split
      · exact kept
      · exact always_bind.mpr ((announceTunnel_keeps kept).restrict.mono fun _ _ ends => ends)

theorem createTunnel_keeps {headers : HeaderMap} {body : CreateTunnelRequest} (held : world.PortsHeld)
    (consistent : Consistent world.db world.drawn) :
    (createTunnel headers body).Always careful (fun after _ => after.PortsHeld) world := by
  refine always_bind.mpr (getCurrentUserId_stays.restrict.mono fun after user same => ?_)
  subst same
  cases user with
  | none => exact held
  | some uid =>
      dsimp only
      split
      · exact held
      rename_i agentId parsed
      refine always_bind.mpr (subdomainTaken_stays.restrict.mono fun after taken same => ?_)
      subst same
      split
      · exact held
      refine always_bind.mpr ((read_always (fun _ _ _ => rfl) (fun _ => rfl) fun choice => ?_).restrict)
      cases account : (Query.run choice after.portRange after.db (.getUserById uid)).2 with
      | error failure => exact held
      | ok found =>
          cases found with
          | none => exact held
          | some user =>
              have registered : ∃ row ∈ after.db.users, row.id = uid := by
                have found := Except.ok.inj (Choice.statement_ok account)
                obtain ⟨row, there, _⟩ := Option.map_eq_some_iff.mp found
                exact ⟨row, List.mem_of_find?_eq_some there, by simpa using List.find?_some there⟩
              refine always_bind.mpr ((withLock_always fun choice later reserved executed => ?_).restrict)
              simp only [exec] at executed
              split at executed
              · rename_i port allocated
                cases executed
                have dedicated : port = user.dedicatedPort := by
                  simp only [AppState.allocatePort] at allocated
                  split at allocated
                  · exact (Option.some.inj allocated).symm
                  · contradiction
                dsimp only
                rw [if_pos dedicated]
                refine insertTunnel_keeps (fun other reserved => ?_) consistent registered
                exact (Finset.mem_insert.mp reserved).imp_right (held other)
              · cases executed
                exact held

/-! ## Switching a tunnel -/

omit [Externals] in
/-- A row stays on its port, whatever is switched. -/
theorem switched_occupied {db : Database} {row : TunnelRecord} {id : String} {enabled : Bool}
    (listed : row ∈ db.tunnels) (after : (if row.id == id then enabled else row.enabled) = true) :
    occupied { db with tunnels := db.tunnels.map fun tunnel =>
      if tunnel.id == id then { tunnel with enabled } else tunnel } row.publicPort = true := by
  refine occupied_iff.mpr ⟨_, List.mem_map_of_mem listed, ?_, ?_⟩
  · split at after <;> rename_i hit
    · rwa [if_pos hit]
    · rwa [if_neg hit]
  · split <;> rfl

omit [Externals] in
theorem switchedOn_occupied {choice : Choice} {db : Database} {id : String} {port : UInt16}
    (occupies : occupied db port = true) :
    occupied (Db.setTunnelEnabled choice db id true).1 port = true := by
  refine @Database.write_statement _ choice 0 db _ _ (fun after => occupied after port = true) occupies ?_
  intro after written
  cases written
  obtain ⟨row, listed, enabled, rfl⟩ := occupied_iff.mp occupies
  exact switched_occupied listed (by rw [enabled, ite_self])

omit [Externals] in
/-- Switching one tunnel off leaves the ports of the others occupied. -/
theorem switchedOff_occupied {choice : Choice} {db : Database} {tunnel : TunnelRecord} {port : UInt16}
    (ids : (db.tunnels.map (·.id)).Nodup) (listed : tunnel ∈ db.tunnels) (other : port ≠ tunnel.publicPort)
    (occupies : occupied db port = true) :
    occupied (Db.setTunnelEnabled choice db tunnel.id false).1 port = true := by
  refine @Database.write_statement _ choice 0 db _ _ (fun after => occupied after port = true) occupies ?_
  intro after written
  cases written
  obtain ⟨row, member, enabled, rfl⟩ := occupied_iff.mp occupies
  refine switched_occupied member ?_
  have different : row.id ≠ tunnel.id := fun same =>
    other (congrArg (·.publicPort) (List.inj_on_of_nodup_map ids member listed same))
  rw [if_neg (by simpa using different), enabled]

omit [Externals] in
/-- The row of a tunnel switched on under the condition is enabled, or another
enabled row is on its port. -/
theorem switchedOn_holds {choice : Choice} {tunnel : TunnelRecord} (listed : tunnel ∈ world.db.tunnels)
    (meets : keepsPortsHeld world choice (.db (.setTunnelEnabled tunnel.id true)) = true) :
    occupied (Db.setTunnelEnabled choice world.db tunnel.id true).1 tunnel.publicPort = true := by
  rcases Bool.or_eq_true _ _ |>.mp meets with accepted | already
  · simp only [Db.setTunnelEnabled, Choice.statement, Option.isNone_iff_eq_none.mp accepted, Database.write]
    exact switched_occupied listed (by simp)
  · have there := List.all_eq_true.mp already tunnel listed
    simp only [bne_self_eq_false, Bool.false_or] at there
    exact switchedOn_occupied there

omit [Externals] in
/-- Releasing a port. -/
theorem PortsHeld.erase {port : UInt16} {after : World}
    (held : ∀ other ∈ world.allocatedPorts, other ≠ port → occupied after.db other = true)
    (ports : after.allocatedPorts = world.allocatedPorts.erase port) : after.PortsHeld := by
  intro other reserved
  rw [ports, Finset.mem_erase] at reserved
  exact held other reserved.2 reserved.1

theorem switchOn_keeps {tunnelId agentId : Uuid} {tunnel : TunnelRecord} (held : world.PortsHeld)
    (occupies : occupied world.db tunnel.publicPort = true) :
    (switchTunnel tunnelId agentId tunnel true).Always relay (fun after _ => after.PortsHeld) world := by
  refine always_guarded.mpr (access_always fun choice read sender executed => ?_)
  cases executed
  refine always_guarded.mpr (access_always fun choice after result executed => ?_)
  cases executed
  refine startIfServed_keeps (fun port reserved => ?_) fun _ kept => kept
  rcases Finset.mem_insert.mp reserved with rfl | old
  · exact occupies
  · exact held port old

theorem switchOff_keeps {tunnelId agentId : Uuid} {tunnel : TunnelRecord}
    (held : ∀ port ∈ world.allocatedPorts, port ≠ tunnel.publicPort → occupied world.db port = true) :
    (switchTunnel tunnelId agentId tunnel false).Always relay (fun after _ => after.PortsHeld) world := by
  refine always_guarded.mpr (access_always fun choice read sender executed => ?_)
  cases executed
  refine always_bind.mpr (withLock_always fun choice stopped result executed => ?_)
  cases executed
  refine always_bind.mpr (withLock_always fun choice released result executed => ?_)
  cases executed
  refine ifSome_always (fun _ => PortsHeld.erase held rfl) fun channel _ => ?_
  intro choice told result executed
  cases executed
  exact PortsHeld.erase held rfl

theorem toggleTunnel_keeps {id : String} (held : world.PortsHeld)
    (consistent : Consistent world.db world.drawn) :
    (toggleTunnel id).Always careful (fun after _ => after.PortsHeld) world := by
  refine always_bind.mpr ((read_always (fun _ _ _ => rfl) (fun _ => rfl) fun choice => ?_).restrict)
  cases answered : (Query.run choice world.portRange world.db (.getTunnelById id)).2 with
  | error failure => exact held
  | ok found =>
      cases found with
      | none => exact held
      | some tunnel =>
          have found := Except.ok.inj (Choice.statement_ok answered)
          have listed := List.mem_of_find?_eq_some found
          obtain rfl : tunnel.id = id := by simpa using List.find?_some found
          dsimp only
          split
          · exact held
          · exact held
          · refine always_bind.mpr (query_restricted fun choice meets fresh => ?_)
            refine always_bind.mpr (Always.restrict ?_)
            cases enabled : tunnel.enabled with
            | false =>
                rw [enabled] at meets
                refine switchOn_keeps (fun port reserved => ?_) (switchedOn_holds listed meets)
                exact switchedOn_occupied (held port reserved)
            | true =>
                refine switchOff_keeps fun port reserved other => ?_
                exact switchedOff_occupied consistent.tunnelIds listed other (held port reserved)

/-! ## Deleting a tunnel or an agent -/

theorem stopDeleted_keeps {tunnel : TunnelRecord} {tunnelId : Uuid}
    {post : World → Unit → Prop} (ends : ∀ after, after.db = world.db →
      after.allocatedPorts = world.allocatedPorts.erase tunnel.publicPort → post after ()) :
    (stopDeleted tunnel tunnelId).Always relay post world := by
  refine always_bind.mpr (withLock_always fun choice stopped result executed => ?_)
  cases executed
  refine always_bind.mpr (withLock_always fun choice released result executed => ?_)
  cases executed
  refine ifSome_always (fun _ => ends _ rfl rfl) fun agentId _ => ?_
  refine always_guarded.mpr (access_always fun choice read sender executed => ?_)
  cases executed
  refine ifSome_always (fun _ => ends _ rfl rfl) fun channel _ => ?_
  intro choice told result executed
  cases executed
  exact ends _ rfl rfl

omit [Externals] in
theorem filtered_occupied {db : Database} {keeps : TunnelRecord → Bool} {row : TunnelRecord}
    (listed : row ∈ db.tunnels) (enabled : row.enabled = true) (kept : keeps row = true) :
    occupied { db with tunnels := db.tunnels.filter keeps } row.publicPort = true :=
  occupied_iff.mpr ⟨row, List.mem_filter.mpr ⟨listed, kept⟩, enabled, rfl⟩

theorem deleteTunnel_keeps {id : String} (held : world.PortsHeld)
    (consistent : Consistent world.db world.drawn) :
    (deleteTunnel id).Always relay (fun after _ => after.PortsHeld) world := by
  refine always_bind.mpr (read_always (fun _ _ _ => rfl) (fun _ => rfl) fun choice => ?_)
  cases answered : (Query.run choice world.portRange world.db (.getTunnelById id)).2 with
  | error failure => exact held
  | ok found =>
      cases found with
      | none => exact held
      | some tunnel =>
          have found := Except.ok.inj (Choice.statement_ok answered)
          have listed := List.mem_of_find?_eq_some found
          obtain rfl : tunnel.id = id := by simpa using List.find?_some found
          obtain ⟨tunnelId, _, named⟩ := consistent.tunnelDrawn tunnel listed
          have parsed : parseUuid tunnel.id = some tunnelId := by rw [named, parseUuid_uuidToString]
          dsimp only
          rw [parsed]
          refine always_bind.mpr (stopDeleted_keeps fun after tables ports => ?_)
          refine always_bind.mpr (query_always fun choice drawn => ?_)
          refine PortsHeld.erase (fun port reserved other => ?_) ports
          rw [tables]
          refine @Database.write_statement _ choice 0 world.db _ _ (fun later => occupied later port = true)
            (held port reserved) fun later written => ?_
          cases written
          obtain ⟨row, member, enabled, rfl⟩ := occupied_iff.mp (held port reserved)
          refine filtered_occupied member enabled (bne_iff_ne.mpr fun same => other ?_)
          exact congrArg (·.publicPort) (List.inj_on_of_nodup_map consistent.tunnelIds member listed same)

omit [Externals] in
theorem deletedAgent_occupied {choice : Choice} {id : String} {port : UInt16} (held : world.PortsHeld)
    (meets : keepsPortsHeld world choice (.db (.deleteAgent id)) = true)
    (reserved : port ∈ world.allocatedPorts) :
    occupied (Db.deleteAgent choice world.db id).1 port = true := by
  have occupies := held port reserved
  have filtered : choice.refuses 0 = none →
      occupied { world.db with tunnels := world.db.tunnels.filter (·.agentId != id) } port = true := by
    intro accepted
    obtain ⟨row, listed, enabled, rfl⟩ := occupied_iff.mp occupies
    simp only [keepsPortsHeld, accepted, Option.isSome_none, Bool.false_or] at meets
    have spared := List.all_eq_true.mp meets row listed
    by_cases its : row.agentId = id
    · simpa [its, enabled, reserved] using spared
    · exact filtered_occupied listed enabled (bne_iff_ne.mpr its)
  cases refused : choice.refuses 0 with
  | some failure => simpa [Db.deleteAgent, Choice.statement, refused] using occupies
  | none =>
      simp only [Db.deleteAgent, Choice.statement, refused]
      refine @Database.write_statement _ choice 1 _ _ _ (fun later => occupied later port = true)
        (filtered refused) fun later written => ?_
      cases written
      exact filtered refused

theorem deleteAgent_keeps {id : String} (held : world.PortsHeld) :
    (deleteAgent id).Always careful (fun after _ => after.PortsHeld) world := by
  have deletes {after : World} (kept : after.PortsHeld) : ((query (.deleteAgent id)).bind
      fun _ => (done (.status .ok) : Relay Reply)).Always careful (fun after _ => after.PortsHeld) after :=
    always_bind.mpr (query_restricted fun choice meets fresh => fun port reserved =>
      deletedAgent_occupied kept meets reserved)
  refine always_bind.mpr (Always.restrict (ifSome_always (fun _ => deletes held) fun agentId _ => ?_))
  refine always_guarded.mpr (access_always fun choice removed sender executed => ?_)
  cases executed
  refine ifSome_always (fun _ => deletes held) fun channel _ => ?_
  intro choice told result executed
  cases executed
  exact deletes held

/-! ## Runs -/

theorem serve_keeps {job : Job} (held : world.PortsHeld) (consistent : Consistent world.db world.drawn) :
    (serve job).Always careful (fun after _ => after.PortsHeld) world := by
  cases keeps : job.strands with
  | false => exact (PortsHeld.of_keeping held keeps).restrict
  | true =>
      unfold Job.strands at keeps
      split at keeps
      · exact createTunnel_keeps held consistent
      · exact toggleTunnel_keeps held consistent
      · exact (deleteTunnel_keeps held consistent).restrict
      · exact deleteAgent_keeps held
      · contradiction

theorem Completed.reached {state : careful.State}
    (completed : @Completed _ careful (fun _ _ => True) (World.initial portRange Database.empty []) state) :
    ∃ threads, Reached anyStep portRange ⟨state, threads⟩ := by
  obtain ⟨threads, reached, _⟩ := (@Completed.unrestrict _ relay keepsPortsHeld _ _ _ completed).reachable
  exact ⟨threads, reached⟩

theorem Completed.portsHeld {state : careful.State}
    (completed : @Completed _ careful (fun _ _ => True) (World.initial portRange Database.empty []) state) :
    World.PortsHeld state := by
  induction completed with
  | initial => exact fun port reserved => by simp [World.initial] at reserved
  | @job before job after reply earlier _ performs ih =>
      obtain ⟨threads, reached⟩ := Completed.reached earlier
      have consistent := Reached.consistent reached
      refine @Performs.always _ careful before after job reply (fun later _ => World.PortsHeld later) performs
        fun admitted accepted => ?_
      obtain ⟨sessions, rfl⟩ := accept_same accepted
      exact serve_keeps ih consistent
  | reboot => exact fun port reserved => by simp [World.reboot, World.initial] at reserved

end Runs

end TunnelitRelay
