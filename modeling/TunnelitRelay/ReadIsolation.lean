import TunnelitRelay.Endpoints
import TunnelitRelay.ListenerTasks
import TunnelitRelay.Undisturbed
import TunnelitRelay.WriteIsolation

namespace TunnelitRelay

open Concurrent Program

/-! # What a tenant can read -/

/-- The process with its live telemetry. -/
structure HostState where
  process : Process
  liveTraffic : LiveTraffic

/-- A request, a frame, an action of a proxy, or a request that only reads. -/
inductive Visit where
  | work (work : Work)
  | getMe (headers : HeaderMap)
  | adminListUsers (headers : HeaderMap)
  | listAgents (headers : HeaderMap)
  | listTunnels (headers : HeaderMap)
  | getLiveStats
deriving DecidableEq

namespace Db

def listAllUsers (choice : Choice) (db : Database) : Except Failure (List UserRecord) :=
  choice.statement 0 (.ok ((db.users.insertionSort fun left right => right.createdAt ≤ left.createdAt).map
    (·.toUserRecord)))

def listAllAgents (choice : Choice) (db : Database) : Except Failure (List AgentRecord) :=
  choice.statement 0 (.ok (newestFirst db.agents))

def listAllTunnels (choice : Choice) (db : Database) : Except Failure (List TunnelRecord) :=
  choice.statement 0 (.ok (db.tunnels.insertionSort fun left right => right.createdAt ≤ left.createdAt))

end Db

/-- `AppState::record_traffic`; the release build wraps the sums. -/
def LiveTraffic.record (traffic : LiveTraffic) (tunnelId : Uuid) (bytesIn bytesOut : UInt64) : LiveTraffic :=
  let entry := (traffic tunnelId).getD (0, 0)
  Function.update traffic tunnelId (some (entry.1 + bytesIn, entry.2 + bytesOut))

/-- The bytes are recorded right before they are passed on, by the same task. -/
def Proxies.metered (proxies : Proxies) (traffic : LiveTraffic) : ProxyAction → LiveTraffic
  | .forward connId =>
      match proxies.connections connId with
      | some connection =>
          match connection.stage with
          | .forwarding bytes => traffic.record connection.tunnelId (.ofNat bytes.length) 0
          | _ => traffic
      | .none => traffic
  | .writeAll connId | .writeError connId =>
      match proxies.connections connId with
      | some connection =>
          match connection.stage with
          | .writing data => traffic.record connection.tunnelId 0 (.ofNat data.length)
          | _ => traffic
      | .none => traffic
  | .forwardDatagram task =>
      match proxies.listeners task with
      | some listener =>
          match listener.stage with
          | .forwarding _ bytes => traffic.record listener.tunnelId (.ofNat bytes.length) 0
          | _ => traffic
      | .none => traffic
  | .sendTo task =>
      match proxies.listeners task with
      | some listener =>
          match listener.stage with
          | .replying _ _ data => traffic.record listener.tunnelId 0 (.ofNat data.length)
          | _ => traffic
      | .none => traffic
  | _ => traffic

section Host

variable [Externals]

def HostState.exec (state : HostState) (choice : Choice) : (op : HostOp) → Option (HostState × op.Result)
  | .relay op => (TunnelitRelay.process.exec state.process choice op).map fun (process, result) => ({ state with process }, result)
  | .listAllUsers => some (state, Db.listAllUsers choice state.process.world.db)
  | .listAllAgents => some (state, Db.listAllAgents choice state.process.world.db)
  | .listAllTunnels => some (state, Db.listAllTunnels choice state.process.world.db)
  | .liveTraffic => some (state, state.liveTraffic)
  | .recordTraffic tunnelId bytesIn bytesOut =>
      some ({ state with liveTraffic := state.liveTraffic.record tunnelId bytesIn bytesOut }, ())
  | .insertConnSender connId =>
      some ({ state with process := { state.process with world := state.process.world.setConnSender connId true } }, ())

def HostState.accept (state : HostState) : Visit → Option HostState
  | .work (.serve job) => (TunnelitRelay.process.accept state.process (.serve job)).map fun process => { state with process }
  | .work (.proxy action) => (TunnelitRelay.process.accept state.process (.proxy action)).map fun process =>
      { process, liveTraffic := state.process.proxies.metered state.liveTraffic action }
  | _ => some state

def Visit.program : Visit → Host HostReply
  | .work job => do
      let reply ← fromRelay (process.program job)
      return .relay reply
  | .getMe headers => TunnelitRelay.getMe headers
  | .adminListUsers headers => TunnelitRelay.adminListUsers headers
  | .listAgents headers => TunnelitRelay.listAgents headers
  | .listTunnels headers => TunnelitRelay.listTunnels headers
  | .getLiveStats => TunnelitRelay.getLiveStats

abbrev host : System hostSignature where
  State := HostState
  Choice := Choice
  Job := Visit
  Reply := HostReply
  exec := HostState.exec
  accept := HostState.accept
  program := Visit.program
  reboot := fun state => { process := TunnelitRelay.process.reboot state.process, liveTraffic := fun _ => none }

/-! ## Isolation -/

variable {headers : HeaderMap} {state left right : HostState} {reply : HostReply}

/-- The requests a tenant can read with. -/
def visiting (headers : HeaderMap) : List Visit :=
  [.getMe headers, .listAgents headers, .listTunnels headers, .getLiveStats]

/-- The request can be answered so. -/
def Responds (state : HostState) (program : Host HostReply) (reply : HostReply) : Prop :=
  ∃ after, program.Executes host [] state [] after reply

/-- The user the headers belong to. -/
def HostState.caller (state : HostState) (headers : HeaderMap) : Option String :=
  (extractToken headers).bind state.process.world.userSessions

def HostState.Tenant (state : HostState) (headers : HeaderMap) : Prop :=
  ∀ token, extractToken headers = some token → state.process.world.adminSessions token = false

/-- The rows of one user. -/
structure SameRows (userId : String) (left right : Database) : Prop where
  users : left.users.filter (·.id == userId) = right.users.filter (·.id == userId)
  agents : left.agents.filter (·.userId == some userId) = right.agents.filter (·.userId == some userId)
  tunnels : left.tunnels.filter (·.userId == some userId) = right.tunnels.filter (·.userId == some userId)

/-- The states have the same sessions, the same rows of the caller and the same
traffic of the caller's tunnels. -/
structure Alike (headers : HeaderMap) (left right : HostState) : Prop where
  userSessions : left.process.world.userSessions = right.process.world.userSessions
  adminSessions : left.process.world.adminSessions = right.process.world.adminSessions
  rows : ∀ userId, left.caller headers = some userId → SameRows userId left.process.world.db right.process.world.db
  traffic : ∀ userId, left.caller headers = some userId → ∀ row ∈ left.process.world.db.tunnels,
    row.userId = some userId → ∀ tunnelId, parseUuid row.id = some tunnelId →
      left.liveTraffic tunnelId = right.liveTraffic tunnelId

/-- The caller cannot tell the states apart. -/
def Indistinct (headers : HeaderMap) (left right : HostState) : Prop :=
  ∀ visit ∈ visiting headers, ∀ reply, Responds left visit.program reply ↔ Responds right visit.program reply

omit [Externals] in
theorem SameRows.symm {userId : String} {one two : Database} (same : SameRows userId one two) :
    SameRows userId two one :=
  ⟨same.users.symm, same.agents.symm, same.tunnels.symm⟩

theorem Alike.caller (alike : Alike headers left right) : left.caller headers = right.caller headers := by
  rw [HostState.caller, HostState.caller, alike.userSessions]

theorem Alike.symm (alike : Alike headers left right) : Alike headers right left := by
  refine ⟨alike.userSessions.symm, alike.adminSessions.symm, fun userId called => ?_, ?_⟩
  · exact (alike.rows userId (alike.caller.trans called)).symm
  · intro userId called row listed owned tunnelId named
    have mine : row ∈ right.process.world.db.tunnels.filter (·.userId == some userId) :=
      List.mem_filter.mpr ⟨listed, by simp [owned]⟩
    rw [← (alike.rows userId (alike.caller.trans called)).tunnels] at mine
    exact (alike.traffic userId (alike.caller.trans called) row (List.mem_of_mem_filter mine) owned tunnelId named).symm

theorem Responds.bind {program : Host α} {rest : α → Host HostReply} {value : α}
    (executes : program.Executes host [] state [] state value) (responds : Responds state (rest value) reply) :
    Responds state (program.bind rest) reply := by
  obtain ⟨after, executed⟩ := responds
  exact ⟨after, executes.bind executed⟩

theorem caller_always : (fromRelay (getCurrentUserId headers)).Always host
    (fun after user => after = state ∧ user = state.caller headers) state := by
  unfold getCurrentUserId HostState.caller
  cases extractToken headers with
  | none => exact ⟨rfl, rfl⟩
  | some token =>
      intro choice after result executed
      cases executed
      exact ⟨rfl, rfl⟩

theorem caller_executes : (fromRelay (getCurrentUserId headers)).Executes host [] state [] state
    (state.caller headers) := by
  unfold getCurrentUserId HostState.caller
  cases extractToken headers with
  | none => exact ⟨rfl, rfl, rfl⟩
  | some token =>
      exact ⟨fun own holds => by simp at holds, calm, state, _, rfl, by simp [dropGuard, intoHost], rfl, rfl⟩

theorem isAdmin_always (tenant : state.Tenant headers) : (fromRelay (isAdmin headers)).Always host
    (fun after admin => after = state ∧ admin = false) state := by
  unfold isAdmin
  cases extracted : extractToken headers with
  | none => exact ⟨rfl, rfl⟩
  | some token =>
      intro choice after result executed
      cases executed
      exact ⟨rfl, tenant token extracted⟩

theorem isAdmin_false (tenant : state.Tenant headers) :
    (fromRelay (isAdmin headers)).Executes host [] state [] state false := by
  unfold isAdmin
  cases extracted : extractToken headers with
  | none => exact ⟨rfl, rfl, rfl⟩
  | some token =>
      refine ⟨fun own holds => by simp at holds, calm, state, _, rfl, by simp [dropGuard, intoHost], rfl, ?_⟩
      exact (tenant token extracted).symm

/-! ## Queries -/

/-- The query changes nothing and draws nothing. -/
def Query.reads (query : Query) : Prop :=
  ∀ choice portRange db, (query.run choice portRange db).1 = db ∧ query.draws choice = []

theorem query_always_host {query' : Query} (reads : query'.reads) : (fromRelay (query query')).Always host
    (fun after answer => after = state ∧ ∃ choice, answer =
      (query'.run choice state.process.world.portRange state.process.world.db).2) state := by
  intro choice after result executed
  have calls : exec state.process.world choice (.db query') =
      some (state.process.world, (query'.run choice state.process.world.portRange state.process.world.db).2) := by
    obtain ⟨same, draws⟩ := reads choice state.process.world.portRange state.process.world.db
    simp [exec, draws, same]
  have executed' : HostState.exec state choice (.relay (.db query')) = some (after, result) := executed
  simp only [HostState.exec, calls, Option.map_some] at executed'
  cases executed'
  exact ⟨rfl, choice, rfl⟩

theorem query_executes_host {query' : Query} (reads : query'.reads) (choice : Choice) :
    (fromRelay (query query')).Executes host [] state [] state
      (query'.run choice state.process.world.portRange state.process.world.db).2 := by
  have calls : exec state.process.world choice (.db query') =
      some (state.process.world, (query'.run choice state.process.world.portRange state.process.world.db).2) := by
    obtain ⟨same, draws⟩ := reads choice state.process.world.portRange state.process.world.db
    simp [exec, draws, same]
  refine ⟨fun own holds => by simp at holds, choice, state, _, ?_, by simp [dropGuard, intoHost], rfl, rfl⟩
  change HostState.exec state choice (.relay (.db query')) = _
  simp only [HostState.exec, calls, Option.map_some]
  rfl

/-- A request that ends with a query answers alike where the query does. -/
theorem query_transfers {query' : Query} {rest : Except Failure query'.Value → Host HostReply} (reads : query'.reads)
    (ends : ∀ answer, ∃ reply, rest answer = .done reply)
    (same : ∀ choice, (query'.run choice left.process.world.portRange left.process.world.db).2 =
      (query'.run choice right.process.world.portRange right.process.world.db).2) :
    ((fromRelay (query query')).bind rest).Always host
      (fun _ reply => Responds right ((fromRelay (query query')).bind rest) reply) left := by
  refine always_bind.mpr ((query_always_host reads).mono fun after answer ⟨_, choice, answered⟩ => ?_)
  obtain ⟨reply, ended⟩ := ends answer
  rw [ended]
  refine .bind (query_executes_host reads choice) ?_
  rw [← same, ← answered, ended]
  exact ⟨right, rfl, rfl, rfl⟩

/-- A request that begins by looking for the caller. -/
theorem caller_transfers {rest : Option String → Host HostReply} (alike : Alike headers left right)
    (later : (rest (left.caller headers)).Always host (fun _ reply => Responds right (rest (left.caller headers)) reply) left) :
    ((fromRelay (getCurrentUserId headers)).bind rest).Always host
      (fun _ reply => Responds right ((fromRelay (getCurrentUserId headers)).bind rest) reply) left := by
  refine always_bind.mpr (caller_always.mono ?_)
  rintro _ _ ⟨rfl, rfl⟩
  exact later.mono fun _ reply responds => .bind caller_executes (alike.caller ▸ responds)

theorem isAdmin_transfers {rest : Bool → Host HostReply} (tenant : left.Tenant headers) (tenant' : right.Tenant headers)
    (later : (rest false).Always host (fun _ reply => Responds right (rest false) reply) left) :
    ((fromRelay (isAdmin headers)).bind rest).Always host
      (fun _ reply => Responds right ((fromRelay (isAdmin headers)).bind rest) reply) left := by
  refine always_bind.mpr ((isAdmin_always tenant).mono ?_)
  rintro _ _ ⟨rfl, rfl⟩
  exact later.mono fun _ reply responds => .bind (isAdmin_false tenant') responds

/-! ## The requests -/

theorem done_transfers : (Program.done reply : Host HostReply).Always host
    (fun _ reply' => Responds right (.done reply) reply') left :=
  ⟨right, rfl, rfl, rfl⟩

theorem getMe_transfers (alike : Alike headers left right) :
    (getMe headers).Always host (fun _ reply => Responds right (getMe headers) reply) left := by
  refine caller_transfers alike ?_
  cases called : left.caller headers with
  | none => exact done_transfers
  | some userId =>
      refine query_transfers (fun _ _ _ => ⟨rfl, rfl⟩) (fun answer => ?_) fun choice => ?_
      · match answer with
        | .error _ | .ok none | .ok (some _) => exact ⟨_, rfl⟩
      · have same := congrArg List.head? (alike.rows userId called).users
        simp only [List.head?_filter] at same
        simp only [Query.run, Db.getUserById, same]

theorem listAgents_transfers (alike : Alike headers left right) (tenant : left.Tenant headers)
    (tenant' : right.Tenant headers) :
    (listAgents headers).Always host (fun _ reply => Responds right (listAgents headers) reply) left := by
  refine isAdmin_transfers tenant tenant' (caller_transfers alike ?_)
  cases called : left.caller headers with
  | none => exact done_transfers
  | some userId =>
      refine query_transfers (fun _ _ _ => ⟨rfl, rfl⟩) (fun answer => ⟨_, rfl⟩) fun choice => ?_
      simp only [Query.run, Db.listAgentsForUser, (alike.rows userId called).agents]

theorem listTunnels_transfers (alike : Alike headers left right) (tenant : left.Tenant headers)
    (tenant' : right.Tenant headers) :
    (listTunnels headers).Always host (fun _ reply => Responds right (listTunnels headers) reply) left := by
  refine isAdmin_transfers tenant tenant' (caller_transfers alike ?_)
  cases called : left.caller headers with
  | none => exact done_transfers
  | some userId =>
      refine query_transfers (fun _ _ _ => ⟨rfl, rfl⟩) (fun answer => ⟨_, rfl⟩) fun choice => ?_
      simp only [Query.run, Db.listTunnelsForUser, (alike.rows userId called).tunnels]

/-- The statistics are those of every tunnel. -/
theorem getLiveStats_responds : Responds state getLiveStats reply ↔ reply = .stats (statsOf state.liveTraffic) := by
  constructor
  · rintro ⟨after, _, choice, middle, traffic, executed, _, _, rfl⟩
    cases executed
    rfl
  · rintro rfl
    exact ⟨state, fun own holds => by simp at holds, calm, state, _, rfl, by simp [dropGuard], rfl, rfl⟩

/-- What is printed of the traffic determines it. -/
theorem statsOf_injective {traffic other : LiveTraffic} (same : statsOf traffic = statsOf other) : traffic = other := by
  funext tunnelId
  have entries := congrFun same (uuidToString tunnelId)
  simp only [statsOf, parseUuid_uuidToString, if_true] at entries
  cases one : traffic tunnelId <;> cases two : other tunnelId <;> simp [one, two] at entries ⊢
  exact Prod.ext entries.1 entries.2.1

/-- A tenant cannot tell two states apart that agree on what is the tenant's if
and only if they agree on the traffic of all tunnels. -/
theorem tenant_reads_own (alike : Alike headers left right) (tenant : left.Tenant headers) :
    Indistinct headers left right ↔ left.liveTraffic = right.liveTraffic := by
  have tenant' : right.Tenant headers := fun token extracted => alike.adminSessions ▸ tenant token extracted
  have both {program : Host HostReply}
      (there : program.Always host (fun _ reply => Responds right program reply) left)
      (back : program.Always host (fun _ reply => Responds left program reply) right) (reply : HostReply) :
      Responds left program reply ↔ Responds right program reply :=
    ⟨fun ⟨_, executes⟩ => executes.always there, fun ⟨_, executes⟩ => executes.always back⟩
  constructor
  · intro indistinct
    have answers := (indistinct .getLiveStats (by simp [visiting]) _).mp (getLiveStats_responds.mpr rfl)
    exact statsOf_injective (HostReply.stats.inj (getLiveStats_responds.mp answers))
  · intro traffic visit listed reply
    simp only [visiting, List.mem_cons, List.not_mem_nil, or_false] at listed
    rcases listed with rfl | rfl | rfl | rfl
    · exact both (getMe_transfers alike) (getMe_transfers alike.symm) reply
    · exact both (listAgents_transfers alike tenant tenant') (listAgents_transfers alike.symm tenant' tenant) reply
    · exact both (listTunnels_transfers alike tenant tenant') (listTunnels_transfers alike.symm tenant' tenant) reply
    · exact getLiveStats_responds.trans (traffic ▸ getLiveStats_responds.symm)

/-! ## Traffic while nobody makes a request -/

/-- The proxies perform the actions one after the other. -/
def HostState.acts : List ProxyAction → HostState → Option HostState
  | [], state => some state
  | action :: rest, state => (state.accept (.work (.proxy action))).bind (acts rest)

/-- Traffic changes no session and no row. -/
theorem HostState.acts_alike {actions : List ProxyAction} {after : HostState} (acted : state.acts actions = some after) :
    after.process.world.db = state.process.world.db ∧
      after.process.world.userSessions = state.process.world.userSessions ∧
        after.process.world.adminSessions = state.process.world.adminSessions := by
  induction actions generalizing state with
  | nil =>
      cases acted
      exact ⟨rfl, rfl, rfl⟩
  | cons action rest ih =>
      obtain ⟨middle, accepted, acted⟩ := Option.bind_eq_some_iff.mp acted
      obtain ⟨between, performs, rfl⟩ := Option.map_eq_some_iff.mp accepted
      obtain ⟨⟨world, proxies⟩, performed, rfl⟩ := Option.map_eq_some_iff.mp performs
      obtain ⟨sent, tcpConnSenders, drawn, same⟩ := Proxies.perform_world performed
      obtain ⟨rows, users, admins⟩ := ih acted
      subst same
      exact ⟨rows, users, admins⟩

theorem HostState.acts_reached {initial : HostState} {actions : List ProxyAction} {threads : List (Thread host)}
    {after : HostState} (reached : @Reachable _ host anyStep initial ⟨state, threads⟩)
    (acted : state.acts actions = some after) :
    ∃ threads, @Reachable _ host anyStep initial ⟨after, threads⟩ := by
  induction actions generalizing state threads with
  | nil =>
      cases acted
      exact ⟨threads, reached⟩
  | cons action rest ih =>
      obtain ⟨middle, accepted, acted⟩ := Option.bind_eq_some_iff.mp acted
      exact ih (reached.tail ⟨.start (.work (.proxy action)), trivial, .start accepted⟩) acted

end Host

/-- A host just started on an empty database. -/
def newHost : HostState := { process := newProcess, liveTraffic := fun _ => none }

/-- Alice's tunnel is open, and Bob has registered. -/
def bobRegistered : List (Visit × Choice) :=
  (tunnelOpened ++ [(Work.serve (.register { username := "bob", password := "secret" }), answer 4 0)]).map
    fun entry => (.work entry.1, entry.2)

/-- A client of Alice's tunnel sends a byte; Bob's rows and sessions are the same
before and after it. -/
theorem bob_alike : ∃ first last : Config host, Reachable anyStep newHost first ∧ Reachable anyStep newHost last ∧
    Alike (signedIn 4) first.state last.state ∧ first.state.Tenant (signedIn 4) ∧
      first.state.liveTraffic 6 ≠ last.state.liveTraffic 6 := by
  have passed : (host.performAll bobRegistered newHost).any (fun first : HostState =>
      (first.acts [.check 0, .accept 0 1000, .register 0, .arrive 1000 [1], .read 1000 1, .forward 1000]).any fun last =>
        (first.process.world.db.tunnels.all fun row => row.userId != first.caller (signedIn 4)) &&
          ((extractToken (signedIn 4)).all fun token => !first.process.world.adminSessions token) &&
            first.liveTraffic 6 != last.liveTraffic 6) = true := by decide +kernel
  obtain ⟨first, threads, reached, _, later⟩ := @System.performAll_check _ host _ _ _ passed
  obtain ⟨last, acted, tested⟩ := (Option.any_eq_true _ _).mp later
  simp only [Bool.and_eq_true] at tested
  obtain ⟨⟨foreign, tenant⟩, traffic⟩ := tested
  obtain ⟨threads', reached'⟩ := HostState.acts_reached reached acted
  obtain ⟨rows, users, admins⟩ := HostState.acts_alike acted
  refine ⟨_, _, reached, reached', ⟨users.symm, admins.symm, fun userId _ => ?_, ?_⟩, ?_, by simpa using traffic⟩
  · rw [rows]
    exact ⟨rfl, rfl, rfl⟩
  · intro userId called row listed owned
    have other := List.all_eq_true.mp foreign row listed
    simp [owned, called] at other
  · intro token extracted
    rw [extracted] at tenant
    simpa using tenant

theorem tenant_reads_own_bob : ∃ left right : HostState, left.liveTraffic 6 ≠ right.liveTraffic 6 ∧
    (Indistinct (signedIn 4) left right ↔ left.liveTraffic = right.liveTraffic) := by
  obtain ⟨first, last, _, _, alike, tenant, traffic⟩ := bob_alike
  exact ⟨first.state, last.state, traffic, tenant_reads_own alike tenant⟩

/-- Bob sees that a client of Alice's tunnel has sent something. -/
theorem bob_watches : ¬ ∀ (first last : Config host) (headers : HeaderMap), Reachable anyStep newHost first →
    Reachable anyStep newHost last → Alike headers first.state last.state → first.state.Tenant headers →
      Indistinct headers first.state last.state := by
  intro always
  obtain ⟨first, last, reached, reached', alike, tenant, traffic⟩ := bob_alike
  have indistinct := always first last (signedIn 4) reached reached' alike tenant
  have answers := (indistinct .getLiveStats (by simp [visiting]) _).mp (getLiveStats_responds.mpr rfl)
  have same := statsOf_injective (HostReply.stats.inj (getLiveStats_responds.mp answers))
  exact traffic (congrFun same 6)

end TunnelitRelay
