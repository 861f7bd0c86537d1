import TunnelitRelay.BannedTunnels
import TunnelitRelay.Departed

namespace TunnelitRelay

open Concurrent

/-! # The end of a session and the other sessions

The teardown goes by the agent id and the claim code the session remembers.  It
takes out what stands under them, whoever has put it there: an agent that
reconnects before its old session has ended is taken out by the old one.
-/

section Parting

variable [Externals] {portRange : UInt16 × UInt16} {session other : SessionId} {locals : Session}
  {config : Config relay} {row : TunnelRecord}

/-- What a session is registered for stays as it is. -/
structure LeavesAlone (before after : World) (session : SessionId) : Prop where
  senders : ∀ agentId, before.agentSenders agentId = some session → after.agentSenders agentId = some session
  claims : ∀ code, before.pendingClaims code = some session → after.pendingClaims code = some session
  online : ∀ agentId, before.agentSenders agentId = some session →
    ∀ row ∈ before.db.agents, row.id = uuidToString agentId → row ∈ after.db.agents
  tasks : ∀ tunnelId handle, before.tunnelTasks tunnelId = some handle → handle.sender = session →
    after.tunnelTasks tunnelId = some handle ∧
      (handle.port ∈ before.allocatedPorts → handle.port ∈ after.allocatedPorts)

/-- Another session, which has not hung up. -/
def another (world : World) (session other : SessionId) : Bool :=
  other != session && (world.sessions other).all fun locals => decide (locals.phase = .reading)

def listedRows : Event relaySignature → List TunnelRecord
  | ⟨.db (.listTunnelsForAgent _), .ok rows⟩ => rows
  | _ => []

/-- The rows whose listeners the teardown of the session stops. -/
def stopRows (config : Config relay) (session : SessionId) (locals : Session) : List TunnelRecord :=
  (config.state.db.tunnels.filter fun row =>
    locals.authenticatedAgentId.any fun agentId => uuidToString agentId == row.agentId) ++
  config.threads.flatMap fun thread =>
    if thread.job = .frame session .hangup then thread.past.flatMap listedRows else []

/-- Stopping the listener of the row leaves this one alone. -/
def spares (row : TunnelRecord) (tunnelId : Uuid) (handle : JoinHandle) : Bool :=
  parseUuid row.id != some tunnelId && row.publicPort != handle.port

/-- The running listeners pass a test. -/
def allTasks (config : Config relay) (test : Uuid → JoinHandle → Bool) : Bool :=
  config.threads.all fun thread => thread.past.all fun event =>
    match event.1 with
    | .insertTunnelTask tunnelId _ => (config.state.tunnelTasks tunnelId).all (test tunnelId)
    | _ => true

/-- No other session is registered for what the session remembers. -/
def alone (config : Config relay) (session : SessionId) (locals : Session) : Bool :=
  (locals.currentClaimCode.all fun code =>
    (config.state.pendingClaims code).all fun other => !another config.state session other) &&
  (locals.authenticatedAgentId.all fun agentId =>
    (config.state.agentSenders agentId).all fun other => !another config.state session other) &&
  allTasks config fun tunnelId handle => !another config.state session handle.sender ||
    (stopRows config session locals).all fun row => spares row tunnelId handle

/-- A test passed by every session whose teardown is in progress. -/
def allClosing (config : Config relay) (test : SessionId → Session → Bool) : Bool :=
  config.threads.all fun thread =>
    match thread.job with
    | .frame session .hangup => (config.state.sessions session).all fun locals =>
        decide (locals.phase ≠ .closing) || test session locals
    | _ => true

/-- A session hangs up only when no other session is registered for the agent and
the code it remembers, and no other session is registered for them while it is
torn down. -/
def partsAlone : Check relay := fun config _ _ op =>
  match op with
  | .abortSendTask session => (config.state.sessions session).all (alone config session)
  | .insertPendingClaim code other => allClosing config fun session locals =>
      !another config.state session other || locals.currentClaimCode != some code
  | .insertAgentSender agentId other => allClosing config fun session locals =>
      !another config.state session other || locals.authenticatedAgentId != some agentId
  | .insertTunnelTask tunnelId handle => allClosing config fun session locals =>
      !another config.state session handle.sender ||
        (stopRows config session locals).all fun row => spares row tunnelId handle
  | .db (.createTunnel agentId _ _ _ _ publicPort _) => allClosing config fun session locals =>
      locals.authenticatedAgentId.all (uuidToString · != agentId) ||
        allTasks config fun _ handle => !another config.state session handle.sender || publicPort != handle.port
  | _ => true

/-- No other session is in the way of the teardown. -/
structure Parting (config : Config relay) (session : SessionId) (locals : Session) : Prop where
  claims : ∀ other, another config.state session other = true → ∀ code,
    locals.currentClaimCode = some code → config.state.pendingClaims code ≠ some other
  senders : ∀ other, another config.state session other = true → ∀ agentId,
    locals.authenticatedAgentId = some agentId → config.state.agentSenders agentId ≠ some other
  tasks : ∀ tunnelId handle, config.state.tunnelTasks tunnelId = some handle →
    another config.state session handle.sender = true →
    ∀ row ∈ stopRows config session locals, spares row tunnelId handle = true

def Apart (config : Config relay) : Prop :=
  ∀ session locals, config.state.sessions session = some locals → locals.phase = .closing →
    Parting config session locals

theorem mem_stopRows : row ∈ stopRows config session locals ↔
    (row ∈ config.state.db.tunnels ∧ ∃ agentId, locals.authenticatedAgentId = some agentId ∧
      row.agentId = uuidToString agentId) ∨
    ∃ thread ∈ config.threads, thread.job = .frame session .hangup ∧
      ∃ id rows, Did thread.past (.db (.listTunnelsForAgent id)) (.ok rows) ∧ row ∈ rows := by
  simp only [stopRows, List.mem_append, List.mem_filter, Option.any_eq_true, beq_iff_eq, List.mem_flatMap]
  refine or_congr (and_congr_right fun _ => ?_) ?_
  · exact exists_congr fun agentId => and_congr_right fun _ => eq_comm
  · refine exists_congr fun thread => and_congr_right fun _ => ?_
    by_cases hangs : thread.job = .frame session .hangup
    · simp only [hangs, if_true, true_and, List.mem_flatMap]
      constructor
      · rintro ⟨event, did, member⟩
        unfold listedRows at member
        split at member
        · exact ⟨_, _, did, member⟩
        · simp at member
      · rintro ⟨id, rows, did, member⟩
        exact ⟨_, did, member⟩
    · simp [hangs]

theorem allTasks_iff {test : Uuid → JoinHandle → Bool} (recorded : Recorded config) :
    allTasks config test = true ↔
      ∀ tunnelId handle, config.state.tunnelTasks tunnelId = some handle → test tunnelId handle = true := by
  constructor
  · intro passed tunnelId handle there
    have tested := passed_of_done passed (recorded.tasks tunnelId handle there)
    simpa [there] using tested
  · intro each
    simp only [allTasks, List.all_eq_true]
    intro thread _ event _
    split
    · rename_i tunnelId _ _
      rw [Option.all_eq_true]
      exact fun handle there => each tunnelId handle there
    · rfl

theorem test_of_closing {test : SessionId → Session → Bool} (hung : HungUp config)
    (passed : allClosing config test = true) (known : config.state.sessions session = some locals)
    (closes : locals.phase = .closing) : test session locals = true := by
  obtain ⟨thread, member, hangs⟩ := hung.closing session locals known closes
  have tested := List.all_eq_true.mp passed thread member
  simpa [hangs, known, closes] using tested

omit [Externals] in
theorem session_stays {world state : World} {job : Job} (admitted : accept world job = some state)
    (there : world.sessions session ≠ none) : state.sessions session ≠ none := by
  rcases accept_sessions admitted with ⟨opened, _, _, _, _, changed⟩ |
    ⟨occupied, _, _, _, _, _, _, changed⟩ | ⟨_, changed⟩
  · by_cases here : session = opened <;> simp [changed, here, there]
  · by_cases here : session = occupied <;> simp [changed, here, there]
  · rwa [changed]

omit [Externals] in
theorem another_iff {world : World} : another world session other = true ↔
    other ≠ session ∧ ∀ locals, world.sessions other = some locals → locals.phase = .reading := by
  simp [another, Option.all_eq_true]

section Step

variable {before after : Config relay} {task : Nat} {thread : Thread relay} {choice : Choice} {op : Op}
  {result : op.Result}

/-- A session that has not hung up after a step had not before. -/
theorem another_before (called : Called before task thread choice op result after)
    (live : another after.state session other = true) : another before.state session other = true := by
  obtain ⟨different, reads⟩ := another_iff.mp live
  refine another_iff.mpr ⟨different, fun locals known => ?_⟩
  have there := @exec_session _ _ _ _ other _ _ called.executed
  rw [known] at there
  split at there
  · exact phase_after op (reads _ there)
  · exact reads _ there

/-- The row was created by the step, for the agent of the session and under a new identifier. -/
def NewRow (before : Config relay) (op : Op) (locals : Session) (row : TunnelRecord) : Prop :=
  ∃ agentId userId name localPort protocol subdomain,
    op = .db (.createTunnel agentId userId name localPort protocol row.publicPort subdomain) ∧
    (∃ owner, locals.authenticatedAgentId = some owner ∧ agentId = uuidToString owner) ∧
    ∃ id, id ∉ before.state.drawn ∧ row.id = uuidToString id

/-- A row of an agent after a step was one of its rows before, or is new. -/
theorem agentRow_origin (called : Called before task thread choice op result after) {agentId : Uuid}
    (remembers : locals.authenticatedAgentId = some agentId) (listed : row ∈ after.state.db.tunnels)
    (attached : row.agentId = uuidToString agentId) :
    (∃ old ∈ before.state.db.tunnels, old.agentId = uuidToString agentId ∧ old.id = row.id ∧
      old.publicPort = row.publicPort) ∨ NewRow before op locals row := by
  rcases exec_change called.executed with ⟨query, rfl, change, _⟩ | ⟨same, _⟩
  · obtain ⟨_, _, fresh⟩ := exec_db called.executed
    generalize after.state.db = later at listed change
    cases change with
    | detached | deleted | closed => exact .inl ⟨row, (List.mem_filter.mp listed).1, attached, rfl, rfl⟩
    | switched | edited =>
        obtain ⟨old, member, rfl⟩ := List.mem_map.mp listed
        refine .inl ⟨old, member, ?_⟩
        split at attached
        · rename_i hit
          simp only [hit, if_true]
          exact ⟨attached, trivial, trivial⟩
        · rename_i miss
          simp only [miss]
          exact ⟨attached, rfl, rfl⟩
    | opened named _ _ fields =>
        rcases List.mem_append.mp listed with old | new
        · exact .inl ⟨row, old, attached, rfl, rfl⟩
        · have same := List.mem_singleton.mp new
          subst same
          obtain ⟨rfl, _, rfl, _⟩ := fields
          exact .inr ⟨_, _, _, _, _, _, rfl, ⟨agentId, remembers, attached⟩, choice.id,
            fresh _ (List.mem_singleton.mpr rfl), named⟩
    | _ => exact .inl ⟨row, listed, attached, rfl, rfl⟩
  · exact .inl ⟨row, same ▸ listed, attached, rfl, rfl⟩

theorem stopRows_origin (lawful : before.Lawful contract) (attended : Attended before)
    (called : Called before task thread choice op result after) {later : Session}
    (known : before.state.sessions session = some locals)
    (remembers : later.authenticatedAgentId = locals.authenticatedAgentId)
    (listed : row ∈ stopRows after session later) :
    (∃ old ∈ stopRows before session locals, old.id = row.id ∧ old.publicPort = row.publicPort) ∨
      NewRow before op locals row := by
  rcases mem_stopRows.mp listed with
    ⟨there, agentId, same, attached⟩ | ⟨closer, member, hangs, id, rows, did, inside⟩
  · rw [remembers] at same
    refine (agentRow_origin called same there attached).imp_left ?_
    rintro ⟨old, found, owned, alike⟩
    exact ⟨old, mem_stopRows.mpr (.inl ⟨found, agentId, same, owned⟩), alike⟩
  · refine .inl ⟨row, mem_stopRows.mpr ?_, rfl, rfl⟩
    obtain ⟨index, there⟩ := List.mem_iff_getElem?.mp member
    rcases called.origin there with ⟨_, job, _, past⟩ | ⟨_, old⟩
    · rw [job] at hangs
      rw [past] at did
      rcases did_cons.mp did with now | earlier
      · cases now
        obtain ⟨agentId, code, _, read, rfl, _⟩ := tearsDown_of_hangup lawful called hangs
        obtain ⟨found, same, settled, _⟩ :=
          attended.settled thread called.member session (some agentId) code hangs read
        rw [known, Option.some.injEq] at same
        subst same
        have executed : exec before.state choice (.db (.listTunnelsForAgent (uuidToString agentId))) =
          some (after.state, .ok rows) := called.executed
        obtain ⟨_, answer, _⟩ := exec_db executed
        have rows' := Except.ok.inj (Choice.statement_ok answer.symm)
        rw [← rows', Db.oldestFirst, List.mem_insertionSort] at inside
        obtain ⟨listed', attached⟩ := List.mem_filter.mp inside
        exact .inl ⟨listed', agentId, settled, by simpa using attached⟩
      · exact .inr ⟨thread, called.member, hangs, id, rows, earlier, inside⟩
    · exact .inr ⟨closer, List.mem_of_getElem? old, hangs, id, rows, did, inside⟩

omit [Externals] in
theorem spares_alike [Externals] {old : TunnelRecord} {tunnelId : Uuid} {handle : JoinHandle}
    (spared : spares old tunnelId handle = true) (named : old.id = row.id)
    (port : old.publicPort = row.publicPort) : spares row tunnelId handle = true := by
  rwa [spares, named, port] at spared

/-- No other session gets in the way by a step that does not register one for what
this session remembers. -/
theorem Parting.step {later : Session} (parting : Parting before session locals)
    (lawful : before.Lawful contract) (attended : Attended before)
    (drawn : ∀ tunnelId handle, before.state.tunnelTasks tunnelId = some handle → tunnelId ∈ before.state.drawn)
    (called : Called before task thread choice op result after)
    (known : before.state.sessions session = some locals)
    (agent : later.authenticatedAgentId = locals.authenticatedAgentId)
    (claim : later.currentClaimCode = locals.currentClaimCode)
    (claims : ∀ other, another before.state session other = true → ∀ code,
      locals.currentClaimCode = some code → op ≠ .insertPendingClaim code other)
    (senders : ∀ other, another before.state session other = true → ∀ agentId,
      locals.authenticatedAgentId = some agentId → op ≠ .insertAgentSender agentId other)
    (tasks : ∀ tunnelId handle, op = .insertTunnelTask tunnelId handle →
      another before.state session handle.sender = true →
      ∀ row ∈ stopRows before session locals, spares row tunnelId handle = true)
    (rows : ∀ row, NewRow before op locals row → ∀ tunnelId handle,
      before.state.tunnelTasks tunnelId = some handle → another before.state session handle.sender = true →
      row.publicPort ≠ handle.port) : Parting after session later := by
  refine ⟨fun other live code remembers there => ?_, fun other live agentId remembers there => ?_,
    fun tunnelId handle there live row listed => ?_⟩
  · have earlier := another_before called live
    rw [claim] at remembers
    rcases pendingClaims_origin called.executed there with old | now
    · exact parting.claims other earlier code remembers old
    · exact claims other earlier code remembers now
  · have earlier := another_before called live
    rw [agent] at remembers
    rcases agentSenders_origin called.executed there with old | now
    · exact parting.senders other earlier agentId remembers old
    · exact senders other earlier agentId remembers now
  · have earlier := another_before called live
    rcases stopRows_origin lawful attended called known agent listed with ⟨old, found, named, port⟩ | new
    · refine spares_alike ?_ named port
      rcases tunnelTasks_origin called.executed there with ⟨running, _⟩ | now
      · exact parting.tasks tunnelId handle running earlier old found
      · exact tasks tunnelId handle now earlier old found
    · rcases tunnelTasks_origin called.executed there with ⟨running, _⟩ | now
      · have port := rows row new tunnelId handle running earlier
        obtain ⟨_, _, _, _, _, _, _, _, id, fresh, named⟩ := new
        have different : id ≠ tunnelId := fun same => fresh (same ▸ drawn tunnelId handle running)
        simp [spares, named, different, port]
      · obtain ⟨_, _, _, _, _, _, creates, _⟩ := new
        rw [creates] at now
        contradiction

/-- A session that hangs up finds no other session in the way. -/
theorem Parting.begin (recorded : Recorded config) (passed : alone config session locals = true) :
    Parting config session locals := by
  simp only [alone, Bool.and_eq_true] at passed
  obtain ⟨⟨claims, senders⟩, tasks⟩ := passed
  refine ⟨fun other live code remembers there => ?_, fun other live agentId remembers there => ?_,
    fun tunnelId handle there live => ?_⟩
  · simp [remembers, there, live] at claims
  · simp [remembers, there, live] at senders
  · have tested := (allTasks_iff recorded).mp tasks tunnelId handle there
    simpa [live] using tested

theorem Parting.call (parting : Parting before session locals) (lawful : before.Lawful contract)
    (attended : Attended before) (hung : HungUp before) (recorded : Recorded before)
    (drawn : ∀ tunnelId handle, before.state.tunnelTasks tunnelId = some handle → tunnelId ∈ before.state.drawn)
    (checked : partsAlone before thread choice op = true)
    (called : Called before task thread choice op result after)
    (known : before.state.sessions session = some locals) (closes : locals.phase = .closing) :
    Parting after session locals := by
  refine parting.step lawful attended drawn called known rfl rfl ?_ ?_ ?_ ?_
  · rintro other live code remembers rfl
    have tested := test_of_closing hung checked known closes
    simp [live, remembers] at tested
  · rintro other live agentId remembers rfl
    have tested := test_of_closing hung checked known closes
    simp [live, remembers] at tested
  · rintro tunnelId handle rfl live
    have tested := test_of_closing hung checked known closes
    simpa [live] using tested
  · rintro row ⟨agentId, _, _, _, _, _, rfl, ⟨owner, remembers, rfl⟩, _⟩ tunnelId handle running live
    have tested := test_of_closing hung checked known closes
    have each : allTasks before (fun _ handle => !another before.state session handle.sender ||
        row.publicPort != handle.port) = true := by simpa [remembers] using tested
    have spared := (allTasks_iff recorded).mp each tunnelId handle running
    simpa [live] using spared

theorem Apart.call (apart : Apart before) (lawful : before.Lawful contract) (attended : Attended before)
    (hung : HungUp before) (recorded : Recorded before)
    (drawn : ∀ tunnelId handle, before.state.tunnelTasks tunnelId = some handle → tunnelId ∈ before.state.drawn)
    (checked : partsAlone before thread choice op = true)
    (called : Called before task thread choice op result after) : Apart after := by
  intro session later known closes
  obtain ⟨locals, found, ⟨about, rfl⟩ | ⟨_, rfl⟩⟩ := session_before called known
  · rcases ends_of_touch lawful attended called about found (by simp [closes]) with rfl | ⟨rfl, _⟩
    · have passed : alone before session locals = true := by simpa [partsAlone, found] using checked
      refine (Parting.begin recorded passed).step lawful attended drawn called found rfl rfl ?_ ?_ ?_ ?_
      · exact fun _ _ _ _ => by simp
      · exact fun _ _ _ _ => by simp
      · exact fun _ _ now => by simp at now
      · rintro row ⟨_, _, _, _, _, _, creates, _⟩
        contradiction
    · simp [Session.after] at closes
  · exact (apart session later found closes).call lawful attended hung recorded drawn checked called found closes

theorem Apart.quiet {sessions : SessionId → Option Session} (apart : Apart before)
    (same : before.SameTasks after) (state : after.state = { before.state with sessions })
    (old : ∀ session locals, sessions session = some locals →
      (locals.phase = .reading ∧ ∀ earlier, before.state.sessions session = some earlier →
        earlier.phase = .reading) ∨ before.state.sessions session = some locals)
    (kept : ∀ session, before.state.sessions session ≠ none → sessions session ≠ none) : Apart after := by
  have earlier {session other : SessionId} (live : another after.state session other = true) :
      another before.state session other = true := by
    obtain ⟨different, reads⟩ := another_iff.mp live
    refine another_iff.mpr ⟨different, fun locals known => ?_⟩
    cases there : sessions other with
    | none => exact absurd there (kept other (by simp [known]))
    | some locals' =>
        rcases old other locals' there with ⟨_, before'⟩ | same'
        · exact before' locals known
        · rw [known, Option.some.injEq] at same'
          exact reads locals (by rw [state, same']; exact there)
  intro session locals known closes
  rw [state] at known
  rcases old session locals known with ⟨reads, _⟩ | found
  · rw [closes] at reads
    contradiction
  have parting := apart session locals found closes
  refine ⟨fun other live code remembers there => ?_, fun other live agentId remembers there => ?_,
    fun tunnelId handle there live row listed => ?_⟩
  · rw [state] at there
    exact parting.claims other (earlier live) code remembers there
  · rw [state] at there
    exact parting.senders other (earlier live) agentId remembers there
  · rw [state] at there
    refine parting.tasks tunnelId handle there (earlier live) row (mem_stopRows.mpr ?_)
    rcases mem_stopRows.mp listed with ⟨row', owned⟩ | ⟨closer, member, hangs, id, rows, did, inside⟩
    · rw [state] at row'
      exact .inl ⟨row', owned⟩
    · obtain ⟨other, found', job, past⟩ := same.of_mem member did
      exact .inr ⟨other, found', job.trans hangs, id, rows, past ▸ did, inside⟩

end Step

theorem Reached.apart (reached : Reached partsAlone.condition portRange config) : Apart config := by
  refine Reachable.induct ?_ ?_ reached
  · exact fun _ _ found => by simp [World.initial] at found
  · intro before action after earlier apart permitted step
    cases step with
    | start admitted =>
        obtain ⟨sessions, rfl⟩ := accept_same admitted
        refine apart.quiet .start rfl (fun _ _ found => session_admitted admitted found) ?_
        exact fun session there => session_stays admitted there
    | call found head executed =>
        exact apart.call (Reached.lawful earlier) (Reached.attended earlier) (Reached.hungUp earlier)
          (Reached.recorded earlier) (Reached.tasksDrawn earlier) (permitted _ _ _ found head)
          ⟨found, executed, _, head, rfl⟩
    | acquire found head free =>
        exact apart.quiet (.replace found) rfl (fun _ _ same => .inr same) fun _ there => there
    | release found head =>
        exact apart.quiet (.replace found) rfl (fun _ _ same => .inr same) fun _ there => there
    | reboot => exact fun _ _ found => by simp [World.reboot, World.initial] at found

/-! ## What a teardown does -/

variable {before after : Config relay} {task : Nat} {thread : Thread relay} {choice : Choice} {op : Op}
  {result : op.Result}

/-- The local variables a teardown has read, with nobody in their way. -/
theorem Apart.remembers (apart : Apart before) (lawful : before.Lawful contract)
    (attended : Attended before) (hung : HungUp before)
    (called : Called before task thread choice op result after) (hangs : thread.job = .frame session .hangup)
    {agentId : Option Uuid} {code : Option String}
    (did : Did thread.past (.sessionLocals session) (agentId, code)) :
    ∃ locals, locals.authenticatedAgentId = agentId ∧ locals.currentClaimCode = code ∧
      Parting before session locals := by
  obtain ⟨locals, known, agent, claim⟩ := attended.settled thread called.member session agentId code hangs did
  refine ⟨locals, agent, claim, apart session locals known ?_⟩
  cases phase : locals.phase with
  | reading =>
      rw [hung.reading session locals known phase thread called.member hangs] at did
      exact absurd did did_nil
  | closing => rfl
  | returned =>
      obtain ⟨_, same, _, going, _⟩ :=
        attended.busy thread called.member session (.of_call lawful called hangs)
      rw [known, Option.some.injEq] at same
      exact absurd (same ▸ phase) going

/-- The rows of a teardown are among those whose listeners it stops. -/
theorem stopRows_of_listed (called : Called before task thread choice op result after)
    (hangs : thread.job = .frame session .hangup) (listed : Listed thread.past session row) :
    (∃ agentId code, Did thread.past (.sessionLocals session) (some agentId, code)) ∧
      ∀ locals, row ∈ stopRows before session locals := by
  obtain ⟨agentId, code, rows, read, did, member⟩ := listed
  exact ⟨⟨agentId, code, read⟩, fun locals =>
    mem_stopRows.mpr (.inr ⟨thread, called.member, hangs, _, rows, did, member⟩)⟩

/-- A teardown changes the rows of its own agent only. -/
theorem agents_kept (tears : TearsDown session thread.past op)
    (called : Called before task thread choice op result after) {agent : AgentRecord}
    (member : agent ∈ before.state.db.agents)
    (foreign : ∀ id isOnline name, op = .db (.setAgentOnline id isOnline name) → agent.id ≠ id) :
    agent ∈ after.state.db.agents := by
  rcases exec_change called.executed with ⟨query, rfl, change, _⟩ | ⟨same, _⟩
  · generalize after.state.db = later at change
    cases query with
    | setAgentOnline id isOnline name =>
        cases change with
        | kept => exact member
        | touched =>
            refine List.mem_map.mpr ⟨agent, member, ?_⟩
            simp [foreign id isOnline name rfl]
    | listTunnelsForAgent =>
        cases change
        exact member
    | _ => exact tears.elim
  · rwa [same]

/-- In every run in which sessions part alone, whatever a teardown does leaves
every other session that has not hung up as it is. -/
theorem teardown_leaves_others {there : Session}
    (reached : Reached partsAlone.condition portRange before)
    (called : Called before task thread choice op result after)
    (hangs : thread.job = .frame session .hangup) (different : other ≠ session)
    (known : before.state.sessions other = some there) (live : there.phase = .reading) :
    LeavesAlone before.state after.state other := by
  have lawful := Reached.lawful reached
  have tears := tearsDown_of_hangup lawful called hangs
  have alive : another before.state session other = true := by
    refine another_iff.mpr ⟨different, fun locals same => ?_⟩
    rw [known, Option.some.injEq] at same
    exact same ▸ live
  have remembers {agentId : Option Uuid} {code : Option String}
      (did : Did thread.past (.sessionLocals session) (agentId, code)) :=
    reached.apart.remembers lawful reached.attended reached.hungUp called hangs did
  refine ⟨fun agentId registered => ?_, fun code waits => ?_, fun agentId registered agent member named => ?_,
    fun tunnelId handle running sends => ⟨?_, fun reserved => ?_⟩⟩
  · rw [exec_agentSenders called.executed]
    cases op with
    | insertAgentSender => exact tears.elim
    | removeAgentSender taken =>
        obtain ⟨code, read⟩ := tears
        obtain ⟨locals, agent, _, parting⟩ := remembers read
        have unlike : agentId ≠ taken := by
          rintro rfl
          exact parting.senders other alive agentId agent registered
        simpa [Function.update_of_ne unlike] using registered
    | _ => exact registered
  · rw [exec_pendingClaims called.executed]
    cases op with
    | insertPendingClaim => exact tears.elim
    | removePendingClaim taken =>
        obtain ⟨agentId, read⟩ := tears
        obtain ⟨locals, _, claim, parting⟩ := remembers read
        have unlike : code ≠ taken := by
          rintro rfl
          exact parting.claims other alive code claim waits
        simpa [Function.update_of_ne unlike] using waits
    | _ => exact waits
  · refine agents_kept tears called member ?_
    rintro id isOnline name rfl same
    obtain ⟨taken, code, read, rfl, _⟩ := tears
    obtain ⟨locals, remembered, _, parting⟩ := remembers read
    rw [named, uuidToString_inj] at same
    exact parting.senders other alive taken remembered (same ▸ registered)
  · rw [exec_tunnelTasks called.executed]
    cases op with
    | insertTunnelTask => exact tears.elim
    | removeTunnelTask stopped =>
        obtain ⟨row, listed, parsed⟩ := tears
        obtain ⟨⟨_, _, read⟩, among⟩ := stopRows_of_listed called hangs listed
        obtain ⟨locals, _, _, parting⟩ := remembers read
        have spared := parting.tasks tunnelId handle running (sends ▸ alive) row (among locals)
        have unlike : tunnelId ≠ stopped := by
          rintro rfl
          simp [spares, parsed] at spared
        simpa [Function.update_of_ne unlike] using running
    | _ => exact running
  · rw [exec_allocatedPorts called.executed]
    cases op with
    | allocatePort | insertAllocatedPort => exact tears.elim
    | freePort port =>
        obtain ⟨row, listed, rfl⟩ := tears
        obtain ⟨⟨_, _, read⟩, among⟩ := stopRows_of_listed called hangs listed
        obtain ⟨locals, _, _, parting⟩ := remembers read
        have spared := parting.tasks tunnelId handle running (sends ▸ alive) row (among locals)
        simp only [spares, Bool.and_eq_true, bne_iff_ne] at spared
        exact Finset.mem_erase.mpr ⟨spared.2.symm, reserved⟩
    | _ => exact reserved

end Parting

/-- Session 0 hangs up after some jobs, and its teardown is about to take the agent
4 out of the registry. -/
theorem hangsUp {check : Check relay} {jobs : List (Job × Choice)} {facts : World → Bool}
    (passed : (relay.follow check 200 (inOrder jobs ++ [.start (.frame 0 .hangup),
        .move jobs.length (answer 0 0), .move jobs.length (answer 0 0), .move jobs.length (answer 0 0)])
      ⟨newRelay, []⟩).any (fun before => (before.threads[jobs.length]?).any fun thread =>
        isAbout (.removeAgentSender 4) thread && (before.move check jobs.length (answer 0 0)).any fun _ =>
          decide (thread.job = .frame 0 .hangup) && facts before.state) = true) :
    ∃ (before after : Config relay) (thread : Thread relay) (result : Op.Result (.removeAgentSender 4)),
      Reached check.condition (10000, 60000) before ∧ thread.job = .frame 0 .hangup ∧
      Called before jobs.length thread (answer 0 0) (.removeAgentSender 4) result after ∧
      facts before.state = true := by
  obtain ⟨before, after, thread, result, reached, _, called, tested⟩ := newRelay_called passed
  obtain ⟨tears, holds⟩ := (Bool.and_eq_true _ _).mp tested
  exact ⟨before, after, thread, result, reached, of_decide_eq_true tears, called, holds⟩

def reads (world : World) (session : SessionId) : Bool :=
  (world.sessions session).any fun locals => decide (locals.phase = .reading)

/-- Alice's agent hangs up while Bob's is connected. -/
theorem teardown_leaves_others_bob :
    ∃ before after : Config relay, before.state.agentSenders 4 = some 0 ∧
      before.state.agentSenders 8 = some 1 ∧ LeavesAlone before.state after.state 1 := by
  obtain ⟨before, after, thread, result, reached, hangs, called, tested⟩ := @hangsUp partsAlone
    [(.register { username := "alice", password := "secret" }, answer 1 0),
      (.generateAgentToken (signedIn 1), answer 2 0),
      (.register { username := "bob", password := "secret" }, answer 3 0),
      (.generateAgentToken (signedIn 3), answer 4 0),
      (.connect 0, answer 0 0),
      (.frame 0 (.message (.auth (Db.agentToken (answer 2 0)) "laptop")), answer 0 0),
      (.connect 1, answer 0 0),
      (.frame 1 (.message (.auth (Db.agentToken (answer 4 0)) "desktop")), answer 0 0)]
    (fun world => reads world 1 && decide (world.agentSenders 4 = some 0 ∧ world.agentSenders 8 = some 1))
    (by decide +kernel)
  simp only [Bool.and_eq_true, decide_eq_true_eq] at tested
  obtain ⟨locals, known, live⟩ := (Option.any_eq_true _ _).mp tested.1
  exact ⟨before, after, tested.2.1, tested.2.2,
    teardown_leaves_others reached called hangs (by decide) known (of_decide_eq_true live)⟩

/-- Alice's agent reconnects on session 1 before its session 0 has ended. -/
theorem reconnected_taken_out :
    ¬ ∀ (before after : Config relay) (task : Nat) (thread : Thread relay) (choice : Choice) (op : Op)
      (result : op.Result) (session other : SessionId) (locals : Session),
      Reached anyStep (10000, 60000) before → Called before task thread choice op result after →
      thread.job = .frame session .hangup → other ≠ session →
      before.state.sessions other = some locals → locals.phase = .reading →
        LeavesAlone before.state after.state other := by
  obtain ⟨before, after, thread, result, reached, hangs, called, tested⟩ := @hangsUp (fun _ _ _ _ => true)
    [(.register { username := "alice", password := "secret" }, answer 1 0),
      (.generateAgentToken (signedIn 1), answer 2 0),
      (.connect 0, answer 0 0),
      (.frame 0 (.message (.auth (Db.agentToken (answer 2 0)) "laptop")), answer 0 0),
      (.connect 1, answer 0 0),
      (.frame 1 (.message (.auth (Db.agentToken (answer 2 0)) "laptop")), answer 0 0)]
    (fun world => reads world 1 && decide (world.agentSenders 4 = some 1)) (by decide +kernel)
  simp only [Bool.and_eq_true, decide_eq_true_eq] at tested
  obtain ⟨locals, known, live⟩ := (Option.any_eq_true _ _).mp tested.1
  intro always
  have kept := (always before after _ thread _ _ result 0 1 locals (reached.weaken fun _ _ _ => trivial)
    called hangs (by decide) known (of_decide_eq_true live)).senders 4 tested.2
  have executed : exec before.state (answer 0 0) (.removeAgentSender 4) = some (after.state, result) :=
    called.executed
  rw [exec_agentSenders executed] at kept
  simp at kept

end TunnelitRelay
