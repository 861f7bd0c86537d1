import TunnelitRelay.ClaimCodes
import TunnelitRelay.Results
import TunnelitRelay.Standard

namespace TunnelitRelay

open Concurrent

/-! # A claim hands the credential to the right machine -/

section Runs

variable [Externals] {allowed : Condition relay} {portRange : UInt16 × UInt16}

/-- The session has been sent the code, and with it the agent's token. -/
def Told (world : World) (session : SessionId) (code token : String) : Prop :=
  claimReady code token ∈ world.sent session

theorem Told.exec {world after : World} {choice : Choice} {op : Op} {result : op.Result}
    {session : SessionId} {code token : String} (told : Told world session code token)
    (executed : exec world choice op = some (after, result)) : Told after session code token := by
  unfold Told
  rw [exec_sent executed]
  split
  · rename_i sender message _ _
    by_cases same : session = sender
    · subst same
      rw [Function.update_self]
      exact List.mem_append_left _ told
    · rwa [Function.update_of_ne same]
  · exact told

/-- A code is drawn only while it is not in use, and a claim goes ahead only
when the session is not waiting for the code to be sent. -/
def keepsCodesApart : Check relay := fun config thread choice op =>
  match op with
  | .db (.createAgentClaim _) => !inUse config (Data.sixDigits (choice.code % 1000000))
  | .insertAgentSender _ sender | .send sender (.authSuccess _ _ _) =>
      match thread.job with
      | .claimAgent code _ => !config.threads.any (storing sender code)
      | _ => true
  | _ => true

/-! ## The database guard -/

/-- Between drawing a code and sending it a frame holds the database. -/
def DrawsGuarded (config : Config relay) : Prop :=
  ∀ thread ∈ config.threads, ∀ session code token,
    Drawing thread.job thread.past session code token → (Lock.db, Mode.exclusive) ∈ thread.held

omit [Externals] in
theorem mem_dropGuard {lock : Lock} {own : Guard relaySignature} {held : Held} (member : own ∈ held)
    (other : own.1 ≠ lock) : own ∈ dropGuard lock held := by
  induction held with
  | nil => exact member
  | cons guard rest ih =>
      simp only [dropGuard]
      rcases List.mem_cons.mp member with rfl | later
      · rw [if_neg other]
        exact List.mem_cons_self
      · split
        · exact later
        · exact List.mem_cons_of_mem _ (ih later)

theorem drawsGuarded_run {initial : World} {config : Config relay}
    (run : Reachable allowed initial config) : DrawsGuarded config := by
  refine Reachable.induct ?_ ?_ run
  · exact fun thread member => by simp at member
  · intro before action after earlier guarded _ step thread member session code token drawing
    have lawful := earlier.lawful relay_lawful
    cases step with
    | start admitted =>
        rcases List.mem_append.mp member with old | new
        · exact guarded thread old session code token drawing
        · rw [List.mem_singleton.mp new] at drawing
          obtain ⟨⟨_, _, _, drew, _⟩, _⟩ := drawing
          exact absurd drew did_nil
    | @call task running op next choice state result found head executed =>
        have there := List.mem_of_getElem? found
        rcases List.mem_or_eq_of_mem_set member with old | rfl
        · exact guarded thread old session code token drawing
        · rcases drawing.origin with old | ⟨hostname, record, _, _, new⟩
          · exact guarded running there session code token old
          · cases new
            exact (lawful.call there head).2.1 _ rfl
    | @acquire task running lock mode next found head free =>
        rcases List.mem_or_eq_of_mem_set member with old | rfl
        · exact guarded thread old session code token drawing
        · exact List.mem_cons_of_mem _
            (guarded running (List.mem_of_getElem? found) session code token drawing)
    | @release task running lock next found head =>
        have there := List.mem_of_getElem? found
        rcases List.mem_or_eq_of_mem_set member with old | rfl
        · exact guarded thread old session code token drawing
        · refine mem_dropGuard (guarded running there session code token drawing) ?_
          rintro rfl
          have obeys := lawful running there
          rw [head] at obeys
          exact drawing.2 (obeys.1 rfl session code token drawing.1)
    | reboot => simp at member

theorem Reached.drawsGuarded {config : Config relay} (reached : Reached allowed portRange config) :
    DrawsGuarded config :=
  drawsGuarded_run reached

/-! ## Where codes come from -/

theorem createAgentClaim_row {world after : World} {choice : Choice} {name : String} {result}
    (executed : exec world choice (.db (.createAgentClaim name)) = some (after, result)) :
    (after.db = world.db ∧ ∃ failure, result = .error failure) ∨ ∃ record, result = .ok (record, Data.sixDigits (choice.code % 1000000)) ∧
      after.db = { world.db with agents := world.db.agents ++ [record] } ∧
      record.claimCode = some (Data.sixDigits (choice.code % 1000000)) := by
  obtain ⟨rfl, rfl, _⟩ := exec_db executed
  dsimp only [Query.run, Db.createAgentClaim, Database.write]
  split
  · rename_i written ran
    obtain ⟨rfl, _⟩ := Db.insertAgent_ok (Choice.statement_ok ran)
    exact .inr ⟨_, rfl, rfl, rfl⟩
  · exact .inl ⟨rfl, _, rfl⟩

/-- A row waiting under a code waited under it before, or has just been drawn. -/
theorem code_origin {world after : World} {choice : Choice} {op : Op} {result : op.Result}
    {agent : AgentRecord} {code : String} (executed : exec world choice op = some (after, result))
    (member : agent ∈ after.db.agents) (waits : agent.claimCode = some code) :
    (∃ old ∈ world.db.agents, old.claimCode = some code ∧ old.token = agent.token) ∨
      code = Data.sixDigits (choice.code % 1000000) ∧ ∃ hostname record, record.token = agent.token ∧
        (⟨op, result⟩ : Event relaySignature) = ⟨.db (.createAgentClaim hostname), .ok (record, code)⟩ := by
  rcases exec_change executed with ⟨query, rfl, change, _⟩ | ⟨same, _⟩
  · generalize reads : after.db = written at change member
    cases change with
    | kept | registered | banned | detached | opened | switched | edited | closed =>
        exact .inl ⟨agent, member, waits, rfl⟩
    | requested =>
        rw [← reads] at member
        rcases createAgentClaim_row executed with ⟨same, _⟩ | ⟨record, rfl, grown, drawn⟩
        · rw [same] at member
          exact .inl ⟨agent, member, waits, rfl⟩
        · rw [grown] at member
          rcases List.mem_append.mp member with old | new
          · exact .inl ⟨agent, old, waits, rfl⟩
          · rw [List.mem_singleton.mp new] at waits ⊢
            cases drawn.symm.trans waits
            exact .inr ⟨rfl, _, record, rfl, rfl⟩
    | issued named unused owned =>
        rcases List.mem_append.mp member with old | new
        · exact .inl ⟨agent, old, waits, rfl⟩
        · rw [List.mem_singleton.mp new, owned.1] at waits
          contradiction
    | claimed found =>
        obtain ⟨old, listed, rfl⟩ := List.mem_map.mp member
        split at waits
        · contradiction
        · rename_i other
          exact .inl ⟨old, listed, waits, by simp [other]⟩
    | touched =>
        obtain ⟨old, listed, rfl⟩ := List.mem_map.mp member
        refine .inl ⟨old, listed, ?_, ?_⟩
        · split at waits <;> exact waits
        · split <;> rfl
    | deleted => exact .inl ⟨agent, List.mem_of_mem_filter member, waits, rfl⟩
  · rw [same] at member
    exact .inl ⟨agent, member, waits, rfl⟩

/-! ## What one operation does to the codes in use -/

section Call

variable {before after : Config relay} {task : Nat} {thread : Thread relay} {choice : Choice} {op : Op}
  {result : op.Result} {session : SessionId} {code token : String}

/-- The operation has drawn the code for a new agent with the token. -/
def DrawsCode (op : Op) (result : op.Result) (choice : Choice) (code token : String) : Prop :=
  code = Data.sixDigits (choice.code % 1000000) ∧ ∃ hostname record, record.token = token ∧
    (⟨op, result⟩ : Event relaySignature) = ⟨.db (.createAgentClaim hostname), .ok (record, code)⟩

/-- A frame reads only codes that are in use. -/
theorem Reading.inUse (called : Called before task thread choice op result after) {other : Thread relay}
    (member : other ∈ after.threads) (reads : Reading other.job other.past session code token) :
    InUse before code token := by
  obtain ⟨index, there⟩ := List.mem_iff_getElem?.mp member
  rcases called.origin there with ⟨_, job, _, past⟩ | ⟨_, old⟩
  · rw [job, past] at reads
    rcases reads.origin with old | ⟨hostname, agent, _, waits, event⟩
    · exact .reading called.member old
    · cases event
      obtain ⟨found, _, _⟩ := getAgentByToken_found called.executed
      exact .row (List.mem_of_find?_eq_some found) waits (by simpa using List.find?_some found)
  · exact .reading (List.mem_of_getElem? old) reads

/-- A claim takes only codes that are in use. -/
theorem Taking.inUse (called : Called before task thread choice op result after) {other : Thread relay}
    (member : other ∈ after.threads) (takes : Taking other.job other.past code token) :
    InUse before code token := by
  obtain ⟨index, there⟩ := List.mem_iff_getElem?.mp member
  rcases called.origin there with ⟨_, job, _, past⟩ | ⟨_, old⟩
  · rw [job, past] at takes
    rcases takes.origin with old | ⟨headers, userId, agent, _, carries, event⟩
    · exact .taking called.member old
    · cases event
      obtain ⟨row, found, rfl, _, _⟩ := claimAgentToUser_taken called.executed
      exact .row (List.mem_of_find?_eq_some found) (by simpa using List.find?_some found) carries
  · exact .taking (List.mem_of_getElem? old) takes

theorem InUse.origin (called : Called before task thread choice op result after)
    (used : InUse after code token) : InUse before code token ∨ DrawsCode op result choice code token := by
  rcases used with ⟨member, waits, carries⟩ | ⟨member, reads⟩ | ⟨member, takes⟩
  · rcases code_origin called.executed member waits with ⟨old, listed, waited, same⟩ |
      ⟨drawn, hostname, record, same, event⟩
    · exact .inl (.row listed waited (same.trans carries))
    · exact .inr ⟨drawn, hostname, record, same.trans carries, event⟩
  · exact .inl (reads.inUse called member)
  · exact .inl (takes.inUse called member)

/-- A task that is about to call the database is the only one between drawing
a code and sending it. -/
theorem DrawsGuarded.sole {query : Query} {result : Op.Result (.db query)} (guarded : DrawsGuarded before)
    (exclusive : before.Exclusive) (lawful : before.Lawful contract)
    (called : Called before task thread choice (.db query) result after) {index : Nat}
    {other : Thread relay} (there : before.threads[index]? = some other)
    (drawing : Drawing other.job other.past session code token) : index = task := by
  by_contra elsewhere
  have own := guarded other (List.mem_of_getElem? there) session code token drawing
  have taken := (called.law lawful).2.1 _ rfl
  have shared := (exclusive _ _ _ _ _ _ _ elsewhere there called.found own taken).1
  contradiction

end Call

/-! ## The invariant -/

/-- Codes in use stand for one token each, and the session waiting under a code
in use has been sent it or is about to be. -/
structure CodesApart (config : Config relay) : Prop where
  unique : ∀ code token token', InUse config code token → InUse config code token' → token = token'
  /-- While a code that was drawn has not been sent, nobody else has it. -/
  alone : ∀ thread ∈ config.threads, ∀ session code token,
    Drawing thread.job thread.past session code token →
    (∀ agent ∈ config.state.db.agents, agent.claimCode = some code → agent.token = token) ∧
    ∀ other ∈ config.threads, ∀ token', (∀ session', ¬ Reading other.job other.past session' code token') ∧
      ¬ Taking other.job other.past code token'
  fresh : ∀ thread ∈ config.threads, ∀ session code token,
    Drawing thread.job thread.past session code token →
    Did thread.past (.insertPendingClaim code session) () →
    ∀ session', config.state.pendingClaims code = some session' → session' = session
  waiting : ∀ session code token, InUse config code token →
    config.state.pendingClaims code = some session → Told config.state session code token ∨
      (∃ thread ∈ config.threads, Storing thread.job thread.past session code token) ∨
      ∃ thread ∈ config.threads, ∃ session', Drawing thread.job thread.past session' code token
  handed : ∀ thread ∈ config.threads, ∀ session code headers userId agent,
    thread.job = .claimAgent code headers →
    Did thread.past (.db (.claimAgentToUser code userId)) (.ok (some agent)) →
    Did thread.past (.removePendingClaim code) (some session) →
    Told config.state session code agent.token ∨
      ∃ other ∈ config.threads, Storing other.job other.past session code agent.token

section Step

variable {before after : Config relay} {task : Nat} {thread : Thread relay} {choice : Choice} {op : Op}
  {result : op.Result} {session : SessionId} {code token : String}

theorem not_inUse_of_draws (permitted : keepsCodesApart before thread choice op = true)
    (draws : DrawsCode op result choice code token) {other : String} : ¬ InUse before code other := by
  intro used
  have taken := inUse_iff.mpr ⟨other, used⟩
  obtain ⟨rfl, hostname, record, _, event⟩ := draws
  cases event
  simp only [keepsCodesApart, Bool.not_eq_true'] at permitted
  rw [permitted] at taken
  contradiction

theorem DrawsCode.past_nil (lawful : before.Lawful contract)
    (called : Called before task thread choice op result after)
    (draws : DrawsCode op result choice code token) : thread.past = [] := by
  obtain ⟨_, hostname, record, _, event⟩ := draws
  cases event
  exact ((called.law lawful).2.2.general fun _ => id).1.1

theorem CodesApart.unique_step (apart : CodesApart before)
    (permitted : keepsCodesApart before thread choice op = true)
    (called : Called before task thread choice op result after) {other : String}
    (left : InUse after code token) (right : InUse after code other) : token = other := by
  rcases left.origin called with one | ⟨drawn, hostname, record, same, event⟩
  · rcases right.origin called with two | draws
    · exact apart.unique code token other one two
    · exact absurd one (not_inUse_of_draws permitted draws)
  · rcases right.origin called with two | ⟨_, _, _, same', event'⟩
    · exact absurd two (not_inUse_of_draws permitted ⟨drawn, hostname, record, same, event⟩)
    · cases event.symm.trans event'
      exact same.symm.trans same'

/-- A frame that has drawn a code and not sent it had done so before the step
or does so in it. -/
theorem drawing_origin (called : Called before task thread choice op result after) {other : Thread relay}
    (member : other ∈ after.threads) (drawing : Drawing other.job other.past session code token) :
    (∃ (index : Nat) (old : Thread relay), before.threads[index]? = some old ∧ old.job = other.job ∧
      Drawing old.job old.past session code token ∧
      (index = task ∧ old = thread ∧ other.past = ⟨op, result⟩ :: old.past ∨ index ≠ task ∧ old = other)) ∨
    ∃ hostname record, other.job = .frame session (.message (.requestClaim hostname)) ∧
      record.token = token ∧ other.past = ⟨op, result⟩ :: thread.past ∧
      (⟨op, result⟩ : Event relaySignature) = ⟨.db (.createAgentClaim hostname), .ok (record, code)⟩ := by
  obtain ⟨index, there⟩ := List.mem_iff_getElem?.mp member
  rcases called.origin there with ⟨here, job, _, past⟩ | ⟨elsewhere, old⟩
  · rw [past] at drawing
    rcases drawing.origin with old | ⟨hostname, record, framed, carries, event⟩
    · exact .inl ⟨task, thread, called.found, job.symm, job ▸ old, .inl ⟨rfl, rfl, past⟩⟩
    · exact .inr ⟨hostname, record, framed, carries, past, event⟩
  · exact .inl ⟨index, other, old, rfl, drawing, .inr ⟨elsewhere, rfl⟩⟩

omit [Externals] in
theorem Drawing.requests {job : Job} {past : Past} (drawing : Drawing job past session code token) :
    ∃ hostname, job = .frame session (.message (.requestClaim hostname)) ∧
      ∃ record, Did past (.db (.createAgentClaim hostname)) (.ok (record, code)) := by
  obtain ⟨⟨hostname, record, framed, drew, _⟩, _⟩ := drawing
  exact ⟨hostname, framed, record, drew⟩

/-- While a frame keeps a code to itself nobody else comes to have it. -/
theorem CodesApart.alone_kept (apart : CodesApart before) (guarded : DrawsGuarded before)
    (exclusive : before.Exclusive) (lawful : before.Lawful contract)
    (called : Called before task thread choice op result after) {index : Nat} {old : Thread relay}
    (there : before.threads[index]? = some old) (drawing : Drawing old.job old.past session code token) :
    (∀ agent ∈ after.state.db.agents, agent.claimCode = some code → agent.token = token) ∧
    ∀ other ∈ after.threads, ∀ token', (∀ session', ¬ Reading other.job other.past session' code token') ∧
      ¬ Taking other.job other.past code token' := by
  obtain ⟨rows, others⟩ := apart.alone old (List.mem_of_getElem? there) session code token drawing
  obtain ⟨hostname, requests, record, drew⟩ := drawing.requests
  have mine {query : Query} {result : Op.Result (.db query)} {after : Config relay}
      (called : Called before task thread choice (.db query) result after) : old = thread := by
    have same := guarded.sole exclusive lawful called there drawing
    rw [same, called.found] at there
    exact (Option.some.inj there).symm
  refine ⟨fun agent member waits => ?_, fun other member token' => ?_⟩
  · rcases code_origin called.executed member waits with
      ⟨row, listed, waited, same⟩ | ⟨drawn, hostname', record', same, event⟩
    · exact same ▸ rows row listed waited
    · have empty := DrawsCode.past_nil lawful called ⟨drawn, hostname', record', same, event⟩
      cases event
      rw [mine called, empty] at drew
      exact absurd drew did_nil
  · obtain ⟨position, found⟩ := List.mem_iff_getElem?.mp member
    rcases called.origin found with ⟨_, job, _, past⟩ | ⟨_, before'⟩
    · rw [job, past]
      refine ⟨fun session' reads => ?_, fun takes => ?_⟩
      · rcases reads.origin with before' | ⟨_, agent, framed, _, event⟩
        · exact (others thread called.member token').1 session' before'
        · cases event
          rw [← mine called, requests] at framed
          cases framed
      · rcases takes.origin with before' | ⟨_, userId, agent, claims, _, event⟩
        · exact (others thread called.member token').2 before'
        · cases event
          rw [← mine called, requests] at claims
          cases claims
    · exact others other (List.mem_of_getElem? before') token'

theorem CodesApart.alone_step (apart : CodesApart before) (guarded : DrawsGuarded before)
    (exclusive : before.Exclusive) (lawful : before.Lawful contract)
    (permitted : keepsCodesApart before thread choice op = true)
    (called : Called before task thread choice op result after) {drawer : Thread relay}
    (member : drawer ∈ after.threads) (drawing : Drawing drawer.job drawer.past session code token) :
    (∀ agent ∈ after.state.db.agents, agent.claimCode = some code → agent.token = token) ∧
    ∀ other ∈ after.threads, ∀ token', (∀ session', ¬ Reading other.job other.past session' code token') ∧
      ¬ Taking other.job other.past code token' := by
  rcases drawing_origin called member drawing with ⟨index, old, there, _, before', _⟩ |
    ⟨hostname, record, _, carries, _, event⟩
  · exact apart.alone_kept guarded exclusive lawful called there before'
  · -- The code was not in use before it was drawn.
    have drawn : code = Data.sixDigits (choice.code % 1000000) := by
      cases event
      rcases createAgentClaim_row called.executed with ⟨_, _, failed⟩ | ⟨_, same, _⟩
      · contradiction
      · cases same
        rfl
    have unused {token' : String} : ¬ InUse before code token' :=
      not_inUse_of_draws permitted ⟨drawn, hostname, record, carries, event⟩
    refine ⟨fun agent listed waits => ?_, fun other found token' =>
      ⟨fun session' reads => unused (reads.inUse called found),
        fun takes => unused (takes.inUse called found)⟩⟩
    rcases code_origin called.executed listed waits with ⟨row, old, waited, same⟩ | ⟨_, _, _, same, event'⟩
    · exact absurd (.row old waited rfl) unused
    · cases event.symm.trans event'
      exact same.symm.trans carries

/-- A session is put under a code by a frame that has it and has not sent it yet. -/
theorem storing_evidence {result : Op.Result (.insertPendingClaim code session)}
    (lawful : before.Lawful contract)
    (called : Called before task thread choice (.insertPendingClaim code session) result after) :
    ∃ token, Reading thread.job thread.past session code token ∨
      Drawing thread.job thread.past session code token := by
  obtain ⟨token, read | drew, silent⟩ := ((called.law lawful).2.2.general fun _ => id).1
  · exact ⟨token, .inl ⟨read, silent⟩⟩
  · exact ⟨token, .inr ⟨drew, silent⟩⟩

theorem CodesApart.fresh_step (apart : CodesApart before) (guarded : DrawsGuarded before)
    (exclusive : before.Exclusive) (lawful : before.Lawful contract)
    (called : Called before task thread choice op result after) {drawer : Thread relay}
    (member : drawer ∈ after.threads) (drawing : Drawing drawer.job drawer.past session code token)
    (stored : Did drawer.past (.insertPendingClaim code session) ()) {session' : SessionId}
    (waits : after.state.pendingClaims code = some session') : session' = session := by
  have claims := exec_pendingClaims called.executed
  rcases drawing_origin called member drawing with ⟨index, old, there, job, before', same⟩ |
    ⟨hostname, record, _, _, past, event⟩
  · have others := apart.alone old (List.mem_of_getElem? there) session code token before'
    rcases pendingClaims_origin called.executed waits with waited | rfl
    · have kept (stored : Did old.past (.insertPendingClaim code session) ()) :=
        apart.fresh old (List.mem_of_getElem? there) session code token before' stored session' waited
      rcases same with ⟨_, _, past⟩ | ⟨_, rfl⟩
      · rw [past] at stored
        rcases did_cons.mp stored with now | earlier
        · cases now
          rw [claims] at waits
          simpa using waits.symm
        · exact kept earlier
      · exact kept stored
    · obtain ⟨token', reads | draws⟩ := storing_evidence lawful called
      · exact absurd reads ((others.2 thread called.member token').1 session')
      · have alone : index = task := by
          by_contra elsewhere
          have left := guarded old (List.mem_of_getElem? there) session code token before'
          have right := guarded thread called.member session' code token' draws
          have shared := (exclusive _ _ _ _ _ _ _ elsewhere there called.found left right).1
          contradiction
        obtain ⟨_, framed, _⟩ := before'.requests
        obtain ⟨_, framed', _⟩ := draws.requests
        rw [alone, called.found] at there
        rw [← Option.some.inj there, framed'] at framed
        cases framed
        rfl
  · rw [past] at stored
    cases event
    have empty : thread.past = [] := ((called.law lawful).2.2.general fun _ => id).1.1
    rw [empty] at stored
    simp [Did] at stored

theorem storing_later (called : Called before task thread choice op result after) {other : Thread relay}
    (member : other ∈ before.threads) (storing : Storing other.job other.past session code token) :
    (∃ later ∈ after.threads, Storing later.job later.past session code token) ∨
      Told after.state session code token := by
  have sent := exec_sent called.executed
  obtain ⟨index, there⟩ := List.mem_iff_getElem?.mp member
  by_cases here : index = task
  · subst here
    rw [called.found] at there
    cases there
    obtain ⟨later, found, job, _, past⟩ := called.self
    rcases @Storing.later _ _ _ _ _ op result storing with still | rfl
    · exact .inl ⟨later, List.mem_of_getElem? found, by rwa [job, past]⟩
    · refine .inr ?_
      rw [Told, sent]
      simp
  · exact .inl ⟨other, List.mem_of_getElem? (called.other there here), storing⟩

theorem drawing_later (called : Called before task thread choice op result after) {other : Thread relay}
    (member : other ∈ before.threads) (drawing : Drawing other.job other.past session code token) :
    (∃ later ∈ after.threads, Drawing later.job later.past session code token) ∨
      other = thread ∧ op = .send session (claimReady code token) := by
  obtain ⟨index, there⟩ := List.mem_iff_getElem?.mp member
  by_cases here : index = task
  · subst here
    rw [called.found] at there
    cases there
    obtain ⟨later, found, job, _, past⟩ := called.self
    rcases @Drawing.later _ _ _ _ _ op result drawing with still | sends
    · exact .inl ⟨later, List.mem_of_getElem? found, by rwa [job, past]⟩
    · exact .inr ⟨rfl, sends⟩
  · exact .inl ⟨other, List.mem_of_getElem? (called.other there here), drawing⟩

theorem CodesApart.waiting_step (apart : CodesApart before) (lawful : before.Lawful contract)
    (called : Called before task thread choice op result after) (used : InUse after code token)
    (waits : after.state.pendingClaims code = some session) :
    Told after.state session code token ∨
      (∃ thread ∈ after.threads, Storing thread.job thread.past session code token) ∨
      ∃ thread ∈ after.threads, ∃ session', Drawing thread.job thread.past session' code token := by
  obtain ⟨self, found, job, _, past⟩ := called.self
  have member := List.mem_of_getElem? found
  have sent := exec_sent called.executed
  rcases used.origin called with used | ⟨drawn, hostname, record, carries, event⟩
  · rcases pendingClaims_origin called.executed waits with waited | rfl
    · rcases apart.waiting session code token used waited with told | ⟨other, there, storing⟩ |
        ⟨drawer, there, session', drawing⟩
      · exact .inl (told.exec called.executed)
      · rcases storing_later called there storing with still | told
        · exact .inr (.inl still)
        · exact .inl told
      · rcases drawing_later called there drawing with still | ⟨rfl, rfl⟩
        · exact .inr (.inr (still.imp fun _ draws => ⟨draws.1, session', draws.2⟩))
        · -- The code is sent to the session that waits under it.
          obtain ⟨_, _, _, stored⟩ := ((called.law lawful).2.2.general fun _ => id).1
          have same := apart.fresh drawer there session' code token drawing stored session waited
          exact .inl (by simp [Told, sent, same])
    · -- The frame that stores its session has the code, and so the token in use.
      obtain ⟨token', reads | draws⟩ := storing_evidence lawful called
      · have same := apart.unique code token token' used (.reading called.member reads)
        subst same
        refine .inr (.inl ⟨self, member, ?_⟩)
        rw [job, past]
        exact ⟨⟨reads.1.later, fun announced => (announced_cons.mp announced).elim (by simp) reads.2⟩,
          List.mem_cons_self⟩
      · have same : token = token' := by
          obtain ⟨rows, others⟩ := apart.alone thread called.member session code token' draws
          rcases used with ⟨listed, waits, carries⟩ | ⟨listed, reads⟩ | ⟨listed, takes⟩
          · exact carries.symm.trans (rows _ listed waits)
          · exact absurd reads ((others _ listed token).1 _)
          · exact absurd takes (others _ listed token).2
        subst same
        refine .inr (.inr ⟨self, member, session, ?_⟩)
        rw [job, past]
        exact draws.later.resolve_right (by simp)
  · -- The code has just been drawn; the frame that drew it is yet to send it.
    have empty := DrawsCode.past_nil lawful called ⟨drawn, hostname, record, carries, event⟩
    cases event
    obtain ⟨_, session', framed⟩ := ((called.law lawful).2.2.general fun _ => id).1
    refine .inr (.inr ⟨self, member, session', ?_⟩)
    rw [job, past, empty]
    refine ⟨⟨hostname, record, framed, List.mem_cons_self, carries⟩, ?_⟩
    simp [Announced, Did]

theorem CodesApart.handed_step (apart : CodesApart before) (lawful : before.Lawful contract)
    (called : Called before task thread choice op result after) {claimer : Thread relay}
    (member : claimer ∈ after.threads) {headers : HeaderMap} {userId : String} {agent : AgentRecord}
    (claims : claimer.job = .claimAgent code headers)
    (took : Did claimer.past (.db (.claimAgentToUser code userId)) (.ok (some agent)))
    (fetched : Did claimer.past (.removePendingClaim code) (some session)) :
    Told after.state session code agent.token ∨
      ∃ other ∈ after.threads, Storing other.job other.past session code agent.token := by
  have later (handed : Told before.state session code agent.token ∨
      ∃ other ∈ before.threads, Storing other.job other.past session code agent.token) :
      Told after.state session code agent.token ∨
        ∃ other ∈ after.threads, Storing other.job other.past session code agent.token := by
    rcases handed with told | ⟨other, there, storing⟩
    · exact .inl (told.exec called.executed)
    · exact (storing_later called there storing).symm
  obtain ⟨index, there⟩ := List.mem_iff_getElem?.mp member
  rcases called.origin there with ⟨_, job, _, past⟩ | ⟨_, old⟩
  · rw [past] at took fetched
    rw [job] at claims
    rcases did_cons.mp fetched with now | before'
    · -- The channel is fetched while the claim has the code.
      rcases did_cons.mp took with other | earlier
      · cases now.trans other.symm
      · cases now
        have executed : exec before.state choice (.removePendingClaim code) =
          some (after.state, some session) := called.executed
        have waits : before.state.pendingClaims code = some session := by
          simp only [exec, Option.some.injEq, Prod.mk.injEq] at executed
          exact executed.2
        have permitted : Permitted thread.job _ _ _ := (called.law lawful).2.2
        rw [claims] at permitted
        obtain ⟨_, _, _, _, _, unfetched⟩ := permitted
        have takes : Taking thread.job thread.past code agent.token :=
          ⟨headers, userId, agent, claims, earlier, rfl, unfetched⟩
        rcases apart.waiting session code agent.token (.taking called.member takes) waits with told |
          storing | ⟨drawer, there, session', drawing⟩
        · exact later (.inl told)
        · exact later (.inr storing)
        · exact absurd takes ((apart.alone drawer there session' code agent.token drawing).2 thread
            called.member agent.token).2
    · rcases did_cons.mp took with now | earlier
      · cases now
        obtain ⟨_, _, _, _, unfetched⟩ := ((called.law lawful).2.2.general fun _ => id).1
        exact absurd before' (unfetched _)
      · exact later (apart.handed thread called.member session code headers userId agent claims earlier before')
  · exact later (apart.handed claimer (List.mem_of_getElem? old) session code headers userId agent claims
      took fetched)

end Step

theorem CodesApart.quiet {before after : Config relay} (apart : CodesApart before)
    (same : before.SameTasks after) (agents : after.state.db = before.state.db)
    (claims : after.state.pendingClaims = before.state.pendingClaims)
    (sent : after.state.sent = before.state.sent) : CodesApart after := by
  have used {code token : String} (used : InUse after code token) : InUse before code token := by
    rcases used with ⟨listed, waits, carries⟩ | ⟨member, reads⟩ | ⟨member, takes⟩
    · exact .row (agents ▸ listed) waits carries
    · obtain ⟨⟨_, _, _, did, _⟩, _⟩ := id reads
      obtain ⟨other, there, job, past⟩ := same.of_mem member did
      exact .reading there (job ▸ past ▸ reads)
    · obtain ⟨_, _, _, _, did, _⟩ := id takes
      obtain ⟨other, there, job, past⟩ := same.of_mem member did
      exact .taking there (job ▸ past ▸ takes)
  have later {session : SessionId} {code token : String} (told : Told before.state session code token) :
      Told after.state session code token := by rwa [Told, sent]
  refine ⟨fun code token token' left right => apart.unique code token token' (used left) (used right),
    ?_, ?_, ?_, ?_⟩
  · intro thread member session code token drawing
    obtain ⟨_, _, _, did⟩ := drawing.requests
    obtain ⟨other, there, job, past⟩ := same.of_mem member did
    obtain ⟨rows, others⟩ := apart.alone other there session code token (by rwa [job, past])
    refine ⟨agents ▸ rows, fun third found token' => ⟨fun session' reads => ?_, fun takes => ?_⟩⟩
    · obtain ⟨⟨_, _, _, did, _⟩, _⟩ := id reads
      obtain ⟨earlier, listed, job, past⟩ := same.of_mem found did
      exact (others earlier listed token').1 session' (by rwa [job, past])
    · obtain ⟨_, _, _, _, did, _⟩ := id takes
      obtain ⟨earlier, listed, job, past⟩ := same.of_mem found did
      exact (others earlier listed token').2 (by rwa [job, past])
  · intro thread member session code token drawing stored session' waits
    obtain ⟨other, there, job, past⟩ := same.of_mem member stored
    exact apart.fresh other there session code token (by rwa [job, past]) (by rwa [past]) session'
      (claims ▸ waits)
  · intro session code token use waits
    rcases apart.waiting session code token (used use) (claims ▸ waits) with told | ⟨other, there, storing⟩ |
      ⟨drawer, there, session', drawing⟩
    · exact .inl (later told)
    · obtain ⟨found, member, job, past⟩ := same.mem there
      exact .inr (.inl ⟨found, member, by rwa [job, past]⟩)
    · obtain ⟨found, member, job, past⟩ := same.mem there
      exact .inr (.inr ⟨found, member, session', by rwa [job, past]⟩)
  · intro thread member session code headers userId agent claims took fetched
    obtain ⟨other, there, job, past⟩ := same.of_mem member took
    rcases apart.handed other there session code headers userId agent (job.trans claims) (by rwa [past])
      (by rwa [past]) with told | ⟨third, listed, storing⟩
    · exact .inl (later told)
    · obtain ⟨found, member, job, past⟩ := same.mem listed
      exact .inr ⟨found, member, by rwa [job, past]⟩

theorem Reached.codesApart {config : Config relay}
    (reached : Reached keepsCodesApart.condition portRange config) : CodesApart config := by
  refine Reachable.track ?_ ?_ ?_ ?_ reached
  · constructor
    · rintro code token token' (⟨listed, _⟩ | ⟨listed, _⟩ | ⟨listed, _⟩) <;>
        simp [World.initial, Database.empty] at listed
    · exact fun thread member => by simp at member
    · exact fun thread member => by simp at member
    · exact fun session code token _ waits => by simp [World.initial] at waits
    · exact fun thread member => by simp at member
  · intro before after task thread choice op result earlier apart permitted called
    have lawful := Reached.lawful earlier
    have guarded := Reached.drawsGuarded earlier
    have exclusive := Reachable.exclusive earlier
    have checked := Check.holds permitted called
    exact ⟨fun _ _ _ => apart.unique_step checked called,
      fun _ member _ _ _ => apart.alone_step guarded exclusive lawful checked called member,
      fun _ member _ _ _ drawing stored _ => apart.fresh_step guarded exclusive lawful called member drawing stored,
      fun _ _ _ => apart.waiting_step lawful called,
      fun _ member _ _ _ _ _ => apart.handed_step lawful called member⟩
  · rintro before after apart same (state | ⟨job, admitted⟩)
    · exact apart.quiet same (by rw [state]) (by rw [state]) (by rw [state])
    · obtain ⟨sessions, state⟩ := accept_same admitted
      exact apart.quiet same (by rw [state]) (by rw [state]) (by rw [state])
  · intro before apart
    refine ⟨fun code token token' left right => ?_, ?_, ?_, ?_, ?_⟩
    · have kept {token : String} (used : InUse ⟨World.reboot before.state, []⟩ code token) :
          InUse before code token := by
        rcases used with ⟨listed, waits, carries⟩ | ⟨listed, _⟩ | ⟨listed, _⟩
        · exact .row listed waits carries
        · simp at listed
        · simp at listed
      exact apart.unique code token token' (kept left) (kept right)
    · exact fun thread member => by simp at member
    · exact fun thread member => by simp at member
    · exact fun session code token _ waits => by simp [World.reboot, World.initial] at waits
    · exact fun thread member => by simp at member

/-! ## The right machine -/

/-- Whatever a claim hands to a session is about an agent whose code and token
the session had been sent, and a session is sent no other agent's token. -/
structure RightMachine (config : Config relay) : Prop where
  sent : ∀ thread ∈ config.threads, ∀ code headers, thread.job = .claimAgent code headers →
    ∀ session agentId name token, Did thread.past (.send session (.authSuccess agentId name token)) () →
      Told config.state session code token
  registered : ∀ thread ∈ config.threads, ∀ code headers, thread.job = .claimAgent code headers →
    ∀ session agentId, Did thread.past (.insertAgentSender agentId session) () →
      ∃ userId agent, Did thread.past (.db (.claimAgentToUser code userId)) (.ok (some agent)) ∧
        parseUuid agent.id = some agentId ∧ Told config.state session code agent.token
  received : ∀ session agentId name token,
    .authSuccess agentId name token ∈ config.state.sent session →
      (∃ code, Told config.state session code token) ∨
      ∃ thread ∈ config.threads, ∃ hostname, thread.job = .frame session (.message (.auth token hostname))

theorem CodesApart.confirmed {config : Config relay} {thread : Thread relay} {code : String}
    {headers : HeaderMap} {agent : AgentRecord} {session : SessionId} (apart : CodesApart config)
    (member : thread ∈ config.threads) (claims : thread.job = .claimAgent code headers)
    (ready : config.threads.any (storing session code) = false)
    (confirmed : Confirmed thread.job thread.past agent session) :
    Told config.state session code agent.token ∧
      ∃ userId, Did thread.past (.db (.claimAgentToUser code userId)) (.ok (some agent)) := by
  obtain ⟨code', headers', userId, claims', took, fetched⟩ := confirmed
  rw [claims] at claims'
  cases claims'
  rcases apart.handed thread member session code headers userId agent claims took fetched with told |
    ⟨other, there, stored⟩
  · exact ⟨told, userId, took⟩
  · have waits := List.any_eq_false.mp ready other there
    exact absurd (storing_iff.mpr ⟨_, stored⟩) waits

/-- In every run in which no code is drawn while it is in use, and no claim goes
ahead while its session is still to be sent the code, credentials reach the
right machine. -/
theorem credentials_reach_claimant {config : Config relay}
    (reached : Reached keepsCodesApart.condition portRange config) : RightMachine config := by
  refine Reachable.track ?_ ?_ ?_ ?_ reached
  · exact ⟨fun thread member => by simp at member, fun thread member => by simp at member,
      fun session agentId name token received => by simp [World.initial] at received⟩
  · intro before after task thread choice op result earlier right permitted called
    have apart := Reached.codesApart earlier
    have lawful := Reached.lawful earlier
    have checked := Check.holds permitted called
    have truthful := Reached.truthful earlier thread called.member
    have sent := exec_sent called.executed
    have stays {session : SessionId} {code token : String} (told : Told before.state session code token) :
        Told after.state session code token := told.exec called.executed
    refine ⟨?_, ?_, ?_⟩
    · intro other member code headers claims session agentId name token did
      obtain ⟨index, there⟩ := List.mem_iff_getElem?.mp member
      rcases called.origin there with ⟨_, job, _, past⟩ | ⟨_, old⟩
      · rw [job] at claims
        rw [past] at did
        rcases did_cons.mp did with now | before'
        · cases now
          obtain ⟨agent, _, carries, ⟨_, _, framed, _⟩ | confirmed⟩ :=
            ((called.law lawful).2.2.general fun _ => id).1
          · rw [claims] at framed
            cases framed
          · have ready : before.threads.any (storing session code) = false := by
              simpa [keepsCodesApart, claims] using checked
            exact carries ▸ stays (apart.confirmed called.member claims ready confirmed).1
        · exact stays (right.sent thread called.member code headers claims session agentId name token before')
      · exact stays (right.sent other (List.mem_of_getElem? old) code headers claims session agentId name
          token did)
    · intro other member code headers claims session agentId did
      obtain ⟨index, there⟩ := List.mem_iff_getElem?.mp member
      rcases called.origin there with ⟨_, job, _, past⟩ | ⟨_, old⟩
      · rw [job] at claims
        rw [past] at did ⊢
        rcases did_cons.mp did with now | before'
        · cases now
          obtain ⟨agent, parsed, ⟨_, _, framed, _⟩ | confirmed⟩ :=
            ((called.law lawful).2.2.general fun _ => id).1
          · rw [claims] at framed
            cases framed
          · have ready : before.threads.any (storing session code) = false := by
              simpa [keepsCodesApart, claims] using checked
            obtain ⟨told, userId, took⟩ := apart.confirmed called.member claims ready confirmed
            exact ⟨userId, agent, List.mem_cons_of_mem _ took, parsed, stays told⟩
        · obtain ⟨userId, agent, took, parsed, told⟩ :=
            right.registered thread called.member code headers claims session agentId before'
          exact ⟨userId, agent, List.mem_cons_of_mem _ took, parsed, stays told⟩
      · obtain ⟨userId, agent, took, parsed, told⟩ :=
          right.registered other (List.mem_of_getElem? old) code headers claims session agentId did
        exact ⟨userId, agent, took, parsed, stays told⟩
    · intro session agentId name token received
      rcases sent_origin called.executed received with before' | rfl
      · rcases right.received session agentId name token before' with ⟨code, told⟩ |
          ⟨other, there, hostname, framed⟩
        · exact .inl ⟨code, stays told⟩
        · obtain ⟨later, found, job⟩ := called.kept there
          exact .inr ⟨later, found, hostname, job.trans framed⟩
      · obtain ⟨agent, _, carries, ⟨token', hostname, framed, read, _⟩ | confirmed⟩ :=
          ((called.law lawful).2.2.general fun _ => id).1
        · obtain ⟨later, found, job⟩ := called.kept called.member
          rw [truthful.agent _ _ read] at carries
          exact .inr ⟨later, found, hostname, carries ▸ job.trans framed⟩
        · obtain ⟨code, headers, _, claims, _⟩ := id confirmed
          have ready : before.threads.any (storing session code) = false := by
            simpa [keepsCodesApart, claims] using checked
          exact .inl ⟨code, carries ▸ stays (apart.confirmed called.member claims ready confirmed).1⟩
  · rintro before after right same state
    have sent : after.state.sent = before.state.sent := by
      rcases state with state | ⟨job, admitted⟩
      · rw [state]
      · obtain ⟨sessions, state⟩ := accept_same admitted
        rw [state]
    have stays {session : SessionId} {code token : String} (told : Told before.state session code token) :
        Told after.state session code token := by rwa [Told, sent]
    refine ⟨?_, ?_, ?_⟩
    · intro thread member code headers claims session agentId name token did
      obtain ⟨other, there, job, past⟩ := same.of_mem member did
      exact stays (right.sent other there code headers (job.trans claims) session agentId name token
        (by rwa [past]))
    · intro thread member code headers claims session agentId did
      obtain ⟨other, there, job, past⟩ := same.of_mem member did
      obtain ⟨userId, agent, took, parsed, told⟩ :=
        right.registered other there code headers (job.trans claims) session agentId (by rwa [past])
      exact ⟨userId, agent, past ▸ took, parsed, stays told⟩
    · intro session agentId name token received
      rcases right.received session agentId name token (sent ▸ received) with ⟨code, told⟩ |
        ⟨other, there, hostname, framed⟩
      · exact .inl ⟨code, stays told⟩
      · obtain ⟨later, found, job, _⟩ := same.mem there
        exact .inr ⟨later, found, hostname, job.trans framed⟩
  · exact fun right => ⟨fun thread member => by simp at member, fun thread member => by simp at member,
      fun session agentId name token received => by simp [World.reboot, World.initial] at received⟩

end Runs

/-- Alice claims the agent whose code her machine was sent. -/
theorem credentials_reach_claimant_claimed :
    ∃ config : Config relay, config.state.agentSenders 4 = some 0 ∧ RightMachine config := by
  have passed : (relay.follow keepsCodesApart 200 (inOrder
      [(.register { username := "alice", password := "secret" }, answer 1 0),
        (.connect 0, answer 0 0),
        (.frame 0 (.message (.requestClaim "laptop")), answer 2 7),
        (.claimAgent "000007" (signedIn 1), answer 3 0)]) ⟨newRelay, []⟩).any
        (fun config => decide (config.state.agentSenders 4 = some 0)) = true := by decide +kernel
  obtain ⟨config, reached, there⟩ := newRelay_follow passed
  exact ⟨config, of_decide_eq_true there, credentials_reach_claimant reached⟩

/-- Two machines are sent the same code; Alice claims it, and the second machine
is handed the token of the agent the first one created. -/
theorem credential_misdirected :
    ¬ ∀ config : Config relay, Reached anyStep (10000, 60000) config → RightMachine config := by
  have passed : (relay.follow (fun _ _ _ _ => true) 200 (inOrder
      [(.register { username := "alice", password := "secret" }, answer 1 0),
        (.connect 0, answer 0 0),
        (.connect 1, answer 0 0),
        (.frame 0 (.message (.requestClaim "laptop")), answer 2 7),
        (.frame 1 (.message (.requestClaim "server")), answer 3 7),
        (.claimAgent "000007" (signedIn 1), answer 4 0)]) ⟨newRelay, []⟩).any
        (fun config => config.threads.any (fun thread => thread.job == .claimAgent "000007" (signedIn 1) &&
            thread.past.any (sends 1 (.authSuccess 4 "laptop" (Db.agentToken (answer 2 7))))) &&
          decide (claimReady "000007" (Db.agentToken (answer 2 7)) ∉ config.state.sent 1)) = true := by
    decide +kernel
  obtain ⟨config, reached, tested⟩ := newRelay_run passed
  simp only [Bool.and_eq_true, List.any_eq_true, beq_iff_eq, decide_eq_true_eq] at tested
  obtain ⟨⟨thread, member, claims, sent⟩, untold⟩ := tested
  intro always
  exact untold ((always config reached).sent thread member _ _ claims 1 4 _ _
    (any_sends.mp (List.any_eq_true.mpr sent)))

end TunnelitRelay
