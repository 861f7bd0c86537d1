import TunnelitRelay.Activation
import TunnelitRelay.Credentials
import TunnelitRelay.Footprints

namespace TunnelitRelay

open Concurrent Program

/-! # A claim that succeeds is confirmed to the waiting session

The frame of a session reads the code of an unclaimed agent and then enters the
session among the pending claims; the claim takes the row and then looks for
the session.  Where no claim comes between the two steps of the frame, the
session is found.
-/

section Runs

variable [Externals] {job : Job} {past : Past} {session : SessionId} {code token : String} {agentId : Uuid}

/-! ## What the text of the handlers does -/

/-- The first operation of the task, and its result. -/
def Began (past : Past) (op : Op) (result : op.Result) : Prop := [⟨op, result⟩] <:+ past

/-- The task has registered the channel and told it of the agent. -/
def Welcomed (past : Past) (agent : AgentRecord) (agentId : Uuid) (sender : Channel) : Prop :=
  Did past (.insertAgentSender agentId sender) () ∧
    Did past (.send sender (.authSuccess agentId agent.name agent.token)) ()

/-- A frame enters the session under a code once. -/
def entering : Job → Law relaySignature
  | .frame _ (.message _), past, _, .call (.insertPendingClaim code sender) =>
      ¬ Did past (.insertPendingClaim code sender) ()
  | _, _, _, _ => True

/-- How a frame with a token ends, one that asks for a code, and a claim. -/
structure Ends (job : Job) (past : Past) (reply : Reply) : Prop where
  authenticated : ∀ session token hostname, job = .frame session (.message (.auth token hostname)) →
    ∃ found, Began past (.db (.getAgentByToken token)) found ∧ ∀ agent, found = .ok (some agent) →
      (∀ code, agent.claimCode = some code → Did past (.insertPendingClaim code session) ()) ∧
      (agent.claimCode = none → ∀ agentId, parseUuid agent.id = some agentId → Welcomed past agent agentId session)
  requested : ∀ session hostname, job = .frame session (.message (.requestClaim hostname)) →
    ∃ drawn, Began past (.db (.createAgentClaim hostname)) drawn ∧ ∀ record code, drawn = .ok (record, code) →
      Did past (.insertPendingClaim code session) ()
  confirmed : ∀ code headers, job = .claimAgent code headers → reply = .text .ok "Agent claimed successfully" →
    ∃ userId agent agentId waiting, Did past (.db (.claimAgentToUser code userId)) (.ok (some agent)) ∧
      parseUuid agent.id = some agentId ∧ Did past (.removePendingClaim code) waiting ∧
        ∀ sender, waiting = some sender → Welcomed past agent agentId sender

def claimContract : Contract relay where
  law := entering
  answer := fun job past _ reply => Ends job past reply

omit [Externals] in
theorem Began.later {op : Op} {result : op.Result} {later : Past} (began : Began past op result)
    (suffix : past <:+ later) : Began later op result :=
  began.trans suffix

omit [Externals] in
theorem Began.same {op other : Op} {result : op.Result} {result' : other.Result} (one : Began past op result)
    (two : Began past other result') : (⟨op, result⟩ : Event relaySignature) = ⟨other, result'⟩ := by
  have prefixes := List.suffix_of_suffix_length_le one two (by simp)
  simpa using prefixes.eq_of_length (by simp)

omit [Externals] in
theorem Welcomed.later {agent : AgentRecord} {sender : Channel} {later : Past}
    (welcomed : Welcomed past agent agentId sender) (suffix : past <:+ later) : Welcomed later agent agentId sender :=
  ⟨suffix.subset welcomed.1, suffix.subset welcomed.2⟩

omit [Externals] in
/-- Any program obeys the law of a request. -/
theorem entering_unframed {held : Held} {move} (unframed : ∀ session message, job ≠ .frame session (.message message)) :
    entering job past held move := by
  unfold entering
  split
  · exact absurd rfl (unframed _ _)
  · trivial

theorem claimAgent_ends {headers : HeaderMap} :
    (claimAgent code headers).Obeys (entering (.claimAgent code headers))
      (fun past _ reply => Ends (.claimAgent code headers) past reply) [] [] := by
  have ends {past : Past} {reply : Reply} (confirmed : reply = .text .ok "Agent claimed successfully" →
      ∃ userId agent agentId waiting, Did past (.db (.claimAgentToUser code userId)) (.ok (some agent)) ∧
        parseUuid agent.id = some agentId ∧ Did past (.removePendingClaim code) waiting ∧
          ∀ sender, waiting = some sender → Welcomed past agent agentId sender) :
      Ends (.claimAgent code headers) past reply := by
    refine ⟨fun _ _ _ framed => by contradiction, fun _ _ framed => by contradiction, ?_⟩
    rintro _ _ ⟨⟩ accepted
    exact confirmed accepted
  simp only [claimAgent, bind_eq, obeys_bind, getCurrentUserId]
  split
  · exact ends fun accepted => by simp at accepted
  · refine obeys_guarded.mpr ⟨trivial, trivial, fun user => ⟨trivial, ?_⟩⟩
    cases user with
    | none => exact ends fun accepted => by simp at accepted
    | some userId =>
        simp only [query, obeys_bind, obeys_guarded]
        refine ⟨trivial, trivial, fun taken => ⟨trivial, ?_⟩⟩
        rcases taken with (failure | _) | _ | agent
        · exact ends fun accepted => by simp at accepted
        · exact ends fun accepted => by simp at accepted
        · exact ends fun accepted => by simp at accepted
        · simp only []
          split
          · exact ends fun accepted => by simp at accepted
          · rename_i agentId parsed
            simp only [obeys_bind, obeys_guarded]
            refine ⟨trivial, trivial, fun waiting => ⟨trivial, ?_⟩⟩
            cases waiting with
            | none =>
                exact ends fun _ => ⟨userId, agent, agentId, none, by simp [Did], parsed, by simp [Did],
                  fun _ none => by contradiction⟩
            | some sender =>
                simp only [ifSome, confirmClaim, query, bind_eq, obeys_bind, obeys_guarded]
                refine ⟨trivial, trivial, fun online => ⟨trivial, trivial, trivial, fun registered => ⟨trivial, trivial,
                  fun told => obeys_done.mpr ?_⟩⟩⟩
                refine obeys_later (fun _ _ _ => trivial) fun later held _ suffix => ?_
                have final : Ends (.claimAgent code headers) later (.text .ok "Agent claimed successfully") := by
                  refine ends fun _ => ⟨userId, agent, agentId, some sender, suffix.subset (by simp), parsed,
                    suffix.subset (by simp), ?_⟩
                  rintro _ ⟨⟩
                  exact ⟨suffix.subset (by simp), suffix.subset (by simp)⟩
                exact final

/-- The entry of a session under a code. -/
def enters (op : Op) : Prop := ∃ code sender, op = .insertPendingClaim code sender

/-- The synchronisation of an agent's tunnels enters nobody under a code. -/
theorem syncAgentTunnels_avoids {sender : Channel} : (syncAgentTunnels agentId sender).Avoids enters := by
  refine syncAgentTunnels_within fun op syncs entered => ?_
  obtain ⟨code, sender, rfl⟩ := entered
  contradiction

omit [Externals] in
theorem entering_restricts {message : AgentMessage} :
    Law.Restricts (entering (.frame session (.message message))) enters := by
  intro past held move other
  cases move with
  | call op =>
      cases op with
      | insertPendingClaim code sender => exact absurd rfl (other _ ⟨code, sender, rfl⟩)
      | _ => trivial
  | acquire | release => trivial

/-- A frame with a token, up to the wait for the next frame. -/
theorem auth_ends {hostname : String} {post} (posts : ∀ later held, (∃ found,
      Began later (.db (.getAgentByToken token)) found ∧ ∀ agent, found = .ok (some agent) →
        (∀ code, agent.claimCode = some code → Did later (.insertPendingClaim code session) ()) ∧
        (agent.claimCode = none → ∀ agentId, parseUuid agent.id = some agentId →
          Welcomed later agent agentId session)) → post later held ()) :
    (auth session token hostname).Obeys (entering (.frame session (.message (.auth token hostname)))) post [] [] := by
  have restricts : Law.Restricts (entering (.frame session (.message (.auth token hostname)))) enters :=
    entering_restricts
  simp only [auth, query, bind_eq, obeys_bind]
  refine restricts.guarded ?_
  refine restricts.perform (by simp [enters]) fun found => ?_
  rcases found with failure | _ | agent
  · refine restricts.perform (by simp [enters]) fun _ => posts _ _ ⟨.error failure, by simp [Began], ?_⟩
    exact fun _ same => by cases same
  · refine restricts.perform (by simp [enters]) fun _ => posts _ _ ⟨.ok none, by simp [Began], ?_⟩
    exact fun _ same => by cases same
  · have own {later : Past} {held : Held} (suffix : [⟨.db (.getAgentByToken token), .ok (some agent)⟩] <:+ later)
        (ends : (∀ code, agent.claimCode = some code → Did later (.insertPendingClaim code session) ()) ∧
          (agent.claimCode = none → ∀ agentId, parseUuid agent.id = some agentId →
            Welcomed later agent agentId session)) : post later held () := by
      refine posts later held ⟨_, suffix, ?_⟩
      rintro _ ⟨⟩
      exact ends
    simp only []
    split
    · rename_i code waits
      simp only [obeys_bind]
      refine restricts.perform (by simp [enters]) fun _ => ?_
      refine obeys_guarded.mpr ⟨trivial, ⟨by simp [entering, Did], fun _ => ⟨trivial, ?_⟩⟩⟩
      refine restricts.perform (by simp [enters]) fun _ => own (by simp [List.suffix_cons_iff]) ⟨?_, ?_⟩
      · intro code' carries
        rw [waits, Option.some.injEq] at carries
        subst carries
        simp [Did]
      · exact fun free => by rw [waits] at free; contradiction
    · rename_i unclaimed
      split
      · rename_i unparsed
        refine restricts.perform (by simp [enters]) fun _ => own (by simp) ⟨?_, ?_⟩
        · exact fun code carries => by rw [unclaimed] at carries; contradiction
        · exact fun _ agentId parsed => by rw [unparsed] at parsed; contradiction
      · rename_i agentId parsed
        simp only [obeys_bind]
        refine restricts.perform (by simp [enters]) fun _ => ?_
        refine restricts.guarded ?_
        refine restricts.perform (by simp [enters]) fun _ => ?_
        refine restricts.guarded ?_
        refine restricts.perform (by simp [enters]) fun _ => ?_
        refine restricts.perform (by simp [enters]) fun _ => ?_
        refine syncAgentTunnels_avoids.obeys restricts fun later _ _ suffix => own (.trans ?_ suffix) ⟨?_, ?_⟩
        · simp [List.suffix_cons_iff]
        · exact fun code carries => by rw [unclaimed] at carries; contradiction
        · intro _ other parsed'
          rw [parsed, Option.some.injEq] at parsed'
          subst parsed'
          exact ⟨suffix.subset (by simp), suffix.subset (by simp)⟩

omit [Externals] in
theorem requestClaim_ends {hostname : String} {post} (posts : ∀ later held, (∃ drawn,
      Began later (.db (.createAgentClaim hostname)) drawn ∧ ∀ record code, drawn = .ok (record, code) →
        Did later (.insertPendingClaim code session) ()) → post later held ()) :
    (requestClaim session hostname).Obeys (entering (.frame session (.message (.requestClaim hostname))))
      post [] [] := by
  have restricts : Law.Restricts (entering (.frame session (.message (.requestClaim hostname)))) enters :=
    entering_restricts
  simp only [requestClaim, bind_eq]
  refine restricts.guarded ?_
  rw [obeys_bind]
  refine restricts.perform (by simp [enters]) fun drawn => ?_
  rcases drawn with failure | ⟨record, code⟩
  · refine restricts.perform (by simp [enters]) fun _ => posts _ _ ⟨.error failure, by simp [Began], ?_⟩
    exact fun _ _ same => by cases same
  · simp only [obeys_bind]
    refine restricts.perform (by simp [enters]) fun _ => ?_
    refine obeys_guarded.mpr ⟨trivial, ⟨by simp [entering, Did], fun _ => ⟨trivial, ?_⟩⟩⟩
    refine restricts.perform (by simp [enters]) fun _ => posts _ _ ⟨.ok (record, code),
      by simp [Began, List.suffix_cons_iff], ?_⟩
    rintro _ _ ⟨⟩
    simp [Did]

theorem claimContract_lawful : relay.Lawful claimContract := by
  intro job
  change (serve job).Obeys (entering job) (fun past _ reply => Ends job past reply) [] []
  have other (unframed : ∀ session message, job ≠ .frame session (.message message))
      (unclaimed : ∀ code headers, job ≠ .claimAgent code headers) :
      (serve job).Obeys (entering job) (fun past _ reply => Ends job past reply) [] [] :=
    obeys_free (fun _ _ _ => entering_unframed unframed) fun _ _ _ =>
      ⟨fun _ _ _ framed => absurd framed (unframed _ _), fun _ _ framed => absurd framed (unframed _ _),
        fun _ _ claims => absurd claims (unclaimed _ _)⟩
  cases job with
  | claimAgent code headers => exact claimAgent_ends
  | frame session frame =>
      cases frame with
      | message message =>
          have restricts : Law.Restricts (entering (.frame session (.message message))) enters := entering_restricts
          simp only [serve, handleFrame, bind_eq, obeys_bind]
          cases message with
          | auth token hostname =>
              refine auth_ends fun later held answered => ?_
              obtain ⟨found, began, ends⟩ := answered
              refine restricts.perform (by simp [enters]) fun _ =>
                ⟨?_, (fun _ _ same => by cases same), fun _ _ same => by cases same⟩
              rintro _ _ _ ⟨⟩
              have suffix := List.suffix_cons (⟨.awaitFrame session, ()⟩ : Event relaySignature) later
              refine ⟨found, began.later suffix, fun agent read =>
                ⟨fun code waits => ?_, fun free agentId parsed => ?_⟩⟩
              · exact suffix.subset ((ends agent read).1 code waits)
              · exact ((ends agent read).2 free agentId parsed).later suffix
          | requestClaim hostname =>
              refine requestClaim_ends fun later held answered => ?_
              obtain ⟨drawn, began, ends⟩ := answered
              refine restricts.perform (by simp [enters]) fun _ =>
                ⟨(fun _ _ _ same => by cases same), ?_, fun _ _ same => by cases same⟩
              rintro _ _ ⟨⟩
              have suffix := List.suffix_cons (⟨.awaitFrame session, ()⟩ : Event relaySignature) later
              exact ⟨drawn, began.later suffix, fun record code same => suffix.subset (ends record code same)⟩
          | data connId payload =>
              have ends {later : Past} : Ends (.frame session (.message (.data connId payload))) later .none :=
                ⟨(fun _ _ _ same => by cases same), (fun _ _ same => by cases same), fun _ _ same => by cases same⟩
              simp only [handleMessage]
              split
              · refine restricts.guarded ?_
                refine restricts.perform (by simp [enters]) fun _ => ?_
                exact restricts.perform (by simp [enters]) fun _ => ends
              · exact restricts.perform (by simp [enters]) fun _ => ends
          | closeConnection connId =>
              refine restricts.guarded ?_
              refine restricts.perform (by simp [enters]) fun _ => ?_
              exact restricts.perform (by simp [enters]) fun _ =>
                ⟨(fun _ _ _ same => by cases same), (fun _ _ same => by cases same), fun _ _ same => by cases same⟩
          | ping =>
              refine restricts.perform (by simp [enters]) fun _ => ?_
              exact restricts.perform (by simp [enters]) fun _ =>
                ⟨(fun _ _ _ same => by cases same), (fun _ _ same => by cases same), fun _ _ same => by cases same⟩
      | ignored | hangup => exact other (by simp) (by simp)
  | _ => exact other (by simp) (by simp)

/-! ## The condition -/

def Job.claims : Job → Bool
  | .claimAgent .. => true
  | _ => false

/-- Nobody else uses the code, and nothing else the channel of the agent. -/
def soleUse (code : String) (session : SessionId) (agentId : Uuid) : Check relay :=
  fun _ thread (choice : Choice) op =>
    match op with
    | .db (.createAgentClaim _) => Data.sixDigits (choice.code % 1000000) != code || choice.id == agentId
    | .insertPendingClaim other sender => other != code || sender == session
    | .removePendingClaim other => other != code || thread.job.claims
    | .insertAgentSender other sender => other != agentId || sender == session
    | .removeAgentSender other => other != agentId
    | _ => true

/-- A frame has read the code and not entered its session yet. -/
def aboutToEnter (code : String) (thread : Thread relay) : Bool :=
  (reading code thread).any fun session => !thread.past.any (stores session code)

/-- No claim takes the row while a frame is about to enter its session under the code. -/
def claimsEntered (code : String) : Check relay := fun config _ (choice : Choice) op =>
  match op with
  | .db (.claimAgentToUser other _) => other != code || (choice.refuses 0).isSome || (choice.refuses 1).isSome ||
      !config.state.db.agents.any (·.claimCode == some code) || !config.threads.any (aboutToEnter code)
  | _ => true

/-! ## What holds along a run -/

/-- The claim has taken the row. -/
def Took (past : Past) (code : String) : Prop :=
  ∃ userId agent, Did past (.db (.claimAgentToUser code userId)) (.ok (some agent))

/-- A frame has the code in hand, and its session is not entered under it. -/
def Unentered (job : Job) (past : Past) (session : SessionId) (code token : String) : Prop :=
  (Reading job past session code token ∧ ¬ Did past (.insertPendingClaim code session) ()) ∨
    Drawing job past session code token

structure Confirming (code : String) (session : SessionId) (agentId : Uuid) (config : Config relay) : Prop where
  rows : ∀ row ∈ config.state.db.agents, row.claimCode = some code → row.id = uuidToString agentId
  named : ∀ thread ∈ config.threads, ∀ userId agent,
    Did thread.past (.db (.claimAgentToUser code userId)) (.ok (some agent)) → agent.id = uuidToString agentId
  taken : ∀ thread ∈ config.threads, Took thread.past code → Claimed config.state (uuidToString agentId)
  once : ∀ (i j : Nat) (left right : Thread relay), config.threads[i]? = some left →
    config.threads[j]? = some right → Took left.past code → Took right.past code → i = j
  unentered : ∀ waiter ∈ config.threads, ∀ session token, Unentered waiter.job waiter.past session code token →
    ∀ thread ∈ config.threads, ¬ Took thread.past code
  waiting : ∀ sender, config.state.pendingClaims code = some sender → sender = session ∧
    ∀ thread ∈ config.threads, Took thread.past code → ∀ found, ¬ Did thread.past (.removePendingClaim code) found
  entered : ∀ waiter ∈ config.threads, ∀ sender, Did waiter.past (.insertPendingClaim code sender) () →
    config.state.pendingClaims code = some session ∨ ∃ thread ∈ config.threads, Took thread.past code ∧
      Did thread.past (.removePendingClaim code) (some session)
  fetched : ∀ thread ∈ config.threads, ∀ one two, Did thread.past (.removePendingClaim code) one →
    Did thread.past (.removePendingClaim code) two → one = two
  registered : ∀ thread ∈ config.threads, ∀ sender, Did thread.past (.insertAgentSender agentId sender) () →
    sender = session ∧ config.state.agentSenders agentId = some session

theorem aboutToEnter_iff {thread : Thread relay} : aboutToEnter code thread = true ↔ ∃ session token,
    Reading thread.job thread.past session code token ∧ ¬ Did thread.past (.insertPendingClaim code session) () := by
  simp only [aboutToEnter, Option.any_eq_true, reading_iff, Bool.not_eq_true', ← Bool.not_eq_true, any_stores]
  exact ⟨fun ⟨session, ⟨token, reads⟩, absent⟩ => ⟨session, token, reads, absent⟩,
    fun ⟨session, token, reads, absent⟩ => ⟨session, ⟨token, reads⟩, absent⟩⟩

section Call

variable {before after : Config relay} {task : Nat} {thread : Thread relay} {choice : Choice} {op : Op}
  {result : op.Result}

/-- A row that waits under a code has waited under it before, or has been drawn
under it now. -/
theorem code_named {world later : World} {agent : AgentRecord}
    (executed : exec world choice op = some (later, result)) (member : agent ∈ later.db.agents)
    (waits : agent.claimCode = some code) :
    (∃ old ∈ world.db.agents, old.claimCode = some code ∧ old.id = agent.id) ∨
      (∃ hostname, op = .db (.createAgentClaim hostname)) ∧ code = Data.sixDigits (choice.code % 1000000) ∧
        agent.id = uuidToString choice.id := by
  rcases exec_change executed with ⟨query, rfl, change, _⟩ | ⟨same, _⟩
  · generalize later.db = written at change member
    cases change with
    | kept | registered | banned | detached | opened | switched | edited | closed =>
        exact .inl ⟨agent, member, waits, rfl⟩
    | requested named unused unclaimed =>
        rcases List.mem_append.mp member with old | new
        · exact .inl ⟨agent, old, waits, rfl⟩
        · rw [List.mem_singleton.mp new] at waits ⊢
          cases unclaimed.1.symm.trans waits
          exact .inr ⟨⟨_, rfl⟩, rfl, named⟩
    | issued named unused owned =>
        rcases List.mem_append.mp member with old | new
        · exact .inl ⟨agent, old, waits, rfl⟩
        · rw [List.mem_singleton.mp new, owned.1] at waits
          contradiction
    | claimed found =>
        obtain ⟨old, listed, rfl⟩ := List.mem_map.mp member
        split at waits
        · contradiction
        · rename_i other
          exact .inl ⟨old, listed, waits, by simp [other]⟩
    | touched =>
        obtain ⟨old, listed, rfl⟩ := List.mem_map.mp member
        refine .inl ⟨old, listed, ?_, ?_⟩
        · split at waits <;> exact waits
        · split <;> rfl
    | deleted => exact .inl ⟨agent, List.mem_of_mem_filter member, waits, rfl⟩
  · rw [same] at member
    exact .inl ⟨agent, member, waits, rfl⟩

theorem Took.origin (called : Called before task thread choice op result after) {index : Nat} {other : Thread relay}
    (there : after.threads[index]? = some other) (took : Took other.past code) :
    (∃ old, before.threads[index]? = some old ∧ old.job = other.job ∧ Took old.past code) ∨
      (index = task ∧ other.job = thread.job ∧ ∃ userId agent,
        (⟨op, result⟩ : Event relaySignature) = ⟨.db (.claimAgentToUser code userId), .ok (some agent)⟩) := by
  obtain ⟨userId, agent, did⟩ := took
  rcases called.did there did with ⟨old, found, job, earlier⟩ | ⟨here, job, new⟩
  · exact .inl ⟨old, found, job, userId, agent, earlier⟩
  · exact .inr ⟨here, job, userId, agent, new.symm⟩

/-- Once the agent has been claimed no row waits under the code. -/
theorem Confirming.gone (confirming : Confirming code session agentId before)
    (claimed : Claimed before.state (uuidToString agentId)) {row : AgentRecord}
    (member : row ∈ before.state.db.agents) : row.claimCode ≠ some code := by
  intro waits
  have free := (claimed.rows row member (confirming.rows row member waits)).1
  rw [waits] at free
  contradiction

theorem Confirming.rows_call (confirming : Confirming code session agentId before)
    (called : Called before task thread choice op result after)
    (sole : soleUse code session agentId before thread choice op = true) :
    ∀ row ∈ after.state.db.agents, row.claimCode = some code → row.id = uuidToString agentId := by
  intro row member waits
  rcases code_named called.executed member waits with ⟨old, listed, carries, same⟩ | ⟨⟨hostname, rfl⟩, drawn, named⟩
  · rw [← same]
    exact confirming.rows old listed carries
  · have own : choice.id = agentId := by simpa [soleUse, drawn] using sole
    rw [named, own]

theorem Confirming.named_call (confirming : Confirming code session agentId before)
    (called : Called before task thread choice op result after) :
    ∀ thread ∈ after.threads, ∀ userId agent,
      Did thread.past (.db (.claimAgentToUser code userId)) (.ok (some agent)) → agent.id = uuidToString agentId := by
  intro other member userId agent did
  obtain ⟨index, there⟩ := List.mem_iff_getElem?.mp member
  rcases called.did there did with ⟨old, found, _, earlier⟩ | ⟨_, _, new⟩
  · exact confirming.named old (List.mem_of_getElem? found) userId agent earlier
  · cases new
    obtain ⟨row, found, rfl, _⟩ := claimAgentToUser_taken called.executed
    exact confirming.rows row (List.mem_of_find?_eq_some found) (by simpa using List.find?_some found)

theorem Confirming.taken_call (confirming : Confirming code session agentId before)
    (consistent : Consistent before.state.db before.state.drawn)
    (called : Called before task thread choice op result after) :
    ∀ thread ∈ after.threads, Took thread.past code → Claimed after.state (uuidToString agentId) := by
  intro other member took
  obtain ⟨index, there⟩ := List.mem_iff_getElem?.mp member
  rcases took.origin called there with ⟨old, found, _, earlier⟩ | ⟨_, _, userId, agent, new⟩
  · exact Settled.exec (confirming.taken old (List.mem_of_getElem? found) earlier) called.executed
  · cases new
    obtain ⟨row, found, _, _, written⟩ := claimAgentToUser_taken called.executed
    have listed := List.mem_of_find?_eq_some found
    have executed : exec before.state choice (.db (.claimAgentToUser code userId)) =
      some (after.state, .ok (some agent)) := called.executed
    have consistent' := consistent.exec executed
    have owned : { row with claimCode := none, userId := some userId } ∈ after.state.db.agents := by
      rw [written]
      exact List.mem_map.mpr ⟨row, listed, by simp⟩
    have claimed := consistent'.claimed owned rfl
    have named := confirming.rows row listed (by simpa using List.find?_some found)
    rwa [show ({ row with claimCode := none, userId := some userId } : AgentRecord).id = row.id from rfl, named]
      at claimed

theorem Confirming.once_call (confirming : Confirming code session agentId before)
    (called : Called before task thread choice op result after) :
    ∀ (i j : Nat) (left right : Thread relay), after.threads[i]? = some left → after.threads[j]? = some right →
      Took left.past code → Took right.past code → i = j := by
  -- a claim takes a row that waits under the code, so nobody has taken it before
  have first {old : Thread relay} {i : Nat} {userId : String} {agent : AgentRecord}
      (found : before.threads[i]? = some old) (took : Took old.past code)
      (new : (⟨op, result⟩ : Event relaySignature) = ⟨.db (.claimAgentToUser code userId), .ok (some agent)⟩) :
      False := by
    cases new
    obtain ⟨row, selected, _⟩ := claimAgentToUser_taken called.executed
    exact confirming.gone (confirming.taken old (List.mem_of_getElem? found) took)
      (List.mem_of_find?_eq_some selected) (by simpa using List.find?_some selected)
  intro i j left right one two tookLeft tookRight
  rcases tookLeft.origin called one with ⟨old, found, _, earlier⟩ | ⟨here, _, userId, agent, new⟩
  · rcases tookRight.origin called two with ⟨old', found', _, earlier'⟩ | ⟨_, _, userId, agent, new⟩
    · exact confirming.once i j old old' found found' earlier earlier'
    · exact (first found earlier new).elim
  · rcases tookRight.origin called two with ⟨old', found', _, earlier'⟩ | ⟨here', _⟩
    · exact (first found' earlier' new).elim
    · rw [here, here']

/-- A window of a frame was open before, or has been opened now; then the code
is that of a row. -/
theorem Unentered.origin (called : Called before task thread choice op result after) {index : Nat}
    {waiter : Thread relay} {owner : SessionId} (there : after.threads[index]? = some waiter)
    (unentered : Unentered waiter.job waiter.past owner code token) :
    (∃ old, before.threads[index]? = some old ∧ Unentered old.job old.past owner code token) ∨
      (∃ agent, (⟨op, result⟩ : Event relaySignature) = ⟨.db (.getAgentByToken token), .ok (some agent)⟩ ∧
        agent.claimCode = some code) ∨
      ∃ hostname record, (⟨op, result⟩ : Event relaySignature) =
        ⟨.db (.createAgentClaim hostname), .ok (record, code)⟩ := by
  rcases called.origin there with ⟨here, job, _, past⟩ | ⟨_, old⟩
  · rw [job, past] at unentered
    rcases unentered with ⟨reads, absent⟩ | draws
    · rcases reads.origin with old | ⟨_, agent, _, carries, new⟩
      · exact .inl ⟨thread, here ▸ called.found, .inl ⟨old, fun did => absent (List.mem_cons_of_mem _ did)⟩⟩
      · exact .inr (.inl ⟨agent, new, carries⟩)
    · rcases draws.origin with old | ⟨hostname, record, _, _, new⟩
      · exact .inl ⟨thread, here ▸ called.found, .inr old⟩
      · exact .inr (.inr ⟨hostname, record, new⟩)
  · exact .inl ⟨waiter, old, unentered⟩

/-- A claim that takes a row is refused nowhere. -/
theorem claimAgentToUser_unrefused {world later : World} {userId : String} {agent : AgentRecord}
    (executed : exec world choice (.db (.claimAgentToUser code userId)) = some (later, .ok (some agent))) :
    choice.refuses 0 = none ∧ choice.refuses 1 = none := by
  obtain ⟨_, answer, _⟩ := exec_db executed
  simp only [Query.run, Db.claimAgentToUser, Choice.statement, Database.write] at answer
  cases first : choice.refuses 0 with
  | some failure => simp [first] at answer
  | none =>
      cases second : choice.refuses 1 with
      | some failure =>
          rw [first, second] at answer
          dsimp only at answer
          split at answer <;> simp at answer
      | none => exact ⟨rfl, rfl⟩

theorem Confirming.unentered_call (confirming : Confirming code session agentId before)
    (lawful : before.Lawful contract) (guarded : DrawsGuarded before) (exclusive : before.Exclusive)
    (called : Called before task thread choice op result after)
    (sole : soleUse code session agentId before thread choice op = true)
    (apart : claimsEntered code before thread choice op = true) :
    ∀ waiter ∈ after.threads, ∀ session token, Unentered waiter.job waiter.past session code token →
      ∀ thread ∈ after.threads, ¬ Took thread.past code := by
  intro waiter member owner token unentered other member' took
  obtain ⟨index, there⟩ := List.mem_iff_getElem?.mp member
  obtain ⟨index', there'⟩ := List.mem_iff_getElem?.mp member'
  rcases took.origin called there' with ⟨old, found, _, earlier⟩ | ⟨_, _, userId, agent, new⟩
  · -- the agent has been claimed before, and no row waits under the code
    have claimed := confirming.taken old (List.mem_of_getElem? found) earlier
    rcases unentered.origin called there with ⟨waiter', there', open'⟩ | ⟨agent, new, carries⟩ | ⟨hostname, record, new⟩
    · exact confirming.unentered waiter' (List.mem_of_getElem? there') owner token open' old
        (List.mem_of_getElem? found) earlier
    · cases new
      obtain ⟨selected, _⟩ := getAgentByToken_found called.executed
      exact confirming.gone claimed (List.mem_of_find?_eq_some selected) carries
    · cases new
      obtain ⟨uuid, drawn, named⟩ := claimed.named
      have executed : exec before.state choice (.db (.createAgentClaim hostname)) =
        some (after.state, .ok (record, code)) := called.executed
      obtain ⟨_, _, fresh⟩ := exec_db executed
      rcases createAgentClaim_row executed with ⟨_, _, failed⟩ | ⟨_, same, _⟩
      · contradiction
      · cases same
        have own : choice.id = agentId := by simpa [soleUse] using sole
        rw [← own, uuidToString_inj] at named
        exact fresh choice.id (by simp [Query.draws]) (named ▸ drawn)
  · -- the claim takes the row now, and the condition rules out that a frame has the code in hand
    cases new
    obtain ⟨row, selected, _⟩ := claimAgentToUser_taken called.executed
    have waits : before.state.db.agents.any (·.claimCode == some code) = true :=
      List.any_eq_true.mpr ⟨row, List.mem_of_find?_eq_some selected, by simpa using List.find?_some selected⟩
    obtain ⟨first, second⟩ := claimAgentToUser_unrefused called.executed
    have none := apart
    simp only [claimsEntered, bne_self_eq_false, first, second, waits, Option.isSome_none, Bool.not_true,
      Bool.false_or, Bool.not_eq_true', List.any_eq_false] at none
    rcases unentered.origin called there with ⟨waiter', found, reads | draws⟩ | ⟨_, same, _⟩ | ⟨_, _, same⟩
    · exact none waiter' (List.mem_of_getElem? found) (aboutToEnter_iff.mpr ⟨owner, token, reads⟩)
    · have here := guarded.sole exclusive lawful called found draws
      subst here
      rw [called.found, Option.some.injEq] at found
      subst found
      obtain ⟨_, framed, _⟩ := draws.requests
      obtain ⟨headers, _, claims, _⟩ := ((called.law lawful).2.2.general fun _ torn => torn).1
      rw [claims] at framed
      contradiction
    · cases same
    · cases same

/-- A task that takes the code out has taken the row, and does so once. -/
theorem removal_claimed (lawful : before.Lawful contract) {found : Option Channel}
    (called : Called before task thread choice (.removePendingClaim code) found after)
    (sole : soleUse code session agentId before thread choice (.removePendingClaim code) = true) :
    Took thread.past code ∧ ∀ other, ¬ Did thread.past (.removePendingClaim code) other := by
  have claims : thread.job.claims = true := by simpa [soleUse] using sole
  have permitted := (called.law lawful).2.2
  have justified : Justified thread.job thread.past thread.held (.removePendingClaim code) := by
    unfold Permitted at permitted
    split at permitted
    · rename_i framed
      rw [framed] at claims
      contradiction
    · exact permitted
  obtain ⟨_, userId, agent, _, did, once⟩ := justified
  exact ⟨⟨userId, agent, did⟩, once⟩

theorem Confirming.waiting_call (confirming : Confirming code session agentId before)
    (lawful : before.Lawful contract) (enters : before.Lawful claimContract)
    (called : Called before task thread choice op result after)
    (sole : soleUse code session agentId before thread choice op = true) :
    ∀ sender, after.state.pendingClaims code = some sender → sender = session ∧
      ∀ thread ∈ after.threads, Took thread.past code →
        ∀ found, ¬ Did thread.past (.removePendingClaim code) found := by
  intro sender waits
  have executed : exec before.state choice op = some (after.state, result) := called.executed
  have kept : ∀ found, (⟨op, result⟩ : Event relaySignature) ≠ ⟨.removePendingClaim code, found⟩ := by
    intro found same
    cases same
    rw [exec_pendingClaims executed] at waits
    simp at waits
  rcases pendingClaims_origin executed waits with old | rfl
  · obtain ⟨own, untouched⟩ := confirming.waiting sender old
    refine ⟨own, fun other member took found did => ?_⟩
    obtain ⟨index, there⟩ := List.mem_iff_getElem?.mp member
    obtain ⟨earlier, was, _, removed⟩ := (called.did there did).resolve_right fun new =>
      kept found new.2.2.symm
    rcases took.origin called there with ⟨earlier', was', _, taken⟩ | ⟨here, _, userId, agent, new⟩
    · rw [was, Option.some.injEq] at was'
      subst was'
      exact untouched earlier (List.mem_of_getElem? was) taken found removed
    · cases new
      subst here
      rw [called.found, Option.some.injEq] at was
      subst was
      obtain ⟨_, _, _, _, unfetched⟩ := ((called.law lawful).2.2.general fun _ torn => torn).1
      exact unfetched found removed
  · have own : sender = session := by simpa [soleUse] using sole
    refine ⟨own, fun other member took => ?_⟩
    obtain ⟨index, there⟩ := List.mem_iff_getElem?.mp member
    obtain ⟨earlier, was, _, taken⟩ := (took.origin called there).resolve_right fun ⟨_, _, _, _, new⟩ => by cases new
    obtain ⟨token, code', silent⟩ := ((called.law lawful).2.2.general fun _ torn => torn).1
    have enter := called.law enters
    have unentered : Unentered thread.job thread.past sender code token := by
      rcases code' with read | drew
      · obtain ⟨_, _, framed, _⟩ := id read
        rw [framed] at enter
        exact .inl ⟨⟨read, silent⟩, enter⟩
      · exact .inr ⟨drew, silent⟩
    exact absurd taken (confirming.unentered thread called.member sender token unentered earlier
      (List.mem_of_getElem? was))

theorem Confirming.entered_call (confirming : Confirming code session agentId before)
    (lawful : before.Lawful contract) (called : Called before task thread choice op result after)
    (sole : soleUse code session agentId before thread choice op = true) :
    ∀ waiter ∈ after.threads, ∀ sender, Did waiter.past (.insertPendingClaim code sender) () →
      after.state.pendingClaims code = some session ∨ ∃ thread ∈ after.threads, Took thread.past code ∧
        Did thread.past (.removePendingClaim code) (some session) := by
  intro waiter member sender did
  have executed : exec before.state choice op = some (after.state, result) := called.executed
  obtain ⟨index, there⟩ := List.mem_iff_getElem?.mp member
  rcases called.did there did with ⟨old, found, _, earlier⟩ | ⟨_, _, new⟩
  · rcases confirming.entered old (List.mem_of_getElem? found) sender earlier with waits | ⟨other, was, took, removed⟩
    · rw [exec_pendingClaims executed]
      cases op with
      | insertPendingClaim other channel =>
          by_cases same : code = other
          · subst same
            have own : channel = session := by simpa [soleUse] using sole
            exact .inl (by simp [own])
          · exact .inl (by simpa [Function.update_of_ne same] using waits)
      | removePendingClaim other =>
          by_cases same : code = other
          · subst same
            obtain ⟨⟨userId, agent, took⟩, _⟩ := removal_claimed lawful called sole
            obtain ⟨self, here, _, _, past⟩ := called.self
            have answered : result = some session := by
              simp only [exec, Option.some.injEq, Prod.mk.injEq] at executed
              exact executed.2 ▸ waits
            refine .inr ⟨self, List.mem_of_getElem? here, ⟨userId, agent, ?_⟩, ?_⟩
            · exact past ▸ List.mem_cons_of_mem _ took
            · rw [past, ← answered]
              exact List.mem_cons_self
          · exact .inl (by simpa [Function.update_of_ne same] using waits)
      | _ => exact .inl waits
    · obtain ⟨later, now, _, suffix⟩ := called.goes was
      obtain ⟨userId, agent, taken⟩ := took
      exact .inr ⟨later, now, ⟨userId, agent, suffix.subset taken⟩, suffix.subset removed⟩
  · cases new
    have own : sender = session := by simpa [soleUse] using sole
    rw [exec_pendingClaims executed]
    exact .inl (by simp [own])

theorem Confirming.fetched_call (confirming : Confirming code session agentId before)
    (lawful : before.Lawful contract) (called : Called before task thread choice op result after)
    (sole : soleUse code session agentId before thread choice op = true) :
    ∀ thread ∈ after.threads, ∀ one two, Did thread.past (.removePendingClaim code) one →
      Did thread.past (.removePendingClaim code) two → one = two := by
  -- the task that moves has not taken the code out before
  have first {found : Option Channel} (new : (⟨.removePendingClaim code, found⟩ : Event relaySignature) = ⟨op, result⟩)
      (other : Option Channel) : ¬ Did thread.past (.removePendingClaim code) other := by
    cases new
    exact (removal_claimed lawful called sole).2 other
  intro other member one two did did'
  obtain ⟨index, there⟩ := List.mem_iff_getElem?.mp member
  rcases called.origin there with ⟨_, _, _, past⟩ | ⟨_, old⟩
  · rw [past] at did did'
    rcases List.mem_cons.mp did with new | earlier
    · rcases List.mem_cons.mp did' with new' | earlier'
      · cases new.trans new'.symm
        rfl
      · exact absurd earlier' (first new two)
    · rcases List.mem_cons.mp did' with new' | earlier'
      · exact absurd earlier (first new' one)
      · exact confirming.fetched thread called.member one two earlier earlier'
  · exact confirming.fetched other (List.mem_of_getElem? old) one two did did'

theorem Confirming.registered_call (confirming : Confirming code session agentId before)
    (called : Called before task thread choice op result after)
    (sole : soleUse code session agentId before thread choice op = true) :
    ∀ thread ∈ after.threads, ∀ sender, Did thread.past (.insertAgentSender agentId sender) () →
      sender = session ∧ after.state.agentSenders agentId = some session := by
  intro other member sender did
  have executed : exec before.state choice op = some (after.state, result) := called.executed
  obtain ⟨index, there⟩ := List.mem_iff_getElem?.mp member
  rw [exec_agentSenders executed]
  rcases called.did there did with ⟨old, found, _, earlier⟩ | ⟨_, _, new⟩
  · obtain ⟨own, serves⟩ := confirming.registered old (List.mem_of_getElem? found) sender earlier
    refine ⟨own, ?_⟩
    cases op with
    | insertAgentSender other channel =>
        by_cases same : agentId = other
        · subst same
          have own : channel = session := by simpa [soleUse] using sole
          simp [own]
        · simpa [Function.update_of_ne same] using serves
    | removeAgentSender other =>
        have apart : agentId ≠ other := fun same => by simp [soleUse, same] at sole
        simpa [Function.update_of_ne apart] using serves
    | _ => exact serves
  · cases new
    have own : sender = session := by simpa [soleUse] using sole
    exact ⟨own, by simp [own]⟩

theorem Confirming.quiet (confirming : Confirming code session agentId before) (same : before.SameTasks after)
    (state : after.state = before.state ∨ ∃ job, accept before.state job = some after.state) :
    Confirming code session agentId after := by
  obtain ⟨sessions, later⟩ : ∃ sessions, after.state = { before.state with sessions } := by
    rcases state with same | ⟨job, accepted⟩
    · exact ⟨before.state.sessions, same⟩
    · exact accept_same accepted
  have old {thread : Thread relay} (member : thread ∈ after.threads) {event : Event relaySignature}
      (did : event ∈ thread.past) := same.of_mem member did
  refine ⟨later ▸ confirming.rows, ?_, ?_, ?_, ?_, ?_, ?_, ?_, ?_⟩
  · intro thread member userId agent did
    obtain ⟨other, was, _, past⟩ := old member did
    exact confirming.named other was userId agent (past ▸ did)
  · rintro thread member ⟨userId, agent, did⟩
    obtain ⟨other, was, _, past⟩ := old member did
    rw [later]
    exact confirming.taken other was ⟨userId, agent, past ▸ did⟩
  · rintro i j left right one two tookLeft tookRight
    have nonempty {thread : Thread relay} (took : Took thread.past code) : thread.past ≠ [] := by
      obtain ⟨userId, agent, did⟩ := took
      exact List.ne_nil_of_mem did
    obtain ⟨left', was, _, past⟩ := (same.old i left one).resolve_left (nonempty tookLeft)
    obtain ⟨right', was', _, past'⟩ := (same.old j right two).resolve_left (nonempty tookRight)
    exact confirming.once i j left' right' was was' (past ▸ tookLeft) (past' ▸ tookRight)
  · rintro waiter member owner token unentered thread member' ⟨userId, agent, did⟩
    obtain ⟨other, was, _, past⟩ := old member' did
    obtain ⟨event, read⟩ : ∃ event, event ∈ waiter.past := by
      rcases unentered with ⟨⟨⟨_, _, _, did, _⟩, _⟩, _⟩ | ⟨⟨_, _, _, did, _⟩, _⟩
      · exact ⟨_, did⟩
      · exact ⟨_, did⟩
    obtain ⟨waiter', there, job, past'⟩ := old member read
    exact confirming.unentered waiter' there owner token (by rwa [job, past']) other was ⟨userId, agent, past ▸ did⟩
  · intro sender waits
    rw [later] at waits
    obtain ⟨own, untouched⟩ := confirming.waiting sender waits
    refine ⟨own, ?_⟩
    rintro thread member ⟨userId, agent, did⟩ found removed
    obtain ⟨other, was, _, past⟩ := old member did
    exact untouched other was ⟨userId, agent, past ▸ did⟩ found (past ▸ removed)
  · intro waiter member sender did
    obtain ⟨other, was, _, past⟩ := old member did
    rw [later]
    refine (confirming.entered other was sender (past ▸ did)).imp_right fun ⟨thread, there, took, removed⟩ => ?_
    obtain ⟨thread', now, _, past'⟩ := same.mem there
    exact ⟨thread', now, past' ▸ took, past' ▸ removed⟩
  · intro thread member one two did did'
    obtain ⟨other, was, _, past⟩ := old member did
    exact confirming.fetched other was one two (past ▸ did) (past ▸ did')
  · intro thread member sender did
    obtain ⟨other, was, _, past⟩ := old member did
    rw [later]
    exact confirming.registered other was sender (past ▸ did)

end Call

theorem Confirming.initial {state : World}
    (sole : ∀ row ∈ state.db.agents, row.claimCode = some code → row.id = uuidToString agentId)
    (alone : ∀ sender, state.pendingClaims code = some sender → sender = session) :
    Confirming code session agentId (⟨state, []⟩ : Config relay) :=
  ⟨sole, fun _ member => by simp at member, fun _ member => by simp at member, fun _ _ _ _ there => by simp at there,
    fun _ member => by simp at member, fun sender waits => ⟨alone sender waits, fun _ member => by simp at member⟩,
    fun _ member => by simp at member, fun _ member => by simp at member, fun _ member => by simp at member⟩

/-- The condition on a run: the code is used by one session for one agent, and
no claim comes between the two steps of a frame. -/
def confirmable (code : String) (session : SessionId) (agentId : Uuid) : Condition relay := fun config action =>
  (soleUse code session agentId).condition config action ∧ (claimsEntered code).condition config action

theorem Confirming.run {state : World} {last : Config relay} (consistent : Consistent state.db state.drawn)
    (sole : ∀ row ∈ state.db.agents, row.claimCode = some code → row.id = uuidToString agentId)
    (alone : ∀ sender, state.pendingClaims code = some sender → sender = session)
    (run : Reachable (confirmable code session agentId) state last) : Confirming code session agentId last := by
  refine Reachable.track (Confirming.initial sole alone) ?_
    (fun confirming same state => confirming.quiet same state) ?_ run
  · intro before after task thread choice op result earlier confirming permitted called
    have own := Check.holds permitted.1 called
    have apart := Check.holds permitted.2 called
    have lawful : before.Lawful contract := earlier.lawful relay_lawful
    have enters : before.Lawful claimContract := earlier.lawful claimContract_lawful
    have consistent' := consistent_steps consistent earlier
    exact ⟨confirming.rows_call called own, confirming.named_call called, confirming.taken_call consistent' called,
      confirming.once_call called,
      confirming.unentered_call lawful (drawsGuarded_run earlier) earlier.exclusive called own apart,
      confirming.waiting_call lawful enters called own, confirming.entered_call lawful called own,
      confirming.fetched_call lawful called own, confirming.registered_call called own⟩
  · exact fun confirming => Confirming.initial confirming.rows fun sender waits => by
      simp [World.reboot, World.initial] at waits

/-- What a task has sent has been handed to the channel. -/
theorem sent_run {allowed : Condition relay} {state : World} {last : Config relay}
    (run : Reachable allowed state last) : ∀ thread ∈ last.threads, ∀ sender message,
      Did thread.past (.send sender message) () → message ∈ last.state.sent sender := by
  have kept {world later : World} {choice : Choice} {op : Op} {result : op.Result} {sender : Channel}
      {message : RelayMessage} (executed : exec world choice op = some (later, result))
      (there : message ∈ world.sent sender) : message ∈ later.sent sender := by
    rw [exec_sent executed]
    cases op with
    | send other text =>
        by_cases same : sender = other
        · subst same
          simp [there]
        · simpa [Function.update_of_ne same] using there
    | _ => exact there
  refine (@Reachable.maintain _ relay _ (fun _ => True) (fun world _ past => ∀ sender message,
    Did past (.send sender message) () → message ∈ world.sent sender) _ _ trivial ?_ ?_ (fun _ => trivial) run).2
  · intro world job admitted _ accepted
    obtain ⟨sessions, rfl⟩ := accept_same accepted
    exact ⟨trivial, fun _ _ did => absurd did did_nil, fun _ _ sent => sent⟩
  · intro before task thread op next choice state result _ _ each found _ _ executed
    refine ⟨trivial, fun sender message did => ?_, fun _ _ sent sender message did =>
      kept executed (sent sender message did)⟩
    rcases List.mem_cons.mp did with new | old
    · cases new
      have ran : exec before.state choice (.send sender message) = some (state, ()) := executed
      rw [exec_sent ran]
      simp
    · exact kept executed (each thread (List.mem_of_getElem? found) sender message old)

/-- The frame asks for the agent: it has presented its token and found it, still
under the code or claimed already, or it has had it drawn under the code. -/
def AsksFor (frame : Thread relay) (code : String) (session : SessionId) (agentId : Uuid) : Prop :=
  (∃ token hostname agent, frame.job = .frame session (.message (.auth token hostname)) ∧
    Began frame.past (.db (.getAgentByToken token)) (.ok (some agent)) ∧ agent.id = uuidToString agentId ∧
      (agent.claimCode = some code ∨ agent.claimCode = none)) ∨
  ∃ hostname record, frame.job = .frame session (.message (.requestClaim hostname)) ∧
    Began frame.past (.db (.createAgentClaim hostname)) (.ok (record, code))

/-- From any state that can be reached, a claim that succeeds is confirmed to the
session whose frame asks for the agent, in whatever order the two are served,
where no claim takes the row between the two steps of a frame. -/
theorem claim_confirmed {portRange : UInt16 × UInt16} {state : World} {threads : List (Thread relay)}
    {last : Config relay} {frame claim : Thread relay} {headers : HeaderMap}
    (reached : Reached anyStep portRange ⟨state, threads⟩)
    (sole : ∀ row ∈ state.db.agents, row.claimCode = some code → row.id = uuidToString agentId)
    (alone : ∀ sender, state.pendingClaims code = some sender → sender = session)
    (run : Reachable (confirmable code session agentId) state last)
    (framed : frame ∈ last.threads) (asks : AsksFor frame code session agentId) (served : frame.finished)
    (claimed : claim ∈ last.threads) (claims : claim.job = .claimAgent code headers)
    (accepted : claim.rest = .done (.text .ok "Agent claimed successfully")) :
    (∃ name token, .authSuccess agentId name token ∈ last.state.sent session) ∧
      last.state.agentSenders agentId = some session ∧ last.state.pendingClaims code = none := by
  have confirming := Confirming.run reached.consistent sole alone run
  have lawful : last.Lawful claimContract := run.lawful claimContract_lawful
  have ends {thread : Thread relay} {reply : Reply} (member : thread ∈ last.threads)
      (done : thread.rest = .done reply) :
      Ends thread.job thread.past reply := by
    have obeys := lawful thread member
    rwa [done] at obeys
  have welcomed {thread : Thread relay} {agent : AgentRecord} {sender : Channel} (member : thread ∈ last.threads)
      (welcomed : Welcomed thread.past agent agentId sender) :
      (∃ name token, .authSuccess agentId name token ∈ last.state.sent session) ∧
        last.state.agentSenders agentId = some session := by
    obtain ⟨rfl, serves⟩ := confirming.registered thread member sender welcomed.1
    exact ⟨⟨_, _, sent_run run thread member _ _ welcomed.2⟩, serves⟩
  obtain ⟨userId, agent, other, waiting, took, parsed, fetched, told⟩ :=
    (ends claimed accepted).confirmed code headers claims rfl
  have named := confirming.named claim claimed userId agent took
  rw [named, parseUuid_uuidToString, Option.some.injEq] at parsed
  subst parsed
  have taken : Took claim.past code := ⟨userId, agent, took⟩
  have empty : last.state.pendingClaims code = none := by
    cases waits : last.state.pendingClaims code with
    | none => rfl
    | some sender => exact absurd fetched ((confirming.waiting sender waits).2 claim claimed taken waiting)
  -- a session that was entered under the code has been found by the claim
  have confirmed (entered : Did frame.past (.insertPendingClaim code session) ()) :
      (∃ name token, .authSuccess agentId name token ∈ last.state.sent session) ∧
        last.state.agentSenders agentId = some session := by
    rcases confirming.entered frame framed session entered with waits | ⟨thread, there, took', removed⟩
    · rw [empty] at waits
      contradiction
    · obtain ⟨i, first⟩ := List.mem_iff_getElem?.mp there
      obtain ⟨j, second⟩ := List.mem_iff_getElem?.mp claimed
      have index := confirming.once i j thread claim first second took' taken
      rw [index, second, Option.some.injEq] at first
      subst first
      exact welcomed claimed (told session (confirming.fetched claim claimed waiting (some session) fetched removed))
  refine (and_assoc.mp ⟨?_, empty⟩)
  obtain ⟨reply, done⟩ := served
  have ended := ends framed done
  rcases asks with ⟨token, hostname, agent', job, began, id, code'⟩ | ⟨hostname, record, job, began⟩
  · obtain ⟨found, began', finds⟩ := ended.authenticated session token hostname job
    cases began.same began'
    rcases code' with waits | free
    · exact confirmed ((finds agent' rfl).1 code waits)
    · exact welcomed framed ((finds agent' rfl).2 free agentId (by rw [id, parseUuid_uuidToString]))
  · obtain ⟨drawn, began', finds⟩ := ended.requested session hostname job
    cases began.same began'
    exact confirmed (finds record code rfl)

end Runs

/-- Alice is signed in; an agent has asked for a code and hung up, and its next
session has begun. -/
def codeDrawn : List (Job × Choice) :=
  [(.register { username := "alice", password := "secret" }, answer 1 0),
    (.connect 0, answer 0 0),
    (.frame 0 (.message (.requestClaim "laptop")), answer 2 7),
    (.frame 0 .hangup, answer 0 0),
    (.connect 1, answer 0 0)]

/-- The two requests: the session presents the token, and Alice claims the agent. -/
def asked : Job := .frame 1 (.message (.auth (Db.agentToken (answer 2 0)) "laptop"))

def claimed : Job := .claimAgent "000007" (signedIn 1)

/-- Both requests are through, and the claim has succeeded. -/
def bothServed (last : Config relay) : Bool :=
  match last.threads with
  | [frame, claim] => decide (frame.job = asked ∧ claim.job = claimed) && frame.isFinished &&
      (match claim.rest with
        | .done reply => decide (reply = .text .ok "Agent claimed successfully")
        | _ => false) &&
      match frame.past.getLast? with
        | some ⟨.db (.getAgentByToken token), .ok (some agent)⟩ =>
            token == Db.agentToken (answer 2 0) && agent.id == uuidToString 4 && agent.claimCode == some "000007"
        | _ => false
  | _ => false

theorem bothServed_spec {last : Config relay} (served : bothServed last = true) :
    ∃ frame claim : Thread relay, frame ∈ last.threads ∧ AsksFor frame "000007" 1 4 ∧ frame.finished ∧
      claim ∈ last.threads ∧ claim.job = .claimAgent "000007" (signedIn 1) ∧
        claim.rest = .done (.text .ok "Agent claimed successfully") := by
  unfold bothServed at served
  split at served
  · rename_i frame claim threads
    simp only [Bool.and_eq_true, decide_eq_true_eq] at served
    obtain ⟨⟨⟨⟨framed, claims⟩, done⟩, accepted⟩, read⟩ := served
    refine ⟨frame, claim, by simp [threads], ?_, Thread.isFinished_iff.mp done, by simp [threads], claims, ?_⟩
    · split at read
      · rename_i token agent last
        simp only [Bool.and_eq_true, beq_iff_eq] at read
        obtain ⟨⟨rfl, id⟩, waits⟩ := read
        obtain ⟨more, past⟩ := List.getLast?_eq_some_iff.mp last
        exact .inl ⟨_, _, agent, framed, ⟨more, past.symm⟩, id, .inl waits⟩
      · contradiction
    · split at accepted
      · rename_i reply returned
        exact returned.trans (congrArg _ (of_decide_eq_true accepted))
      · contradiction
  · contradiction

theorem claim_confirmed_alice :
    ∃ last : Config relay, (∃ name token, .authSuccess 4 name token ∈ last.state.sent 1) ∧
      last.state.agentSenders 4 = some 1 ∧ last.state.pendingClaims "000007" = none := by
  have passed : (relay.performAll codeDrawn newRelay).any (fun world : World =>
      decide (∀ row ∈ world.db.agents, row.claimCode = some "000007" → row.id = uuidToString 4) &&
      decide (world.pendingClaims "000007" = none) &&
      (relay.follow (fun config thread choice op => soleUse "000007" 1 4 config thread choice op &&
        claimsEntered "000007" config thread choice op) 200
          [.start asked, .start claimed, .finish 0 (answer 0 0), .finish 1 (answer 0 0)] ⟨world, []⟩).any bothServed)
      = true := by decide +kernel
  obtain ⟨⟨state, threads⟩, reached, _, checked⟩ := newRelay_check passed
  simp only [Bool.and_eq_true, decide_eq_true_eq] at checked
  obtain ⟨⟨sole, empty⟩, later⟩ := checked
  obtain ⟨last, followed, served⟩ := (Option.any_eq_true _ _).mp later
  have run : Reachable (confirmable "000007" 1 4) state last :=
    (System.follow_steps followed).weaken fun _ _ both => Check.condition_and both
  obtain ⟨frame, claim, framed, asks, done, claimed, claims, accepted⟩ := bothServed_spec served
  exact ⟨last, claim_confirmed reached sole
    (fun sender waits => (Option.some_ne_none sender (waits.symm.trans empty)).elim) run
    framed asks done claimed claims accepted⟩

/-- Alice's claim takes the row after the session has read its code and before it
is entered: nobody is there to be told. -/
theorem claim_unconfirmed :
    ¬ ∀ (state : World) (threads : List (Thread relay)) (last : Config relay) (frame claim : Thread relay)
      (code : String) (session : SessionId) (agentId : Uuid) (headers : HeaderMap),
      Reached anyStep (10000, 60000) ⟨state, threads⟩ →
      (∀ row ∈ state.db.agents, row.claimCode = some code → row.id = uuidToString agentId) →
      (∀ sender, state.pendingClaims code = some sender → sender = session) →
      Reachable (soleUse code session agentId).condition state last →
      frame ∈ last.threads → AsksFor frame code session agentId → frame.finished →
      claim ∈ last.threads → claim.job = .claimAgent code headers →
      claim.rest = .done (.text .ok "Agent claimed successfully") →
        (∃ name token, .authSuccess agentId name token ∈ last.state.sent session) ∧
          last.state.agentSenders agentId = some session ∧ last.state.pendingClaims code = none := by
  have passed : (relay.performAll codeDrawn newRelay).any (fun world : World =>
      decide (∀ row ∈ world.db.agents, row.claimCode = some "000007" → row.id = uuidToString 4) &&
      decide (world.pendingClaims "000007" = none) &&
      (relay.follow (soleUse "000007" 1 4) 200 ([.start asked, .start claimed] ++
        List.replicate 3 (.move 0 (answer 0 0)) ++ [.finish 1 (answer 0 0), .finish 0 (answer 0 0)]) ⟨world, []⟩).any
          fun last => bothServed last && decide (last.state.pendingClaims "000007" = some 1)) = true := by
    decide +kernel
  obtain ⟨⟨state, threads⟩, reached, _, checked⟩ := newRelay_check passed
  simp only [Bool.and_eq_true, decide_eq_true_eq] at checked
  obtain ⟨⟨sole, empty⟩, later⟩ := checked
  obtain ⟨last, followed, tested⟩ := (Option.any_eq_true _ _).mp later
  obtain ⟨served, waits⟩ := (Bool.and_eq_true _ _).mp tested
  obtain ⟨frame, claim, framed, asks, done, claimed, claims, accepted⟩ := bothServed_spec served
  intro always
  have confirmed := always state threads last frame claim "000007" 1 4 (signedIn 1) reached sole
    (fun sender waits => (Option.some_ne_none sender (waits.symm.trans empty)).elim)
    (System.follow_steps followed) framed asks done claimed
    claims accepted
  exact Option.some_ne_none 1 ((of_decide_eq_true waits).symm.trans confirmed.2.2)

end TunnelitRelay
