import TunnelitRelay.Ownership

namespace TunnelitRelay

open Concurrent

/-! # Claim codes in use

A code leads from the database to the map of waiting sessions.  Between the two
lookups it is in the hands of a task: of a session's frame until the session
has been sent the code, and of a claim until it has fetched the channel.
-/

section Windows

variable {job : Job} {past : Past} {session : SessionId} {code token : String} {op : Op}
  {result : op.Result}

/-- The frame has read the code of an unclaimed agent and not sent it yet. -/
def Reading (job : Job) (past : Past) (session : SessionId) (code token : String) : Prop :=
  ReadCode job past session code token ∧ ¬ Announced past session code token

/-- The session already waits under the code it has not been sent. -/
def Storing (job : Job) (past : Past) (session : SessionId) (code token : String) : Prop :=
  Reading job past session code token ∧ Did past (.insertPendingClaim code session) ()

/-- The frame has created an agent under the code and not sent it yet. -/
def Drawing (job : Job) (past : Past) (session : SessionId) (code token : String) : Prop :=
  DrewCode job past session code token ∧ ¬ Announced past session code token

/-- The claim has taken the agent and not yet fetched the waiting channel. -/
def Taking (job : Job) (past : Past) (code token : String) : Prop :=
  ∃ headers userId agent, job = .claimAgent code headers ∧
    Did past (.db (.claimAgentToUser code userId)) (.ok (some agent)) ∧ agent.token = token ∧
    ∀ sender, ¬ Did past (.removePendingClaim code) sender

theorem Announced.later (announced : Announced past session code token) :
    Announced (⟨op, result⟩ :: past) session code token :=
  List.mem_cons_of_mem _ announced

theorem announced_cons : Announced (⟨op, result⟩ :: past) session code token ↔
    op = .send session (claimReady code token) ∨ Announced past session code token := by
  refine did_cons.trans (or_congr_left ⟨fun same => ?_, ?_⟩)
  · cases same
    rfl
  · rintro rfl
    rfl

theorem Reading.origin (reading : Reading job (⟨op, result⟩ :: past) session code token) :
    Reading job past session code token ∨ ∃ hostname agent,
      job = .frame session (.message (.auth token hostname)) ∧ agent.claimCode = some code ∧
      (⟨op, result⟩ : Event relaySignature) = ⟨.db (.getAgentByToken token), .ok (some agent)⟩ := by
  obtain ⟨⟨hostname, agent, framed, read, carries⟩, silent⟩ := reading
  rcases did_cons.mp read with new | old
  · exact .inr ⟨hostname, agent, framed, carries, new.symm⟩
  · exact .inl ⟨⟨hostname, agent, framed, old, carries⟩, fun announced => silent announced.later⟩

theorem Drawing.origin (drawing : Drawing job (⟨op, result⟩ :: past) session code token) :
    Drawing job past session code token ∨ ∃ hostname record,
      job = .frame session (.message (.requestClaim hostname)) ∧ record.token = token ∧
      (⟨op, result⟩ : Event relaySignature) = ⟨.db (.createAgentClaim hostname), .ok (record, code)⟩ := by
  obtain ⟨⟨hostname, record, framed, drew, carries⟩, silent⟩ := drawing
  rcases did_cons.mp drew with new | old
  · exact .inr ⟨hostname, record, framed, carries, new.symm⟩
  · exact .inl ⟨⟨hostname, record, framed, old, carries⟩, fun announced => silent announced.later⟩

theorem Taking.origin (taking : Taking job (⟨op, result⟩ :: past) code token) :
    Taking job past code token ∨ ∃ headers userId agent, job = .claimAgent code headers ∧
      agent.token = token ∧
      (⟨op, result⟩ : Event relaySignature) = ⟨.db (.claimAgentToUser code userId), .ok (some agent)⟩ := by
  obtain ⟨headers, userId, agent, claims, took, carries, unfetched⟩ := taking
  rcases did_cons.mp took with new | old
  · exact .inr ⟨headers, userId, agent, claims, carries, new.symm⟩
  · exact .inl ⟨headers, userId, agent, claims, old, carries,
      fun sender did => unfetched sender (List.mem_cons_of_mem _ did)⟩

theorem ReadCode.later (read : ReadCode job past session code token) :
    ReadCode job (⟨op, result⟩ :: past) session code token := by
  obtain ⟨hostname, agent, framed, did, carries⟩ := read
  exact ⟨hostname, agent, framed, List.mem_cons_of_mem _ did, carries⟩

theorem DrewCode.later (drew : DrewCode job past session code token) :
    DrewCode job (⟨op, result⟩ :: past) session code token := by
  obtain ⟨hostname, record, framed, did, carries⟩ := drew
  exact ⟨hostname, record, framed, List.mem_cons_of_mem _ did, carries⟩

theorem Storing.later (storing : Storing job past session code token) :
    Storing job (⟨op, result⟩ :: past) session code token ∨ op = .send session (claimReady code token) := by
  by_cases sends : op = .send session (claimReady code token)
  · exact .inr sends
  · obtain ⟨⟨read, silent⟩, stored⟩ := storing
    exact .inl ⟨⟨read.later, fun announced => (announced_cons.mp announced).elim sends silent⟩,
      List.mem_cons_of_mem _ stored⟩

theorem Drawing.later (drawing : Drawing job past session code token) :
    Drawing job (⟨op, result⟩ :: past) session code token ∨ op = .send session (claimReady code token) := by
  by_cases sends : op = .send session (claimReady code token)
  · exact .inr sends
  · obtain ⟨drew, silent⟩ := drawing
    exact .inl ⟨drew.later, fun announced => (announced_cons.mp announced).elim sends silent⟩

end Windows

variable [Externals]

/-- The code stands for the token: in a row waiting to be claimed, or in the
hands of a task. -/
inductive InUse (config : Config relay) (code token : String) : Prop where
  | row {agent : AgentRecord} (member : agent ∈ config.state.db.agents)
      (waits : agent.claimCode = some code) (carries : agent.token = token)
  | reading {thread : Thread relay} {session : SessionId} (member : thread ∈ config.threads)
      (reads : Reading thread.job thread.past session code token)
  | taking {thread : Thread relay} (member : thread ∈ config.threads)
      (takes : Taking thread.job thread.past code token)

/-! ## The windows as tests -/

def readsCode (code token : String) : Event relaySignature → Bool
  | ⟨.db (.getAgentByToken token'), .ok (some agent)⟩ => token' == token && agent.claimCode == some code
  | _ => false

def sends (session : SessionId) (message : RelayMessage) : Event relaySignature → Bool
  | ⟨.send session' message', _⟩ => session' == session && message' == message
  | _ => false

def stores (session : SessionId) (code : String) : Event relaySignature → Bool
  | ⟨.insertPendingClaim code' session', _⟩ => session' == session && code' == code
  | _ => false

def fetches (code : String) : Event relaySignature → Bool
  | ⟨.removePendingClaim code', _⟩ => code' == code
  | _ => false

/-- The session whose frame has read the code and not sent it yet. -/
def reading (code : String) (thread : Thread relay) : Option SessionId :=
  match thread.job with
  | .frame session (.message (.auth token _)) =>
      if thread.past.any (readsCode code token) && !thread.past.any (sends session (claimReady code token))
      then some session else none
  | _ => none

def taking (code : String) (thread : Thread relay) : Bool :=
  match thread.job with
  | .claimAgent code' _ => code' == code && thread.past.any (takes code) && !thread.past.any (fetches code)
  | _ => false

def inUse (config : Config relay) (code : String) : Bool :=
  config.state.db.agents.any (·.claimCode == some code) ||
    config.threads.any (fun thread => (reading code thread).isSome) || config.threads.any (taking code)

/-- The session waits under a code that its frame has not sent it yet. -/
def storing (session : SessionId) (code : String) (thread : Thread relay) : Bool :=
  reading code thread == some session && thread.past.any (stores session code)

section Tests

variable {past : Past} {session : SessionId} {code token : String} {config : Config relay}
  {thread : Thread relay}

omit [Externals] in
theorem any_readsCode : past.any (readsCode code token) = true ↔
    ∃ agent, Did past (.db (.getAgentByToken token)) (.ok (some agent)) ∧ agent.claimCode = some code := by
  rw [List.any_eq_true]
  constructor
  · rintro ⟨event, member, test⟩
    unfold readsCode at test
    split at test
    · simp only [Bool.and_eq_true, beq_iff_eq] at test
      obtain ⟨rfl, carries⟩ := test
      exact ⟨_, member, carries⟩
    · contradiction
  · rintro ⟨agent, did, carries⟩
    exact ⟨_, did, by simp [readsCode, carries]⟩

omit [Externals] in
theorem any_sends {message : RelayMessage} :
    past.any (sends session message) = true ↔ Did past (.send session message) () := by
  rw [List.any_eq_true]
  constructor
  · rintro ⟨event, member, test⟩
    unfold sends at test
    split at test
    · simp only [Bool.and_eq_true, beq_iff_eq] at test
      obtain ⟨rfl, rfl⟩ := test
      exact member
    · contradiction
  · exact fun did => ⟨_, did, by simp [sends]⟩

omit [Externals] in
theorem any_stores : past.any (stores session code) = true ↔ Did past (.insertPendingClaim code session) () := by
  rw [List.any_eq_true]
  constructor
  · rintro ⟨event, member, test⟩
    unfold stores at test
    split at test
    · simp only [Bool.and_eq_true, beq_iff_eq] at test
      obtain ⟨rfl, rfl⟩ := test
      exact member
    · contradiction
  · exact fun did => ⟨_, did, by simp [stores]⟩

omit [Externals] in
theorem any_takes : past.any (takes code) = true ↔
    ∃ userId agent, Did past (.db (.claimAgentToUser code userId)) (.ok (some agent)) := by
  rw [List.any_eq_true]
  constructor
  · rintro ⟨event, member, test⟩
    unfold takes at test
    split at test
    · rw [beq_iff_eq] at test
      subst test
      exact ⟨_, _, member⟩
    · contradiction
  · rintro ⟨userId, agent, did⟩
    exact ⟨_, did, by simp [takes]⟩

omit [Externals] in
theorem any_fetches : past.any (fetches code) = true ↔ ∃ sender, Did past (.removePendingClaim code) sender := by
  rw [List.any_eq_true]
  constructor
  · rintro ⟨event, member, test⟩
    unfold fetches at test
    split at test
    · rw [beq_iff_eq] at test
      subst test
      exact ⟨_, member⟩
    · contradiction
  · rintro ⟨sender, did⟩
    exact ⟨_, did, by simp [fetches]⟩

theorem reading_iff : reading code thread = some session ↔
    ∃ token, Reading thread.job thread.past session code token := by
  unfold reading
  split
  · rename_i other token hostname framed
    simp only [Option.ite_none_right_eq_some, Bool.and_eq_true, any_readsCode, Bool.not_eq_true',
      ← Bool.not_eq_true, any_sends, Option.some.injEq]
    constructor
    · rintro ⟨⟨⟨agent, did, carries⟩, silent⟩, rfl⟩
      exact ⟨token, ⟨hostname, agent, framed, did, carries⟩, silent⟩
    · rintro ⟨token', ⟨hostname', agent, framed', did, carries⟩, silent⟩
      rw [framed] at framed'
      cases framed'
      exact ⟨⟨⟨agent, did, carries⟩, silent⟩, rfl⟩
  · rename_i other
    simp only [reduceCtorEq, false_iff]
    rintro ⟨token, ⟨hostname, agent, framed, _⟩, _⟩
    exact other _ _ _ framed

theorem storing_iff : storing session code thread = true ↔
    ∃ token, Storing thread.job thread.past session code token := by
  simp only [storing, Bool.and_eq_true, beq_iff_eq, reading_iff, any_stores]
  exact ⟨fun ⟨⟨token, reads⟩, stored⟩ => ⟨token, reads, stored⟩,
    fun ⟨token, reads, stored⟩ => ⟨⟨token, reads⟩, stored⟩⟩

theorem taking_iff : taking code thread = true ↔ ∃ token, Taking thread.job thread.past code token := by
  unfold taking
  split
  · rename_i code' headers claims
    simp only [Bool.and_eq_true, beq_iff_eq, any_takes, Bool.not_eq_true', ← Bool.not_eq_true,
      any_fetches, not_exists]
    constructor
    · rintro ⟨⟨rfl, userId, agent, did⟩, unfetched⟩
      exact ⟨agent.token, headers, userId, agent, claims, did, rfl, unfetched⟩
    · rintro ⟨token, headers', userId, agent, claims', did, _, unfetched⟩
      rw [claims] at claims'
      cases claims'
      exact ⟨⟨rfl, userId, agent, did⟩, unfetched⟩
  · rename_i other
    simp only [Bool.false_eq_true, false_iff]
    rintro ⟨token, headers, _, _, claims, _⟩
    exact other _ _ claims

theorem inUse_iff : inUse config code = true ↔ ∃ token, InUse config code token := by
  simp only [inUse, Bool.or_eq_true, List.any_eq_true, beq_iff_eq, taking_iff, Option.isSome_iff_exists,
    reading_iff]
  constructor
  · rintro ((⟨agent, member, waits⟩ | ⟨thread, member, session, token, reads⟩) | ⟨thread, member, token, takes⟩)
    · exact ⟨agent.token, .row member waits rfl⟩
    · exact ⟨token, .reading member reads⟩
    · exact ⟨token, .taking member takes⟩
  · rintro ⟨token, ⟨member, waits, carries⟩ | ⟨member, reads⟩ | ⟨member, takes⟩⟩
    · exact .inl (.inl ⟨_, member, waits⟩)
    · exact .inl (.inr ⟨_, member, _, token, reads⟩)
    · exact .inr ⟨_, member, token, takes⟩

end Tests

end TunnelitRelay
