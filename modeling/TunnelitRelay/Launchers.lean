import TunnelitRelay.Data.Quoting
import TunnelitRelay.Footprints
import TunnelitRelay.Ownership

namespace TunnelitRelay

open Concurrent Program Data

/-! # Tokens for the user's own agents

`generate_agent_token` and the launcher scripts hand out the token of the user's
newest agent, or of one they create while they hold the database.
-/

/-- The query and the template of a request for a launcher script. -/
def Job.launcher : Job → Option (ScriptQuery × (String → String))
  | .getLauncherSh query _ => some (query, launcherSh)
  | .getLauncherBat query _ => some (query, launcherBat)
  | _ => none

/-- The operations that read a user's agents or create one. -/
def Op.issues : Op → Bool
  | .db (.listAgentsForUser _) | .db (.createAgentForUser ..) => true
  | _ => false

/-- The latest operation of the task was one of them. -/
def issuing (past : Past) : Bool := past.head?.any (·.1.issues)

/-- The task has taken the agent for the user from the listing, or created it. -/
inductive Handed (userId : String) (agent : AgentRecord) : Past → Prop where
  | listed {session rest} : Handed userId agent
      [⟨.db (.listAgentsForUser userId), .ok (agent :: rest)⟩, ⟨.userSession session, some userId⟩]
  | created {session name listed} : Handed userId agent
      [⟨.db (.createAgentForUser userId name), .ok agent⟩, ⟨.db (.listAgentsForUser userId), listed⟩,
        ⟨.userSession session, some userId⟩]

theorem Handed.issuing {userId : String} {agent : AgentRecord} {past : Past} (issued : Handed userId agent past) :
    issuing past = true := by
  cases issued <;> rfl

section Launchers

variable {job : Job} {past : Past} {held : Held} {userId : String}

/-- An agent is created right after none has been listed, under one guard. -/
def issuance (job : Job) : Law relaySignature := fun past held move =>
  (issuing past = true → (Lock.db, Mode.exclusive) ∈ held) ∧
    match move with
    | .call (.db (.createAgentForUser userId _)) => ∃ session listed,
        past = [⟨.db (.listAgentsForUser userId), listed⟩, ⟨.userSession session, some userId⟩] ∧
          rowsOrNone listed = [] ∧ (∀ headers, job = .generateAgentToken headers → ∃ agents, listed = .ok agents)
    | _ => True

/-- The token in an answer is the one given, or that of the agent taken or created. -/
structure Conveys (job : Job) (past : Past) (held : Held) (reply : Reply) : Prop where
  unguarded : (Lock.db, Mode.exclusive) ∉ held ∨ issuing past = false
  token : ∀ headers token id, job = .generateAgentToken headers → reply = .agentToken token id →
    ∃ userId agent, Handed userId agent past ∧ agent.token = token
  script : ∀ query template, job.launcher = some (query, template) → ∃ token contentType fileName,
    reply = .script contentType fileName (template (tokenArg token)) ∧
      match explicitToken query with
      | some explicit => token = some explicit
      | none => ∀ text, token = some text → ∃ userId agent, Handed userId agent past ∧ agent.token = text

/-! ## The handlers -/

/-- A program that reads and creates no agent for a user. -/
theorem idle_issuance {program : Relay α} {post} (avoids : program.Avoids fun op : Op => op.issues = true)
    (idle : issuing past = false)
    (posts : ∀ later held value, issuing later = false → post later held value) :
    program.Obeys (issuance job) post past held := by
  have lawful {past : Past} {held : Held} {move : Move relaySignature} (idle : issuing past = false)
      (free : ∀ userId name, move ≠ .call (.db (.createAgentForUser userId name))) :
      issuance job past held move := by
    refine ⟨fun issues => absurd issues (by simp [idle]), ?_⟩
    split
    · exact absurd rfl (free _ _)
    · trivial
  induction program generalizing past held with
  | done value => exact posts _ _ _ idle
  | call op next ih =>
      refine ⟨lawful idle fun userId name same => ?_, fun result => ih result (avoids.2 result) ?_⟩
      · cases same
        exact avoids.1 rfl
      · simpa [issuing] using avoids.1
  | acquire lock mode next ih => exact ⟨lawful idle (by simp), ih avoids idle⟩
  | release lock next ih => exact ⟨lawful idle (by simp), ih avoids idle⟩

theorem getCurrentUserId_issuance {headers : HeaderMap} {post} (anonymous : post [] [] none)
    (known : ∀ session user, post [⟨.userSession session, user⟩] [] user) :
    (getCurrentUserId headers).Obeys (issuance job) post [] [] := by
  unfold getCurrentUserId
  split
  · exact anonymous
  · exact obeys_guarded.mpr ⟨⟨by simp [issuing], trivial⟩, ⟨by simp [issuing], trivial⟩,
      fun user => ⟨⟨by simp [issuing, Op.issues], trivial⟩, known _ user⟩⟩

theorem firstOrNewAgent_issuance {session : String} {listed : Except Failure (List AgentRecord)} {post}
    (answers : ∀ headers, job = .generateAgentToken headers → ∃ agents, listed = .ok agents)
    (guarded : (Lock.db, Mode.exclusive) ∈ held)
    (posts : ∀ later result, issuing later = true → (∀ agent, result = .ok agent → Handed userId agent later) →
      post later held result) :
    (firstOrNewAgent userId (rowsOrNone listed)).Obeys (issuance job) post
      [⟨.db (.listAgentsForUser userId), listed⟩, ⟨.userSession session, some userId⟩] held := by
  cases rows : rowsOrNone listed with
  | nil =>
      refine ⟨⟨fun _ => guarded, session, listed, rfl, rows, answers⟩, fun result => posts _ result rfl ?_⟩
      rintro agent rfl
      exact .created
  | cons first rest =>
      refine posts _ _ rfl ?_
      rintro agent same
      cases same
      cases listed with
      | error failure => contradiction
      | ok agents =>
          obtain rfl : agents = first :: rest := rows
          exact .listed

theorem generateAgentToken_issuance {headers : HeaderMap} :
    (generateAgentToken headers).Obeys (issuance (.generateAgentToken headers))
      (Conveys (.generateAgentToken headers)) [] [] := by
  have refused {past : Past} {reply : Reply} (plain : ∀ token id, reply ≠ .agentToken token id) :
      Conveys (.generateAgentToken headers) past [] reply :=
    ⟨.inl (by simp), fun _ token id _ same => absurd same (plain token id), fun _ _ asks => by cases asks⟩
  refine obeys_bind.mpr (getCurrentUserId_issuance (refused (by simp)) fun session user => ?_)
  cases user with
  | none => exact refused (by simp)
  | some userId =>
      refine obeys_guarded.mpr ⟨⟨by simp [issuing, Op.issues], trivial⟩, obeys_bind.mpr (obeys_perform.mpr
        ⟨⟨by simp [issuing, Op.issues], trivial⟩, fun listed => ?_⟩)⟩
      cases listed with
      | error failure =>
          refine ⟨⟨fun _ => List.mem_cons_self, trivial⟩, refused ?_⟩
          cases failure <;> simp [Failure.dbError, Failure.reply]
      | ok agents =>
          refine obeys_bind.mpr (@firstOrNewAgent_issuance _ _ _ session (.ok agents) _ (fun _ _ => ⟨agents, rfl⟩)
            List.mem_cons_self fun later result _ issued => ?_)
          cases result with
          | error failure =>
              refine ⟨⟨fun _ => List.mem_cons_self, trivial⟩, refused ?_⟩
              cases failure <;> simp [Failure.dbError, Failure.reply]
          | ok agent =>
              refine ⟨⟨fun _ => List.mem_cons_self, trivial⟩, .inl (by simp [dropGuard]),
                fun _ token id _ same => ?_, ?_⟩
              · cases same
                exact ⟨userId, agent, issued agent rfl, rfl⟩
              · exact fun _ _ asks => by cases asks

theorem resolveTokenForScript_issuance {query : ScriptQuery} {headers : HeaderMap} {post}
    (other : ∀ headers, job ≠ .generateAgentToken headers)
    (given : ∀ explicit, explicitToken query = some explicit → post [] [] (some explicit))
    (found : ∀ past token, explicitToken query = none → (∀ text, token = some text →
      ∃ userId agent, Handed userId agent past ∧ agent.token = text) → post past [] token) :
    (resolveTokenForScript query headers).Obeys (issuance job) post [] [] := by
  unfold resolveTokenForScript
  split
  · rename_i explicit named
    exact given explicit named
  · rename_i absent
    have nothing {past : Past} : post past [] none := found past none absent (by simp)
    have ofUser (session : String) (user : Option String) :
        (match user with
          | some userId => tokenOfUser userId
          | none => done none : Relay (Option String)).Obeys (issuance job) post
            [⟨.userSession session, user⟩] [] := by
      cases user with
      | none => exact nothing
      | some userId =>
          refine obeys_guarded.mpr ⟨⟨by simp [issuing, Op.issues], trivial⟩, obeys_bind.mpr (obeys_perform.mpr
            ⟨⟨by simp [issuing, Op.issues], trivial⟩, fun listed => ?_⟩)⟩
          refine obeys_bind.mpr (firstOrNewAgent_issuance (fun headers same => absurd same (other headers))
            List.mem_cons_self fun later result _ issued => ?_)
          cases result with
          | error failure => exact ⟨⟨fun _ => List.mem_cons_self, trivial⟩, nothing⟩
          | ok agent =>
              refine ⟨⟨fun _ => List.mem_cons_self, trivial⟩, found later _ absent fun text same => ?_⟩
              cases same
              exact ⟨userId, agent, issued agent rfl, rfl⟩
    refine obeys_bind.mpr ?_
    unfold scriptUser
    split
    · exact obeys_guarded.mpr ⟨⟨by simp [issuing], trivial⟩, ⟨by simp [issuing], trivial⟩,
        fun user => ⟨⟨by simp [issuing, Op.issues], trivial⟩, ofUser _ user⟩⟩
    · exact getCurrentUserId_issuance nothing ofUser

theorem launcher_issuance {query : ScriptQuery} {headers : HeaderMap} {template : String → String}
    {contentType fileName : String} (asks : job.launcher = some (query, template)) :
    ((resolveTokenForScript query headers).bind fun token =>
      (.done (.script contentType fileName (template (tokenArg token))) : Relay Reply)).Obeys (issuance job)
        (Conveys job) [] [] := by
  have answers {past : Past} {token : Option String} (origin : match explicitToken query with
      | some explicit => token = some explicit
      | none => ∀ text, token = some text → ∃ userId agent, Handed userId agent past ∧ agent.token = text) :
      Conveys job past [] (.script contentType fileName (template (tokenArg token))) := by
    refine ⟨.inl (by simp), fun _ _ _ _ same => (nomatch same), fun query' template' asks' => ?_⟩
    rw [asks, Option.some.injEq, Prod.mk.injEq] at asks'
    obtain ⟨rfl, rfl⟩ := asks'
    exact ⟨token, contentType, fileName, rfl, origin⟩
  refine obeys_bind.mpr (resolveTokenForScript_issuance ?_ (fun explicit given => answers ?_)
    fun past token absent from' =>
    answers ?_)
  · rintro headers rfl
    contradiction
  · simp [given]
  · simpa [absent] using from'

end Launchers

section Runs

variable [Externals] {allowed : Condition relay} {portRange : UInt16 × UInt16} {config : Config relay} {userId : String}

def issuanceContract : Contract relay where
  law := issuance
  answer := Conveys

theorem issuance_lawful : relay.Lawful issuanceContract := by
  intro job
  change (serve job).Obeys (issuance job) (Conveys job) [] []
  have plain (outside : ∀ op : Op, op.issues = true → job.outside op)
      (other : ∀ headers, job ≠ .generateAgentToken headers) (unlaunched : job.launcher = none) :
      (serve job).Obeys (issuance job) (Conveys job) [] [] := by
    refine idle_issuance ((serve_footprint job).mono outside) rfl fun later held reply idle => ?_
    exact ⟨.inr idle, fun headers _ _ same => absurd same (other headers), fun _ _ asks => by simp [unlaunched] at asks⟩
  cases job with
  | generateAgentToken headers => exact generateAgentToken_issuance
  | getLauncherSh query headers => exact launcher_issuance rfl
  | getLauncherBat query headers => exact launcher_issuance rfl
  | frame session frame =>
      refine plain (fun op issues => ?_) (by simp) rfl
      cases op with
      | db call =>
          cases call <;> first | contradiction | (cases frame with | message received => (cases received <;> rfl) | _ => rfl)
      | _ => contradiction
  | _ =>
      refine plain (fun op issues => ?_) (by simp) rfl
      cases op with
      | db call => cases call <;> first | rfl | contradiction
      | _ => contradiction

/-! ## What a shell makes of a script -/

/-- The end of a quotation, expansions, escapes and line breaks. -/
def special (c : Char) : Bool := c ∈ ['"', '$', Char.ofNat 96, '\\', '%', '\n', '\r']

/-- A text that stands for itself between double quotes. -/
def Literal (text : String) : Prop := ∀ c ∈ text.toList, special c = false

/-- The script is the template without a token argument, or with one that a shell
reads as a single literal word. -/
def Uninjected (template : String → String) : Reply → Prop
  | .script _ _ body => body = template "" ∨ ∃ token, body = template (tokenArg (some token)) ∧ Literal token ∧
      ∀ rest, readLiteral '"' special (token.toList ++ '"' :: rest) = some (token.toList, rest)
  | _ => False

/-- The token that the caller gives is one that is not used, or literal once trimmed. -/
def GivesLiteral (query : ScriptQuery) : Prop :=
  ∀ token, query.token = some token → trim token = "" ∨ token = "YOUR_TOKEN_HERE" ∨ Literal (trim token)

omit [Externals] in
theorem launcher_inj {job : Job} {template : String → String} {query : ScriptQuery}
    (asks : job.launcher = some (query, template)) {left right : String} :
    template left = template right ↔ left = right := by
  cases job with
  | getLauncherSh query headers =>
      cases asks
      unfold launcherSh
      exact between_inj
  | getLauncherBat query headers =>
      cases asks
      unfold launcherBat
      exact between_inj
  | _ => contradiction

omit [Externals] in
theorem tokenArg_inj {left right : Option String} : tokenArg left = tokenArg right ↔ left = right := by
  have filled (text : String) : tokenArg (some text) ≠ "" := by
    intro empty
    have chars := congrArg String.toList empty
    simp [tokenArg] at chars
  constructor
  · intro same
    cases left with
    | none =>
        cases right with
        | none => rfl
        | some text => exact absurd same.symm (filled text)
    | some text =>
        cases right with
        | none => exact absurd same (filled text)
        | some other => rw [between_inj.mp same]
  · rintro rfl
    rfl

omit [Externals] in
theorem givesLiteral_iff {query : ScriptQuery} :
    GivesLiteral query ↔ ∀ explicit, explicitToken query = some explicit → Literal explicit := by
  unfold GivesLiteral explicitToken
  constructor
  · intro gives explicit used
    split at used
    · rename_i token given
      split at used
      · rename_i usable
        cases used
        exact (gives token given).resolve_left usable.1 |>.resolve_left usable.2
      · contradiction
    · contradiction
  · intro literal token given
    by_cases blank : trim token = ""
    · exact .inl blank
    · by_cases placeholder : token = "YOUR_TOKEN_HERE"
      · exact .inr (.inl placeholder)
      · refine .inr (.inr (literal _ ?_))
        simp [given, blank, placeholder]

omit [Externals] in
/-- A script is not injected into exactly if the token in it is literal. -/
theorem uninjected_iff {job : Job} {template : String → String} {query : ScriptQuery} {contentType fileName : String}
    {token : Option String} (asks : job.launcher = some (query, template)) :
    Uninjected template (.script contentType fileName (template (tokenArg token))) ↔
      ∀ text, token = some text → Literal text := by
  have same {left right : String} : template left = template right ↔ left = right := launcher_inj asks
  constructor
  · rintro (none | ⟨other, some, literal, _⟩) text rfl
    · exact absurd (tokenArg_inj.mp (same.mp none : _ = tokenArg .none)) (by simp)
    · cases tokenArg_inj.mp (same.mp some)
      exact literal
  · intro literal
    cases token with
    | none => exact .inl rfl
    | some text =>
        refine .inr ⟨text, rfl, literal text rfl, fun rest => readLiteral_iff.mpr fun c member => ?_⟩
        have plain := literal text rfl c member
        refine ⟨?_, plain⟩
        rintro rfl
        contradiction

/-- The hyphenated form of an identifier: hexadecimal digits and hyphens. -/
def Hyphenated (text : String) : Prop := ∀ c ∈ text.toList, c ∈ "0123456789abcdef-".toList

theorem agentToken_literal (prints : ∀ id, Hyphenated (uuidToString id)) (choice : Choice) :
    Literal (Db.agentToken choice) := by
  intro c member
  rw [Db.agentToken, String.toList_append] at member
  rcases List.mem_append.mp member with first | digits
  · have plain : "tk_".toList.all (fun c => !special c) = true := by decide +kernel
    simpa using List.all_eq_true.mp plain c first
  · rw [withoutHyphens, String.toList_ofList] at digits
    have plain : "0123456789abcdef-".toList.all (fun c => !special c) = true := by decide +kernel
    simpa using List.all_eq_true.mp plain c (prints choice.token c (List.mem_filter.mp digits).1)

section Exec

variable {world after : World} {choice : Choice}

theorem listAgentsForUser_listed {agents : List AgentRecord}
    (executed : exec world choice (.db (.listAgentsForUser userId)) = some (after, .ok agents)) :
    after.db = world.db ∧ agents = Db.newestFirst (world.db.agents.filter (·.userId == some userId)) := by
  obtain ⟨rfl, answer, _⟩ := exec_db executed
  exact ⟨rfl, (Except.ok.inj (Choice.statement_ok answer.symm)).symm⟩

theorem createAgentForUser_inserted {name : String} {agent : AgentRecord}
    (executed : exec world choice (.db (.createAgentForUser userId name)) = some (after, .ok agent)) :
    choice.refuses 0 = none ∧ after.db = { world.db with agents := world.db.agents ++ [agent] } ∧
      agent.userId = some userId := by
  obtain ⟨rfl, answer, _⟩ := exec_db executed
  dsimp only [Query.run, Db.createAgentForUser, Database.write] at answer ⊢
  split at answer
  · rename_i written ran
    obtain ⟨rfl, _⟩ := Db.insertAgent_ok (Choice.statement_ok ran)
    obtain rfl := Except.ok.inj answer
    refine ⟨?_, rfl, rfl⟩
    unfold Choice.statement at ran
    split at ran
    · contradiction
    · assumption
  · contradiction

end Exec

/-- Every agent that the task has read, and every one it has created, has a literal token. -/
structure ReadsLiteral (past : Past) : Prop where
  listed : ∀ userId agents, Did past (.db (.listAgentsForUser userId)) (.ok agents) →
    ∀ agent ∈ agents, Literal agent.token
  created : ∀ userId name agent, Did past (.db (.createAgentForUser userId name)) (.ok agent) → Literal agent.token

omit [Externals] in
theorem ReadsLiteral.issued {past : Past} {agent : AgentRecord} (reads : ReadsLiteral past)
    (issued : Handed userId agent past) : Literal agent.token := by
  cases issued with
  | listed => exact reads.listed userId _ List.mem_cons_self agent List.mem_cons_self
  | created => exact reads.created userId _ agent List.mem_cons_self

/-- The agents that are stored, and those that tasks have read or created, have literal tokens. -/
theorem Reached.literal (prints : ∀ id, Hyphenated (uuidToString id)) (reached : Reached allowed portRange config) :
    (∀ row ∈ config.state.db.agents, Literal row.token) ∧ ∀ thread ∈ config.threads, ReadsLiteral thread.past := by
  refine @Reachable.maintain _ relay _ (fun world => ∀ row ∈ world.db.agents, Literal row.token)
    (fun _ _ past => ReadsLiteral past) _ _ ?_ ?_ ?_ ?_ reached
  · exact fun row member => by simp [World.initial, Database.empty] at member
  · rintro world job admitted stored accepted
    obtain ⟨sessions, rfl⟩ := accept_same accepted
    exact ⟨stored, ⟨fun _ _ did => absurd did did_nil, fun _ _ _ did => absurd did did_nil⟩, fun _ _ reads => reads⟩
  · intro before task thread op next choice state result _ stored each found _ _ executed
    have reads := each thread (List.mem_of_getElem? found)
    have kept : ∀ row ∈ state.db.agents, Literal row.token := by
      intro row member
      by_cases queries : ∃ query, op = .db query
      · obtain ⟨query, rfl⟩ := queries
        obtain ⟨rfl, _, _⟩ := exec_db executed
        rcases Query.run_agents member with ⟨old, there, _, token, _⟩ | ⟨_, _, _, token⟩
        · exact token ▸ stored old there
        · exact token ▸ agentToken_literal prints choice
      · rcases exec_change executed with ⟨query, same, _⟩ | ⟨same, _⟩
        · exact absurd ⟨query, same⟩ queries
        · exact stored row (same ▸ member)
    refine ⟨kept, ⟨fun userId agents did => ?_, fun userId name agent did => ?_⟩, fun _ _ reads => reads⟩
    · rcases did_cons.mp did with now | earlier
      · cases now
        obtain ⟨same, rfl⟩ := listAgentsForUser_listed executed
        intro agent member
        rw [Db.newestFirst, List.mem_insertionSort] at member
        exact stored agent (List.mem_filter.mp member).1
      · exact reads.listed userId agents earlier
    · rcases did_cons.mp did with now | earlier
      · cases now
        obtain ⟨_, grown, _⟩ := createAgentForUser_inserted executed
        exact kept agent (by simp [grown])
      · exact reads.created userId name agent earlier
  · exact fun stored => stored

theorem Reached.conveys (reached : Reached allowed portRange config) {thread : Thread relay}
    (member : thread ∈ config.threads) {reply : Reply} (returned : thread.rest = .done reply) :
    Conveys thread.job thread.past thread.held reply := by
  have obeys := Reachable.lawful issuance_lawful reached thread member
  rwa [returned] at obeys

/-- In every run a launcher script is free of injection exactly if the caller gives
no token, or one that stands for itself between double quotes. -/
theorem launchers_uninjected_iff (prints : ∀ id, Hyphenated (uuidToString id))
    (reached : Reached anyStep portRange config) {thread : Thread relay} (member : thread ∈ config.threads)
    {query : ScriptQuery} {template : String → String} (asks : thread.job.launcher = some (query, template))
    {reply : Reply} (returned : thread.rest = .done reply) :
    Uninjected template reply ↔ GivesLiteral query := by
  obtain ⟨token, contentType, fileName, rfl, origin⟩ := (reached.conveys member returned).script query template asks
  rw [uninjected_iff asks, givesLiteral_iff]
  cases given : explicitToken query with
  | some explicit =>
      rw [given] at origin
      simp [origin]
  | none =>
      rw [given] at origin
      refine ⟨fun _ explicit none => by contradiction, fun _ text some => ?_⟩
      obtain ⟨userId, agent, issued, rfl⟩ := origin text some
      exact ((reached.literal prints).2 thread member).issued issued

end Runs

theorem mem_grouped {sizes : List Nat} {chars : List Char} {c : Char} (member : c ∈ grouped sizes chars) :
    c = '-' ∨ c ∈ chars := by
  induction sizes generalizing chars with
  | nil => simp [grouped] at member
  | cons size sizes ih =>
      cases sizes with
      | nil => exact .inr (List.mem_of_mem_take member)
      | cons next more =>
          simp only [grouped, List.mem_append, List.mem_cons] at member
          rcases member with first | hyphen | rest
          · exact .inr (List.mem_of_mem_take first)
          · exact .inl hyphen
          · exact (ih rest).imp_right List.mem_of_mem_drop

theorem standard_hyphenated (id : Uuid) : Hyphenated (uuidToString id) := by
  intro c member
  have member : c ∈ (printUuid id).toList := member
  rw [printUuid, String.toList_ofList] at member
  rcases mem_grouped member with rfl | digit
  · decide
  · obtain ⟨value, there, rfl⟩ := List.mem_map.mp digit
    have all : ∀ value : Fin 16, hexDigit value ∈ "0123456789abcdef-".toList := by decide
    exact all ⟨value, nibbles_lt value there⟩

/-- Alice downloads the script in her session. -/
theorem launchers_uninjected_session :
    ∃ reply, Uninjected launcherSh reply ↔ GivesLiteral { token := none, session := some (userToken 3) } := by
  have passed : (relay.follow (fun _ _ _ _ => true) 200 (inOrder
      [(.register { username := "alice", password := "secret" }, answer 1 0),
        (.getLauncherSh { token := none, session := some (userToken 3) } [], answer 2 0)]) ⟨newRelay, []⟩).any
      (fun config => (config.threads[1]?).any fun thread => decide (thread.job =
        .getLauncherSh { token := none, session := some (userToken 3) } []) && thread.isFinished) = true := by
    decide +kernel
  obtain ⟨config, reached, tested⟩ := newRelay_run passed
  clear passed
  obtain ⟨thread, found, tested⟩ := (Option.any_eq_true _ _).mp tested
  simp only [Bool.and_eq_true, decide_eq_true_eq] at tested
  obtain ⟨reply, returned⟩ := Thread.isFinished_iff.mp tested.2
  have asks : thread.job.launcher = some (_, launcherSh) := congrArg Job.launcher tested.1
  exact ⟨reply, launchers_uninjected_iff standard_hyphenated reached (List.mem_of_getElem? found) asks returned⟩

/-- A token with a quotation mark ends its argument. -/
theorem launcher_injected :
    ¬ ∀ (config : Config relay) (thread : Thread relay) (query : ScriptQuery) (template : String → String)
      (reply : Reply), Reached anyStep (10000, 60000) config → thread ∈ config.threads →
        thread.job.launcher = some (query, template) → thread.rest = .done reply → Uninjected template reply := by
  have passed : (relay.follow (fun _ _ _ _ => true) 200 (inOrder
      [(.getLauncherSh { token := some "\"; id; \"", session := none } [], answer 1 0)]) ⟨newRelay, []⟩).any
      (fun config => (config.threads[0]?).any fun thread => decide (thread.job =
        .getLauncherSh { token := some "\"; id; \"", session := none } []) && thread.isFinished) = true := by
    decide +kernel
  obtain ⟨config, reached, tested⟩ := newRelay_run passed
  clear passed
  obtain ⟨thread, found, tested⟩ := (Option.any_eq_true _ _).mp tested
  simp only [Bool.and_eq_true, decide_eq_true_eq] at tested
  obtain ⟨reply, returned⟩ := Thread.isFinished_iff.mp tested.2
  have member := List.mem_of_getElem? found
  have asks : thread.job.launcher = some (_, launcherSh) := congrArg Job.launcher tested.1
  intro always
  have clean := always config thread _ launcherSh reply reached member asks returned
  obtain ⟨token, contentType, fileName, rfl, origin⟩ := (Reached.conveys reached member returned).script _ _ asks
  have literal := (uninjected_iff asks).mp clean
  have given : explicitToken { token := some "\"; id; \"", session := none } = some "\"; id; \"" := by decide
  rw [given] at origin
  have quotes := literal _ origin '"' (by decide)
  exact absurd quotes (by decide)

end TunnelitRelay
