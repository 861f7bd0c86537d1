import TunnelitRelay.Ownership

namespace TunnelitRelay

open Concurrent Program Data

/-! # Refused requests

A handler answers with an error either before it has touched anything or
because the one statement that would have made the change has failed, so a
refused request leaves the relay as it was.  There is one exception:
`create_tunnel` reserves the port in memory first and does not give it back
when its INSERT fails.
-/

section Handlers

variable [Externals]

def StatusCode.failed : StatusCode → Bool
  | .ok | .created => false
  | _ => true

/-- The request was answered with an error status, or its handler has panicked. -/
def Reply.failed : Reply → Bool
  | .status code | .text code _ | .session code _ _ => code.failed
  | .panicked => true
  | _ => false

/-- In whatever state the event took place, it changed nothing but the stock of
identifiers. -/
def Ineffective (event : Event relaySignature) : Prop :=
  ∀ world choice after, exec world choice event.1 = some (after, event.2) →
    after = { world with drawn := after.drawn }

/-- The reservation of a `create_tunnel` whose row could not be inserted. -/
def StrayReservation (job : Job) (past : Past) (event : Event relaySignature) : Prop :=
  ∃ headers body port userId failure, job = .createTunnel headers body ∧
    event = ⟨.allocatePort (some port), some port⟩ ∧
    Did past (.db (.createTunnel body.agentId userId body.name body.localPort body.protocol port
      (cleanSubdomain body.subdomain))) (.error failure)

/-! ## Events without effect -/

/-- The operations that only look. -/
def Op.looks : Op → Bool
  | .db (.verifyUser ..) | .db (.getUserById _) | .db (.getAgentByToken _) | .db (.listAgentsForUser _)
  | .db (.listTunnelsForUser _) | .db (.listTunnelsForAgent _) | .db (.getTunnelById _)
  | .db (.isSubdomainTaken ..) => true
  | .userSession _ | .isAdminSession _ | .agentSender _ => true
  | _ => false

theorem ineffective_look {op : Op} {result : op.Result} (looks : op.looks = true) : Ineffective ⟨op, result⟩ := by
  intro world choice after executed
  cases op with
  | db query =>
      obtain ⟨rfl, _, _⟩ := exec_db executed
      cases query <;> first | rfl | contradiction
  | userSession | isAdminSession | agentSender =>
      cases executed
      rfl
  | _ => contradiction

omit [Externals] in
/-- A statement that writes and fails has written nothing. -/
theorem write_failed {α : Type} {db : Database} {written : Except Failure Database} {value : α}
    {failure : Failure} (failed : (db.write written value).2 = .error failure) :
    (db.write written value).1 = db := by
  cases written with
  | ok after => simp [Database.write] at failed
  | error => rfl

/-- Every function that writes, but for `delete_agent`, does so in its last statement. -/
theorem ineffective_failed {query : Query} {failure : Failure} (single : ∀ id, query ≠ .deleteAgent id) :
    Ineffective ⟨.db query, .error failure⟩ := by
  intro world choice after executed
  obtain ⟨rfl, failed, _⟩ := exec_db executed
  dsimp only at failed ⊢
  suffices unwritten : (query.run choice world.portRange world.db).1 = world.db by rw [unwritten]
  cases query with
  | registerUser username password =>
      simp only [Query.run, Db.registerUser] at failed ⊢
      split at failed
      · rfl
      · exact write_failed failed.symm
  | claimAgentToUser code userId =>
      simp only [Query.run, Db.claimAgentToUser] at failed ⊢
      split at failed
      · rfl
      · contradiction
      · exact write_failed failed.symm
  | deleteAgent id => exact absurd rfl (single id)
  | toggleUserBan | createAgentClaim | createAgentForUser | setAgentOnline | createTunnel
  | setTunnelEnabled | updateTunnel | deleteTunnel => exact write_failed failed.symm
  | _ => rfl

/-- No row waits under the code. -/
theorem ineffective_unclaimed {code userId : String} :
    Ineffective ⟨.db (.claimAgentToUser code userId), .ok none⟩ := by
  intro world choice after executed
  obtain ⟨rfl, missing, _⟩ := exec_db executed
  suffices unwritten : (Query.run choice world.portRange world.db (.claimAgentToUser code userId)).1 = world.db by
    rw [unwritten]
  simp only [Query.run, Db.claimAgentToUser, Database.write] at missing ⊢
  split at missing
  · rfl
  · rfl
  · split at missing <;> simp at missing

/-- The port was in use, or outside the range. -/
theorem ineffective_unallocated {preferred : Option UInt16} : Ineffective ⟨.allocatePort preferred, none⟩ := by
  intro world choice after executed
  simp only [exec] at executed
  split at executed
  · simp at executed
  · cases executed
    rfl

/-! ## What the answers of the database look like -/

/-- New rows are named by identifiers, and a port that is asked for is the one
that is handed out. -/
def Plausible : Event relaySignature → Prop
  | ⟨.db (.claimAgentToUser _ _), .ok (some agent)⟩ => parseUuid agent.id ≠ none
  | ⟨.db (.createTunnel ..), .ok record⟩ => parseUuid record.id ≠ none
  | ⟨.allocatePort (some preferred), some port⟩ => port = preferred
  | _ => True

omit [Externals] in
theorem allocatePort_preferred {state : AppState} {preferred port : UInt16}
    (allocated : state.allocatePort (some preferred) = some port) : port = preferred := by
  simp only [AppState.allocatePort] at allocated
  split_ifs at allocated
  exact (Option.some.inj allocated).symm

theorem possible_exec {world after : World} {choice : Choice} {op : Op} {result : op.Result}
    (consistent : Consistent world.db world.drawn) (executed : exec world choice op = some (after, result)) :
    Plausible ⟨op, result⟩ := by
  unfold Plausible
  split
  · rename_i code userId agent same
    cases same
    obtain ⟨row, found, rfl, _⟩ := claimAgentToUser_taken executed
    obtain ⟨id, _, named⟩ := consistent.agentDrawn row (List.mem_of_find?_eq_some found)
    simp [named, parseUuid_uuidToString]
  · rename_i record same
    cases same
    obtain ⟨_, written, _⟩ := exec_db executed
    simp only [Query.run, Db.createTunnel, Database.write] at written
    split at written <;> cases written
    simp [parseUuid_uuidToString]
  · rename_i preferred port same
    cases same
    simp only [exec] at executed
    split at executed <;> rename_i allocated
    · cases executed
      exact allocatePort_preferred allocated
    · simp at executed
  · trivial

theorem Reached.possible {allowed : Condition relay} {portRange : UInt16 × UInt16} {config : Config relay}
    (reached : Reached allowed portRange config) {thread : Thread relay} (member : thread ∈ config.threads)
    {event : Event relaySignature} (did : event ∈ thread.past) : Plausible event := by
  refine @Reachable.track _ _ _ (fun config => ∀ thread ∈ config.threads, ∀ event ∈ thread.past, Plausible event)
    _ _ (by simp) ?_ ?_ (by simp) reached thread member event did
  · intro before after task thread choice op result earlier possible _ called other member event did
    rcases called.split member with ⟨_, past⟩ | old
    · rw [past] at did
      rcases List.mem_cons.mp did with rfl | old
      · exact possible_exec (Reached.consistent earlier) called.executed
      · exact possible thread called.member event old
    · exact possible other old event did
  · intro before after possible same _ other member event did
    obtain ⟨old, there, _, past⟩ := same.of_mem member did
    exact possible old there event (past ▸ did)

/-! ## The handlers -/

/-- What the answer of a request tells about its past. -/
def Harmless (job : Job) (past : Past) (reply : Reply) : Prop :=
  reply.failed = true → (∀ event ∈ past, Plausible event) →
    ∀ event ∈ past, Ineffective event ∨ StrayReservation job past event

/-- Nothing is asked of the way, only of the answer. -/
def unrestricted : Law relaySignature := fun _ _ _ => True

def refusals : Contract relay where
  law := fun _ => unrestricted
  answer := fun job past _ reply => Harmless job past reply

section Blocks

variable {α : Type} {job : Job} {past : Past} {held : Held}

omit [Externals] in
theorem ends {program : Relay α} {post} (posts : ∀ past held value, post past held value) :
    program.Obeys unrestricted post past held :=
  obeys_free (fun _ _ _ => trivial) posts

omit [Externals] in
theorem obeys_ite {condition : Prop} [Decidable condition] {passes fails : Relay α} {post} :
    (if condition then passes else fails).Obeys unrestricted post past held ↔
      (condition → passes.Obeys unrestricted post past held) ∧
      (¬ condition → fails.Obeys unrestricted post past held) := by
  split <;> simp_all

omit [Externals] in
theorem access_then {op : Op} {post} (after : ∀ result, post (⟨op, result⟩ :: past) held result) :
    (access op).Obeys unrestricted post past held :=
  ⟨trivial, after⟩

omit [Externals] in
theorem withLock_then {op : Op} {lock : Lock} {mode : Mode} {post}
    (after : ∀ result, post (⟨op, result⟩ :: past) held result) :
    (withLock lock mode (access op)).Obeys unrestricted post past held := by
  rw [obeys_guarded]
  exact ⟨trivial, trivial, fun result => ⟨trivial, by simpa [dropGuard] using after result⟩⟩

omit [Externals] in
theorem query_then {query' : Query} {post} (after : ∀ result, post (⟨.db query', result⟩ :: past) held result) :
    (query query').Obeys unrestricted post past held :=
  withLock_then after

theorem harmless_answer {reply : Reply} (answers : reply.failed = false) : Harmless job past reply := by
  intro failed
  rw [answers] at failed
  contradiction

/-- Nothing in the past of the task has had any effect. -/
def Fruitless (past : Past) : Prop :=
  ∀ event ∈ past, Ineffective event

theorem fruitless_nil : Fruitless [] := by simp [Fruitless]

theorem Fruitless.cons {event : Event relaySignature} (fruitless : Fruitless past) (ineffective : Ineffective event) :
    Fruitless (event :: past) := by
  intro other member
  rcases List.mem_cons.mp member with rfl | old
  · exact ineffective
  · exact fruitless other old

theorem Fruitless.look {op : Op} {result : op.Result} (fruitless : Fruitless past) (looks : op.looks = true) :
    Fruitless (⟨op, result⟩ :: past) :=
  fruitless.cons (ineffective_look looks)

theorem Fruitless.harmless {reply : Reply} (fruitless : Fruitless past) : Harmless job past reply :=
  fun _ _ event did => .inl (fruitless event did)

theorem getCurrentUserId_then {headers : HeaderMap} {post} (fruitless : Fruitless past)
    (after : ∀ grown user, Fruitless grown → post grown held user) :
    (getCurrentUserId headers).Obeys unrestricted post past held := by
  simp only [getCurrentUserId]
  split
  · exact after _ _ fruitless
  · exact withLock_then fun user => after _ _ (fruitless.look rfl)

theorem isAdmin_then {headers : HeaderMap} {post} (fruitless : Fruitless past)
    (after : ∀ grown admitted, Fruitless grown → post grown held admitted) :
    (isAdmin headers).Obeys unrestricted post past held := by
  simp only [isAdmin]
  split
  · exact after _ _ fruitless
  · exact withLock_then fun admitted => after _ _ (fruitless.look rfl)

theorem subdomainTaken_then {subdomain excludeId : Option String} {post} (fruitless : Fruitless past)
    (after : ∀ grown taken, Fruitless grown → post grown held taken) :
    (subdomainTaken subdomain excludeId).Obeys unrestricted post past held := by
  simp only [subdomainTaken]
  split
  · exact after _ _ fruitless
  · simp only [bind_eq, obeys_bind]
    refine withLock_then fun taken => ?_
    split <;> exact after _ _ (fruitless.look rfl)

/-- The last statement of a request that has only looked before. -/
theorem Fruitless.fail {query : Query} {failure : Failure} {reply : Reply} (fruitless : Fruitless past)
    (single : ∀ id, query ≠ .deleteAgent id) : Harmless job (⟨.db query, .error failure⟩ :: past) reply :=
  (fruitless.cons (ineffective_failed single)).harmless

end Blocks

variable {held : Held} {headers : HeaderMap} {id : String}

theorem issueSession_harmless {past : Past} {job : Job} {code : StatusCode} {user : UserRecord}
    (created : code.failed = false) : (issueSession code user).Obeys unrestricted
      (fun past _ reply => Harmless job past reply) past held := by
  simp only [issueSession, bind_eq, obeys_bind]
  exact ends fun _ _ _ => ends fun _ _ _ => harmless_answer created

theorem login_harmless {body : AuthRequest} : (login body).Obeys unrestricted
    (fun past _ reply => Harmless (.login body) past reply) [] [] := by
  simp only [login, bind_eq, obeys_bind]
  refine query_then fun found => ?_
  rcases found with failure | _ | user
  · exact (fruitless_nil.look rfl).harmless
  · exact (fruitless_nil.look rfl).harmless
  · dsimp only
    split
    · exact (fruitless_nil.look rfl).harmless
    · exact issueSession_harmless rfl

theorem adminLogin_harmless {password : String} : (adminLogin password).Obeys unrestricted
    (fun past _ reply => Harmless (.adminLogin password) past reply) [] [] := by
  simp only [adminLogin]
  split
  · simp only [bind_eq, obeys_bind]
    exact ends fun _ _ _ => ends fun _ _ _ => harmless_answer rfl
  · exact fruitless_nil.harmless

theorem adminBanUser_harmless : (adminBanUser id headers).Obeys unrestricted
    (fun past _ reply => Harmless (.adminBanUser id headers) past reply) [] [] := by
  simp only [adminBanUser, bind_eq, obeys_bind]
  refine isAdmin_then fruitless_nil fun past admitted fruitless => ?_
  split
  · rw [obeys_bind]
    exact ends fun _ _ _ => harmless_answer rfl
  · exact fruitless.harmless

theorem adminUnbanUser_harmless : (adminUnbanUser id headers).Obeys unrestricted
    (fun past _ reply => Harmless (.adminUnbanUser id headers) past reply) [] [] := by
  simp only [adminUnbanUser, bind_eq, obeys_bind]
  refine isAdmin_then fruitless_nil fun past admitted fruitless => ?_
  split
  · rw [obeys_bind]
    exact ends fun _ _ _ => harmless_answer rfl
  · exact fruitless.harmless

theorem claimAgent_harmless {code : String} : (claimAgent code headers).Obeys unrestricted
    (fun past _ reply => Harmless (.claimAgent code headers) past reply) [] [] := by
  simp only [claimAgent, bind_eq, obeys_bind]
  refine getCurrentUserId_then fruitless_nil fun past user fruitless => ?_
  cases user with
  | none => exact fruitless.harmless
  | some userId =>
      simp only [obeys_bind]
      refine query_then fun claimed => ?_
      rcases claimed with failure | _ | agent
      · cases failure with
        | error text => exact fruitless.fail (by simp)
        | panicked => exact fruitless.fail (by simp)
      · exact (fruitless.cons ineffective_unclaimed).harmless
      · dsimp only
        split
        · -- The id of a row is well formed, so this branch is never taken.
          rename_i unparsed
          intro _ possible
          exact absurd unparsed (possible _ List.mem_cons_self)
        · simp only [obeys_bind]
          exact ends fun _ _ _ => ends fun _ _ _ => harmless_answer rfl

theorem generateAgentToken_harmless : (generateAgentToken headers).Obeys unrestricted
    (fun past _ reply => Harmless (.generateAgentToken headers) past reply) [] [] := by
  simp only [generateAgentToken, bind_eq, obeys_bind]
  refine getCurrentUserId_then fruitless_nil fun past user fruitless => ?_
  cases user with
  | none => exact fruitless.harmless
  | some userId =>
      simp only [obeys_guarded, obeys_bind]
      refine ⟨trivial, access_then fun agents => ?_⟩
      have looked : Fruitless (⟨.db (.listAgentsForUser userId), agents⟩ :: past) := fruitless.look rfl
      rcases agents with failure | _ | ⟨first, rest⟩
      · exact ⟨trivial, looked.harmless⟩
      · simp only [firstOrNewAgent, obeys_bind]
        refine access_then fun created => ?_
        cases created with
        | error failure => exact ⟨trivial, looked.fail (by simp)⟩
        | ok agent => exact ⟨trivial, harmless_answer rfl⟩
      · exact ⟨trivial, harmless_answer rfl⟩

theorem deleteAgent_harmless : (deleteAgent id).Obeys unrestricted
    (fun past _ reply => Harmless (.deleteAgent id) past reply) [] [] := by
  simp only [deleteAgent, bind_eq, obeys_bind]
  exact ends fun _ _ _ => ends fun _ _ _ => harmless_answer rfl

/-- Everything up to the INSERT has only looked, apart from the reservation. -/
theorem insertTunnel_harmless {past : Past} {userId : String} {agentId : Uuid} {port : UInt16}
    {body : CreateTunnelRequest} (fruitless : Fruitless past) :
    (insertTunnel userId agentId port body).Obeys unrestricted
      (fun past _ reply => Harmless (.createTunnel headers body) past reply)
      (⟨.allocatePort (some port), some port⟩ :: past) held := by
  simp only [insertTunnel, bind_eq, obeys_bind]
  refine query_then fun inserted => ?_
  cases inserted with
  | error failure =>
      intro _ _ event did
      rcases List.mem_cons.mp did with rfl | earlier
      · exact .inl (ineffective_failed (by simp))
      rcases List.mem_cons.mp earlier with rfl | old
      · exact .inr ⟨headers, body, port, some userId, failure, rfl, rfl, List.mem_cons_self⟩
      · exact .inl (fruitless event old)
  | ok record =>
      dsimp only
      split
      · rename_i unparsed
        intro _ possible
        exact absurd unparsed (possible _ List.mem_cons_self)
      · simp only [obeys_bind]
        exact ends fun _ _ _ => harmless_answer rfl

theorem reservePort_harmless {past : Past} {userId : String} {agentId : Uuid}
    {body : CreateTunnelRequest} (fruitless : Fruitless past) :
    (reservePort userId agentId body).Obeys unrestricted
      (fun past _ reply => Harmless (.createTunnel headers body) past reply) past held := by
  simp only [reservePort, bind_eq, obeys_bind]
  refine query_then fun found => ?_
  have looked : Fruitless (⟨.db (.getUserById userId), found⟩ :: past) := fruitless.look rfl
  rcases found with failure | _ | user
  · exact looked.harmless
  · exact looked.harmless
  · simp only [obeys_bind]
    refine withLock_then fun allocated => ?_
    cases allocated with
    | none => exact (looked.cons ineffective_unallocated).harmless
    | some port =>
        dsimp only
        split
        · rename_i same
          rw [← same]
          exact insertTunnel_harmless looked
        · -- Another port than the one asked for is never handed out.
          rename_i other
          intro _ possible
          exact absurd (possible _ List.mem_cons_self) other

theorem createTunnel_harmless {body : CreateTunnelRequest} : (createTunnel headers body).Obeys unrestricted
    (fun past _ reply => Harmless (.createTunnel headers body) past reply) [] [] := by
  simp only [createTunnel, bind_eq, obeys_bind]
  refine getCurrentUserId_then fruitless_nil fun past user fruitless => ?_
  cases user with
  | none => exact fruitless.harmless
  | some userId =>
      dsimp only
      split
      · exact fruitless.harmless
      · rw [obeys_bind]
        refine subdomainTaken_then fruitless fun grown taken fruitless => ?_
        split
        · exact fruitless.harmless
        · exact reservePort_harmless fruitless

theorem updateTunnel_harmless {body : UpdateTunnelRequest} : (updateTunnel id body).Obeys unrestricted
    (fun past _ reply => Harmless (.updateTunnel id body) past reply) [] [] := by
  simp only [updateTunnel, bind_eq, obeys_bind]
  refine query_then fun found => ?_
  have looked : Fruitless [⟨.db (.getTunnelById id), found⟩] := fruitless_nil.look rfl
  rcases found with failure | _ | tunnel
  · exact looked.harmless
  · exact looked.harmless
  · simp only [obeys_bind]
    refine subdomainTaken_then looked fun grown taken fruitless => ?_
    split
    · exact fruitless.harmless
    · rw [obeys_bind]
      refine query_then fun written => ?_
      cases written with
      | error failure => exact fruitless.fail (by simp)
      | ok _ =>
          rw [obeys_bind]
          exact ends fun _ _ _ => harmless_answer rfl

theorem toggleTunnel_harmless : (toggleTunnel id).Obeys unrestricted
    (fun past _ reply => Harmless (.toggleTunnel id) past reply) [] [] := by
  simp only [toggleTunnel, bind_eq, obeys_bind]
  refine query_then fun found => ?_
  have looked : Fruitless [⟨.db (.getTunnelById id), found⟩] := fruitless_nil.look rfl
  rcases found with failure | _ | tunnel
  · exact looked.harmless
  · exact looked.harmless
  · dsimp only
    split
    · exact looked.harmless
    · exact looked.harmless
    · simp only [obeys_bind]
      exact ends fun _ _ _ => ends fun _ _ _ => harmless_answer rfl

theorem deleteTunnel_harmless : (deleteTunnel id).Obeys unrestricted
    (fun past _ reply => Harmless (.deleteTunnel id) past reply) [] [] := by
  simp only [deleteTunnel, bind_eq, obeys_bind]
  refine query_then fun found => ?_
  rcases found with failure | _ | tunnel
  · exact (fruitless_nil.look rfl).harmless
  · exact harmless_answer rfl
  · simp only [obeys_bind]
    exact ends fun _ _ _ => ends fun _ _ _ => harmless_answer rfl

theorem refusals_lawful : relay.Lawful refusals := by
  intro job
  change (serve job).Obeys unrestricted (fun past _ reply => Harmless job past reply) [] []
  cases job with
  | register body =>
      simp only [serve, register, obeys_ite, bind_eq, obeys_bind]
      refine ⟨fun _ => fruitless_nil.harmless, fun _ => ⟨fun _ => fruitless_nil.harmless, fun _ => ?_⟩⟩
      refine query_then fun created => ?_
      cases created with
      | error failure => exact fruitless_nil.fail (by simp)
      | ok user => exact issueSession_harmless rfl
  | login body =>
      rw [serve]
      exact login_harmless
  | logout headers =>
      simp only [serve, logout, bind_eq, obeys_bind]
      exact ends fun _ _ _ => harmless_answer rfl
  | adminLogin password =>
      rw [serve]
      exact adminLogin_harmless
  | adminBanUser id headers =>
      rw [serve]
      exact adminBanUser_harmless
  | adminUnbanUser id headers =>
      rw [serve]
      exact adminUnbanUser_harmless
  | claimAgent code headers =>
      rw [serve]
      exact claimAgent_harmless
  | generateAgentToken headers =>
      rw [serve]
      exact generateAgentToken_harmless
  | deleteAgent id =>
      rw [serve]
      exact deleteAgent_harmless
  | createTunnel headers body =>
      rw [serve]
      exact createTunnel_harmless
  | updateTunnel id body =>
      rw [serve]
      exact updateTunnel_harmless
  | toggleTunnel id =>
      rw [serve]
      exact toggleTunnel_harmless
  | deleteTunnel id =>
      rw [serve]
      exact deleteTunnel_harmless
  | getLauncherSh query headers =>
      simp only [serve, getLauncherSh, bind_eq, obeys_bind]
      exact ends fun _ _ _ => harmless_answer rfl
  | getLauncherBat query headers =>
      simp only [serve, getLauncherBat, bind_eq, obeys_bind]
      exact ends fun _ _ _ => harmless_answer rfl
  | connect session =>
      rw [serve]
      exact harmless_answer rfl
  | frame session frame =>
      simp only [serve, bind_eq, obeys_bind]
      exact ends fun _ _ _ => harmless_answer rfl

/-- In every run, restarts included, a request that has been answered with an
error, or has panicked, has performed nothing that changed the relay, whatever
state each of its operations took place in; the one exception is the
reservation of a `create_tunnel` whose INSERT failed. -/
theorem refusals_harmless {allowed : Condition relay} {portRange : UInt16 × UInt16} {config : Config relay}
    (reached : Reached allowed portRange config) {thread : Thread relay} {reply : Reply}
    (member : thread ∈ config.threads) (answered : thread.rest = .done reply) (failed : reply.failed = true) :
    ∀ event ∈ thread.past, Ineffective event ∨ StrayReservation thread.job thread.past event := by
  have kept := Reachable.lawful refusals_lawful reached thread member
  rw [answered] at kept
  exact kept failed fun event did => reached.possible member did

/-- The task has been answered with an error. -/
def turnedAway (thread : Thread relay) : Bool :=
  match thread.rest with
  | .done reply => reply.failed
  | _ => false

end Handlers

/-- A login with the wrong password is refused. -/
theorem refusals_harmless_login : ∃ config : Config relay, ∃ thread ∈ config.threads, ∃ reply,
    thread.rest = .done reply ∧ reply.failed = true ∧ thread.past ≠ [] ∧
      ∀ event ∈ thread.past, Ineffective event ∨ StrayReservation thread.job thread.past event := by
  have passed : (relay.follow (fun _ _ _ _ => true) 200
      (inOrder [(.register { username := "alice", password := "secret" }, answer 1 0),
        (.login { username := "alice", password := "guessed" }, answer 2 0)]) ⟨newRelay, []⟩).any
      (fun config : Config relay => config.threads.any fun thread =>
        turnedAway thread && !thread.past.isEmpty) = true := by
    decide +kernel
  obtain ⟨config, reached, tested⟩ := newRelay_run passed
  obtain ⟨thread, member, holds⟩ := List.any_eq_true.mp tested
  obtain ⟨failed, performed⟩ := (Bool.and_eq_true _ _).mp holds
  unfold turnedAway at failed
  split at failed
  · rename_i reply answered
    exact ⟨config, thread, member, reply, answered, failed, by simpa using performed,
      refusals_harmless reached member answered failed⟩
  · exact absurd failed Bool.false_ne_true

end TunnelitRelay
