import TunnelitRelay.LeakedPorts
import TunnelitRelay.WriteIsolation

namespace TunnelitRelay

open Concurrent Program

/-! # Creating a tunnel, where the answer is an error -/

/-- The answer carries a status of success. -/
def Reply.isSuccess : Reply → Bool
  | .status code | .text code _ | .session code .. => code = .ok ∨ code = .created
  | .adminSession _ | .agentToken .. | .tunnel _ | .script .. => true
  | .none | .panicked => false

/-- The reserved ports, the rows of tunnels, the listeners and everything sent
to agents are as before. -/
structure LeftAlone (before after : World) : Prop where
  ports : after.allocatedPorts = before.allocatedPorts
  tunnels : after.db.tunnels = before.db.tunnels
  tasks : after.tunnelTasks = before.tunnelTasks
  sent : after.sent = before.sent

theorem LeftAlone.refl {world : World} : LeftAlone world world := ⟨rfl, rfl, rfl, rfl⟩

section Creation

variable [Externals] {world : World} {portRange : UInt16 × UInt16} {headers : HeaderMap}
  {body : CreateTunnelRequest} {meets : World → Choice → Op → Bool} {post : World → Reply → Prop}

/-- The request gets as far as reserving the caller's port: it is signed in, the
agent id is well formed, and the port of the user is free. -/
def reservesPort (world : World) (headers : HeaderMap) (body : CreateTunnelRequest) : Bool :=
  ((extractToken headers).bind world.userSessions).any fun uid =>
    (parseUuid body.agentId).isSome && (world.db.users.find? (·.id == uid)).any fun user =>
      decide (1024 ≤ user.dedicatedPort ∧ user.dedicatedPort ∉ world.allocatedPorts)

/-- No row has the subdomain asked for. -/
def subdomainFree (world : World) (body : CreateTunnelRequest) : Bool :=
  (cleanSubdomain body.subdomain).all fun name =>
    world.db.tunnels.all fun row => row.subdomain.map Data.lower != some (Data.lower name)

/-- The agent id names no row, so that the foreign key of the new row fails. -/
def agentMissing (world : World) (body : CreateTunnelRequest) : Bool :=
  world.db.agents.all (·.id != body.agentId)

/-- The database refuses no statement by itself; the constraints of the tables
are checked all the same. -/
def answersAll (_ : World) (choice : Choice) : Op → Bool
  | .db _ => (choice.refuses 0).isNone
  | _ => true

/-! ## Up to the reservation -/

theorem getCurrentUserId_reads :
    (getCurrentUserId headers).Always relay
      (fun after user => after = world ∧ user = (extractToken headers).bind world.userSessions) world := by
  unfold getCurrentUserId
  cases token : extractToken headers with
  | none => exact ⟨rfl, rfl⟩
  | some token =>
      refine withLock_always fun choice after user executed => ?_
      cases executed
      exact ⟨rfl, rfl⟩

/-- The lookup of the subdomain found nothing, or was refused. -/
def Passes (meets : World → Choice → Op → Bool) (world : World) (body : CreateTunnelRequest) : Prop :=
  ∀ name, cleanSubdomain body.subdomain = some name → ∃ choice,
    meets world choice (.db (.isSubdomainTaken name none)) = true ∧
      Db.isSubdomainTaken choice world.db name none ≠ .ok true

/-- The environment may answer the call. -/
def Answerable (meets : World → Choice → Op → Bool) (world : World) (query : Query) : Prop :=
  ∃ choice, meets world choice (.db query) = true ∧ choice.refuses 0 = none

theorem subdomainTaken_passes :
    (subdomainTaken (cleanSubdomain body.subdomain) none).Always (relay.restrict meets)
      (fun after taken => after = world ∧ (taken = false → Passes meets world body)) world := by
  unfold Passes
  cases cleanSubdomain body.subdomain with
  | none => exact ⟨rfl, fun _ name absent => by contradiction⟩
  | some name =>
      refine always_bind.mpr (query_restricted fun choice met fresh => ?_)
      cases answered : (Query.run choice world.portRange world.db (.isSubdomainTaken name none)).2 with
      | error failure =>
          refine ⟨rfl, fun _ other same => ?_⟩
          obtain rfl := Option.some.inj same
          exact ⟨choice, met, by rw [show Db.isSubdomainTaken choice world.db name none = _ from answered]; simp⟩
      | ok taken =>
          refine ⟨rfl, fun free other same => ?_⟩
          obtain rfl := Option.some.inj same
          refine ⟨choice, met, ?_⟩
          rw [show Db.isSubdomainTaken choice world.db name none = _ from answered, free]
          simp

/-- A request that reserves no port changes nothing; one that does goes on to
write the row. -/
theorem createTunnel_always (failed : ∀ reply : Reply, reply.isSuccess = false → post world reply)
    (reserved : ∀ uid agentId user, (extractToken headers).bind world.userSessions = some uid →
      parseUuid body.agentId = some agentId → world.db.users.find? (·.id == uid) = some user →
      1024 ≤ user.dedicatedPort → user.dedicatedPort ∉ world.allocatedPorts →
      Answerable meets world (.getUserById uid) → Passes meets world body →
      (insertTunnel uid agentId user.dedicatedPort body).Always (relay.restrict meets) post
        { world with allocatedPorts := insert user.dedicatedPort world.allocatedPorts }) :
    (createTunnel headers body).Always (relay.restrict meets) post world := by
  refine always_bind.mpr (getCurrentUserId_reads.restrict.mono fun after user ⟨same, read⟩ => ?_)
  subst same
  cases user with
  | none => exact failed _ rfl
  | some uid =>
      dsimp only
      split
      · exact failed _ rfl
      rename_i agentId parsed
      refine always_bind.mpr (subdomainTaken_passes.mono fun after' taken ⟨same, passes⟩ => ?_)
      subst same
      split
      · exact failed _ rfl
      rename_i free
      refine always_bind.mpr (query_restricted fun choice met fresh => ?_)
      cases account : (Query.run choice after'.portRange after'.db (.getUserById uid)).2 with
      | error failure =>
          cases failure <;> exact failed _ rfl
      | ok found =>
          have unrefused : choice.refuses 0 = none := by
            cases refused : choice.refuses 0 with
            | none => rfl
            | some failure => simp [Query.run, Db.getUserById, Choice.statement, refused] at account
          have found := Except.ok.inj (Choice.statement_ok account)
          cases listed : after'.db.users.find? (·.id == uid) with
          | none =>
              rw [listed] at found
              subst found
              exact failed _ rfl
          | some user =>
              rw [listed] at found
              subst found
              refine always_bind.mpr ((withLock_always fun _ later port executed => ?_).restrict)
              simp only [exec, AppState.allocatePort] at executed
              split at executed
              · rename_i port' allocated
                split at allocated
                · rename_i available
                  obtain rfl := Option.some.inj allocated
                  cases executed
                  dsimp only
                  rw [if_pos rfl]
                  exact reserved uid agentId user read.symm parsed listed available.1 available.2
                    ⟨choice, met, unrefused⟩ (passes (by simpa using free))
                · contradiction
              · cases executed
                exact failed _ rfl

/-! ## From the reservation back to the request -/

/-- What always holds after a call holds after it for each answer that the
condition lets through. -/
theorem answer_of_restricted {query' : Query} {post : World → Except Failure query'.Value → Prop}
    (always : (query query').Always (relay.restrict meets) post world) {choice : Choice}
    (met : meets world choice (.db query') = true) (once : (query'.draws choice).Nodup)
    (fresh : ∀ id ∈ query'.draws choice, id ∉ world.drawn) :
    post { world with
      db := (query'.run choice world.portRange world.db).1
      drawn := query'.draws choice ++ world.drawn } (query'.run choice world.portRange world.db).2 := by
  refine always_guarded.mp always choice _ _ (System.restrict_exec.mpr ⟨met, ?_⟩)
  simp only [exec]
  rw [if_pos ⟨once, by simpa using fresh⟩]

theorem getCurrentUserId_of_always {post : World → Option String → Prop}
    (always : (getCurrentUserId headers).Always (relay.restrict meets) post world)
    (reads : ∀ token, meets world calm (.userSession token) = true) :
    post world ((extractToken headers).bind world.userSessions) := by
  unfold getCurrentUserId at always
  cases token : extractToken headers with
  | none =>
      rw [token] at always
      exact always
  | some token' =>
      rw [token] at always
      exact always_guarded.mp always calm _ _ (System.restrict_exec.mpr ⟨reads _, rfl⟩)

theorem subdomainTaken_of_always {post : World → Bool → Prop}
    (always : (subdomainTaken (cleanSubdomain body.subdomain) none).Always (relay.restrict meets) post world)
    (passes : Passes meets world body) : post world false := by
  unfold Passes at passes
  cases wanted : cleanSubdomain body.subdomain with
  | none =>
      rw [wanted] at always
      exact always
  | some name =>
      rw [wanted] at always
      obtain ⟨choice, met, free⟩ := passes name wanted
      have answered := answer_of_restricted (always_bind.mp always) met List.nodup_nil (by simp [Query.draws])
      cases found : (Query.run choice world.portRange world.db (.isSubdomainTaken name none)).2 with
      | error failure =>
          rw [found] at answered
          exact answered
      | ok taken =>
          rw [found] at answered
          cases taken with
          | true => exact absurd found free
          | false => exact answered

theorem exec_reserve {choice : Choice} {port : UInt16} (high : 1024 ≤ port) (free : port ∉ world.allocatedPorts) :
    exec world choice (.allocatePort (some port)) =
      some ({ world with allocatedPorts := insert port world.allocatedPorts }, some port) := by
  have allocated : world.allocatePort (some port) = some port := if_pos ⟨high, free⟩
  simp only [exec, allocated]

/-- What always holds after a request that reserves the port holds after all
that follows the reservation. -/
theorem createTunnel_reserved {uid : String} {agentId : Uuid} {user : UserRow}
    (always : (createTunnel headers body).Always (relay.restrict meets) post world)
    (reads : ∀ token, meets world calm (.userSession token) = true)
    (reserves : meets world calm (.allocatePort (some user.dedicatedPort)) = true)
    (answered : Answerable meets world (.getUserById uid))
    (signed : (extractToken headers).bind world.userSessions = some uid)
    (parsed : parseUuid body.agentId = some agentId)
    (listed : world.db.users.find? (·.id == uid) = some user)
    (high : 1024 ≤ user.dedicatedPort) (free : user.dedicatedPort ∉ world.allocatedPorts)
    (passes : Passes meets world body) :
    (insertTunnel uid agentId user.dedicatedPort body).Always (relay.restrict meets) post
      { world with allocatedPorts := insert user.dedicatedPort world.allocatedPorts } := by
  have known := getCurrentUserId_of_always (always_bind.mp always) reads
  rw [signed] at known
  dsimp only at known
  rw [parsed] at known
  have unused := subdomainTaken_of_always (always_bind.mp known) passes
  simp only [Bool.false_eq_true, if_false] at unused
  obtain ⟨choice, met, unrefused⟩ := answered
  have account := answer_of_restricted (always_bind.mp unused) met List.nodup_nil (by simp [Query.draws])
  have found : (Query.run choice world.portRange world.db (.getUserById uid)).2 = .ok (some user.toUserRecord) := by
    simp [Query.run, Db.getUserById, Choice.statement, unrefused, listed]
  rw [found] at account
  have reserved := always_guarded.mp (always_bind.mp account) calm _ _
    (System.restrict_exec.mpr ⟨reserves, @exec_reserve _ world calm _ high free⟩)
  rw [always_done] at reserved
  dsimp only at reserved
  rwa [if_pos rfl] at reserved

/-! ## Writing the row -/

/-- Where the agent and the user exist, an identifier never drawn before names
a new row. -/
theorem insertTunnel_accepted {choice : Choice} {row : TunnelRecord} {uid : String}
    (consistent : Consistent world.db world.drawn) (registered : ∃ user ∈ world.db.users, user.id = uid)
    (attached : agentMissing world body = false) (fresh : choice.id ∉ world.drawn)
    (named : row.id = uuidToString choice.id) (owned : row.userId = some uid) (on : row.agentId = body.agentId) :
    Db.insertTunnel world.db row = .ok { world.db with tunnels := world.db.tunnels ++ [row] } := by
  have unused : (world.db.tunnels.any fun other => other.id == row.id) = false := by
    refine List.any_eq_false.mpr fun other listed same => fresh ?_
    obtain ⟨id, drew, its⟩ := consistent.tunnelDrawn other listed
    have alike : uuidToString id = uuidToString choice.id := its.symm.trans ((eq_of_beq same).trans named)
    exact uuidToString_injective alike ▸ drew
  have known : Db.userExists world.db row.userId = true := by
    obtain ⟨user, listed, its⟩ := registered
    rw [owned]
    exact List.any_eq_true.mpr ⟨user, listed, by simp [its]⟩
  have present : (world.db.agents.any fun agent => agent.id == row.agentId) = true := by
    obtain ⟨agent, listed, its⟩ := List.all_eq_false.mp attached
    exact List.any_eq_true.mpr ⟨agent, listed, by simpa [on] using its⟩
  simp [Db.insertTunnel, unused, known, present]

/-- Where it does not, the foreign key refuses the row. -/
theorem insertTunnel_refused {choice : Choice} {db : Database} {uid : String} {publicPort : UInt16}
    (missing : (db.agents.all fun agent => agent.id != body.agentId) = true) :
    ∃ failure, (Query.run choice portRange db (.createTunnel body.agentId (some uid) body.name body.localPort
      body.protocol publicPort (cleanSubdomain body.subdomain))).2 = .error failure := by
  have absent : (db.agents.any fun agent => agent.id == body.agentId) = false :=
    List.any_eq_false.mpr fun agent listed => by simpa using List.all_eq_true.mp missing agent listed
  simp only [Query.run, Db.createTunnel, Choice.statement]
  split
  · exact ⟨_, rfl⟩
  · simp only [Db.insertTunnel, absent, Bool.false_and, Bool.false_eq_true, if_false]
    split_ifs
    all_goals exact ⟨_, rfl⟩

/-- Where the agent exists and the database answers, the row is written. -/
theorem insertTunnel_succeeds {uid : String} {agentId : Uuid} {publicPort : UInt16}
    (consistent : Consistent world.db world.drawn) (registered : ∃ user ∈ world.db.users, user.id = uid)
    (attached : agentMissing world body = false) :
    (insertTunnel uid agentId publicPort body).Always (relay.restrict answersAll)
      (fun _ reply => reply.isSuccess = true) world := by
  refine always_bind.mpr (query_restricted fun choice met fresh => ?_)
  have unrefused : choice.refuses 0 = none := Option.isNone_iff_eq_none.mp met
  simp only [Query.run, Db.createTunnel, Choice.statement, unrefused]
  rw [insertTunnel_accepted consistent registered attached (fresh choice.id (List.mem_singleton.mpr rfl)) rfl rfl
    rfl]
  simp only [Database.write, parseUuid_uuidToString]
  exact always_bind.mpr ((avoids_nothing _).always (fun _ _ _ => trivial) trivial |>.mono fun _ _ _ => rfl)

/-- A refused row leaves the port reserved. -/
theorem insertTunnel_strands {uid : String} {agentId : Uuid} {publicPort : UInt16} {choice : Choice}
    {before : World} (unreserved : publicPort ∉ before.allocatedPorts)
    (always : (insertTunnel uid agentId publicPort body).Always (relay.restrict meets)
      (fun after reply => reply.isSuccess = false → LeftAlone before after)
      { before with allocatedPorts := insert publicPort before.allocatedPorts })
    (met : ∀ op, meets { before with allocatedPorts := insert publicPort before.allocatedPorts } choice op = true)
    (fresh : choice.id ∉ before.drawn)
    (refused : ∃ failure, (Query.run choice before.portRange before.db (.createTunnel body.agentId (some uid)
      body.name body.localPort body.protocol publicPort (cleanSubdomain body.subdomain))).2 = .error failure) :
    False := by
  obtain ⟨failure, failed⟩ := refused
  have answered := answer_of_restricted (always_bind.mp always) (met _) (List.nodup_singleton _)
    (by simpa [Query.draws] using fresh)
  dsimp only at answered
  rw [failed] at answered
  have untouched : LeftAlone before _ := answered (by cases failure <;> rfl)
  have ports : insert publicPort before.allocatedPorts = before.allocatedPorts := untouched.ports
  exact unreserved (ports ▸ Finset.mem_insert_self ..)

/-! ## Exactly when -/

theorem reservesPort_iff : reservesPort world headers body = true ↔ ∃ uid agentId user,
    (extractToken headers).bind world.userSessions = some uid ∧ parseUuid body.agentId = some agentId ∧
      world.db.users.find? (·.id == uid) = some user ∧ 1024 ≤ user.dedicatedPort ∧
        user.dedicatedPort ∉ world.allocatedPorts := by
  simp only [reservesPort, Option.any_eq_true, Bool.and_eq_true, Option.isSome_iff_exists, decide_eq_true_eq]
  constructor
  · rintro ⟨uid, signed, ⟨agentId, parsed⟩, user, listed, high, free⟩
    exact ⟨uid, agentId, user, signed, parsed, listed, high, free⟩
  · rintro ⟨uid, agentId, user, signed, parsed, listed, high, free⟩
    exact ⟨uid, signed, ⟨agentId, parsed⟩, user, listed, high, free⟩

omit [Externals] in
/-- A lookup that is answered passes only where the subdomain is free. -/
theorem isSubdomainTaken_free {choice : Choice} {name : String} (unrefused : choice.refuses 0 = none) :
    Db.isSubdomainTaken choice world.db name none ≠ .ok true ↔
      (world.db.tunnels.all fun row => row.subdomain.map Data.lower != some (Data.lower name)) = true := by
  simp [Db.isSubdomainTaken, Choice.statement, unrefused]

omit [Externals] in
theorem subdomainFree_of_passes (passes : Passes answersAll world body) : subdomainFree world body = true := by
  simp only [subdomainFree, Option.all_eq_true]
  intro name wanted
  obtain ⟨choice, met, free⟩ := passes name wanted
  exact (isSubdomainTaken_free (Option.isNone_iff_eq_none.mp met)).mp free

omit [Externals] in
theorem passes_of_subdomainFree (free : subdomainFree world body = true) : Passes answersAll world body := by
  intro name wanted
  refine ⟨calm, rfl, ?_⟩
  rw [subdomainFree, wanted] at free
  exact (isSubdomainTaken_free rfl).mpr free

/-- From every reachable state, a creation that fails leaves everything as it
was exactly where it reserves no port; and where no statement is refused by the
driver, also where the subdomain is taken or the agent has a row. -/
theorem failed_creation_untouched {config : Config relay} (reached : Reached anyStep portRange config)
    (fresh : ∃ id : Uuid, id ∉ config.state.drawn) :
    ((∀ after reply, Performs relay config.state (.createTunnel headers body) after reply →
      reply.isSuccess = false → LeftAlone config.state after) ↔
        reservesPort config.state headers body = false) ∧
    ((∀ after reply, Performs (relay.restrict answersAll) config.state (.createTunnel headers body) after reply →
      reply.isSuccess = false → LeftAlone config.state after) ↔
        (reservesPort config.state headers body && subdomainFree config.state body &&
          agentMissing config.state body) = false) := by
  obtain ⟨id, unused⟩ := fresh
  have consistent := Reached.consistent reached
  constructor
  · rw [always_iff_performs rfl]
    constructor
    · intro always
      by_contra reserves
      obtain ⟨uid, agentId, user, signed, parsed, listed, high, free⟩ :=
        reservesPort_iff.mp (Bool.not_eq_false _ ▸ reserves)
      have anyway : (createTunnel headers body).Always (relay.restrict fun _ _ _ => true)
          (fun after reply => reply.isSuccess = false → LeftAlone config.state after) config.state := always.restrict
      have reserved := createTunnel_reserved anyway (fun _ => rfl) rfl ⟨calm, rfl, rfl⟩ signed parsed listed high free
        fun name _ => ⟨refusing, rfl, by simp [Db.isSubdomainTaken, Choice.statement, Choice.refuses, refusing]⟩
      -- Any statement may fail: the row is refused by the driver.
      exact @insertTunnel_strands _ body _ uid agentId _ { refusing with id } config.state free reserved
        (fun _ => rfl) unused ⟨_, rfl⟩
    · intro spared
      have always := @createTunnel_always _ config.state headers body (fun _ _ _ => true)
        (fun after reply => reply.isSuccess = false → LeftAlone config.state after) (fun _ _ _ => .refl) ?_
      · exact always
      · intro uid agentId user signed parsed listed high free _ _
        have reserves := reservesPort_iff.mpr ⟨uid, agentId, user, signed, parsed, listed, high, free⟩
        exact absurd (reserves.symm.trans spared) (by simp)
  · rw [@Performs.always_iff _ (relay.restrict answersAll) config.state (.createTunnel headers body) _ _ _ rfl
      (relay_lawful _)
      (@fun _ _ _ mode permitted => @discipline_apart _ (.createTunnel headers body) _ _ _ mode permitted)
      (fun answers => answers.1)]
    constructor
    · intro always
      by_contra strands
      simp only [Bool.not_eq_false, Bool.and_eq_true] at strands
      obtain ⟨⟨reserves, unique⟩, missing⟩ := strands
      obtain ⟨uid, agentId, user, signed, parsed, listed, high, free⟩ := reservesPort_iff.mp reserves
      have reserved := createTunnel_reserved always (fun _ => rfl) rfl ⟨calm, rfl, rfl⟩ signed parsed listed high
        free (passes_of_subdomainFree unique)
      refine @insertTunnel_strands _ body _ uid agentId _ { calm with id } config.state free reserved
        (fun op => by cases op <;> rfl) unused (insertTunnel_refused missing)
    · intro spared
      refine createTunnel_always (fun _ _ _ => .refl) ?_
      intro uid agentId user signed parsed listed high free _ passes
      have reserves := reservesPort_iff.mpr ⟨uid, agentId, user, signed, parsed, listed, high, free⟩
      have attached : agentMissing config.state body = false := by
        simpa [reserves, subdomainFree_of_passes passes] using spared
      have registered : ∃ user ∈ config.state.db.users, user.id = uid :=
        ⟨user, List.mem_of_find?_eq_some listed, by simpa using List.find?_some listed⟩
      refine Always.mono (insertTunnel_succeeds consistent registered attached) ?_
      intro after reply succeeds fails
      exact absurd (succeeds.symm.trans fails) (by simp)

end Creation

/-- Without any credentials nothing is touched. -/
theorem failed_creation_untouched_stranger :
    ∃ world : World, world.db.users ≠ [] ∧ ∀ after reply,
      Performs relay world (.createTunnel [] (webTunnel 9)) after reply →
        reply.isSuccess = false → LeftAlone world after := by
  have passed : (relay.performAll [(.register { username := "alice", password := "secret" }, answer 1 0)]
      newRelay).any (fun world : World => decide (world.db.users ≠ [] ∧ (0 : Uuid) ∉ world.drawn ∧
        reservesPort world [] (webTunnel 9) = false)) = true := by
    decide +kernel
  obtain ⟨config, reached, _, tested⟩ := newRelay_check passed
  obtain ⟨some, fresh, spared⟩ := of_decide_eq_true tested
  exact ⟨config.state, some, (failed_creation_untouched reached ⟨0, fresh⟩).1.mpr spared⟩

/-- Alice asks for a tunnel to an agent that does not exist: the request fails
and her port stays reserved. -/
theorem failed_creation_reserves :
    ¬ ∀ (config : Config relay) (headers : HeaderMap) (body : CreateTunnelRequest) (after : World) (reply : Reply),
      Reached anyStep (10000, 60000) config → Performs relay config.state (.createTunnel headers body) after reply →
        reply.isSuccess = false → LeftAlone config.state after := by
  have passed : (relay.performAll [(.register { username := "alice", password := "secret" }, answer 1 0)]
      newRelay).any (fun world : World =>
        ((createTunnel (signedIn 1) (webTunnel 9)).evaluate relay (answer 2 0) [] world).any
          fun ended => decide (ended.1 = [] ∧ ended.2.2.isSuccess = false ∧
            ended.2.1.allocatedPorts ≠ world.allocatedPorts)) = true := by
    decide +kernel
  obtain ⟨config, reached, _, tested⟩ := newRelay_check passed
  obtain ⟨⟨left, after, reply⟩, evaluated, tested⟩ := (Option.any_eq_true _ _).mp tested
  obtain ⟨rfl, failed, reserved⟩ := of_decide_eq_true tested
  intro always
  exact reserved (always config (signedIn 1) (webTunnel 9) after reply reached
    ⟨config.state, rfl, Program.evaluate_executes evaluated⟩ failed).ports

end TunnelitRelay
