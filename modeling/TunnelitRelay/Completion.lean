import TunnelitRelay.Concurrent.Costs
import TunnelitRelay.Footprints
import TunnelitRelay.Sessions
import TunnelitRelay.Standard

namespace TunnelitRelay

open Concurrent Program

/-! # Every request is answered

No handler waits for anything but locks, and identifiers are plentiful: left to
themselves, the requests and frames in progress all come to an end.
-/

/-- How many identifiers an operation draws. -/
def Op.drawn : Op → Nat
  | .db (.registerUser ..) | .db (.createTunnel ..) | .newUuid => 1
  | .db (.createAgentClaim _) | .db (.createAgentForUser ..) => 2
  | _ => 0

/-! ## Identifiers that are left -/

/-- Two identifiers are left as long as not all but one have been drawn. -/
theorem two_unused {drawn : List Uuid} (few : drawn.length + 2 ≤ 2 ^ 128) :
    ∃ id token, id ≠ token ∧ id ∉ drawn ∧ token ∉ drawn := by
  let candidates := (Finset.range (drawn.length + 2)).image (BitVec.ofNat 128)
  have apart : Set.InjOn (BitVec.ofNat 128) (Finset.range (drawn.length + 2)) := by
    intro one small other small' same
    have below := Finset.mem_range.mp small
    have below' := Finset.mem_range.mp small'
    have alike := congrArg BitVec.toNat same
    rwa [BitVec.toNat_ofNat, BitVec.toNat_ofNat, Nat.mod_eq_of_lt (by omega), Nat.mod_eq_of_lt (by omega)] at alike
  have count : candidates.card = drawn.length + 2 := by
    rw [Finset.card_image_of_injOn apart, Finset.card_range]
  have used := drawn.toFinset_card_le
  have left := Finset.le_card_sdiff drawn.toFinset candidates
  have two : 1 < (candidates \ drawn.toFinset).card := by omega
  obtain ⟨id, unused, token, unused', different⟩ := Finset.one_lt_card.mp two
  simp only [Finset.mem_sdiff, List.mem_toFinset] at unused unused'
  exact ⟨id, token, different, unused.2, unused'.2⟩

section Runs

variable [Externals] {portRange : UInt16 × UInt16} {allowed : Condition relay} {config : Config relay}

omit [Externals] in
theorem Query.draws_length {choice : Choice} (query : Query) : (query.draws choice).length = (Op.db query).drawn := by
  cases query <;> rfl

theorem exec_cost {world after : World} {choice : Choice} {op : Op} {result : op.Result}
    (executed : exec world choice op = some (after, result)) : after.drawn.length ≤ world.drawn.length + op.drawn := by
  cases op with
  | db query =>
      simp only [exec] at executed
      split at executed
      · cases executed
        rw [← query.draws_length, List.length_append, Nat.add_comm]
      · contradiction
  | newUuid =>
      simp only [exec] at executed
      split at executed
      · contradiction
      · cases executed
        exact Nat.le_refl _
  | _ =>
      simp only [exec] at executed
      (try split at executed) <;> (try contradiction) <;> cases executed <;> exact Nat.le_add_right _ _

/-- Every operation has some answer, as long as there are identifiers and, for
the local variables of a session, the session. -/
theorem exec_answers {world : World} (op : Op) (few : world.drawn.length + 2 ≤ 2 ^ 128)
    (known : ∀ session, op = .sessionLocals session → ∃ locals, world.sessions session = some locals) :
    ∃ choice after result, exec world choice op = some (after, result) := by
  obtain ⟨id, token, different, unused, unused'⟩ := two_unused few
  let choice : Choice := ⟨none, 0, id, token, 0, fun _ => 0, none⟩
  cases op with
  | db query =>
      have fresh : (query.draws choice).Nodup ∧ (query.draws choice).all (· ∉ world.drawn) = true := by
        cases query <;> simp [Query.draws, choice, different, unused, unused']
      exact ⟨choice, _, _, if_pos fresh⟩
  | newUuid => exact ⟨choice, _, _, if_neg unused'⟩
  | sessionLocals session =>
      obtain ⟨locals, there⟩ := known session rfl
      refine ⟨choice, world, (locals.authenticatedAgentId, locals.currentClaimCode), ?_⟩
      simp only [exec, there]
  | allocatePort preferred =>
      cases found : world.allocatePort preferred with
      | none => exact ⟨choice, world, none, by simp only [exec, found]⟩
      | some port => exact ⟨choice, _, some port, by simp only [exec, found]; rfl⟩
  | enqueueData connId data =>
      by_cases there : world.tcpConnSenders connId
      · exact ⟨choice, _, (), if_pos there⟩
      · exact ⟨choice, world, (), if_neg there⟩
  | _ => exact ⟨choice, _, _, rfl⟩

/-! ## What a job draws -/

omit [Externals] in
theorem within_outside {job : Job} {program : Relay α} (avoids : program.Avoids job.outside)
    (free : ∀ op, op.drawn ≠ 0 → job.performs op = false) : program.Within Op.drawn 2 :=
  (Avoids.within (avoids.mono free)).mono (Nat.zero_le _)

theorem issueSession_draws {code : StatusCode} {user : UserRecord} : (issueSession code user).Within Op.drawn 1 :=
  .bind_free (within_perform (Nat.le_refl 1)) fun _ => .bind_free (.guarded (within_perform (Nat.le_refl 0))) fun _ => trivial

omit [Externals] in
theorem query_draws {call : Query} : (query call).Within Op.drawn (Op.db call).drawn :=
  .guarded (within_perform (Nat.le_refl _))

theorem register_draws {body : AuthRequest} : (register body).Within Op.drawn 2 := by
  unfold register
  split
  · trivial
  · split
    · trivial
    · refine @Within.bind _ _ _ _ _ _ 1 1 query_draws fun user => ?_
      cases user with
      | ok user => exact issueSession_draws
      | error => trivial

omit [Externals] in
theorem firstOrNewAgent_draws {userId : String} {agents : List AgentRecord} :
    (firstOrNewAgent userId agents).Within Op.drawn 2 := by
  cases agents with
  | nil => exact within_perform (Nat.le_refl 2)
  | cons => trivial

omit [Externals] in
theorem generateAgentToken_draws {headers : HeaderMap} : (generateAgentToken headers).Within Op.drawn 2 := by
  have caller : (getCurrentUserId headers).Within Op.drawn 0 :=
    (getCurrentUserId_within fun _ => not_not.mpr rfl).within
  refine caller.free_bind fun user => ?_
  cases user with
  | none => trivial
  | some userId =>
      have lists : (access (.db (.listAgentsForUser userId))).Within Op.drawn 0 := within_perform (Nat.le_refl 0)
      refine .guarded (lists.free_bind fun agents => ?_)
      cases agents with
      | error => trivial
      | ok agents =>
          refine firstOrNewAgent_draws.bind_free fun found => ?_
          cases found <;> trivial

omit [Externals] in
theorem resolveTokenForScript_draws {query : ScriptQuery} {headers : HeaderMap} :
    (resolveTokenForScript query headers).Within Op.drawn 2 := by
  unfold resolveTokenForScript
  split
  · trivial
  · have user : (scriptUser query headers).Within Op.drawn 0 := by
      unfold scriptUser
      split
      · exact .guarded (within_perform (Nat.le_refl 0))
      · exact (getCurrentUserId_within fun _ => not_not.mpr rfl).within
    refine user.free_bind fun found => ?_
    cases found with
    | none => trivial
    | some userId =>
        have lists : (access (.db (.listAgentsForUser userId))).Within Op.drawn 0 := within_perform (Nat.le_refl 0)
        refine .guarded (lists.free_bind fun agents => ?_)
        refine firstOrNewAgent_draws.bind_free fun found => ?_
        cases found <;> trivial

omit [Externals] in
theorem announceTunnel_draws {agentId : Uuid} {config : TunnelConfig} : (announceTunnel agentId config).Within Op.drawn 0 := by
  refine Avoids.within (.guarded (.bind (access_avoids (not_not.mpr rfl)) fun sender =>
    startIfServed_within (fun op listens => ?_) fun _ _ => not_not.mpr rfl))
  cases op <;> first | exact not_not.mpr rfl | contradiction

theorem createTunnel_draws {headers : HeaderMap} {body : CreateTunnelRequest} :
    (createTunnel headers body).Within Op.drawn 1 := by
  have caller : (getCurrentUserId headers).Within Op.drawn 0 :=
    (getCurrentUserId_within fun _ => not_not.mpr rfl).within
  refine caller.free_bind fun user => ?_
  cases user with
  | none => trivial
  | some currentUid =>
      dsimp only
      split
      · trivial
      have taken : (subdomainTaken (cleanSubdomain body.subdomain) none).Within Op.drawn 0 :=
        (subdomainTaken_within fun _ => not_not.mpr rfl).within
      refine taken.free_bind fun taken => ?_
      split
      · trivial
      have account : (query (.getUserById currentUid)).Within Op.drawn 0 := query_draws
      refine account.free_bind fun account => ?_
      rcases account with failure | found
      · trivial
      cases found with
      | none => trivial
      | some user =>
          have reserves : (withLock .allocatedPorts .exclusive
              (access (.allocatePort (some user.dedicatedPort)))).Within Op.drawn 0 := .guarded (within_perform (Nat.le_refl 0))
          refine reserves.free_bind fun port => ?_
          cases port with
          | none => trivial
          | some port =>
              dsimp only
              split
              · refine query_draws.bind_free fun inserted => ?_
                cases inserted with
                | error => trivial
                | ok record =>
                    dsimp only
                    split
                    · trivial
                    · exact .bind_free announceTunnel_draws fun _ => trivial
              · trivial

omit [Externals] in
theorem requestClaim_draws {session : SessionId} {hostname : String} :
    (requestClaim session hostname).Within Op.drawn 2 := by
  have creates : (access (.db (.createAgentClaim hostname))).Within Op.drawn 2 := within_perform (Nat.le_refl 2)
  refine .guarded (creates.bind_free fun drawn => ?_)
  rcases drawn with failure | made
  · exact within_perform (Nat.le_refl 0)
  · exact Avoids.within (.bind (access_avoids (not_not.mpr rfl)) fun _ =>
      .bind (.guarded (access_avoids (not_not.mpr rfl))) fun _ => access_avoids (not_not.mpr rfl))

/-- No job draws more than two identifiers. -/
theorem serve_draws (job : Job) : (serve job).Within Op.drawn 2 := by
  have footprint := serve_footprint job
  cases job with
  | register body => exact register_draws
  | createTunnel headers body => exact createTunnel_draws.mono (Nat.le_succ 1)
  | generateAgentToken headers => exact generateAgentToken_draws
  | getLauncherSh query headers | getLauncherBat query headers =>
      exact resolveTokenForScript_draws.bind_free fun _ => trivial
  | login body =>
      refine Within.mono (.free_bind query_draws fun found => ?_) (Nat.le_succ 1)
      rcases found with failure | found
      · trivial
      cases found with
      | none => trivial
      | some user =>
          dsimp only
          split
          · trivial
          · exact issueSession_draws
  | adminLogin password =>
      refine Within.mono ?_ (Nat.le_succ 1)
      simp only [serve, adminLogin]
      split
      · exact .bind_free (within_perform (Nat.le_refl 1)) fun _ =>
          .bind_free (.guarded (within_perform (Nat.le_refl 0))) fun _ => trivial
      · trivial
  | frame session frame =>
      rcases frame with message | _ | _
      · cases message with
        | requestClaim hostname =>
            refine .bind_free (.bind_free requestClaim_draws fun _ => within_perform (Nat.le_refl 0)) fun _ => trivial
        | _ =>
            refine within_outside footprint fun op draws => ?_
            unfold Op.drawn at draws
            split at draws <;> first | rfl | contradiction
      all_goals
        refine within_outside footprint fun op draws => ?_
        unfold Op.drawn at draws
        split at draws <;> first | rfl | contradiction
  | _ =>
      refine within_outside footprint fun op draws => ?_
      unfold Op.drawn at draws
      split at draws <;> first | rfl | contradiction

/-! ## Everybody gets through -/

theorem relay_orders : contract.Orders Lock.rank where
  ranks := fun _ _ _ move law => by
    cases move with
    | acquire lock mode => exact law.1
    | call | release => trivial
  drops := fun _ _ _ _ answered => answered.1

/-- The end of a session reads the local variables of a session that is there. -/
theorem Reached.answerable (reached : Reached allowed portRange config)
    (few : config.state.drawn.length + 2 ≤ 2 ^ 128) : config.Answerable := by
  intro thread member op next head
  refine exec_answers op few fun session reads => ?_
  subst reads
  have permitted := ((Reached.lawful reached).call member head).2.2
  unfold Permitted at permitted
  split at permitted
  · rename_i other hangs
    obtain ⟨rfl, _⟩ := permitted
    rcases (Reached.attended reached).torn thread member _ hangs with running | ⟨locals, there, _⟩
    · obtain ⟨locals, there, _⟩ := (Reached.attended reached).busy thread member _ running
      exact ⟨locals, there⟩
    · exact ⟨locals, there⟩
  · exact permitted.elim

/-- As long as identifiers are left for them, the requests and frames in
progress come to an end in whatever order they move: none waits for ever, none
goes on for ever, and all are answered. -/
theorem requests_drain (reached : Reached allowed portRange config)
    (few : config.state.drawn.length + config.threads.length * 2 + 2 ≤ 2 ^ 128) : config.Drains := by
  refine Config.drains fun later steps => ?_
  have after : Reached anyStep portRange later :=
    (reached.weaken fun _ _ _ => trivial).trans (steps.weaken fun _ _ _ => trivial)
  have spent : later.state.drawn.length ≤ config.state.drawn.length + config.threads.length * 2 :=
    Steps.spends exec_cost (reached.within serve_draws) steps
  exact relay_orders.progress (Reached.lawful after) (after.answerable (by omega))

end Runs

/-- Two users register at the same time, and one of them holds the database. -/
theorem requests_drain_two : ∃ config : Config relay,
    (∃ thread ∈ config.threads, (Lock.db, Mode.exclusive) ∈ thread.held) ∧ config.Drains := by
  let turns : List (Turn relay) :=
    [.start (.register { username := "alice", password := "secret" }),
      .start (.register { username := "bob", password := "secret" }), .move 0 (answer 1 0)]
  have passed : (relay.follow (fun _ _ _ _ => true) 200 turns ⟨newRelay, []⟩).any (fun config =>
      decide ((∃ thread ∈ config.threads, (Lock.db, Mode.exclusive) ∈ thread.held) ∧
        config.state.drawn.length + config.threads.length * 2 + 2 ≤ 2 ^ 128)) = true := by decide +kernel
  obtain ⟨config, reached, tested⟩ := newRelay_run passed
  obtain ⟨holds, few⟩ := of_decide_eq_true tested
  exact ⟨config, holds, requests_drain reached few⟩

end TunnelitRelay
