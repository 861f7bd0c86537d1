import TunnelitRelay.Server

namespace TunnelitRelay

open Concurrent Program

/-! # The operations each job can perform -/

/-- The operations of `start_tunnel_listener`. -/
def Op.listens : Op → Bool
  | .enterStartTunnelListener .. | .removeTunnelTask _ | .bind .. | .spawnProxy .. | .insertTunnelTask .. => true
  | _ => false

/-- The operations of `sync_agent_tunnels`. -/
def Op.syncs : Op → Bool
  | .db (.listTunnelsForAgent _) | .insertAllocatedPort _ | .send .. => true
  | op => op.listens

def Op.stopsRows : Op → Bool
  | .removeTunnelTask _ | .freePort _ => true
  | _ => false

/-- The operations that look for the agent of a user, or create it. -/
def Op.findsAgent : Op → Bool
  | .userSession _ | .db (.listAgentsForUser _) | .db (.createAgentForUser ..) => true
  | _ => false

def Job.performs : Job → Op → Bool
  | .register _ => fun
      | .db (.registerUser ..) | .newUuid | .insertUserSession .. => true
      | _ => false
  | .login _ => fun
      | .db (.verifyUser ..) | .newUuid | .insertUserSession .. => true
      | _ => false
  | .logout _ => fun
      | .removeUserSession _ => true
      | _ => false
  | .adminLogin _ => fun
      | .newUuid | .insertAdminSession _ => true
      | _ => false
  | .adminBanUser .. => fun
      | .isAdminSession _ | .db (.toggleUserBan ..) | .db (.listTunnelsForUser _) => true
      | op => op.stopsRows
  | .adminUnbanUser .. => fun
      | .isAdminSession _ | .db (.toggleUserBan ..) => true
      | _ => false
  | .claimAgent .. => fun
      | .userSession _ | .db (.claimAgentToUser ..) | .removePendingClaim _ | .db (.setAgentOnline ..)
      | .insertAgentSender .. => true
      | op => op.syncs
  | .generateAgentToken _ | .getLauncherSh .. | .getLauncherBat .. => Op.findsAgent
  | .deleteAgent _ => fun
      | .removeAgentSender _ | .send .. | .db (.deleteAgent _) => true
      | _ => false
  | .createTunnel .. => fun
      | .userSession _ | .db (.isSubdomainTaken ..) | .db (.getUserById _) | .allocatePort _
      | .db (.createTunnel ..) | .agentSender _ | .send .. => true
      | op => op.listens
  | .updateTunnel .. => fun
      | .db (.getTunnelById _) | .db (.isSubdomainTaken ..) | .db (.updateTunnel ..) | .agentSender _ => true
      | op => op.syncs
  | .toggleTunnel _ => fun
      | .db (.getTunnelById _) | .db (.setTunnelEnabled ..) | .agentSender _ | .insertAllocatedPort _
      | .freePort _ | .send .. => true
      | op => op.listens
  | .deleteTunnel _ => fun
      | .db (.getTunnelById _) | .db (.deleteTunnel _) | .agentSender _ | .send .. => true
      | op => op.stopsRows
  | .connect _ => fun _ => false
  | .frame _ (.message (.requestClaim _)) => fun
      | .db (.createAgentClaim _) | .setCurrentClaimCode .. | .insertPendingClaim .. | .send .. | .awaitFrame _ => true
      | _ => false
  | .frame _ (.message (.auth ..)) => fun
      | .db (.getAgentByToken _) | .setCurrentClaimCode .. | .insertPendingClaim .. | .setAuthenticatedAgentId ..
      | .db (.setAgentOnline ..) | .insertAgentSender .. | .awaitFrame _ => true
      | op => op.syncs
  | .frame _ (.message (.data ..)) => fun
      | .enqueueData .. | .awaitFrame _ => true
      | _ => false
  | .frame _ (.message (.closeConnection _)) => fun
      | .removeConnSender _ | .awaitFrame _ => true
      | _ => false
  | .frame _ (.message .ping) => fun
      | .send .. | .awaitFrame _ => true
      | _ => false
  | .frame _ .ignored => fun
      | .awaitFrame _ => true
      | _ => false
  | .frame _ .hangup => fun
      | .abortSendTask _ | .sessionLocals _ | .removePendingClaim _ | .removeAgentSender _
      | .db (.setAgentOnline ..) | .db (.listTunnelsForAgent _) | .returnSession _ => true
      | op => op.stopsRows

/-! ## Blocks -/

section Blocks

variable {restricted : Op → Prop}

theorem query_within {call : Query} (free : ¬ restricted (.db call)) : (query call).Avoids restricted :=
  .guarded (access_avoids free)

theorem getCurrentUserId_within {headers : HeaderMap} (free : ∀ token, ¬ restricted (.userSession token)) :
    (getCurrentUserId headers).Avoids restricted := by
  unfold getCurrentUserId
  split
  · trivial
  · exact .guarded (access_avoids (free _))

theorem isAdmin_within {headers : HeaderMap} (free : ∀ token, ¬ restricted (.isAdminSession token)) :
    (isAdmin headers).Avoids restricted := by
  unfold isAdmin
  split
  · trivial
  · exact .guarded (access_avoids (free _))

theorem startTunnelListener_within {tunnel : TunnelConfig} {sender : Channel}
    (free : ∀ op : Op, op.listens = true → ¬ restricted op) :
    (startTunnelListener tunnel sender).Avoids restricted := by
  refine .bind (access_avoids (free _ rfl)) fun _ => ?_
  refine .bind (.guarded (access_avoids (free _ rfl))) fun _ => ?_
  refine .bind (access_avoids (free _ rfl)) fun bound => ?_
  match bound with
  | .error _ => trivial
  | .ok () =>
      refine .bind (access_avoids (free _ rfl)) fun handle => ?_
      exact .bind (.guarded (access_avoids (free _ rfl))) fun _ => trivial

/-- Starting a listener for the agent's channel, if it has one, and announcing it. -/
theorem startIfServed_within {config : TunnelConfig} {sender : Option Channel}
    (free : ∀ op : Op, op.listens = true → ¬ restricted op) (sends : ∀ channel message, ¬ restricted (.send channel message)) :
    (ifSome (fun sender => do
      let _ ← startTunnelListener config sender
      access (.send sender (.startTunnel config))) sender).Avoids restricted :=
  .ifSome fun _ => .bind (startTunnelListener_within free) fun _ => access_avoids (sends _ _)

theorem subdomainTaken_within {subdomain excludeId : Option String}
    (free : ∀ name, ¬ restricted (.db (.isSubdomainTaken name excludeId))) :
    (subdomainTaken subdomain excludeId).Avoids restricted := by
  unfold subdomainTaken
  split
  · trivial
  · refine .bind (query_within (free _)) fun answer => ?_
    split <;> trivial

theorem firstOrNewAgent_within {userId : String} {agents : List AgentRecord}
    (free : ∀ op : Op, op.findsAgent = true → ¬ restricted op) : (firstOrNewAgent userId agents).Avoids restricted := by
  cases agents with
  | nil => exact access_avoids (free _ rfl)
  | cons => trivial

theorem resolveTokenForScript_within {query : ScriptQuery} {headers : HeaderMap}
    (free : ∀ op : Op, op.findsAgent = true → ¬ restricted op) :
    (resolveTokenForScript query headers).Avoids restricted := by
  unfold resolveTokenForScript
  split
  · trivial
  · refine .bind ?_ fun user => ?_
    · unfold scriptUser
      split
      · exact .guarded (access_avoids (free _ rfl))
      · exact getCurrentUserId_within fun _ => free _ rfl
    · cases user with
      | none => trivial
      | some userId =>
          refine .guarded (.bind (access_avoids (free _ rfl)) fun agents => ?_)
          refine .bind (firstOrNewAgent_within free) fun found => ?_
          cases found <;> trivial

variable [Externals]

theorem syncAgentTunnels_within {agentId : Uuid} {sender : Channel}
    (free : ∀ op : Op, op.syncs = true → ¬ restricted op) : (syncAgentTunnels agentId sender).Avoids restricted := by
  have started {tunnel : TunnelConfig} : (startTunnelListener tunnel sender).Avoids restricted :=
    startTunnelListener_within fun op listens => free op (by cases op <;> first | exact listens | contradiction)
  have synced (rows : List TunnelRecord) : (syncRows agentId sender rows).Avoids restricted := by
    induction rows with
    | nil => trivial
    | cons row rest ih =>
        unfold syncRows
        split
        · exact ih
        · dsimp only
          split
          · exact .bind (.guarded (access_avoids (free _ rfl))) fun _ => .bind started fun _ => .bind ih fun _ => trivial
          · exact .bind ih fun _ => trivial
  exact .bind (query_within (free _ rfl)) fun _ => .bind (synced _) fun _ => access_avoids (free _ rfl)

theorem stopRow_within {row : TunnelRecord} (free : ∀ op : Op, op.stopsRows = true → ¬ restricted op) :
    (stopRow row).Avoids restricted := by
  unfold stopRow
  split
  · trivial
  · exact .bind (.guarded (access_avoids (free _ rfl))) fun _ => .guarded (access_avoids (free _ rfl))

theorem issueSession_within {code : StatusCode} {user : UserRecord} (draws : ¬ restricted .newUuid)
    (inserts : ∀ token userId, ¬ restricted (.insertUserSession token userId)) :
    (issueSession code user).Avoids restricted :=
  .bind (access_avoids draws) fun _ => .bind (.guarded (access_avoids (inserts _ _))) fun _ => trivial

end Blocks

/-! ## Jobs -/

section Jobs

variable [Externals]

/-- An operation outside the footprint of a job. -/
abbrev Job.outside (job : Job) (op : Op) : Prop := job.performs op = false

omit [Externals] in
theorem inside {job : Job} {op : Op} (performs : job.performs op = true) : ¬ job.outside op :=
  fun outside => Bool.noConfusion (performs.symm.trans outside)

theorem register_footprint {body : AuthRequest} : (register body).Avoids (Job.register body).outside := by
  unfold register
  split
  · trivial
  · split
    · trivial
    · refine .bind (query_within (inside rfl)) fun user => ?_
      cases user with
      | ok user => exact issueSession_within (inside rfl) fun _ _ => inside rfl
      | error => trivial

theorem login_footprint {body : AuthRequest} : (login body).Avoids (Job.login body).outside := by
  refine .bind (query_within (inside rfl)) fun found => ?_
  match found with
  | .error _ | .ok none => trivial
  | .ok (some user) =>
      dsimp only
      split
      · trivial
      · exact issueSession_within (inside rfl) fun _ _ => inside rfl

theorem adminLogin_footprint {password : String} :
    (adminLogin password).Avoids (Job.adminLogin password).outside := by
  unfold adminLogin
  split
  · exact .bind (access_avoids (inside rfl)) fun _ => .bind (.guarded (access_avoids (inside rfl))) fun _ => trivial
  · trivial

theorem adminBanUser_footprint {id : String} {headers : HeaderMap} :
    (adminBanUser id headers).Avoids (Job.adminBanUser id headers).outside := by
  refine .bind (isAdmin_within fun _ => inside rfl) fun admin => ?_
  cases admin with
  | false => trivial
  | true =>
      refine .bind (.guarded (.bind (access_avoids (inside rfl)) fun _ => .bind (access_avoids (inside rfl)) fun rows =>
        .forEach fun row => stopRow_within fun op stops => inside ?_)) fun _ => trivial
      cases op <;> first | exact stops | contradiction

theorem claimAgent_footprint {code : String} {headers : HeaderMap} :
    (claimAgent code headers).Avoids (Job.claimAgent code headers).outside := by
  have within : ∀ op : Op, op.syncs = true → ¬ (Job.claimAgent code headers).outside op := by
    intro op syncs
    refine inside ?_
    cases op with
    | db call => cases call <;> first | rfl | contradiction
    | _ => first | rfl | contradiction
  refine .bind (getCurrentUserId_within fun _ => inside rfl) fun user => ?_
  cases user with
  | none => trivial
  | some userId =>
      refine .bind (query_within (inside rfl)) fun claimed => ?_
      match claimed with
      | .error (.error _) | .error .panicked | .ok none => trivial
      | .ok (some agent) =>
          dsimp only
          split
          · trivial
          · refine .bind (.guarded (access_avoids (inside rfl))) fun sender => .bind (.ifSome fun channel => ?_) fun _ =>
              trivial
            exact .bind (query_within (inside rfl)) fun _ => .bind (.guarded (access_avoids (inside rfl))) fun _ =>
              .bind (access_avoids (inside rfl)) fun _ => syncAgentTunnels_within within

omit [Externals] in
theorem generateAgentToken_footprint {headers : HeaderMap} :
    (generateAgentToken headers).Avoids (Job.generateAgentToken headers).outside := by
  refine .bind (getCurrentUserId_within fun _ => inside rfl) fun user => ?_
  cases user with
  | none => trivial
  | some userId =>
      refine .guarded (.bind (access_avoids (inside rfl)) fun agents => ?_)
      cases agents with
      | error => trivial
      | ok agents =>
          refine .bind (firstOrNewAgent_within fun op finds => inside finds) fun found => ?_
          cases found <;> trivial

theorem deleteAgent_footprint {id : String} : (deleteAgent id).Avoids (Job.deleteAgent id).outside := by
  refine .bind (.ifSome fun agentId => .guarded ?_) fun _ => .bind (query_within (inside rfl)) fun _ => trivial
  exact .bind (access_avoids (inside rfl)) fun sender => .ifSome fun channel => access_avoids (inside rfl)

theorem createTunnel_footprint {headers : HeaderMap} {body : CreateTunnelRequest} :
    (createTunnel headers body).Avoids (Job.createTunnel headers body).outside := by
  have within : ∀ op : Op, op.listens = true → ¬ (Job.createTunnel headers body).outside op := by
    intro op listens
    refine inside ?_
    cases op <;> first | rfl | contradiction
  refine .bind (getCurrentUserId_within fun _ => inside rfl) fun user => ?_
  cases user with
  | none => trivial
  | some currentUid =>
      dsimp only
      split
      · trivial
      refine .bind (subdomainTaken_within fun _ => inside rfl) fun taken => ?_
      split
      · trivial
      refine .bind (query_within (inside rfl)) fun account => ?_
      match account with
      | .error _ | .ok none => trivial
      | .ok (some user) =>
          refine .bind (.guarded (access_avoids (inside rfl))) fun port => ?_
          cases port with
          | none => trivial
          | some port =>
              dsimp only
              split
              · refine .bind (query_within (inside rfl)) fun inserted => ?_
                cases inserted with
                | error => trivial
                | ok record =>
                    dsimp only
                    split
                    · trivial
                    · exact .bind (.guarded (.bind (access_avoids (inside rfl)) fun _ =>
                        startIfServed_within within fun _ _ => inside rfl)) fun _ => trivial
              · trivial

theorem updateTunnel_footprint {id : String} {body : UpdateTunnelRequest} :
    (updateTunnel id body).Avoids (Job.updateTunnel id body).outside := by
  have within : ∀ op : Op, op.syncs = true → ¬ (Job.updateTunnel id body).outside op := by
    intro op syncs
    refine inside ?_
    cases op with
    | db call => cases call <;> first | rfl | contradiction
    | _ => first | rfl | contradiction
  refine .bind (query_within (inside rfl)) fun found => ?_
  match found with
  | .error _ | .ok none => trivial
  | .ok (some tunnel) =>
      refine .bind (subdomainTaken_within fun _ => inside rfl) fun taken => ?_
      split
      · trivial
      refine .bind (query_within (inside rfl)) fun written => ?_
      cases written with
      | error => trivial
      | ok =>
          exact .bind (.ifSome fun agentId => .guarded (.bind (access_avoids (inside rfl)) fun _ =>
            .ifSome fun _ => syncAgentTunnels_within within)) fun _ => trivial

theorem toggleTunnel_footprint {id : String} : (toggleTunnel id).Avoids (Job.toggleTunnel id).outside := by
  have within : ∀ op : Op, op.listens = true → ¬ (Job.toggleTunnel id).outside op := by
    intro op listens
    refine inside ?_
    cases op <;> first | rfl | contradiction
  refine .bind (query_within (inside rfl)) fun found => ?_
  match found with
  | .error _ | .ok none => trivial
  | .ok (some tunnel) =>
      dsimp only
      split
      · trivial
      · trivial
      · refine .bind (query_within (inside rfl)) fun _ => .bind (.guarded (.bind (access_avoids (inside rfl))
          fun sender => ?_)) fun _ => trivial
        split
        · exact .guarded (.bind (access_avoids (inside rfl)) fun _ =>
            startIfServed_within within fun _ _ => inside rfl)
        · exact .bind (.guarded (access_avoids (inside rfl))) fun _ => .bind (.guarded (access_avoids (inside rfl)))
            fun _ => .ifSome fun _ => access_avoids (inside rfl)

theorem deleteTunnel_footprint {id : String} : (deleteTunnel id).Avoids (Job.deleteTunnel id).outside := by
  refine .bind (query_within (inside rfl)) fun found => ?_
  match found with
  | .error _ | .ok none => trivial
  | .ok (some tunnel) =>
      refine .bind (.ifSome fun tunnelId => ?_) fun _ => .bind (query_within (inside rfl)) fun _ => trivial
      exact .bind (.guarded (access_avoids (inside rfl))) fun _ => .bind (.guarded (access_avoids (inside rfl))) fun _ =>
        .ifSome fun _ => .guarded (.bind (access_avoids (inside rfl)) fun _ => .ifSome fun _ =>
          access_avoids (inside rfl))

theorem auth_footprint {session : SessionId} {token hostname : String} :
    (auth session token hostname).Avoids (Job.frame session (.message (.auth token hostname))).outside := by
  have within : ∀ op : Op, op.syncs = true → ¬ (Job.frame session (.message (.auth token hostname))).outside op := by
    intro op syncs
    refine inside ?_
    cases op with
    | db call => cases call <;> first | rfl | contradiction
    | _ => first | rfl | contradiction
  refine .bind (query_within (inside rfl)) fun found => ?_
  match found with
  | .error _ | .ok none => exact access_avoids (inside rfl)
  | .ok (some agent) =>
      dsimp only
      split
      · exact .bind (access_avoids (inside rfl)) fun _ => .bind (.guarded (access_avoids (inside rfl))) fun _ =>
          access_avoids (inside rfl)
      · split
        · exact access_avoids (inside rfl)
        · exact .bind (access_avoids (inside rfl)) fun _ => .bind (query_within (inside rfl)) fun _ =>
            .bind (.guarded (access_avoids (inside rfl))) fun _ => .bind (access_avoids (inside rfl)) fun _ =>
              syncAgentTunnels_within within

omit [Externals] in
theorem requestClaim_footprint {session : SessionId} {hostname : String} :
    (requestClaim session hostname).Avoids (Job.frame session (.message (.requestClaim hostname))).outside := by
  refine .guarded (.bind (access_avoids (inside rfl)) fun drawn => ?_)
  match drawn with
  | .error _ => exact access_avoids (inside rfl)
  | .ok (record, code) =>
      exact .bind (access_avoids (inside rfl)) fun _ => .bind (.guarded (access_avoids (inside rfl))) fun _ =>
        access_avoids (inside rfl)

theorem teardown_footprint {session : SessionId} : (teardown session).Avoids (Job.frame session .hangup).outside := by
  refine .bind (access_avoids (inside rfl)) fun _ => .bind (access_avoids (inside rfl)) fun locals => ?_
  refine .bind (.ifSome fun code => .bind (.guarded (access_avoids (inside rfl))) fun _ => trivial) fun _ => ?_
  refine .bind (.ifSome fun agentId => ?_) fun _ => access_avoids (inside rfl)
  refine .bind (.guarded (access_avoids (inside rfl))) fun _ => .bind (query_within (inside rfl)) fun _ => ?_
  refine .bind (query_within (inside rfl)) fun rows => .forEach fun row => stopRow_within fun op stops => inside ?_
  cases op <;> first | rfl | contradiction

/-- A job performs nothing outside its footprint. -/
theorem serve_footprint (job : Job) : (serve job).Avoids job.outside := by
  cases job with
  | register body => exact register_footprint
  | login body => exact login_footprint
  | logout headers => exact .bind (.ifSome fun token => .guarded (access_avoids (inside rfl))) fun _ => trivial
  | adminLogin password => exact adminLogin_footprint
  | adminBanUser id headers => exact adminBanUser_footprint
  | adminUnbanUser id headers =>
      refine .bind (isAdmin_within fun _ => inside rfl) fun admin => ?_
      cases admin with
      | false => trivial
      | true => exact .bind (query_within (inside rfl)) fun _ => trivial
  | claimAgent code headers => exact claimAgent_footprint
  | generateAgentToken headers => exact generateAgentToken_footprint
  | deleteAgent id => exact deleteAgent_footprint
  | createTunnel headers body => exact createTunnel_footprint
  | updateTunnel id body => exact updateTunnel_footprint
  | toggleTunnel id => exact toggleTunnel_footprint
  | deleteTunnel id => exact deleteTunnel_footprint
  | getLauncherSh query headers =>
      exact .bind (resolveTokenForScript_within fun op finds => inside finds) fun _ => trivial
  | getLauncherBat query headers =>
      exact .bind (resolveTokenForScript_within fun op finds => inside finds) fun _ => trivial
  | connect session => trivial
  | frame session frame =>
      refine .bind ?_ fun _ => trivial
      cases frame with
      | message message =>
          cases message with
          | requestClaim hostname => exact .bind requestClaim_footprint fun _ => access_avoids (inside rfl)
          | auth token hostname => exact .bind auth_footprint fun _ => access_avoids (inside rfl)
          | data connId payload =>
              refine .bind ?_ fun _ => access_avoids (inside rfl)
              simp only [handleMessage]
              split
              · exact .guarded (access_avoids (inside rfl))
              · trivial
          | closeConnection connId =>
              exact .bind (.guarded (access_avoids (inside rfl))) fun _ => access_avoids (inside rfl)
          | ping => exact .bind (access_avoids (inside rfl)) fun _ => access_avoids (inside rfl)
      | ignored => exact access_avoids (inside rfl)
      | hangup => exact teardown_footprint

end Jobs

end TunnelitRelay
