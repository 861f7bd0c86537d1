import TunnelitRelay.ClaimConfirmations
import TunnelitRelay.ListenerTasks
import TunnelitRelay.ServedTunnels
import TunnelitRelay.Traffic

namespace TunnelitRelay

open Concurrent Program

/-! # What an agent is told before it is used

The channel of an agent is registered before the session is told of its
success, and a listener runs before its tunnel is announced.  Where nobody uses
the channel or the listener in between, every message on the channel comes after
those that prepare for it.
-/

/-- The message names the tunnel as one of the agent's. -/
def RelayMessage.names (tunnelId agentId : Uuid) : RelayMessage → Prop
  | .syncTunnels tunnels => ∃ config ∈ tunnels, config.id = tunnelId ∧ config.agentId = agentId
  | .startTunnel config => config.id = tunnelId ∧ config.agentId = agentId
  | _ => False

def RelayMessage.introduces (agentId : Uuid) : RelayMessage → Bool
  | .authSuccess other _ _ => other == agentId
  | _ => false

def Introduced (sent : List RelayMessage) (agentId : Uuid) : Prop :=
  sent.any (·.introduces agentId) = true

/-- What is on the channel before a message. -/
def Prepared (before : List RelayMessage) : RelayMessage → Prop
  | .syncTunnels tunnels => ∀ config ∈ tunnels, Introduced before config.agentId
  | .startTunnel config => Introduced before config.agentId
  | .newConnection tunnelId _ => ∃ agentId, Introduced before agentId ∧
      ∃ message ∈ before, message.names tunnelId agentId
  | _ => True

/-- Every message comes after those that prepare for it. -/
def InOrder (sent : List RelayMessage) : Prop :=
  ∀ before message after, sent = before ++ message :: after → Prepared before message

theorem InOrder.nil : InOrder [] := fun before message after same => by simp at same

theorem InOrder.append {sent : List RelayMessage} {message : RelayMessage} (ordered : InOrder sent)
    (prepared : Prepared sent message) : InOrder (sent ++ [message]) := by
  intro before other after same
  rcases List.eq_nil_or_concat after with rfl | ⟨rest, last, rfl⟩
  · obtain ⟨rfl, last⟩ := List.append_inj' same rfl
    cases last
    exact prepared
  · refine ordered before other rest ?_
    have split : sent ++ [message] = (before ++ other :: rest) ++ [last] := by simpa using same
    exact (List.append_inj' split rfl).1

section Runs

variable [Externals] {job : Job} {past : Past} {agentId : Uuid} {sender : Channel}

/-! ## What the text of the handlers does -/

/-- Operations that start a listener or make tunnels known. -/
def tells : Op → Prop
  | .spawnProxy .. => True
  | .send _ message => message.announces = true
  | _ => False

/-- The request takes something away and starts nothing. -/
def Job.onlyStops : Job → Bool
  | .deleteTunnel _ | .deleteAgent _ => true
  | _ => false

def onlyStops (job : Job) (past : Past) : Bool :=
  job.onlyStops || past.any fun event =>
    match event.1 with
    | .db (.setTunnelEnabled _ enabled) => !enabled
    | _ => false

/-- The task has told the channel of its success, or has read it from the registry. -/
def Knows (job : Job) (past : Past) (agentId : Uuid) (sender : Channel) : Prop :=
  (∃ name token, Did past (.send sender (.authSuccess agentId name token)) ()) ∨
    (Did past (.agentSender agentId) (some sender) ∧ onlyStops job past = false)

/-- The listeners the task has started are of the agent, on the channel and of
the tunnels told of; none has been announced. -/
structure Preparing (agentId : Uuid) (sender : Channel) (ids : Uuid → Prop) (past : Past) : Prop where
  silent : ∀ sender message, Did past (.send sender message) () → message.announces = false
  listed : ∀ id rows, Did past (.db (.listTunnelsForAgent id)) rows → id = uuidToString agentId
  started : ∀ transport port tunnelId owner channel handle,
    Did past (.spawnProxy transport port tunnelId owner channel) handle →
      owner = agentId ∧ channel = sender ∧ ids tunnelId

def telling (job : Job) : Law relaySignature := fun past _ move =>
  match move with
  | .call (.spawnProxy _ _ _ agentId sender) => Knows job past agentId sender ∧
      ∀ sender message, Did past (.send sender message) () → message.announces = false
  | .call (.send sender (.startTunnel config)) => Knows job past config.agentId sender ∧
      Preparing config.agentId sender (· = config.id) past
  | .call (.send sender (.syncTunnels configs)) => ∃ agentId, Knows job past agentId sender ∧
      (∀ config ∈ configs, config.agentId = agentId) ∧
        Preparing agentId sender (fun id => ∃ config ∈ configs, config.id = id) past
  | _ => True

def tellContract : Contract relay where
  law := telling
  answer := fun _ _ _ _ => True

theorem telling_restricts : Law.Restricts (telling job) tells := by
  intro past held move other
  cases move with
  | call op =>
      cases op with
      | spawnProxy => exact absurd rfl (other _ trivial)
      | send sender message =>
          cases message with
          | syncTunnels | startTunnel => exact absurd rfl (other _ rfl)
          | _ => trivial
      | _ => trivial
  | acquire | release => trivial

/-- Operations that leave open what the task starts and tells of. -/
def Op.idles : Op → Bool
  | .spawnProxy .. | .db (.listTunnelsForAgent _) => false
  | .db (.setTunnelEnabled _ enabled) => enabled
  | .send _ message => !message.announces
  | _ => true

/-- The task has not begun to start or stop a listener. -/
def Unbegun (past : Past) : Prop := ∀ event ∈ past, Op.idles event.1 = true

section Texts

variable {held : Held} {ids : Uuid → Prop} {op : Op} {result : op.Result}

omit [Externals] in
theorem Unbegun.nil : Unbegun [] := fun event member => by simp at member

omit [Externals] in
theorem Unbegun.other (idle : Unbegun past) (idles : op.idles = true) : Unbegun (⟨op, result⟩ :: past) := by
  intro event member
  rcases List.mem_cons.mp member with rfl | old
  · exact idles
  · exact idle event old

theorem Unbegun.preparing (idle : Unbegun past) : Preparing agentId sender ids past := by
  refine ⟨?_, ?_, ?_⟩
  · intro channel message did
    simpa [Op.idles] using idle _ did
  · intro id rows did
    exact absurd (idle _ did) (by simp [Op.idles])
  · intro transport port tunnelId owner channel handle did
    exact absurd (idle _ did) (by simp [Op.idles])

omit [Externals] in
theorem Unbegun.starts (idle : Unbegun past) (starting : job.onlyStops = false) : onlyStops job past = false := by
  unfold onlyStops
  rw [Bool.or_eq_false_iff]
  constructor
  · exact starting
  · refine List.any_eq_false.mpr fun event member stops => ?_
    have idles := idle event member
    split at stops
    · rename_i same
      rw [same] at idles
      simp only [Op.idles] at idles
      simp [idles] at stops
    · contradiction

omit [Externals] in
theorem Knows.later (knows : Knows job past agentId sender) (idles : ∀ id, op ≠ .db (.setTunnelEnabled id false)) :
    Knows job (⟨op, result⟩ :: past) agentId sender := by
  refine knows.imp (fun ⟨name, token, did⟩ => ⟨name, token, List.mem_cons_of_mem _ did⟩) ?_
  rintro ⟨did, starts⟩
  refine ⟨List.mem_cons_of_mem _ did, ?_⟩
  unfold onlyStops at starts ⊢
  rw [Bool.or_eq_false_iff] at starts ⊢
  refine ⟨starts.1, ?_⟩
  rw [List.any_cons, starts.2, Bool.or_false]
  split
  · rename_i id enabled same
    cases enabled with
    | false => exact absurd same (idles id)
    | true => rfl
  · rfl

theorem Preparing.mono {more : Uuid → Prop} (preparing : Preparing agentId sender ids past)
    (weaker : ∀ id, ids id → more id) : Preparing agentId sender more past := by
  refine ⟨preparing.silent, preparing.listed, fun transport port tunnelId owner channel handle did => ?_⟩
  obtain ⟨own, same, known⟩ := preparing.started transport port tunnelId owner channel handle did
  exact ⟨own, same, weaker tunnelId known⟩

theorem Preparing.other (preparing : Preparing agentId sender ids past) (idles : op.idles = true) :
    Preparing agentId sender ids (⟨op, result⟩ :: past) := by
  refine ⟨?_, ?_, ?_⟩
  · intro channel message did
    rcases List.mem_cons.mp did with new | old
    · cases new
      simpa [Op.idles] using idles
    · exact preparing.silent channel message old
  · intro id rows did
    rcases List.mem_cons.mp did with new | old
    · cases new
      contradiction
    · exact preparing.listed id rows old
  · intro transport port tunnelId owner channel handle did
    rcases List.mem_cons.mp did with new | old
    · cases new
      contradiction
    · exact preparing.started transport port tunnelId owner channel handle old

theorem Preparing.list {rows} (preparing : Preparing agentId sender ids past) :
    Preparing agentId sender ids (⟨.db (.listTunnelsForAgent (uuidToString agentId)), rows⟩ :: past) := by
  refine ⟨?_, ?_, ?_⟩
  · intro channel message did
    exact preparing.silent channel message (by simpa [Did] using did)
  · intro id rows' did
    rcases List.mem_cons.mp did with new | old
    · cases new
      rfl
    · exact preparing.listed id rows' old
  · intro transport port tunnelId owner channel handle did
    exact preparing.started transport port tunnelId owner channel handle (by simpa [Did] using did)

theorem Preparing.start {transport port tunnelId handle} (preparing : Preparing agentId sender ids past)
    (known : ids tunnelId) :
    Preparing agentId sender ids (⟨.spawnProxy transport port tunnelId agentId sender, handle⟩ :: past) := by
  refine ⟨?_, ?_, ?_⟩
  · intro channel message did
    exact preparing.silent channel message (by simpa [Did] using did)
  · intro id rows did
    exact preparing.listed id rows (by simpa [Did] using did)
  · intro transport' port' tunnelId' owner channel handle' did
    rcases List.mem_cons.mp did with new | old
    · cases new
      exact ⟨rfl, rfl, known⟩
    · exact preparing.started transport' port' tunnelId' owner channel handle' old

/-- The start of a listener by a task that knows the channel. -/
theorem startTunnelListener_tells {tunnel : TunnelConfig} {post} (knows : Knows job past tunnel.agentId sender)
    (preparing : Preparing tunnel.agentId sender ids past)
    (posts : ∀ later held result, Knows job later tunnel.agentId sender →
      Preparing tunnel.agentId sender (fun id => ids id ∨ id = tunnel.id) later → post later held result) :
    (startTunnelListener tunnel sender).Obeys (telling job) post past held := by
  have restricts : Law.Restricts (telling job) tells := telling_restricts
  replace preparing := preparing.mono fun id (known : ids id) => (.inl known : ids id ∨ id = tunnel.id)
  simp only [startTunnelListener, stopTunnelListener, bind_eq, obeys_bind]
  refine restricts.perform (by simp [tells]) fun entered => ?_
  replace knows := @Knows.later _ _ _ _ (.enterStartTunnelListener tunnel sender) entered knows (by simp)
  replace preparing := @Preparing.other _ _ _ _ _ (.enterStartTunnelListener tunnel sender) entered preparing rfl
  refine restricts.guarded ?_
  refine restricts.perform (by simp [tells]) fun removed => ?_
  replace knows := @Knows.later _ _ _ _ (.removeTunnelTask tunnel.id) removed knows (by simp)
  replace preparing := @Preparing.other _ _ _ _ _ (.removeTunnelTask tunnel.id) removed preparing rfl
  refine restricts.perform (by simp [tells]) fun bound => ?_
  replace knows := @Knows.later _ _ _ _ (.bind (transportOf tunnel.protocol) tunnel.publicPort) bound knows (by simp)
  replace preparing := @Preparing.other _ _ _ _ _ (.bind (transportOf tunnel.protocol) tunnel.publicPort) bound
    preparing rfl
  rcases bound with error | _
  · exact posts _ _ _ knows preparing
  · simp only [obeys_bind]
    refine ⟨⟨knows, preparing.silent⟩, fun handle => ?_⟩
    refine restricts.guarded ?_
    refine restricts.perform (by simp [tells]) fun stored => posts _ _ _ ?_ ?_
    · exact (knows.later (by simp)).later (by simp)
    · exact (preparing.start (.inr rfl)).other rfl

theorem syncRows_tells {rows : List TunnelRecord} {post} (knows : Knows job past agentId sender)
    (preparing : Preparing agentId sender ids past)
    (posts : ∀ later held configs, Knows job later agentId sender → (∀ config ∈ configs, config.agentId = agentId) →
      Preparing agentId sender (fun id => ids id ∨ ∃ config ∈ configs, config.id = id) later →
        post later held configs) : (syncRows agentId sender rows).Obeys (telling job) post past held := by
  have restricts : Law.Restricts (telling job) tells := telling_restricts
  induction rows generalizing past held ids post with
  | nil => exact posts _ _ _ knows (fun _ member => by simp at member) (preparing.mono fun _ known => .inl known)
  | cons tunnel rest ih =>
      simp only [syncRows]
      split
      · exact ih knows preparing posts
      · rename_i tunnelId named
        simp only [bind_eq]
        split
        · simp only [obeys_bind]
          refine restricts.guarded ?_
          refine restricts.perform (by simp [tells]) fun reserved => ?_
          replace knows := @Knows.later _ _ _ _ (.insertAllocatedPort tunnel.publicPort) reserved knows (by simp)
          replace preparing := @Preparing.other _ _ _ _ _ (.insertAllocatedPort tunnel.publicPort)
            reserved preparing rfl
          have own : (tunnelConfig tunnelId agentId tunnel).agentId = agentId := rfl
          refine startTunnelListener_tells knows preparing fun later held started knows preparing => ?_
          refine ih knows preparing fun final held configs knows owned preparing => posts _ _ _ knows ?_ ?_
          · exact List.forall_mem_cons.mpr ⟨own, owned⟩
          · refine preparing.mono ?_
            rintro id ((known | same) | ⟨config, member, same⟩)
            · exact .inl known
            · exact .inr ⟨_, List.mem_cons_self, same.symm⟩
            · exact .inr ⟨config, List.mem_cons_of_mem _ member, same⟩
        · rw [obeys_bind]
          refine ih knows preparing fun final held configs knows owned preparing => posts _ _ _ knows ?_ ?_
          · exact List.forall_mem_cons.mpr ⟨rfl, owned⟩
          · refine preparing.mono ?_
            rintro id (known | ⟨config, member, same⟩)
            · exact .inl known
            · exact .inr ⟨config, List.mem_cons_of_mem _ member, same⟩

/-- The synchronisation of an agent's tunnels by a task that knows its channel. -/
theorem syncAgentTunnels_tells {post} (knows : Knows job past agentId sender)
    (preparing : Preparing agentId sender (fun _ => False) past) (posts : ∀ later held value, post later held value) :
    (syncAgentTunnels agentId sender).Obeys (telling job) post past held := by
  have restricts : Law.Restricts (telling job) tells := telling_restricts
  simp only [syncAgentTunnels, query, bind_eq, obeys_bind]
  refine restricts.guarded ?_
  refine restricts.perform (by simp [tells]) fun rows => ?_
  refine syncRows_tells (knows.later (by simp)) preparing.list fun later held configs knows owned preparing => ?_
  exact ⟨⟨agentId, knows, owned, preparing.mono fun _ known => known.resolve_left False.elim⟩, fun _ => posts _ _ _⟩

theorem getCurrentUserId_idle {headers : HeaderMap} {post} (idle : Unbegun past)
    (posts : ∀ later held user, Unbegun later → post later held user) :
    (getCurrentUserId headers).Obeys (telling job) post past held := by
  have restricts : Law.Restricts (telling job) tells := telling_restricts
  simp only [getCurrentUserId]
  split
  · exact posts _ _ _ idle
  · refine restricts.guarded ?_
    exact restricts.perform (by simp [tells]) fun _ => posts _ _ _ (idle.other rfl)

theorem query_idle {call : Query} {post} (idle : Unbegun past) (idles : (Op.db call).idles = true)
    (posts : ∀ found held, Unbegun (⟨.db call, found⟩ :: past) → post (⟨.db call, found⟩ :: past) held found) :
    (query call).Obeys (telling job) post past held := by
  have restricts : Law.Restricts (telling job) tells := telling_restricts
  refine restricts.guarded ?_
  exact restricts.perform (by simp [tells]) fun found => posts _ _ (idle.other idles)

theorem subdomainTaken_idle {subdomain excludeId : Option String} {post} (idle : Unbegun past)
    (posts : ∀ later held taken, Unbegun later → post later held taken) :
    (subdomainTaken subdomain excludeId).Obeys (telling job) post past held := by
  simp only [subdomainTaken]
  split
  · exact posts _ _ _ idle
  · simp only [bind_eq, obeys_bind]
    refine query_idle idle rfl fun found held idle => ?_
    split
    · exact posts _ _ _ idle
    · exact posts _ _ _ idle

omit [Externals] in
/-- Once it has read the channel, a task that has not stopped anything knows it. -/
theorem Unbegun.knows (idle : Unbegun past) (starting : job.onlyStops = false) :
    Knows job (⟨.agentSender agentId, some sender⟩ :: past) agentId sender :=
  .inr ⟨List.mem_cons_self, (@Unbegun.other _ (.agentSender agentId) (some sender) idle rfl).starts starting⟩

/-- The start of a listener, and its announcement, where the agent is connected. -/
theorem startAnnounced_tells {config : TunnelConfig} {channel : Option Channel} {post} (idle : Unbegun past)
    (knows : ∀ sender, channel = some sender → Knows job past config.agentId sender)
    (posts : ∀ later held, post later held ()) :
    (ifSome (fun agentSender => (startTunnelListener config agentSender).bind fun _ =>
      access (.send agentSender (.startTunnel config))) channel).Obeys (telling job) post past held := by
  cases channel with
  | none => exact posts _ _
  | some sender =>
      simp only [ifSome, obeys_bind]
      refine startTunnelListener_tells (knows sender rfl) (@Unbegun.preparing _ _ _ _ (fun _ => False) idle)
        fun later held _ knows preparing => ?_
      exact ⟨⟨knows, preparing.mono fun _ known => known.resolve_left False.elim⟩, fun _ => posts _ _⟩

theorem createTunnel_tells {headers : HeaderMap} {body : CreateTunnelRequest} :
    (createTunnel headers body).Obeys (telling (.createTunnel headers body)) (fun _ _ _ => True) [] [] := by
  have restricts : Law.Restricts (telling (.createTunnel headers body)) tells := telling_restricts
  simp only [createTunnel, bind_eq, obeys_bind]
  refine getCurrentUserId_idle .nil fun past held user idle => ?_
  cases user with
  | none => trivial
  | some uid =>
      simp only []
      split
      · trivial
      · rename_i agentId parsed
        rw [obeys_bind]
        refine subdomainTaken_idle idle fun past held taken idle => ?_
        split
        · trivial
        · simp only [reservePort, bind_eq, obeys_bind]
          refine query_idle idle rfl fun found held idle => ?_
          rcases found with failure | _ | user
          · trivial
          · trivial
          · simp only [obeys_bind]
            refine restricts.guarded ?_
            refine restricts.perform (by simp [tells]) fun reserved => ?_
            replace idle := @Unbegun.other _ (.allocatePort (some user.dedicatedPort)) reserved idle rfl
            cases reserved with
            | none => trivial
            | some port =>
                simp only []
                split
                · simp only [insertTunnel, bind_eq, obeys_bind]
                  refine query_idle idle rfl fun made held idle => ?_
                  rcases made with failure | record
                  · trivial
                  · simp only []
                    split
                    · trivial
                    · simp only [announceTunnel, bind_eq, obeys_bind]
                      refine restricts.guarded ?_
                      refine obeys_bind.mpr ?_
                      refine restricts.perform (by simp [tells]) fun sender => ?_
                      refine startAnnounced_tells (idle.other rfl) ?_ fun _ _ => trivial
                      rintro channel rfl
                      exact idle.knows rfl
                · trivial

theorem updateTunnel_tells {id : String} {body : UpdateTunnelRequest} :
    (updateTunnel id body).Obeys (telling (.updateTunnel id body)) (fun _ _ _ => True) [] [] := by
  have restricts : Law.Restricts (telling (.updateTunnel id body)) tells := telling_restricts
  simp only [updateTunnel, bind_eq, obeys_bind]
  refine query_idle .nil rfl fun found held idle => ?_
  rcases found with failure | _ | tunnel
  · trivial
  · trivial
  · simp only [obeys_bind]
    refine subdomainTaken_idle idle fun past held taken idle => ?_
    split
    · trivial
    · simp only [obeys_bind]
      refine query_idle idle rfl fun written held idle => ?_
      rcases written with failure | _
      · trivial
      · simp only [obeys_bind]
        cases parseUuid tunnel.agentId with
        | none => trivial
        | some agentId =>
            simp only [ifSome, resyncAgent, bind_eq]
            refine restricts.guarded ?_
            refine obeys_bind.mpr (restricts.perform (by simp [tells]) fun sender => ?_)
            cases sender with
            | none => trivial
            | some channel =>
                exact syncAgentTunnels_tells (idle.knows rfl) ((idle.other rfl).preparing) fun _ _ _ => trivial

theorem toggleTunnel_tells {id : String} :
    (toggleTunnel id).Obeys (telling (.toggleTunnel id)) (fun _ _ _ => True) [] [] := by
  have restricts : Law.Restricts (telling (.toggleTunnel id)) tells := telling_restricts
  simp only [toggleTunnel, bind_eq, obeys_bind]
  refine query_idle .nil rfl fun found held idle => ?_
  rcases found with failure | _ | tunnel
  · trivial
  · trivial
  · simp only []
    split
    · trivial
    · trivial
    · rename_i tunnelId agentId named owned
      simp only [obeys_bind]
      refine restricts.guarded (restricts.perform (by simp [tells]) fun written => ?_)
      simp only [switchTunnel, bind_eq]
      refine restricts.guarded ?_
      refine obeys_bind.mpr (restricts.perform (by simp [tells]) fun sender => ?_)
      cases enabled : tunnel.enabled with
      | true =>
          have stops : (do
              stopTunnelListener tunnelId
              withLock .allocatedPorts .exclusive (access (.freePort tunnel.publicPort))
              ifSome (fun agentSender => access (.send agentSender (.stopTunnel tunnelId))) sender : Relay Unit).Avoids
                tells := by
            refine .bind (.guarded (access_avoids (by simp [tells]))) fun _ => ?_
            refine .bind (.guarded (access_avoids (by simp [tells]))) fun _ => ?_
            exact .ifSome fun _ => access_avoids (by simp [tells, RelayMessage.announces])
          exact stops.obeys restricts fun _ _ _ _ => trivial
      | false =>
          have on : Op.idles (.db (.setTunnelEnabled id (!tunnel.enabled))) = true := by simp [Op.idles, enabled]
          replace idle := @Unbegun.other _ _ written idle on
          rw [enabled] at idle
          simp only [Bool.not_false, if_true]
          refine restricts.guarded ?_
          refine obeys_bind.mpr (restricts.perform (by simp [tells]) fun reserved => ?_)
          refine startAnnounced_tells ((idle.other rfl).other rfl) ?_ fun _ _ => trivial
          rintro channel rfl
          exact (idle.knows rfl).later (by simp)

theorem claimAgent_tells {code : String} {headers : HeaderMap} :
    (claimAgent code headers).Obeys (telling (.claimAgent code headers)) (fun _ _ _ => True) [] [] := by
  have restricts : Law.Restricts (telling (.claimAgent code headers)) tells := telling_restricts
  simp only [claimAgent, bind_eq, obeys_bind]
  refine getCurrentUserId_idle .nil fun past held user idle => ?_
  cases user with
  | none => trivial
  | some userId =>
      simp only [obeys_bind]
      refine query_idle idle rfl fun taken held idle => ?_
      rcases taken with (failure | _) | _ | agent
      · trivial
      · trivial
      · trivial
      · simp only []
        split
        · trivial
        · rename_i agentId parsed
          simp only [obeys_bind]
          refine restricts.guarded (restricts.perform (by simp [tells]) fun waiting => ?_)
          replace idle := @Unbegun.other _ (.removePendingClaim code) waiting idle rfl
          cases waiting with
          | none => trivial
          | some sender =>
              simp only [ifSome, confirmClaim, bind_eq, obeys_bind]
              refine query_idle idle rfl fun online held idle => ?_
              refine restricts.guarded (restricts.perform (by simp [tells]) fun registered => ?_)
              refine restricts.perform (by simp [tells, RelayMessage.announces]) fun told => ?_
              refine syncAgentTunnels_tells (.inl ⟨_, _, List.mem_cons_self⟩) ?_ fun _ _ _ => trivial
              exact ((idle.other rfl).other rfl).preparing

theorem auth_tells {session : SessionId} {token hostname : String} {post} (posts : ∀ later held, post later held ()) :
    (auth session token hostname).Obeys (telling (.frame session (.message (.auth token hostname)))) post [] [] := by
  have restricts : Law.Restricts (telling (.frame session (.message (.auth token hostname)))) tells := telling_restricts
  simp only [auth, bind_eq, obeys_bind]
  refine query_idle .nil rfl fun found held idle => ?_
  rcases found with failure | _ | agent
  · exact restricts.perform (by simp [tells, RelayMessage.announces]) fun _ => posts _ _
  · exact restricts.perform (by simp [tells, RelayMessage.announces]) fun _ => posts _ _
  · simp only []
    split
    · simp only [obeys_bind]
      refine restricts.perform (by simp [tells]) fun _ => ?_
      refine restricts.guarded (restricts.perform (by simp [tells]) fun _ => ?_)
      exact restricts.perform (by simp [tells, RelayMessage.announces]) fun _ => posts _ _
    · split
      · exact restricts.perform (by simp [tells, RelayMessage.announces]) fun _ => posts _ _
      · rename_i agentId parsed
        simp only [obeys_bind]
        refine restricts.perform (by simp [tells]) fun set => ?_
        replace idle := @Unbegun.other _ (.setAuthenticatedAgentId session agentId) set idle rfl
        refine query_idle idle rfl fun online held idle => ?_
        refine restricts.guarded (restricts.perform (by simp [tells]) fun registered => ?_)
        refine restricts.perform (by simp [tells, RelayMessage.announces]) fun told => ?_
        refine syncAgentTunnels_tells (.inl ⟨_, _, List.mem_cons_self⟩) ?_ fun _ _ _ => posts _ _
        exact ((idle.other rfl).other rfl).preparing

omit [Externals] in
theorem tells_stirs (op : Op) (speaks : tells op) : stirs op := by
  cases op with
  | spawnProxy => trivial
  | send sender message => exact speaks
  | _ => contradiction

theorem deleteTunnel_avoids {id : String} : (deleteTunnel id).Avoids tells := by
  refine .bind (.guarded (access_avoids (by simp [tells]))) fun found => ?_
  match found with
  | .error _ | .ok none => trivial
  | .ok (some tunnel) =>
      refine .bind (.ifSome fun tunnelId => ?_) fun _ =>
        .bind (.guarded (access_avoids (by simp [tells]))) fun _ => trivial
      refine .bind (.guarded (access_avoids (by simp [tells]))) fun _ => ?_
      refine .bind (.guarded (access_avoids (by simp [tells]))) fun _ => .ifSome fun agentId => .guarded ?_
      exact .bind (access_avoids (by simp [tells])) fun sender => .ifSome fun channel =>
        access_avoids (by simp [tells, RelayMessage.announces])

/-- The jobs that start no listener and make no tunnel known. -/
theorem serve_avoids {job : Job} (create : ∀ headers body, job ≠ .createTunnel headers body)
    (update : ∀ id body, job ≠ .updateTunnel id body) (toggle : ∀ id, job ≠ .toggleTunnel id)
    (claim : ∀ code headers, job ≠ .claimAgent code headers)
    (auth : ∀ session token hostname, job ≠ .frame session (.message (.auth token hostname))) :
    (serve job).Avoids tells := by
  have apart (outside : ∀ op, tells op → job.outside op) : (serve job).Avoids tells :=
    (serve_footprint job).mono outside
  cases calm : job.calm with
  | true => exact (serve_calm calm).mono tells_stirs
  | false =>
      unfold Job.calm at calm
      split at calm
      · exact apart fun op told => by cases op <;> first | rfl | contradiction
      · exact absurd rfl (claim _ _)
      · exact absurd rfl (create _ _)
      · exact absurd rfl (update _ _)
      · exact absurd rfl (toggle _)
      · exact deleteTunnel_avoids
      · exact apart fun op told => by cases op <;> first | rfl | contradiction
      · exact absurd rfl (auth _ _ _)
      · contradiction

theorem tellContract_lawful : relay.Lawful tellContract := by
  intro job
  change (serve job).Obeys (telling job) (fun _ _ _ => True) [] []
  by_cases create : ∃ headers body, job = .createTunnel headers body
  · obtain ⟨headers, body, rfl⟩ := create
    exact createTunnel_tells
  by_cases update : ∃ id body, job = .updateTunnel id body
  · obtain ⟨id, body, rfl⟩ := update
    exact updateTunnel_tells
  by_cases toggle : ∃ id, job = .toggleTunnel id
  · obtain ⟨id, rfl⟩ := toggle
    exact toggleTunnel_tells
  by_cases claim : ∃ code headers, job = .claimAgent code headers
  · obtain ⟨code, headers, rfl⟩ := claim
    exact claimAgent_tells
  by_cases presents : ∃ session token hostname, job = .frame session (.message (.auth token hostname))
  · obtain ⟨session, token, hostname, rfl⟩ := presents
    have restricts : Law.Restricts (telling (.frame session (.message (.auth token hostname)))) tells :=
      telling_restricts
    simp only [serve, handleFrame, handleMessage, bind_eq, obeys_bind]
    exact auth_tells fun later held => restricts.perform (by simp [tells]) fun _ => trivial
  · simp only [not_exists] at create update toggle claim presents
    exact (serve_avoids create update toggle claim presents).obeys telling_restricts fun _ _ _ _ => trivial

end Texts

def processTells : Contract process where
  law := fun work => match work with
    | .serve job => telling job
    | .proxy _ => fun _ _ _ => False
  answer := fun _ _ _ _ => True

theorem processTells_lawful : process.Lawful processTells := by
  intro work
  cases work with
  | serve job => exact tellContract_lawful job
  | proxy action => trivial

/-! ## The condition -/

/-- A request that is going to start something finds a channel in the registry
only when the session has been told of its success. -/
def readsTold : Check process := fun config thread _ op =>
  match op with
  | .agentSender agentId =>
      (match thread.job with
        | .serve job => onlyStops job thread.past
        | .proxy _ => true) ||
      (config.state.world.agentSenders agentId).all fun sender =>
        (config.state.world.sent sender).any (·.introduces agentId)
  | _ => true

def announcesAny (past : Past) : Bool :=
  past.any fun event =>
    match event.1 with
    | .send _ message => message.announces
    | _ => false

/-- The task has started the listener and has yet to announce it. -/
def owesNews (task : Nat) (past : Past) : Bool :=
  past.any (fun event =>
    match event with
    | ⟨.spawnProxy .., handle⟩ => handle.task == task
    | _ => false) && !announcesAny past

/-- A client is served only by a listener that has been announced. -/
def servesAnnounced (config : Config process) : ProxyAction → Bool
  | .accept task _ | .receive task .. => !config.threads.any fun thread => owesNews task thread.past
  | _ => true

def announcedFirst : Condition process := fun config action =>
  readsTold.condition config action ∧ onProxy servesAnnounced config action

/-! ## What holds along a run -/

/-- The listener the task has started has still to be announced by it. -/
def Owes (past : Past) (task : Nat) (listener : Listener) : Prop :=
  (∃ transport port handle, handle.task = task ∧ Did past (.spawnProxy transport port listener.tunnelId
    listener.agentId listener.agentSender) handle) ∧
  ∀ sender message, Did past (.send sender message) () → message.announces = false

omit [Externals] in
theorem Owes.alike {task : Nat} {listener later : Listener} (owes : Owes past task listener)
    (alike : listener.Alike later) : Owes past task later := by
  unfold Owes
  rw [alike.tunnelId, alike.agentId, alike.agentSender]
  exact owes

structure Telling (config : Config process) : Prop where
  told : ∀ thread ∈ config.threads, ∀ sender message, Did thread.past (.send sender message) () →
    message ∈ config.state.world.sent sender
  knows : ∀ thread ∈ config.threads, ∀ job, thread.job = .serve job → ∀ agentId sender,
    Did thread.past (.agentSender agentId) (some sender) → onlyStops job thread.past = false →
      Introduced (config.state.world.sent sender) agentId
  listeners : ∀ task listener, config.state.proxies.listeners task = some listener →
    Introduced (config.state.world.sent listener.agentSender) listener.agentId ∧
      ((∃ message ∈ config.state.world.sent listener.agentSender,
        message.names listener.tunnelId listener.agentId) ∨
      ∃ thread ∈ config.threads, Owes thread.past task listener)
  ordered : ∀ sender, InOrder (config.state.world.sent sender)

omit [Externals] in
theorem announcesAny_false {past : Past} : announcesAny past = false ↔
    ∀ sender message, Did past (.send sender message) () → message.announces = false := by
  unfold announcesAny
  rw [List.any_eq_false]
  constructor
  · intro silent sender message did
    simpa using silent _ did
  · intro silent event member announces
    split at announces
    · rename_i sender message same
      obtain ⟨op, result⟩ := event
      cases same
      rw [silent sender message member] at announces
      contradiction
    · contradiction

omit [Externals] in
theorem owesNews_of {task : Nat} {listener : Listener} (owes : Owes past task listener) :
    owesNews task past = true := by
  obtain ⟨⟨transport, port, handle, numbered, did⟩, silent⟩ := owes
  rw [owesNews, announcesAny_false.mpr silent, Bool.not_false, Bool.and_true]
  exact List.any_eq_true.mpr ⟨_, did, by simpa using numbered⟩

omit [Externals] in
theorem onlyStops_cons {op : Op} {result : op.Result} (starts : onlyStops job (⟨op, result⟩ :: past) = false) :
    onlyStops job past = false := by
  unfold onlyStops at starts ⊢
  rw [Bool.or_eq_false_iff] at starts ⊢
  rw [List.any_cons, Bool.or_eq_false_iff] at starts
  exact ⟨starts.1, starts.2.2⟩

theorem sent_grows {world later : World} {choice : Choice} {op : Op} {result : op.Result}
    (executed : exec world choice op = some (later, result)) (sender : Channel) :
    world.sent sender <+: later.sent sender := by
  rw [exec_sent executed]
  cases op with
  | send other text =>
      by_cases same : sender = other
      · subst same
        simp
      · simp [Function.update_of_ne same]
  | _ => exact List.prefix_refl _

omit [Externals] in
theorem Introduced.grows {before after : List RelayMessage} (introduced : Introduced before agentId)
    (grows : before <+: after) : Introduced after agentId := by
  obtain ⟨more, rfl⟩ := grows
  unfold Introduced at introduced ⊢
  rw [List.any_append, introduced, Bool.true_or]

/-- What an action of a proxy puts on the channels: data, the end of a connection,
or a connection of the listener that has got a client. -/
def ProxyAction.opens : ProxyAction → Option Nat
  | .accept task _ | .receive task .. => some task
  | _ => none

omit [Externals] in
theorem World.offer_sent {world : World} {proxies : Proxies} {channel sender : Channel} {message : RelayMessage} :
    (world.offer proxies channel message).sent sender = world.sent sender ∨ channel = sender ∧
      (world.offer proxies channel message).sent sender = world.sent sender ++ [message] := by
  unfold World.offer
  split
  · exact .inl rfl
  · by_cases same : sender = channel
    · subst same
      exact .inr ⟨rfl, Function.update_self ..⟩
    · exact .inl (Function.update_of_ne same ..)

theorem Proxies.perform_sent {world world' : World} {proxies proxies' : Proxies} {action : ProxyAction}
    (performed : proxies.perform world action = some (world', proxies')) (sender : Channel) :
    world'.sent sender = world.sent sender ∨ ∃ message, world'.sent sender = world.sent sender ++ [message] ∧
      ((∃ connId payload, message = .data connId payload) ∨ (∃ connId, message = .closeConnection connId) ∨
        ∃ task listener connId, action.opens = some task ∧ proxies.listeners task = some listener ∧
          listener.agentSender = sender ∧ message = .newConnection listener.tunnelId connId) := by
  unfold Proxies.perform at performed
  split at performed
  · cases performed
    exact .inl rfl
  · split at performed
    · rename_i task named
      split at performed
      · rename_i listener known
        cases action with
        | accept number connId =>
            simp only [Proxies.listen] at performed
            split at performed
            · split at performed <;> cases performed
              · exact .inl rfl
              · exact World.offer_sent.imp id fun told =>
                  ⟨_, told.2, .inr (.inr ⟨task, listener, connId, named, known, told.1, rfl⟩)⟩
            · contradiction
        | receive number addr bytes connId =>
            simp only [Proxies.listen] at performed
            (repeat' split at performed) <;> cases performed
            · exact .inl rfl
            · exact World.offer_sent.imp id fun told =>
                ⟨_, told.2, .inr (.inr ⟨task, listener, connId, named, known, told.1, rfl⟩)⟩
        | forwardDatagram number =>
            simp only [Proxies.listen] at performed
            split at performed <;> cases performed
            exact World.offer_sent.imp id fun told => ⟨_, told.2, .inl ⟨_, _, rfl⟩⟩
        | _ =>
            unfold Proxies.listen at performed
            simp only at performed
            (repeat' split at performed) <;> cases performed <;> exact .inl rfl
      · contradiction
    · split at performed
      · rename_i connId named
        split at performed
        · rename_i connection known
          split at performed
          · cases action with
            | forward other =>
                simp only [Proxies.serveTcp] at performed
                (repeat' split at performed) <;> cases performed
                · exact .inl rfl
                · exact World.offer_sent.imp id fun told => ⟨_, told.2, .inl ⟨_, _, rfl⟩⟩
            | close other =>
                simp only [Proxies.serveTcp] at performed
                split at performed <;> cases performed
                exact World.offer_sent.imp id fun told => ⟨_, told.2, .inr (.inl ⟨_, rfl⟩)⟩
            | _ =>
                simp only [Proxies.serveTcp] at performed
                (repeat' split at performed) <;> cases performed <;> exact .inl rfl
          · unfold Proxies.serveUdp at performed
            split at performed <;> (repeat' split at performed) <;> cases performed <;> exact .inl rfl
        · contradiction
      · contradiction

section Call

variable {before after : Config process} {task : Nat} {thread : Thread process} {choice : Choice} {op : Op}
  {result : op.Result} {config : Config process}

/-- A task that knows a channel has told it, or found it told, of the agent. -/
theorem Telling.introduced (telling : Telling config) (member : thread ∈ config.threads)
    (served : thread.job = .serve job)
    (knows : Knows job thread.past agentId sender) : Introduced (config.state.world.sent sender) agentId := by
  rcases knows with ⟨name, token, did⟩ | ⟨did, starts⟩
  · exact List.any_eq_true.mpr ⟨_, telling.told thread member sender _ did, by simp [RelayMessage.introduces]⟩
  · exact telling.knows thread member job served agentId sender did starts

/-- What a task may send comes after what prepares for it. -/
theorem Telling.prepared {message : RelayMessage} {done : Op.Result (.send sender message)}
    (telling : Telling before) (lawful : before.Lawful processContract) (tells : before.Lawful processTells)
    (called : Called before task thread choice (.send sender message) done after) :
    Prepared (before.state.world.sent sender) message := by
  obtain ⟨job, world, served, law, _⟩ := called_serves lawful called
  have tell := called.law tells
  rw [served] at tell
  cases message with
  | startTunnel config => exact telling.introduced called.member served tell.1
  | syncTunnels configs =>
      obtain ⟨agentId, knows, owned, _⟩ := tell
      intro config member
      rw [owned config member]
      exact telling.introduced called.member served knows
  | newConnection tunnelId connId => exact ((law.2.2.general fun _ => id).1 : False).elim
  | _ => trivial

theorem Telling.call (telling : Telling before) (lawful : before.Lawful processContract)
    (tells : before.Lawful processTells) (told : readsTold before thread choice op = true)
    (called : Called before task thread choice op result after) : Telling after := by
  obtain ⟨job, world, served, law, executed, state⟩ := called_serves lawful called
  have tell := called.law tells
  simp only [served] at tell
  have grows := sent_grows executed
  have sent : after.state.world = world := by rw [state]
  refine ⟨?_, ?_, ?_, ?_⟩
  · intro other member sender message did
    rw [sent]
    obtain ⟨index, there⟩ := List.mem_iff_getElem?.mp member
    rcases called.did there did with ⟨old, found, _, earlier⟩ | ⟨_, _, new⟩
    · exact (grows sender).subset (telling.told old (List.mem_of_getElem? found) sender message earlier)
    · cases new
      rw [exec_sent executed]
      simp
  · intro other member job' served' agentId sender did starts
    rw [sent]
    refine Introduced.grows ?_ (grows sender)
    obtain ⟨index, there⟩ := List.mem_iff_getElem?.mp member
    rcases called.origin there with ⟨_, same, _, past⟩ | ⟨_, old⟩
    · rw [past] at did starts
      rw [same, served] at served'
      cases served'
      rcases List.mem_cons.mp did with new | earlier
      · cases new
        have read : before.state.world.agentSenders agentId = some sender := by
          simp only [exec, Option.some.injEq, Prod.mk.injEq] at executed
          exact executed.2
        simp only [readsTold, served, onlyStops_cons starts, read, Bool.false_or, Option.all_some] at told
        exact told
      · exact telling.knows thread called.member _ served agentId sender earlier (onlyStops_cons starts)
    · exact telling.knows other (List.mem_of_getElem? old) job' served' agentId sender did starts
  · intro number listener there
    rw [state] at there ⊢
    rcases Proxies.after_listeners there with ⟨transport, port, tunnelId, agentId, sender, rfl, rfl, rfl⟩ |
      ⟨old, known, alike, _⟩
    · -- the listener has just been started
      obtain ⟨knows, silent⟩ := tell
      refine ⟨(telling.introduced called.member served knows).grows (grows sender), .inr ?_⟩
      obtain ⟨self, found, _, _, past⟩ := called.self
      refine ⟨self, List.mem_of_getElem? found, ⟨transport, port, result, ?_, past ▸ List.mem_cons_self⟩, ?_⟩
      · cases executed
        rfl
      · intro channel message did
        rw [past] at did
        exact silent channel message (by simpa [Did] using did)
    · have same : listener.tunnelId = old.tunnelId ∧ listener.agentId = old.agentId ∧
          listener.agentSender = old.agentSender := by rw [alike]; exact ⟨rfl, rfl, rfl⟩
      have owed {past : Past} (owes : Owes past number old) : Owes past number listener := by
        rw [alike]
        exact owes
      obtain ⟨introduced, announced⟩ := telling.listeners number old known
      rw [same.1, same.2.1, same.2.2]
      refine ⟨introduced.grows (grows _), ?_⟩
      rcases announced with ⟨message, there, names⟩ | ⟨owing, member, owes⟩
      · exact .inl ⟨message, (grows _).subset there, names⟩
      · obtain ⟨index, there⟩ := List.mem_iff_getElem?.mp member
        by_cases here : index = task
        · subst here
          rw [called.found, Option.some.injEq] at there
          subst there
          obtain ⟨self, found, _, _, past⟩ := called.self
          obtain ⟨⟨transport, port, handle, numbered, did⟩, silent⟩ := owes
          by_cases announces : ∃ channel message, op = .send channel message ∧ message.announces = true
          · -- the task that owes the news gives it
            obtain ⟨channel, message, rfl, announces⟩ := announces
            refine .inl ⟨message, ?_⟩
            have there : message ∈ world.sent channel := by
              rw [exec_sent executed]
              simp
            cases message with
            | startTunnel config =>
                obtain ⟨own, channels, id⟩ := tell.2.started _ _ _ _ _ _ did
                exact ⟨channels ▸ there, id.symm, own.symm⟩
            | syncTunnels configs =>
                obtain ⟨agentId, _, owned, preparing⟩ := tell
                obtain ⟨own, channels, config, listed, id⟩ := preparing.started _ _ _ _ _ _ did
                exact ⟨channels ▸ there, config, listed, id, (owned config listed).trans own.symm⟩
            | _ => contradiction
          · refine .inr ⟨self, List.mem_of_getElem? found, owed ⟨⟨transport, port, handle, numbered, ?_⟩, ?_⟩⟩
            · exact past ▸ List.mem_cons_of_mem _ did
            · intro channel message did
              rw [past] at did
              rcases List.mem_cons.mp did with new | earlier
              · cases new
                exact Bool.eq_false_iff.mpr fun loud => announces ⟨channel, message, rfl, loud⟩
              · exact silent channel message earlier
        · exact .inr ⟨owing, List.mem_of_getElem? (called.other there here), owed owes⟩
  · intro sender
    rw [sent, exec_sent executed]
    cases op with
    | send other message =>
        by_cases same : sender = other
        · subst same
          simp only [Function.update_self]
          exact (telling.ordered sender).append (telling.prepared lawful tells called)
        · simpa [Function.update_of_ne same] using telling.ordered sender
    | _ => exact telling.ordered sender

/-- Steps of guards and clients, and starts of requests, take nothing back. -/
theorem Telling.quiet (telling : Telling before) (same : before.SameTasks after)
    (listeners : ∀ number later, after.state.proxies.listeners number = some later →
      ∃ listener, before.state.proxies.listeners number = some listener ∧ listener.Alike later)
    (sent : ∀ sender, after.state.world.sent sender = before.state.world.sent sender ∨
      ∃ message, after.state.world.sent sender = before.state.world.sent sender ++ [message] ∧
        Prepared (before.state.world.sent sender) message) : Telling after := by
  have grows (sender : Channel) : before.state.world.sent sender <+: after.state.world.sent sender := by
    rcases sent sender with unchanged | ⟨message, grown, _⟩
    · exact unchanged ▸ List.prefix_refl _
    · exact grown ▸ List.prefix_append ..
  refine ⟨?_, ?_, ?_, ?_⟩
  · intro thread member sender message did
    obtain ⟨other, old, _, past⟩ := same.of_mem member did
    exact (grows sender).subset (telling.told other old sender message (past ▸ did))
  · intro thread member job served agentId sender did starts
    obtain ⟨other, old, works, past⟩ := same.of_mem member did
    exact (telling.knows other old job (works.trans served) agentId sender (past ▸ did) (past ▸ starts)).grows
      (grows sender)
  · intro number later there
    obtain ⟨listener, known, alike⟩ := listeners number later there
    obtain ⟨introduced, announced⟩ := telling.listeners number listener known
    rw [alike.tunnelId, alike.agentId, alike.agentSender]
    refine ⟨introduced.grows (grows _), ?_⟩
    rcases announced with ⟨message, there, names⟩ | ⟨owing, member, owes⟩
    · exact .inl ⟨message, (grows _).subset there, names⟩
    · obtain ⟨other, new, _, past⟩ := same.mem member
      exact .inr ⟨other, new, past ▸ owes.alike alike⟩
  · intro sender
    rcases sent sender with unchanged | ⟨message, grown, prepared⟩
    · exact unchanged ▸ telling.ordered sender
    · exact grown ▸ (telling.ordered sender).append prepared

/-- A listener that has got a client has been announced. -/
theorem Telling.opened {listener : Listener} {connId : Uuid} (telling : Telling config)
    (there : config.state.proxies.listeners task = some listener)
    (announced : ∀ thread ∈ config.threads, owesNews task thread.past = false) :
    Prepared (config.state.world.sent listener.agentSender) (.newConnection listener.tunnelId connId) := by
  obtain ⟨introduced, ⟨message, told, names⟩ | ⟨owing, member, owes⟩⟩ := telling.listeners task listener there
  · exact ⟨listener.agentId, introduced, message, told, names⟩
  · exact absurd (owesNews_of owes) (by rw [announced owing member]; exact Bool.false_ne_true)

theorem Telling.start {job : Work} {state : Process} (telling : Telling before)
    (permitted : onProxy servesAnnounced before (.start job))
    (admitted : process.accept before.state job = some state) :
    Telling (⟨state, before.threads ++ [Thread.fresh process job]⟩ : Config process) := by
  cases job with
  | serve job =>
      obtain ⟨world, accepted, rfl⟩ := Option.map_eq_some_iff.mp admitted
      obtain ⟨sessions, rfl⟩ := accept_same accepted
      exact telling.quiet .start (fun _ later there => ⟨later, there, .refl⟩) fun _ => .inl rfl
  | proxy action =>
      obtain ⟨⟨world, proxies⟩, performed, rfl⟩ := Option.map_eq_some_iff.mp admitted
      refine telling.quiet .start (fun _ _ there => Proxies.perform_listeners performed there) fun sender => ?_
      refine (Proxies.perform_sent performed sender).imp id fun ⟨message, grown, offered⟩ => ⟨message, grown, ?_⟩
      rcases offered with ⟨connId, payload, rfl⟩ | ⟨connId, rfl⟩ | ⟨number, listener, connId, opens, known, rfl, rfl⟩
      · trivial
      · trivial
      · refine telling.opened known fun thread member => ?_
        have none : servesAnnounced before action = true := permitted
        cases action with
        | accept | receive =>
            cases opens
            simp only [servesAnnounced, Bool.not_eq_true', List.any_eq_false, Bool.not_eq_true] at none
            exact none thread member
        | _ => contradiction

end Call

theorem Runs.telling {portRange : UInt16 × UInt16} {config : Config process}
    (runs : Runs announcedFirst portRange config) : Telling config := by
  refine Reachable.induct ?_ ?_ runs
  · refine ⟨fun _ member => ?_, fun _ member => ?_, fun _ _ there => ?_, fun _ => .nil⟩
    · contradiction
    · contradiction
    · contradiction
  · intro before action after earlier telling permitted step
    have lawful := Runs.lawful earlier
    have tells : before.Lawful processTells := Reachable.lawful processTells_lawful earlier
    have still {later : Config process} (same : before.SameTasks later) (state : later.state = before.state) :
        Telling later :=
      telling.quiet same (fun _ listener there => ⟨listener, state ▸ there, .refl⟩) fun _ => .inl (state ▸ rfl)
    cases step with
    | start admitted => exact telling.start permitted.2 admitted
    | call found head executed =>
        exact telling.call lawful tells (permitted.1 _ _ _ found head) ⟨found, executed, _, head, rfl⟩
    | acquire found head free => exact still (.replace found) rfl
    | release found head => exact still (.replace found) rfl
    | reboot =>
        refine ⟨fun _ member => ?_, fun _ member => ?_, fun _ _ there => ?_, fun _ => .nil⟩
        · contradiction
        · contradiction
        · contradiction

end Runs

def tells6 : RelayMessage → Bool
  | .syncTunnels tunnels => tunnels.any (·.id == 6)
  | .startTunnel config => config.id == 6
  | _ => false

end TunnelitRelay
