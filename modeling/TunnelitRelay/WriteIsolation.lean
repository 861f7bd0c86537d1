import TunnelitRelay.LeakedPorts

namespace TunnelitRelay

open Concurrent Program

/-! # What a request changes for other users

`update_tunnel`, `toggle_tunnel`, `delete_tunnel` and `delete_agent` do not ask
who is calling: they leave the rows of others alone only where the ids in the
request lead to none of them.
-/

section Isolation

variable [Externals] {world : World} {portRange : UInt16 × UInt16} {caller : Option String}

/-- The owner is a user other than the caller. -/
def foreign (caller userId : Option String) : Bool :=
  userId.isSome && userId != caller

/-- The agents and tunnels of users other than the caller are as they were, and
so are their registered channels and running listeners. -/
structure Isolated (caller : Option String) (before after : World) : Prop where
  agents : ∀ row ∈ before.db.agents, foreign caller row.userId = true → row ∈ after.db.agents
  tunnels : ∀ row ∈ before.db.tunnels, foreign caller row.userId = true → row ∈ after.db.tunnels
  senders : ∀ row ∈ before.db.agents, foreign caller row.userId = true → ∀ agentId,
    parseUuid row.id = some agentId → after.agentSenders agentId = before.agentSenders agentId
  tasks : ∀ row ∈ before.db.tunnels, foreign caller row.userId = true → ∀ tunnelId,
    parseUuid row.id = some tunnelId → ∀ handle, before.tunnelTasks tunnelId = some handle →
      after.tunnelTasks tunnelId = some handle

/-- The requests on agents and tunnels. -/
def Job.writes : Job → Bool
  | .createTunnel .. | .updateTunnel .. | .toggleTunnel _ | .deleteTunnel _ | .deleteAgent _ => true
  | _ => false

/-- The row already has the values of the request. -/
def unchangedBy (body : UpdateTunnelRequest) (row : TunnelRecord) : Bool :=
  row.name == body.name && row.localPort == body.localPort && row.protocol == body.protocol &&
    row.subdomain == cleanSubdomain body.subdomain

/-- No listener of another user is restarted with the enabled tunnels of the agent. -/
def resyncSpares (world : World) (caller : Option String) (agentId : Uuid) : Bool :=
  (world.agentSenders agentId).isNone || world.db.tunnels.all fun row =>
    row.agentId != uuidToString agentId || !row.enabled || !foreign caller row.userId ||
      (parseUuid row.id).all fun tunnelId => (world.tunnelTasks tunnelId).isNone

/-- The ids in the request lead to nothing that belongs to a user other than the caller. -/
def leavesOthersAlone (world : World) (caller : Option String) : Job → Bool
  | .updateTunnel id body => (world.db.tunnels.find? (·.id == id)).all fun row =>
      (!foreign caller row.userId || unchangedBy body row) &&
        (parseUuid row.agentId).all (resyncSpares world caller)
  | .toggleTunnel id | .deleteTunnel id => (world.db.tunnels.find? (·.id == id)).all fun row =>
      !foreign caller row.userId
  | .deleteAgent id =>
      (world.db.agents.all fun row => !foreign caller row.userId || row.id != id &&
        (parseUuid id).all fun agentId =>
          row.id != uuidToString agentId || (world.agentSenders agentId).isNone) &&
      world.db.tunnels.all fun row => !foreign caller row.userId || row.agentId != id
  | _ => true

/-! ## What the blocks change -/

/-- The tables and the registry are as they were, and the listeners but for those of some tunnels. -/
structure Touches (touched : Uuid → Prop) (before after : World) : Prop where
  db : after.db = before.db
  senders : after.agentSenders = before.agentSenders
  tasks : ∀ tunnelId, ¬ touched tunnelId → after.tunnelTasks tunnelId = before.tunnelTasks tunnelId

omit [Externals] in
theorem Touches.refl {touched : Uuid → Prop} : Touches touched world world :=
  ⟨rfl, rfl, fun _ _ => rfl⟩

omit [Externals] in
theorem Touches.trans {touched : Uuid → Prop} {first second third : World}
    (earlier : Touches touched first second) (later : Touches touched second third) :
    Touches touched first third :=
  ⟨later.db.trans earlier.db, later.senders.trans earlier.senders, fun tunnelId untouched =>
    (later.tasks tunnelId untouched).trans (earlier.tasks tunnelId untouched)⟩

omit [Externals] in
theorem Touches.mono {touched more : Uuid → Prop} {before after : World}
    (touches : Touches touched before after) (among : ∀ tunnelId, touched tunnelId → more tunnelId) :
    Touches more before after :=
  ⟨touches.db, touches.senders, fun tunnelId untouched =>
    touches.tasks tunnelId fun hit => untouched (among tunnelId hit)⟩

theorem startTunnelListener_touches {tunnel : TunnelConfig} {sender : Channel} :
    (startTunnelListener tunnel sender).Always relay
      (fun after _ => Touches (· = tunnel.id) world after) world := by
  refine access_always fun choice entered result executed => ?_
  cases executed
  refine always_bind.mpr (withLock_always fun choice after result executed => ?_)
  cases executed
  refine access_always fun choice bound result executed => ?_
  simp only [exec] at executed
  split at executed
  · cases executed
    exact ⟨rfl, rfl, fun tunnelId different => Function.update_of_ne different ..⟩
  · cases executed
    refine access_always fun choice spawned handle executed => ?_
    cases executed
    refine always_bind.mpr (withLock_always fun choice after result executed => ?_)
    cases executed
    refine ⟨rfl, rfl, fun tunnelId different => ?_⟩
    simp [Function.update_of_ne different]

/-- The enabled rows of a list name the tunnel. -/
def Enabled (rows : List TunnelRecord) (tunnelId : Uuid) : Prop :=
  ∃ row ∈ rows, row.enabled = true ∧ parseUuid row.id = some tunnelId

theorem syncRows_touches {agentId : Uuid} {sender : Channel} {rows : List TunnelRecord} :
    (syncRows agentId sender rows).Always relay (fun after _ => Touches (Enabled rows) world after) world := by
  induction rows generalizing world with
  | nil => exact .refl
  | cons row rest ih =>
      have among : ∀ tunnelId, Enabled rest tunnelId → Enabled (row :: rest) tunnelId :=
        fun tunnelId ⟨other, member, enabled, parsed⟩ => ⟨other, List.mem_cons_of_mem _ member, enabled, parsed⟩
      unfold syncRows
      split
      · exact ih.mono fun after _ touches => touches.mono among
      · rename_i tunnelId parsed
        dsimp only [tunnelConfig]
        split
        · rename_i enabled
          refine always_bind.mpr (withLock_always fun choice reserved result executed => ?_)
          cases executed
          refine always_bind.mpr (startTunnelListener_touches.mono fun started result touches => ?_)
          refine always_bind.mpr (ih.mono fun after configs later => ?_)
          refine Touches.trans ?_ (later.mono among)
          refine ⟨touches.db, touches.senders, fun other untouched => ?_⟩
          refine touches.tasks other fun same => untouched ⟨row, List.mem_cons_self, enabled, ?_⟩
          exact same ▸ parsed
        · exact always_bind.mpr (ih.mono fun after configs touches => touches.mono among)

/-! ## Requests that leave others alone -/

theorem Isolated.refl : Isolated caller world world where
  agents := fun _ member _ => member
  tunnels := fun _ member _ => member
  senders := fun _ _ _ _ _ => rfl
  tasks := fun _ _ _ _ _ _ running => running

/-- Tunnels changed in the table, then listeners touched. -/
theorem Isolated.of_rows {middle after : World} {touched : Uuid → Prop}
    (touches : Touches touched middle after) (agents : middle.db.agents = world.db.agents)
    (tunnels : ∀ row ∈ world.db.tunnels, foreign caller row.userId = true → row ∈ middle.db.tunnels)
    (senders : middle.agentSenders = world.agentSenders) (tasks : middle.tunnelTasks = world.tunnelTasks)
    (untouched : ∀ row ∈ world.db.tunnels, foreign caller row.userId = true → ∀ tunnelId,
      parseUuid row.id = some tunnelId → ∀ handle, world.tunnelTasks tunnelId = some handle →
        ¬ touched tunnelId) : Isolated caller world after where
  agents := fun row member _ => by rwa [touches.db, agents]
  tunnels := fun row member owned => by
    rw [touches.db]
    exact tunnels row member owned
  senders := fun _ _ _ agentId _ => by rw [touches.senders, senders]
  tasks := fun row member owned tunnelId parsed handle running => by
    rw [touches.tasks tunnelId (untouched row member owned tunnelId parsed handle running), tasks]
    exact running

/-- A listener is started on the agent's channel, if it has one. -/
theorem startIfServed_touches {tunnel : TunnelConfig} {sender : Option Channel} :
    (ifSome (fun sender => do
      let _ ← startTunnelListener tunnel sender
      access (.send sender (.startTunnel tunnel))) sender).Always relay
        (fun after _ => Touches (· = tunnel.id) world after) world := by
  refine ifSome_always (fun _ => .refl) fun channel _ => ?_
  refine always_bind.mpr (startTunnelListener_touches.mono fun started result touches => ?_)
  intro choice after sent executed
  cases executed
  exact ⟨touches.db, touches.senders, touches.tasks⟩

theorem parse_apart {db : Database} {drawn : List Uuid} {row : TunnelRecord} {tunnelId : Uuid}
    (consistent : Consistent db drawn) (listed : row ∈ db.tunnels)
    (parsed : parseUuid row.id = some tunnelId) : row.id = uuidToString tunnelId ∧ tunnelId ∈ drawn := by
  obtain ⟨id, known, named⟩ := consistent.tunnelDrawn row listed
  rw [named, parseUuid_uuidToString, Option.some.injEq] at parsed
  subst parsed
  exact ⟨named, known⟩

theorem insertTunnel_isolated {uid : String} {agentId : Uuid} {publicPort : UInt16}
    {body : CreateTunnelRequest} (consistent : Consistent world.db world.drawn) :
    (insertTunnel uid agentId publicPort body).Always relay
      (fun after _ => Isolated caller world after) world := by
  refine always_bind.mpr (withLock_always fun choice after result executed => ?_)
  obtain ⟨rfl, rfl, fresh⟩ := exec_db executed
  have change := @Query.run_change _ choice world.portRange world.db (.createTunnel body.agentId (some uid)
    body.name body.localPort body.protocol publicPort (cleanSubdomain body.subdomain))
  have rows : ∀ row ∈ world.db.tunnels, foreign caller row.userId = true →
      row ∈ (Query.run choice world.portRange world.db
        (.createTunnel body.agentId (some uid) body.name body.localPort body.protocol publicPort
        (cleanSubdomain body.subdomain))).1.tunnels := by
    intro row member _
    generalize (Query.run choice world.portRange world.db _).1 = later at change ⊢
    cases change with
    | kept => exact member
    | opened => exact List.mem_append_left _ member
  have agents : (Query.run choice world.portRange world.db (.createTunnel body.agentId (some uid) body.name
      body.localPort body.protocol publicPort (cleanSubdomain body.subdomain))).1.agents = world.db.agents := by
    generalize (Query.run choice world.portRange world.db _).1 = later at change ⊢
    cases change <;> rfl
  have nothing : ∀ row ∈ world.db.tunnels, foreign caller row.userId = true → ∀ tunnelId,
      parseUuid row.id = some tunnelId → ∀ handle, world.tunnelTasks tunnelId = some handle →
        ¬ tunnelId = choice.id := by
    rintro row member _ tunnelId parsed _ _ rfl
    exact fresh _ (List.mem_singleton.mpr rfl) (parse_apart consistent member parsed).2
  split
  · exact Isolated.of_rows .refl agents rows rfl rfl nothing
  · rename_i record inserted
    have named : record.id = uuidToString choice.id := by
      simp only [Query.run, Db.createTunnel, Database.write] at inserted
      split at inserted
      · cases inserted
        rfl
      · contradiction
    rw [named, parseUuid_uuidToString]
    refine always_bind.mpr (always_guarded.mpr (access_always fun choice read sender executed => ?_))
    cases executed
    refine startIfServed_touches.mono fun after _ touches => ?_
    exact Isolated.of_rows touches agents rows rfl rfl nothing

theorem createTunnel_isolated {headers : HeaderMap} {body : CreateTunnelRequest}
    (consistent : Consistent world.db world.drawn) :
    (createTunnel headers body).Always relay (fun after _ => Isolated caller world after) world := by
  refine always_bind.mpr (getCurrentUserId_stays.mono fun after user same => ?_)
  subst same
  cases user with
  | none => exact .refl
  | some uid =>
      dsimp only
      split
      · exact .refl
      rename_i agentId parsed
      refine always_bind.mpr (subdomainTaken_stays.mono fun after taken same => ?_)
      subst same
      split
      · exact .refl
      refine always_bind.mpr (read_always (fun _ _ _ => rfl) (fun _ => rfl) fun choice => ?_)
      split
      · exact .refl
      · exact .refl
      · refine always_bind.mpr (withLock_always fun choice later reserved executed => ?_)
        simp only [exec] at executed
        split at executed
        · cases executed
          dsimp only
          split
          · rename_i port _ _
            have kept := @insertTunnel_isolated _ { after with allocatedPorts := insert port after.allocatedPorts }
              caller uid agentId port body consistent
            refine kept.mono fun last _ isolated => ?_
            exact ⟨isolated.agents, isolated.tunnels, isolated.senders, isolated.tasks⟩
          · exact ⟨fun _ member _ => member, fun _ member _ => member, fun _ _ _ _ _ => rfl,
              fun _ _ _ _ _ _ running => running⟩
        · cases executed
          exact .refl

/-- The row a call changes or deletes. -/
def Query.target : Query → Option String
  | .setTunnelEnabled id _ | .deleteTunnel id => some id
  | .updateTunnel id .. => some id
  | _ => none

theorem Change.others {choice : Choice} {db after : Database} {query : Query} {id : String}
    (change : Change choice db query after) (aims : query.target = some id) :
    after.agents = db.agents ∧ ∀ row ∈ db.tunnels, row.id ≠ id → row ∈ after.tunnels := by
  cases change with
  | kept => exact ⟨rfl, fun row member _ => member⟩
  | switched | edited =>
      cases aims
      exact ⟨rfl, fun row member other => List.mem_map.mpr ⟨row, member, by simp [other]⟩⟩
  | closed =>
      cases aims
      exact ⟨rfl, fun row member other => List.mem_filter.mpr ⟨member, by simpa using other⟩⟩
  | _ => contradiction

/-- A row of another user is not the caller's. -/
theorem other_row {tunnel row : TunnelRecord} (consistent : Consistent world.db world.drawn)
    (listed : tunnel ∈ world.db.tunnels) (own : foreign caller tunnel.userId = false)
    (member : row ∈ world.db.tunnels) (owned : foreign caller row.userId = true) :
    row.id ≠ tunnel.id ∧
      ∀ tunnelId, parseUuid row.id = some tunnelId → parseUuid tunnel.id ≠ some tunnelId := by
  have different : row.id ≠ tunnel.id := by
    intro same
    rw [List.inj_on_of_nodup_map consistent.tunnelIds member listed same, own] at owned
    contradiction
  refine ⟨different, fun tunnelId parsed parsed' => different ?_⟩
  rw [(parse_apart consistent member parsed).1, (parse_apart consistent listed parsed').1]

theorem notify_touches {touched : Uuid → Prop} {message : RelayMessage} {sender : Option Channel} :
    (ifSome (fun sender => access (.send sender message)) sender).Always relay
      (fun after _ => Touches touched world after) world := by
  refine ifSome_always (fun _ => .refl) fun channel _ => ?_
  intro choice told result executed
  cases executed
  exact ⟨rfl, rfl, fun _ _ => rfl⟩

theorem switchTunnel_touches {tunnelId agentId : Uuid} {tunnel : TunnelRecord} {newEnabled : Bool} :
    (switchTunnel tunnelId agentId tunnel newEnabled).Always relay
      (fun after _ => Touches (· = tunnelId) world after) world := by
  refine always_guarded.mpr (access_always fun choice read sender executed => ?_)
  cases executed
  split
  · refine always_guarded.mpr (access_always fun choice reserved result executed => ?_)
    cases executed
    exact startIfServed_touches.mono fun after _ touches => ⟨touches.db, touches.senders, touches.tasks⟩
  · refine always_bind.mpr (withLock_always fun choice stopped result executed => ?_)
    cases executed
    refine always_bind.mpr (withLock_always fun choice released result executed => ?_)
    cases executed
    have told := @notify_touches _ { world with
      tunnelTasks := Function.update world.tunnelTasks tunnelId none
      allocatedPorts := world.allocatedPorts.erase tunnel.publicPort } (· = tunnelId) (.stopTunnel tunnelId)
      (world.agentSenders agentId)
    refine told.mono fun after _ touches => ⟨touches.db, touches.senders, fun other different => ?_⟩
    rw [touches.tasks other different]
    exact Function.update_of_ne different ..

theorem toggleTunnel_isolated {id : String} (consistent : Consistent world.db world.drawn)
    (own : leavesOthersAlone world caller (.toggleTunnel id) = true) :
    (toggleTunnel id).Always relay (fun after _ => Isolated caller world after) world := by
  refine always_bind.mpr (read_always (fun _ _ _ => rfl) (fun _ => rfl) fun choice => ?_)
  cases answered : (Query.run choice world.portRange world.db (.getTunnelById id)).2 with
  | error failure => exact .refl
  | ok found =>
      cases found with
      | none => exact .refl
      | some tunnel =>
          have found := Except.ok.inj (Choice.statement_ok answered)
          have listed := List.mem_of_find?_eq_some found
          obtain rfl : tunnel.id = id := by simpa using List.find?_some found
          have mine : foreign caller tunnel.userId = false := by simpa [leavesOthersAlone, found] using own
          dsimp only
          split
          · exact .refl
          · exact .refl
          · rename_i tunnelId agentId parsed attached
            refine always_bind.mpr (query_always fun choice drawn => ?_)
            refine always_bind.mpr (switchTunnel_touches.mono fun after _ touches => ?_)
            obtain ⟨agents, rows⟩ := (@Query.run_change _ choice world.portRange world.db
              (.setTunnelEnabled tunnel.id !tunnel.enabled)).others rfl
            refine Isolated.of_rows touches agents (fun row member owned => ?_) rfl rfl ?_
            · exact rows row member (other_row consistent listed mine member owned).1
            · rintro row member owned _ parsed' _ _ rfl
              exact (other_row consistent listed mine member owned).2 _ parsed' parsed

theorem stopDeleted_touches {tunnel : TunnelRecord} {tunnelId : Uuid} :
    (stopDeleted tunnel tunnelId).Always relay (fun after _ => Touches (· = tunnelId) world after) world := by
  refine always_bind.mpr (withLock_always fun choice stopped result executed => ?_)
  cases executed
  refine always_bind.mpr (withLock_always fun choice released result executed => ?_)
  cases executed
  have touches : Touches (· = tunnelId) world { world with
      tunnelTasks := Function.update world.tunnelTasks tunnelId none
      allocatedPorts := world.allocatedPorts.erase tunnel.publicPort } :=
    ⟨rfl, rfl, fun other different => Function.update_of_ne different ..⟩
  refine ifSome_always (fun _ => touches) fun agentId _ => ?_
  refine always_guarded.mpr (access_always fun choice read sender executed => ?_)
  cases executed
  exact notify_touches.mono fun after _ later => touches.trans later

theorem deleteTunnel_isolated {id : String} (consistent : Consistent world.db world.drawn)
    (own : leavesOthersAlone world caller (.deleteTunnel id) = true) :
    (deleteTunnel id).Always relay (fun after _ => Isolated caller world after) world := by
  refine always_bind.mpr (read_always (fun _ _ _ => rfl) (fun _ => rfl) fun choice => ?_)
  cases answered : (Query.run choice world.portRange world.db (.getTunnelById id)).2 with
  | error failure => exact .refl
  | ok found =>
      cases found with
      | none => exact .refl
      | some tunnel =>
          have found := Except.ok.inj (Choice.statement_ok answered)
          have listed := List.mem_of_find?_eq_some found
          obtain rfl : tunnel.id = id := by simpa using List.find?_some found
          have mine : foreign caller tunnel.userId = false := by simpa [leavesOthersAlone, found] using own
          obtain ⟨tunnelId, _, named⟩ := consistent.tunnelDrawn tunnel listed
          have parsed : parseUuid tunnel.id = some tunnelId := by rw [named, parseUuid_uuidToString]
          dsimp only
          rw [parsed]
          refine always_bind.mpr (stopDeleted_touches.mono fun stopped _ touches => ?_)
          refine always_bind.mpr (query_always fun choice drawn => ?_)
          obtain ⟨agents, rows⟩ := (@Query.run_change _ choice stopped.portRange stopped.db
            (.deleteTunnel tunnel.id)).others rfl
          refine ⟨fun row member _ => ?_, fun row member owned => ?_, fun _ _ _ agentId _ => ?_, ?_⟩
          · exact agents ▸ touches.db ▸ member
          · exact rows row (touches.db ▸ member) (other_row consistent listed mine member owned).1
          · exact congrFun touches.senders agentId
          · intro row member owned other parsed' handle running
            refine (touches.tasks other fun same => ?_).trans running
            exact (other_row consistent listed mine member owned).2 other parsed' (same ▸ parsed)

theorem deleteAgent_isolated {id : String} (consistent : Consistent world.db world.drawn)
    (own : leavesOthersAlone world caller (.deleteAgent id) = true) :
    (deleteAgent id).Always relay (fun after _ => Isolated caller world after) world := by
  simp only [leavesOthersAlone, Bool.and_eq_true, List.all_eq_true] at own
  obtain ⟨agents, tunnels⟩ := own
  -- The registry may have changed before, but for no agent of another user.
  have deletes {after : World} (tables : after.db = world.db) (tasks : after.tunnelTasks = world.tunnelTasks)
      (senders : ∀ row ∈ world.db.agents, foreign caller row.userId = true → ∀ agentId,
        parseUuid row.id = some agentId → after.agentSenders agentId = world.agentSenders agentId) :
      ((query (.deleteAgent id)).bind fun _ => (done (.status .ok) : Relay Reply)).Always relay
        (fun last _ => Isolated caller world last) after := by
    refine always_bind.mpr (query_always fun choice drawn => ?_)
    have change := @Query.run_change _ choice after.portRange after.db (.deleteAgent id)
    rw [tables] at change ⊢
    generalize (Query.run choice after.portRange world.db (.deleteAgent id)).1 = later at change ⊢
    have kept : ∀ row ∈ world.db.tunnels, foreign caller row.userId = true →
        row ∈ world.db.tunnels.filter (·.agentId != id) := by
      intro row member owned
      exact List.mem_filter.mpr ⟨member, by simpa [owned] using tunnels row member⟩
    refine ⟨fun row member owned => ?_, fun row member owned => ?_, senders,
    fun row _ _ tunnelId _ handle running => ?_⟩
    · cases change with
      | kept | detached => exact member
      | deleted =>
          have other := agents row member
          simp only [owned, Bool.not_true, Bool.false_or, Bool.and_eq_true] at other
          exact List.mem_filter.mpr ⟨member, other.1⟩
    · cases change with
      | kept => exact member
      | detached | deleted => exact kept row member owned
    · exact (congrFun tasks tunnelId).trans running
  refine always_bind.mpr (ifSome_always (fun _ => deletes rfl rfl fun _ _ _ _ _ => rfl) fun agentId parsed => ?_)
  refine always_guarded.mpr (access_always fun choice removed sender executed => ?_)
  cases executed
  have senders : ∀ row ∈ world.db.agents, foreign caller row.userId = true → ∀ other,
      parseUuid row.id = some other →
        Function.update world.agentSenders agentId none other = world.agentSenders other := by
    intro row member owned other parsed'
    by_cases same : other = agentId
    · subst same
      obtain ⟨known, _, named⟩ := consistent.agentDrawn row member
      rw [named, parseUuid_uuidToString, Option.some.injEq] at parsed'
      subst parsed'
      have spared := agents row member
      simp only [owned, Bool.not_true, Bool.false_or, Bool.and_eq_true, parsed, Option.all_some, named,
        bne_self_eq_false] at spared
      rw [Function.update_self, Option.isNone_iff_eq_none.mp spared.2]
    · exact Function.update_of_ne same ..
  refine ifSome_always (fun _ => deletes rfl rfl senders) fun channel _ => ?_
  intro choice told result executed
  cases executed
  exact deletes rfl rfl senders

theorem resyncAgent_touches {agentId : Uuid} :
    (resyncAgent agentId).Always relay (fun after _ => Touches (fun tunnelId =>
      (world.agentSenders agentId).isSome ∧ Enabled (world.db.tunnels.filter
        (·.agentId == uuidToString agentId)) tunnelId) world after) world := by
  refine always_guarded.mpr (access_always fun choice read sender executed => ?_)
  cases executed
  refine ifSome_always (fun _ => .refl) fun channel registered => ?_
  refine always_bind.mpr (read_always (fun _ _ _ => rfl) (fun _ => rfl) fun choice => ?_)
  refine always_bind.mpr (syncRows_touches.mono fun synced configs touches => ?_)
  intro choice' told result executed
  cases executed
  refine ⟨touches.db, touches.senders, fun tunnelId untouched => touches.tasks tunnelId ?_⟩
  rintro ⟨row, member, enabled⟩
  refine untouched ⟨by simp [registered], row, ?_, enabled⟩
  cases answered : (Query.run choice world.portRange world.db
      (.listTunnelsForAgent (uuidToString agentId))).2 with
  | error failure =>
      rw [answered] at member
      simp [rowsOrNone] at member
  | ok rows =>
      rw [answered] at member
      have listed := Except.ok.inj (Choice.statement_ok answered)
      simp only [rowsOrNone] at member
      rwa [← listed, Db.oldestFirst, List.mem_insertionSort] at member

/-- What an update leaves of the tunnels. -/
theorem edited_rows {choice : Choice} {db after : Database} {id : String} {body : UpdateTunnelRequest}
    (change : Change choice db (.updateTunnel id body.name body.localPort body.protocol
      (cleanSubdomain body.subdomain)) after) :
    (∀ row ∈ db.tunnels, row.id ≠ id ∨ unchangedBy body row = true → row ∈ after.tunnels) ∧
      ∀ row ∈ after.tunnels, ∃ old ∈ db.tunnels, old.id = row.id ∧ old.agentId = row.agentId ∧
        old.enabled = row.enabled := by
  cases change with
  | kept => exact ⟨fun row member _ => member, fun row member => ⟨row, member, rfl, rfl, rfl⟩⟩
  | edited =>
      constructor
      · intro row member stays
        refine List.mem_map.mpr ⟨row, member, ?_⟩
        split
        · rename_i hit
          have same := stays.resolve_left fun other => other (eq_of_beq hit)
          simp only [unchangedBy, Bool.and_eq_true, beq_iff_eq] at same
          obtain ⟨⟨⟨name, localPort⟩, protocol⟩, subdomain⟩ := same
          rw [← name, ← localPort, ← protocol, ← subdomain]
        · rfl
      · intro row member
        obtain ⟨old, there, rfl⟩ := List.mem_map.mp member
        refine ⟨old, there, ?_⟩
        split <;> exact ⟨rfl, rfl, rfl⟩

theorem updateTunnel_isolated {id : String} {body : UpdateTunnelRequest}
    (consistent : Consistent world.db world.drawn)
    (own : leavesOthersAlone world caller (.updateTunnel id body) = true) :
    (updateTunnel id body).Always relay (fun after _ => Isolated caller world after) world := by
  refine always_bind.mpr (read_always (fun _ _ _ => rfl) (fun _ => rfl) fun choice => ?_)
  cases answered : (Query.run choice world.portRange world.db (.getTunnelById id)).2 with
  | error failure => exact .refl
  | ok found =>
      cases found with
      | none => exact .refl
      | some tunnel =>
          have found := Except.ok.inj (Choice.statement_ok answered)
          have listed := List.mem_of_find?_eq_some found
          obtain rfl : tunnel.id = id := by simpa using List.find?_some found
          simp only [leavesOthersAlone, found, Option.all_some, Bool.and_eq_true] at own
          dsimp only
          refine always_bind.mpr (subdomainTaken_stays.mono fun after taken same => ?_)
          subst same
          split
          · exact .refl
          refine always_bind.mpr (query_always fun choice drawn => ?_)
          have change := @Query.run_change _ choice after.portRange after.db (.updateTunnel tunnel.id body.name
            body.localPort body.protocol (cleanSubdomain body.subdomain))
          obtain ⟨agents, _⟩ := change.others rfl
          obtain ⟨stays, origin⟩ := edited_rows change
          have rows : ∀ row ∈ after.db.tunnels, foreign caller row.userId = true →
              row ∈ (Query.run choice after.portRange after.db (.updateTunnel tunnel.id body.name body.localPort
                body.protocol (cleanSubdomain body.subdomain))).1.tunnels := by
            refine fun row member owned => stays row member ?_
            by_cases same : row.id = tunnel.id
            · have alike := List.inj_on_of_nodup_map consistent.tunnelIds member listed same
              subst alike
              exact .inr (by simpa [owned] using own.1)
            · exact .inl same
          split
          · exact Isolated.of_rows (@Touches.refl _ fun _ => False) agents rows rfl rfl fun _ _ _ _ _ _ _ none => none
          refine always_bind.mpr (ifSome_always (fun _ => ?_) fun agentId attached => ?_)
          · exact Isolated.of_rows (@Touches.refl _ fun _ => False) agents rows rfl rfl fun _ _ _ _ _ _ _ none => none
          refine resyncAgent_touches.mono fun last _ touches => ?_
          refine Isolated.of_rows touches agents rows rfl rfl ?_
          rintro row member owned tunnelId parsed handle running ⟨registered, edited, among, enabled, parsed'⟩
          obtain ⟨inside, its⟩ := List.mem_filter.mp among
          obtain ⟨old, there, named, sameAgent, sameEnabled⟩ := origin edited inside
          rw [← named] at parsed'
          have alike : old = row := List.inj_on_of_nodup_map consistent.tunnelIds there member
            ((parse_apart consistent there parsed').1.trans (parse_apart consistent member parsed).1.symm)
          subst alike
          have spared : resyncSpares after caller agentId = true := by simpa [attached] using own.2
          have attachedRow : old.agentId = uuidToString agentId := sameAgent.trans (eq_of_beq its)
          simp only [resyncSpares, Bool.or_eq_true] at spared
          rcases spared with unregistered | each
          · rw [Option.isNone_iff_eq_none.mp unregistered] at registered
            contradiction
          · have quiet := List.all_eq_true.mp each old member
            simp [attachedRow, sameEnabled, enabled, owned, parsed, running] at quiet

/-! ## Requests that do not -/

/-- An environment that refuses no statement and binds no socket. -/
def calm : Choice where
  fault := none
  now := 0
  id := 0
  token := 0
  code := 0
  ports := fun _ => 0
  bindError := some ""

/-- What always holds after a call holds after it for one answer of the environment. -/
theorem answer_of_always {query' : Query} {post : World → Except Failure query'.Value → Prop}
    (always : (query query').Always relay post world) (choice : Choice) (undrawn : query'.draws choice = []) :
    post { world with db := (query'.run choice world.portRange world.db).1 }
      (query'.run choice world.portRange world.db).2 := by
  refine always_guarded.mp always choice _ _ ?_
  simp [exec, undrawn]

/-- The same for an operation under a guard of its own. -/
theorem perform_of_always (lock : Lock) (mode : Mode) (choice : Choice) {op : Op} {after : World}
    {result : op.Result} {post : World → op.Result → Prop}
    (always : (withLock lock mode (access op)).Always relay post world)
    (executed : exec world choice op = some (after, result)) : post after result :=
  always_guarded.mp always choice after result executed

theorem start_of_always {tunnel : TunnelConfig} {sender : Channel} {post : World → Except String Unit → Prop}
    (always : (startTunnelListener tunnel sender).Always relay post world) :
    ∃ error, post { world with tunnelTasks := Function.update world.tunnelTasks tunnel.id none } (.error error) :=
  ⟨_, always calm _ _ rfl calm _ _ rfl calm _ _ rfl⟩

theorem startIfServed_of_always {tunnel : TunnelConfig} {sender : Option Channel} {post : World → Unit → Prop}
    (always : (ifSome (fun sender => do
      let _ ← startTunnelListener tunnel sender
      access (.send sender (.startTunnel tunnel))) sender).Always relay post world) :
    ∃ after, post after () ∧ after.db = world.db := by
  cases sender with
  | none => exact ⟨world, always, rfl⟩
  | some channel =>
      obtain ⟨_, told⟩ := start_of_always (always_bind.mp always)
      exact ⟨_, told calm _ _ rfl, rfl⟩

theorem notify_of_always {message : RelayMessage} {sender : Option Channel} {post : World → Unit → Prop}
    (always : (ifSome (fun sender => access (.send sender message)) sender).Always relay post world) :
    ∃ after, post after () ∧ after.db = world.db := by
  cases sender with
  | none => exact ⟨world, always, rfl⟩
  | some channel => exact ⟨_, always calm _ _ rfl, rfl⟩

theorem switch_of_always {tunnelId agentId : Uuid} {tunnel : TunnelRecord} {newEnabled : Bool}
    {post : World → Unit → Prop}
    (always : (switchTunnel tunnelId agentId tunnel newEnabled).Always relay post world) :
    ∃ after, post after () ∧ after.db = world.db := by
  have registered := always_guarded.mp always calm _ _ rfl
  split at registered
  · have reserved := always_guarded.mp registered calm _ _ rfl
    obtain ⟨after, ends, same⟩ := startIfServed_of_always reserved
    exact ⟨after, ends, same⟩
  · have stopped := perform_of_always .tunnelTasks .exclusive calm (always_bind.mp registered) rfl
    have released := perform_of_always .allocatedPorts .exclusive calm (always_bind.mp stopped) rfl
    obtain ⟨after, ends, same⟩ := notify_of_always released
    exact ⟨after, ends, same⟩

omit [Externals] in
theorem found_own {id : String} {tunnel : TunnelRecord}
    (found : world.db.tunnels.find? (·.id == id) = some tunnel) :
    tunnel ∈ world.db.tunnels ∧ tunnel.id = id :=
  ⟨List.mem_of_find?_eq_some found, by simpa using List.find?_some found⟩

theorem toggleTunnel_own {id : String} (consistent : Consistent world.db world.drawn)
    (always : (toggleTunnel id).Always relay (fun after _ => Isolated caller world after) world) :
    leavesOthersAlone world caller (.toggleTunnel id) = true := by
  simp only [leavesOthersAlone, Option.all_eq_true, Bool.not_eq_true']
  intro tunnel found
  obtain ⟨listed, rfl⟩ := found_own found
  obtain ⟨tunnelId, _, named⟩ := consistent.tunnelDrawn tunnel listed
  obtain ⟨agent, there, attached⟩ := consistent.attached tunnel listed
  obtain ⟨agentId, _, agentNamed⟩ := consistent.agentDrawn agent there
  have read := answer_of_always (always_bind.mp always) calm rfl
  have answered : (Query.run calm world.portRange world.db (.getTunnelById tunnel.id)).2 = .ok (some tunnel) :=
    congrArg Except.ok found
  rw [answered] at read
  have parsed : parseUuid tunnel.id = some tunnelId := by rw [named, parseUuid_uuidToString]
  have parsedAgent : parseUuid tunnel.agentId = some agentId := by
    rw [← attached, agentNamed, parseUuid_uuidToString]
  dsimp only at read
  rw [parsed, parsedAgent] at read
  have written := answer_of_always (always_bind.mp read) calm rfl
  obtain ⟨after, isolated, same⟩ := switch_of_always (always_bind.mp written)
  cases owned : foreign caller tunnel.userId with
  | false => rfl
  | true =>
      -- The row would have had to stay, but it has been switched.
      have stays := isolated.tunnels tunnel listed owned
      rw [same] at stays
      obtain ⟨old, _, changed⟩ := List.mem_map.mp stays
      split at changed
      · have switched := congrArg (·.enabled) changed
        simp at switched
      · rename_i other
        exact absurd (congrArg (·.id) changed) (by simpa using other)

theorem stopDeleted_of_always {tunnel : TunnelRecord} {tunnelId : Uuid} {post : World → Unit → Prop}
    (always : (stopDeleted tunnel tunnelId).Always relay post world) :
    ∃ after, post after () ∧ after.db = world.db := by
  have stopped := perform_of_always .tunnelTasks .exclusive calm (always_bind.mp always) rfl
  have released := perform_of_always .allocatedPorts .exclusive calm (always_bind.mp stopped) rfl
  cases attached : parseUuid tunnel.agentId with
  | none =>
      rw [attached] at released
      exact ⟨_, released, rfl⟩
  | some agentId =>
      rw [attached] at released
      obtain ⟨after, ends, same⟩ := notify_of_always (always_guarded.mp released calm _ _ rfl)
      exact ⟨after, ends, same⟩

theorem deleteTunnel_own {id : String} (consistent : Consistent world.db world.drawn)
    (always : (deleteTunnel id).Always relay (fun after _ => Isolated caller world after) world) :
    leavesOthersAlone world caller (.deleteTunnel id) = true := by
  simp only [leavesOthersAlone, Option.all_eq_true, Bool.not_eq_true']
  intro tunnel found
  obtain ⟨listed, rfl⟩ := found_own found
  obtain ⟨tunnelId, _, named⟩ := consistent.tunnelDrawn tunnel listed
  have read := answer_of_always (always_bind.mp always) calm rfl
  have answered : (Query.run calm world.portRange world.db (.getTunnelById tunnel.id)).2 = .ok (some tunnel) :=
    congrArg Except.ok found
  have parsed : parseUuid tunnel.id = some tunnelId := by rw [named, parseUuid_uuidToString]
  rw [answered] at read
  dsimp only at read
  rw [parsed] at read
  obtain ⟨after, deletes, same⟩ := stopDeleted_of_always (always_bind.mp read)
  have isolated := answer_of_always (always_bind.mp deletes) calm rfl
  cases owned : foreign caller tunnel.userId with
  | false => rfl
  | true =>
      have stays : tunnel ∈ after.db.tunnels.filter (·.id != tunnel.id) := isolated.tunnels tunnel listed owned
      simp at stays

theorem deleteAgent_own {id : String}
    (always : (deleteAgent id).Always relay (fun after _ => Isolated caller world after) world) :
    leavesOthersAlone world caller (.deleteAgent id) = true := by
  obtain ⟨after, senders, deletes⟩ : ∃ after : World, (∀ agentId, parseUuid id = some agentId →
      after.agentSenders agentId = none) ∧
      Isolated caller world { after with db := (Query.run calm after.portRange world.db (.deleteAgent id)).1 } := by
    have began := always_bind.mp always
    cases parsed : parseUuid id with
    | none =>
        rw [parsed] at began
        exact ⟨world, by simp, answer_of_always (always_bind.mp began) calm rfl⟩
    | some agentId =>
        rw [parsed] at began
        have removed := always_guarded.mp began calm _ _ rfl
        cases registered : world.agentSenders agentId with
        | none =>
            rw [registered] at removed
            refine ⟨_, fun other same => ?_, answer_of_always (always_bind.mp removed) calm rfl⟩
            obtain rfl := Option.some.inj same
            exact Function.update_self ..
        | some channel =>
            rw [registered] at removed
            have told := removed calm _ _ rfl
            refine ⟨_, fun other same => ?_, answer_of_always (always_bind.mp told) calm rfl⟩
            obtain rfl := Option.some.inj same
            exact Function.update_self ..
  simp only [leavesOthersAlone, Bool.and_eq_true, List.all_eq_true]
  constructor
  · intro row member
    cases owned : foreign caller row.userId with
    | false => rfl
    | true =>
        have stays : row ∈ world.db.agents.filter (·.id != id) := deletes.agents row member owned
        simp only [Bool.not_true, Bool.false_or, Bool.and_eq_true, Option.all_eq_true, Bool.or_eq_true]
        refine ⟨(List.mem_filter.mp stays).2, fun agentId parsed => ?_⟩
        by_cases named : row.id = uuidToString agentId
        · have kept := deletes.senders row member owned agentId (by rw [named, parseUuid_uuidToString])
          exact .inr (by rw [← kept, senders agentId parsed]; rfl)
        · exact .inl (by simpa using named)
  · intro row member
    cases owned : foreign caller row.userId with
    | false => rfl
    | true =>
        have stays : row ∈ world.db.tunnels.filter (·.agentId != id) := deletes.tunnels row member owned
        simpa using (List.mem_filter.mp stays).2

/-- Where no socket is bound, the listeners of the enabled rows are gone afterwards. -/
theorem syncRows_of_always {agentId : Uuid} {sender : Channel} {rows : List TunnelRecord}
    {post : World → List TunnelConfig → Prop}
    (always : (syncRows agentId sender rows).Always relay post world) :
    ∃ after configs, post after configs ∧ after.db = world.db ∧
      (∀ tunnelId, world.tunnelTasks tunnelId = none → after.tunnelTasks tunnelId = none) ∧
      ∀ tunnelId, Enabled rows tunnelId → after.tunnelTasks tunnelId = none := by
  induction rows generalizing world post with
  | nil => exact ⟨world, [], always, rfl, fun _ gone => gone, fun _ ⟨_, member, _⟩ => by simp at member⟩
  | cons row rest ih =>
      unfold syncRows at always
      split at always
      · rename_i unparsed
        obtain ⟨after, configs, ends, same, kept, stopped⟩ := ih always
        refine ⟨after, configs, ends, same, kept, ?_⟩
        rintro tunnelId ⟨other, member, enabled, parsed⟩
        rcases List.mem_cons.mp member with rfl | later
        · rw [unparsed] at parsed
          contradiction
        · exact stopped tunnelId ⟨other, later, enabled, parsed⟩
      · rename_i started parsed
        dsimp only [tunnelConfig] at always
        split at always
        · have reserved := perform_of_always .allocatedPorts .exclusive calm (always_bind.mp always) rfl
          obtain ⟨_, began⟩ := start_of_always (always_bind.mp reserved)
          obtain ⟨after, configs, ends, same, kept, stopped⟩ := ih (always_bind.mp began)
          refine ⟨after, _, ends, same, fun tunnelId gone => kept tunnelId ?_, ?_⟩
          · by_cases here : tunnelId = started
            · rw [here]
              exact Function.update_self ..
            · exact (Function.update_of_ne here ..).trans gone
          · rintro tunnelId ⟨other, member, enabled, parsed'⟩
            rcases List.mem_cons.mp member with rfl | later
            · rw [parsed, Option.some.injEq] at parsed'
              subst parsed'
              exact kept _ (Function.update_self ..)
            · exact stopped tunnelId ⟨other, later, enabled, parsed'⟩
        · rename_i disabled
          obtain ⟨after, configs, ends, same, kept, stopped⟩ := ih (always_bind.mp always)
          refine ⟨after, _, ends, same, kept, ?_⟩
          rintro tunnelId ⟨other, member, enabled, parsed'⟩
          rcases List.mem_cons.mp member with rfl | later
          · exact absurd enabled disabled
          · exact stopped tunnelId ⟨other, later, enabled, parsed'⟩

theorem resync_of_always {agentId : Uuid} {post : World → Unit → Prop}
    (always : (resyncAgent agentId).Always relay post world) :
    ∃ after, post after () ∧ after.db = world.db ∧ ((world.agentSenders agentId).isSome = true →
      ∀ tunnelId, Enabled (world.db.tunnels.filter (·.agentId == uuidToString agentId)) tunnelId →
        after.tunnelTasks tunnelId = none) := by
  have read := always_guarded.mp always calm _ _ rfl
  cases registered : world.agentSenders agentId with
  | none =>
      rw [registered] at read
      exact ⟨world, read, rfl, by simp⟩
  | some channel =>
      rw [registered] at read
      have listed := answer_of_always (always_bind.mp read) calm rfl
      obtain ⟨synced, configs, told, same, _, stopped⟩ := syncRows_of_always (always_bind.mp listed)
      refine ⟨_, told calm _ _ rfl, same,
    fun _ tunnelId ⟨row, member, enabled⟩ => stopped tunnelId ⟨row, ?_, enabled⟩⟩
      exact (List.mem_insertionSort _).mpr member

/-- An environment that refuses the first statement of a call. -/
def refusing : Choice :=
  { calm with fault := some { statement := 0, text := "" } }

theorem subdomain_of_always {subdomain excludeId : Option String} {post : World → Bool → Prop}
    (always : (subdomainTaken subdomain excludeId).Always relay post world) : post world false := by
  cases subdomain with
  | none => exact always
  | some name => exact answer_of_always (always_bind.mp always) refusing rfl

theorem updateTunnel_own {id : String} {body : UpdateTunnelRequest} (consistent : Consistent world.db world.drawn)
    (always : (updateTunnel id body).Always relay (fun after _ => Isolated caller world after) world) :
    leavesOthersAlone world caller (.updateTunnel id body) = true := by
  simp only [leavesOthersAlone, Option.all_eq_true, Bool.and_eq_true, Bool.or_eq_true, Bool.not_eq_true']
  intro tunnel found
  obtain ⟨listed, rfl⟩ := found_own found
  have read := answer_of_always (always_bind.mp always) calm rfl
  have answered : (Query.run calm world.portRange world.db (.getTunnelById tunnel.id)).2 = .ok (some tunnel) :=
    congrArg Except.ok found
  rw [answered] at read
  have free := subdomain_of_always (always_bind.mp read)
  simp only [Bool.false_eq_true, if_false] at free
  have written := answer_of_always (always_bind.mp free) calm rfl
  obtain ⟨agent, there, attached⟩ := consistent.attached tunnel listed
  obtain ⟨agentId, _, agentNamed⟩ := consistent.agentDrawn agent there
  have parsedAgent : parseUuid tunnel.agentId = some agentId := by
    rw [← attached, agentNamed, parseUuid_uuidToString]
  rw [parsedAgent] at written
  obtain ⟨after, isolated, same, stopped⟩ := resync_of_always (always_bind.mp written)
  have table : after.db.tunnels = world.db.tunnels.map fun row =>
      if row.id == tunnel.id then { row with
        name := body.name, localPort := body.localPort, protocol := body.protocol,
        subdomain := cleanSubdomain body.subdomain } else row := congrArg (·.tunnels) same
  rw [same] at table
  constructor
  · cases owned : foreign caller tunnel.userId with
    | false => exact .inl rfl
    | true =>
        have stays := isolated.tunnels tunnel listed owned
        rw [same, table] at stays
        obtain ⟨old, _, changed⟩ := List.mem_map.mp stays
        split at changed
        · rw [← changed]
          exact .inr (by simp [unchangedBy])
        · rename_i other
          exact absurd (congrArg (·.id) changed) (by simpa using other)
  · intro parsed known
    obtain rfl : agentId = parsed := Option.some.inj (parsedAgent.symm.trans known)
    simp only [resyncSpares, Bool.or_eq_true, List.all_eq_true, Bool.not_eq_true', bne_iff_ne, Option.all_eq_true]
    cases registered : world.agentSenders agentId with
    | none => exact .inl rfl
    | some channel =>
        refine .inr fun row member => ?_
        by_cases attachedRow : row.agentId = uuidToString agentId
        · cases enabled : row.enabled with
          | false => exact .inl (.inl (.inr rfl))
          | true =>
              cases owned : foreign caller row.userId with
              | false => exact .inl (.inr rfl)
              | true =>
                  refine .inr fun tunnelId parsedRow => ?_
                  cases running : world.tunnelTasks tunnelId with
                  | none => rfl
                  | some handle =>
                      -- The listener would have had to stay, but it has been aborted and not bound again.
                      have stays := isolated.tasks row member owned tunnelId parsedRow handle running
                      rw [stopped (by simp [registered]) tunnelId] at stays
                      · contradiction
                      · refine ⟨_, List.mem_filter.mpr ⟨table ▸ List.mem_map.mpr ⟨row, member, rfl⟩, ?_⟩, ?_, ?_⟩
                        all_goals split <;> simp [attachedRow, enabled, parsedRow]
        · exact .inl (.inl (.inl attachedRow))

/-! ## Exactly when -/

/-- No job asks for a lock it already holds. -/
theorem discipline_apart {job : Job} {past : Past} {held : Held} {lock : Lock} {mode : Mode}
    (permitted : discipline job past held (.acquire lock mode)) : ∀ own ∈ held, own.1 ≠ lock := by
  intro own holds same
  have below := permitted.1 own holds
  rw [same] at below
  exact Nat.lt_irrefl _ below

/-- A job is isolated in every undisturbed run if and only if it always is. -/
theorem always_iff_performs {job : Job} {post : World → Reply → Prop} (requests : accept world job = some world) :
    (∀ after reply, Performs relay world job after reply → post after reply) ↔
      (serve job).Always relay post world :=
  @Performs.always_iff _ relay _ job _ _ _ requests (relay_lawful job)
    (@fun _ _ _ mode permitted => @discipline_apart _ job _ _ _ mode permitted) fun answers => answers.1

end Isolation

end TunnelitRelay
