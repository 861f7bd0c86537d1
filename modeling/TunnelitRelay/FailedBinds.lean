import TunnelitRelay.FailedCreations
import TunnelitRelay.Footprints
import TunnelitRelay.PortGeneration

namespace TunnelitRelay

open Concurrent Program

/-! # What a request reports when a socket cannot be bound -/

/-- What the environment decides for one request: which calls the database
answers, and which sockets can be bound. -/
structure Outcomes where
  answers : Query → Bool
  opens : Transport → UInt16 → Bool

def Outcomes.meets (outcomes : Outcomes) (_ : World) (choice : Choice) : Op → Bool
  | .db query => (choice.refuses 0).isNone == outcomes.answers query
  | .bind transport port => choice.bindError.isNone == outcomes.opens transport port
  | _ => true

/-- The row of the tunnel a request is about. -/
def requested : Job → Reply → Option String
  | .createTunnel .., .tunnel record => some record.id
  | .toggleTunnel id, _ | .updateTunnel id _, _ => some id
  | _, _ => none

section Outcome

variable [Externals] {outcomes : Outcomes} {world : World} {portRange : UInt16 × UInt16}

/-- The relay in an environment that decides so. -/
abbrev Outcomes.system (outcomes : Outcomes) : System relaySignature := relay.restrict outcomes.meets

/-- A failed bind is not reported as success: where the request succeeds, the
tunnel is enabled and its agent connected, a listener for it has been started;
and only the tunnels with a listener are announced to the agent by `StartTunnel`. -/
structure Reported (before : World) (job : Job) (after : World) (reply : Reply) : Prop where
  served : reply.isSuccess = true → ∀ row ∈ after.db.tunnels, requested job reply = some row.id →
    row.enabled = true → ∀ tunnelId agentId, parseUuid row.id = some tunnelId →
      parseUuid row.agentId = some agentId → (before.agentSenders agentId).isSome = true →
        (after.tunnelTasks tunnelId).isSome = true
  bound : ∀ sender tunnel new, after.sent sender = before.sent sender ++ new →
    .startTunnel tunnel ∈ new → (after.tunnelTasks tunnel.id).isSome = true

/-- The channel of the agent that is to serve a row. -/
def connected (world : World) (agentId : String) : Bool :=
  ((parseUuid agentId).bind world.agentSenders).isSome

/-- The subdomain counts as taken. -/
def takenBy (outcomes : Outcomes) (world : World) (subdomain excludeId : Option String) : Bool :=
  (cleanSubdomain subdomain).any fun name => outcomes.answers (.isSubdomainTaken name excludeId) &&
    decide (0 < world.db.tunnels.countP fun tunnel =>
      tunnel.subdomain.map Data.lower == some (Data.lower name) && excludeId != some tunnel.id)

/-- The row of the new tunnel is written. -/
def creates (outcomes : Outcomes) (world : World) (uid : String) (port : UInt16) (body : CreateTunnelRequest) :
    Bool :=
  outcomes.answers (.createTunnel body.agentId (some uid) body.name body.localPort body.protocol port
    (cleanSubdomain body.subdomain)) && !agentMissing world body

/-- The sockets that the request relies on can be bound, and the calls whose
errors it drops are answered. -/
def reports (outcomes : Outcomes) (world : World) : Job → Bool
  | .createTunnel headers body =>
      ((extractToken headers).bind world.userSessions).all fun uid =>
        (world.db.users.find? (·.id == uid)).all fun user =>
          let port := user.dedicatedPort
          !(reservesPort world headers body && outcomes.answers (.getUserById uid) &&
            !takenBy outcomes world body.subdomain none && creates outcomes world uid port body &&
              connected world body.agentId) || outcomes.opens (transportOf body.protocol) port
  | .toggleTunnel id => (world.db.tunnels.find? (·.id == id)).all fun tunnel =>
      !(outcomes.answers (.getTunnelById id) && connected world tunnel.agentId) ||
        if tunnel.enabled then outcomes.answers (.setTunnelEnabled id false)
        else outcomes.opens (transportOf tunnel.protocol) tunnel.publicPort
  | .updateTunnel id body => (world.db.tunnels.find? (·.id == id)).all fun tunnel =>
      !(outcomes.answers (.getTunnelById id) && !takenBy outcomes world body.subdomain (some id) &&
        outcomes.answers (.updateTunnel id body.name body.localPort body.protocol
          (cleanSubdomain body.subdomain)) && connected world tunnel.agentId && tunnel.enabled) ||
        if outcomes.answers (.listTunnelsForAgent tunnel.agentId) then
          outcomes.opens (transportOf body.protocol) tunnel.publicPort
        else ((parseUuid id).bind world.tunnelTasks).isSome
  | _ => true

/-! ## The blocks -/

/-- A listener is in place exactly if its socket could be bound. -/
def StartedAs (outcomes : Outcomes) (before : World) (tunnel : TunnelConfig) (after : World) : Prop :=
  ∃ task spawned, after = { before with
    tunnelTasks := Function.update before.tunnelTasks tunnel.id task, spawned } ∧
      task.isSome = outcomes.opens (transportOf tunnel.protocol) tunnel.publicPort

theorem startTunnelListener_outcome {tunnel : TunnelConfig} {sender : Channel} :
    (startTunnelListener tunnel sender).Always outcomes.system
      (fun after _ => StartedAs outcomes world tunnel after) world := by
  intro choice entered result executed
  obtain ⟨-, executed⟩ := System.restrict_exec.mp executed
  cases executed
  intro choice stopped result executed
  obtain ⟨-, executed⟩ := System.restrict_exec.mp executed
  cases executed
  intro choice bound result executed
  obtain ⟨met, executed⟩ := System.restrict_exec.mp executed
  have met := eq_of_beq met
  simp only [exec] at executed
  cases failed : choice.bindError with
  | some error =>
      rw [failed] at met executed
      cases executed
      exact ⟨none, world.spawned, rfl, met⟩
  | none =>
      rw [failed] at met executed
      cases executed
      intro choice spawned handle executed
      obtain ⟨-, executed⟩ := System.restrict_exec.mp executed
      cases executed
      intro choice inserted result executed
      obtain ⟨-, executed⟩ := System.restrict_exec.mp executed
      cases executed
      exact ⟨some { task := world.spawned, transport := _, port := _, sender }, world.spawned + 1,
        congrArg (fun tunnelTasks => { world with tunnelTasks, spawned := world.spawned + 1 })
          (Function.update_idem ..), met⟩

/-- A call that reads, and what it answers if it is answered. -/
theorem read_outcome {query' : Query} {value : query'.Value} {post : World → Except Failure query'.Value → Prop}
    (reads : ∀ choice, query'.run choice world.portRange world.db = (world.db, choice.statement 0 (.ok value)))
    (undrawn : ∀ choice, query'.draws choice = [])
    (answered : outcomes.answers query' = true → post world (.ok value))
    (refused : outcomes.answers query' = false → ∀ text, post world (.error (.error text))) :
    (query query').Always outcomes.system post world := by
  refine query_restricted fun choice met _ => ?_
  have met := eq_of_beq met
  rw [reads, undrawn]
  simp only [Choice.statement]
  cases refuses : choice.refuses 0 with
  | none =>
      rw [refuses] at met
      exact answered met.symm
  | some failure =>
      rw [refuses] at met
      obtain ⟨text, rfl⟩ := refuses_error refuses
      exact refused met.symm text

/-- A call that writes, and the tables it leaves if it is answered. -/
theorem write_outcome {query' : Query} {written : Database} {value : query'.Value}
    {post : World → Except Failure query'.Value → Prop}
    (writes : ∀ choice, query'.run choice world.portRange world.db =
      world.db.write (choice.statement 0 (.ok written)) value)
    (undrawn : ∀ choice, query'.draws choice = [])
    (answered : outcomes.answers query' = true → post { world with db := written } (.ok value))
    (refused : outcomes.answers query' = false → ∀ text, post world (.error (.error text))) :
    (query query').Always outcomes.system post world := by
  refine query_restricted fun choice met _ => ?_
  have met := eq_of_beq met
  rw [writes, undrawn]
  simp only [Choice.statement]
  cases refuses : choice.refuses 0 with
  | none =>
      rw [refuses] at met
      exact answered met.symm
  | some failure =>
      rw [refuses] at met
      obtain ⟨text, rfl⟩ := refuses_error refuses
      exact refused met.symm text

/-! ## Switching a tunnel -/

/-- Nothing was announced by `StartTunnel`. -/
def Unannounced (before after : World) : Prop :=
  ∀ sender tunnel new, after.sent sender = before.sent sender ++ new → .startTunnel tunnel ∉ new

omit [Externals] in
theorem Unannounced.of_same {before after : World} (same : after.sent = before.sent) : Unannounced before after := by
  intro sender tunnel new sent told
  have none : new = [] := by simpa [same] using sent
  rw [none] at told
  contradiction

omit [Externals] in
theorem Unannounced.of_other {before after : World} {channel : Channel} {message : RelayMessage}
    (told : after.sent = Function.update before.sent channel (before.sent channel ++ [message]))
    (other : ∀ tunnel, message ≠ .startTunnel tunnel) : Unannounced before after := by
  intro sender tunnel new sent among
  rw [told] at sent
  by_cases here : sender = channel
  · subst here
    rw [Function.update_self, List.append_cancel_left_eq] at sent
    rw [← sent] at among
    exact other tunnel (List.mem_singleton.mp among).symm
  · rw [Function.update_of_ne here, List.self_eq_append_right] at sent
    rw [sent] at among
    contradiction

/-- Nothing was announced, and no listener is owed. -/
theorem Reported.quiet {before after : World} {job : Job} {reply : Reply} (silent : Unannounced before after)
    (owes : reply.isSuccess = true → ∀ row ∈ after.db.tunnels, requested job reply = some row.id →
      row.enabled = true → connected before row.agentId = true → ∀ tunnelId, parseUuid row.id = some tunnelId →
        (after.tunnelTasks tunnelId).isSome = true) : Reported before job after reply := by
  constructor
  · intro succeeds row listed its enabled tunnelId agentId parsed owned registered
    exact owes succeeds row listed its enabled (by simp [connected, owned, registered]) tunnelId parsed
  · intro sender tunnel new sent told
    exact absurd told (silent sender tunnel new sent)

theorem Reported.failed {before : World} {job : Job} {reply : Reply} (fails : reply.isSuccess = false) :
    Reported before job before reply :=
  .quiet (.of_same rfl) fun succeeds => absurd (succeeds.symm.trans fails) (by simp)

/-- The only message was the announcement of one tunnel. -/
theorem Reported.announced_iff {before after : World} {job : Job} {reply : Reply} {channel : Channel}
    {config : TunnelConfig}
    (told : after.sent = Function.update before.sent channel (before.sent channel ++ [.startTunnel config]))
    (its : ∀ row ∈ after.db.tunnels, requested job reply = some row.id → parseUuid row.id = some config.id) :
    Reported before job after reply ↔ (after.tunnelTasks config.id).isSome = true := by
  constructor
  · intro reported
    exact reported.bound channel config [.startTunnel config] (by rw [told, Function.update_self])
      (List.mem_singleton.mpr rfl)
  · intro runs
    constructor
    · intro succeeds row listed requests enabled tunnelId agentId parsed owned registered
      rw [its row listed requests, Option.some.injEq] at parsed
      exact parsed ▸ runs
    · intro sender tunnel new sent among
      rw [told] at sent
      by_cases here : sender = channel
      · subst here
        rw [Function.update_self, List.append_cancel_left_eq] at sent
        rw [← sent] at among
        cases List.mem_singleton.mp among
        exact runs
      · rw [Function.update_of_ne here, List.self_eq_append_right] at sent
        rw [sent] at among
        contradiction

/-- What starting a tunnel and announcing it leaves behind, if there is a channel. -/
structure AnnouncedAs (outcomes : Outcomes) (before : World) (sender : Option Channel) (config : TunnelConfig)
    (after : World) : Prop where
  tables : after.db = before.db
  absent : sender = none → after.sent = before.sent
  present : ∀ channel, sender = some channel →
    after.sent = Function.update before.sent channel (before.sent channel ++ [.startTunnel config]) ∧
    (after.tunnelTasks config.id).isSome = outcomes.opens (transportOf config.protocol) config.publicPort

theorem startIfServed_outcome {config : TunnelConfig} {sender : Option Channel} :
    (ifSome (fun sender => do
      let _ ← startTunnelListener config sender
      access (.send sender (.startTunnel config))) sender).Always outcomes.system
        (fun after _ => AnnouncedAs outcomes world sender config after) world := by
  cases sender with
  | none => exact ⟨rfl, fun _ => rfl, fun _ present => by contradiction⟩
  | some channel =>
      refine always_bind.mpr (startTunnelListener_outcome.mono fun after _ started => ?_)
      obtain ⟨task, spawned, rfl, opened⟩ := started
      intro choice told result executed
      obtain ⟨-, executed⟩ := System.restrict_exec.mp executed
      cases executed
      refine ⟨rfl, fun absent => by contradiction, fun other same => ?_⟩
      obtain rfl := Option.some.inj same
      have here : Function.update world.tunnelTasks config.id task config.id = task := Function.update_self ..
      exact ⟨rfl, (congrArg Option.isSome here).trans opened⟩

/-- What switching a tunnel leaves behind: the listener as the socket allowed,
and one message to the agent, if it is connected. -/
structure SwitchedAs (outcomes : Outcomes) (before : World) (tunnelId agentId : Uuid) (tunnel : TunnelRecord)
    (newEnabled : Bool) (after : World) : Prop where
  tables : after.db = before.db
  absent : before.agentSenders agentId = none → after.sent = before.sent
  on : newEnabled = true → ∀ channel, before.agentSenders agentId = some channel →
    after.sent = Function.update before.sent channel (before.sent channel ++
      [.startTunnel { tunnelConfig tunnelId agentId tunnel with enabled := true }]) ∧
    (after.tunnelTasks tunnelId).isSome = outcomes.opens (transportOf tunnel.protocol) tunnel.publicPort
  off : newEnabled = false → ∀ channel, before.agentSenders agentId = some channel →
    after.sent = Function.update before.sent channel (before.sent channel ++ [.stopTunnel tunnelId]) ∧
    after.tunnelTasks tunnelId = none

theorem switchTunnel_outcome {tunnelId agentId : Uuid} {tunnel : TunnelRecord} {newEnabled : Bool} :
    (switchTunnel tunnelId agentId tunnel newEnabled).Always outcomes.system
      (fun after _ => SwitchedAs outcomes world tunnelId agentId tunnel newEnabled after) world := by
  refine always_guarded.mpr ?_
  intro choice read sender executed
  obtain ⟨-, executed⟩ := System.restrict_exec.mp executed
  cases executed
  cases newEnabled with
  | true =>
      refine always_guarded.mpr ?_
      intro choice reserved result executed
      obtain ⟨-, executed⟩ := System.restrict_exec.mp executed
      cases executed
      refine Always.mono startIfServed_outcome fun after _ announced => ?_
      exact ⟨announced.tables, announced.absent, fun _ => announced.present, by simp⟩
  | false =>
      intro choice stopped result executed
      obtain ⟨-, executed⟩ := System.restrict_exec.mp executed
      cases executed
      intro choice released result executed
      obtain ⟨-, executed⟩ := System.restrict_exec.mp executed
      cases executed
      cases registered : world.agentSenders agentId with
      | none =>
          refine ⟨rfl, fun _ => rfl, by simp, fun _ channel known => ?_⟩
          rw [registered] at known
          contradiction
      | some channel =>
          intro choice told result executed
          obtain ⟨-, executed⟩ := System.restrict_exec.mp executed
          cases executed
          refine ⟨rfl, by simp [registered], by simp, fun _ other known => ?_⟩
          obtain rfl := Option.some.inj (registered.symm.trans known)
          exact ⟨rfl, Function.update_self ..⟩

/-- A toggle reports a failed bind if nothing is started by it, or the socket opens. -/
theorem SwitchedAs.reported_iff {db : Database} {drawn : List Uuid} {tunnel : TunnelRecord} {tunnelId agentId : Uuid}
    {after : World} (switched : SwitchedAs outcomes { world with db, drawn } tunnelId agentId tunnel
      (!tunnel.enabled) after)
    (parsed : parseUuid tunnel.id = some tunnelId) (attached : parseUuid tunnel.agentId = some agentId)
    (found : world.db.tunnels.find? (·.id == tunnel.id) = some tunnel)
    (answered : outcomes.answers (.getTunnelById tunnel.id) = true)
    (there : ∃ row ∈ db.tunnels, row.id = tunnel.id)
    (rows : ∀ row ∈ db.tunnels, row.id = tunnel.id → row.agentId = tunnel.agentId ∧
      (tunnel.enabled = true → row.enabled = !outcomes.answers (.setTunnelEnabled tunnel.id false))) :
    Reported world (.toggleTunnel tunnel.id) after (.status .ok) ↔
      reports outcomes world (.toggleTunnel tunnel.id) = true := by
  have tables : after.db = db := switched.tables
  have listed {row : TunnelRecord} (member : row ∈ after.db.tunnels)
      (its : requested (.toggleTunnel tunnel.id) (.status .ok) = some row.id) :
      row ∈ db.tunnels ∧ row.id = tunnel.id :=
    ⟨tables ▸ member, (Option.some.inj its).symm⟩
  cases registered : world.agentSenders agentId with
  | none =>
      have apart : connected world tunnel.agentId = false := by simp [connected, attached, registered]
      refine iff_of_true (.quiet (.of_same (switched.absent registered)) ?_) (by simp [reports, found, apart])
      intro _ row member its _ reached
      obtain ⟨among, same⟩ := listed member its
      rw [(rows row among same).1, apart] at reached
      contradiction
  | some channel =>
      have near : connected world tunnel.agentId = true := by simp [connected, attached, registered]
      cases flag : tunnel.enabled with
      | true =>
          obtain ⟨told, stopped⟩ := switched.off (by simp [flag]) channel registered
          have condition : reports outcomes world (.toggleTunnel tunnel.id) =
              outcomes.answers (.setTunnelEnabled tunnel.id false) := by
            simp [reports, found, answered, near, flag]
          rw [condition]
          constructor
          · intro reported
            obtain ⟨row, member, same⟩ := there
            obtain ⟨alike, switch⟩ := rows row member same
            by_contra unanswered
            have runs := reported.served rfl row (tables ▸ member) (by simp [requested, same])
              (by simpa [unanswered] using switch flag) tunnelId agentId (by rw [same, parsed])
              (by rw [alike, attached]) (by rw [registered]; rfl)
            rw [stopped] at runs
            contradiction
          · intro written
            refine .quiet (.of_other told (by simp)) fun _ row member its enabled => ?_
            obtain ⟨among, same⟩ := listed member its
            rw [(rows row among same).2 flag, written] at enabled
            contradiction
      | false =>
          obtain ⟨told, started⟩ := switched.on (by simp [flag]) channel registered
          rw [@Reported.announced_iff _ world _ _ _ _ _ told fun row member its => by
            rw [(listed member its).2, parsed]
            rfl]
          simp [reports, found, answered, near, flag, tunnelConfig, started]

theorem toggleTunnel_outcome {id : String} (consistent : Consistent world.db world.drawn) :
    (toggleTunnel id).Always outcomes.system (fun after reply =>
      Reported world (.toggleTunnel id) after reply ↔ reports outcomes world (.toggleTunnel id) = true) world := by
  refine always_bind.mpr (@read_outcome _ outcomes world (.getTunnelById id)
    (world.db.tunnels.find? (·.id == id)) _ (fun _ => rfl) (fun _ => rfl) (fun answered => ?_)
    (fun refused text => ?_))
  · cases found : world.db.tunnels.find? (·.id == id) with
    | none => exact iff_of_true (.failed rfl) (by simp [reports, found])
    | some tunnel =>
        obtain ⟨listed, rfl⟩ := found_own found
        obtain ⟨tunnelId, agentId, parsed, attached, _⟩ := consistent.parses listed
        have other {row : TunnelRecord} (member : row ∈ world.db.tunnels) (same : row.id = tunnel.id) :
            row = tunnel :=
          List.inj_on_of_nodup_map consistent.tunnelIds member listed same
        dsimp only
        rw [parsed, attached]
        dsimp only
        refine always_bind.mpr (@write_outcome _ outcomes world (.setTunnelEnabled tunnel.id (!tunnel.enabled))
          _ () _ (fun _ => rfl) (fun _ => rfl) (fun wrote => ?_) (fun lost text => ?_))
        · refine always_bind.mpr (switchTunnel_outcome.mono fun after _ switched => ?_)
          refine SwitchedAs.reported_iff switched parsed attached found answered ?_ ?_
          · exact ⟨_, List.mem_map.mpr ⟨tunnel, listed, rfl⟩, by split <;> rfl⟩
          · intro row member same
            obtain ⟨old, was, rfl⟩ := List.mem_map.mp member
            have named : old.id = tunnel.id := by
              split at same <;> exact same
            obtain rfl := other was named
            rw [if_pos (by simp)]
            refine ⟨rfl, fun flag => ?_⟩
            simp only [flag, Bool.not_true] at wrote ⊢
            rw [wrote, Bool.not_true]
        · refine always_bind.mpr (switchTunnel_outcome.mono fun after _ switched => ?_)
          refine SwitchedAs.reported_iff switched parsed attached found answered ⟨tunnel, listed, rfl⟩ ?_
          intro row member same
          obtain rfl := other member same
          refine ⟨rfl, fun flag => ?_⟩
          simp only [flag, Bool.not_true] at lost ⊢
          rw [lost, Bool.not_false]
  · refine iff_of_true (.failed rfl) ?_
    simp [reports, refused]

/-! ## Editing a tunnel -/

/-- The listener of a tunnel after a resynchronisation: as its socket allows if
its row is among those started, as it was if not. -/
theorem syncRows_outcome {agentId tunnelId : Uuid} {sender : Channel} {tunnel : TunnelRecord}
    (parsed : parseUuid tunnel.id = some tunnelId) (rows : List TunnelRecord)
    (alike : ∀ row ∈ rows, parseUuid row.id = some tunnelId → row = tunnel) :
    (syncRows agentId sender rows).Always outcomes.system (fun after _ => after.sent = world.sent ∧
      after.db = world.db ∧ (tunnel.enabled = true → (after.tunnelTasks tunnelId).isSome =
        if tunnel ∈ rows then outcomes.opens (transportOf tunnel.protocol) tunnel.publicPort
        else (world.tunnelTasks tunnelId).isSome)) world := by
  induction rows generalizing world with
  | nil => exact ⟨rfl, rfl, by simp⟩
  | cons row rest ih =>
      have later := fun state => @ih state fun other member => alike other (List.mem_cons_of_mem _ member)
      unfold syncRows
      cases read : parseUuid row.id with
      | none =>
          refine (later world).mono fun after _ unchanged => ⟨unchanged.1, unchanged.2.1, fun enabled => ?_⟩
          have other : tunnel ≠ row := fun same => by simp [← same, parsed] at read
          simpa [other] using unchanged.2.2 enabled
      | some started =>
          dsimp only [tunnelConfig]
          cases starts : row.enabled with
          | false =>
              refine always_bind.mpr ((later world).mono fun after _ unchanged =>
                ⟨unchanged.1, unchanged.2.1, fun enabled => ?_⟩)
              have other : tunnel ≠ row := fun same => by simp [← same, enabled] at starts
              simpa [other] using unchanged.2.2 enabled
          | true =>
              intro choice reserved result executed
              obtain ⟨-, executed⟩ := System.restrict_exec.mp executed
              cases executed
              change Always outcomes.system _ _ ((startTunnelListener _ sender).bind _)
              refine always_bind.mpr (startTunnelListener_outcome.mono fun begun _ outcome => ?_)
              obtain ⟨task, spawned, rfl, opened⟩ := outcome
              refine always_bind.mpr ((later _).mono fun after _ ended => ⟨ended.1, ended.2.1,
                fun enabled => ?_⟩)
              rw [ended.2.2 enabled]
              by_cases same : tunnel = row
              · subst same
                obtain rfl := Option.some.inj (parsed.symm.trans read)
                simp [opened]
              · have apart : tunnelId ≠ started := fun equal =>
                  same (alike row List.mem_cons_self (equal ▸ read)).symm
                have kept : Function.update world.tunnelTasks started task tunnelId = world.tunnelTasks tunnelId :=
                  Function.update_of_ne apart ..
                simp [same, kept]

theorem subdomainTaken_outcome {subdomain excludeId : Option String} :
    (subdomainTaken (cleanSubdomain subdomain) excludeId).Always outcomes.system
      (fun after taken => after = world ∧ taken = takenBy outcomes world subdomain excludeId) world := by
  unfold takenBy
  cases cleanSubdomain subdomain with
  | none => exact ⟨rfl, rfl⟩
  | some name =>
      refine always_bind.mpr (@read_outcome _ outcomes world (.isSubdomainTaken name excludeId) _ _
        (fun _ => rfl) (fun _ => rfl) (fun answered => ?_) (fun refused text => ?_))
      · exact ⟨rfl, by simp [answered]⟩
      · exact ⟨rfl, by simp [refused]⟩

/-- What a resynchronisation leaves behind for one tunnel of the agent. -/
structure ResyncedAs (outcomes : Outcomes) (before : World) (agentId tunnelId : Uuid) (tunnel : TunnelRecord)
    (after : World) : Prop where
  tables : after.db = before.db
  silent : Unannounced before after
  listens : (before.agentSenders agentId).isSome = true → tunnel.enabled = true →
    (after.tunnelTasks tunnelId).isSome =
      if outcomes.answers (.listTunnelsForAgent (uuidToString agentId)) then
        outcomes.opens (transportOf tunnel.protocol) tunnel.publicPort
      else (before.tunnelTasks tunnelId).isSome

theorem resyncAgent_outcome {agentId tunnelId : Uuid} {tunnel : TunnelRecord}
    (parsed : parseUuid tunnel.id = some tunnelId) (listed : tunnel ∈ world.db.tunnels)
    (attached : tunnel.agentId = uuidToString agentId)
    (alike : ∀ row ∈ world.db.tunnels, parseUuid row.id = some tunnelId → row = tunnel) :
    (resyncAgent agentId).Always outcomes.system
      (fun after _ => ResyncedAs outcomes world agentId tunnelId tunnel after) world := by
  refine always_guarded.mpr ?_
  intro choice read sender executed
  obtain ⟨-, executed⟩ := System.restrict_exec.mp executed
  cases executed
  cases registered : world.agentSenders agentId with
  | none => exact ⟨rfl, .of_same rfl, fun known => by simp [registered] at known⟩
  | some channel =>
      change Always outcomes.system _ _ ((query (.listTunnelsForAgent (uuidToString agentId))).bind _)
      refine always_bind.mpr (@read_outcome _ outcomes world (.listTunnelsForAgent (uuidToString agentId)) _ _
        (fun _ => rfl) (fun _ => rfl) (fun answered => ?_) (fun refused text => ?_))
      · refine always_bind.mpr ((syncRows_outcome parsed _ ?_).mono fun after configs synced => ?_)
        · intro row among
          exact alike row (List.mem_filter.mp ((List.mem_insertionSort _).mp among)).1
        · intro choice told result executed
          obtain ⟨-, executed⟩ := System.restrict_exec.mp executed
          cases executed
          have told : Function.update after.sent channel (after.sent channel ++ [.syncTunnels configs]) =
              Function.update world.sent channel (world.sent channel ++ [.syncTunnels configs]) := by
            rw [synced.1]
          refine ⟨synced.2.1, .of_other told (by simp), fun _ enabled => ?_⟩
          have among : tunnel ∈ rowsOrNone (.ok (Db.oldestFirst (world.db.tunnels.filter
              (·.agentId == uuidToString agentId)))) :=
            (List.mem_insertionSort _).mpr (List.mem_filter.mpr ⟨listed, by simp [attached]⟩)
          have runs := synced.2.2 enabled
          rw [if_pos among] at runs
          simpa [answered] using runs
      · intro choice told result executed
        obtain ⟨-, executed⟩ := System.restrict_exec.mp executed
        cases executed
        refine ⟨rfl, .of_other rfl (by simp), fun _ _ => by simp [refused]⟩

/-- An edit reports a failed bind if nothing is owed, or the listener is in place. -/
theorem ResyncedAs.reported_iff {id : String} {before after : World} {edited : TunnelRecord} {tunnelId agentId : Uuid}
    {body : UpdateTunnelRequest} (parsed : parseUuid edited.id = some tunnelId) (named : edited.id = id)
    (attached : parseUuid edited.agentId = some agentId) (listed : edited ∈ after.db.tunnels)
    (alone : ∀ row ∈ after.db.tunnels, row.id = id → row = edited) (silent : Unannounced before after)
    (registered : (before.agentSenders agentId).isSome = true) (enabled : edited.enabled = true) :
    Reported before (.updateTunnel id body) after (.status .ok) ↔ (after.tunnelTasks tunnelId).isSome = true := by
  constructor
  · intro reported
    exact reported.served rfl edited listed (by simp [requested, named]) enabled tunnelId agentId parsed attached
      registered
  · intro runs
    refine .quiet silent fun _ row member its _ _ other known => ?_
    rw [alone row member (Option.some.inj its).symm, parsed, Option.some.injEq] at known
    exact known ▸ runs

/-- The row an edit leaves in the place of another. -/
def editedBy (body : UpdateTunnelRequest) (row : TunnelRecord) : TunnelRecord :=
  { row with
    name := body.name, localPort := body.localPort, protocol := body.protocol
    subdomain := cleanSubdomain body.subdomain }

theorem updateTunnel_outcome {id : String} {body : UpdateTunnelRequest}
    (consistent : Consistent world.db world.drawn) :
    (updateTunnel id body).Always outcomes.system (fun after reply =>
      Reported world (.updateTunnel id body) after reply ↔
        reports outcomes world (.updateTunnel id body) = true) world := by
  refine always_bind.mpr (@read_outcome _ outcomes world (.getTunnelById id)
    (world.db.tunnels.find? (·.id == id)) _ (fun _ => rfl) (fun _ => rfl) (fun answered => ?_)
    (fun refused text => iff_of_true (.failed rfl) (by simp [reports, refused])))
  cases found : world.db.tunnels.find? (·.id == id) with
  | none => exact iff_of_true (.failed rfl) (by simp [reports, found])
  | some tunnel =>
      obtain ⟨listed, rfl⟩ := found_own found
      obtain ⟨tunnelId, agentId, parsed, attached, text'⟩ := consistent.parses listed
      dsimp only
      refine always_bind.mpr (subdomainTaken_outcome.mono fun after taken same => ?_)
      obtain ⟨rfl, same⟩ := same
      cases taken with
      | true => exact iff_of_true (.failed rfl) (by simp [reports, found, ← same])
      | false =>
          refine always_bind.mpr (@write_outcome _ outcomes after (.updateTunnel tunnel.id body.name body.localPort
            body.protocol (cleanSubdomain body.subdomain)) _ () _ (fun _ => rfl) (fun _ => rfl) (fun wrote => ?_)
            (fun lost text => iff_of_true (.failed rfl) (by simp [reports, found, lost])))
          rw [attached]
          let rows := after.db.tunnels.map fun row => if row.id == tunnel.id then editedBy body row else row
          have there : editedBy body tunnel ∈ rows := List.mem_map.mpr ⟨tunnel, listed, if_pos (by simp)⟩
          have alone : ∀ row ∈ rows, row.id = tunnel.id → row = editedBy body tunnel := by
            intro row member named
            obtain ⟨old, was, rfl⟩ := List.mem_map.mp member
            have same : old.id = tunnel.id := by
              split at named <;> exact named
            rw [List.inj_on_of_nodup_map consistent.tunnelIds was listed same]
            exact if_pos (by simp)
          have alike : ∀ row ∈ rows, parseUuid row.id = some tunnelId → row = editedBy body tunnel := by
            intro row member known
            refine alone row member ?_
            obtain ⟨old, was, rfl⟩ := List.mem_map.mp member
            have kept : (if old.id == tunnel.id then editedBy body old else old).id = old.id := by
              split <;> rfl
            rw [kept] at known ⊢
            rw [consistent.spelled was known, consistent.spelled listed parsed]
          refine always_bind.mpr ((@resyncAgent_outcome _ outcomes _ agentId tunnelId (editedBy body tunnel) parsed
            there text' alike).mono fun last _ resynced => ?_)
          have tables : last.db.tunnels = rows := congrArg (·.tunnels) resynced.tables
          cases registered : after.agentSenders agentId with
          | none =>
              have apart : connected after tunnel.agentId = false := by simp [connected, attached, registered]
              refine iff_of_true (.quiet resynced.silent fun _ row member its _ reached => ?_)
                (by simp [reports, found, apart])
              rw [alone row (tables ▸ member) (Option.some.inj its).symm] at reached
              exact absurd (reached.symm.trans apart) (by simp)
          | some channel =>
              have near : connected after tunnel.agentId = true := by simp [connected, attached, registered]
              cases enabled : tunnel.enabled with
              | false =>
                  refine iff_of_true (.quiet resynced.silent fun _ row member its on => ?_)
                    (by simp [reports, found, enabled])
                  rw [alone row (tables ▸ member) (Option.some.inj its).symm] at on
                  exact absurd (on.symm.trans enabled) (by simp)
              | true =>
                  have reported : Reported after (.updateTunnel tunnel.id body) last (.status .ok) ↔
                      (last.tunnelTasks tunnelId).isSome = true :=
                    @ResyncedAs.reported_iff _ tunnel.id after last (editedBy body tunnel) tunnelId agentId body parsed
                      rfl attached (tables ▸ there) (fun row member => alone row (tables ▸ member)) resynced.silent
                      (by simp [registered]) enabled
                  refine reported.trans ?_
                  rw [resynced.listens (by simp [registered]) enabled]
                  rw [text'] at near
                  simp [reports, found, answered, near, enabled, wrote, ← same, text', parsed, editedBy]

/-! ## Creating a tunnel -/

theorem insertTunnel_outcome {headers : HeaderMap} {body : CreateTunnelRequest} {uid : String} {agentId : Uuid}
    {publicPort : UInt16} (consistent : Consistent world.db world.drawn)
    (registered : ∃ user ∈ world.db.users, user.id = uid) (attached : parseUuid body.agentId = some agentId) :
    (insertTunnel uid agentId publicPort body).Always outcomes.system (fun after reply =>
      Reported world (.createTunnel headers body) after reply ↔
        (!(creates outcomes world uid publicPort body && connected world body.agentId) ||
          outcomes.opens (transportOf body.protocol) publicPort) = true) world := by
  refine always_bind.mpr (query_restricted fun choice met fresh => ?_)
  have fresh := fresh choice.id (List.mem_singleton.mpr rfl)
  have met := eq_of_beq met
  have refused {db : Database} {failure : Failure} (unwritten : creates outcomes world uid publicPort body = false) :
      Reported world (.createTunnel headers body) { world with db, drawn := choice.id :: world.drawn }
        failure.dbError ↔ (!(creates outcomes world uid publicPort body && connected world body.agentId) ||
          outcomes.opens (transportOf body.protocol) publicPort) = true := by
    refine iff_of_true (.quiet (.of_same rfl) fun succeeds => ?_) (by simp [unwritten])
    cases failure <;> simp [Failure.dbError, Failure.reply, Reply.isSuccess] at succeeds
  cases refuses : choice.refuses 0 with
  | some failure =>
      rw [refuses] at met
      simp only [Query.run, Db.createTunnel, Choice.statement, refuses, Database.write]
      exact refused (by simp [creates, ← met])
  | none =>
      rw [refuses] at met
      cases missing : agentMissing world body with
      | true =>
          obtain ⟨failure, failed⟩ :=
            @insertTunnel_refused _ world.portRange body choice world.db uid publicPort missing
          rw [failed]
          exact refused (by simp [creates, missing])
      | false =>
          have written : creates outcomes world uid publicPort body = true := by simp [creates, ← met, missing]
          simp only [Query.run, Db.createTunnel, Choice.statement, refuses]
          rw [insertTunnel_accepted consistent registered missing fresh rfl rfl rfl]
          simp only [Database.write, parseUuid_uuidToString]
          refine always_bind.mpr (always_guarded.mpr ?_)
          intro choice' read sender executed
          obtain ⟨-, executed⟩ := System.restrict_exec.mp executed
          cases executed
          refine Always.mono startIfServed_outcome fun after _ announced => ?_
          simp only [Program.pure_eq, always_done, written, Bool.true_and]
          have tables := announced.tables
          dsimp only at tables
          have rows : ∀ row ∈ after.db.tunnels, row.id = uuidToString choice.id → row.agentId = body.agentId := by
            intro row member named
            rw [tables] at member
            rcases List.mem_append.mp member with old | new
            · obtain ⟨id, drew, its⟩ := consistent.tunnelDrawn row old
              exact absurd (uuidToString_injective (its.symm.trans named) ▸ drew) fresh
            · rw [List.mem_singleton.mp new]
          cases registered : world.agentSenders agentId with
          | none =>
              have apart : connected world body.agentId = false := by simp [connected, attached, registered]
              refine iff_of_true (.quiet (.of_same (announced.absent registered)) ?_) (by simp [apart])
              intro _ row member its _ reached
              rw [rows row member (Option.some.inj its).symm, apart] at reached
              contradiction
          | some channel =>
              have near : connected world body.agentId = true := by simp [connected, attached, registered]
              obtain ⟨told, started⟩ := announced.present channel registered
              have opened : (after.tunnelTasks choice.id).isSome =
                  outcomes.opens (transportOf body.protocol) publicPort := started
              refine (@Reported.announced_iff _ world _ (.createTunnel headers body) (.tunnel _) _ _ told
                fun row member its => ?_).trans (by simp [near, tunnelConfig, opened])
              rw [(Option.some.inj its).symm]
              exact parseUuid_uuidToString _

/-- The condition on a request that gets as far as writing the row. -/
theorem reports_create {headers : HeaderMap} {body : CreateTunnelRequest} {uid : String} {user : UserRow}
    (signed : (extractToken headers).bind world.userSessions = some uid)
    (listed : world.db.users.find? (·.id == uid) = some user)
    (reserves : reservesPort world headers body = true) (answered : outcomes.answers (.getUserById uid) = true)
    (free : takenBy outcomes world body.subdomain none = false) :
    reports outcomes world (.createTunnel headers body) =
      (!(creates outcomes world uid user.dedicatedPort body && connected world body.agentId) ||
        outcomes.opens (transportOf body.protocol) user.dedicatedPort) := by
  simp [reports, signed, listed, reserves, answered, free]

omit [Externals] in
theorem answers_of_answerable {query' : Query} (answerable : Answerable outcomes.meets world query') :
    outcomes.answers query' = true := by
  obtain ⟨choice, met, unrefused⟩ := answerable
  have met := eq_of_beq met
  rw [unrefused] at met
  exact met.symm

omit [Externals] in
theorem free_of_passes {body : CreateTunnelRequest} (passes : Passes outcomes.meets world body) :
    takenBy outcomes world body.subdomain none = false := by
  rw [takenBy, Option.any_eq_false]
  intro name wanted
  obtain ⟨choice, met, free⟩ := passes name wanted
  have met := eq_of_beq met
  cases refuses : choice.refuses 0 with
  | some failure =>
      rw [refuses] at met
      simp [← met]
  | none =>
      simp only [Db.isSubdomainTaken, Choice.statement, refuses] at free
      simpa using fun _ => fun taken => free (congrArg Except.ok (decide_eq_true taken))

theorem createTunnel_reports {headers : HeaderMap} {body : CreateTunnelRequest}
    (consistent : Consistent world.db world.drawn)
    (condition : reports outcomes world (.createTunnel headers body) = true) :
    (createTunnel headers body).Always outcomes.system (fun after reply =>
      Reported world (.createTunnel headers body) after reply) world := by
  refine createTunnel_always (fun reply fails => .failed fails) ?_
  intro uid agentId user signed parsed listed high free answerable passes
  have registered : ∃ user ∈ world.db.users, user.id = uid :=
    ⟨user, List.mem_of_find?_eq_some listed, by simpa using List.find?_some listed⟩
  have reserves := reservesPort_iff.mpr ⟨uid, agentId, user, signed, parsed, listed, high, free⟩
  rw [reports_create signed listed reserves (answers_of_answerable answerable) (free_of_passes passes)] at condition
  refine Always.mono (@insertTunnel_outcome _ outcomes _ headers body uid agentId user.dedicatedPort consistent
    registered parsed) ?_
  intro after reply outcome
  have reported := outcome.mpr condition
  exact ⟨reported.served, reported.bound⟩

/-! ## Every request has a run -/

/-- Operations that may find no answer: an identifier has to be new, and a
session has to exist. -/
def mayStick : Op → Prop
  | .db (.registerUser ..) | .db (.createAgentClaim _) | .db (.createAgentForUser ..) | .db (.createTunnel ..) => True
  | .newUuid | .sessionLocals _ => True
  | _ => False

/-- The environment that decides so, and otherwise does what `calm` does. -/
def Outcomes.choice (outcomes : Outcomes) : Op → Choice
  | .db query => if outcomes.answers query then calm else refusing
  | .bind transport port => { calm with bindError := if outcomes.opens transport port then none else some "" }
  | _ => calm

theorem outcomes_move {op : Op} (free : ¬ mayStick op) :
    ∃ choice after result, outcomes.system.exec world choice op = some (after, result) := by
  have met : outcomes.meets world (outcomes.choice op) op = true := by
    cases op with
    | db query =>
        simp only [Outcomes.meets, Outcomes.choice]
        cases outcomes.answers query <;> rfl
    | bind transport port =>
        simp only [Outcomes.meets, Outcomes.choice]
        cases outcomes.opens transport port <;> rfl
    | _ => rfl
  have moves : ∃ after result, exec world (outcomes.choice op) op = some (after, result) := by
    cases op with
    | db query =>
        have undrawn : query.draws (outcomes.choice (.db query)) = [] := by
          cases query <;> first | rfl | exact absurd trivial free
        simp only [exec, undrawn]
        exact ⟨_, _, rfl⟩
    | newUuid | sessionLocals => exact absurd trivial free
    | allocatePort preferred =>
        simp only [exec]
        split <;> exact ⟨_, _, rfl⟩
    | bind transport port =>
        simp only [exec]
        split <;> exact ⟨_, _, rfl⟩
    | enqueueData connId data =>
        simp only [exec]
        split <;> exact ⟨_, _, rfl⟩
    | _ => exact ⟨_, _, rfl⟩
  obtain ⟨after, result, executed⟩ := moves
  exact ⟨_, after, result, System.restrict_exec.mpr ⟨met, executed⟩⟩

/-- What is true in no run of a program that finishes is not always true. -/
theorem finishes {program : Relay α} {post : World → α → Prop}
    (always : program.Always outcomes.system post world) (avoids : program.Avoids mayStick) :
    ∃ after value, post after value := by
  by_contra none
  refine avoids.finishes (fun op state free => @outcomes_move _ outcomes state op free) (always.mono ?_)
  exact fun after value holds => none ⟨after, value, holds⟩

theorem toggleTunnel_unstuck {id' : String} : (toggleTunnel id').Avoids mayStick := by
  refine toggleTunnel_footprint.mono fun op stuck => ?_
  unfold mayStick at stuck
  split at stuck <;> first | rfl | contradiction

theorem updateTunnel_unstuck {id' : String} {body : UpdateTunnelRequest} : (updateTunnel id' body).Avoids mayStick := by
  refine updateTunnel_footprint.mono fun op stuck => ?_
  unfold mayStick at stuck
  split at stuck <;> first | rfl | contradiction

omit [Externals] in
theorem announceTunnel_unstuck {agentId : Uuid} {config : TunnelConfig} :
    (announceTunnel agentId config).Avoids mayStick := by
  refine .guarded ((access_avoids id).bind fun _ => startIfServed_within (fun op listens => ?_) fun _ _ => id)
  cases op <;> first | exact id | contradiction

omit [Externals] in
theorem passes_of_free {body : CreateTunnelRequest} (free : takenBy outcomes world body.subdomain none = false) :
    Passes outcomes.meets world body := by
  intro name wanted
  rw [takenBy, wanted] at free
  cases answers : outcomes.answers (.isSubdomainTaken name none) with
  | false => exact ⟨refusing, by simp [Outcomes.meets, answers, Choice.refuses, refusing], by
      simp [Db.isSubdomainTaken, Choice.statement, Choice.refuses, refusing]⟩
  | true =>
      refine ⟨calm, by simp [Outcomes.meets, answers, Choice.refuses, calm], ?_⟩
      rw [isSubdomainTaken_free rfl]
      simpa [answers] using free

theorem createTunnel_reported {headers : HeaderMap} {body : CreateTunnelRequest}
    (consistent : Consistent world.db world.drawn) (fresh : ∃ id : Uuid, id ∉ world.drawn)
    (always : (createTunnel headers body).Always outcomes.system (fun after reply =>
      Reported world (.createTunnel headers body) after reply) world) :
    reports outcomes world (.createTunnel headers body) = true := by
  obtain ⟨id', unused⟩ := fresh
  -- Where a condition on the request fails, nothing is relied on.
  cases reserves : reservesPort world headers body with
  | false => simp [reports, reserves]
  | true =>
  obtain ⟨uid, agentId, user, signed, parsed, listed, high, free⟩ := reservesPort_iff.mp reserves
  cases answered : outcomes.answers (.getUserById uid) with
  | false => simp [reports, signed, answered]
  | true =>
  cases taken : takenBy outcomes world body.subdomain none with
  | true => simp [reports, taken]
  | false =>
  rw [reports_create signed listed reserves answered taken]
  cases written : creates outcomes world uid user.dedicatedPort body with
  | false => rfl
  | true =>
  have registered : ∃ user ∈ world.db.users, user.id = uid :=
    ⟨user, List.mem_of_find?_eq_some listed, by simpa using List.find?_some listed⟩
  have reserved := createTunnel_reserved always (fun _ => rfl) rfl
    ⟨calm, by simp [Outcomes.meets, answered, Choice.refuses, calm], rfl⟩ signed parsed listed high free
    (passes_of_free taken)
  have outcome := @insertTunnel_outcome _ outcomes
    { world with allocatedPorts := insert user.dedicatedPort world.allocatedPorts } headers body uid agentId
    user.dedicatedPort consistent registered parsed
  have met : outcomes.answers (.createTunnel body.agentId (some uid) body.name body.localPort body.protocol
      user.dedicatedPort (cleanSubdomain body.subdomain)) = true := (Bool.and_eq_true _ _ |>.mp written).1
  have told := @answer_of_restricted _ _ outcomes.meets _ _ (always_bind.mp (reserved.and outcome))
    { calm with id := id' } (by simp [Outcomes.meets, met, Choice.refuses, calm]) (List.nodup_singleton _)
    (by simpa [Query.draws] using unused)
  obtain ⟨after, reply, reported, decided⟩ := finishes told (by
    split
    · trivial
    · split
      · trivial
      · exact announceTunnel_unstuck.bind fun _ => trivial)
  have whole : (!(creates outcomes world uid user.dedicatedPort body && connected world body.agentId) ||
      outcomes.opens (transportOf body.protocol) user.dedicatedPort) = true :=
    decided.mp ⟨reported.served, reported.bound⟩
  rwa [written] at whole

def Job.starts : Job → Bool
  | .createTunnel .. | .toggleTunnel _ | .updateTunnel .. => true
  | _ => false

/-- From every reachable state and whatever the environment decides, a request
reports its failed binds in all its runs if and only if nothing it relies on fails. -/
theorem failed_binds_reported {config : Config relay} {job : Job} (reached : Reached anyStep portRange config)
    (fresh : ∃ id : Uuid, id ∉ config.state.drawn) (starts : job.starts = true) :
    (∀ after reply, Performs outcomes.system config.state job after reply → Reported config.state job after reply) ↔
      reports outcomes config.state job = true := by
  have consistent := Reached.consistent reached
  have whole (requests : accept config.state job = some config.state) :=
    @Performs.always_iff _ outcomes.system config.state job _ _ (Reported config.state job) requests
      (relay_lawful job) (@fun _ _ _ mode permitted => @discipline_apart _ job _ _ _ mode permitted)
      (fun answers => answers.1)
  cases job with
  | createTunnel headers body =>
      rw [whole rfl]
      exact ⟨createTunnel_reported consistent fresh, createTunnel_reports consistent⟩
  | toggleTunnel id =>
      rw [whole rfl]
      constructor
      · intro always
        obtain ⟨after, reply, reported, outcome⟩ := finishes
          (always.and (toggleTunnel_outcome consistent)) toggleTunnel_unstuck
        exact outcome.mp reported
      · intro condition
        exact (toggleTunnel_outcome consistent).mono fun after reply outcome => outcome.mpr condition
  | updateTunnel id body =>
      rw [whole rfl]
      constructor
      · intro always
        obtain ⟨after, reply, reported, outcome⟩ := finishes
          (always.and (updateTunnel_outcome consistent)) updateTunnel_unstuck
        exact outcome.mp reported
      · intro condition
        exact (updateTunnel_outcome consistent).mono fun after reply outcome => outcome.mpr condition
  | _ => contradiction

end Outcome

/-- Every socket opens and every call is answered. -/
def allWell : Outcomes where
  answers := fun _ => true
  opens := fun _ _ => true

/-- Alice's agent is connected. -/
def aliceConnected : List (Job × Choice) :=
  [(.register { username := "alice", password := "secret" }, answer 1 0),
    (.generateAgentToken (signedIn 1), answer 2 0),
    (.connect 0, answer 3 0),
    (.frame 0 (.message (.auth (Db.agentToken (answer 2 0)) "laptop")), answer 4 0)]

/-- Where every socket opens, switching the tunnel on again reports nothing wrong. -/
theorem failed_binds_reported_toggle :
    ∃ world : World, world.db.tunnels.any (·.enabled == false) = true ∧ ∀ after reply,
      Performs allWell.system world (.toggleTunnel (uuidToString 10)) after reply →
        Reported world (.toggleTunnel (uuidToString 10)) after reply := by
  have passed : (relay.performAll (aliceConnected ++
      [(.createTunnel (signedIn 1) (webTunnel 4), answer 5 0),
        (.toggleTunnel (uuidToString 10), answer 6 0)]) newRelay).any (fun world : World =>
          world.db.tunnels.any (·.enabled == false) && decide ((0 : Uuid) ∉ world.drawn) &&
            reports allWell world (.toggleTunnel (uuidToString 10))) = true := by
    decide +kernel
  obtain ⟨config, reached, _, tested⟩ := newRelay_check passed
  simp only [Bool.and_eq_true, decide_eq_true_eq] at tested
  exact ⟨config.state, tested.1.1, (failed_binds_reported reached ⟨0, tested.1.2⟩ rfl).mpr tested.2⟩

/-- The port of Alice's new tunnel is in use: the request is answered with
success and the tunnel is announced, but nothing listens. -/
theorem failed_bind_unreported :
    ¬ ∀ (config : Config relay) (job : Job) (after : World) (reply : Reply),
      Reached anyStep (10000, 60000) config → job.starts = true → Performs relay config.state job after reply →
        Reported config.state job after reply := by
  have passed : (relay.performAll aliceConnected newRelay).any (fun world : World =>
      ((createTunnel (signedIn 1) (webTunnel 4)).evaluate relay
        { answer 5 0 with bindError := some "Address already in use" } [] world).any fun ended =>
          decide (ended.1 = [] ∧ ended.2.2.isSuccess = true ∧ (∃ row ∈ ended.2.1.db.tunnels,
            requested (.createTunnel (signedIn 1) (webTunnel 4)) ended.2.2 = some row.id ∧ row.enabled = true ∧
              parseUuid row.id = some 10 ∧ parseUuid row.agentId = some 4) ∧
            (world.agentSenders 4).isSome = true ∧ (ended.2.1.tunnelTasks 10).isSome = false)) = true := by
    decide +kernel
  obtain ⟨config, reached, _, tested⟩ := newRelay_check passed
  obtain ⟨⟨left, after, reply⟩, evaluated, tested⟩ := (Option.any_eq_true _ _).mp tested
  obtain ⟨rfl, succeeds, ⟨row, listed, its, enabled, named, owned⟩, registered, idle⟩ := of_decide_eq_true tested
  intro always
  have reported := always config (.createTunnel (signedIn 1) (webTunnel 4)) after reply reached rfl
    ⟨config.state, rfl, Program.evaluate_executes evaluated⟩
  exact Bool.noConfusion
    (idle.symm.trans (reported.served succeeds row listed its enabled 10 4 named owned registered))

end TunnelitRelay
