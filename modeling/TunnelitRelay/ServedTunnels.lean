import TunnelitRelay.Footprints
import TunnelitRelay.LeakedPorts

namespace TunnelitRelay

open Concurrent Program

/-! # Enabled tunnels and their listeners

A listener is started where a tunnel is opened, switched on or synchronised.
One that is stopped because its owner is banned is not started again when the
ban is lifted.
-/

section Runs

variable [Externals] {world after : World} {portRange : UInt16 × UInt16} {spared : TunnelRecord → Prop}

/-- The channel of the agent the tunnel belongs to. -/
def World.channelOf (world : World) (row : TunnelRecord) : Option Channel :=
  (parseUuid row.agentId).bind world.agentSenders

def ownerBanned (db : Database) (row : TunnelRecord) : Bool :=
  db.users.any fun user => row.userId == some user.id && user.isBanned

/-- The tunnel ought to have a listener. -/
def World.awaits (world : World) (row : TunnelRecord) : Bool :=
  row.enabled && !ownerBanned world.db row && (world.channelOf row).isSome

/-- The listener of the tunnel is in the table, and it was started on the channel
its agent has; it runs until it is stopped or the channel is closed. -/
def World.listens (world : World) (row : TunnelRecord) : Bool :=
  ((parseUuid row.id).bind world.tunnelTasks).any fun handle => world.channelOf row == some handle.sender

/-- Every tunnel that ought to have a listener has one, but for those spared. -/
def World.ServesBut (spared : TunnelRecord → Prop) (world : World) : Prop :=
  ∀ row ∈ world.db.tunnels, world.awaits row = true → ¬ spared row → world.listens row = true

abbrev World.Serves (world : World) : Prop := world.ServesBut fun _ => False

/-- Ports can be bound, the calls whose failure the handlers ignore fail only
where nothing depends on them, and a ban is lifted only when the listeners of
the user run. -/
def keepsServed (world : World) (choice : Choice) : Op → Bool
  | .bind .. => choice.bindError.isNone
  | .db (.toggleUserBan id true) => (choice.refuses 0).isNone || world.db.tunnels.all fun row =>
      row.userId != some id || !world.awaits row
  | .db (.toggleUserBan id false) => (choice.refuses 0).isSome || world.db.tunnels.all fun row =>
      row.userId != some id || !row.enabled || (world.channelOf row).isNone || world.listens row
  | .db (.setTunnelEnabled id false) | .db (.deleteTunnel id) => (choice.refuses 0).isNone ||
      world.db.tunnels.all fun row => row.id != id || !world.awaits row
  | .db (.listTunnelsForAgent id) => (choice.refuses 0).isNone || world.db.tunnels.all fun row =>
      row.agentId != id || !world.awaits row || world.listens row
  | _ => true

/-- The relay in which no listener is lost. -/
abbrev diligent : System relaySignature := relay.restrict keepsServed

/-- The relay in which every bind succeeds. -/
abbrev binding : System relaySignature := relay.restrict fun _ choice op =>
  match op with
  | .bind .. => choice.bindError.isNone
  | _ => true

/-! ## What keeps the listeners -/

theorem World.ServesBut.all (serves : world.ServesBut spared)
    (idle : ∀ row ∈ world.db.tunnels, spared row → world.awaits row = false) : world.Serves := by
  intro row listed awaits _
  refine serves row listed awaits fun spares => ?_
  rw [idle row listed spares] at awaits
  contradiction

/-- Tunnels that are in the table as before, on the same channel, are served as before. -/
theorem World.ServesBut.same {other : World} (serves : world.ServesBut spared)
    (kept : ∀ row ∈ other.db.tunnels, other.awaits row = true → ¬ spared row → ∃ old ∈ world.db.tunnels,
      world.awaits old = true ∧ ¬ spared old ∧ old.id = row.id ∧ world.channelOf old = other.channelOf row)
    (tasks : ∀ row ∈ other.db.tunnels, ¬ spared row → ∀ tunnelId, parseUuid row.id = some tunnelId →
      other.tunnelTasks tunnelId = world.tunnelTasks tunnelId) : other.ServesBut spared := by
  intro row listed awaits kept'
  obtain ⟨old, there, waits, counted, named, channel⟩ := kept row listed awaits kept'
  have listens := serves old there waits counted
  unfold World.listens at listens ⊢
  rw [named, channel] at listens
  cases parsed : parseUuid row.id with
  | none =>
      rw [parsed] at listens
      contradiction
  | some tunnelId =>
      rw [parsed, Option.bind_some] at listens
      rw [Option.bind_some, tasks row listed kept' tunnelId parsed]
      exact listens

/-- A call that leaves enabled tunnels, their agents and bans as they are. -/
theorem World.ServesBut.run {choice : Choice} {query : Query} (serves : world.ServesBut spared) (drawn : List Uuid)
    (tables : ∀ db, Change choice world.db query db → ∀ row ∈ db.tunnels, row.enabled = true →
      ownerBanned db row = false → ¬ spared row → ∃ old ∈ world.db.tunnels, old.enabled = true ∧
        ownerBanned world.db old = false ∧ ¬ spared old ∧ old.id = row.id ∧ old.agentId = row.agentId) :
    World.ServesBut spared { world with db := (query.run choice world.portRange world.db).1, drawn } := by
  refine serves.same ?_ fun _ _ _ _ _ => rfl
  intro row listed awaits counted
  simp only [World.awaits, Bool.and_eq_true, Bool.not_eq_true'] at awaits
  obtain ⟨old, there, enabled, free, kept, named, owner⟩ :=
    tables _ (Query.run_change query) row listed awaits.1.1 awaits.1.2 counted
  have channel : world.channelOf old = world.channelOf row := by rw [World.channelOf, owner]; rfl
  have connected : (world.channelOf row).isSome = true := awaits.2
  refine ⟨old, there, ?_, kept, named, channel⟩
  simp only [World.awaits, Bool.and_eq_true, Bool.not_eq_true']
  exact ⟨⟨enabled, free⟩, channel ▸ connected⟩

/-- The messages that make tunnels known. -/
def RelayMessage.announces : RelayMessage → Bool
  | .syncTunnels _ | .startTunnel _ => true
  | _ => false

/-- The operations that start or stop listeners, connect an agent, open or switch
a tunnel, or make one known. -/
def stirs : Op → Prop
  | .removeTunnelTask _ | .spawnProxy .. | .insertTunnelTask .. | .insertAgentSender .. => True
  | .db (.createTunnel ..) | .db (.setTunnelEnabled ..) => True
  | .send _ message => message.announces = true
  | _ => False

omit [Externals] in
theorem ownerBanned_eq {db : Database} {row : TunnelRecord} : ownerBanned db row = true ↔
    ∃ user ∈ db.users, row.userId = some user.id ∧ user.isBanned = true := by
  simp [ownerBanned]

omit [Externals] in
/-- Lifting a ban leaves the other users as they were. -/
theorem ownerBanned_lifted {db : Database} {row : TunnelRecord} {id : String} {banned : Bool}
    (other : row.userId ≠ some id) : ownerBanned { db with
      users := db.users.map fun user => if user.id == id then { user with isBanned := banned } else user } row =
        ownerBanned db row := by
  rw [Bool.eq_iff_iff, ownerBanned_eq, ownerBanned_eq]
  simp only [List.mem_map]
  constructor
  · rintro ⟨_, ⟨user, listed, rfl⟩, owns, isBanned⟩
    by_cases hit : user.id = id
    · simp only [hit, beq_self_eq_true, if_true] at owns
      exact absurd owns other
    · simp only [beq_iff_eq, hit, if_false] at owns isBanned
      exact ⟨user, listed, owns, isBanned⟩
  · rintro ⟨user, listed, owns, isBanned⟩
    refine ⟨_, ⟨user, listed, rfl⟩, ?_⟩
    have different : ¬ (user.id == id) = true := fun same => other (eq_of_beq same ▸ owns)
    rw [if_neg different]
    exact ⟨owns, isBanned⟩

omit [Externals] in
theorem ownerBanned_set {db : Database} {row : TunnelRecord} {id : String} (was : ownerBanned db row = true) :
    ownerBanned { db with
      users := db.users.map fun user => if user.id == id then { user with isBanned := true } else user } row = true := by
  obtain ⟨user, listed, owns, isBanned⟩ := ownerBanned_eq.mp was
  refine ownerBanned_eq.mpr ⟨_, List.mem_map_of_mem listed, ?_⟩
  split
  · exact ⟨owns, rfl⟩
  · exact ⟨owns, isBanned⟩

/-- A call that lifts no ban, opens no tunnel and switches none. -/
theorem World.ServesBut.calm {choice : Choice} {query : Query} (serves : world.ServesBut spared)
    (drawn : List Uuid) (blind : ∀ row other : TunnelRecord, row.id = other.id → row.agentId = other.agentId →
      row.userId = other.userId → spared row → spared other)
    (still : ¬ stirs (.db query)) (lifts : ∀ id, query ≠ .toggleUserBan id false) :
    World.ServesBut spared { world with db := (query.run choice world.portRange world.db).1, drawn } := by
  refine serves.run drawn fun db change row listed enabled free kept => ?_
  have own : ∀ old ∈ world.db.tunnels, old = row → ownerBanned world.db row = false →
      ∃ old ∈ world.db.tunnels, old.enabled = true ∧
        ownerBanned world.db old = false ∧ ¬ spared old ∧ old.id = row.id ∧ old.agentId = row.agentId := by
    rintro old there rfl free
    exact ⟨old, there, enabled, free, kept, rfl, rfl⟩
  cases change with
  | opened | switched => exact absurd trivial still
  | @banned id isBanned =>
      cases isBanned with
      | false => exact absurd rfl (lifts id)
      | true => exact own row listed rfl (Bool.eq_false_iff.mpr fun was => by
          rw [ownerBanned_set was] at free
          contradiction)
  | registered named unique account =>
      refine own row listed rfl (Bool.eq_false_iff.mpr fun was => ?_)
      obtain ⟨user, known, owns⟩ := ownerBanned_eq.mp was
      rw [ownerBanned_eq.mpr ⟨user, List.mem_append_left _ known, owns⟩] at free
      contradiction
  | detached | closed => exact own row (List.mem_of_mem_filter listed) rfl free
  | deleted => exact own row (List.mem_of_mem_filter listed) rfl free
  | edited =>
      obtain ⟨old, there, rfl⟩ := List.mem_map.mp listed
      refine ⟨old, there, ?_, ?_, fun spares => kept (blind old _ ?_ ?_ ?_ spares), ?_, ?_⟩
      · split at enabled <;> exact enabled
      · split at free <;> exact free
      all_goals split <;> rfl
  | _ => exact own row listed rfl free

omit [Externals] in
/-- A call with one writing statement is refused, or it writes. -/
theorem written_tables {choice : Choice} {db after : Database} :
    (choice.refuses 0).isSome = true ∧ (db.write (choice.statement 0 (.ok after)) ()).1 = db ∨
      choice.refuses 0 = none ∧ (db.write (choice.statement 0 (.ok after)) ()).1 = after := by
  cases refused : choice.refuses 0 with
  | some failure => exact .inl ⟨rfl, by simp [Choice.statement, refused, Database.write]⟩
  | none => exact .inr ⟨rfl, by simp [Choice.statement, refused, Database.write]⟩

omit [Externals] in
theorem toggleUserBan_tables {choice : Choice} {db : Database} {id : String} {banned : Bool} :
    (choice.refuses 0).isSome = true ∧ (Db.toggleUserBan choice db id banned).1 = db ∨
      choice.refuses 0 = none ∧ (Db.toggleUserBan choice db id banned).1 = { db with
        users := db.users.map fun user => if user.id == id then { user with isBanned := banned } else user } :=
  written_tables

/-- A ban is lifted where the listeners of the user run. -/
theorem World.Serves.lifted {choice : Choice} {id : String} (serves : world.Serves) (drawn : List Uuid)
    (meets : keepsServed world choice (.db (.toggleUserBan id false)) = true) :
    World.Serves { world with db := (Db.toggleUserBan choice world.db id false).1, drawn } := by
  rcases @toggleUserBan_tables choice world.db id false with ⟨_, tables⟩ | ⟨accepted, tables⟩
  · rw [tables]
    exact serves
  · rw [tables]
    intro row listed awaits _
    simp only [keepsServed, accepted, Option.isSome_none, Bool.false_or] at meets
    by_cases owns : row.userId = some id
    · have runs := List.all_eq_true.mp meets row listed
      simp only [World.awaits, Bool.and_eq_true] at awaits
      have connected : (world.channelOf row).isNone = false := Option.isNone_eq_false_iff.mpr awaits.2
      rw [owns, awaits.1.1, connected] at runs
      have listens : world.listens row = true := by simpa using runs
      exact listens
    · refine serves row listed ?_ fun none => none
      simp only [World.awaits, ownerBanned_lifted owns] at awaits
      exact awaits

/-- An operation that keeps the condition and stirs nothing. -/
theorem World.Serves.exec {choice : Choice} {op : Op} {result : op.Result} (serves : world.Serves)
    (meets : keepsServed world choice op = true) (calm : ¬ stirs op)
    (executed : exec world choice op = some (after, result)) : after.Serves := by
  cases op with
  | db query =>
      obtain ⟨rfl, _, _⟩ := exec_db executed
      by_cases lifts : ∃ id, query = .toggleUserBan id false
      · obtain ⟨id, rfl⟩ := lifts
        exact serves.lifted _ meets
      · exact World.ServesBut.calm serves _ (fun _ _ _ _ _ => id) calm fun id same => lifts ⟨id, same⟩
  | removeAgentSender agentId =>
      cases executed
      refine World.ServesBut.same serves ?_ fun _ _ _ _ _ => rfl
      intro row listed awaits _
      simp only [World.awaits, Bool.and_eq_true] at awaits
      have channel : World.channelOf { world with
          agentSenders := Function.update world.agentSenders agentId none } row = world.channelOf row := by
        have connected := awaits.2
        unfold World.channelOf at connected ⊢
        cases owner : parseUuid row.agentId with
        | none => rfl
        | some other =>
            rw [owner, Option.bind_some] at connected
            have apart : other ≠ agentId := by
              rintro rfl
              simp at connected
            exact Function.update_of_ne apart ..
      refine ⟨row, listed, ?_, id, rfl, channel.symm⟩
      simp only [World.awaits, Bool.and_eq_true]
      exact ⟨awaits.1, channel ▸ awaits.2⟩
  | removeTunnelTask | spawnProxy | insertTunnelTask | insertAgentSender => exact absurd trivial calm
  | allocatePort preferred =>
      simp only [TunnelitRelay.exec] at executed
      split at executed <;> cases executed <;> exact serves
  | bind transport port =>
      simp only [TunnelitRelay.exec] at executed
      split at executed <;> cases executed <;> exact serves
  | newUuid | enqueueData =>
      simp only [TunnelitRelay.exec] at executed
      split_ifs at executed <;> cases executed <;> exact serves
  | sessionLocals session =>
      simp only [TunnelitRelay.exec] at executed
      split at executed
      · cases executed
        exact serves
      · contradiction
  | _ =>
      cases executed
      exact serves

/-! ## Jobs that leave the listeners alone -/

def Job.calm : Job → Bool
  | .adminBanUser .. | .claimAgent .. | .createTunnel .. | .updateTunnel .. | .toggleTunnel _ | .deleteTunnel _
  | .frame _ .hangup | .frame _ (.message (.auth ..)) => false
  | _ => true

omit [Externals] in
theorem query_avoids {call : Query} (calm : ¬ stirs (.db call)) : (query call).Avoids stirs :=
  .guarded (access_avoids calm)

omit [Externals] in
theorem findsAgent_calm (op : Op) (finds : op.findsAgent = true) : ¬ stirs op := by
  intro stirred
  unfold stirs at stirred
  split at stirred <;> contradiction

omit [Externals] in
theorem requestClaim_avoids {session : SessionId} {hostname : String} :
    (requestClaim session hostname).Avoids stirs := by
  refine .guarded (.bind (access_avoids (by simp [stirs])) fun drawn => ?_)
  match drawn with
  | .error _ => exact access_avoids (by simp [stirs, RelayMessage.announces])
  | .ok (record, code) =>
      refine .bind (access_avoids (by simp [stirs])) fun _ => ?_
      refine .bind (.guarded (access_avoids (by simp [stirs]))) fun _ => ?_
      exact access_avoids (by simp [stirs, RelayMessage.announces])

theorem serve_calm {job : Job} (calm : job.calm = true) : (serve job).Avoids stirs := by
  cases job with
  | register body =>
      simp only [serve, register]
      split
      · trivial
      · split
        · trivial
        · refine .bind (query_avoids (by simp [stirs])) fun user => ?_
          cases user with
          | ok user => exact issueSession_within (by simp [stirs]) (by simp [stirs])
          | error => trivial
  | login body =>
      refine .bind (query_avoids (by simp [stirs])) fun found => ?_
      rcases found with failure | _ | user
      · trivial
      · trivial
      · simp only []
        split
        · trivial
        · exact issueSession_within (by simp [stirs]) (by simp [stirs])
  | logout headers =>
      exact .bind (.ifSome fun token => .guarded (access_avoids (by simp [stirs]))) fun _ => trivial
  | adminLogin password =>
      simp only [serve, adminLogin]
      split
      · exact .bind (access_avoids (by simp [stirs])) fun _ =>
          .bind (.guarded (access_avoids (by simp [stirs]))) fun _ => trivial
      · trivial
  | adminUnbanUser id headers =>
      refine .bind (isAdmin_within (by simp [stirs])) fun admin => ?_
      cases admin with
      | false => trivial
      | true => exact .bind (query_avoids (by simp [stirs])) fun _ => trivial
  | generateAgentToken headers =>
      refine .bind (getCurrentUserId_within (by simp [stirs])) fun user => ?_
      cases user with
      | none => trivial
      | some userId =>
          refine .guarded (.bind (access_avoids (by simp [stirs])) fun agents => ?_)
          cases agents with
          | error => trivial
          | ok agents =>
              refine .bind (firstOrNewAgent_within findsAgent_calm) fun found => ?_
              cases found <;> trivial
  | deleteAgent id =>
      refine .bind (.ifSome fun agentId => .guarded ?_) fun _ => .bind (query_avoids (by simp [stirs])) fun _ => trivial
      exact .bind (access_avoids (by simp [stirs])) fun sender => .ifSome fun channel =>
        access_avoids (by simp [stirs, RelayMessage.announces])
  | getLauncherSh query headers => exact .bind (resolveTokenForScript_within findsAgent_calm) fun _ => trivial
  | getLauncherBat query headers => exact .bind (resolveTokenForScript_within findsAgent_calm) fun _ => trivial
  | connect session => trivial
  | frame session frame =>
      refine .bind ?_ fun _ => trivial
      cases frame with
      | message message =>
          refine .bind ?_ fun _ => access_avoids (by simp [stirs])
          cases message with
          | auth token hostname => contradiction
          | requestClaim hostname => exact requestClaim_avoids
          | data connId payload =>
              simp only [handleMessage]
              split
              · exact .guarded (access_avoids (by simp [stirs]))
              · trivial
          | closeConnection connId => exact .guarded (access_avoids (by simp [stirs]))
          | ping => exact access_avoids (by simp [stirs, RelayMessage.announces])
      | ignored => exact access_avoids (by simp [stirs])
      | hangup => contradiction
  | _ => contradiction

theorem World.Serves.calmly {job : Job} (serves : world.Serves) (calm : job.calm = true) :
    (serve job).Always diligent (fun after _ => World.Serves after) world :=
  Avoids.always (serve_calm calm) (fun still kept executed =>
    let ⟨meets, executed⟩ := System.restrict_exec.mp executed
    World.Serves.exec kept meets still executed) serves

/-! ## Starting listeners -/

/-- A database call under a guard of the caller. -/
theorem database_diligent {query' : Query} {rest : Except Failure query'.Value → Relay α} {post : World → α → Prop}
    (answered : ∀ choice, keepsServed world choice (.db query') = true →
      (rest (query'.run choice world.portRange world.db).2).Always diligent post { world with
        db := (query'.run choice world.portRange world.db).1
        drawn := query'.draws choice ++ world.drawn }) :
    ((access (.db query')).bind rest).Always diligent post world := by
  intro choice after result executed
  obtain ⟨meets, executed⟩ := System.restrict_exec.mp executed
  obtain ⟨rfl, rfl, _⟩ := exec_db executed
  exact answered choice meets

/-- One operation under a guard of its own, or of the caller. -/
theorem withLock_diligent {op : Op} {lock : Lock} {mode : Mode} {post : World → op.Result → Prop}
    (performed : ∀ choice after result, exec world choice op = some (after, result) → post after result) :
    (withLock lock mode (access op)).Always diligent post world :=
  always_guarded.mpr fun choice after result executed =>
    performed choice after result (System.restrict_exec.mp executed).2

theorem access_diligent {op : Op} {rest : op.Result → Relay α} {post : World → α → Prop}
    (performed : ∀ choice after result, exec world choice op = some (after, result) →
      (rest result).Always diligent post after) : ((access op).bind rest).Always diligent post world :=
  fun choice after result executed => performed choice after result (System.restrict_exec.mp executed).2

/-- The listeners of some tunnels have been started on a channel. -/
structure Starts (sender : Channel) (ids : Uuid → Prop) (world after : World) : Prop where
  db : after.db = world.db
  drawn : after.drawn = world.drawn
  senders : after.agentSenders = world.agentSenders
  others : ∀ id, ¬ ids id → after.tunnelTasks id = world.tunnelTasks id
  started : ∀ id, ids id → ∃ handle, after.tunnelTasks id = some handle ∧ handle.sender = sender

section Start

variable {sender : Channel} {ids more : Uuid → Prop} {middle : World} {agentId : Uuid}

omit [Externals] in
theorem Starts.refl : Starts sender (fun _ => False) world world :=
  ⟨rfl, rfl, rfl, fun _ _ => rfl, fun _ none => none.elim⟩

omit [Externals] in
theorem Starts.trans (first : Starts sender ids world middle) (second : Starts sender more middle after) :
    Starts sender (fun id => ids id ∨ more id) world after := by
  refine ⟨second.db.trans first.db, second.drawn.trans first.drawn, second.senders.trans first.senders, ?_, ?_⟩
  · intro id neither
    rw [second.others id fun is => neither (.inr is), first.others id fun is => neither (.inl is)]
  · intro id either
    by_cases late : more id
    · exact second.started id late
    · rw [second.others id late]
      exact first.started id (either.resolve_right late)

omit [Externals] in
theorem Starts.congr (starts : Starts sender ids world after) (same : ∀ id, ids id ↔ more id) :
    Starts sender more world after :=
  ⟨starts.db, starts.drawn, starts.senders, fun id isnt => starts.others id fun is => isnt ((same id).mp is),
    fun id is => starts.started id ((same id).mpr is)⟩

/-- After the start of the listeners of all that were spared. -/
theorem Starts.serves (starts : Starts sender ids world after) (serves : world.ServesBut spared)
    (channel : ∀ row ∈ world.db.tunnels, ∀ tunnelId, parseUuid row.id = some tunnelId → ids tunnelId →
      world.channelOf row = some sender)
    (covers : ∀ row ∈ world.db.tunnels, spared row → world.awaits row = true → ∃ tunnelId,
      parseUuid row.id = some tunnelId ∧ ids tunnelId) : after.Serves := by
  intro row listed awaits _
  have same : after.channelOf row = world.channelOf row := by rw [World.channelOf, starts.senders]; rfl
  have waits : world.awaits row = true := by
    rw [World.awaits, starts.db, same] at awaits
    exact awaits
  rw [starts.db] at listed
  unfold World.listens
  rw [same]
  by_cases named : ∃ tunnelId, parseUuid row.id = some tunnelId ∧ ids tunnelId
  · obtain ⟨tunnelId, parsed, is⟩ := named
    obtain ⟨handle, running, rfl⟩ := starts.started tunnelId is
    rw [parsed, Option.bind_some, running, channel row listed tunnelId parsed is]
    simp
  · have listens := serves row listed waits fun spares => named (covers row listed spares waits)
    unfold World.listens at listens
    cases parsed : parseUuid row.id with
    | none => rwa [parsed] at listens
    | some tunnelId =>
        rw [Option.bind_some, starts.others tunnelId fun is => named ⟨tunnelId, parsed, is⟩]
        rwa [parsed, Option.bind_some] at listens

theorem startTunnelListener_starts {tunnel : TunnelConfig} : (startTunnelListener tunnel sender).Always diligent
    (fun after _ => Starts sender (· = tunnel.id) world after) world := by
  refine access_diligent fun choice entered result executed => ?_
  cases executed
  refine always_bind.mpr (withLock_diligent fun choice stopped result executed => ?_)
  cases executed
  intro choice bound result executed
  obtain ⟨binds, executed⟩ := System.restrict_exec.mp executed
  simp only [exec, Option.isNone_iff_eq_none.mp binds] at executed
  cases executed
  refine access_diligent fun choice spawned handle executed => ?_
  cases executed
  refine always_bind.mpr (withLock_diligent fun choice stored result executed => ?_)
  cases executed
  refine ⟨rfl, rfl, rfl, fun id other => ?_, ?_⟩
  · simp only [Function.update_of_ne other]
  · rintro id rfl
    exact ⟨_, Function.update_self .., rfl⟩

theorem syncRows_starts {rows : List TunnelRecord} : (syncRows agentId sender rows).Always diligent
    (fun after _ => Starts sender (fun id => ∃ row ∈ rows, row.enabled = true ∧ parseUuid row.id = some id)
      world after) world := by
  induction rows generalizing world with
  | nil => exact Starts.refl.congr fun _ => by simp
  | cons tunnel rest ih =>
      simp only [syncRows]
      split
      · rename_i unnamed
        refine ih.mono fun after _ starts => starts.congr fun id => ?_
        simp [unnamed]
      · rename_i tunnelId named
        split
        · rename_i enabled
          have enabled' : tunnel.enabled = true := enabled
          refine always_bind.mpr (withLock_diligent fun choice reserved result executed => ?_)
          cases executed
          refine always_bind.mpr (startTunnelListener_starts.mono fun middle _ first => ?_)
          refine always_bind.mpr (ih.mono fun after _ second => ?_)
          refine Starts.congr (Starts.trans (?_ : Starts sender (· = tunnelId) world middle) second) fun id => ?_
          · exact ⟨first.db, first.drawn, first.senders, first.others, first.started⟩
          · simp only [List.exists_mem_cons_iff, enabled', named, true_and, Option.some.injEq]
            exact or_congr_left eq_comm
        · rename_i disabled
          refine always_bind.mpr (ih.mono fun after _ starts => starts.congr fun id => ?_)
          have disabled' : ¬ tunnel.enabled = true := disabled
          simp [disabled']

end Start

/-- The synchronisation of an agent that has just been given a channel. -/
theorem syncAgentTunnels_serves {agentId : Uuid} {sender : Channel}
    (serves : world.ServesBut (·.agentId = uuidToString agentId)) (consistent : Consistent world.db world.drawn)
    (registered : world.agentSenders agentId = some sender) :
    (syncAgentTunnels agentId sender).Always diligent (fun after _ => World.Serves after) world := by
  have own {row : TunnelRecord} (owner : row.agentId = uuidToString agentId) : world.channelOf row = some sender := by
    rw [World.channelOf, owner, parseUuid_uuidToString, Option.bind_some, registered]
  refine always_bind.mpr (query_restricted fun choice meets fresh => ?_)
  have told {after : World} (kept : after.Serves) {configs : List TunnelConfig} :
      (access (.send sender (.syncTunnels configs))).Always diligent (fun after _ => World.Serves after) after := by
    intro choice sent result executed
    cases (System.restrict_exec.mp executed).2
    exact kept
  refine always_bind.mpr (syncRows_starts.mono fun after configs starts => told ?_)
  cases refused : choice.refuses 0 with
  | some failure =>
      simp only [Query.run, Db.listTunnelsForAgent, Choice.statement, refused, rowsOrNone] at starts
      refine @Starts.serves _ _ _ (fun _ => False) _ _ starts ?_ (fun _ _ _ _ is => ?_) fun _ _ none => none.elim
      · intro row listed awaits _
        by_cases owner : row.agentId = uuidToString agentId
        · simp only [keepsServed, refused, Option.isNone_some, Bool.false_or] at meets
          have waits : world.awaits row = true := awaits
          have runs := List.all_eq_true.mp meets row listed
          have listens : world.listens row = true := by simpa [owner, waits] using runs
          exact listens
        · exact serves row listed awaits owner
      · simp at is
  | none =>
      simp only [Query.run, Db.listTunnelsForAgent, Choice.statement, refused, rowsOrNone, Db.oldestFirst,
        List.mem_insertionSort, List.mem_filter, beq_iff_eq] at starts
      refine @Starts.serves _ _ _ (·.agentId = uuidToString agentId) _ _ starts serves ?_ ?_
      · rintro row listed tunnelId parsed ⟨other, ⟨there, owner⟩, _, parsed'⟩
        have same : row = other := List.inj_on_of_nodup_map consistent.tunnelIds listed there
          ((consistent.spelled listed parsed).trans (consistent.spelled there parsed').symm)
        exact own (same ▸ owner)
      · intro row listed owner awaits
        obtain ⟨tunnelId, _, named⟩ := consistent.tunnelDrawn row listed
        have parsed : parseUuid row.id = some tunnelId := by rw [named, parseUuid_uuidToString]
        simp only [World.awaits, Bool.and_eq_true] at awaits
        exact ⟨tunnelId, parsed, row, ⟨listed, owner⟩, awaits.1.1, parsed⟩

/-! ## Stopping listeners -/

theorem World.ServesBut.tasks {other : World} (serves : world.ServesBut spared) (db : other.db = world.db)
    (senders : other.agentSenders = world.agentSenders)
    (tasks : ∀ row ∈ world.db.tunnels, ¬ spared row → ∀ tunnelId, parseUuid row.id = some tunnelId →
      other.tunnelTasks tunnelId = world.tunnelTasks tunnelId) : other.ServesBut spared := by
  have channel (row : TunnelRecord) : world.channelOf row = other.channelOf row := by
    rw [World.channelOf, World.channelOf, senders]
  refine serves.same (fun row listed awaits kept => ⟨row, db ▸ listed, ?_, kept, rfl, channel row⟩) ?_
  · rw [World.awaits, db, ← channel] at awaits
    exact awaits
  · rw [db]
    exact tasks

theorem stopRows_same {rows : List TunnelRecord} : (rows.foldl World.stopRow world).db = world.db ∧
    (rows.foldl World.stopRow world).agentSenders = world.agentSenders := by
  induction rows generalizing world with
  | nil => exact ⟨rfl, rfl⟩
  | cons row rest ih =>
      rw [List.foldl_cons]
      obtain ⟨db, senders⟩ := @ih (world.stopRow row)
      rw [db, senders]
      unfold World.stopRow
      split <;> exact ⟨rfl, rfl⟩

/-- The listeners of spared tunnels are stopped. -/
theorem World.ServesBut.stopRows {rows : List TunnelRecord} (serves : world.ServesBut spared)
    (consistent : Consistent world.db world.drawn) (own : ∀ row ∈ rows, row ∈ world.db.tunnels ∧ spared row) :
    (rows.foldl World.stopRow world).ServesBut spared := by
  refine serves.tasks stopRows_same.1 stopRows_same.2 fun row listed kept tunnelId parsed => ?_
  refine Option.ext fun handle => ?_
  rw [stopRows_tasks]
  refine and_iff_left fun other member parsed' => kept ?_
  obtain ⟨there, spares⟩ := own other member
  have same : row = other := List.inj_on_of_nodup_map consistent.tunnelIds listed there
    ((consistent.spelled listed parsed).trans (consistent.spelled there parsed').symm)
  exact same ▸ spares

/-- The rows that are listed and stopped are among the spared ones. -/
theorem stopListed_serves {rows : List TunnelRecord} {choice : Choice} (serves : world.ServesBut spared)
    (consistent : Consistent world.db world.drawn) (own : ∀ row ∈ rows, row ∈ world.db.tunnels ∧ spared row) :
    (forEach stopRow (rowsOrNone (choice.statement 0 (.ok (Db.oldestFirst rows))))).Always diligent
      (fun after _ => World.ServesBut spared after ∧ after.db = world.db ∧
        after.agentSenders = world.agentSenders) world := by
  refine (Always.restrict stopRows_always).mono ?_
  rintro after _ rfl
  refine ⟨serves.stopRows consistent fun row member => ?_, stopRows_same⟩
  unfold Choice.statement at member
  split at member
  · simp [rowsOrNone] at member
  · exact own row (by simpa [rowsOrNone, Db.oldestFirst] using member)

/-! ## The jobs -/

theorem isAdmin_stays {headers : HeaderMap} :
    (isAdmin headers).Always relay (fun after _ => after = world) world := by
  unfold isAdmin
  split
  · rfl
  · refine withLock_always fun choice after admin executed => ?_
    cases executed
    rfl

theorem adminBanUser_serves {id : String} {headers : HeaderMap} (serves : world.Serves)
    (consistent : Consistent world.db world.drawn)
    (owned : ∀ row ∈ world.db.tunnels, ∃ user ∈ world.db.users, row.userId = some user.id) :
    (adminBanUser id headers).Always diligent (fun after _ => World.Serves after) world := by
  refine always_bind.mpr ((Always.restrict isAdmin_stays).mono fun same admin stays => ?_)
  subst stays
  cases admin with
  | false => exact serves
  | true =>
      refine always_bind.mpr (always_guarded.mpr (database_diligent fun choice meets =>
        database_diligent fun choice' _ => ?_))
      have banned : World.Serves { same with
          db := (Db.toggleUserBan choice same.db id true).1, drawn := same.drawn } :=
        World.ServesBut.calm serves same.drawn (fun _ _ _ _ _ none => none)
          (show ¬ stirs (.db (.toggleUserBan id true)) from fun none => none) (by simp)
      have tunnels : (Db.toggleUserBan choice same.db id true).1.tunnels = same.db.tunnels :=
        @Query.run_tunnels _ choice same.portRange same.db (.toggleUserBan id true) rfl
      refine (@stopListed_serves _ { same with
          db := (Db.toggleUserBan choice same.db id true).1, drawn := same.drawn } (·.userId = some id) _ choice'
        (fun row listed awaits _ => banned row listed awaits fun none => none) ?_ ?_).mono ?_
      · exact consistent.change (@Query.run_change _ choice same.portRange same.db (.toggleUserBan id true))
      · intro row member
        obtain ⟨listed, owns⟩ := List.mem_filter.mp member
        exact ⟨listed, by simpa using owns⟩
      · rintro after _ ⟨kept, db, senders⟩
        refine World.ServesBut.all kept fun row listed owns => Bool.eq_false_iff.mpr fun awaits => ?_
        rw [db, tunnels] at listed
        simp only [World.awaits, World.channelOf, db, senders] at awaits
        rcases @toggleUserBan_tables choice same.db id true with ⟨refused, unchanged⟩ | ⟨_, tables⟩
        · -- The ban has not been written, and the listeners are stopped nevertheless.
          have idle := meets
          simp only [keepsServed, ← Option.not_isSome, refused, Bool.not_true, Bool.false_or] at idle
          have runs := List.all_eq_true.mp idle row listed
          rw [unchanged] at awaits
          have waits : same.awaits row = true := awaits
          simp [owns, waits] at runs
        · obtain ⟨user, known, mine⟩ := owned row listed
          have named : user.id = id := Option.some.inj (mine.symm.trans owns)
          have banned : ownerBanned (Db.toggleUserBan choice same.db id true).1 row = true := by
            rw [tables]
            refine ownerBanned_eq.mpr ⟨_, List.mem_map_of_mem known, ?_⟩
            simp [named, owns]
          simp [banned] at awaits

theorem World.channelOf_own {row : TunnelRecord} {agentId : Uuid} (owner : row.agentId = uuidToString agentId) :
    world.channelOf row = world.agentSenders agentId := by
  rw [World.channelOf, owner, parseUuid_uuidToString, Option.bind_some]

/-- What keeps an agent's tables and registration keeps its listeners. -/
theorem setAgentOnline_serves {choice : Choice} {id : String} {online : Bool} {name : Option String}
    (serves : world.ServesBut spared) (blind : ∀ row other : TunnelRecord, row.id = other.id →
      row.agentId = other.agentId → row.userId = other.userId → spared row → spared other)
    (consistent : Consistent world.db world.drawn) :
    World.ServesBut spared { world with
        db := (Query.run choice world.portRange world.db (.setAgentOnline id online name)).1
        drawn := world.drawn } ∧
      Consistent (Query.run choice world.portRange world.db (.setAgentOnline id online name)).1 world.drawn :=
  ⟨serves.calm world.drawn blind (show ¬ stirs (.db (.setAgentOnline id online name)) from fun none => none) (by simp),
    consistent.change (@Query.run_change _ choice world.portRange world.db (.setAgentOnline id online name))⟩

theorem cleanupAgent_serves {agentId : Uuid} (serves : world.Serves) (consistent : Consistent world.db world.drawn) :
    (cleanupAgent agentId).Always diligent (fun after _ => World.Serves after) world := by
  refine always_bind.mpr (always_guarded.mpr fun choice unregistered sender executed => ?_)
  obtain ⟨meets, executed⟩ := System.restrict_exec.mp executed
  have unserved := World.Serves.exec serves meets (fun none => none) executed
  cases executed
  refine always_bind.mpr (query_restricted fun choice _ _ => ?_)
  obtain ⟨kept, consistent⟩ := @setAgentOnline_serves _ _ _ choice (uuidToString agentId) false none unserved
    (fun _ _ _ _ _ none => none) consistent
  refine always_bind.mpr (query_restricted fun choice' _ _ => ?_)
  refine (@stopListed_serves _ { world with
      agentSenders := Function.update world.agentSenders agentId none
      db := (Query.run choice world.portRange world.db (.setAgentOnline (uuidToString agentId) false none)).1
      drawn := world.drawn } (·.agentId = uuidToString agentId) _ choice'
    (fun row listed awaits _ => kept row listed awaits fun none => none) consistent ?_).mono ?_
  · intro row member
    obtain ⟨listed, owner⟩ := List.mem_filter.mp member
    exact ⟨listed, by simpa using owner⟩
  · rintro after _ ⟨kept, _, senders⟩
    refine World.ServesBut.all kept fun row _ owner => ?_
    have none : after.channelOf row = none := by
      rw [World.channelOf_own owner, senders]
      exact Function.update_self ..
    rw [World.awaits, none, Option.isSome_none, Bool.and_false]

theorem teardown_serves {session : SessionId} (serves : world.Serves) (consistent : Consistent world.db world.drawn) :
    (teardown session).Always diligent (fun after _ => World.Serves after) world := by
  refine access_diligent fun choice closing result executed => ?_
  cases executed
  refine access_diligent fun choice read locals executed => ?_
  have same : read.Serves ∧ Consistent read.db read.drawn := by
    simp only [exec] at executed
    split at executed
    · cases executed
      exact ⟨serves, consistent⟩
    · contradiction
  have returned {after : World} (kept : after.Serves) :
      (access (.returnSession session)).Always diligent (fun after _ => World.Serves after) after := by
    intro choice after result executed
    cases (System.restrict_exec.mp executed).2
    exact kept
  have cleaned {world : World} (serves : world.Serves) (consistent : Consistent world.db world.drawn) :
      (Program.bind (ifSome cleanupAgent locals.1) fun _ => access (.returnSession session)).Always diligent
        (fun after _ => World.Serves after) world := by
    refine always_bind.mpr ?_
    cases locals.1 with
    | none => exact returned serves
    | some agentId => exact (cleanupAgent_serves serves consistent).mono fun _ _ kept => returned kept
  refine always_bind.mpr ?_
  cases locals.2 with
  | none => exact cleaned same.1 same.2
  | some code =>
      refine always_bind.mpr (withLock_diligent fun choice unclaimed sender executed => ?_)
      cases executed
      exact cleaned same.1 same.2

/-! ### Connecting an agent -/

/-- The registration of a channel spares the tunnels of the agent for a while. -/
theorem World.ServesBut.register {agentId : Uuid} {sender : Channel} (serves : world.Serves)
    (consistent : Consistent world.db world.drawn) : World.ServesBut (·.agentId = uuidToString agentId) { world with
      agentSenders := Function.update world.agentSenders agentId (some sender) } := by
  refine World.ServesBut.same (fun row listed awaits _ => serves row listed awaits fun none => none) ?_
    fun _ _ _ _ _ => rfl
  intro row listed awaits other
  obtain ⟨agent, known, same⟩ := consistent.attached row listed
  obtain ⟨owner, _, named⟩ := consistent.agentDrawn agent known
  have owned : row.agentId = uuidToString owner := same.symm.trans named
  have apart : owner ≠ agentId := fun alike => other (alike ▸ owned)
  have channel : World.channelOf { world with
      agentSenders := Function.update world.agentSenders agentId (some sender) } row = world.channelOf row := by
    rw [World.channelOf_own owned, World.channelOf_own owned]
    exact Function.update_of_ne apart ..
  refine ⟨row, listed, ?_, other, rfl, channel.symm⟩
  rw [World.awaits, channel] at awaits
  exact awaits

/-- The last part of a session's login and of a claim. -/
theorem connectAgent_serves {id : String} {name : Option String} {agentId : Uuid} {sender : Channel}
    {message : RelayMessage} (serves : world.Serves) (consistent : Consistent world.db world.drawn) : (do
      let _ ← query (.setAgentOnline id true name)
      withLock .agentSenders .exclusive (access (.insertAgentSender agentId sender))
      access (.send sender message)
      syncAgentTunnels agentId sender : Relay Unit).Always diligent (fun after _ => World.Serves after) world := by
  refine always_bind.mpr (query_restricted fun choice _ _ => ?_)
  obtain ⟨kept, consistent⟩ := @setAgentOnline_serves _ _ _ choice id true name serves
    (fun _ _ _ _ _ none => none) consistent
  refine always_bind.mpr (withLock_diligent fun choice registered result executed => ?_)
  cases executed
  refine access_diligent fun choice told result executed => ?_
  cases executed
  exact syncAgentTunnels_serves (World.ServesBut.register kept consistent) consistent (Function.update_self ..)

theorem auth_serves {session : SessionId} {token hostname : String} (serves : world.Serves)
    (consistent : Consistent world.db world.drawn) :
    (auth session token hostname).Always diligent (fun after _ => World.Serves after) world := by
  have told {after : World} (kept : after.Serves) {message : RelayMessage} :
      (access (.send session message)).Always diligent (fun after _ => World.Serves after) after := by
    intro choice sent result executed
    cases (System.restrict_exec.mp executed).2
    exact kept
  refine always_bind.mpr (query_restricted fun choice _ _ => ?_)
  match (Query.run choice world.portRange world.db (.getAgentByToken token)).2 with
  | .error _ | .ok none => exact told serves
  | .ok (some agent) =>
      dsimp only
      split
      · refine access_diligent fun choice noted result executed => ?_
        cases executed
        refine always_bind.mpr (withLock_diligent fun choice entered result executed => ?_)
        cases executed
        refine told ?_
        exact serves
      · split
        · exact told serves
        · refine access_diligent fun choice noted result executed => ?_
          cases executed
          exact connectAgent_serves serves consistent

theorem claimAgent_serves {code : String} {headers : HeaderMap} (serves : world.Serves)
    (consistent : Consistent world.db world.drawn) :
    (claimAgent code headers).Always diligent (fun after _ => World.Serves after) world := by
  refine always_bind.mpr ((Always.restrict getCurrentUserId_stays).mono fun same user stays => ?_)
  subst stays
  cases user with
  | none => exact serves
  | some userId =>
      refine always_bind.mpr (query_restricted fun choice _ _ => ?_)
      have kept : World.Serves { same with
          db := (Query.run choice same.portRange same.db (.claimAgentToUser code userId)).1
          drawn := same.drawn } :=
        World.ServesBut.calm serves same.drawn (fun _ _ _ _ _ none => none)
          (show ¬ stirs (.db (.claimAgentToUser code userId)) from fun none => none) (by simp)
      have later := consistent.change
        (@Query.run_change _ choice same.portRange same.db (.claimAgentToUser code userId))
      match (Query.run choice same.portRange same.db (.claimAgentToUser code userId)).2 with
      | .error (.error _) | .error .panicked | .ok none => exact kept
      | .ok (some agent) =>
          dsimp only
          split
          · exact kept
          · refine always_bind.mpr (withLock_diligent fun choice unclaimed sender executed => ?_)
            cases executed
            refine always_bind.mpr ?_
            cases same.pendingClaims code with
            | none => exact kept
            | some sender =>
                refine (connectAgent_serves ?_ ?_).mono fun _ _ ends => ends
                · exact kept
                · exact later

/-! ### Updating a tunnel -/

theorem resyncAgent_serves {agentId : Uuid} (serves : world.Serves) (consistent : Consistent world.db world.drawn) :
    (resyncAgent agentId).Always diligent (fun after _ => World.Serves after) world := by
  refine always_bind.mpr ?_
  refine always_bind.mpr ?_
  refine access_diligent fun choice read sender executed => ?_
  cases executed
  cases registered : world.agentSenders agentId with
  | none => exact serves
  | some channel =>
      refine (syncAgentTunnels_serves (fun row listed awaits _ => ?_) consistent registered).mono fun _ _ ends => ends
      exact serves row listed awaits fun none => none

theorem updateTunnel_serves {id : String} {body : UpdateTunnelRequest} (serves : world.Serves)
    (consistent : Consistent world.db world.drawn) :
    (updateTunnel id body).Always diligent (fun after _ => World.Serves after) world := by
  refine always_bind.mpr ((read_always (fun _ _ _ => rfl) (fun _ => rfl) fun choice => ?_).restrict)
  match (Query.run choice world.portRange world.db (.getTunnelById id)).2 with
  | .error _ | .ok none => exact serves
  | .ok (some tunnel) =>
      refine always_bind.mpr ((Always.restrict subdomainTaken_stays).mono fun same taken stays => ?_)
      subst stays
      split
      · exact serves
      · refine always_bind.mpr (query_restricted fun choice _ _ => ?_)
        have kept : World.Serves { same with
            db := (Query.run choice same.portRange same.db (.updateTunnel id body.name body.localPort body.protocol
              (cleanSubdomain body.subdomain))).1
            drawn := same.drawn } :=
          World.ServesBut.calm serves same.drawn (fun _ _ _ _ _ none => none)
            (show ¬ stirs (.db (.updateTunnel id body.name body.localPort body.protocol
              (cleanSubdomain body.subdomain))) from fun none => none) (by simp)
        have later := consistent.change (@Query.run_change _ choice same.portRange same.db (.updateTunnel id body.name
          body.localPort body.protocol (cleanSubdomain body.subdomain)))
        match (Query.run choice same.portRange same.db (.updateTunnel id body.name body.localPort body.protocol
            (cleanSubdomain body.subdomain))).2 with
        | .error _ => exact kept
        | .ok () =>
            refine always_bind.mpr ?_
            cases parseUuid tunnel.agentId with
            | none => exact kept
            | some agentId =>
                refine (resyncAgent_serves ?_ ?_).mono fun _ _ ends => ends
                · exact kept
                · exact later

/-! ### Opening, switching and deleting a tunnel -/

/-- The listener is started, and announced, if the agent is connected. -/
theorem startAnnounced_serves {config : TunnelConfig} {agentId : Uuid} (serves : world.ServesBut spared)
    (named : ∀ row ∈ world.db.tunnels, spared row → parseUuid row.id = some config.id)
    (owned : ∀ row ∈ world.db.tunnels, parseUuid row.id = some config.id →
      world.channelOf row = world.agentSenders agentId) :
    (ifSome (fun agentSender => (startTunnelListener config agentSender).bind fun _ =>
      access (.send agentSender (.startTunnel config))) (world.agentSenders agentId)).Always diligent
        (fun after _ => World.Serves after) world := by
  cases registered : world.agentSenders agentId with
  | none =>
      refine World.ServesBut.all serves fun row listed spares => ?_
      rw [World.awaits, owned row listed (named row listed spares), registered, Option.isSome_none, Bool.and_false]
  | some channel =>
      refine always_bind.mpr (startTunnelListener_starts.mono fun after _ starts => ?_)
      have kept : after.Serves := by
        refine Starts.serves starts serves ?_ fun row listed spares _ => ⟨config.id, named row listed spares, rfl⟩
        rintro row listed tunnelId parsed rfl
        rw [owned row listed parsed, registered]
      intro choice told result executed
      cases (System.restrict_exec.mp executed).2
      exact kept

/-- The row of a new tunnel belongs to the agent that was named. -/
theorem createTunnel_row {choice : Choice} {db : Database} {drawn : List Uuid} {agentId name protocol : String}
    {userId subdomain : Option String} {localPort publicPort : UInt16} (consistent : Consistent db drawn)
    (fresh : choice.id ∉ drawn) : ∀ row ∈ (Query.run choice portRange db
      (.createTunnel agentId userId name localPort protocol publicPort subdomain)).1.tunnels,
        row.id = uuidToString choice.id → row.agentId = agentId := by
  have change := @Query.run_change _ choice portRange db
    (.createTunnel agentId userId name localPort protocol publicPort subdomain)
  have old {row : TunnelRecord} (listed : row ∈ db.tunnels) : row.id ≠ uuidToString choice.id := by
    intro same
    obtain ⟨id, drew, named⟩ := consistent.tunnelDrawn row listed
    exact fresh (uuidToString_injective (named.symm.trans same) ▸ drew)
  generalize (Query.run choice portRange db (.createTunnel agentId userId name localPort protocol publicPort
    subdomain)).1 = after at change
  intro row listed named
  cases change with
  | kept => exact absurd named (old listed)
  | opened _ _ _ fields =>
      rcases List.mem_append.mp listed with there | new
      · exact absurd named (old there)
      · rw [List.mem_singleton.mp new]
        exact fields.1

theorem insertTunnel_serves {uid : String} {agentId : Uuid} {publicPort : UInt16} {body : CreateTunnelRequest}
    (serves : world.Serves) (consistent : Consistent world.db world.drawn)
    (parsed : parseUuid body.agentId = some agentId) :
    (insertTunnel uid agentId publicPort body).Always diligent (fun after _ => World.Serves after) world := by
  refine always_bind.mpr (query_restricted fun choice _ drew => ?_)
  have fresh : choice.id ∉ world.drawn := drew choice.id (List.mem_singleton.mpr rfl)
  have kept : World.ServesBut (·.id = uuidToString choice.id) { world with
      db := (Query.run choice world.portRange world.db (.createTunnel body.agentId (some uid) body.name
        body.localPort body.protocol publicPort (cleanSubdomain body.subdomain))).1
      drawn := choice.id :: world.drawn } := by
    refine World.ServesBut.run (fun row listed awaits _ => serves row listed awaits fun none => none) _ ?_
    intro db change row listed enabled free other
    cases change with
    | kept => exact ⟨row, listed, enabled, free, other, rfl, rfl⟩
    | opened named =>
        rcases List.mem_append.mp listed with there | new
        · exact ⟨row, there, enabled, free, other, rfl, rfl⟩
        · exact absurd (List.mem_singleton.mp new ▸ named) other
  have rows := @createTunnel_row _ world.portRange choice world.db world.drawn body.agentId body.name body.protocol
    (some uid) (cleanSubdomain body.subdomain) body.localPort publicPort consistent fresh
  have later := consistent.change (@Query.run_change _ choice world.portRange world.db (.createTunnel body.agentId
    (some uid) body.name body.localPort body.protocol publicPort (cleanSubdomain body.subdomain)))
  cases inserted : (Query.run choice world.portRange world.db (.createTunnel body.agentId (some uid) body.name
      body.localPort body.protocol publicPort (cleanSubdomain body.subdomain))).2 with
  | error failure =>
      have unchanged : (Query.run choice world.portRange world.db (.createTunnel body.agentId (some uid) body.name
          body.localPort body.protocol publicPort (cleanSubdomain body.subdomain))).1 = world.db :=
        Database.write_failed inserted
      simp only [unchanged]
      exact serves
  | ok record =>
      have named : record.id = uuidToString choice.id := by
        obtain ⟨rfl, _⟩ := Database.write_done inserted
        rfl
      simp only [named, parseUuid_uuidToString]
      refine always_bind.mpr (always_bind.mpr ?_)
      refine access_diligent fun choice' read sender executed => ?_
      cases executed
      refine (startAnnounced_serves kept ?_ ?_).mono fun _ _ ends => ends
      · rintro row listed same
        rw [same, parseUuid_uuidToString]
        rfl
      · intro row listed same
        have owner := rows row listed (later.spelled listed same)
        rw [World.channelOf, owner, parsed, Option.bind_some]

theorem createTunnel_serves {headers : HeaderMap} {body : CreateTunnelRequest} (serves : world.Serves)
    (consistent : Consistent world.db world.drawn) :
    (createTunnel headers body).Always diligent (fun after _ => World.Serves after) world := by
  refine always_bind.mpr ((Always.restrict getCurrentUserId_stays).mono fun same user stays => ?_)
  subst stays
  cases user with
  | none => exact serves
  | some uid =>
      dsimp only
      split
      · exact serves
      rename_i agentId parsed
      refine always_bind.mpr ((Always.restrict subdomainTaken_stays).mono fun after taken stays => ?_)
      subst stays
      split
      · exact serves
      refine always_bind.mpr ((read_always (fun _ _ _ => rfl) (fun _ => rfl) fun choice => ?_).restrict)
      rcases (Query.run choice after.portRange after.db (.getUserById uid)).2 with failure | _ | user
      · exact serves
      · exact serves
      · refine always_bind.mpr (withLock_diligent fun choice later reserved executed => ?_)
        have kept : later.Serves ∧ Consistent later.db later.drawn := by
          simp only [exec] at executed
          split at executed <;> cases executed <;> exact ⟨serves, consistent⟩
        rcases reserved with _ | port
        · exact kept.1
        · dsimp only
          split
          · exact insertTunnel_serves kept.1 kept.2 parsed
          · exact kept.1

/-- The row to be switched keeps its agent, and is off or not waited for once it
is switched off. -/
theorem setTunnelEnabled_rows {choice : Choice} {tunnel : TunnelRecord} {enabled : Bool}
    (consistent : Consistent world.db world.drawn) (listed : tunnel ∈ world.db.tunnels) :
    ∀ row ∈ (Db.setTunnelEnabled choice world.db tunnel.id enabled).1.tunnels, row.id = tunnel.id →
      row.agentId = tunnel.agentId := by
  refine @Database.write_statement _ choice 0 world.db _ _ (fun after => ∀ row ∈ after.tunnels, row.id = tunnel.id →
    row.agentId = tunnel.agentId) ?_ ?_
  · intro row there same
    rw [List.inj_on_of_nodup_map consistent.tunnelIds there listed same]
  · intro after written row there same
    cases written
    obtain ⟨old, was, rfl⟩ := List.mem_map.mp there
    have named : old.id = tunnel.id := by
      split at same <;> exact same
    rw [List.inj_on_of_nodup_map consistent.tunnelIds was listed named]
    split <;> rfl

/-- Handing a message to the channel of an agent, if it has one. -/
theorem notify_serves {agentSender : Option Channel} {message : RelayMessage} (serves : world.Serves) :
    (ifSome (fun sender => access (.send sender message)) agentSender).Always diligent
      (fun after _ => World.Serves after) world := by
  cases agentSender with
  | none => exact serves
  | some sender =>
      intro choice told result executed
      cases (System.restrict_exec.mp executed).2
      exact serves

/-- What is switched off, or could not be though nothing depended on it, is not waited for. -/
theorem switchedOff_idle {choice : Choice} {id : String} {row : TunnelRecord} {later : World}
    (meets : keepsServed world choice (.db (.setTunnelEnabled id false)) = true)
    (tables : later.db = (Db.setTunnelEnabled choice world.db id false).1)
    (senders : later.agentSenders = world.agentSenders) (listed : row ∈ later.db.tunnels) (named : row.id = id) :
    later.awaits row = false := by
  have written : (choice.refuses 0).isSome = true ∧ (Db.setTunnelEnabled choice world.db id false).1 = world.db ∨
      choice.refuses 0 = none ∧ (Db.setTunnelEnabled choice world.db id false).1 = { world.db with
        tunnels := world.db.tunnels.map fun tunnel => if tunnel.id == id then { tunnel with enabled := false } else tunnel } :=
    written_tables
  rw [tables] at listed
  rcases written with ⟨refused, unchanged⟩ | ⟨_, changed⟩
  · rw [unchanged] at listed tables
    simp only [keepsServed, ← Option.not_isSome, refused, Bool.not_true, Bool.false_or] at meets
    have idle := List.all_eq_true.mp meets row listed
    have waits : world.awaits row = false := by simpa [named] using idle
    rw [World.awaits, World.channelOf, tables, senders]
    exact waits
  · rw [changed] at listed
    obtain ⟨old, there, rfl⟩ := List.mem_map.mp listed
    have hit : old.id = id := by
      split at named <;> exact named
    simp [World.awaits, hit]

theorem toggleTunnel_serves {id : String} (serves : world.Serves) (consistent : Consistent world.db world.drawn) :
    (toggleTunnel id).Always diligent (fun after _ => World.Serves after) world := by
  refine always_bind.mpr ((read_always (fun _ _ _ => rfl) (fun _ => rfl) fun choice => ?_).restrict)
  cases answered : (Query.run choice world.portRange world.db (.getTunnelById id)).2 with
  | error failure => exact serves
  | ok found =>
      cases found with
      | none => exact serves
      | some tunnel =>
          have found := Except.ok.inj (Choice.statement_ok answered)
          have listed := List.mem_of_find?_eq_some found
          obtain rfl : tunnel.id = id := by simpa using List.find?_some found
          dsimp only
          split
          · exact serves
          · exact serves
          · rename_i tunnelId agentId named owned
            refine always_bind.mpr (query_restricted fun choice meets _ => ?_)
            have rows := @setTunnelEnabled_rows _ _ choice tunnel (!tunnel.enabled) consistent listed
            have later := consistent.change (@Query.run_change _ choice world.portRange world.db
              (.setTunnelEnabled tunnel.id (!tunnel.enabled)))
            have kept : World.ServesBut (·.id = tunnel.id) { world with
                db := (Query.run choice world.portRange world.db (.setTunnelEnabled tunnel.id (!tunnel.enabled))).1
                drawn := world.drawn } := by
              refine World.ServesBut.run (fun row listed awaits _ => serves row listed awaits fun none => none) _ ?_
              intro db change row there enabled free other
              cases change with
              | kept => exact ⟨row, there, enabled, free, other, rfl, rfl⟩
              | switched =>
                  obtain ⟨old, was, rfl⟩ := List.mem_map.mp there
                  by_cases hit : old.id = tunnel.id
                  · exact absurd (by simp [hit]) other
                  · simp only [beq_iff_eq, hit, if_false] at enabled free ⊢
                    exact ⟨old, was, enabled, free, hit, rfl, rfl⟩
            refine always_bind.mpr (always_bind.mpr ?_)
            refine access_diligent fun choice' read sender executed => ?_
            cases executed
            cases on : tunnel.enabled with
            | false =>
                rw [on] at rows later kept
                refine always_bind.mpr (always_bind.mpr (access_diligent fun choice'' reserved result executed => ?_))
                cases executed
                have prepared : World.ServesBut (·.id = tunnel.id) { world with
                    db := (Query.run choice world.portRange world.db (.setTunnelEnabled tunnel.id (!false))).1
                    drawn := world.drawn
                    allocatedPorts := insert tunnel.publicPort world.allocatedPorts } := kept
                refine (startAnnounced_serves prepared ?_ ?_).mono fun _ _ ends => ends
                · rintro row there same
                  rw [same, named]
                  rfl
                · intro row there same
                  have alike := (later.spelled there same).trans (consistent.spelled listed named).symm
                  rw [World.channelOf, rows row there alike, owned, Option.bind_some]
            | true =>
                rw [on] at rows later kept meets
                refine always_bind.mpr (withLock_diligent fun choice'' stopped result executed => ?_)
                cases executed
                refine always_bind.mpr (withLock_diligent fun choice'' released result executed => ?_)
                cases executed
                have stopped : World.Serves { world with
                    db := (Query.run choice world.portRange world.db (.setTunnelEnabled tunnel.id (!true))).1
                    drawn := world.drawn
                    tunnelTasks := Function.update world.tunnelTasks tunnelId none
                    allocatedPorts := world.allocatedPorts.erase tunnel.publicPort } := by
                  refine World.ServesBut.all (World.ServesBut.tasks kept rfl rfl ?_) ?_
                  · intro row there other id parsed
                    refine Function.update_of_ne ?_ _ _
                    rintro rfl
                    exact other ((later.spelled there parsed).trans (consistent.spelled listed named).symm)
                  · intro row there same
                    exact switchedOff_idle meets rfl rfl there same
                exact (notify_serves stopped).mono fun _ _ ends => ends

theorem stopDeleted_serves {tunnel : TunnelRecord} {tunnelId : Uuid} (serves : world.Serves)
    (consistent : Consistent world.db world.drawn) (listed : tunnel ∈ world.db.tunnels)
    (named : parseUuid tunnel.id = some tunnelId) : (stopDeleted tunnel tunnelId).Always diligent
      (fun after _ => World.ServesBut (·.id = tunnel.id) after) world := by
  refine always_bind.mpr (withLock_diligent fun choice stopped result executed => ?_)
  cases executed
  refine always_bind.mpr (withLock_diligent fun choice released result executed => ?_)
  cases executed
  have kept : World.ServesBut (·.id = tunnel.id) { world with
      tunnelTasks := Function.update world.tunnelTasks tunnelId none
      allocatedPorts := world.allocatedPorts.erase tunnel.publicPort } := by
    refine World.ServesBut.tasks (fun row listed awaits _ => serves row listed awaits fun none => none) rfl rfl ?_
    intro row there other id parsed
    refine Function.update_of_ne ?_ _ _
    rintro rfl
    exact other ((consistent.spelled there parsed).trans (consistent.spelled listed named).symm)
  cases parseUuid tunnel.agentId with
  | none => exact kept
  | some agentId =>
      refine always_bind.mpr (access_diligent fun choice read sender executed => ?_)
      cases executed
      cases world.agentSenders agentId with
      | none => exact kept
      | some channel =>
          intro choice told result executed
          cases (System.restrict_exec.mp executed).2
          exact kept

theorem deleteRow_serves {id : String} (serves : world.ServesBut (·.id = id)) :
    ((query (.deleteTunnel id)).bind fun _ => (done (.status .ok) : Relay Reply)).Always diligent
      (fun after _ => World.Serves after) world := by
  refine always_bind.mpr (query_restricted fun choice meets _ => ?_)
  have written : (choice.refuses 0).isSome = true ∧ (Db.deleteTunnel choice world.db id).1 = world.db ∨
      choice.refuses 0 = none ∧ (Db.deleteTunnel choice world.db id).1 = { world.db with
        tunnels := world.db.tunnels.filter (·.id != id) } := written_tables
  rcases written with ⟨refused, unchanged⟩ | ⟨_, changed⟩
  · have kept : world.Serves := by
      refine World.ServesBut.all serves fun row listed named => ?_
      simp only [keepsServed, ← Option.not_isSome, refused, Bool.not_true, Bool.false_or] at meets
      simpa [named] using List.all_eq_true.mp meets row listed
    simp only [Query.run, unchanged]
    exact kept
  · simp only [Query.run, changed]
    intro row listed awaits _
    obtain ⟨there, other⟩ := List.mem_filter.mp listed
    exact serves row there awaits (by simpa using other)

theorem deleteTunnel_serves {id : String} (serves : world.Serves) (consistent : Consistent world.db world.drawn) :
    (deleteTunnel id).Always diligent (fun after _ => World.Serves after) world := by
  refine always_bind.mpr ((read_always (fun _ _ _ => rfl) (fun _ => rfl) fun choice => ?_).restrict)
  cases answered : (Query.run choice world.portRange world.db (.getTunnelById id)).2 with
  | error failure => exact serves
  | ok found =>
      cases found with
      | none => exact serves
      | some tunnel =>
          have found := Except.ok.inj (Choice.statement_ok answered)
          have listed := List.mem_of_find?_eq_some found
          obtain rfl : tunnel.id = id := by simpa using List.find?_some found
          refine always_bind.mpr ?_
          cases named : parseUuid tunnel.id with
          | none => exact deleteRow_serves fun row listed awaits _ => serves row listed awaits fun none => none
          | some tunnelId =>
              exact (stopDeleted_serves serves consistent listed named).mono fun _ _ kept => deleteRow_serves kept

/-! ## Runs -/

theorem serve_serves {job : Job} (serves : world.Serves) (consistent : Consistent world.db world.drawn)
    (owned : ∀ row ∈ world.db.tunnels, ∃ user ∈ world.db.users, row.userId = some user.id) :
    (serve job).Always diligent (fun after _ => World.Serves after) world := by
  cases calm : job.calm with
  | true => exact serves.calmly calm
  | false =>
      unfold Job.calm at calm
      split at calm
      · exact adminBanUser_serves serves consistent owned
      · exact claimAgent_serves serves consistent
      · exact createTunnel_serves serves consistent
      · exact updateTunnel_serves serves consistent
      · exact toggleTunnel_serves serves consistent
      · exact deleteTunnel_serves serves consistent
      · exact always_bind.mpr ((teardown_serves serves consistent).mono fun _ _ kept => kept)
      · refine always_bind.mpr (always_bind.mpr ((auth_serves serves consistent).mono fun after _ kept => ?_))
        intro choice waiting result executed
        cases (System.restrict_exec.mp executed).2
        exact kept
      · contradiction

theorem Completed.serves {state : diligent.State}
    (completed : @Completed _ diligent (fun _ _ => True) (World.initial portRange Database.empty []) state) :
    World.Serves state := by
  induction completed with
  | initial => exact fun row listed => by simp [World.initial, Database.empty] at listed
  | @job before job after reply earlier _ performs ih =>
      obtain ⟨threads, reached, _⟩ := (@Completed.unrestrict _ relay keepsServed _ _ _ earlier).reachable
      have consistent := Reached.consistent reached
      obtain ⟨_, owned⟩ := Reached.onOwnPorts reached
      refine @Performs.always _ diligent before after job reply (fun later _ => World.Serves later) performs
        fun admitted accepted => ?_
      obtain ⟨sessions, rfl⟩ := accept_same accepted
      refine serve_serves ih consistent fun row listed => ?_
      obtain ⟨user, known, owns, _⟩ := owned row listed
      exact ⟨user, known, owns⟩
  | reboot =>
      intro row _ awaits
      have off {owner : Option Uuid} : (owner.bind fun _ => (none : Option Channel)).isSome = false := by
        cases owner <;> rfl
      simp only [World.awaits, Bool.and_eq_true] at awaits
      exact absurd awaits.2 (Bool.eq_false_iff.mp off)

/-- In every sequence of completed jobs in which every bind succeeds and no
listener is lost, every enabled tunnel whose owner is not banned and whose agent
is connected has a listener, started on the agent's channel. -/
theorem enabled_tunnels_served {state : World}
    (completed : @Completed _ diligent (fun _ _ => True) (World.initial portRange Database.empty []) state) :
    ∀ row ∈ state.db.tunnels, row.enabled = true → ownerBanned state.db row = false →
      ∀ agentId sender, parseUuid row.agentId = some agentId → state.agentSenders agentId = some sender →
        ∃ tunnelId handle, parseUuid row.id = some tunnelId ∧ state.tunnelTasks tunnelId = some handle ∧
          handle.sender = sender := by
  intro row listed enabled free agentId sender owner registered
  have channel : state.channelOf row = some sender := by rw [World.channelOf, owner, Option.bind_some, registered]
  have listens := Completed.serves completed row listed (by simp [World.awaits, enabled, free, channel]) id
  rw [World.listens, Option.any_eq_true] at listens
  obtain ⟨handle, running, same⟩ := listens
  obtain ⟨tunnelId, named, running⟩ := Option.bind_eq_some_iff.mp running
  rw [channel, beq_iff_eq, Option.some.injEq] at same
  exact ⟨tunnelId, handle, named, running, same.symm⟩

end Runs

/-- What Alice does until her tunnel is served. -/
def tunnelServed : List (Job × Choice) :=
  [(.register { username := "alice", password := "secret" }, answer 1 0),
    (.generateAgentToken (signedIn 1), answer 2 0),
    (.connect 0, answer 3 0),
    (.frame 0 (.message (.auth (Db.agentToken (answer 2 0)) "laptop")), answer 4 0),
    (.createTunnel (signedIn 1) (webTunnel 4), answer 5 0)]

/-- Alice's tunnel is switched off and on. -/
theorem enabled_tunnels_served_alice :
    ∃ (state : World) (row : TunnelRecord), row ∈ state.db.tunnels ∧ ∃ tunnelId handle,
      parseUuid row.id = some tunnelId ∧ state.tunnelTasks tunnelId = some handle ∧ handle.sender = 0 := by
  have passed : (diligent.performAll (tunnelServed ++ [(.toggleTunnel (uuidToString 10), answer 0 0),
      (.toggleTunnel (uuidToString 10), answer 0 0)]) newRelay).any (fun state : World =>
        state.db.tunnels.any fun row => row.enabled && !ownerBanned state.db row &&
          decide (parseUuid row.agentId = some 4) && decide (state.agentSenders 4 = some 0)) = true := by
    decide +kernel
  obtain ⟨state, performed, tested⟩ := (Option.any_eq_true _ _).mp passed
  obtain ⟨row, listed, tested⟩ := List.any_eq_true.mp tested
  simp only [Bool.and_eq_true, Bool.not_eq_true', decide_eq_true_eq] at tested
  obtain ⟨⟨⟨enabled, free⟩, owner⟩, registered⟩ := tested
  exact ⟨state, row, listed, enabled_tunnels_served
    (System.performAll_completed (fun _ _ _ => trivial) .initial performed) row listed enabled free 4 0 owner registered⟩

/-- Alice is banned and the ban is lifted while her agent stays connected. -/
theorem listener_lost_by_ban :
    ¬ ∀ state : World, @Completed _ binding (fun _ _ => True) newRelay state →
      ∀ row ∈ state.db.tunnels, row.enabled = true → ownerBanned state.db row = false →
        ∀ agentId sender, parseUuid row.agentId = some agentId → state.agentSenders agentId = some sender →
          (∃ locals, state.sessions sender = some locals ∧ locals.phase = .reading) →
            ∃ tunnelId, parseUuid row.id = some tunnelId ∧ (state.tunnelTasks tunnelId).isSome := by
  have passed : (binding.performAll (tunnelServed ++ [(.adminLogin adminPassword, answer 6 0),
      (.adminBanUser (uuidToString 2) [("x-session-token", some (adminToken 13))], answer 0 0),
      (.adminUnbanUser (uuidToString 2) [("x-session-token", some (adminToken 13))], answer 0 0)]) newRelay).any
      (fun state : World => state.db.tunnels.any fun row => row.enabled && !ownerBanned state.db row &&
        decide (parseUuid row.agentId = some 4) && decide (state.agentSenders 4 = some 0) &&
          ((state.sessions 0).any fun locals => decide (locals.phase = .reading)) &&
            decide (parseUuid row.id = some 10) && (state.tunnelTasks 10).isNone) = true := by decide +kernel
  obtain ⟨state, performed, tested⟩ := (Option.any_eq_true _ _).mp passed
  obtain ⟨row, listed, tested⟩ := List.any_eq_true.mp tested
  simp only [Bool.and_eq_true, Bool.not_eq_true', decide_eq_true_eq, Option.any_eq_true,
    Option.isNone_iff_eq_none] at tested
  obtain ⟨⟨⟨⟨⟨⟨enabled, free⟩, owner⟩, registered⟩, locals, connected, reading⟩, named⟩, stopped⟩ := tested
  intro always
  obtain ⟨tunnelId, named', runs⟩ := always state (System.performAll_completed (fun _ _ _ => trivial) .initial performed)
    row listed enabled free 4 0 owner registered ⟨locals, connected, reading⟩
  rw [← Option.some.inj (named.symm.trans named'), stopped] at runs
  exact Bool.false_ne_true runs

end TunnelitRelay
