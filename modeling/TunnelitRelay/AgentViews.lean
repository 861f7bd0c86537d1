import TunnelitRelay.ServedTunnels

namespace TunnelitRelay

open Concurrent Program

/-! # What an agent knows of its tunnels

An agent is told all its tunnels when it connects and when one of them is edited,
and each tunnel that is opened, switched or deleted later.  If it follows these
messages, it knows after every completed request which of its tunnels are enabled,
and with which configuration.
-/

/-- What an agent takes its enabled tunnels to be after a message. -/
def RelayMessage.follow (known : Uuid → Option TunnelConfig) (message : RelayMessage) : Uuid → Option TunnelConfig :=
  match message with
  | .syncTunnels tunnels => fun id => tunnels.find? fun config => config.id == id && config.enabled
  | .startTunnel config => Function.update known config.id (some config)
  | .stopTunnel id => Function.update known id none
  | _ => known

/-- The agent that a message welcomes to the channel. -/
def RelayMessage.welcomes : RelayMessage → Option Uuid
  | .authSuccess agentId _ _ => some agentId
  | _ => none

def World.known (world : World) (channel : Channel) : Uuid → Option TunnelConfig :=
  (world.sent channel).foldl RelayMessage.follow fun _ => none

section Tables

variable [Externals] {db after : Database} {drawn later : List Uuid} {agentId tunnelId : Uuid}

/-- The enabled tunnels of an agent. -/
def Db.enabledTunnels (db : Database) (agentId tunnelId : Uuid) : Option TunnelConfig :=
  (db.tunnels.find? fun row => row.id == uuidToString tunnelId && row.agentId == uuidToString agentId && row.enabled).map
    (tunnelConfig tunnelId agentId)

/-- The row of an enabled tunnel of the agent. -/
structure TunnelRecord.Opens (row : TunnelRecord) (agentId tunnelId : Uuid) : Prop where
  named : row.id = uuidToString tunnelId
  attached : row.agentId = uuidToString agentId
  enabled : row.enabled = true

theorem enabledTunnels_row {row : TunnelRecord} (consistent : Consistent db drawn) (listed : row ∈ db.tunnels)
    (opens : row.Opens agentId tunnelId) :
    Db.enabledTunnels db agentId tunnelId = some (tunnelConfig tunnelId agentId row) := by
  unfold Db.enabledTunnels
  cases found : db.tunnels.find? fun row =>
      row.id == uuidToString tunnelId && row.agentId == uuidToString agentId && row.enabled with
  | none =>
      have missed := List.find?_eq_none.mp found row listed
      simp [opens.named, opens.attached, opens.enabled] at missed
  | some other =>
      have there := List.mem_of_find?_eq_some found
      have matching := List.find?_some found
      simp only [Bool.and_eq_true, beq_iff_eq] at matching
      rw [List.inj_on_of_nodup_map consistent.tunnelIds there listed (matching.1.1.trans opens.named.symm)]
      rfl

theorem enabledTunnels_none (closed : ∀ row ∈ db.tunnels, ¬ row.Opens agentId tunnelId) :
    Db.enabledTunnels db agentId tunnelId = none := by
  unfold Db.enabledTunnels
  rw [Option.map_eq_none_iff, List.find?_eq_none]
  intro row listed matching
  simp only [Bool.and_eq_true, beq_iff_eq] at matching
  exact closed row listed ⟨matching.1.1, matching.1.2, matching.2⟩

/-- The same rows of a tunnel in two tables. -/
theorem enabledTunnels_congr (consistent : Consistent db drawn) (consistent' : Consistent after later)
    (same : ∀ row : TunnelRecord, row.Opens agentId tunnelId → (row ∈ after.tunnels ↔ row ∈ db.tunnels)) :
    Db.enabledTunnels after agentId tunnelId = Db.enabledTunnels db agentId tunnelId := by
  by_cases there : ∃ row ∈ db.tunnels, row.Opens agentId tunnelId
  · obtain ⟨row, listed, opens⟩ := there
    rw [enabledTunnels_row consistent listed opens, enabledTunnels_row consistent' ((same row opens).mpr listed) opens]
  · rw [enabledTunnels_none fun row listed opens => there ⟨row, listed, opens⟩,
      enabledTunnels_none fun row listed opens => there ⟨row, (same row opens).mp listed, opens⟩]

/-- A change of no row but that of one tunnel, which stays with its agent. -/
structure Db.Touches (db after : Database) (agentId tunnelId : Uuid) : Prop where
  others : ∀ row : TunnelRecord, row.id ≠ uuidToString tunnelId → (row ∈ after.tunnels ↔ row ∈ db.tunnels)
  before : ∀ row ∈ db.tunnels, row.id = uuidToString tunnelId → row.agentId = uuidToString agentId
  afterwards : ∀ row ∈ after.tunnels, row.id = uuidToString tunnelId → row.agentId = uuidToString agentId

namespace Db.Touches

variable {other : Uuid}

theorem stranger (touches : Touches db after agentId tunnelId) (consistent : Consistent db drawn)
    (consistent' : Consistent after later) (apart : other ≠ agentId) :
    enabledTunnels after other = enabledTunnels db other := by
  funext id
  refine enabledTunnels_congr consistent consistent' fun row opens => ?_
  by_cases named : row.id = uuidToString tunnelId
  · have stays : ∀ owner, row.agentId = uuidToString owner → owner = other := fun owner owned =>
      uuidToString_injective (owned.symm.trans opens.attached)
    exact ⟨fun listed => absurd (stays agentId (touches.afterwards row listed named)).symm apart,
      fun listed => absurd (stays agentId (touches.before row listed named)).symm apart⟩
  · exact touches.others row named

theorem own (touches : Touches db after agentId tunnelId) (consistent : Consistent db drawn)
    (consistent' : Consistent after later) : enabledTunnels after agentId =
      Function.update (enabledTunnels db agentId) tunnelId (enabledTunnels after agentId tunnelId) := by
  funext id
  by_cases same : id = tunnelId
  · rw [same, Function.update_self]
  · rw [Function.update_of_ne same]
    refine enabledTunnels_congr consistent consistent' fun row opens => touches.others row fun named => same ?_
    exact uuidToString_injective (opens.named.symm.trans named)

/-- The row of the tunnel is rewritten. -/
theorem rewritten {tunnel : TunnelRecord} {change : TunnelRecord → TunnelRecord} (consistent : Consistent db drawn)
    (listed : tunnel ∈ db.tunnels) (named : tunnel.id = uuidToString tunnelId)
    (attached : tunnel.agentId = uuidToString agentId)
    (keeps : ∀ row, (change row).id = row.id ∧ (change row).agentId = row.agentId) :
    Touches db { db with tunnels := db.tunnels.map fun row => if row.id == tunnel.id then change row else row }
      agentId tunnelId where
  others row other := by
    rw [← named] at other
    simp only [List.mem_map]
    constructor
    · rintro ⟨old, there, rfl⟩
      by_cases hit : (old.id == tunnel.id) = true
      · rw [if_pos hit] at other
        exact absurd ((keeps old).1.trans (eq_of_beq hit)) other
      · rwa [if_neg hit]
    · intro there
      exact ⟨row, there, if_neg fun hit => other (eq_of_beq hit)⟩
  before row there same := by
    rwa [List.inj_on_of_nodup_map consistent.tunnelIds there listed (same.trans named.symm)]
  afterwards row there same := by
    obtain ⟨old, was, rfl⟩ := List.mem_map.mp there
    have stays : old.id = uuidToString tunnelId ∧
        (if old.id == tunnel.id then change old else old).agentId = old.agentId := by
      split at same
      · rename_i hit
        exact ⟨(keeps old).1.symm.trans same, by rw [if_pos hit, (keeps old).2]⟩
      · rename_i missed
        exact ⟨same, by rw [if_neg missed]⟩
    rw [stays.2, List.inj_on_of_nodup_map consistent.tunnelIds was listed (stays.1.trans named.symm)]
    exact attached

theorem removed {tunnel : TunnelRecord} (consistent : Consistent db drawn) (listed : tunnel ∈ db.tunnels)
    (named : tunnel.id = uuidToString tunnelId) (attached : tunnel.agentId = uuidToString agentId) :
    Touches db { db with tunnels := db.tunnels.filter (·.id != tunnel.id) } agentId tunnelId where
  others row other := by
    rw [← named] at other
    simp [other]
  before row there same := by
    rwa [List.inj_on_of_nodup_map consistent.tunnelIds there listed (same.trans named.symm)]
  afterwards row there same := by
    have left := (List.mem_filter.mp there).2
    simp [same, named] at left

theorem appended {row : TunnelRecord} (fresh : ∀ other ∈ db.tunnels, other.id ≠ row.id)
    (named : row.id = uuidToString tunnelId) (attached : row.agentId = uuidToString agentId) :
    Touches db { db with tunnels := db.tunnels ++ [row] } agentId tunnelId where
  others other apart := by
    have different : other ≠ row := fun same => apart (same ▸ named)
    simp [different]
  before other there same := absurd (same.trans named.symm) (fresh other there)
  afterwards other there same := by
    rcases List.mem_append.mp there with old | new
    · exact absurd (same.trans named.symm) (fresh other old)
    · rw [List.mem_singleton.mp new]
      exact attached

end Db.Touches

end Tables

section Runs

variable [Externals] {world after : World} {portRange : UInt16 × UInt16} {spared : Uuid → Prop}
  {agentId tunnelId : Uuid} {channel : Channel}

/-- Every agent that is connected has a channel of its own, on which it has been
welcomed, and knows its enabled tunnels, but for those spared. -/
structure World.InformsBut (spared : Uuid → Prop) (world : World) : Prop where
  apart : ∀ agentId other channel, world.agentSenders agentId = some channel →
    world.agentSenders other = some channel → agentId = other
  welcomed : ∀ agentId channel, world.agentSenders agentId = some channel →
    ∃ message ∈ world.sent channel, message.welcomes = some agentId
  knows : ∀ agentId channel, world.agentSenders agentId = some channel → ¬ spared agentId →
    world.known channel = Db.enabledTunnels world.db agentId

abbrev World.Informs (world : World) : Prop := world.InformsBut fun _ => False

/-- No session speaks for two agents, and the calls whose failure the handlers
ignore succeed. -/
def keepsInformed (world : World) (choice : Choice) : Op → Bool
  | .insertAgentSender agentId sender =>
      (world.sent sender).all fun message => message.welcomes.all (· == agentId)
  | .db (.setTunnelEnabled ..) | .db (.deleteTunnel _) | .db (.listTunnelsForAgent _) => (choice.refuses 0).isNone
  | _ => true

/-- The relay in which no agent is left uninformed. -/
abbrev informing : System relaySignature := relay.restrict keepsInformed

/-! ## What is handed to the channels -/

/-- The messages that change what an agent knows. -/
def RelayMessage.informs : RelayMessage → Bool
  | .syncTunnels _ | .startTunnel _ | .stopTunnel _ => true
  | _ => false

omit [Externals] in
theorem known_send {message : RelayMessage} {other : Channel} (sent : after.sent =
    Function.update world.sent channel (world.sent channel ++ [message])) :
    after.known other = if other = channel then message.follow (world.known channel) else world.known other := by
  unfold World.known
  rw [sent]
  split
  · rename_i same
    rw [same, Function.update_self, List.foldl_append]
    rfl
  · rename_i different
    rw [Function.update_of_ne different]

omit [Externals] in
theorem follow_plain {known : Uuid → Option TunnelConfig} {message : RelayMessage}
    (plain : message.informs = false) : message.follow known = known := by
  cases message with
  | syncTunnels | startTunnel | stopTunnel => contradiction
  | _ => rfl

/-- The operations that can leave an agent uninformed. -/
def Op.informs : Op → Prop
  | .insertAgentSender .. => True
  | .db query => query.writesTunnels = true
  | .send _ message => message.informs = true
  | _ => False

/-- Nothing has been handed to any channel, and no row or registration has changed. -/
structure World.Unheard (world after : World) : Prop where
  db : after.db = world.db
  senders : after.agentSenders = world.agentSenders
  sent : after.sent = world.sent

omit [Externals] in
theorem World.Unheard.trans {middle : World} (first : world.Unheard middle) (second : middle.Unheard after) :
    world.Unheard after :=
  ⟨second.db.trans first.db, second.senders.trans first.senders, second.sent.trans first.sent⟩

namespace World.InformsBut

theorem same (informs : world.InformsBut spared) (tunnels : after.db.tunnels = world.db.tunnels)
    (senders : after.agentSenders = world.agentSenders) (sent : after.sent = world.sent) : after.InformsBut spared where
  apart := by
    rw [senders]
    exact informs.apart
  welcomed := by
    rw [senders, sent]
    exact informs.welcomed
  knows agentId channel registered counted := by
    rw [senders] at registered
    have knows := informs.knows agentId channel registered counted
    unfold known Db.enabledTunnels at knows ⊢
    rw [sent, tunnels]
    exact knows

theorem unheard (informs : world.InformsBut spared) (unheard : world.Unheard after) : after.InformsBut spared :=
  informs.same (congrArg Database.tunnels unheard.db) unheard.senders unheard.sent

theorem mono {fewer : Uuid → Prop} (informs : world.InformsBut fewer)
    (weaker : ∀ agentId channel, world.agentSenders agentId = some channel → fewer agentId → spared agentId) :
    world.InformsBut spared :=
  ⟨informs.apart, informs.welcomed, fun agentId channel registered counted =>
    informs.knows agentId channel registered fun spares => counted (weaker agentId channel registered spares)⟩

theorem welcomed_send (informs : world.InformsBut spared) (message : RelayMessage) (other : Uuid) (own : Channel)
    (registered : world.agentSenders other = some own) :
    ∃ welcome ∈ Function.update world.sent channel (world.sent channel ++ [message]) own,
      welcome.welcomes = some other := by
  obtain ⟨welcome, member, greets⟩ := informs.welcomed other own registered
  refine ⟨welcome, ?_, greets⟩
  by_cases same : own = channel
  · rw [same, Function.update_self]
    exact List.mem_append_left _ (same ▸ member)
  · rwa [Function.update_of_ne same]

/-- A message to the channel of the one agent that is spared. -/
theorem tell {message : RelayMessage} (informs : world.InformsBut (· = agentId))
    (registered : world.agentSenders agentId = some channel)
    (follows : message.follow (world.known channel) = Db.enabledTunnels world.db agentId) :
    World.Informs { world with
      sent := Function.update world.sent channel (world.sent channel ++ [message]) } where
  apart := informs.apart
  welcomed := informs.welcomed_send message
  knows other own there _ := by
    rw [known_send rfl]
    split
    · rename_i same
      rw [informs.apart other agentId channel (same ▸ there) registered]
      exact follows
    · rename_i different
      refine informs.knows other own there fun spared => different ?_
      exact Option.some.inj ((spared ▸ there).symm.trans registered)

theorem plain {message : RelayMessage} (informs : world.InformsBut spared) (plain : message.informs = false) :
    World.InformsBut spared { world with
      sent := Function.update world.sent channel (world.sent channel ++ [message]) } where
  apart := informs.apart
  welcomed := informs.welcomed_send message
  knows other own there counted := by
    rw [known_send rfl, follow_plain plain]
    split
    · rename_i same
      exact same ▸ informs.knows other own there counted
    · exact informs.knows other own there counted

theorem unregister (informs : world.InformsBut spared) : World.InformsBut spared { world with
    agentSenders := Function.update world.agentSenders agentId none } := by
  have left {other : Uuid} {own : Channel}
      (there : Function.update world.agentSenders agentId none other = some own) :
      world.agentSenders other = some own := by
    by_cases same : other = agentId
    · rw [same, Function.update_self] at there
      contradiction
    · rwa [Function.update_of_ne same] at there
  exact ⟨fun one two own there there' => informs.apart one two own (left there) (left there'),
    fun other own there => informs.welcomed other own (left there),
    fun other own there counted => informs.knows other own (left there) counted⟩

theorem touched {db : Database} {drawn : List Uuid} (informs : world.Informs)
    (touches : Db.Touches world.db db agentId tunnelId) (consistent : Consistent world.db world.drawn)
    (consistent' : Consistent db drawn) : World.InformsBut (· = agentId) { world with db, drawn } where
  apart := informs.apart
  welcomed := informs.welcomed
  knows other own there counted :=
    (informs.knows other own there id).trans (touches.stranger consistent consistent' counted).symm

/-- An operation that can leave no agent uninformed. -/
theorem exec {choice : Choice} {op : Op} {result : op.Result} (informs : world.InformsBut spared)
    (calm : ¬ op.informs) (executed : TunnelitRelay.exec world choice op = some (after, result)) :
    after.InformsBut spared := by
  cases op with
  | db query =>
      obtain ⟨rfl, _, _⟩ := exec_db executed
      exact informs.same (Query.run_tunnels (Bool.eq_false_iff.mpr calm)) rfl rfl
  | insertAgentSender => exact absurd trivial calm
  | removeAgentSender =>
      cases executed
      exact informs.unregister
  | send sender message =>
      cases executed
      exact informs.plain (Bool.eq_false_iff.mpr calm)
  | allocatePort | bind | sessionLocals =>
      simp only [TunnelitRelay.exec] at executed
      split at executed <;> cases executed <;> exact informs.same rfl rfl rfl
  | newUuid | enqueueData =>
      simp only [TunnelitRelay.exec] at executed
      split_ifs at executed <;> cases executed <;> exact informs.same rfl rfl rfl
  | _ =>
      cases executed
      exact informs.same rfl rfl rfl

end World.InformsBut

/-! ## Jobs that inform nobody -/

def Job.plain : Job → Bool
  | .claimAgent .. | .deleteAgent _ | .createTunnel .. | .updateTunnel .. | .toggleTunnel _ | .deleteTunnel _
  | .frame _ (.message (.auth ..)) => false
  | _ => true

omit [Externals] in
/-- A plain job that sends nothing performs nothing that informs. -/
theorem performs_plain {job : Job} (plain : job.plain = true)
    (silent : ∀ sender message, job.performs (.send sender message) = false) (op : Op) (told : op.informs) :
    job.performs op = false := by
  have rest : (∀ agentId sender, job.performs (.insertAgentSender agentId sender) = false) ∧
      ∀ query, query.writesTunnels = true → job.performs (.db query) = false := by
    cases job with
    | claimAgent | deleteAgent | createTunnel | updateTunnel | toggleTunnel | deleteTunnel => contradiction
    | frame session frame =>
        rcases frame with message | _ | _
        · cases message with
          | auth => contradiction
          | _ => exact ⟨fun _ _ => rfl, fun query writes => by cases query <;> first | rfl | contradiction⟩
        all_goals exact ⟨fun _ _ => rfl, fun query writes => by cases query <;> first | rfl | contradiction⟩
    | _ => exact ⟨fun _ _ => rfl, fun query writes => by cases query <;> first | rfl | contradiction⟩
  unfold Op.informs at told
  split at told
  · exact rest.1 _ _
  · exact rest.2 _ told
  · exact silent _ _
  · contradiction

omit [Externals] in
theorem requestClaim_plain {session : SessionId} {hostname : String} :
    (requestClaim session hostname).Avoids Op.informs := by
  refine .guarded (.bind (access_avoids (by simp [Op.informs, Query.writesTunnels])) fun created => ?_)
  rcases created with _ | ⟨record, code⟩
  · exact access_avoids (by simp [Op.informs, RelayMessage.informs])
  · refine .bind (access_avoids (by simp [Op.informs])) fun _ => ?_
    refine .bind (.guarded (access_avoids (by simp [Op.informs]))) fun _ => ?_
    exact access_avoids (by simp [Op.informs, RelayMessage.informs])

theorem serve_plain {job : Job} (plain : job.plain = true) : (serve job).Avoids Op.informs := by
  by_cases silent : ∀ sender message, job.performs (.send sender message) = false
  · exact (serve_footprint job).mono (performs_plain plain silent)
  -- What remains are the answers to the session itself.
  have sends : ∃ session message, job = .frame session (.message message) ∧
      ((∃ hostname, message = .requestClaim hostname) ∨ message = .ping) := by
    cases job with
    | claimAgent | deleteAgent | createTunnel | updateTunnel | toggleTunnel | deleteTunnel => contradiction
    | frame session frame =>
        rcases frame with message | _ | _
        · cases message with
          | auth => contradiction
          | requestClaim hostname => exact ⟨session, _, rfl, .inl ⟨hostname, rfl⟩⟩
          | ping => exact ⟨session, _, rfl, .inr rfl⟩
          | _ => exact absurd (fun _ _ => rfl) silent
        all_goals exact absurd (fun _ _ => rfl) silent
    | _ => exact absurd (fun _ _ => rfl) silent
  obtain ⟨session, _, rfl, ⟨hostname, rfl⟩ | rfl⟩ := sends
  all_goals
    refine .bind ?_ fun _ => trivial
    refine .bind ?_ fun _ => access_avoids (by simp [Op.informs])
  · exact requestClaim_plain
  · exact access_avoids (by simp [Op.informs, RelayMessage.informs])

theorem World.InformsBut.plainly {job : Job} (informs : world.Informs) (plain : job.plain = true) :
    (serve job).Always informing (fun after _ => World.Informs after) world :=
  Avoids.always (serve_plain plain) (fun calm kept executed =>
    World.InformsBut.exec kept calm (System.restrict_exec.mp executed).2) informs

/-! ## Synchronisation -/

theorem startTunnelListener_unheard {tunnel : TunnelConfig} {sender : Channel} :
    (startTunnelListener tunnel sender).Always informing (fun after _ => world.Unheard after) world := by
  have avoids : (startTunnelListener tunnel sender).Avoids fun op : Op => op.listens = false :=
    startTunnelListener_within fun op listens => by simp [listens]
  refine Avoids.always avoids (fun {_ op _ _ _} listens unheard executed => ?_) ⟨rfl, rfl, rfl⟩
  obtain ⟨_, executed⟩ := System.restrict_exec.mp executed
  cases op with
  | enterStartTunnelListener | removeTunnelTask | spawnProxy | insertTunnelTask =>
      cases executed
      exact ⟨unheard.db, unheard.senders, unheard.sent⟩
  | bind =>
      simp only [exec] at executed
      split at executed <;> cases executed <;> exact unheard
  | _ => exact absurd rfl listens

theorem syncRows_unheard {sender : Channel} {rows : List TunnelRecord} :
    (syncRows agentId sender rows).Always informing (fun after configs => world.Unheard after ∧
      configs = rows.filterMap fun row => (parseUuid row.id).map fun tunnelId => tunnelConfig tunnelId agentId row) world := by
  induction rows generalizing world with
  | nil => exact ⟨⟨rfl, rfl, rfl⟩, rfl⟩
  | cons tunnel rest ih =>
      simp only [syncRows]
      cases parsed : parseUuid tunnel.id with
      | none =>
          refine ih.mono fun after configs ends => ⟨ends.1, ?_⟩
          simp [ends.2, parsed]
      | some tunnelId =>
          dsimp only
          split
          · refine always_bind.mpr (always_guarded.mpr fun choice reserved result executed => ?_)
            cases (System.restrict_exec.mp executed).2
            refine always_bind.mpr (startTunnelListener_unheard.mono fun middle _ first => ?_)
            refine always_bind.mpr (ih.mono fun after configs ends => ⟨?_, ?_⟩)
            · exact World.Unheard.trans ⟨first.db, first.senders, first.sent⟩ ends.1
            · simp [ends.2, parsed]
          · refine always_bind.mpr (ih.mono fun after configs ends => ⟨ends.1, ?_⟩)
            simp [ends.2, parsed]

/-- The agent that follows a synchronisation knows its enabled tunnels. -/
theorem follow_sync {db : Database} {drawn : List Uuid} {rows : List TunnelRecord}
    {known : Uuid → Option TunnelConfig} (consistent : Consistent db drawn)
    (listed : ∀ row, row ∈ rows ↔ row ∈ db.tunnels ∧ row.agentId = uuidToString agentId) :
    (RelayMessage.syncTunnels (rows.filterMap fun row => (parseUuid row.id).map fun tunnelId =>
      tunnelConfig tunnelId agentId row)).follow known = Db.enabledTunnels db agentId := by
  funext id
  unfold RelayMessage.follow
  dsimp only
  cases found : (rows.filterMap fun row => (parseUuid row.id).map fun tunnelId =>
      tunnelConfig tunnelId agentId row).find? fun config => config.id == id && config.enabled with
  | none =>
      rw [enabledTunnels_none]
      intro row there opens
      have member : tunnelConfig id agentId row ∈ rows.filterMap fun row => (parseUuid row.id).map fun tunnelId =>
          tunnelConfig tunnelId agentId row := by
        refine List.mem_filterMap.mpr ⟨row, (listed row).mpr ⟨there, opens.attached⟩, ?_⟩
        rw [opens.named, parseUuid_uuidToString, Option.map_some]
      have missed := List.find?_eq_none.mp found _ member
      simp [tunnelConfig, opens.enabled] at missed
  | some config =>
      obtain ⟨row, member, made⟩ := List.mem_filterMap.mp (List.mem_of_find?_eq_some found)
      obtain ⟨tunnelId, parsed, rfl⟩ := Option.map_eq_some_iff.mp made
      obtain ⟨there, attached⟩ := (listed row).mp member
      have matching := List.find?_some found
      simp only [tunnelConfig, Bool.and_eq_true, beq_iff_eq] at matching
      obtain ⟨rfl, enabled⟩ := matching
      rw [enabledTunnels_row consistent there ⟨consistent.spelled there parsed, attached, enabled⟩]

theorem syncAgentTunnels_informs {sender : Channel} (informs : world.InformsBut (· = agentId))
    (consistent : Consistent world.db world.drawn) (registered : world.agentSenders agentId = some sender) :
    (syncAgentTunnels agentId sender).Always informing (fun after _ => World.Informs after) world := by
  refine always_bind.mpr (query_restricted fun choice meets _ => ?_)
  have accepted : choice.refuses 0 = none := by simpa [keepsInformed] using meets
  simp only [Query.run, Db.listTunnelsForAgent, Choice.statement, accepted, rowsOrNone]
  refine always_bind.mpr (syncRows_unheard.mono fun listening configs ends => ?_)
  obtain ⟨unheard, rfl⟩ := ends
  intro choice' after result executed
  cases (System.restrict_exec.mp executed).2
  refine World.InformsBut.tell (informs.unheard ⟨unheard.db, unheard.senders, unheard.sent⟩) ?_ ?_
  · rw [unheard.senders]
    exact registered
  · rw [unheard.db]
    refine follow_sync consistent fun row => ?_
    simp [Db.oldestFirst]

/-! ## Connecting and deleting an agent -/

namespace World.InformsBut

theorem unconnected (nobody : ∀ agentId, world.agentSenders agentId = none) : world.InformsBut spared := by
  constructor <;> simp [nobody]

/-- An agent without a channel has nothing to know. -/
theorem absent (informs : world.InformsBut (· = agentId)) (gone : world.agentSenders agentId = none) :
    world.Informs :=
  informs.mono fun other channel registered same => by
    rw [same, gone] at registered
    contradiction

/-- An agent is registered and welcomed on a channel that no other agent has. -/
theorem connect {name token : String} (informs : world.Informs)
    (free : ∀ other, world.agentSenders other = some channel → other = agentId) :
    World.InformsBut (· = agentId) { world with
      agentSenders := Function.update world.agentSenders agentId (some channel)
      sent := Function.update world.sent channel (world.sent channel ++ [.authSuccess agentId name token]) } := by
  have before : World.Informs { world with
      sent := Function.update world.sent channel (world.sent channel ++ [.authSuccess agentId name token]) } :=
    informs.plain rfl
  have either {other : Uuid} {own : Channel}
      (there : Function.update world.agentSenders agentId (some channel) other = some own) :
      other = agentId ∧ own = channel ∨ other ≠ agentId ∧ world.agentSenders other = some own := by
    by_cases same : other = agentId
    · rw [same, Function.update_self] at there
      exact .inl ⟨same, (Option.some.inj there).symm⟩
    · exact .inr ⟨same, by rwa [Function.update_of_ne same] at there⟩
  refine ⟨?_, ?_, ?_⟩
  · intro one two own there there'
    rcases either there with ⟨rfl, rfl⟩ | ⟨_, old⟩ <;> rcases either there' with ⟨rfl, same⟩ | ⟨_, old'⟩
    · rfl
    · exact (free two old').symm
    · exact free one (same ▸ old)
    · exact informs.apart one two own old old'
  · intro other own there
    rcases either there with ⟨rfl, rfl⟩ | ⟨_, old⟩
    · refine ⟨.authSuccess other name token, ?_, rfl⟩
      dsimp only
      rw [Function.update_self]
      exact List.mem_append_right _ (List.mem_singleton.mpr rfl)
    · exact before.welcomed other own old
  · intro other own there counted
    rcases either there with ⟨rfl, _⟩ | ⟨_, old⟩
    · exact absurd rfl counted
    · exact before.knows other own old id

/-- The rows of an agent that has no channel are deleted. -/
theorem deleted {choice : Choice} {id : String} {drawn : List Uuid} (informs : world.Informs)
    (consistent : Consistent world.db world.drawn)
    (gone : ∀ owner, uuidToString owner = id → world.agentSenders owner = none) :
    World.Informs { world with db := (Query.run choice world.portRange world.db (.deleteAgent id)).1, drawn } := by
  have change := @Query.run_change _ choice world.portRange world.db (.deleteAgent id)
  generalize (Query.run choice world.portRange world.db (.deleteAgent id)).1 = db at change
  refine ⟨informs.apart, informs.welcomed, fun other own registered _ => ?_⟩
  refine (informs.knows other own registered fun none => none).trans (Eq.symm ?_)
  have apart : uuidToString other ≠ id := by
    intro same
    have registered' : world.agentSenders other = some own := registered
    rw [gone other same] at registered'
    contradiction
  funext tunnelId
  refine enabledTunnels_congr consistent (consistent.change change) fun row opens => ?_
  cases change with
  | kept => rfl
  | detached | deleted => simp [opens.attached, apart]

end World.InformsBut

/-- The last part of a session's login and of a claim. -/
theorem connectAgent_informs {id name token : String} {hostname : Option String} {sender : Channel}
    (informs : world.Informs) (consistent : Consistent world.db world.drawn) : (do
      let _ ← query (.setAgentOnline id true hostname)
      withLock .agentSenders .exclusive (access (.insertAgentSender agentId sender))
      access (.send sender (.authSuccess agentId name token))
      syncAgentTunnels agentId sender : Relay Unit).Always informing (fun after _ => World.Informs after) world := by
  refine always_bind.mpr (query_restricted fun choice _ _ => ?_)
  have later := consistent.change
    (@Query.run_change _ choice world.portRange world.db (.setAgentOnline id true hostname))
  refine always_bind.mpr (always_guarded.mpr fun choice' registered result executed => ?_)
  obtain ⟨meets, executed⟩ := System.restrict_exec.mp executed
  cases executed
  intro choice'' told result executed
  cases (System.restrict_exec.mp executed).2
  refine syncAgentTunnels_informs ?_ later (Function.update_self ..)
  refine (World.InformsBut.connect informs fun other there => ?_).same (Query.run_tunnels rfl) rfl rfl
  obtain ⟨welcome, member, greets⟩ := informs.welcomed other sender there
  have allowed := List.all_eq_true.mp meets welcome member
  simpa [greets] using allowed

theorem auth_informs {session : SessionId} {token hostname : String} (informs : world.Informs)
    (consistent : Consistent world.db world.drawn) :
    (auth session token hostname).Always informing (fun after _ => World.Informs after) world := by
  have told {world : World} (informs : world.Informs) {message : RelayMessage} (plain : message.informs = false) :
      (access (.send session message)).Always informing (fun after _ => World.Informs after) world := by
    intro choice sent result executed
    cases (System.restrict_exec.mp executed).2
    exact informs.plain plain
  refine always_bind.mpr (query_restricted fun choice _ _ => ?_)
  match (Query.run choice world.portRange world.db (.getAgentByToken token)).2 with
  | .error _ | .ok none => exact told informs rfl
  | .ok (some agent) =>
      dsimp only
      split
      · refine always_bind.mpr fun choice noted result executed => ?_
        cases (System.restrict_exec.mp executed).2
        refine always_bind.mpr (always_guarded.mpr fun choice entered result executed => ?_)
        cases (System.restrict_exec.mp executed).2
        refine told ?_ ?_
        · exact informs.same rfl rfl rfl
        · rfl
      · split
        · exact told informs rfl
        · intro choice noted result executed
          cases (System.restrict_exec.mp executed).2
          exact connectAgent_informs (informs.same rfl rfl rfl) consistent

theorem claimAgent_informs {code : String} {headers : HeaderMap} (informs : world.Informs)
    (consistent : Consistent world.db world.drawn) :
    (claimAgent code headers).Always informing (fun after _ => World.Informs after) world := by
  refine always_bind.mpr ((Always.restrict getCurrentUserId_stays).mono fun same user stays => ?_)
  subst stays
  cases user with
  | none => exact informs
  | some userId =>
      refine always_bind.mpr (query_restricted fun choice _ _ => ?_)
      have kept : World.Informs { same with
          db := (Query.run choice same.portRange same.db (.claimAgentToUser code userId)).1
          drawn := same.drawn } := informs.same (Query.run_tunnels rfl) rfl rfl
      have later := consistent.change
        (@Query.run_change _ choice same.portRange same.db (.claimAgentToUser code userId))
      match (Query.run choice same.portRange same.db (.claimAgentToUser code userId)).2 with
      | .error (.error _) | .error .panicked | .ok none => exact kept
      | .ok (some agent) =>
          dsimp only
          split
          · exact kept
          · refine always_bind.mpr (always_guarded.mpr fun choice unclaimed sender executed => ?_)
            cases (System.restrict_exec.mp executed).2
            refine always_bind.mpr ?_
            cases same.pendingClaims code with
            | none => exact kept.same rfl rfl rfl
            | some sender =>
                refine (connectAgent_informs ?_ ?_).mono fun _ _ ends => ends
                · exact kept.same rfl rfl rfl
                · exact later

theorem deleteAgent_informs {id : String} (informs : world.Informs) (consistent : Consistent world.db world.drawn) :
    (deleteAgent id).Always informing (fun after _ => World.Informs after) world := by
  have last {world : World} (informs : world.Informs) (consistent : Consistent world.db world.drawn)
      (gone : ∀ owner, uuidToString owner = id → world.agentSenders owner = none) :
      ((query (.deleteAgent id)).bind fun _ => (done (.status .ok) : Relay Reply)).Always informing
        (fun after _ => World.Informs after) world :=
    always_bind.mpr (query_restricted fun choice _ _ => informs.deleted consistent gone)
  refine always_bind.mpr ?_
  cases parsed : parseUuid id with
  | none =>
      refine last informs consistent fun owner same => ?_
      rw [← same, parseUuid_uuidToString] at parsed
      contradiction
  | some agentId =>
      refine always_guarded.mpr fun choice unregistered sender executed => ?_
      cases (System.restrict_exec.mp executed).2
      have left : World.Informs { world with
          agentSenders := Function.update world.agentSenders agentId none } := informs.unregister
      have gone : ∀ owner, uuidToString owner = id →
          Function.update world.agentSenders agentId none owner = none := by
        intro owner same
        rw [← same, parseUuid_uuidToString, Option.some.injEq] at parsed
        rw [parsed, Function.update_self]
      cases world.agentSenders agentId with
      | none => exact last left consistent gone
      | some channel =>
          intro choice told result executed
          cases (System.restrict_exec.mp executed).2
          exact last (left.plain rfl) consistent gone

/-! ## Editing, opening, switching and deleting a tunnel -/

theorem access_informing {op : Op} {rest : op.Result → Relay α} {post : World → α → Prop}
    (performed : ∀ choice after result, exec world choice op = some (after, result) →
      (rest result).Always informing post after) : ((access op).bind rest).Always informing post world :=
  fun choice after result executed => performed choice after result (System.restrict_exec.mp executed).2

theorem withLock_informing {op : Op} {lock : Lock} {mode : Mode} {post : World → op.Result → Prop}
    (performed : ∀ choice after result, exec world choice op = some (after, result) → post after result) :
    (withLock lock mode (access op)).Always informing post world :=
  always_guarded.mpr fun choice after result executed =>
    performed choice after result (System.restrict_exec.mp executed).2

/-- What the agent of a touched tunnel has to be told. -/
theorem World.InformsBut.knows_touched {db : Database} {drawn : List Uuid} (informs : world.Informs)
    (touches : Db.Touches world.db db agentId tunnelId) (consistent : Consistent world.db world.drawn)
    (consistent' : Consistent db drawn) (registered : world.agentSenders agentId = some channel) :
    Function.update (world.known channel) tunnelId (Db.enabledTunnels db agentId tunnelId) =
      Db.enabledTunnels db agentId := by
  rw [informs.knows agentId channel registered id, ← touches.own consistent consistent']

theorem resyncAgent_informs (informs : world.InformsBut (· = agentId)) (consistent : Consistent world.db world.drawn) :
    (resyncAgent agentId).Always informing (fun after _ => World.Informs after) world := by
  refine always_bind.mpr ?_
  refine always_bind.mpr ?_
  refine access_informing fun choice read sender executed => ?_
  cases executed
  cases registered : world.agentSenders agentId with
  | none => exact informs.absent registered
  | some channel => exact (syncAgentTunnels_informs informs consistent registered).mono fun _ _ ends => ends

theorem getTunnelById_listed {choice : Choice} {id : String} {tunnel : TunnelRecord}
    (answered : (Query.run choice world.portRange world.db (.getTunnelById id)).2 = .ok (some tunnel)) :
    tunnel ∈ world.db.tunnels ∧ tunnel.id = id := by
  have found := Except.ok.inj (Choice.statement_ok answered)
  exact ⟨List.mem_of_find?_eq_some found, by simpa using List.find?_some found⟩

theorem updateTunnel_informs {id : String} {body : UpdateTunnelRequest} (informs : world.Informs)
    (consistent : Consistent world.db world.drawn) :
    (updateTunnel id body).Always informing (fun after _ => World.Informs after) world := by
  refine always_bind.mpr ((read_always (fun _ _ _ => rfl) (fun _ => rfl) fun choice => ?_).restrict)
  cases answered : (Query.run choice world.portRange world.db (.getTunnelById id)).2 with
  | error failure => exact informs
  | ok found =>
      cases found with
      | none => exact informs
      | some tunnel =>
          obtain ⟨listed, rfl⟩ := getTunnelById_listed answered
          obtain ⟨tunnelId, agentId, parsed, owned, attached⟩ := consistent.parses listed
          refine always_bind.mpr ((Always.restrict subdomainTaken_stays).mono fun same taken stays => ?_)
          subst stays
          split
          · exact informs
          · refine always_bind.mpr (query_restricted fun choice _ _ => ?_)
            have change := @Query.run_change _ choice same.portRange same.db (.updateTunnel tunnel.id body.name
              body.localPort body.protocol (cleanSubdomain body.subdomain))
            cases written : (Query.run choice same.portRange same.db (.updateTunnel tunnel.id body.name body.localPort
                body.protocol (cleanSubdomain body.subdomain))).2 with
            | error failure =>
                have unchanged : (Query.run choice same.portRange same.db (.updateTunnel tunnel.id body.name
                    body.localPort body.protocol (cleanSubdomain body.subdomain))).1 = same.db :=
                  Database.write_failed written
                simp only [unchanged]
                exact informs
            | ok answer =>
                have later := consistent.change change
                generalize (Query.run choice same.portRange same.db (.updateTunnel tunnel.id body.name body.localPort
                  body.protocol (cleanSubdomain body.subdomain))).1 = db at change later
                have kept : World.InformsBut (· = agentId) { same with db, drawn := same.drawn } := by
                  cases change with
                  | kept => exact informs.mono fun _ _ _ none => none.elim
                  | edited =>
                      refine informs.touched (Db.Touches.rewritten consistent listed
                        (consistent.spelled listed parsed) attached fun row => ⟨?_, ?_⟩) consistent later <;> rfl
                refine always_bind.mpr ?_
                rw [owned]
                exact (resyncAgent_informs kept later).mono fun _ _ ends => ends

/-- The listener is started, and the agent told, if it is connected. -/
theorem startAnnounced_informs {config : TunnelConfig} (informs : world.InformsBut (· = agentId))
    (follows : ∀ channel, world.agentSenders agentId = some channel →
      Function.update (world.known channel) config.id (some config) = Db.enabledTunnels world.db agentId) :
    (ifSome (fun agentSender => (startTunnelListener config agentSender).bind fun _ =>
      access (.send agentSender (.startTunnel config))) (world.agentSenders agentId)).Always informing
        (fun after _ => World.Informs after) world := by
  cases registered : world.agentSenders agentId with
  | none => exact informs.absent registered
  | some channel =>
      refine always_bind.mpr (startTunnelListener_unheard.mono fun after _ unheard => ?_)
      intro choice told result executed
      cases (System.restrict_exec.mp executed).2
      refine World.InformsBut.tell (informs.unheard unheard) (unheard.senders ▸ registered) ?_
      have known : after.known channel = world.known channel := by rw [World.known, unheard.sent]; rfl
      rw [known, unheard.db]
      exact follows channel registered

/-- A message to the channel of the agent, if it has one. -/
theorem notify_informs {message : RelayMessage} (informs : world.InformsBut (· = agentId))
    (follows : ∀ channel, world.agentSenders agentId = some channel →
      message.follow (world.known channel) = Db.enabledTunnels world.db agentId) :
    (ifSome (fun sender => access (.send sender message)) (world.agentSenders agentId)).Always informing
      (fun after _ => World.Informs after) world := by
  cases registered : world.agentSenders agentId with
  | none => exact informs.absent registered
  | some channel =>
      intro choice told result executed
      cases (System.restrict_exec.mp executed).2
      exact informs.tell registered (follows channel registered)

theorem insertTunnel_informs {uid : String} {publicPort : UInt16} {body : CreateTunnelRequest}
    (informs : world.Informs) (consistent : Consistent world.db world.drawn)
    (parsed : parseUuid body.agentId = some agentId) :
    (insertTunnel uid agentId publicPort body).Always informing (fun after _ => World.Informs after) world := by
  refine always_bind.mpr (query_restricted fun choice _ drew => ?_)
  have later := consistent.change (@Query.run_change _ choice world.portRange world.db (.createTunnel body.agentId
    (some uid) body.name body.localPort body.protocol publicPort (cleanSubdomain body.subdomain)))
  cases inserted : (Query.run choice world.portRange world.db (.createTunnel body.agentId (some uid) body.name
      body.localPort body.protocol publicPort (cleanSubdomain body.subdomain))).2 with
  | error failure =>
      have unchanged : (Query.run choice world.portRange world.db (.createTunnel body.agentId (some uid) body.name
          body.localPort body.protocol publicPort (cleanSubdomain body.subdomain))).1 = world.db :=
        Database.write_failed inserted
      simp only [unchanged]
      exact informs.same rfl rfl rfl
  | ok record =>
      obtain ⟨shape, written⟩ := Database.write_done inserted
      obtain ⟨tables, unused, _⟩ := Db.insertTunnel_ok (Choice.statement_ok written)
      have tables' : (Query.run choice world.portRange world.db (.createTunnel body.agentId (some uid) body.name
          body.localPort body.protocol publicPort (cleanSubdomain body.subdomain))).1 =
            { world.db with tunnels := world.db.tunnels ++ [record] } := shape ▸ tables
      have named : record.id = uuidToString choice.id := by rw [shape]
      have listed : record ∈ world.db.tunnels ++ [record] := List.mem_append_right _ (List.mem_singleton.mpr rfl)
      rw [tables'] at later
      simp only [tables', named, parseUuid_uuidToString]
      obtain ⟨_, owner, _, owned, attached⟩ := later.parses listed
      have same : record.agentId = body.agentId := by rw [shape]
      rw [same, parsed, Option.some.injEq] at owned
      subst owned
      have touches : Db.Touches world.db { world.db with tunnels := world.db.tunnels ++ [record] } agentId choice.id :=
        .appended (shape ▸ unused) named attached
      have enabled : record.enabled = true := by rw [shape]
      have config : ({ tunnelConfig choice.id agentId record with publicPort, enabled := true } : TunnelConfig) =
          tunnelConfig choice.id agentId record := by
        have port : record.publicPort = publicPort := by rw [shape]
        simp [tunnelConfig, enabled, port]
      refine always_bind.mpr (always_bind.mpr ?_)
      refine access_informing fun choice' read sender executed => ?_
      cases executed
      refine (startAnnounced_informs (informs.touched touches consistent later) fun channel registered => ?_).mono
        fun _ _ ends => ends
      have told := informs.knows_touched touches consistent later registered
      rw [enabledTunnels_row later listed ⟨named, attached, enabled⟩] at told
      rw [config]
      exact told

theorem createTunnel_informs {headers : HeaderMap} {body : CreateTunnelRequest} (informs : world.Informs)
    (consistent : Consistent world.db world.drawn) :
    (createTunnel headers body).Always informing (fun after _ => World.Informs after) world := by
  refine always_bind.mpr ((Always.restrict getCurrentUserId_stays).mono fun same user stays => ?_)
  subst stays
  cases user with
  | none => exact informs
  | some uid =>
      dsimp only
      split
      · exact informs
      rename_i agentId parsed
      refine always_bind.mpr ((Always.restrict subdomainTaken_stays).mono fun after taken stays => ?_)
      subst stays
      split
      · exact informs
      refine always_bind.mpr ((read_always (fun _ _ _ => rfl) (fun _ => rfl) fun choice => ?_).restrict)
      rcases (Query.run choice after.portRange after.db (.getUserById uid)).2 with failure | _ | user
      · exact informs
      · exact informs
      · refine always_bind.mpr (withLock_informing fun choice later reserved executed => ?_)
        have kept : later.Informs ∧ Consistent later.db later.drawn := by
          refine ⟨informs.exec id executed, ?_⟩
          simp only [exec] at executed
          split at executed <;> cases executed <;> exact consistent
        rcases reserved with _ | port
        · exact kept.1
        · dsimp only
          split
          · exact insertTunnel_informs kept.1 kept.2 parsed
          · exact kept.1

theorem toggleTunnel_informs {id : String} (informs : world.Informs) (consistent : Consistent world.db world.drawn) :
    (toggleTunnel id).Always informing (fun after _ => World.Informs after) world := by
  refine always_bind.mpr ((read_always (fun _ _ _ => rfl) (fun _ => rfl) fun choice => ?_).restrict)
  cases answered : (Query.run choice world.portRange world.db (.getTunnelById id)).2 with
  | error failure => exact informs
  | ok found =>
      cases found with
      | none => exact informs
      | some tunnel =>
          obtain ⟨listed, rfl⟩ := getTunnelById_listed answered
          obtain ⟨tunnelId, agentId, parsed, owned, attached⟩ := consistent.parses listed
          have named := consistent.spelled listed parsed
          simp only [parsed, owned]
          refine always_bind.mpr (query_restricted fun choice meets _ => ?_)
          have accepted : choice.refuses 0 = none := by simpa [keepsInformed] using meets
          have tables : (Query.run choice world.portRange world.db (.setTunnelEnabled tunnel.id (!tunnel.enabled))).1 =
              { world.db with tunnels := world.db.tunnels.map fun row =>
                if row.id == tunnel.id then { row with enabled := !tunnel.enabled } else row } := by
            simp only [Query.run, Db.setTunnelEnabled, Choice.statement, accepted, Database.write]
          have later := consistent.change (@Query.run_change _ choice world.portRange world.db
            (.setTunnelEnabled tunnel.id (!tunnel.enabled)))
          rw [tables] at later
          simp only [tables]
          have touches := @Db.Touches.rewritten _ _ _ _ _ tunnel (fun row => { row with enabled := !tunnel.enabled })
            consistent listed named attached fun row => ⟨rfl, rfl⟩
          have kept := informs.touched touches consistent later
          have told {channel : Channel} := @World.InformsBut.knows_touched _ _ _ _ channel _ _ informs touches
            consistent later
          have switched : { tunnel with enabled := !tunnel.enabled } ∈ world.db.tunnels.map fun row =>
              if row.id == tunnel.id then { row with enabled := !tunnel.enabled } else row :=
            List.mem_map.mpr ⟨tunnel, listed, by simp⟩
          refine always_bind.mpr (always_bind.mpr ?_)
          refine access_informing fun choice' read sender executed => ?_
          cases executed
          cases on : tunnel.enabled with
          | false =>
              simp only [on, Bool.not_false] at later kept told switched touches
              refine always_bind.mpr (always_bind.mpr (access_informing fun choice'' reserved result executed => ?_))
              cases executed
              have prepared : World.InformsBut (· = agentId) { world with
                  db := { world.db with tunnels := world.db.tunnels.map fun row =>
                    if row.id == tunnel.id then { row with enabled := true } else row }
                  drawn := world.drawn
                  allocatedPorts := insert tunnel.publicPort world.allocatedPorts } := kept.same rfl rfl rfl
              refine (startAnnounced_informs prepared fun channel registered => ?_).mono fun _ _ ends => ends
              have told := told registered
              rw [enabledTunnels_row later switched ⟨named, attached, rfl⟩] at told
              exact told
          | true =>
              simp only [on, Bool.not_true] at later kept told
              refine always_bind.mpr (withLock_informing fun choice'' stopped result executed => ?_)
              cases executed
              refine always_bind.mpr (withLock_informing fun choice'' released result executed => ?_)
              cases executed
              have stopped : World.InformsBut (· = agentId) { world with
                  db := { world.db with tunnels := world.db.tunnels.map fun row =>
                    if row.id == tunnel.id then { row with enabled := false } else row }
                  drawn := world.drawn
                  tunnelTasks := Function.update world.tunnelTasks tunnelId none
                  allocatedPorts := world.allocatedPorts.erase tunnel.publicPort } := kept.same rfl rfl rfl
              refine (notify_informs stopped fun channel registered => ?_).mono fun _ _ ends => ends
              have told := told registered
              rw [enabledTunnels_none] at told
              · exact told
              · intro row there opens
                obtain ⟨old, was, rfl⟩ := List.mem_map.mp there
                by_cases hit : (old.id == tunnel.id) = true
                · have off := opens.enabled
                  rw [if_pos hit] at off
                  contradiction
                · have same := opens.named
                  rw [if_neg hit] at same
                  exact hit (beq_iff_eq.mpr (same.trans named.symm))

theorem stopDeleted_tells {tunnel : TunnelRecord} (owned : parseUuid tunnel.agentId = some agentId) :
    (stopDeleted tunnel tunnelId).Always informing (fun after _ => after.db = world.db ∧ after.drawn = world.drawn ∧
      after.agentSenders = world.agentSenders ∧ after.sent = (world.agentSenders agentId).elim world.sent fun channel =>
        Function.update world.sent channel (world.sent channel ++ [.stopTunnel tunnelId])) world := by
  refine always_bind.mpr (withLock_informing fun choice stopped result executed => ?_)
  cases executed
  refine always_bind.mpr (withLock_informing fun choice released result executed => ?_)
  cases executed
  rw [owned]
  refine always_bind.mpr (access_informing fun choice read sender executed => ?_)
  cases executed
  cases registered : world.agentSenders agentId with
  | none => exact ⟨rfl, rfl, rfl, rfl⟩
  | some channel =>
      intro choice told result executed
      cases (System.restrict_exec.mp executed).2
      exact ⟨rfl, rfl, rfl, rfl⟩

theorem deleteTunnel_informs {id : String} (informs : world.Informs) (consistent : Consistent world.db world.drawn) :
    (deleteTunnel id).Always informing (fun after _ => World.Informs after) world := by
  refine always_bind.mpr ((read_always (fun _ _ _ => rfl) (fun _ => rfl) fun choice => ?_).restrict)
  cases answered : (Query.run choice world.portRange world.db (.getTunnelById id)).2 with
  | error failure => exact informs
  | ok found =>
      cases found with
      | none => exact informs
      | some tunnel =>
          obtain ⟨listed, rfl⟩ := getTunnelById_listed answered
          obtain ⟨tunnelId, agentId, parsed, owned, attached⟩ := consistent.parses listed
          have named := consistent.spelled listed parsed
          refine always_bind.mpr ?_
          rw [parsed]
          refine (stopDeleted_tells owned).mono fun stopped _ ends => ?_
          obtain ⟨db, drawn, senders, sent⟩ := ends
          refine always_bind.mpr (query_restricted fun choice meets _ => ?_)
          have accepted : choice.refuses 0 = none := by simpa [keepsInformed] using meets
          have tables : (Query.run choice stopped.portRange stopped.db (.deleteTunnel tunnel.id)).1 =
              { world.db with tunnels := world.db.tunnels.filter (·.id != tunnel.id) } := by
            simp only [Query.run, Db.deleteTunnel, Choice.statement, accepted, Database.write, db]
          have later := consistent.change (@Query.run_change _ choice stopped.portRange world.db (.deleteTunnel tunnel.id))
          rw [← db, tables] at later
          have touches := Db.Touches.removed consistent listed named attached
          have kept := informs.touched touches consistent later
          simp only [tables]
          cases registered : world.agentSenders agentId with
          | none =>
              rw [registered] at sent
              exact (kept.absent registered).same rfl senders sent
          | some channel =>
              rw [registered] at sent
              have told := informs.knows_touched touches consistent later registered
              rw [enabledTunnels_none] at told
              · have follows : RelayMessage.follow (world.known channel) (.stopTunnel tunnelId) = _ := told
                exact (World.InformsBut.tell kept registered follows).same rfl senders sent
              · intro row there opens
                have left := (List.mem_filter.mp there).2
                simp [opens.named, named] at left

/-! ## Runs -/

theorem serve_informs {job : Job} (informs : world.Informs) (consistent : Consistent world.db world.drawn) :
    (serve job).Always informing (fun after _ => World.Informs after) world := by
  cases plain : job.plain with
  | true => exact informs.plainly plain
  | false =>
      unfold Job.plain at plain
      split at plain
      · exact claimAgent_informs informs consistent
      · exact deleteAgent_informs informs consistent
      · exact createTunnel_informs informs consistent
      · exact updateTunnel_informs informs consistent
      · exact toggleTunnel_informs informs consistent
      · exact deleteTunnel_informs informs consistent
      · refine always_bind.mpr (always_bind.mpr ((auth_informs informs consistent).mono fun after _ kept => ?_))
        intro choice waiting result executed
        cases (System.restrict_exec.mp executed).2
        exact kept.same rfl rfl rfl
      · contradiction

theorem Completed.informs {state : informing.State}
    (completed : @Completed _ informing (fun _ _ => True) (World.initial portRange Database.empty []) state) :
    World.Informs state := by
  induction completed with
  | initial => exact .unconnected fun _ => rfl
  | @job before job after reply earlier _ performs ih =>
      obtain ⟨threads, reached, _⟩ := (@Completed.unrestrict _ relay keepsInformed _ _ _ earlier).reachable
      have consistent := Reached.consistent reached
      refine @Performs.always _ informing before after job reply (fun later _ => World.Informs later) performs
        fun admitted accepted => ?_
      obtain ⟨sessions, rfl⟩ := accept_same accepted
      exact serve_informs (World.InformsBut.same ih rfl rfl rfl) consistent
  | reboot => exact .unconnected fun _ => rfl

/-- After every sequence of completed requests and frames, restarts included, in
which no session speaks for two agents and no call whose failure is ignored fails,
an agent that is connected and follows the messages handed to its channel knows
exactly its enabled tunnels, each with its configuration. -/
theorem agents_informed {state : World} {agentId : Uuid} {channel : Channel}
    (completed : @Completed _ informing (fun _ _ => True) (World.initial portRange Database.empty []) state)
    (registered : state.agentSenders agentId = some channel) :
    state.known channel = Db.enabledTunnels state.db agentId :=
  (Completed.informs completed).knows agentId channel registered id

end Runs

/-- Alice's tunnel is switched off and on while her agent is connected. -/
theorem agents_informed_alice : ∃ (state : World) (config : TunnelConfig), state.known 0 10 = some config ∧
    state.known 0 = Db.enabledTunnels state.db 4 := by
  have passed : (informing.performAll (tunnelServed ++ [(.toggleTunnel (uuidToString 10), answer 0 0),
      (.toggleTunnel (uuidToString 10), answer 0 0)]) newRelay).any (fun state : World =>
        decide (state.agentSenders 4 = some 0) && (state.known 0 10).isSome) = true := by
    decide +kernel
  obtain ⟨state, performed, tested⟩ := (Option.any_eq_true _ _).mp passed
  simp only [Bool.and_eq_true, decide_eq_true_eq, Option.isSome_iff_exists] at tested
  obtain ⟨registered, config, known⟩ := tested
  exact ⟨state, config, known, agents_informed
    (System.performAll_completed (fun _ _ _ => trivial) .initial performed) registered⟩

end TunnelitRelay
