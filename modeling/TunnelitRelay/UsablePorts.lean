import TunnelitRelay.DedicatedPorts
import TunnelitRelay.FailedCreations
import TunnelitRelay.Footprints
import TunnelitRelay.PortGeneration

namespace TunnelitRelay

open Concurrent Program

/-! # Dedicated ports that can be opened -/

/-- No port that the generator can draw from the range is privileged.  Bounds in
the wrong order wrap around zero, and equal ones let nobody register. -/
def usableRange (portRange : UInt16 × UInt16) : Bool :=
  portRange.1 == portRange.2 ||
    decide (1024 ≤ portRange.1) && (decide (portRange.1 < portRange.2) || portRange.2 == 0)

/-! ## The generator -/

/-- The port computed from a draw, with wrapping arithmetic. -/
def wrappedPort (portRange : UInt16 × UInt16) (draw : Nat) : UInt16 :=
  UInt16.ofNat (draw % (portRange.2 - portRange.1).toNat) + portRange.1

theorem fallbackPort_mem {choice : Choice} {db : Database} {ports : List UInt16} {port : UInt16}
    (found : Db.fallbackPort choice db ports = .ok port) : port ∈ ports := by
  induction ports with
  | nil => exact absurd found (by simp [Db.fallbackPort])
  | cons first rest ih =>
      rw [Db.fallbackPort] at found
      cases counted : choice.statement (1001 + first.toNat)
          (.ok (db.users.countP fun user => user.dedicatedPort == first)) with
      | error failure =>
          rw [counted] at found
          contradiction
      | ok count =>
          rw [counted] at found
          change (if count = 0 then Except.ok first else Db.fallbackPort choice db rest) = .ok port at found
          split at found
          · cases found
            exact List.mem_cons_self
          · exact List.mem_cons_of_mem _ (ih found)

/-- A port that is handed out has been drawn, or is one of the range. -/
theorem randomPort_drawn {choice : Choice} {db : Database} {portRange : UInt16 × UInt16} {attempts : Nat}
    {port : UInt16} (found : Db.randomPort choice db portRange attempts = .ok port) :
    (∃ draw, port = wrappedPort portRange draw) ∨ portRange.1 ≤ port ∧ port ≤ portRange.2 := by
  induction attempts with
  | zero => exact .inr ((mem_portRange port).mp (fallbackPort_mem found))
  | succ attempts ih =>
      rw [Db.randomPort] at found
      simp only at found
      split at found
      · contradiction
      · cases counted : choice.statement (1 + (999 - attempts)) (.ok (db.users.countP fun user =>
            user.dedicatedPort == wrappedPort portRange (choice.ports (999 - attempts)))) with
        | error failure =>
            rw [wrappedPort] at counted
            rw [counted] at found
            contradiction
        | ok count =>
            rw [wrappedPort] at counted
            rw [counted] at found
            change (if count = 0 then Except.ok (wrappedPort portRange (choice.ports (999 - attempts))) else
              Db.randomPort choice db portRange attempts) = .ok port at found
            split at found
            · cases found
              exact .inl ⟨_, rfl⟩
            · exact ih found

/-- Nothing is handed out where the bounds are equal. -/
theorem generated_apart {choice : Choice} {db : Database} {portRange : UInt16 × UInt16} {port : UInt16}
    (found : Db.generateUniqueDedicatedPort choice db portRange = .ok port) : portRange.1 ≠ portRange.2 := by
  intro same
  rw [Db.generateUniqueDedicatedPort, Db.randomPort] at found
  simp [same] at found

theorem wrappedPort_high {portRange : UInt16 × UInt16} (high : 1024 ≤ portRange.1)
    (bounds : portRange.1 < portRange.2 ∨ portRange.2 = 0) (draw : Nat) : 1024 ≤ wrappedPort portRange draw := by
  rcases bounds with ordered | zero
  · exact UInt16.le_trans high (drawPort_exact ordered draw).2.1
  · have low := UInt16.le_iff_toNat_le.mp high
    have bound := portRange.1.toNat_lt
    have modulus : (portRange.2 - portRange.1).toNat = 65536 - portRange.1.toNat := by
      rw [UInt16.toNat_sub, zero]
      simp at low ⊢
      omega
    have small := Nat.mod_lt draw (show 0 < 65536 - portRange.1.toNat by omega)
    have value : (wrappedPort portRange draw).toNat = draw % (65536 - portRange.1.toNat) + portRange.1.toNat := by
      rw [wrappedPort, modulus, UInt16.toNat_add, UInt16.toNat_ofNat_of_lt' (by rw [UInt16.size]; omega),
        Nat.mod_eq_of_lt (by omega)]
    refine UInt16.le_iff_toNat_le.mpr ?_
    omega

theorem generated_high {choice : Choice} {db : Database} {portRange : UInt16 × UInt16} {port : UInt16}
    (usable : usableRange portRange = true)
    (found : Db.generateUniqueDedicatedPort choice db portRange = .ok port) : 1024 ≤ port := by
  have other := generated_apart found
  simp only [usableRange, Bool.or_eq_true, beq_iff_eq, other, false_or, Bool.and_eq_true, decide_eq_true_eq] at usable
  obtain ⟨high, bounds⟩ := usable
  rcases randomPort_drawn found with ⟨draw, rfl⟩ | ⟨above, _⟩
  · exact wrappedPort_high high bounds draw
  · exact UInt16.le_trans high above

/-- A range that is not usable has a draw that gives a privileged port. -/
theorem low_draw {portRange : UInt16 × UInt16} (unusable : usableRange portRange = false) :
    portRange.1 ≠ portRange.2 ∧ ∃ draw, wrappedPort portRange draw < 1024 := by
  simp only [usableRange, Bool.or_eq_false_iff, beq_eq_false_iff_ne, Bool.and_eq_false_iff, decide_eq_false_iff_not]
    at unusable
  obtain ⟨other, low | ⟨reversed, positive⟩⟩ := unusable
  · refine ⟨other, 0, ?_⟩
    rw [wrappedPort]
    simpa using low
  · -- The draws wrap around zero.
    refine ⟨other, 65536 - portRange.1.toNat, ?_⟩
    have bound := portRange.1.toNat_lt
    have above := UInt16.le_iff_toNat_le.mp (UInt16.not_lt.mp reversed)
    have apart : portRange.1.toNat ≠ portRange.2.toNat := fun same => other (UInt16.toNat_inj.mp same)
    have nonzero : portRange.2.toNat ≠ 0 := fun same => positive (UInt16.toNat_inj.mp same)
    have modulus : (portRange.2 - portRange.1).toNat = 65536 - portRange.1.toNat + portRange.2.toNat := by
      rw [UInt16.toNat_sub]
      omega
    have value : (wrappedPort portRange (65536 - portRange.1.toNat)).toNat = 0 := by
      rw [wrappedPort, modulus, Nat.mod_eq_of_lt (by omega), UInt16.toNat_add,
        UInt16.toNat_ofNat_of_lt' (by rw [UInt16.size]; omega)]
      omega
    exact UInt16.lt_iff_toNat_lt.mpr (by simp [value])

/-- On an empty table the first draw is handed out. -/
theorem generate_first {portRange : UInt16 × UInt16} (other : portRange.1 ≠ portRange.2) (draw : Nat) :
    Db.generateUniqueDedicatedPort { calm with ports := fun _ => draw } Database.empty portRange =
      .ok (wrappedPort portRange draw) := by
  have modulus : (portRange.2 - portRange.1).toNat ≠ 0 := by
    intro zero
    have lower := portRange.1.toNat_lt
    have upper := portRange.2.toNat_lt
    rw [UInt16.toNat_sub] at zero
    exact other (UInt16.toNat_inj.mp (by omega))
  rw [Db.generateUniqueDedicatedPort, Db.randomPort]
  simp only
  rw [if_neg modulus]
  rfl

section Runs

variable [Externals] {portRange : UInt16 × UInt16} {world : World} {headers : HeaderMap} {body : CreateTunnelRequest}

/-! ## Runs -/

/-- Every user is on a port that the generator has handed out. -/
def OnGenerated (portRange : UInt16 × UInt16) (world : World) : Prop :=
  world.portRange = portRange ∧ ∀ user ∈ world.db.users, ∃ choice db,
    Db.generateUniqueDedicatedPort choice db portRange = .ok user.dedicatedPort

theorem registerUser_generated {choice : Choice} {db : Database} {username password : String} {user : UserRow}
    (listed : user ∈ (Db.registerUser choice portRange db username password).1.users) :
    user ∈ db.users ∨ Db.generateUniqueDedicatedPort choice db portRange = .ok user.dedicatedPort := by
  rw [Db.registerUser] at listed
  cases generated : Db.generateUniqueDedicatedPort choice db portRange with
  | error failure =>
      rw [generated] at listed
      exact .inl listed
  | ok port =>
      rw [generated] at listed
      simp only [Database.write] at listed
      split at listed
      · rename_i later written
        have inserted := Choice.statement_ok written
        simp only [Db.insertUser] at inserted
        split_ifs at inserted
        cases inserted
        rcases List.mem_append.mp listed with old | new
        · exact .inl old
        · rw [List.mem_singleton.mp new]
          exact .inr rfl
      · exact .inl listed

theorem exec_portRange {after : World} {choice : Choice} {op : Op} {result : op.Result}
    (executed : exec world choice op = some (after, result)) : after.portRange = world.portRange := by
  cases op with
  | allocatePort preferred =>
      simp only [TunnelitRelay.exec] at executed
      cases made : world.allocatePort preferred <;> rw [made] at executed <;> cases executed <;> rfl
  | _ =>
      simp only [TunnelitRelay.exec] at executed
      (try split at executed) <;> (try contradiction) <;> cases executed <;> rfl

theorem OnGenerated.exec {after : World} {choice : Choice} {op : Op} {result : op.Result}
    (generated : OnGenerated portRange world) (executed : exec world choice op = some (after, result)) :
    OnGenerated portRange after := by
  obtain ⟨range, ports⟩ := generated
  by_cases registers : ∃ username password, op = .db (.registerUser username password)
  · obtain ⟨username, password, rfl⟩ := registers
    obtain ⟨rfl, _, _⟩ := exec_db executed
    refine ⟨range, fun user listed => ?_⟩
    rcases registerUser_generated listed with old | new
    · exact ports user old
    · exact ⟨choice, world.db, range ▸ new⟩
  · refine ⟨(exec_portRange executed).trans range, ?_⟩
    rcases exec_change executed with ⟨query, rfl, change, _⟩ | ⟨same, _⟩
    · generalize after.db = written at change
      cases change with
      | registered => exact absurd ⟨_, _, rfl⟩ registers
      | banned =>
          intro user listed
          obtain ⟨row, old, rfl⟩ := List.mem_map.mp listed
          split <;> exact ports row old
      | _ => exact ports
    · rw [same]
      exact ports

theorem Reached.onGenerated {config : Config relay} (reached : Reached anyStep portRange config) :
    OnGenerated portRange config.state := by
  refine @Reachable.induct _ relay _ (fun config => OnGenerated portRange config.state) _ _
    ⟨rfl, fun user listed => by simp [World.initial, Database.empty] at listed⟩ ?_ reached
  intro before action after _ generated _ step
  cases step with
  | start admitted =>
      obtain ⟨sessions, rfl⟩ := accept_same admitted
      exact generated
  | call found head executed => exact generated.exec executed
  | acquire | release | reboot => exact generated

theorem Reached.usersHigh {config : Config relay} (usable : usableRange portRange = true)
    (reached : Reached anyStep portRange config) : ∀ user ∈ config.state.db.users, 1024 ≤ user.dedicatedPort := by
  intro user listed
  obtain ⟨choice, db, generated⟩ := (Reached.onGenerated reached).2 user listed
  exact generated_high usable generated

/-! ## A request among others -/

/-- A port is asked for only as that of a user just looked up. -/
def reserving : Law relaySignature := fun past _ move =>
  ∀ preferred, move = .call (.allocatePort preferred) → ∃ uid user,
    Did past (.db (.getUserById uid)) (.ok (some user)) ∧ preferred = some user.dedicatedPort

def reservingContract : Contract relay where
  law := fun _ => reserving
  answer := fun _ _ _ _ => True

/-- The operation that asks for a port. -/
def Op.asksPort : Op → Prop
  | .allocatePort _ => True
  | _ => False

omit [Externals] in
theorem reserving_restricts : Law.Restricts reserving Op.asksPort :=
  fun _ _ _ apart _ same => absurd same (apart _ trivial)

theorem insertTunnel_reserves {uid : String} {agentId : Uuid} {publicPort : UInt16} :
    (insertTunnel uid agentId publicPort body).Avoids Op.asksPort := by
  have within : ∀ op : Op, op.listens = true → ¬ op.asksPort := by
    intro op listens
    cases op <;> first | exact id | contradiction
  refine .bind (query_within id) fun inserted => ?_
  cases inserted with
  | error => trivial
  | ok record =>
      dsimp only
      split
      · trivial
      · exact .bind (.guarded (.bind (access_avoids id) fun _ =>
          startIfServed_within within fun _ _ => id)) fun _ => trivial

theorem createTunnel_reserving :
    (createTunnel headers body).Obeys reserving (fun _ _ _ => True) [] [] := by
  have anyway {α : Type} {program : Relay α} {past : Past} {held : Held} (avoids : program.Avoids Op.asksPort) :
      program.Obeys reserving (fun _ _ _ => True) past held :=
    avoids.obeys reserving_restricts fun _ _ _ _ => trivial
  refine obeys_bind.mpr ((anyway (getCurrentUserId_within fun _ => id)).mono (fun _ _ _ law => law) ?_)
  intro past held user _
  cases user with
  | none => trivial
  | some uid =>
      dsimp only
      split
      · trivial
      refine obeys_bind.mpr ((anyway (subdomainTaken_within fun _ => id)).mono (fun _ _ _ law => law) ?_)
      intro past held taken _
      split
      · trivial
      refine obeys_bind.mpr (reserving_restricts.guarded (reserving_restricts.perform id fun account => ?_))
      match account with
      | .error _ | .ok none => trivial
      | .ok (some user) =>
          refine obeys_bind.mpr (obeys_guarded.mpr ⟨fun _ same => by simp at same, ?_⟩)
          refine ⟨fun preferred same => ?_, fun port => ⟨fun _ same => by simp at same, ?_⟩⟩
          · cases same
            exact ⟨uid, user, List.mem_cons_self, rfl⟩
          · cases port with
            | none => trivial
            | some port =>
                dsimp only
                split
                · exact anyway insertTunnel_reserves
                · trivial

theorem reserving_lawful : relay.Lawful reservingContract := by
  intro job
  change (serve job).Obeys reserving (fun _ _ _ => True) [] []
  have plain (outside : ∀ op : Op, op.asksPort → job.outside op) :
      (serve job).Obeys reserving (fun _ _ _ => True) [] [] :=
    ((serve_footprint job).mono outside).obeys reserving_restricts fun _ _ _ _ => trivial
  cases job with
  | createTunnel headers body => exact createTunnel_reserving
  | frame session frame =>
      refine plain fun op asks => ?_
      cases op with
      | allocatePort =>
          cases frame with
          | message received => cases received <;> rfl
          | _ => rfl
      | _ => exact asks.elim
  | _ =>
      refine plain fun op asks => ?_
      cases op with
      | allocatePort => rfl
      | _ => exact asks.elim

omit [Externals] in
/-- The allocator refuses a port from 1024 on only where it is reserved. -/
theorem allocatePort_refused {port : UInt16} (high : 1024 ≤ port) (refused : world.allocatePort (some port) = none) :
    port ∈ world.allocatedPorts := by
  by_contra free
  rw [show world.allocatePort (some port) = some port from if_pos ⟨high, free⟩] at refused
  contradiction

/-! ## A request alone -/

theorem insertTunnel_apart {uid : String} {agentId : Uuid} {publicPort : UInt16} :
    (insertTunnel uid agentId publicPort body).Always relay
      (fun _ reply => ∀ user, reply ≠ reservePort.portConflict user) world := by
  refine always_bind.mpr (query_always fun choice _ => ?_)
  cases (Query.run choice world.portRange world.db (.createTunnel body.agentId (some uid) body.name body.localPort
      body.protocol publicPort (cleanSubdomain body.subdomain))).2 with
  | error failure =>
      intro user
      cases failure <;> simp [Failure.dbError, Failure.reply, reservePort.portConflict]
  | ok record =>
      dsimp only
      split
      · simp [reservePort.portConflict]
      · refine always_bind.mpr ((avoids_nothing _).always (fun _ _ _ => trivial) trivial |>.mono fun _ _ _ => ?_)
        exact fun user => by simp [reservePort.portConflict]

theorem subdomainTaken_unused (unused : subdomainFree world body = true) :
    (subdomainTaken (cleanSubdomain body.subdomain) none).Always relay
      (fun after taken => after = world ∧ taken = false) world := by
  rw [subdomainFree] at unused
  cases wanted : cleanSubdomain body.subdomain with
  | none => exact ⟨rfl, rfl⟩
  | some name =>
      rw [wanted] at unused
      refine always_bind.mpr (read_always (fun _ _ _ => rfl) (fun _ => rfl) fun choice => ?_)
      cases found : (Query.run choice world.portRange world.db (.isSubdomainTaken name none)).2 with
      | error failure => exact ⟨rfl, rfl⟩
      | ok taken =>
          refine ⟨rfl, ?_⟩
          rw [← Except.ok.inj (Choice.statement_ok found)]
          simpa using unused

/-- Where no user has a privileged port, a caller whose port is free gets it. -/
theorem createTunnel_granted {userId : String} (high : ∀ user ∈ world.db.users, 1024 ≤ user.dedicatedPort)
    (signed : (extractToken headers).bind world.userSessions = some userId)
    (free : ∀ user ∈ world.db.users, user.id = userId → user.dedicatedPort ∉ world.allocatedPorts)
    (unused : subdomainFree world body = true) :
    (createTunnel headers body).Always relay (fun _ reply => ∀ user, reply ≠ reservePort.portConflict user) world := by
  refine always_bind.mpr (getCurrentUserId_reads.mono fun after user ⟨same, read⟩ => ?_)
  rw [signed] at read
  subst same read
  dsimp only
  split
  · simp [reservePort.portConflict]
  refine always_bind.mpr ((subdomainTaken_unused unused).mono fun after taken ⟨same, untaken⟩ => ?_)
  subst same untaken
  refine always_bind.mpr (query_always fun choice _ => ?_)
  cases account : (Query.run choice after.portRange after.db (.getUserById userId)).2 with
  | error failure =>
      intro user
      cases failure <;> simp [Failure.dbError, Failure.reply, reservePort.portConflict]
  | ok found =>
      cases found with
      | none => simp [reservePort.portConflict]
      | some user =>
          obtain ⟨row, listed, rfl⟩ := Option.map_eq_some_iff.mp (Except.ok.inj (Choice.statement_ok account))
          have member := List.mem_of_find?_eq_some listed
          have named : row.id = userId := by simpa using List.find?_some listed
          have allocated : after.allocatePort (some row.dedicatedPort) = some row.dedicatedPort :=
            if_pos ⟨high row member, free row member named⟩
          refine always_bind.mpr (withLock_always fun _ later port executed => ?_)
          simp only [exec, Query.run, allocated] at executed
          cases executed
          dsimp only
          rw [if_pos rfl]
          exact insertTunnel_apart

/-! ## Exactly when -/

/-- Nobody is stuck with a port that the allocator refuses: it takes every port
that the generator hands out, and no request is refused a port that is free,
alone or among others. -/
structure PortsUsable (portRange : UInt16 × UInt16) : Prop where
  accepted : ∀ (choice : Choice) (db : Database) (port : UInt16) (world : World),
    Db.generateUniqueDedicatedPort choice db portRange = .ok port → port ∉ world.allocatedPorts →
      world.allocatePort (some port) = some port
  created : ∀ (config : Config relay) (headers : HeaderMap) (body : CreateTunnelRequest) (user : UserRow)
    (agent : AgentRecord) (after : World) (reply : Reply), Reached anyStep portRange config →
      user ∈ config.state.db.users → (extractToken headers).bind config.state.userSessions = some user.id →
      agent ∈ config.state.db.agents → agent.id = body.agentId → agent.userId = some user.id →
      subdomainFree config.state body = true → user.dedicatedPort ∉ config.state.allocatedPorts →
      Performs relay config.state (.createTunnel headers body) after reply →
        reply ≠ reservePort.portConflict user.toUserRecord
  granted : ∀ (before after : Config relay) (task : Nat) (thread : Thread relay) (choice : Choice)
    (preferred : Option UInt16), Reached anyStep portRange before →
      Called before task thread choice (.allocatePort preferred) none after →
        ∃ port, preferred = some port ∧ port ∈ before.state.allocatedPorts

/-- Every dedicated port is usable exactly where the range gives no privileged port. -/
theorem ports_usable_iff : PortsUsable portRange ↔ usableRange portRange = true := by
  constructor
  · intro usable
    by_contra unusable
    obtain ⟨other, draw, low⟩ := low_draw (Bool.not_eq_true _ ▸ unusable)
    have accepted := usable.accepted _ _ _ (World.initial portRange Database.empty []) (generate_first other draw)
      (by simp [World.initial])
    simp only [AppState.allocatePort] at accepted
    split at accepted
    · rename_i available
      exact absurd available.1 (UInt16.not_le.mpr low)
    · contradiction
  · intro usable
    constructor
    · intro choice db port world generated free
      exact if_pos ⟨generated_high usable generated, free⟩
    · intro config headers body user agent after reply reached listed signed _ _ _ unused free
      obtain ⟨accounts, _⟩ := Reached.onOwnPorts reached
      have always := createTunnel_granted (Reached.usersHigh usable reached) signed (fun other there same => ?_) unused
      · exact fun performs => (always_iff_performs rfl).mpr always after reply performs user.toUserRecord
      · rwa [List.inj_on_of_nodup_map accounts.ids there listed same]
    · intro before after task thread choice preferred reached called
      obtain ⟨uid, user, read, rfl⟩ := called.law (Reachable.lawful reserving_lawful reached) preferred rfl
      obtain ⟨row, listed, _, same⟩ := (Reached.tenancy reached).2 thread called.member uid user read
      have executed : exec before.state choice (.allocatePort (some user.dedicatedPort)) = some (after.state, none) :=
        called.executed
      refine ⟨_, rfl, ?_⟩
      cases allocated : before.state.allocatePort (some user.dedicatedPort) with
      | none => exact allocatePort_refused (same ▸ Reached.usersHigh usable reached row listed) allocated
      | some port =>
          simp [exec, allocated] at executed

end Runs

/-- Alice is registered on port 81, and can open no tunnel there. -/
theorem dedicated_port_unusable : ¬ PortsUsable (80, 90) := by
  intro usable
  have passed : (relay.performAll [(.register { username := "alice", password := "secret" }, answer 1 0),
      (.generateAgentToken (signedIn 1), answer 2 0)] (World.initial (80, 90) Database.empty [])).any
        (fun world : World => ((createTunnel (signedIn 1) (webTunnel 4)).evaluate relay (answer 3 0) [] world).any
          fun ended => world.db.users.any fun user => world.db.agents.any fun agent =>
            decide (ended.1 = [] ∧ ended.2.2 = reservePort.portConflict user.toUserRecord ∧
              (extractToken (signedIn 1)).bind world.userSessions = some user.id ∧
              agent.id = (webTunnel 4).agentId ∧ agent.userId = some user.id ∧
              subdomainFree world (webTunnel 4) = true ∧ user.dedicatedPort ∉ world.allocatedPorts)) = true := by
    decide +kernel
  obtain ⟨state, threads, reached, _, tested⟩ := @System.performAll_check _ relay _ _ _ passed
  obtain ⟨⟨left, after, reply⟩, evaluated, tested⟩ := (Option.any_eq_true _ _).mp tested
  obtain ⟨user, listed, tested⟩ := List.any_eq_true.mp tested
  obtain ⟨agent, attached, tested⟩ := List.any_eq_true.mp tested
  obtain ⟨rfl, rfl, signed, on, owns, unused, free⟩ := of_decide_eq_true tested
  exact usable.created _ _ _ user agent after _ reached listed signed attached on owns unused free
    ⟨state, rfl, Program.evaluate_executes evaluated⟩ rfl

end TunnelitRelay
