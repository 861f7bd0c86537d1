import TunnelitRelay.Results
import TunnelitRelay.Standard

namespace TunnelitRelay

open Concurrent

/-! # Tunnels stand on the dedicated ports of their owners -/

/-- Every tunnel belongs to a registered user and is on the user's own port. -/
def OnOwnPorts (db : Database) : Prop :=
  ∀ tunnel ∈ db.tunnels, ∃ user ∈ db.users,
    tunnel.userId = some user.id ∧ tunnel.publicPort = user.dedicatedPort

/-- No two tenants share a port. -/
def TenantsApart (db : Database) : Prop :=
  ∀ left ∈ db.tunnels, ∀ right ∈ db.tunnels,
    left.userId ≠ right.userId → left.publicPort ≠ right.publicPort

/-- Every user is still registered, once, and on the same port. -/
def UsersKept (before after : Database) : Prop :=
  ∀ user ∈ before.users,
    (∃ later ∈ after.users, later.id = user.id) ∧
      ∀ later ∈ after.users, later.id = user.id → later.dedicatedPort = user.dedicatedPort

/-- The keys of the table `users`. -/
structure Accounts (db : Database) : Prop where
  ids : (db.users.map (·.id)).Nodup
  ports : (db.users.map (·.dedicatedPort)).Nodup

theorem Accounts.empty : Accounts Database.empty := by
  constructor <;> simp [Database.empty]

theorem UsersKept.of_same {before after : Database} (accounts : Accounts before)
    (same : after.users = before.users) : UsersKept before after := by
  intro user listed
  rw [same]
  refine ⟨⟨user, listed, rfl⟩, fun later there alike => ?_⟩
  rw [List.inj_on_of_nodup_map accounts.ids there listed alike]

theorem UsersKept.trans {first middle last : Database} (earlier : UsersKept first middle)
    (next : UsersKept middle last) : UsersKept first last := by
  intro user listed
  obtain ⟨⟨between, there, named⟩, ports⟩ := earlier user listed
  obtain ⟨⟨later, remains, renamed⟩, kept⟩ := next between there
  refine ⟨⟨later, remains, renamed.trans named⟩, fun other found alike => ?_⟩
  rw [kept other found (alike.trans named.symm), ports between there named]

theorem TenantsApart.of_owned {db : Database} (accounts : Accounts db) (owned : OnOwnPorts db) :
    TenantsApart db := by
  intro left listedLeft right listedRight distinct same
  obtain ⟨one, registeredOne, ownsLeft, onLeft⟩ := owned left listedLeft
  obtain ⟨two, registeredTwo, ownsRight, onRight⟩ := owned right listedRight
  have alike : one.dedicatedPort = two.dedicatedPort := by rw [← onLeft, ← onRight, same]
  have equal := List.inj_on_of_nodup_map accounts.ports registeredOne registeredTwo alike
  rw [ownsLeft, ownsRight, equal] at distinct
  exact distinct rfl

section Runs

variable [Externals] {portRange : UInt16 × UInt16} {allowed : Condition relay}

/-! ## One call -/

theorem Accounts.change {choice : Choice} {db after : Database} {query : Query}
    (accounts : Accounts db) (change : Change choice db query after) :
    Accounts after ∧ UsersKept db after := by
  have same {later : Database} (users : later.users = db.users) : Accounts later ∧ UsersKept db later :=
    ⟨⟨users ▸ accounts.ids, users ▸ accounts.ports⟩, .of_same accounts users⟩
  cases change with
  | @registered username password row named unique account =>
      constructor
      · constructor
        · rw [List.map_append, List.nodup_append]
          refine ⟨accounts.ids, by simp, ?_⟩
          intro id old other new
          obtain ⟨user, listed, rfl⟩ := List.mem_map.mp old
          obtain rfl : other = row.id := by simpa using new
          exact (unique user listed).1
        · rw [List.map_append, List.nodup_append]
          refine ⟨accounts.ports, by simp, ?_⟩
          intro port old other new
          obtain ⟨user, listed, rfl⟩ := List.mem_map.mp old
          obtain rfl : other = row.dedicatedPort := by simpa using new
          exact (unique user listed).2.2
      · intro user listed
        refine ⟨⟨user, List.mem_append_left _ listed, rfl⟩, fun later there alike => ?_⟩
        rcases List.mem_append.mp there with old | new
        · rw [List.inj_on_of_nodup_map accounts.ids old listed alike]
        · rw [List.mem_singleton.mp new] at alike
          exact absurd alike.symm (unique user listed).1
  | @banned id isBanned =>
      constructor
      · constructor
        · have ids := accounts.ids
          simp only [List.map_map]
          convert ids using 2
          funext user
          simp only [Function.comp_apply]
          split <;> rfl
        · have ports := accounts.ports
          simp only [List.map_map]
          convert ports using 2
          funext user
          simp only [Function.comp_apply]
          split <;> rfl
      · intro user listed
        refine ⟨⟨_, List.mem_map_of_mem listed, by split <;> rfl⟩, fun later there alike => ?_⟩
        obtain ⟨old, member, rfl⟩ := List.mem_map.mp there
        have equal : old = user := by
          apply List.inj_on_of_nodup_map accounts.ids member listed
          rw [← alike]
          split <;> rfl
        rw [equal]
        split <;> rfl
  | _ => exact same rfl

theorem OnOwnPorts.change {choice : Choice} {db after : Database} {query : Query}
    (owned : OnOwnPorts db) (kept : UsersKept db after) (change : Change choice db query after)
    (inserts : ∀ agentId userId name localPort protocol publicPort subdomain,
      query = .createTunnel agentId userId name localPort protocol publicPort subdomain →
        ∃ user ∈ db.users, userId = some user.id ∧ publicPort = user.dedicatedPort) :
    OnOwnPorts after := by
  -- Whoever owned a port owns it still.
  have still {userId : Option String} {port : UInt16}
      (before : ∃ user ∈ db.users, userId = some user.id ∧ port = user.dedicatedPort) :
      ∃ user ∈ after.users, userId = some user.id ∧ port = user.dedicatedPort := by
    obtain ⟨user, listed, owns, onPort⟩ := before
    obtain ⟨⟨later, there, named⟩, ports⟩ := kept user listed
    exact ⟨later, there, named ▸ owns, (ports later there named).symm ▸ onPort⟩
  cases change with
  | kept | registered | banned | requested | issued | claimed | touched =>
      exact fun tunnel member => still (owned tunnel member)
  | detached | deleted | closed =>
      exact fun tunnel member => still (owned tunnel (List.mem_of_mem_filter member))
  | opened named unused attached fields =>
      obtain ⟨_, rfl, rfl, _⟩ := fields
      intro tunnel member
      rcases List.mem_append.mp member with old | new
      · exact still (owned tunnel old)
      · rw [List.mem_singleton.mp new]
        exact still (inserts _ _ _ _ _ _ _ rfl)
  | switched | edited =>
      intro tunnel member
      obtain ⟨old, listed, rfl⟩ := List.mem_map.mp member
      split <;> exact still (owned old listed)

/-! ## Runs -/

/-- A user record the task has read is that of a registered user. -/
def ReadsUsers (db : Database) (past : Past) : Prop :=
  ∀ uid record, Did past (.db (.getUserById uid)) (.ok (some record)) →
    ∃ user ∈ db.users, user.id = uid ∧ user.dedicatedPort = record.dedicatedPort

omit [Externals] in
theorem ReadsUsers.later {before after : Database} {past : Past} (reads : ReadsUsers before past)
    (kept : UsersKept before after) : ReadsUsers after past := by
  intro uid record did
  obtain ⟨user, listed, named, onPort⟩ := reads uid record did
  obtain ⟨⟨later, there, same⟩, ports⟩ := kept user listed
  exact ⟨later, there, same.trans named, (ports later there same).trans onPort⟩

theorem ReadsUsers.exec {world after : World} {choice : Choice} {op : Op} {result : op.Result}
    {past : Past} (reads : ReadsUsers world.db past) (kept : UsersKept world.db after.db)
    (executed : exec world choice op = some (after, result)) :
    ReadsUsers after.db (⟨op, result⟩ :: past) := by
  intro uid record did
  rcases List.mem_cons.mp did with new | old
  · cases new
    obtain ⟨rfl, answer, _⟩ := exec_db executed
    have found := Except.ok.inj (Choice.statement_ok answer.symm)
    obtain ⟨user, there, same⟩ := Option.map_eq_some_iff.mp found
    refine ⟨user, List.mem_of_find?_eq_some there, ?_, same ▸ rfl⟩
    simpa using List.find?_some there
  · exact reads.later kept uid record old

theorem Accounts.exec {world after : World} {choice : Choice} {op : Op} {result : op.Result}
    (accounts : Accounts world.db) (executed : exec world choice op = some (after, result)) :
    Accounts after.db ∧ UsersKept world.db after.db := by
  rcases exec_change executed with ⟨query, rfl, change, _⟩ | ⟨same, _⟩
  · exact accounts.change change
  · exact ⟨same ▸ accounts, .of_same accounts (same ▸ rfl)⟩

theorem Accounts.step {before after : Config relay} {action : Action relay}
    (accounts : Accounts before.state.db) (step : Step before action after) :
    Accounts after.state.db ∧ UsersKept before.state.db after.state.db := by
  have same : Accounts before.state.db ∧ UsersKept before.state.db before.state.db :=
    ⟨accounts, .of_same accounts rfl⟩
  cases step with
  | start admitted =>
      obtain ⟨sessions, rfl⟩ := accept_same admitted
      exact same
  | call found head executed => exact accounts.exec executed
  | acquire | release | reboot => exact same

theorem Accounts.steps {before after : Config relay} (accounts : Accounts before.state.db)
    (steps : Steps allowed before after) :
    Accounts after.state.db ∧ UsersKept before.state.db after.state.db := by
  induction steps with
  | refl => exact ⟨accounts, .of_same accounts rfl⟩
  | tail _ last ih =>
      obtain ⟨_, _, step⟩ := last
      obtain ⟨between, kept⟩ := ih
      obtain ⟨later, next⟩ := between.step step
      exact ⟨later, kept.trans next⟩

theorem Reached.tenancy {config : Config relay} (reached : Reached allowed portRange config) :
    (Accounts config.state.db ∧ OnOwnPorts config.state.db) ∧
      ∀ thread ∈ config.threads, ReadsUsers config.state.db thread.past := by
  refine @Reachable.maintain _ relay _ (fun world => Accounts world.db ∧ OnOwnPorts world.db)
    (fun world _ past => ReadsUsers world.db past) _ _ ?_ ?_ ?_ ?_ reached
  · exact ⟨.empty, fun tunnel member => by simp [World.initial, Database.empty] at member⟩
  · intro world job admitted holds accepted
    obtain ⟨sessions, rfl⟩ := accept_same accepted
    exact ⟨holds, fun _ _ did => absurd did did_nil, fun _ _ reads => reads⟩
  · intro before task thread op next choice state result earlier holds each found head _ executed
    obtain ⟨accounts, owned⟩ := holds
    have reads := each thread (List.mem_of_getElem? found)
    obtain ⟨later, kept⟩ := accounts.exec executed
    refine ⟨⟨later, ?_⟩, reads.exec kept executed, fun _ _ other => other.later kept⟩
    rcases exec_change executed with ⟨query, rfl, change, _⟩ | ⟨same, _⟩
    · refine owned.change kept change ?_
      intro agentId userId name localPort protocol publicPort subdomain creates
      subst creates
      -- The handler inserts the row under the caller's id and on the port it has read for it.
      have justified := (((Reached.lawful earlier).call (List.mem_of_getElem? found) head).2.2.general
        fun _ => id).1
      obtain ⟨_, _, _, uid, user, _, _, _, read, onPort, _, _, rfl, _⟩ := justified
      obtain ⟨row, listed, named, same⟩ := reads uid user read
      exact ⟨row, listed, by rw [named], by rw [same, onPort]⟩
    · rw [same]
      exact owned
  · exact fun holds => holds

theorem Reached.onOwnPorts {config : Config relay} (reached : Reached allowed portRange config) :
    Accounts config.state.db ∧ OnOwnPorts config.state.db :=
  reached.tenancy.1

/-- In every run every tunnel is on the dedicated port of its registered owner,
tunnels of different users are on different ports, and no user's port changes. -/
theorem tenants_apart {first last : Config relay} (reached : Reached anyStep portRange first)
    (steps : Steps anyStep first last) :
    OnOwnPorts last.state.db ∧ TenantsApart last.state.db ∧
      UsersKept first.state.db last.state.db := by
  obtain ⟨accounts, _⟩ := reached.onOwnPorts
  obtain ⟨later, owned⟩ := Reached.onOwnPorts (Relation.ReflTransGen.trans reached steps)
  exact ⟨owned, .of_owned later owned, (accounts.steps steps).2⟩

end Runs

/-- Alice and Bob each open a tunnel on a port of their own. -/
theorem tenants_apart_two :
    ∃ first last : Config relay, (first.state.db.users.length = 1 ∧ last.state.db.tunnels.length = 2) ∧
      OnOwnPorts last.state.db ∧ TenantsApart last.state.db ∧
      UsersKept first.state.db last.state.db := by
  let turns := inOrder
      [(.register { username := "alice", password := "secret" }, answer 1 0),
        (.generateAgentToken (signedIn 1), answer 2 0),
        (.createTunnel (signedIn 1) (webTunnel 4), answer 3 0),
        (.register { username := "bob", password := "secret" }, answer 4 0),
        (.generateAgentToken (signedIn 4), answer 5 0),
        (.createTunnel (signedIn 4) (webTunnel 10), answer 6 0)]
  have passed : (relay.follow (fun _ _ _ _ => true) 200 (turns.take 2) ⟨newRelay, []⟩).any
      (fun first => (relay.follow (fun _ _ _ _ => true) 200 (turns.drop 2) first).any
        (fun last => decide (first.state.db.users.length = 1 ∧ last.state.db.tunnels.length = 2))) =
          true := by decide +kernel
  obtain ⟨first, last, reached, steps, tested⟩ := newRelay_runs passed
  exact ⟨first, last, of_decide_eq_true tested, tenants_apart reached steps⟩

end TunnelitRelay
