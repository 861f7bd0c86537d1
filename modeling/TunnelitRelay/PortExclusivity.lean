import TunnelitRelay.Ownership

namespace TunnelitRelay

open Concurrent

/-! # One enabled tunnel for each public port

`create_tunnel` reserves a port in memory before it writes the row; until the
row is written the reservation is the only trace of the port.
-/

/-- No two enabled tunnels have the same public port. -/
def PortsExclusive (db : Database) : Prop :=
  ∀ left ∈ db.tunnels, ∀ right ∈ db.tunnels, left ≠ right →
    left.enabled = true → right.enabled = true → left.publicPort ≠ right.publicPort

instance (db : Database) : Decidable (PortsExclusive db) :=
  inferInstanceAs (Decidable (∀ left ∈ db.tunnels, ∀ right ∈ db.tunnels, left ≠ right →
    left.enabled = true → right.enabled = true → left.publicPort ≠ right.publicPort))

/-- The event is the answer of `allocate_port` with this port. -/
def allocates (port : UInt16) : Event relaySignature → Bool
  | ⟨.allocatePort _, some allocated⟩ => allocated == port
  | _ => false

/-- The event is the INSERT of `create_tunnel`, whether it succeeded or not. -/
def inserts : Event relaySignature → Bool
  | ⟨.db (.createTunnel ..), _⟩ => true
  | _ => false

/-- The task has reserved the port and has not yet tried to write its row. -/
def reserves (past : Past) (port : UInt16) : Bool :=
  past.any (allocates port) && !past.any inserts

def occupied (db : Database) (port : UInt16) : Bool :=
  db.tunnels.any fun row => row.enabled && row.publicPort == port

section Runs

variable [Externals] {portRange : UInt16 × UInt16}

/-- `allocate_port` hands out no port of an enabled tunnel, `toggle_tunnel`
enables no tunnel whose port another enabled tunnel has or a request has
reserved, and `free_port` releases no port a request has reserved. -/
def keepsPortsApart : Check relay := fun config _ _ op =>
  match op with
  | .allocatePort preferred =>
      match config.state.allocatePort preferred with
      | some port => !occupied config.state.db port
      | none => true
  | .db (.setTunnelEnabled id true) => config.state.db.tunnels.all fun row =>
      row.id != id ||
        (config.state.db.tunnels.all (fun other =>
          !other.enabled || other.publicPort != row.publicPort || other.id == id) &&
        config.threads.all fun thread => !reserves thread.past row.publicPort)
  | .freePort port => config.threads.all fun thread => !reserves thread.past port
  | _ => true

/-- Where an enabled row comes from: it was enabled before, it has been
inserted, or it has been switched on. -/
theorem enabled_origin {choice : Choice} {db after : Database} {query : Query}
    (change : Change choice db query after) {row : TunnelRecord} (member : row ∈ after.tunnels)
    (enabled : row.enabled = true) :
    (∃ old ∈ db.tunnels, old.id = row.id ∧ old.enabled = true ∧ old.publicPort = row.publicPort) ∨
    (after.tunnels = db.tunnels ++ [row] ∧ ∃ agentId userId name localPort protocol subdomain,
      query = .createTunnel agentId userId name localPort protocol row.publicPort subdomain) ∨
    (query = .setTunnelEnabled row.id true ∧
      ∃ old ∈ db.tunnels, old.id = row.id ∧ old.publicPort = row.publicPort) := by
  cases change with
  | kept | registered | banned | requested | issued | claimed | touched =>
      exact .inl ⟨row, member, rfl, enabled, rfl⟩
  | detached | deleted | closed =>
      exact .inl ⟨row, List.mem_of_mem_filter member, rfl, enabled, rfl⟩
  | opened named unused attached fields =>
      rcases List.mem_append.mp member with old | new
      · exact .inl ⟨row, old, rfl, enabled, rfl⟩
      · rw [List.mem_singleton.mp new]
        obtain ⟨_, _, rfl, _⟩ := fields
        exact .inr (.inl ⟨rfl, _, _, _, _, _, _, rfl⟩)
  | @switched id switchedOn =>
      obtain ⟨old, there, rfl⟩ := List.mem_map.mp member
      by_cases hit : old.id = id
      · simp only [hit, beq_self_eq_true, if_true] at enabled ⊢
        subst enabled
        exact .inr (.inr ⟨rfl, old, there, hit, rfl⟩)
      · simp only [beq_iff_eq, hit, if_false] at enabled ⊢
        exact .inl ⟨old, there, rfl, enabled, rfl⟩
  | edited =>
      obtain ⟨old, there, rfl⟩ := List.mem_map.mp member
      refine .inl ⟨old, there, ?_⟩
      split at enabled <;> rename_i hit
      · exact ⟨by simp [hit], enabled, by simp [hit]⟩
      · exact ⟨by simp [hit], enabled, by simp [hit]⟩

omit [Externals] in
theorem allocatePort_free {state : AppState} {preferred : Option UInt16} {port : UInt16}
    (allocated : state.allocatePort preferred = some port) : port ∉ state.allocatedPorts := by
  cases preferred with
  | some wanted =>
      simp only [AppState.allocatePort] at allocated
      split_ifs at allocated with free
      cases allocated
      exact free.2
  | none => simpa using List.find?_some allocated

/-- A reservation was there before, or has just been made. -/
theorem reserves_origin {world after : World} {choice : Choice} {op : Op} {result : op.Result}
    {past : Past} {port : UInt16} (executed : exec world choice op = some (after, result))
    (reserved : reserves (⟨op, result⟩ :: past) port = true) :
    inserts ⟨op, result⟩ = false ∧ (reserves past port = true ∨
      ∃ preferred, op = .allocatePort preferred ∧ world.allocatePort preferred = some port) := by
  simp only [reserves, List.any_cons, Bool.and_eq_true, Bool.or_eq_true, Bool.not_eq_true',
    Bool.or_eq_false_iff] at reserved ⊢
  obtain ⟨allocated, first, rest⟩ := reserved
  refine ⟨first, ?_⟩
  rcases allocated with now | before
  · right
    cases op with
    | allocatePort preferred =>
        simp only [exec] at executed
        split at executed
        · rename_i found
          cases executed
          exact ⟨preferred, rfl, by simpa [allocates, found] using now⟩
        · cases executed
          simp [allocates] at now
    | _ => simp [allocates] at now
  · exact .inl ⟨before, rest⟩

theorem allocatedPorts_kept {world after : World} {choice : Choice} {op : Op} {result : op.Result}
    {port : UInt16} (executed : exec world choice op = some (after, result))
    (there : port ∈ world.allocatedPorts) (unfreed : op ≠ .freePort port) :
    port ∈ after.allocatedPorts := by
  rw [exec_allocatedPorts executed]
  cases op with
  | allocatePort preferred =>
      dsimp only
      split
      · exact Finset.mem_insert_of_mem there
      · exact there
  | insertAllocatedPort => exact Finset.mem_insert_of_mem there
  | freePort freed => exact Finset.mem_erase.mpr ⟨fun same => unfreed (same ▸ rfl), there⟩
  | _ => exact there

structure Separated (config : Config relay) : Prop where
  rows : ∀ left ∈ config.state.db.tunnels, ∀ right ∈ config.state.db.tunnels,
    left.enabled = true → right.enabled = true → left.publicPort = right.publicPort → left.id = right.id
  reserved : ∀ thread ∈ config.threads, ∀ port, reserves thread.past port = true →
    port ∈ config.state.allocatedPorts ∧ occupied config.state.db port = false
  alone : ∀ (one two : Nat) (left right : Thread relay) port, config.threads[one]? = some left →
    config.threads[two]? = some right → reserves left.past port = true →
      reserves right.past port = true → one = two

omit [Externals] in
theorem occupied_iff {db : Database} {port : UInt16} :
    occupied db port = true ↔ ∃ row ∈ db.tunnels, row.enabled = true ∧ row.publicPort = port := by
  simp [occupied]

theorem Separated.free {config : Config relay} (separated : Separated config) {thread : Thread relay}
    {port : UInt16} (member : thread ∈ config.threads) (reserved : reserves thread.past port = true) :
    ∀ row ∈ config.state.db.tunnels, row.enabled = true → row.publicPort ≠ port := by
  intro row listed enabled same
  have free := (separated.reserved thread member port reserved).2
  rw [occupied_iff.mpr ⟨row, listed, enabled, same⟩] at free
  contradiction

/-- The request that inserts a row holds the reservation of its port. -/
theorem reserves_of_insert {job : Job} {past : Past} {held : Held} {agentId userId name localPort
    protocol publicPort subdomain} (lawful : discipline job past held
      (.call (.db (.createTunnel agentId userId name localPort protocol publicPort subdomain)))) :
    reserves past publicPort = true := by
  obtain ⟨_, _, _, _, _, _, _, _, _, _, allocated, _, _, _, _, first, _⟩ := (lawful.2.2.general fun _ => id).1
  simp only [reserves, Bool.and_eq_true, Bool.not_eq_true', List.any_eq_true, List.any_eq_false]
  refine ⟨⟨_, allocated, by simp [allocates]⟩, fun event member inserted => ?_⟩
  unfold inserts at inserted
  split at inserted
  · exact first _ _ _ _ _ _ _ _ member
  · contradiction

/-- The row was enabled with its port before. -/
def WasEnabled (db : Database) (row : TunnelRecord) : Prop :=
  ∃ old ∈ db.tunnels, old.id = row.id ∧ old.enabled = true ∧ old.publicPort = row.publicPort

/-- The row is enabled now, and its port was not in use by anything else. -/
structure Newcomer (before : Config relay) (task : Nat) (event : Event relaySignature)
    (after : Database) (row : TunnelRecord) : Prop where
  exclusive : ∀ other ∈ before.state.db.tunnels, other.enabled = true →
    other.publicPort = row.publicPort → other.id = row.id
  single : ∀ other ∈ after.tunnels, other.enabled = true →
    WasEnabled before.state.db other ∨ other.id = row.id
  unreserved : ∀ (index : Nat) (other : Thread relay), before.threads[index]? = some other →
    reserves other.past row.publicPort = true → index = task ∧ inserts event = true
  call : ∃ query, event.1 = .db query

theorem Separated.origin {before after : Config relay} {task : Nat} {thread : Thread relay} {op : Op}
    {choice : Choice} {result : op.Result} (lawful : before.Lawful contract)
    (separated : Separated before) (apart : keepsPortsApart before thread choice op = true)
    (called : Called before task thread choice op result after)
    {row : TunnelRecord} (listed : row ∈ after.state.db.tunnels) (enabled : row.enabled = true) :
    WasEnabled before.state.db row ∨ Newcomer before task ⟨op, result⟩ after.state.db row := by
  have promise := called.law lawful
  rcases exec_change called.executed with ⟨query, rfl, change, _⟩ | ⟨same, _⟩
  · rcases enabled_origin change listed enabled with old | ⟨grown, _, _, _, _, _, _, rfl⟩ |
      ⟨rfl, old, there, named, port⟩
    · exact .inl old
    · have reserved := reserves_of_insert promise
      refine .inr ⟨?_, ?_, ?_, ⟨_, rfl⟩⟩
      · intro other there on same
        exact absurd same (separated.free called.member reserved other there on)
      · intro other there on
        rw [grown] at there
        rcases List.mem_append.mp there with old | new
        · exact .inl ⟨other, old, rfl, on, rfl⟩
        · exact .inr (List.mem_singleton.mp new ▸ rfl)
      · intro index other there also
        exact ⟨separated.alone _ _ _ _ _ there called.found also reserved, rfl⟩
    · have conditions := List.all_eq_true.mp apart old there
      simp only [named, port, bne_self_eq_false, Bool.false_or, Bool.and_eq_true, List.all_eq_true,
        Bool.or_eq_true, Bool.not_eq_true', bne_iff_ne, beq_iff_eq] at conditions
      refine .inr ⟨?_, ?_, ?_, ⟨_, rfl⟩⟩
      · intro other there on same
        rcases conditions.1 other there with (off | differs) | alike
        · simp [on] at off
        · exact absurd same differs
        · exact alike
      · intro other there on
        rcases enabled_origin change there on with old | ⟨_, _, _, _, _, _, _, impossible⟩ | ⟨alike, _⟩
        · exact .inl old
        · contradiction
        · exact .inr (by simpa using alike.symm)
      · intro index other there also
        rw [conditions.2 other (List.mem_of_getElem? there)] at also
        contradiction
  · rw [same] at listed
    exact .inl ⟨row, listed, rfl, enabled, rfl⟩

/-- Who holds a reservation after a step, held it before or has just made it. -/
theorem reservation_origin {before after : Config relay} {task : Nat} {thread : Thread relay} {op : Op}
    {choice : Choice} {result : op.Result} (called : Called before task thread choice op result after)
    {index : Nat} {other : Thread relay} {port : UInt16} (there : after.threads[index]? = some other)
    (reserved : reserves other.past port = true) :
    (index = task → inserts ⟨op, result⟩ = false) ∧
      ((∃ old, before.threads[index]? = some old ∧ reserves old.past port = true) ∨
        index = task ∧ ∃ preferred, op = .allocatePort preferred ∧
          before.state.allocatePort preferred = some port) := by
  rcases called.origin there with ⟨rfl, _, _, past⟩ | ⟨elsewhere, old⟩
  · rw [past] at reserved
    obtain ⟨uninserted, held | made⟩ := reserves_origin called.executed reserved
    · exact ⟨fun _ => uninserted, .inl ⟨thread, called.found, held⟩⟩
    · exact ⟨fun _ => uninserted, .inr ⟨rfl, made⟩⟩
  · exact ⟨fun same => absurd same elsewhere, .inl ⟨other, old, reserved⟩⟩

theorem Separated.call {before after : Config relay} {task : Nat} {thread : Thread relay} {op : Op}
    {choice : Choice} {result : op.Result} (lawful : before.Lawful contract)
    (separated : Separated before) (apart : keepsPortsApart before thread choice op = true)
    (called : Called before task thread choice op result after) : Separated after := by
  have executed : exec before.state choice op = some (after.state, result) := called.executed
  have origin {row : TunnelRecord} (listed : row ∈ after.state.db.tunnels) (enabled : row.enabled = true) :=
    separated.origin lawful apart called listed enabled
  have unheld {index : Nat} {other : Thread relay} {port : UInt16} {preferred : Option UInt16}
      (there : before.threads[index]? = some other) (reserved : reserves other.past port = true)
      (made : before.state.allocatePort preferred = some port) : False :=
    allocatePort_free made
      (separated.reserved other (List.mem_of_getElem? there) port reserved).1
  refine ⟨?_, ?_, ?_⟩
  · intro left listedLeft right listedRight enabledLeft enabledRight same
    rcases origin listedLeft enabledLeft with ⟨one, thereOne, namedOne, onOne, portOne⟩ | newLeft
    · rcases origin listedRight enabledRight with ⟨two, thereTwo, namedTwo, onTwo, portTwo⟩ | newRight
      · rw [← namedOne, ← namedTwo]
        exact separated.rows one thereOne two thereTwo onOne onTwo (by rw [portOne, portTwo, same])
      · exact namedOne.symm.trans (newRight.exclusive one thereOne onOne (portOne.trans same))
    · rcases newLeft.single right listedRight enabledRight with
        ⟨two, thereTwo, namedTwo, onTwo, portTwo⟩ | alike
      · exact ((newLeft.exclusive two thereTwo onTwo (portTwo.trans same.symm)).symm).trans namedTwo
      · exact alike.symm
  · intro other listed port reserved
    obtain ⟨index, there⟩ := List.mem_iff_getElem?.mp listed
    obtain ⟨uninserted, old⟩ := reservation_origin called there reserved
    refine ⟨?_, ?_⟩
    · rcases old with ⟨holder, before', held⟩ | ⟨_, preferred, rfl, made⟩
      · refine allocatedPorts_kept executed
          (separated.reserved holder (List.mem_of_getElem? before') port held).1 ?_
        rintro rfl
        have unreserved := List.all_eq_true.mp apart holder (List.mem_of_getElem? before')
        simp [held] at unreserved
      · rw [exec_allocatedPorts executed]
        simp [made]
    · rw [Bool.eq_false_iff, ne_eq, occupied_iff]
      rintro ⟨row, listed, enabled, rfl⟩
      rcases origin listed enabled with ⟨one, thereOne, _, onOne, portOne⟩ | newcomer
      · rcases old with ⟨holder, before', held⟩ | ⟨_, preferred, rfl, made⟩
        · exact separated.free (List.mem_of_getElem? before') held one thereOne onOne portOne
        · simp only [keepsPortsApart, made, Bool.not_eq_true'] at apart
          rw [occupied_iff.mpr ⟨one, thereOne, onOne, portOne⟩] at apart
          contradiction
      · rcases old with ⟨holder, before', held⟩ | ⟨_, preferred, rfl, made⟩
        · obtain ⟨same, inserted⟩ := newcomer.unreserved index holder before' held
          rw [uninserted same] at inserted
          contradiction
        · obtain ⟨query, impossible⟩ := newcomer.call
          contradiction
  · intro one two left right port thereOne thereTwo reservedOne reservedTwo
    obtain ⟨_, ⟨old, before', held⟩ | ⟨same, preferred, _, made⟩⟩ :=
      reservation_origin called thereOne reservedOne
    · obtain ⟨_, ⟨other, before'', also⟩ | ⟨_, preferred, _, made⟩⟩ :=
        reservation_origin called thereTwo reservedTwo
      · exact separated.alone one two old other port before' before'' held also
      · exact (unheld before' held made).elim
    · obtain ⟨_, ⟨other, before'', also⟩ | ⟨alike, _⟩⟩ :=
        reservation_origin called thereTwo reservedTwo
      · exact (unheld before'' also made).elim
      · exact same.trans alike.symm

theorem Separated.quiet {before after : Config relay} (separated : Separated before)
    (same : before.SameTasks after) (tunnels : after.state.db = before.state.db)
    (ports : after.state.allocatedPorts = before.state.allocatedPorts) : Separated after := by
  have held {index : Nat} {thread : Thread relay} {port : UInt16}
      (there : after.threads[index]? = some thread) (reserved : reserves thread.past port = true) :
      ∃ old, before.threads[index]? = some old ∧ reserves old.past port = true := by
    rcases same.old index thread there with empty | ⟨old, before', _, past⟩
    · simp [reserves, empty] at reserved
    · exact ⟨old, before', past ▸ reserved⟩
  refine ⟨tunnels ▸ separated.rows, ?_, ?_⟩
  · intro thread member port reserved
    obtain ⟨index, there⟩ := List.mem_iff_getElem?.mp member
    obtain ⟨old, before', held⟩ := held there reserved
    rw [tunnels, ports]
    exact separated.reserved old (List.mem_of_getElem? before') port held
  · intro one two left right port thereOne thereTwo reservedOne reservedTwo
    obtain ⟨_, beforeOne, heldOne⟩ := held thereOne reservedOne
    obtain ⟨_, beforeTwo, heldTwo⟩ := held thereTwo reservedTwo
    exact separated.alone one two _ _ port beforeOne beforeTwo heldOne heldTwo

end Runs

end TunnelitRelay
