import Mathlib.Algebra.Group.Prod
import TunnelitRelay.Concurrent.Totals
import TunnelitRelay.Concurrent.Trace
import TunnelitRelay.BannedTunnels
import TunnelitRelay.Launchers

namespace TunnelitRelay

open Concurrent

/-! # Agents created on request

Whoever asks for a token without having an agent gets a new one.  The listing
and the insertion are made under one guard of the database.
-/

/-- The agents of a user. -/
def owned (userId : String) (db : Database) : List AgentRecord :=
  db.agents.filter (·.userId == some userId)

theorem mem_owned {userId : String} {db : Database} {row : AgentRecord} :
    row ∈ owned userId db ↔ row ∈ db.agents ∧ row.userId = some userId := by
  simp [owned]

section Runs

variable [Externals] {allowed : Condition relay} {portRange : UInt16 × UInt16} {config : Config relay}
  {userId : String}

/-! ## What an operation does to the agents of a user -/

section Exec

variable {world after : World} {choice : Choice} {op : Op} {result : op.Result}

theorem exec_database (executed : exec world choice op = some (after, result))
    (other : op.guard ≠ some (.db, .exclusive)) : after.db = world.db := by
  rcases exec_change executed with ⟨query, rfl, _⟩ | ⟨same, _⟩
  · exact absurd rfl other
  · exact same

/-- An agent of the user stays one with the same token, or its row is deleted. -/
theorem owned_stays (consistent : Consistent world.db world.drawn)
    (executed : exec world choice op = some (after, result)) {row : AgentRecord} (there : row ∈ owned userId world.db) :
    (∃ later ∈ owned userId after.db, later.id = row.id ∧ later.token = row.token) ∨
      ∀ later ∈ after.db.agents, later.id ≠ row.id := by
  obtain ⟨member, owns⟩ := mem_owned.mp there
  have stays {agents : List AgentRecord} (kept : row ∈ agents) : ∃ later ∈ agents.filter (·.userId == some userId),
      later.id = row.id ∧ later.token = row.token :=
    ⟨row, List.mem_filter.mpr ⟨kept, by simp [owns]⟩, rfl, rfl⟩
  rcases exec_change executed with ⟨query, rfl, change, _⟩ | ⟨same, _⟩
  · unfold owned
    generalize after.db = later at change
    cases change with
    | kept | registered | banned | detached | opened | switched | edited | closed => exact .inl (stays member)
    | requested | issued => exact .inl (stays (List.mem_append_left _ member))
    | @claimed code user taken found =>
        -- The row taken still carried its code, so it was nobody's.
        have waits : taken.claimCode = some code := by simpa using List.find?_some found
        have free := (consistent.halves taken (List.mem_of_find?_eq_some found)).mp (by simp [waits])
        have other : row.id ≠ taken.id := by
          intro same
          have equal := List.inj_on_of_nodup_map consistent.agentIds member (List.mem_of_find?_eq_some found) same
          rw [equal, free] at owns
          contradiction
        refine .inl (stays (List.mem_map.mpr ⟨row, member, ?_⟩))
        simp [other]
    | @touched id isOnline name =>
        refine .inl ?_
        by_cases same : row.id = id
        · refine ⟨_, List.mem_filter.mpr ⟨List.mem_map_of_mem member, ?_⟩, ?_⟩ <;> simp [same, owns]
        · exact stays (List.mem_map.mpr ⟨row, member, by simp [same]⟩)
    | @deleted id =>
        by_cases same : row.id = id
        · refine .inr fun later kept alike => ?_
          simp [alike, same] at kept
        · exact .inl (stays (List.mem_filter.mpr ⟨member, by simpa using same⟩))
  · refine .inl ?_
    unfold owned
    exact same ▸ stays member

theorem createAgentForUser_refused {name : String} {failure : Failure}
    (executed : exec world choice (.db (.createAgentForUser userId name)) = some (after, .error failure)) :
    after.db = world.db := by
  obtain ⟨rfl, answer, _⟩ := exec_db executed
  dsimp only [Query.run, Db.createAgentForUser, Database.write] at answer ⊢
  split at answer
  · contradiction
  · rfl

/-- An agent of the user had its row with the same token before, or has just been created. -/
theorem owned_origin (executed : exec world choice op = some (after, result)) {later : AgentRecord}
    (there : later ∈ owned userId after.db) :
    (∃ row ∈ world.db.agents, row.id = later.id ∧ row.token = later.token) ∨
      ∃ name, (⟨op, result⟩ : Event relaySignature) = ⟨.db (.createAgentForUser userId name), .ok later⟩ := by
  obtain ⟨member, owns⟩ := mem_owned.mp there
  by_cases creates : ∃ user name, op = .db (.createAgentForUser user name)
  · obtain ⟨user, name, rfl⟩ := creates
    cases result with
    | error failure =>
        have same := createAgentForUser_refused executed
        exact .inl ⟨later, same ▸ member, rfl, rfl⟩
    | ok agent =>
        obtain ⟨_, grown, named⟩ := createAgentForUser_inserted executed
        rw [grown] at member
        rcases List.mem_append.mp member with old | new
        · exact .inl ⟨later, old, rfl, rfl⟩
        · obtain rfl := List.mem_singleton.mp new
          rw [named, Option.some.injEq] at owns
          exact .inr ⟨name, by rw [owns]⟩
  · refine .inl ?_
    rcases exec_change executed with ⟨query, rfl, change, _⟩ | ⟨same, _⟩
    · generalize after.db = written at change member
      cases change with
      | kept | registered | banned | detached | opened | switched | edited | closed =>
          exact ⟨later, member, rfl, rfl⟩
      | requested _ _ unclaimed =>
          rcases List.mem_append.mp member with old | new
          · exact ⟨later, old, rfl, rfl⟩
          · rw [List.mem_singleton.mp new, unclaimed.2] at owns
            contradiction
      | issued => exact absurd ⟨_, _, rfl⟩ creates
      | claimed | touched =>
          obtain ⟨row, old, rfl⟩ := List.mem_map.mp member
          refine ⟨row, old, ?_⟩
          split <;> exact ⟨rfl, rfl⟩
      | deleted => exact ⟨later, (List.mem_filter.mp member).1, rfl, rfl⟩
    · exact ⟨later, same ▸ member, rfl, rfl⟩

end Exec

/-! ## What a task under the guard has read is still so -/

/-- What a task has read or created last, under the guard that it still holds. -/
structure Current (userId : String) (db : Database) (past : Past) : Prop where
  listed : ∀ agents, past.head? = some ⟨.db (.listAgentsForUser userId), .ok agents⟩ →
    agents = Db.newestFirst (owned userId db)
  created : ∀ name agent, past.head? = some ⟨.db (.createAgentForUser userId name), .ok agent⟩ →
    agent ∈ owned userId db

theorem Current.exec {world after : World} {choice : Choice} {op : Op} {result : op.Result} {past : Past}
    (executed : exec world choice op = some (after, result)) : Current userId after.db (⟨op, result⟩ :: past) := by
  constructor
  · intro agents latest
    rw [List.head?_cons, Option.some.injEq] at latest
    cases latest
    obtain ⟨same, rfl⟩ := listAgentsForUser_listed executed
    rw [owned, same]
  · intro name agent latest
    rw [List.head?_cons, Option.some.injEq] at latest
    cases latest
    obtain ⟨_, grown, named⟩ := createAgentForUser_inserted executed
    exact mem_owned.mpr ⟨by simp [grown], named⟩

omit [Externals] in
theorem Current.handed {db : Database} {agent : AgentRecord} {past : Past} (current : Current userId db past)
    (handed : Handed userId agent past) : agent ∈ owned userId db := by
  cases handed with
  | @listed session rest =>
      have listing := current.listed (agent :: rest) rfl
      have there : agent ∈ Db.newestFirst (owned userId db) := listing ▸ List.mem_cons_self
      simpa [Db.newestFirst] using there
  | created => exact current.created _ agent rfl

/-- The database does not change under the guard of another task. -/
theorem db_guarded {before after : Config relay} {task other : Nat} {thread holder : Thread relay} {choice : Choice}
    {op : Op} {result : op.Result} (lawful : before.Lawful contract) (exclusive : before.Exclusive)
    (called : Called before task thread choice op result after) (there : before.threads[other]? = some holder)
    (elsewhere : other ≠ task) (holds : (Lock.db, Mode.exclusive) ∈ holder.held) :
    after.state.db = before.state.db := by
  refine exec_database called.executed fun guarded => ?_
  have conflict := exclusive _ _ _ _ _ _ _ elsewhere there called.found holds ((called.law lawful).2.1 _ guarded)
  exact Mode.noConfusion conflict.1

theorem Reached.current (reached : Reached allowed portRange config) :
    ∀ thread ∈ config.threads, (Lock.db, Mode.exclusive) ∈ thread.held →
      Current userId config.state.db thread.past := by
  refine @Reachable.induct _ relay _ (fun config : Config relay =>
      ∀ thread ∈ config.threads, (Lock.db, Mode.exclusive) ∈ thread.held →
    Current userId config.state.db thread.past) _ _ ?_ ?_ reached
  · exact fun thread member => by simp at member
  · intro before action after earlier current _ step thread member holds
    have issuances := Reachable.lawful issuance_lawful earlier
    cases step with
    | start admitted =>
        obtain ⟨sessions, rfl⟩ := accept_same admitted
        rcases List.mem_append.mp member with old | new
        · exact current thread old holds
        · rw [List.mem_singleton.mp new] at holds
          simp [Thread.fresh] at holds
    | @call task running op next choice state result found head executed =>
        have called : Called before task running choice op result ⟨state, before.threads.set task
            { running with past := ⟨op, result⟩ :: running.past, rest := next result }⟩ :=
          ⟨found, executed, next, head, rfl⟩
        obtain ⟨index, there⟩ := List.mem_iff_getElem?.mp member
        rcases called.origin there with ⟨_, _, _, past⟩ | ⟨elsewhere, old⟩
        · rw [past]
          exact .exec executed
        · rw [db_guarded (Reached.lawful earlier) (Reachable.exclusive earlier) called old elsewhere holds]
          exact current thread (List.mem_of_getElem? old) holds
    | @acquire task running lock mode next found head free =>
        have there := List.mem_of_getElem? found
        rcases List.mem_or_eq_of_mem_set member with old | rfl
        · exact current thread old holds
        · have permitted := issuances running there
          rw [head] at permitted
          have guarded : issuing running.past = true → (Lock.db, Mode.exclusive) ∈ running.held := permitted.1.1
          refine ⟨fun agents latest => ?_, fun name agent latest => ?_⟩
          · exact (current running there (guarded (by simp [issuing, latest, Op.issues]))).listed agents latest
          · exact (current running there (guarded (by simp [issuing, latest, Op.issues]))).created name agent latest
    | @release task running lock next found head =>
        rcases List.mem_or_eq_of_mem_set member with old | rfl
        · exact current thread old holds
        · exact current running (List.mem_of_getElem? found) (mem_of_mem_dropGuard holds)
    | reboot => simp at member

/-! ## Agents are created for those who have none -/

def listingRefused : Event relaySignature → Bool
  | ⟨.db (.listAgentsForUser _), .error _⟩ => true
  | _ => false

/-- No request whose listing of the user's agents was refused inserts an agent
for a user who has one. -/
def createsWhenListed : Check relay := fun config thread choice op =>
  match op with
  | .db (.createAgentForUser userId _) => !thread.past.any listingRefused || (choice.refuses 0).isSome ||
      (owned userId config.state.db).isEmpty
  | _ => true

theorem created_first {before after : Config relay} {task : Nat} {thread : Thread relay} {choice : Choice}
    {name : String} {agent : AgentRecord} (reached : Reached allowed portRange before)
    (checked : createsWhenListed before thread choice (.db (.createAgentForUser userId name)) = true)
    (called : Called before task thread choice (.db (.createAgentForUser userId name)) (.ok agent) after) :
    owned userId before.state.db = [] := by
  obtain ⟨guarded, session, listed, past, none, _⟩ := called.law (Reachable.lawful issuance_lawful reached)
  have accepted := (createAgentForUser_inserted called.executed).1
  cases listed with
  | error failure => simpa [createsWhenListed, past, listingRefused, accepted] using checked
  | ok agents =>
      have empty : agents = [] := none
      have holds := guarded (by simp [past, issuing, Op.issues])
      have listing := (Reached.current reached thread called.member holds).listed agents (by rw [past]; rfl)
      rw [empty] at listing
      have length := congrArg List.length listing
      simpa [Db.newestFirst, List.length_insertionSort] using length.symm

/-! ## Creations and deletions -/

def createsFor (userId : String) : Event relaySignature → Bool
  | ⟨.db (.createAgentForUser user _), .ok _⟩ => user == userId
  | _ => false

/-- The rows of the user's agents that are gone. -/
def deletions (userId : String) (before after : Database) : Nat :=
  (owned userId before).countP fun row => after.agents.all (·.id != row.id)

/-- The agents that a step creates for the user, and those of the user that it deletes. -/
def turnover (userId : String) (before : Config relay) (action : Action relay) (after : Config relay) : Nat × Nat :=
  ((noted action after).countP fun entry => createsFor userId entry.event,
    deletions userId before.state.db after.state.db)

omit [Externals] in
theorem deletions_same {db : Database} : deletions userId db db = 0 := by
  refine List.countP_eq_zero.mpr fun row there gone => ?_
  have other := List.all_eq_true.mp gone row (mem_owned.mp there).1
  simp at other

omit [Externals] in
theorem createsFor_iff {op : Op} {result : op.Result} : createsFor userId ⟨op, result⟩ = true ↔
    ∃ name agent, (⟨op, result⟩ : Event relaySignature) = ⟨.db (.createAgentForUser userId name), .ok agent⟩ := by
  constructor
  · intro creates
    unfold createsFor at creates
    split at creates
    · rename_i user name agent same
      rw [beq_iff_eq] at creates
      exact ⟨name, agent, creates ▸ same⟩
    · contradiction
  · rintro ⟨name, agent, same⟩
    rw [same]
    simp [createsFor]

/-- An agent is created only for a user who had none, and one who had some has
some afterwards unless one was deleted. -/
theorem turnover_step {before after : Config relay} {action : Action relay}
    (reached : Reached allowed portRange before) (permitted : createsWhenListed.condition before action)
    (step : Step before action after) :
    (turnover userId before action after).1 + min 1 (owned userId before.state.db).length ≤
      (turnover userId before action after).2 + min 1 (owned userId after.state.db).length := by
  have quiet (none : noted action after = []) (same : after.state.db = before.state.db) :
      (turnover userId before action after).1 + min 1 (owned userId before.state.db).length ≤
        (turnover userId before action after).2 + min 1 (owned userId after.state.db).length := by
    simp [turnover, none, same, deletions_same]
  cases step with
  | start admitted =>
      obtain ⟨sessions, rfl⟩ := accept_same admitted
      exact quiet rfl rfl
  | @call task thread op next choice state result found head executed =>
      have called : Called before task thread choice op result ⟨state, before.threads.set task
          { thread with past := ⟨op, result⟩ :: thread.past, rest := next result }⟩ :=
        ⟨found, executed, next, head, rfl⟩
      simp only [turnover, called.noted, List.countP_singleton]
      split
      · rename_i creates
        obtain ⟨name, agent, same⟩ := createsFor_iff.mp creates
        cases same
        have empty := created_first reached (permitted _ _ _ found head) called
        have fresh : Current userId state.db (⟨.db (.createAgentForUser userId name), .ok agent⟩ :: thread.past) :=
          .exec executed
        have there := fresh.created name agent rfl
        have some := List.length_pos_of_mem there
        simp only [empty, List.length_nil] at some ⊢
        omega
      · rcases List.eq_nil_or_concat (owned userId before.state.db) with empty | ⟨rest, row, split⟩
        · simp [empty]
        · have there : row ∈ owned userId before.state.db := by simp [split]
          rcases owned_stays reached.consistent executed there with ⟨later, kept, _⟩ | gone
          · have some := List.length_pos_of_mem kept
            omega
          · have lost : 0 < deletions userId before.state.db state.db := by
              refine List.countP_pos_iff.mpr ⟨row, there, List.all_eq_true.mpr fun later kept => ?_⟩
              simpa using gone later kept
            omega
  | acquire | release => exact quiet rfl rfl
  | reboot => exact quiet rfl rfl

theorem turnover_bounded {total : Nat × Nat}
    (totalled : Totalled (turnover userId) createsWhenListed.condition (World.initial portRange Database.empty [])
      total config) : total.1 ≤ 1 + total.2 := by
  have balanced : total.1 ≤ total.2 + min 1 (owned userId config.state.db).length := by
    refine @Totalled.induct _ relay (Nat × Nat) _ _ _ _ _ _ (fun (total : Nat × Nat) (config : Config relay) =>
      total.1 ≤ total.2 + min 1 (owned userId config.state.db).length) ?_ ?_ totalled
    · simp
    · intro total before action after reached bounded permitted step
      have paid : (turnover userId before action after).1 + _ ≤ _ := turnover_step reached permitted step
      simp only [Prod.fst_add, Prod.snd_add]
      omega
  omega

/-! ## A stretch without claims and deletions -/

/-- The operation claims no agent for the user and deletes none of the user's. -/
def keepsAgents (userId : String) : Check relay := fun config _ choice op =>
  match exec config.state choice op with
  | some (after, _) =>
      ((owned userId config.state.db).all fun row => after.db.agents.any (·.id == row.id)) &&
        (owned userId after.db).all fun later => config.state.db.agents.all fun row =>
          row.id != later.id || row.userId == some userId
  | none => true

/-- The steps of a stretch. -/
def within (allowed : Condition relay) (userId : String) : Condition relay := fun config action =>
  allowed config action ∧ (keepsAgents userId).condition config action

/-- All agents of the user have the same token. -/
def OneToken (userId : String) (db : Database) : Prop :=
  ∀ row ∈ owned userId db, ∀ other ∈ owned userId db, row.token = other.token

section Stretch

variable {before after : Config relay} {action : Action relay} {token : String}

theorem owned_step (reached : Reached allowed portRange before) 
    (permitted : within createsWhenListed.condition userId before action)
    (step : Step before action after) :
    (∀ row ∈ owned userId before.state.db, ∃ later ∈ owned userId after.state.db, later.token = row.token) ∧
      ((∀ later ∈ owned userId after.state.db, ∃ row ∈ owned userId before.state.db, row.token = later.token) ∨
        owned userId before.state.db = [] ∧ OneToken userId after.state.db) := by
  have quiet (same : after.state.db = before.state.db) :
      (∀ row ∈ owned userId before.state.db, ∃ later ∈ owned userId after.state.db, later.token = row.token) ∧
        ((∀ later ∈ owned userId after.state.db, ∃ row ∈ owned userId before.state.db, row.token = later.token) ∨
          owned userId before.state.db = [] ∧ OneToken userId after.state.db) := by
    rw [same]
    exact ⟨fun row there => ⟨row, there, rfl⟩, .inl fun row there => ⟨row, there, rfl⟩⟩
  cases step with
  | start admitted =>
      obtain ⟨sessions, rfl⟩ := accept_same admitted
      exact quiet rfl
  | @call task thread op next choice state result found head executed =>
      have called : Called before task thread choice op result ⟨state, before.threads.set task
          { thread with past := ⟨op, result⟩ :: thread.past, rest := next result }⟩ :=
        ⟨found, executed, next, head, rfl⟩
      have keeps : keepsAgents userId before thread choice op = true := permitted.2 _ _ _ found head
      have executed : exec before.state choice op = some (state, result) := executed
      simp only [keepsAgents, executed, Bool.and_eq_true, List.all_eq_true, List.any_eq_true, beq_iff_eq,
        Bool.or_eq_true, bne_iff_ne] at keeps
      refine ⟨fun row there => ?_, ?_⟩
      · rcases owned_stays reached.consistent executed there with ⟨later, kept, _, token⟩ | gone
        · exact ⟨later, kept, token⟩
        · obtain ⟨later, kept, same⟩ := keeps.1 row there
          exact absurd same (gone later kept)
      · by_cases creates : createsFor userId (⟨op, result⟩ : Event relaySignature) = true
        · obtain ⟨name, agent, same⟩ := createsFor_iff.mp creates
          cases same
          have empty := created_first reached (permitted.1 _ _ _ found head) called
          have only {later : AgentRecord} (there : later ∈ owned userId state.db) : later = agent := by
            obtain ⟨_, grown, _⟩ := createAgentForUser_inserted executed
            obtain ⟨member, owns⟩ := mem_owned.mp there
            rw [grown] at member
            rcases List.mem_append.mp member with old | new
            · have old : later ∈ owned userId before.state.db := mem_owned.mpr ⟨old, owns⟩
              rw [empty] at old
              contradiction
            · exact List.mem_singleton.mp new
          exact .inr ⟨empty, fun row there other there' => by rw [only there, only there']⟩
        · refine .inl fun later there => ?_
          rcases owned_origin executed there with ⟨row, member, same, token⟩ | ⟨name, created⟩
          · exact ⟨row, mem_owned.mpr ⟨member, (keeps.2 later there row member).resolve_left (by simp [same])⟩, token⟩
          · exact absurd (createsFor_iff.mpr ⟨name, later, created⟩) creates
  | acquire | release => exact quiet rfl
  | reboot => exact quiet rfl

/-- While all agents of a user have the same token, they keep it. -/
theorem OneToken.steps (reached : Reached allowed portRange before) (one : OneToken userId before.state.db)
    (steps : Steps (within createsWhenListed.condition userId) before after) :
    OneToken userId after.state.db ∧
      ∀ row ∈ owned userId before.state.db, ∃ later ∈ owned userId after.state.db, later.token = row.token := by
  have reached : Reached anyStep portRange before := reached.weaken fun _ _ _ => trivial
  induction steps with
  | refl => exact ⟨one, fun row there => ⟨row, there, rfl⟩⟩
  | @tail middle last earlier step ih =>
      obtain ⟨action, permitted, step⟩ := step
      obtain ⟨same, keeps⟩ := ih
      have there : Reached anyStep portRange middle := reached.trans (Steps.weaken earlier fun _ _ _ => trivial)
      obtain ⟨stays, origin⟩ := owned_step there permitted step
      constructor
      · rcases origin with from' | ⟨_, now⟩
        · intro row there other there'
          obtain ⟨old, owns, token⟩ := from' row there
          obtain ⟨old', owns', token'⟩ := from' other there'
          rw [← token, ← token']
          exact same old owns old' owns'
        · exact now
      · intro row there
        obtain ⟨later, owns, token⟩ := keeps row there
        obtain ⟨last, owns', token'⟩ := stays later owns
        exact ⟨last, owns', token'.trans token⟩

/-- The answer of the request hands out the token. -/
def HandsOut (thread : Thread relay) (token : String) : Prop :=
  (∃ headers id, thread.job = .generateAgentToken headers ∧ thread.rest = .done (.agentToken token id)) ∨
    ∃ query template contentType fileName, thread.job.launcher = some (query, template) ∧
      explicitToken query = none ∧
      thread.rest = .done (.script contentType fileName (template (tokenArg (some token))))

/-- The step in which a request of the user returns a token. -/
def Returns (userId token : String) (before after : Config relay) : Prop :=
  ∃ (task : Nat) (old thread : Thread relay), before.threads[task]? = some old ∧ ¬ old.finished ∧
    after.threads[task]? = some thread ∧ (∃ session, Did thread.past (.userSession session) (some userId)) ∧
    HandsOut thread token

theorem HandsOut.handed (reached : Reached allowed portRange config) {thread : Thread relay}
    (member : thread ∈ config.threads) {session : String}
    (identified : Did thread.past (.userSession session) (some userId)) (hands : HandsOut thread token) :
    ∃ agent, Handed userId agent thread.past ∧ agent.token = token ∧ (Lock.db, Mode.exclusive) ∉ thread.held := by
  have handed {user : String} {agent : AgentRecord} (handed : Handed user agent thread.past)
      (unguarded : (Lock.db, Mode.exclusive) ∉ thread.held ∨ issuing thread.past = false) :
      Handed userId agent thread.past ∧ (Lock.db, Mode.exclusive) ∉ thread.held := by
    have same : userId = user := by
      generalize thread.past = past at handed identified
      cases handed <;>
        · simp [Did] at identified
          exact identified.2
    exact ⟨same ▸ handed, unguarded.resolve_right (by simp [handed.issuing])⟩
  rcases hands with ⟨headers, id, job, returned⟩ | ⟨query, template, contentType, fileName, asks, absent, returned⟩
  · have conveys := reached.conveys member returned
    obtain ⟨user, agent, origin, rfl⟩ := conveys.token headers token id job rfl
    obtain ⟨own, unguarded⟩ := handed origin conveys.unguarded
    exact ⟨agent, own, rfl, unguarded⟩
  · have conveys := reached.conveys member returned
    obtain ⟨carried, _, _, same, origin⟩ := conveys.script query template asks
    rw [Reply.script.injEq, launcher_inj asks, tokenArg_inj] at same
    rw [absent] at origin
    obtain ⟨user, agent, origin, rfl⟩ := origin token same.2.2.symm
    obtain ⟨own, unguarded⟩ := handed origin conveys.unguarded
    exact ⟨agent, own, rfl, unguarded⟩

/-- A token that is returned is that of an agent of the user. -/
theorem Returns.owned (reached : Reached allowed portRange before) (permitted : allowed before action)
    (step : Step before action after) (returns : Returns userId token before after) :
    ∃ row ∈ owned userId before.state.db, row.token = token := by
  obtain ⟨task, old, thread, there, running, found, ⟨session, identified⟩, hands⟩ := returns
  have later : Reached allowed portRange after := reached.tail ⟨action, permitted, step⟩
  obtain ⟨agent, handed, rfl, unguarded⟩ :=
    HandsOut.handed later (List.mem_of_getElem? found) identified hands
  have ended : thread.finished := by
    rcases hands with ⟨_, _, _, returned⟩ | ⟨_, _, _, _, _, _, returned⟩ <;> exact ⟨_, returned⟩
  have moved (same : after.threads[task]? = before.threads[task]?) : False := by
    rw [same, there, Option.some.injEq] at found
    exact running (found ▸ ended)
  have issuances := Reachable.lawful issuance_lawful reached old (List.mem_of_getElem? there)
  have inside := (List.getElem?_eq_some_iff.mp there).1
  cases step with
  | start admitted => exact (moved (List.getElem?_append_left inside)).elim
  | @call mover running op next choice state result found' head executed =>
      by_cases here : mover = task
      · subst here
        rw [there, Option.some.injEq] at found'
        subst found'
        rw [List.getElem?_set_self inside, Option.some.injEq] at found
        subst found
        have issues := handed.issuing
        simp only [issuing, List.head?_cons, Option.any_some] at issues
        have guarded : op.guard = some (.db, .exclusive) := by
          unfold Op.issues at issues
          split at issues <;> first | rfl | contradiction
        exact absurd (((Reached.lawful reached).call (List.mem_of_getElem? there) head).2.1 _ guarded) unguarded
      · exact (moved (List.getElem?_set_ne here)).elim
  | @acquire mover running lock mode next found' head free =>
      by_cases here : mover = task
      · subst here
        rw [there, Option.some.injEq] at found'
        subst found'
        rw [List.getElem?_set_self inside, Option.some.injEq] at found
        subst found
        rw [head] at issuances
        exact absurd (List.mem_cons_of_mem _ (issuances.1.1 handed.issuing)) unguarded
      · exact (moved (List.getElem?_set_ne here)).elim
  | @release mover running lock next found' head =>
      by_cases here : mover = task
      · subst here
        rw [there, Option.some.injEq] at found'
        subst found'
        rw [List.getElem?_set_self inside, Option.some.injEq] at found
        subst found
        rw [head] at issuances
        exact ⟨agent, (Reached.current reached old (List.mem_of_getElem? there)
          (issuances.1.1 handed.issuing)).handed handed, rfl⟩
      · exact (moved (List.getElem?_set_ne here)).elim
  | reboot => simp at found

/-- What two requests return in one stretch. -/
theorem returns_agree {first middle later last : Config relay} {other : String} {action action' : Action relay}
    (reached : Reached allowed portRange first) (few : (owned userId first.state.db).length ≤ 1)
    (steps : Steps (within createsWhenListed.condition userId) first before)
    (permitted : within createsWhenListed.condition userId before action) (step : Step before action middle)
    (returns : Returns userId token before middle)
    (between : Steps (within createsWhenListed.condition userId) middle later) (step' : Step later action' last)
    (returns' : Returns userId other later last) : token = other := by
  have started : Reached anyStep portRange first := reached.weaken fun _ _ _ => trivial
  have one : OneToken userId first.state.db := by
    intro row there row' there'
    cases list : owned userId first.state.db with
    | nil => simp [list] at there
    | cons head tail =>
        have alone : tail = [] := by simpa [list] using few
        rw [list, alone] at there there'
        rw [List.mem_singleton.mp there, List.mem_singleton.mp there']
  have reached₁ : Reached anyStep portRange before := started.trans (steps.weaken fun _ _ _ => trivial)
  have walk : Steps (within createsWhenListed.condition userId) before later :=
    .head ⟨action, permitted, step⟩ between
  have reached₂ : Reached anyStep portRange later := reached₁.trans (walk.weaken fun _ _ _ => trivial)
  obtain ⟨row, there, rfl⟩ := Returns.owned reached₁ trivial step returns
  obtain ⟨row', there', rfl⟩ := Returns.owned reached₂ trivial step' returns'
  obtain ⟨same, keeps⟩ := OneToken.steps reached₁ (one.steps started steps).1 walk
  obtain ⟨kept, owns, token⟩ := keeps row there
  rw [← token]
  exact same kept owns row' there'

end Stretch

/-- Agents are created for those who have none only, at most one more than
deleted, and while none is claimed or deleted all requests return one token. -/
structure IssuesOnce (allowed : Condition relay) (portRange : UInt16 × UInt16) (userId : String) : Prop where
  alone : ∀ (before after : Config relay) (task : Nat) (thread : Thread relay) (choice : Choice) (name : String)
    (agent : AgentRecord), Reached allowed portRange before → allowed before (.call task choice) →
      Called before task thread choice (.db (.createAgentForUser userId name)) (.ok agent) after →
        owned userId before.state.db = []
  bounded : ∀ (total : Nat × Nat) (config : Config relay),
    Totalled (turnover userId) allowed (World.initial portRange Database.empty []) total config →
      total.1 ≤ 1 + total.2
  agreed : ∀ (first before middle later last : Config relay) (action action' : Action relay) (token other : String),
    Reached allowed portRange first → (owned userId first.state.db).length ≤ 1 →
      Steps (within allowed userId) first before → within allowed userId before action →
      Step before action middle → Returns userId token before middle → Steps (within allowed userId) middle later →
      within allowed userId later action' → Step later action' last → Returns userId other later last → token = other

theorem issues_once : IssuesOnce createsWhenListed.condition portRange userId where
  alone := fun _ _ _ _ _ _ _ reached permitted called => 
    created_first reached (Check.holds permitted called) called
  bounded := fun _ _ totalled => turnover_bounded totalled
  agreed := fun _ _ _ _ _ _ _ _ _ reached few steps permitted step returns between _ step' returns' =>
    returns_agree reached few steps permitted step returns between step' returns'

end Runs

/-- A task is about to create an agent, and does so. -/
theorem creates_next {check : Check relay} {turns : List (Turn relay)} {task : Nat} {choice : Choice}
    {userId name : String} {facts : World → Bool}
    (passed : (relay.follow check 200 turns ⟨newRelay, []⟩).any (fun before =>
      (before.threads[task]?).any fun thread => isAbout (.db (.createAgentForUser userId name)) thread &&
        (before.move check task choice).any fun after => facts before.state &&
          decide (before.state.db.agents.length < after.state.db.agents.length)) = true) :
    ∃ (before after : Config relay) (thread : Thread relay) (agent : AgentRecord),
      Reached check.condition (10000, 60000) before ∧ check.condition before (.call task choice) ∧
      Called before task thread choice (.db (.createAgentForUser userId name)) (.ok agent) after ∧
      facts before.state = true := by
  obtain ⟨before, after, thread, result, reached, permitted, called, tested⟩ := newRelay_called passed
  obtain ⟨holds, grows⟩ := (Bool.and_eq_true _ _).mp tested
  cases result with
  | error failure =>
      have same := createAgentForUser_refused called.executed
      rw [same] at grows
      simp at grows
  | ok agent => exact ⟨before, after, thread, agent, reached, permitted, called, holds⟩

/-- Alice, who has no agent, asks for a token. -/
theorem issues_once_alice : ∃ (before after : Config relay) (thread : Thread relay) (agent : AgentRecord),
    Called before 1 thread (answer 2 0) (.db (.createAgentForUser (uuidToString 2) "My Computer")) (.ok agent) after ∧
      owned (uuidToString 2) before.state.db = [] := by
  obtain ⟨before, after, thread, agent, reached, permitted, called, _⟩ := @creates_next createsWhenListed
    (inOrder [(.register { username := "alice", password := "secret" }, answer 1 0)] ++
      .start (.generateAgentToken (signedIn 1)) :: List.replicate 5 (.move 1 (answer 2 0)))
    1 (answer 2 0) (uuidToString 2) "My Computer" (fun _ => true) (by decide +kernel)
  exact ⟨before, after, thread, agent, called, issues_once.alone _ _ _ _ _ _ _ reached permitted called⟩

/-- A statement that is refused. -/
def refused : Choice := { answer 3 0 with fault := some { statement := 0, text := "disk I/O error" } }

/-- Alice has an agent; the listing for her launcher script is refused. -/
theorem issued_again : ¬ IssuesOnce anyStep (10000, 60000) (uuidToString 2) := by
  obtain ⟨before, after, thread, agent, reached, _, called, listed⟩ := @creates_next (fun _ _ _ _ => true)
    (inOrder [(.register { username := "alice", password := "secret" }, answer 1 0),
        (.generateAgentToken (signedIn 1), answer 2 0)] ++
      .start (.getLauncherSh { token := none, session := some (userToken 3) } []) ::
        List.replicate 4 (.move 2 (answer 3 0)) ++ [.move 2 refused])
    2 (answer 3 0) (uuidToString 2) "My Computer"
    (fun world => !(owned (uuidToString 2) world.db).isEmpty) (by decide +kernel)
  intro once
  have none := once.alone _ _ _ _ _ _ _ (reached.weaken fun _ _ _ => trivial) trivial called
  rw [none] at listed
  contradiction

end TunnelitRelay
