import TunnelitRelay.Activation
import TunnelitRelay.Footprints
import TunnelitRelay.OtherSessions

namespace TunnelitRelay

open Concurrent Program

/-! # The online flags and the registry

The flag of an agent's row and the entry of the agent in the registry are
written one after the other.  Between the two writes they differ, and another
task may come in between.
-/

/-- The operations on flags, on the registry and on the rows that have flags. -/
def Op.marks : Op → Bool
  | .db (.setAgentOnline ..) | .db (.deleteAgent _) | .insertAgentSender .. | .removeAgentSender _ => true
  | _ => false

/-- These, and the end of a session. -/
def Op.bound : Op → Bool
  | .returnSession _ => true
  | op => op.marks

abbrev Op.Bound (op : Op) : Prop := op.bound = true

theorem bound_of_marks {op : Op} (marks : op.marks = true) : op.bound = true := by
  cases op <;> first | exact marks | rfl

/-- The latest operation of a task on them. -/
def latest (past : Past) : Option (Event relaySignature) := past.find? (·.1.marks)

theorem latest_cons {op : Op} {result : op.Result} {past : Past} :
    latest (⟨op, result⟩ :: past) = if op.marks then some ⟨op, result⟩ else latest past := by
  unfold latest
  rw [List.find?_cons]
  cases op.marks <;> rfl

/-- The task has taken the agent out of the registry, and has neither cleared its
flag nor deleted its row yet. -/
def removing (agentId : Uuid) (past : Past) : Bool :=
  match latest past with
  | some ⟨.removeAgentSender removed, _⟩ => removed == agentId
  | _ => false

def Job.hangsUp : Job → Bool
  | .frame _ .hangup => true
  | _ => false

section Flags

variable [Externals] {job : Job} {past : Past} {held : Held}

/-- The task has set the flag of the agent and not yet entered it into the registry. -/
def raising (agentId : Uuid) (past : Past) : Bool :=
  match latest past with
  | some ⟨.db (.setAgentOnline id true _), _⟩ => parseUuid id == some agentId
  | _ => false

/-! ## The order of the writes -/

/-- The agent is one the task has read. -/
def Presents (job : Job) (past : Past) (id : String) : Prop :=
  ∃ agent sender, agent.id = id ∧ (Authenticated job past agent sender ∨ Confirmed job past agent sender)

def bookkeeping (job : Job) : Law relaySignature := fun past _ move =>
  match move with
  | .call (.db (.setAgentOnline id true _)) => latest past = none ∧ Presents job past id
  | .call (.insertAgentSender agentId _) => ∃ id name result,
      latest past = some ⟨.db (.setAgentOnline id true name), result⟩ ∧ parseUuid id = some agentId
  | .call (.removeAgentSender agentId) => latest past = none ∧
      (job.hangsUp = false → ∃ id, job = .deleteAgent id ∧ parseUuid id = some agentId)
  | .call (.db (.setAgentOnline id false _)) => ∃ agentId sender,
      latest past = some ⟨.removeAgentSender agentId, sender⟩ ∧ id = uuidToString agentId ∧ job.hangsUp = true
  | .call (.returnSession session) => ∃ authenticated code, Did past (.sessionLocals session) (authenticated, code) ∧
      ∀ agentId, authenticated = some agentId → ∃ sender, Did past (.removeAgentSender agentId) sender
  | .call (.db (.deleteAgent id)) => latest past = none ∨ ∃ agentId sender,
      latest past = some ⟨.removeAgentSender agentId, sender⟩ ∧ parseUuid id = some agentId
  | _ => True

/-- A task that ends has finished what it has begun. -/
def concluded (job : Job) (past : Past) (_ : Held) (_ : Reply) : Prop :=
  (∀ agentId, raising agentId past = false ∧ removing agentId past = false) ∧
    ∀ session, job = .frame session .hangup → Did past (.returnSession session) ()

def bookkeepingContract : Contract relay where
  law := bookkeeping
  answer := concluded

theorem bookkeeping_restricts : (bookkeeping job).Restricts Op.Bound := by
  intro past held move free
  unfold bookkeeping
  split
  all_goals first | trivial | exact absurd rfl (free _ rfl)

/-- A program without such operations leaves the latest one in place. -/
theorem unmarked_obeys {program : Relay α} {post} (avoids : program.Avoids Op.Bound)
    (posts : ∀ later held value, past <:+ later → latest later = latest past → post later held value) :
    program.Obeys (bookkeeping job) post past held := by
  induction program generalizing past held with
  | done value => exact posts _ _ _ (List.suffix_refl past) rfl
  | call op next ih =>
      refine ⟨bookkeeping_restricts _ _ _ fun other marks same => ?_, fun result => ih result (avoids.2 result) ?_⟩
      · cases same
        exact avoids.1 marks
      · intro later held value suffix same
        refine posts later held value ((List.suffix_cons _ past).trans suffix) (same.trans ?_)
        rw [latest_cons, if_neg fun marks => avoids.1 (bound_of_marks marks)]
  | acquire lock mode next ih => exact ⟨bookkeeping_restricts _ _ _ (by simp), ih avoids posts⟩
  | release lock next ih => exact ⟨bookkeeping_restricts _ _ _ (by simp), ih avoids posts⟩

theorem guarded_bookkeeping {op : Op} {lock : Lock} {mode : Mode} {post}
    (law : bookkeeping job past ((lock, mode) :: held) (.call op))
    (posts : ∀ result held, post (⟨op, result⟩ :: past) held result) :
    (withLock lock mode (access op)).Obeys (bookkeeping job) post past held := by
  refine obeys_guarded.mpr ⟨bookkeeping_restricts _ _ _ (by simp), law, fun result => ⟨?_, posts result _⟩⟩
  exact bookkeeping_restricts _ _ _ (by simp)

/-- Nothing is begun that is not finished. -/
def Closed (past : Past) : Prop := ∀ agentId, raising agentId past = false ∧ removing agentId past = false

theorem closed_of_none (none : latest past = none) : Closed past := by
  intro agentId
  simp [raising, removing, none]

theorem Closed.same {later : Past} (closed : Closed past) (same : latest later = latest past) : Closed later := by
  intro agentId
  simp only [raising, removing, same]
  exact closed agentId

theorem syncAgentTunnels_unmarked {agentId : Uuid} {sender : Channel} :
    (syncAgentTunnels agentId sender).Avoids Op.Bound := by
  refine syncAgentTunnels_within fun op syncs marks => ?_
  cases op with
  | db call => cases call <;> contradiction
  | _ => contradiction

/-- Setting the flag, entering the agent into the registry and what follows. -/
theorem raise_bookkeeping {id : String} {name : Option String} {agentId : Uuid} {sender : Channel}
    {rest : Relay Unit} {post} (unmarked : latest past = none) (presents : Presents job past id)
    (parsed : parseUuid id = some agentId) (avoids : rest.Avoids Op.Bound)
    (posts : ∀ later held, Closed later → post later held ()) :
    (do
      let _ ← query (.setAgentOnline id true name)
      withLock .agentSenders .exclusive (access (.insertAgentSender agentId sender))
      rest : Relay Unit).Obeys (bookkeeping job) post past held := by
  refine obeys_bind.mpr (guarded_bookkeeping ⟨unmarked, presents⟩ fun result held => ?_)
  refine obeys_bind.mpr (guarded_bookkeeping ⟨id, name, result, latest_cons, parsed⟩ fun entered held => ?_)
  refine unmarked_obeys avoids fun later held value _ same => posts later held ?_
  exact Closed.same (fun other => ⟨rfl, rfl⟩) same

theorem auth_bookkeeping {session : SessionId} {token hostname : String} {post}
    (framed : job = .frame session (.message (.auth token hostname)))
    (posts : ∀ later held, Closed later → post later held ()) :
    (auth session token hostname).Obeys (bookkeeping job) post [] held := by
  refine obeys_bind.mpr (guarded_bookkeeping trivial fun found held => ?_)
  have unmarked : latest [(⟨.db (.getAgentByToken token), found⟩ : Event relaySignature)] = none := rfl
  have stops {program : Relay Unit} (avoids : program.Avoids Op.Bound) : program.Obeys (bookkeeping job) post
      [⟨.db (.getAgentByToken token), found⟩] held :=
    unmarked_obeys avoids fun later held _ _ same => posts later held ((closed_of_none unmarked).same same)
  match found with
  | .error _ | .ok none => exact stops (access_avoids (by simp [Op.bound, Op.marks]))
  | .ok (some agent) =>
      dsimp only
      split
      · refine stops (.bind (access_avoids (by simp [Op.bound, Op.marks])) fun _ =>
          .bind (.guarded (access_avoids ?_)) fun _ =>
          access_avoids ?_) <;> simp [Op.bound, Op.marks]
      · rename_i unclaimed
        split
        · exact stops (access_avoids (by simp [Op.bound, Op.marks]))
        · rename_i agentId parsed
          refine obeys_bind.mpr ⟨trivial, fun result => ?_⟩
          refine raise_bookkeeping rfl ⟨agent, session, rfl, .inl ⟨token, hostname, framed, by simp [Did], unclaimed⟩⟩
            parsed (.bind (access_avoids (by simp [Op.bound, Op.marks])) fun _ => syncAgentTunnels_unmarked) posts

theorem claimAgent_bookkeeping {code : String} {headers : HeaderMap} {post}
    (requested : job = .claimAgent code headers) (posts : ∀ later held reply, Closed later → post later held reply) :
    (claimAgent code headers).Obeys (bookkeeping job) post [] held := by
  have identified : (getCurrentUserId headers).Avoids Op.Bound :=
    getCurrentUserId_within fun _ => by simp [Op.bound, Op.marks]
  refine obeys_bind.mpr (unmarked_obeys identified fun past held user _ same => ?_)
  have unmarked : latest past = none := same
  cases user with
  | none => exact posts past held _ (closed_of_none unmarked)
  | some userId =>
      refine obeys_bind.mpr (guarded_bookkeeping trivial fun claimed held => ?_)
      have unmarked : latest (⟨.db (.claimAgentToUser code userId), claimed⟩ :: past) = none := unmarked
      match claimed with
      | .error (.error _) | .error .panicked | .ok none => exact posts _ held _ (closed_of_none unmarked)
      | .ok (some agent) =>
          dsimp only
          split
          · exact posts _ held _ (closed_of_none unmarked)
          · rename_i agentId parsed
            refine obeys_bind.mpr (guarded_bookkeeping trivial fun waiting held => obeys_bind.mpr ?_)
            cases waiting with
            | none => exact posts _ held _ (closed_of_none unmarked)
            | some sender =>
                refine raise_bookkeeping unmarked
                  ⟨agent, sender, rfl, .inr ⟨code, headers, userId, requested, by simp [Did], by simp [Did]⟩⟩ parsed
                  (.bind (access_avoids (by simp [Op.bound, Op.marks])) fun _ => syncAgentTunnels_unmarked) ?_
                exact fun later held closed => posts later held _ closed

theorem cleanupAgent_bookkeeping {agentId : Uuid} {post} (unmarked : latest past = none) (hangs : job.hangsUp = true)
    (posts : ∀ later held sender, past <:+ later → Closed later → Did later (.removeAgentSender agentId) sender →
      post later held ()) :
    (cleanupAgent agentId).Obeys (bookkeeping job) post past held := by
  refine obeys_bind.mpr (guarded_bookkeeping ⟨unmarked, fun other => by simp [hangs] at other⟩ fun sender held => ?_)
  refine obeys_bind.mpr (guarded_bookkeeping ⟨agentId, sender, latest_cons, rfl, hangs⟩ fun result held => ?_)
  refine unmarked_obeys (.bind (query_within (by simp [Op.bound, Op.marks])) fun rows =>
    .forEach fun row => stopRow_within ?_) ?_
  · intro op stops marks
    cases op with
    | db call => contradiction
    | _ => contradiction
  · intro later held value grows same
    refine posts later held sender ?_ (Closed.same (fun other => ⟨rfl, rfl⟩) same) (grows.subset (by simp))
    exact (List.suffix_cons _ _).trans ((List.suffix_cons _ _).trans grows)

theorem teardown_bookkeeping {session : SessionId} {post} (hangs : job = .frame session .hangup)
    (posts : ∀ later held, Closed later → Did later (.returnSession session) () → post later held ()) :
    (teardown session).Obeys (bookkeeping job) post [] held := by
  refine obeys_bind.mpr ⟨trivial, fun aborted => obeys_bind.mpr ⟨trivial, fun locals => obeys_bind.mpr ?_⟩⟩
  obtain ⟨authenticated, code⟩ := locals
  have forgets : (ifSome (fun code => do
      let _ ← withLock .pendingClaims .exclusive (access (.removePendingClaim code))) code).Avoids Op.Bound :=
    .ifSome fun code => .bind (.guarded (access_avoids (by simp [Op.bound, Op.marks]))) fun _ => trivial
  refine unmarked_obeys forgets fun past held _ grows same => obeys_bind.mpr ?_
  have unmarked : latest past = none := same
  have read : Did past (.sessionLocals session) (authenticated, code) := grows.subset List.mem_cons_self
  have ends {later : Past} {held : Held} (closed : Closed later) (more : past <:+ later)
      (removed : ∀ agentId, authenticated = some agentId → ∃ sender, Did later (.removeAgentSender agentId) sender) :
      (access (.returnSession session)).Obeys (bookkeeping job) post later held := by
    refine ⟨⟨authenticated, code, more.subset read, removed⟩, fun result => posts _ held (closed.same ?_) ?_⟩
    · rw [latest_cons]
      rfl
    · exact List.mem_cons_self
  cases authenticated with
  | none => exact ends (closed_of_none unmarked) (List.suffix_refl past) fun agentId same => by contradiction
  | some agentId =>
      refine cleanupAgent_bookkeeping unmarked (by simp [hangs, Job.hangsUp])
        fun later held sender more closed removed => ?_
      refine ends closed more fun other same => ?_
      cases same
      exact ⟨sender, removed⟩

theorem deleteAgent_bookkeeping {id : String} {post} (requested : job = .deleteAgent id)
    (posts : ∀ later held reply, Closed later → post later held reply) :
    (deleteAgent id).Obeys (bookkeeping job) post [] held := by
  have deletes {past : Past} {held : Held} (last : latest past = none ∨ ∃ agentId sender,
      latest past = some ⟨.removeAgentSender agentId, sender⟩ ∧ parseUuid id = some agentId) :
      ((query (.deleteAgent id)).bind fun _ => (.done (.status .ok) : Relay Reply)).Obeys (bookkeeping job) post
        past held :=
    obeys_bind.mpr (guarded_bookkeeping last fun result held => posts _ held _ fun other => ⟨rfl, rfl⟩)
  refine obeys_bind.mpr ?_
  cases parsed : parseUuid id with
  | none => exact deletes (.inl rfl)
  | some agentId =>
      have tells (sender : Option Channel) : (ifSome (fun sender =>
          access (.send sender (.error "Agent deleted from dashboard"))) sender).Avoids Op.Bound :=
        .ifSome fun _ => access_avoids (by simp [Op.bound, Op.marks])
      refine obeys_guarded.mpr ⟨trivial, obeys_bind.mpr (obeys_perform.mpr ⟨⟨rfl, ?_⟩, fun sender => ?_⟩)⟩
      · exact fun _ => ⟨id, requested, parsed⟩
      · exact unmarked_obeys (tells sender) fun later held _ _ same =>
          ⟨trivial, deletes (.inr ⟨agentId, sender, same, parsed⟩)⟩

theorem bookkeeping_lawful : relay.Lawful bookkeepingContract := by
  intro job
  change (serve job).Obeys (bookkeeping job) (concluded job) [] []
  have plain (outside : ∀ op : Op, op.bound = true → job.outside op)
      (stays : ∀ session, job ≠ .frame session .hangup) :
      (serve job).Obeys (bookkeeping job) (concluded job) [] [] := by
    refine unmarked_obeys ((serve_footprint job).mono outside) fun later held reply _ same => ?_
    exact ⟨(closed_of_none rfl).same same, fun session hangs => absurd hangs (stays session)⟩
  cases job with
  | claimAgent code headers =>
      exact claimAgent_bookkeeping rfl fun later held reply closed => ⟨closed, fun session hangs => by contradiction⟩
  | deleteAgent id =>
      exact deleteAgent_bookkeeping rfl fun later held reply closed => ⟨closed, fun session hangs => by contradiction⟩
  | frame session frame =>
      match frame with
      | .hangup =>
          refine obeys_bind.mpr (teardown_bookkeeping rfl fun later held closed returned => ⟨closed, ?_⟩)
          intro other same
          cases same
          exact returned
      | .message (.auth token hostname) =>
          refine obeys_bind.mpr (obeys_bind.mpr (auth_bookkeeping rfl fun later held closed =>
            ⟨trivial, fun result => ?_⟩))
          exact ⟨closed.same rfl, fun session hangs => by cases hangs⟩
      | .ignored | .message (.requestClaim _) | .message (.data ..) | .message (.closeConnection _) | .message .ping =>
          refine plain (fun op marks => ?_) fun session hangs => by cases hangs
          cases op with
          | db call => cases call <;> first | rfl | contradiction
          | _ => first | rfl | contradiction
  | _ =>
      refine plain (fun op marks => ?_) fun session hangs => by contradiction
      cases op with
      | db call => cases call <;> first | rfl | contradiction
      | _ => first | rfl | contradiction

/-! ## What an operation does to the flags -/

section Exec

variable {world after : World} {choice : Choice} {op : Op} {result : op.Result} {row : AgentRecord}

/-- A row was there with the same flag, its flag has just been written, or it is new and offline. -/
theorem exec_flags (executed : exec world choice op = some (after, result)) (member : row ∈ after.db.agents) :
    (∃ old ∈ world.db.agents, old.id = row.id ∧
      (old.isOnline = row.isOnline ∨ ∃ name, op = .db (.setAgentOnline row.id row.isOnline name))) ∨
    row.isOnline = false ∧ ∃ id, row.id = uuidToString id ∧ id ∉ world.drawn := by
  by_cases queries : ∃ query, op = .db query
  · obtain ⟨query, rfl⟩ := queries
    obtain ⟨rfl, _, fresh⟩ := exec_db executed
    rcases Query.run_agents member with ⟨old, there, same, _, flag⟩ | ⟨offline, named, drawn, _⟩
    · refine .inl ⟨old, there, same, flag.imp_right fun ⟨name, set⟩ => ⟨name, by rw [set]⟩⟩
    · exact .inr ⟨offline, choice.id, named, fresh _ drawn⟩
  · rcases exec_change executed with ⟨query, same, _⟩ | ⟨same, _⟩
    · exact absurd ⟨query, same⟩ queries
    · exact .inl ⟨row, same ▸ member, rfl, .inl rfl⟩

/-- A row that is online, or that can have been read before, was there. -/
theorem exec_old (executed : exec world choice op = some (after, result)) (member : row ∈ after.db.agents)
    (known : row.isOnline = true ∨ ∃ agentId ∈ world.drawn, row.id = uuidToString agentId) :
    ∃ old ∈ world.db.agents, old.id = row.id ∧
      (old.isOnline = row.isOnline ∨ ∃ name, op = .db (.setAgentOnline row.id row.isOnline name)) := by
  rcases exec_flags executed member with old | ⟨offline, fresh, named, new⟩
  · exact old
  · rcases known with isOnline | ⟨agentId, drawn, named'⟩
    · rw [isOnline] at offline
      contradiction
    · rw [named, uuidToString_inj] at named'
      exact absurd (named' ▸ drawn) new

/-- All rows with the id have the flag. -/
def flagged (db : Database) (id : String) (isOnline : Bool) : Bool :=
  db.agents.all fun row => row.id != id || row.isOnline == isOnline

theorem exec_sets {id : String} {isOnline : Bool} {name : Option String} {result}
    (executed : exec world choice (.db (.setAgentOnline id isOnline name)) = some (after, result))
    (sets : ((choice.refuses 0).isNone || flagged world.db id isOnline) = true) (member : row ∈ after.db.agents)
    (named : row.id = id) : row.isOnline = isOnline := by
  obtain ⟨rfl, _, _⟩ := exec_db executed
  have same {row : AgentRecord} (flag : flagged world.db id isOnline = true) (there : row ∈ world.db.agents)
      (named : row.id = id) : row.isOnline = isOnline := by
    have tested := List.all_eq_true.mp flag row there
    simpa [named] using tested
  cases refuses : choice.refuses 0 with
  | none =>
      simp only [Query.run, Db.setAgentOnline, Choice.statement, refuses, Database.write] at member
      obtain ⟨old, there, rfl⟩ := List.mem_map.mp member
      split
      · rfl
      · rename_i other
        rw [if_neg other] at named
        exact absurd (beq_iff_eq.mpr named) other
  | some failure =>
      simp only [Query.run, Db.setAgentOnline, Choice.statement, refuses, Database.write] at member
      rw [refuses] at sets
      exact same (by simpa using sets) member named

theorem exec_deletes {id : String} {result}
    (executed : exec world choice (.db (.deleteAgent id)) = some (after, result))
    (first : choice.refuses 0 = none) (second : choice.refuses 1 = none) (member : row ∈ after.db.agents) :
    row.id ≠ id := by
  obtain ⟨rfl, _, _⟩ := exec_db executed
  simp only [Query.run, Db.deleteAgent, Choice.statement, first, second, Database.write] at member
  simpa using (List.mem_filter.mp member).2

end Exec

/-! ## Flags and registry in step -/

/-- The session is registered for no agent but the one its loop remembers. -/
def registersOnly (config : Config relay) (session : SessionId) (locals : Session) : Bool :=
  config.threads.all fun thread => thread.past.all fun event =>
    match event.1 with
    | .insertAgentSender agentId _ => decide
        (config.state.agentSenders agentId = some session → locals.authenticatedAgentId = some agentId)
    | _ => true

/-- A row of the agent that is online after the deletion belongs to an agent registered again. -/
def leavesNone (world : World) (choice : Choice) (id : String) (agentId : Uuid) : Bool :=
  world.db.agents.all fun row => row.id != uuidToString agentId || !row.isOnline ||
    (world.agentSenders agentId).isSome ||
      row.id == id && (choice.refuses 0).isNone && (choice.refuses 1).isNone

/-- No write of a flag that changes it is refused.  An agent is not set online by
one task while another one that tears down its session is between its two
writes, nor the other way round; a deletion leaves no online row of an agent
that it has taken out of the registry.  A session hangs up only when the agents
it is registered for are the one it remembers, and no claim is confirmed for a
session whose teardown is past that. -/
def keepsInStep : Check relay := fun config thread choice op =>
  match op, thread.job with
  | .db (.setAgentOnline id isOnline _), _ =>
      ((choice.refuses 0).isNone || flagged config.state.db id isOnline) &&
        (!isOnline || (parseUuid id).all fun agentId =>
          !config.threads.any fun other => other.job.hangsUp && removing agentId other.past)
  | .removeAgentSender agentId, .frame _ .hangup => !config.threads.any fun other => raising agentId other.past
  | .db (.deleteAgent id), _ => (parseUuid id).all (leavesNone config.state choice id)
  | .abortSendTask session, _ => (config.state.sessions session).all (registersOnly config session)
  | .insertAgentSender agentId sender, .claimAgent .. => attends config sender (· == some agentId)
  | _, _ => true

/-- What the rows say of the agents, given what the tasks are about to do. -/
structure InStep (config : Config relay) : Prop where
  registered : ∀ agentId session, config.state.agentSenders agentId = some session →
    ∀ row ∈ config.state.db.agents, row.id = uuidToString agentId → row.isOnline = true
  online : ∀ row ∈ config.state.db.agents, row.isOnline = true → ∀ agentId, row.id = uuidToString agentId →
    (config.state.agentSenders agentId).isSome = true ∨
      ∃ thread ∈ config.threads, raising agentId thread.past = true ∨ removing agentId thread.past = true
  raised : ∀ thread ∈ config.threads, ∀ agentId, raising agentId thread.past = true →
    agentId ∈ config.state.drawn ∧ ∀ row ∈ config.state.db.agents, row.id = uuidToString agentId → row.isOnline = true
  lowered : ∀ thread ∈ config.threads, ∀ agentId, thread.job.hangsUp = true → removing agentId thread.past = true →
    config.state.agentSenders agentId = none
  apart : ∀ one ∈ config.threads, ∀ other ∈ config.threads, ∀ agentId, raising agentId one.past = true →
    other.job.hangsUp = true → removing agentId other.past = true → False

section Step

variable {before after : Config relay} {task : Nat} {thread : Thread relay} {choice : Choice} {op : Op}
  {result : op.Result}

theorem raising_iff {agentId : Uuid} {id : String} {name : Option String} {result}
    (last : latest past = some ⟨.db (.setAgentOnline id true name), result⟩) :
    raising agentId past = true ↔ parseUuid id = some agentId := by
  simp [raising, last]

theorem raising_same {agentId : Uuid} {later : Past} (same : latest later = latest past) :
    raising agentId later = raising agentId past := by
  simp only [raising, same]

omit [Externals] in
theorem removing_same {agentId : Uuid} {later : Past} (same : latest later = latest past) :
    removing agentId later = removing agentId past := by
  simp only [removing, same]

omit [Externals] in
theorem removing_iff {agentId removed : Uuid} {sender}
    (last : latest past = some ⟨.removeAgentSender removed, sender⟩) :
    removing agentId past = true ↔ removed = agentId := by
  simp [removing, last]

/-- The tasks after a step are the others and the one that has moved. -/
theorem called_members (called : Called before task thread choice op result after) {other : Thread relay}
    (member : other ∈ after.threads) :
    (other.job = thread.job ∧ other.past = ⟨op, result⟩ :: thread.past) ∨ other ∈ before.threads := by
  obtain ⟨index, there⟩ := List.mem_iff_getElem?.mp member
  rcases called.origin there with ⟨_, job, _, past⟩ | ⟨_, old⟩
  · exact .inl ⟨job, past⟩
  · exact .inr (List.mem_of_getElem? old)

theorem called_stays (called : Called before task thread choice op result after) {other : Thread relay}
    (member : other ∈ before.threads) : other = thread ∨ other ∈ after.threads := by
  obtain ⟨index, there⟩ := List.mem_iff_getElem?.mp member
  by_cases here : index = task
  · subst here
    rw [called.found, Option.some.injEq] at there
    exact .inl there.symm
  · exact .inr (List.mem_of_getElem? (called.other there here))

/-- The task that has moved. -/
theorem called_mover (called : Called before task thread choice op result after) :
    ∃ self ∈ after.threads, self.job = thread.job ∧ self.past = ⟨op, result⟩ :: thread.past := by
  obtain ⟨self, found, job, _, past⟩ := called.self
  exact ⟨self, List.mem_of_getElem? found, job, past⟩

theorem OnlyClaimed.drawn {world : World} {agentId : Uuid} {session : SessionId} (only : OnlyClaimed world)
    (there : world.agentSenders agentId = some session) : agentId ∈ world.drawn := by
  obtain ⟨known, drawn, named⟩ := (only.registered agentId session there).named
  rw [uuidToString_inj] at named
  exact named ▸ drawn

/-- A task that has begun to raise a flag was there before a step that begins nothing. -/
theorem raising_before {agentId : Uuid} (called : Called before task thread choice op result after)
    (idle : raising agentId (⟨op, result⟩ :: thread.past) = false) {later : Thread relay}
    (member : later ∈ after.threads) (raises : raising agentId later.past = true) : later ∈ before.threads := by
  rcases called_members called member with ⟨_, past⟩ | old
  · rw [past, idle] at raises
    contradiction
  · exact old

theorem removing_before {agentId : Uuid} (called : Called before task thread choice op result after)
    (idle : removing agentId (⟨op, result⟩ :: thread.past) = false) {later : Thread relay}
    (member : later ∈ after.threads) (removes : removing agentId later.past = true) : later ∈ before.threads := by
  rcases called_members called member with ⟨_, past⟩ | old
  · rw [past, idle] at removes
    contradiction
  · exact old

/-- An operation of another kind. -/
theorem InStep.unmarked (inStep : InStep before) (only : OnlyClaimed before.state) (other : op.marks = false)
    (called : Called before task thread choice op result after) : InStep after := by
  have senders : after.state.agentSenders = before.state.agentSenders := by
    rw [exec_agentSenders called.executed]
    cases op <;> first | rfl | contradiction
  have flags {row : AgentRecord} (member : row ∈ after.state.db.agents)
      (known : row.isOnline = true ∨ ∃ agentId ∈ before.state.drawn, row.id = uuidToString agentId) :
      ∃ old ∈ before.state.db.agents, old.id = row.id ∧ old.isOnline = row.isOnline := by
    obtain ⟨old, there, same, flag | ⟨name, rfl⟩⟩ := exec_old called.executed member known
    · exact ⟨old, there, same, flag⟩
    · contradiction
  have before_of {later : Thread relay} (member : later ∈ after.threads) :
      ∃ old ∈ before.threads, old.job = later.job ∧ latest later.past = latest old.past := by
    rcases called_members called member with ⟨job, past⟩ | old
    · refine ⟨thread, called.member, job.symm, ?_⟩
      rw [past, latest_cons, if_neg (by simp [other])]
    · exact ⟨later, old, rfl, rfl⟩
  have after_of {old : Thread relay} (member : old ∈ before.threads) :
      ∃ later ∈ after.threads, latest later.past = latest old.past := by
    rcases called_stays called member with rfl | still
    · obtain ⟨self, there, _, past⟩ := called_mover called
      refine ⟨self, there, ?_⟩
      rw [past, latest_cons, if_neg (by simp [other])]
    · exact ⟨old, still, rfl⟩
  constructor
  · intro agentId session there row member named
    rw [senders] at there
    obtain ⟨old, listed, same, flag⟩ := flags member (.inr ⟨agentId, only.drawn there, named⟩)
    exact flag ▸ inStep.registered agentId session there old listed (same.trans named)
  · intro row member isOnline agentId named
    rw [senders]
    obtain ⟨old, listed, same, flag⟩ := flags member (.inl isOnline)
    refine (inStep.online old listed (flag.trans isOnline) agentId (same.trans named)).imp_right ?_
    rintro ⟨doer, there, begun⟩
    obtain ⟨later, there', last⟩ := after_of there
    exact ⟨later, there', by rwa [raising_same last, removing_same last]⟩
  · intro later member agentId raises
    obtain ⟨old, there, _, last⟩ := before_of member
    rw [raising_same last] at raises
    obtain ⟨drawn, all⟩ := inStep.raised old there agentId raises
    refine ⟨exec_drawn called.executed drawn, fun row listed named => ?_⟩
    obtain ⟨old, listed', same, flag⟩ := flags listed (.inr ⟨agentId, drawn, named⟩)
    exact flag ▸ all old listed' (same.trans named)
  · intro later member agentId hangs removes
    obtain ⟨old, there, job, last⟩ := before_of member
    rw [senders]
    exact inStep.lowered old there agentId (job ▸ hangs) (removing_same last ▸ removes)
  · intro one member other' member' agentId raises hangs removes
    obtain ⟨old, there, _, last⟩ := before_of member
    obtain ⟨old', there', job, last'⟩ := before_of member'
    exact inStep.apart old there old' there' agentId (raising_same last ▸ raises) (job ▸ hangs)
      (removing_same last' ▸ removes)

/-- The flag of an agent is set. -/
theorem InStep.raise {id : String} {name : Option String} {result} (inStep : InStep before)
    (lawful : before.Lawful bookkeepingContract) (only : OnlyClaimed before.state)
    (saw : SawClaimed before.state thread.past)
    (checked : keepsInStep before thread choice (.db (.setAgentOnline id true name)) = true)
    (called : Called before task thread choice (.db (.setAgentOnline id true name)) result after) : InStep after := by
  have executed : exec before.state choice (.db (.setAgentOnline id true name)) = some (after.state, result) :=
    called.executed
  have senders : after.state.agentSenders = before.state.agentSenders := exec_agentSenders executed
  obtain ⟨unmarked, agent, sender, rfl, evidence⟩ := called.law lawful
  simp only [keepsInStep, Bool.and_eq_true, Bool.not_true, Bool.false_or] at checked
  obtain ⟨sets, alone⟩ := checked
  have named : ∃ uuid ∈ before.state.drawn, agent.id = uuidToString uuid := by
    rcases evidence with ⟨token, _, _, read, unclaimed⟩ | ⟨code, _, userId, _, taken, _⟩
    · exact (saw.presented token agent read unclaimed).named
    · exact (saw.taken code userId agent taken).named
  obtain ⟨raised, drawn, named⟩ := named
  have parsed : parseUuid agent.id = some raised := by rw [named, parseUuid_uuidToString]
  rw [parsed, Option.all_some, Bool.not_eq_true', List.any_eq_false] at alone
  have begins {later : Thread relay}
      (past : later.past = ⟨.db (.setAgentOnline agent.id true name), result⟩ :: thread.past)
      (agentId : Uuid) :
      (raising agentId later.past = true ↔ agentId = raised) ∧ removing agentId later.past = false := by
    rw [past]
    refine ⟨?_, rfl⟩
    rw [raising_iff latest_cons, parsed, Option.some.injEq, eq_comm]
  have closed := closed_of_none unmarked
  have set {row : AgentRecord} (member : row ∈ after.state.db.agents) (same : row.id = agent.id) :
      row.isOnline = true := exec_sets executed sets member same
  -- A row is the agent's and online now, or it was there with the same flag.
  have flags {row : AgentRecord} (member : row ∈ after.state.db.agents)
      (known : row.isOnline = true ∨ ∃ agentId ∈ before.state.drawn, row.id = uuidToString agentId) :
      (row.id = agent.id ∧ row.isOnline = true) ∨
        ∃ old ∈ before.state.db.agents, old.id = row.id ∧ old.isOnline = row.isOnline := by
    by_cases same : row.id = agent.id
    · exact .inl ⟨same, set member same⟩
    · obtain ⟨old, there, alike, flag | ⟨name', written⟩⟩ := exec_old executed member known
      · exact .inr ⟨old, there, alike, flag⟩
      · rw [Op.db.injEq, Query.setAgentOnline.injEq] at written
        exact absurd written.1.symm same
  obtain ⟨self, here, job, past⟩ := called_mover called
  constructor
  · intro agentId session there row member its
    rw [senders] at there
    rcases flags member (.inr ⟨agentId, only.drawn there, its⟩) with ⟨_, isOnline⟩ | ⟨old, listed, same, flag⟩
    · exact isOnline
    · exact flag ▸ inStep.registered agentId session there old listed (same.trans its)
  · intro row member isOnline agentId its
    rw [senders]
    rcases flags member (.inl isOnline) with ⟨same, _⟩ | ⟨old, listed, same, flag⟩
    · rw [its, named, uuidToString_inj] at same
      exact .inr ⟨self, here, .inl ((begins past agentId).1.mpr same)⟩
    · refine (inStep.online old listed (flag.trans isOnline) agentId (same.trans its)).imp_right ?_
      rintro ⟨doer, there, begun⟩
      rcases called_stays called there with rfl | still
      · simp [closed agentId] at begun
      · exact ⟨doer, still, begun⟩
  · intro later member agentId raises
    rcases called_members called member with ⟨_, past⟩ | old
    · obtain rfl := (begins past agentId).1.mp raises
      exact ⟨exec_drawn executed drawn, fun row listed its => set listed (its.trans named.symm)⟩
    · obtain ⟨drawn, all⟩ := inStep.raised later old agentId raises
      refine ⟨exec_drawn executed drawn, fun row listed its => ?_⟩
      rcases flags listed (.inr ⟨agentId, drawn, its⟩) with ⟨_, isOnline⟩ | ⟨old, listed', same, flag⟩
      · exact isOnline
      · exact flag ▸ all old listed' (same.trans its)
  · intro later member agentId hangs removes
    rw [senders]
    exact inStep.lowered later (removing_before called rfl member removes) agentId hangs removes
  · intro one member other member' agentId raises hangs removes
    have old' := removing_before called rfl member' removes
    rcases called_members called member with ⟨_, past⟩ | old
    · obtain rfl := (begins past agentId).1.mp raises
      exact alone other old' (by simp [hangs, removes])
    · exact inStep.apart one old other old' agentId raises hangs removes

/-- An agent whose flag has been set is entered into the registry. -/
theorem InStep.enter {entered : Uuid} {sender : Channel} {result} (inStep : InStep before)
    (lawful : before.Lawful bookkeepingContract)
    (called : Called before task thread choice (.insertAgentSender entered sender) result after) : InStep after := by
  have executed : exec before.state choice (.insertAgentSender entered sender) = some (after.state, result) :=
    called.executed
  have senders : after.state.agentSenders = Function.update before.state.agentSenders entered (some sender) :=
    exec_agentSenders executed
  have db : after.state.db = before.state.db := by
    obtain ⟨same, _⟩ := Prod.mk.inj (Option.some.inj executed)
    rw [← same]
  have drawn := exec_drawn executed
  obtain ⟨id, name, written, last, parsed⟩ := called.law lawful
  have raises (agentId : Uuid) : raising agentId thread.past = true ↔ entered = agentId := by
    rw [raising_iff last, parsed, Option.some.injEq]
  have keeps (agentId : Uuid) : removing agentId thread.past = false := by
    rw [removing, last]
  obtain ⟨_, online⟩ := inStep.raised thread called.member entered ((raises entered).mpr rfl)
  constructor
  · intro agentId session there row member named
    rw [db] at member
    by_cases same : agentId = entered
    · exact online row member (same ▸ named)
    · rw [senders, Function.update_of_ne same] at there
      exact inStep.registered agentId session there row member named
  · intro row member isOnline agentId named
    rw [db] at member
    by_cases same : agentId = entered
    · exact .inl (by rw [senders, same, Function.update_self]; rfl)
    · rw [senders, Function.update_of_ne same]
      refine (inStep.online row member isOnline agentId named).imp_right ?_
      rintro ⟨doer, there, begun⟩
      rcases called_stays called there with rfl | still
      · rw [raises, keeps] at begun
        exact absurd (begun.resolve_right (by simp)).symm same
      · exact ⟨doer, still, begun⟩
  · intro later member agentId begun
    have old := raising_before called rfl member begun
    rw [db]
    exact (inStep.raised later old agentId begun).imp_left fun known => drawn known
  · intro later member agentId hangs begun
    have old := removing_before called rfl member begun
    by_cases same : agentId = entered
    · exact (inStep.apart thread called.member later old agentId ((raises agentId).mpr same.symm) hangs begun).elim
    · rw [senders, Function.update_of_ne same]
      exact inStep.lowered later old agentId hangs begun
  · intro one member other member' agentId begun hangs removes
    have old := raising_before called rfl member begun
    have old' := removing_before called rfl member' removes
    exact inStep.apart one old other old' agentId begun hangs removes

/-- An agent is taken out of the registry. -/
theorem InStep.takeOut {removed : Uuid} {sender : Option Channel} (inStep : InStep before)
    (lawful : before.Lawful bookkeepingContract)
    (checked : keepsInStep before thread choice (.removeAgentSender removed) = true)
    (called : Called before task thread choice (.removeAgentSender removed) sender after) : InStep after := by
  have executed : exec before.state choice (.removeAgentSender removed) = some (after.state, sender) := called.executed
  have senders : after.state.agentSenders = Function.update before.state.agentSenders removed none :=
    exec_agentSenders executed
  have db : after.state.db = before.state.db := by
    obtain ⟨same, _⟩ := Prod.mk.inj (Option.some.inj executed)
    rw [← same]
  have drawn := exec_drawn executed
  obtain ⟨unmarked, _⟩ := called.law lawful
  have closed := closed_of_none unmarked
  have begins {later : Thread relay} (past : later.past = ⟨.removeAgentSender removed, sender⟩ :: thread.past)
      (agentId : Uuid) :
      raising agentId later.past = false ∧ (removing agentId later.past = true ↔ removed = agentId) := by
    rw [past]
    exact ⟨rfl, removing_iff latest_cons⟩
  have cleared {agentId : Uuid} (there : before.state.agentSenders agentId = none) :
      after.state.agentSenders agentId = none := by
    rw [senders]
    by_cases same : agentId = removed
    · rw [same, Function.update_self]
    · rwa [Function.update_of_ne same]
  obtain ⟨self, here, job, past⟩ := called_mover called
  constructor
  · intro agentId session there row member named
    rw [db] at member
    by_cases same : agentId = removed
    · rw [senders, same, Function.update_self] at there
      contradiction
    · rw [senders, Function.update_of_ne same] at there
      exact inStep.registered agentId session there row member named
  · intro row member isOnline agentId named
    rw [db] at member
    by_cases same : agentId = removed
    · exact .inr ⟨self, here, .inr ((begins past agentId).2.mpr same.symm)⟩
    · rw [senders, Function.update_of_ne same]
      refine (inStep.online row member isOnline agentId named).imp_right ?_
      rintro ⟨doer, there, begun⟩
      rcases called_stays called there with rfl | still
      · simp [closed agentId] at begun
      · exact ⟨doer, still, begun⟩
  · intro later member agentId begun
    rw [db]
    exact (inStep.raised later (raising_before called rfl member begun) agentId begun).imp_left fun known => drawn known
  · intro later member agentId hangs begun
    rcases called_members called member with ⟨_, past⟩ | old
    · rw [senders, (begins past agentId).2.mp begun, Function.update_self]
    · exact cleared (inStep.lowered later old agentId hangs begun)
  · intro one member other member' agentId begun hangs removes
    have old := raising_before called rfl member begun
    rcases called_members called member' with ⟨job', past⟩ | old'
    · obtain rfl := (begins past agentId).2.mp removes
      have alone : (before.threads.any fun other => raising removed other.past) = false := by
        rw [job'] at hangs
        unfold Job.hangsUp at hangs
        split at hangs
        · rename_i session framed
          simpa [keepsInStep, framed] using checked
        · contradiction
      exact absurd begun (List.any_eq_false.mp alone one old)
    · exact inStep.apart one old other old' agentId begun hangs removes

/-- The flag of an agent that was taken out of the registry is cleared. -/
theorem InStep.lower {id : String} {name : Option String} {result} (inStep : InStep before)
    (lawful : before.Lawful bookkeepingContract) (only : OnlyClaimed before.state)
    (checked : keepsInStep before thread choice (.db (.setAgentOnline id false name)) = true)
    (called : Called before task thread choice (.db (.setAgentOnline id false name)) result after) : InStep after := by
  have executed : exec before.state choice (.db (.setAgentOnline id false name)) = some (after.state, result) :=
    called.executed
  have senders : after.state.agentSenders = before.state.agentSenders := exec_agentSenders executed
  have drawn := exec_drawn executed
  obtain ⟨lowered, sender, last, rfl, hangs⟩ := called.law lawful
  have sets : ((choice.refuses 0).isNone || flagged before.state.db (uuidToString lowered) false) = true := by
    simpa [keepsInStep] using checked
  have begun := (removing_iff last).mpr (rfl : lowered = lowered)
  have absent := inStep.lowered thread called.member lowered hangs begun
  -- The rows of other agents were there with the same flag.
  have flags {row : AgentRecord} {agentId : Uuid} (member : row ∈ after.state.db.agents)
      (named : row.id = uuidToString agentId) (other : agentId ≠ lowered)
      (known : row.isOnline = true ∨ agentId ∈ before.state.drawn) :
      ∃ old ∈ before.state.db.agents, old.id = row.id ∧ old.isOnline = row.isOnline := by
    obtain ⟨old, there, same, flag | ⟨name', written⟩⟩ :=
      exec_old executed member (known.imp_right fun drawn => ⟨agentId, drawn, named⟩)
    · exact ⟨old, there, same, flag⟩
    · rw [Op.db.injEq, Query.setAgentOnline.injEq, named, uuidToString_inj] at written
      exact absurd written.1.symm other
  constructor
  · intro agentId session there row member named
    rw [senders] at there
    have other : agentId ≠ lowered := by
      rintro rfl
      rw [absent] at there
      contradiction
    obtain ⟨old, listed, same, flag⟩ := flags member named other (.inr (only.drawn there))
    exact flag ▸ inStep.registered agentId session there old listed (same.trans named)
  · intro row member isOnline agentId named
    rw [senders]
    have other : agentId ≠ lowered := by
      rintro rfl
      rw [exec_sets executed sets member named] at isOnline
      contradiction
    obtain ⟨old, listed, same, flag⟩ := flags member named other (.inl isOnline)
    refine (inStep.online old listed (flag.trans isOnline) agentId (same.trans named)).imp_right ?_
    rintro ⟨doer, there, doing⟩
    rcases called_stays called there with rfl | still
    · rw [removing_iff last, raising, last] at doing
      exact absurd (doing.resolve_left (by simp)).symm other
    · exact ⟨doer, still, doing⟩
  · intro later member agentId raises
    have old := raising_before called rfl member raises
    obtain ⟨known, all⟩ := inStep.raised later old agentId raises
    refine ⟨drawn known, fun row listed named => ?_⟩
    have other : agentId ≠ lowered := by
      rintro rfl
      exact inStep.apart later old thread called.member agentId raises hangs begun
    obtain ⟨old, listed', same, flag⟩ := flags listed named other (.inr known)
    exact flag ▸ all old listed' (same.trans named)
  · intro later member agentId hangs removes
    rw [senders]
    exact inStep.lowered later (removing_before called rfl member removes) agentId hangs removes
  · intro one member other member' agentId raises hangs removes
    have old := raising_before called rfl member raises
    have old' := removing_before called rfl member' removes
    exact inStep.apart one old other old' agentId raises hangs removes

/-- The row of an agent is deleted. -/
theorem InStep.delete {id : String} {result} (inStep : InStep before) (lawful : before.Lawful bookkeepingContract)
    (checked : keepsInStep before thread choice (.db (.deleteAgent id)) = true)
    (called : Called before task thread choice (.db (.deleteAgent id)) result after) : InStep after := by
  have executed : exec before.state choice (.db (.deleteAgent id)) = some (after.state, result) := called.executed
  have senders : after.state.agentSenders = before.state.agentSenders := exec_agentSenders executed
  have drawn := exec_drawn executed
  have law := called.law lawful
  have rows {row : AgentRecord} (member : row ∈ after.state.db.agents) : row ∈ before.state.db.agents := by
    obtain ⟨same, _, _⟩ := exec_db executed
    have change := @Query.run_change _ choice before.state.portRange before.state.db (.deleteAgent id)
    rw [same] at member
    generalize (Query.run choice before.state.portRange before.state.db (.deleteAgent id)).1 = db at change member
    cases change with
    | kept | detached => exact member
    | deleted => exact (List.mem_filter.mp member).1
  constructor
  · intro agentId session there row member named
    rw [senders] at there
    exact inStep.registered agentId session there row (rows member) named
  · intro row member isOnline agentId named
    rw [senders]
    rcases inStep.online row (rows member) isOnline agentId named with there | ⟨doer, there, begun⟩
    · exact .inl there
    · rcases called_stays called there with rfl | still
      · rcases law with unmarked | ⟨removed, sender, last, parsed⟩
        · simp [closed_of_none unmarked agentId] at begun
        · rw [removing_iff last, raising, last] at begun
          obtain rfl := begun.resolve_left (by simp)
          have left : ∀ row ∈ before.state.db.agents, ((¬ row.id = uuidToString removed ∨ row.isOnline = false) ∨
              (before.state.agentSenders removed).isSome = true) ∨
              (row.id = id ∧ choice.refuses 0 = none) ∧ choice.refuses 1 = none := by
            simpa [keepsInStep, parsed, leavesNone] using checked
          rcases left row (rows member) with ((other | offline) | there') | ⟨⟨same, first⟩, second⟩
          · exact absurd named other
          · rw [isOnline] at offline
            contradiction
          · exact .inl there'
          · exact absurd same (exec_deletes executed first second member)
      · exact .inr ⟨doer, still, begun⟩
  · intro later member agentId raises
    obtain ⟨known, all⟩ := inStep.raised later (raising_before called rfl member raises) agentId raises
    exact ⟨drawn known, fun row listed => all row (rows listed)⟩
  · intro later member agentId hangs removes
    rw [senders]
    exact inStep.lowered later (removing_before called rfl member removes) agentId hangs removes
  · intro one member other member' agentId raises hangs removes
    have old := raising_before called rfl member raises
    have old' := removing_before called rfl member' removes
    exact inStep.apart one old other old' agentId raises hangs removes

theorem InStep.call (inStep : InStep before) (lawful : before.Lawful bookkeepingContract)
    (only : OnlyClaimed before.state) (saw : SawClaimed before.state thread.past)
    (checked : keepsInStep before thread choice op = true)
    (called : Called before task thread choice op result after) : InStep after := by
  cases op with
  | db query =>
      cases query with
      | setAgentOnline id isOnline name =>
          cases isOnline with
          | true => exact inStep.raise lawful only saw checked called
          | false => exact inStep.lower lawful only checked called
      | deleteAgent id => exact inStep.delete lawful checked called
      | _ => exact inStep.unmarked only rfl called
  | insertAgentSender entered sender => exact inStep.enter lawful called
  | removeAgentSender removed => exact inStep.takeOut lawful checked called
  | _ => exact inStep.unmarked only rfl called

theorem InStep.quiet {sessions : SessionId → Option Session} (inStep : InStep before)
    (same : before.SameTasks after) (state : after.state = { before.state with sessions }) : InStep after := by
  have before_of {later : Thread relay} {agentId : Uuid} (member : later ∈ after.threads)
      (begun : raising agentId later.past = true ∨ removing agentId later.past = true) :
      ∃ old ∈ before.threads, old.job = later.job ∧ old.past = later.past := by
    have some : ∃ event, event ∈ later.past := by
      by_contra none
      have empty : later.past = [] := List.eq_nil_iff_forall_not_mem.mpr fun event did => none ⟨event, did⟩
      rw [empty] at begun
      exact begun.elim (fun raises => Bool.noConfusion raises) fun removes => Bool.noConfusion removes
    obtain ⟨event, did⟩ := some
    exact same.of_mem member did
  constructor
  · intro agentId session there row member named
    rw [state] at there member
    exact inStep.registered agentId session there row member named
  · intro row member isOnline agentId named
    rw [state] at member ⊢
    refine (inStep.online row member isOnline agentId named).imp_right ?_
    rintro ⟨doer, there, begun⟩
    obtain ⟨later, there', _, past⟩ := same.mem there
    exact ⟨later, there', by rwa [past]⟩
  · intro later member agentId raises
    obtain ⟨old, there, _, past⟩ := before_of member (.inl raises)
    rw [state]
    exact inStep.raised old there agentId (past ▸ raises)
  · intro later member agentId hangs removes
    obtain ⟨old, there, job, past⟩ := before_of member (.inr removes)
    rw [state]
    exact inStep.lowered old there agentId (job ▸ hangs) (past ▸ removes)
  · intro one member other member' agentId raises hangs removes
    obtain ⟨old, there, _, past⟩ := before_of member (.inl raises)
    obtain ⟨old', there', job, past'⟩ := before_of member' (.inr removes)
    exact inStep.apart old there old' there' agentId (past ▸ raises) (job ▸ hangs) (past' ▸ removes)

end Step

/-! ## The sessions in the registry are open -/

/-- The channel of the session is registered, waits for a claim or has been handed to one. -/
def Mentioned (config : Config relay) (session : SessionId) : Prop :=
  (∃ agentId, config.state.agentSenders agentId = some session) ∨
    (∃ code, config.state.pendingClaims code = some session) ∨
      ∃ thread ∈ config.threads, ∃ code, Did thread.past (.removePendingClaim code) (some session)

/-- A session that has hung up is registered only for an agent that its teardown has yet to take out. -/
structure Released (config : Config relay) : Prop where
  known : ∀ session, Mentioned config session → config.state.sessions session ≠ none
  closing : ∀ session locals, config.state.sessions session = some locals → locals.phase = .closing →
    ∃ thread ∈ config.threads, thread.job = .frame session .hangup ∧
      ∀ agentId, config.state.agentSenders agentId = some session →
        locals.authenticatedAgentId = some agentId ∧ ∀ sender, ¬ Did thread.past (.removeAgentSender agentId) sender
  returned : ∀ session locals, config.state.sessions session = some locals → locals.phase = .returned →
    ∀ agentId, config.state.agentSenders agentId ≠ some session

section Step

variable {before after : Config relay} {task : Nat} {thread : Thread relay} {choice : Choice} {op : Op}
  {result : op.Result} {session : SessionId} {locals : Session}

theorem known_of_frame (lawful : before.Lawful contract) (attended : Attended before)
    (called : Called before task thread choice op result after) {frame : Frame}
    (framed : thread.job = .frame session frame) : before.state.sessions session ≠ none := by
  obtain ⟨locals, known, _⟩ := attended.busy thread called.member session (.of_call lawful called framed)
  simp [known]

theorem Released.known_call (released : Released before) (lawful : before.Lawful contract)
    (attended : Attended before) (called : Called before task thread choice op result after)
    (mentioned : Mentioned after session) : after.state.sessions session ≠ none := by
  have before_known : before.state.sessions session ≠ none := by
    rcases mentioned with ⟨agentId, there⟩ | ⟨code, there⟩ | ⟨later, member, code, did⟩
    · rcases agentSenders_origin called.executed there with old | rfl
      · exact released.known session (.inl ⟨agentId, old⟩)
      · obtain ⟨agent, _, ⟨_, _, framed, _⟩ | ⟨code, _, _, _, _, waited⟩⟩ :=
          ((called.law lawful).2.2.general fun _ => id).1
        · exact known_of_frame lawful attended called framed
        · exact released.known session (.inr (.inr ⟨thread, called.member, code, waited⟩))
    · rcases pendingClaims_origin called.executed there with old | rfl
      · exact released.known session (.inr (.inl ⟨code, old⟩))
      · obtain ⟨token, ⟨_, _, framed, _⟩ | ⟨_, _, framed, _⟩, _⟩ := ((called.law lawful).2.2.general fun _ => id).1
        · exact known_of_frame lawful attended called framed
        · exact known_of_frame lawful attended called framed
    · rcases called_members called member with ⟨_, past⟩ | old
      · rw [past] at did
        rcases did_cons.mp did with now | earlier
        · cases now
          obtain ⟨_, waiting⟩ := Prod.mk.inj (Option.some.inj called.executed)
          exact released.known session (.inr (.inl ⟨code, waiting⟩))
        · exact released.known session (.inr (.inr ⟨thread, called.member, code, earlier⟩))
      · exact released.known session (.inr (.inr ⟨later, old, code, did⟩))
  rw [exec_session called.executed]
  split
  · simpa using before_known
  · exact before_known

/-- A session that has hung up is registered only for an agent its teardown is still to take out. -/
theorem registers_late (lawful : before.Lawful contract) (attended : Attended before)
    (checked : keepsInStep before thread choice op = true)
    (called : Called before task thread choice op result after)
    (known : before.state.sessions session = some locals) (ended : locals.phase ≠ .reading) {agentId : Uuid}
    (registers : op = .insertAgentSender agentId session) :
    locals.phase = .closing ∧ locals.authenticatedAgentId = some agentId ∧ takenOut before session = false := by
  subst registers
  obtain ⟨agent, _, ⟨_, _, framed, _⟩ | ⟨code, headers, _, claims, _⟩⟩ :=
    ((called.law lawful).2.2.general fun _ => id).1
  · exact absurd (reading_of_message lawful attended called framed known) ended
  · simpa [keepsInStep, claims, attends, known, ended, and_assoc] using checked

theorem Released.closing_call (released : Released before) (lawful : before.Lawful contract)
    (attended : Attended before) (checked : keepsInStep before thread choice op = true)
    (called : Called before task thread choice op result after)
    (known : before.state.sessions session = some locals) (closes : locals.phase = .closing) :
    ∃ other ∈ after.threads, other.job = .frame session .hangup ∧
      ∀ agentId, after.state.agentSenders agentId = some session →
        locals.authenticatedAgentId = some agentId ∧
          ∀ sender, ¬ Did other.past (.removeAgentSender agentId) sender := by
  obtain ⟨other, member, hangs, leaves⟩ := released.closing session locals known closes
  have ended : locals.phase ≠ .reading := by simp [closes]
  have senders := @exec_agentSenders _ before.state after.state choice op result called.executed
  by_cases own : thread.job = .frame session .hangup
  · have same := attended.teardown lawful called own member hangs known (by simp [closes])
    subst same
    obtain ⟨self, there, job, past⟩ := called_mover called
    refine ⟨self, there, job.trans own, fun agentId registered => ?_⟩
    rcases agentSenders_origin called.executed registered with old | rfl
    · obtain ⟨remembers, still⟩ := leaves agentId old
      refine ⟨remembers, fun sender did => ?_⟩
      rw [past] at did
      rcases did_cons.mp did with now | earlier
      · cases now
        rw [senders] at registered
        simp at registered
      · exact still sender earlier
    · exact (tearsDown_of_hangup lawful called own).elim
  · rcases called_stays called member with rfl | still
    · exact absurd hangs own
    · refine ⟨other, still, hangs, fun agentId registered => ?_⟩
      rcases agentSenders_origin called.executed registered with old | now
      · exact leaves agentId old
      · obtain ⟨_, remembers, out⟩ := registers_late lawful attended checked called known ended now
        exact ⟨remembers, not_takenOut out member hangs agentId⟩

theorem Released.returned_call (released : Released before) (lawful : before.Lawful contract)
    (attended : Attended before) (checked : keepsInStep before thread choice op = true)
    (called : Called before task thread choice op result after)
    (known : before.state.sessions session = some locals) (returned : locals.phase = .returned) (agentId : Uuid) :
    after.state.agentSenders agentId ≠ some session := by
  intro there
  rcases agentSenders_origin called.executed there with old | now
  · exact released.returned session locals known returned agentId old
  · have late := registers_late lawful attended checked called known (by simp [returned]) now
    simp [returned] at late

theorem Released.call (released : Released before) (lawful : before.Lawful contract)
    (keeps : before.Lawful bookkeepingContract) (attended : Attended before) (hung : HungUp before)
    (recorded : Recorded before) (checked : keepsInStep before thread choice op = true)
    (called : Called before task thread choice op result after) : Released after := by
  have senders := @exec_agentSenders _ before.state after.state choice op result called.executed
  refine ⟨fun session mentioned => released.known_call lawful attended called mentioned, ?_, ?_⟩
  · intro session later known closes
    obtain ⟨locals, found, ⟨about, rfl⟩ | ⟨_, rfl⟩⟩ := session_before called known
    · rcases ends_of_touch lawful attended called about found (by simp [closes]) with rfl | ⟨rfl, _⟩
      · obtain ⟨hangs, empty⟩ := hangup_of_abort lawful called
        have passed : registersOnly before session locals = true := by simpa [keepsInStep, found] using checked
        obtain ⟨self, there, job, past⟩ := called_mover called
        refine ⟨self, there, job.trans hangs, fun agentId registered => ⟨?_, fun sender did => ?_⟩⟩
        · rw [senders] at registered
          exact of_decide_eq_true (passed_of_done passed (recorded.senders agentId session registered)) registered
        · rw [past, empty] at did
          simp [Did] at did
      · simp [Session.after] at closes
    · exact released.closing_call lawful attended checked called found closes
  · intro session later known returned agentId there
    obtain ⟨locals, found, ⟨about, rfl⟩ | ⟨_, rfl⟩⟩ := session_before called known
    · rcases ends_of_touch lawful attended called about found (by simp [returned]) with rfl | ⟨rfl, hangs⟩
      · simp [Session.after] at returned
      · obtain ⟨_, same, _, going, _⟩ :=
          attended.busy thread called.member session (.of_call lawful called hangs)
        rw [found, Option.some.injEq] at same
        subst same
        have tears := tearsDown_of_hangup lawful called hangs
        have closes : locals.phase = .closing := by
          cases phase : locals.phase with
          | reading =>
              rw [hung.reading session locals found phase thread called.member hangs] at tears
              exact absurd (tearsDown_nil tears) (by simp)
          | closing => rfl
          | returned => exact absurd phase going
        obtain ⟨other, member, hangs', leaves⟩ := released.closing session locals found closes
        have self := attended.teardown lawful called hangs member hangs' found going
        subst self
        rw [senders] at there
        obtain ⟨remembers, still⟩ := leaves agentId there
        obtain ⟨authenticated, code, read, removed⟩ := called.law keeps
        obtain ⟨_, same, settled, _⟩ := attended.settled other member session authenticated code hangs read
        rw [found, Option.some.injEq] at same
        subst same
        obtain ⟨sender, out⟩ := removed agentId (settled ▸ remembers)
        exact still sender out
    · exact released.returned_call lawful attended checked called found returned agentId there

theorem Released.quiet {sessions : SessionId → Option Session} (released : Released before)
    (same : before.SameTasks after) (state : after.state = { before.state with sessions })
    (old : ∀ session locals, sessions session = some locals → locals.phase = .reading ∨
      before.state.sessions session = some locals)
    (kept : ∀ session, before.state.sessions session ≠ none → sessions session ≠ none) : Released after := by
  refine ⟨fun session mentioned => ?_, fun session locals found closes => ?_, fun session locals found returned => ?_⟩
  · rw [state]
    refine kept session (released.known session ?_)
    rcases mentioned with ⟨agentId, there⟩ | ⟨code, there⟩ | ⟨later, member, code, did⟩
    · exact .inl ⟨agentId, by rwa [state] at there⟩
    · exact .inr (.inl ⟨code, by rwa [state] at there⟩)
    · obtain ⟨doer, there, _, past⟩ := same.of_mem member did
      exact .inr (.inr ⟨doer, there, code, past ▸ did⟩)
  · rw [state] at found ⊢
    rcases old session locals found with reads | earlier
    · rw [closes] at reads
      contradiction
    · obtain ⟨thread, member, hangs, leaves⟩ := released.closing session locals earlier closes
      obtain ⟨other, there, job, past⟩ := same.mem member
      exact ⟨other, there, job.trans hangs, by rwa [past]⟩
  · rw [state] at found ⊢
    rcases old session locals found with reads | earlier
    · rw [returned] at reads
      contradiction
    · exact released.returned session locals earlier returned

end Step

variable {portRange : UInt16 × UInt16} {config : Config relay}

/-- The steps keep flags and registry in step, and the process is restarted only
while no agent is online. -/
def inStepOnly : Condition relay := fun config action =>
  keepsInStep.condition config action ∧
    (action = .reboot → ∀ row ∈ config.state.db.agents, row.isOnline = false)

theorem Reached.inStep (reached : Reached inStepOnly portRange config) : InStep config := by
  refine Reachable.induct ?_ ?_ reached
  · constructor <;> simp [World.initial, Database.empty]
  · intro before action after earlier inStep permitted step
    obtain ⟨only, saw⟩ := Reached.onlyClaimed earlier
    cases step with
    | start admitted =>
        obtain ⟨sessions, rfl⟩ := accept_same admitted
        exact inStep.quiet .start rfl
    | call found head executed =>
        exact inStep.call (Reachable.lawful bookkeeping_lawful earlier) only (saw _ (List.mem_of_getElem? found))
          (permitted.1 _ _ _ found head) ⟨found, executed, _, head, rfl⟩
    | acquire found head free => exact inStep.quiet (.replace found) rfl
    | release found head => exact inStep.quiet (.replace found) rfl
    | reboot =>
        have offline := permitted.2 rfl
        refine ⟨fun _ _ there => ?_, fun row member isOnline => ?_, ?_, ?_, ?_⟩
        · simp [World.reboot, World.initial] at there
        · have off := offline row member
          rw [off] at isOnline
          contradiction
        all_goals exact fun _ member => absurd member (by simp)

theorem Reached.released (reached : Reached inStepOnly portRange config) : Released config := by
  refine Reachable.induct ?_ ?_ reached
  · refine ⟨fun session mentioned => ?_, fun _ _ found => ?_, fun _ _ found => ?_⟩
    · simp [Mentioned, World.initial] at mentioned
    · simp [World.initial] at found
    · simp [World.initial] at found
  · intro before action after earlier released permitted step
    cases step with
    | start admitted =>
        obtain ⟨sessions, rfl⟩ := accept_same admitted
        refine released.quiet .start rfl (fun _ _ found => (session_admitted admitted found).imp_left And.left) ?_
        exact fun session there => session_stays admitted there
    | call found head executed =>
        exact released.call (Reached.lawful earlier) (Reachable.lawful bookkeeping_lawful earlier)
          (Reached.attended earlier) (Reached.hungUp earlier) (Reached.recorded earlier)
          (permitted.1 _ _ _ found head) ⟨found, executed, _, head, rfl⟩
    | acquire found head free =>
        exact released.quiet (.replace found) rfl (fun _ _ same => .inr same) fun _ there => there
    | release found head =>
        exact released.quiet (.replace found) rfl (fun _ _ same => .inr same) fun _ there => there
    | reboot =>
        refine ⟨fun session mentioned => ?_, fun _ _ found => ?_, fun _ _ found => ?_⟩
        · simp [Mentioned, World.reboot, World.initial] at mentioned
        · simp [World.reboot, World.initial] at found
        · simp [World.reboot, World.initial] at found

/-- The registry holds the channel of an open session for the agent. -/
def Connected (world : World) (id : String) : Prop :=
  ∃ agentId session locals, id = uuidToString agentId ∧ world.agentSenders agentId = some session ∧
    world.sessions session = some locals ∧ locals.phase = .reading

/-- A session in the registry is open once every task has returned. -/
theorem Released.open (released : Released config) (attended : Attended config)
    (keeps : config.Lawful bookkeepingContract) (quiet : config.Quiet) {agentId : Uuid} {session : SessionId}
    (registered : config.state.agentSenders agentId = some session) :
    ∃ locals, config.state.sessions session = some locals ∧ locals.phase = .reading := by
  obtain ⟨locals, known⟩ := Option.ne_none_iff_exists'.mp (released.known session (.inl ⟨agentId, registered⟩))
  refine ⟨locals, known, ?_⟩
  cases phase : locals.phase with
  | reading => rfl
  | closing =>
      obtain ⟨thread, member, hangs, _⟩ := released.closing session locals known phase
      obtain ⟨value, ended⟩ := (quiet thread member).2
      have concludes := keeps thread member
      rw [ended] at concludes
      have returns := concludes.2 session hangs
      rcases attended.torn thread member session hangs with running | ⟨other, same, gone⟩
      · exact absurd returns running.2.2
      · rw [known, Option.some.injEq] at same
        rw [same, gone] at phase
        contradiction
  | returned => exact absurd registered (released.returned session locals known phase agentId)

end Flags

/-- A schedule without restarts whose operations keep flags and registry in step. -/
theorem follow_inStep {turns : List (Turn relay)} {config : Config relay}
    (followed : relay.follow keepsInStep 200 turns ⟨newRelay, []⟩ = some config)
    (stays : (turns.all fun turn => match turn with | .reboot => false | _ => true) = true) :
    Reached inStepOnly (10000, 60000) config := by
  refine System.follow_allowed followed (fun _ action moves => ⟨moves.1, fun same => absurd same moves.2.2⟩)
    (fun _ _ _ => ⟨trivial, fun same => by contradiction⟩) fun member => ?_
  have impossible := List.all_eq_true.mp stays _ member
  contradiction

end TunnelitRelay
