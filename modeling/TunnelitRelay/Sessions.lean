import TunnelitRelay.Effects
import TunnelitRelay.Handlers

namespace TunnelitRelay

open Concurrent

variable [Externals] {allowed : Condition relay} {portRange : UInt16 × UInt16}

/-! # Sessions and their frames

The loop of a session deals with one frame at a time and stops at the first
that hangs up, so the local variables of a session change only under the hands
of the one frame in progress.
-/

/-- The task deals with a frame of the session and is not done with it. -/
def Running (job : Job) (past : Past) (session : SessionId) : Prop :=
  (∃ frame, job = .frame session frame) ∧ ¬ Did past (.awaitFrame session) () ∧
    ¬ Did past (.returnSession session) ()

/-- The session an operation on local variables is about. -/
def Op.session : Op → Option SessionId
  | .setAuthenticatedAgentId session _ | .setCurrentClaimCode session _ | .abortSendTask session
  | .awaitFrame session | .returnSession session => some session
  | _ => none

/-- What an operation of a session's own frame does to its local variables. -/
def Session.after : Op → Session → Session
  | .setAuthenticatedAgentId _ agentId, locals => { locals with authenticatedAgentId := some agentId }
  | .setCurrentClaimCode _ code, locals => { locals with currentClaimCode := some code }
  | .abortSendTask _, locals => { locals with phase := .closing }
  | .awaitFrame _, locals => { locals with busy := false }
  | .returnSession _, locals => { locals with phase := .returned }
  | _, locals => locals

section Call

variable {before after : Config relay} {task : Nat} {thread : Thread relay} {choice : Choice} {op : Op}
  {result : op.Result} {session : SessionId}

theorem Running.of_call (lawful : before.Lawful contract)
    (called : Called before task thread choice op result after) {frame : Frame}
    (framed : thread.job = .frame session frame) : Running thread.job thread.past session :=
  ⟨⟨frame, framed⟩, (called.law lawful).1 session frame framed⟩

theorem session_framed (lawful : before.Lawful contract)
    (called : Called before task thread choice op result after) (about : op.session = some session) :
    ∃ frame, thread.job = .frame session frame := by
  have permitted := (called.law lawful).2.2
  unfold Permitted at permitted
  split at permitted
  · rename_i other hangs
    cases op with
    | abortSendTask closed =>
        cases about
        exact ⟨.hangup, permitted.1 ▸ hangs⟩
    | returnSession closed =>
        cases about
        exact ⟨.hangup, permitted.1 ▸ hangs⟩
    | setAuthenticatedAgentId | setCurrentClaimCode | awaitFrame => exact permitted.elim
    | _ => simp [Op.session] at about
  · cases op with
    | abortSendTask | returnSession => exact permitted.elim
    | setAuthenticatedAgentId | setCurrentClaimCode =>
        cases about
        exact permitted
    | awaitFrame =>
        cases about
        exact permitted.imp fun _ framed => framed.1
    | _ => simp [Op.session] at about

theorem exec_session {world later : World} (executed : exec world choice op = some (later, result)) :
    later.sessions session =
      if op.session = some session then (world.sessions session).map (Session.after op)
      else world.sessions session := by
  rw [exec_sessions executed]
  cases op with
  | setAuthenticatedAgentId other | setCurrentClaimCode other | abortSendTask other
  | awaitFrame other | returnSession other =>
      by_cases same : session = other
      · subst same
        simp only [updateSession, Op.session, Function.update_self, if_true]
        rfl
      · simp [updateSession, Op.session, Function.update_of_ne same, Ne.symm same]
  | _ => rfl

end Call

/-! ## One frame at a time -/

structure Attended (config : Config relay) : Prop where
  one : ∀ (index other : Nat) left right session, config.threads[index]? = some left →
    config.threads[other]? = some right → Running left.job left.past session →
    Running right.job right.past session → index = other
  busy : ∀ thread ∈ config.threads, ∀ session, Running thread.job thread.past session →
    ∃ locals, config.state.sessions session = some locals ∧ locals.busy = true ∧
      locals.phase ≠ .returned ∧ (thread.job ≠ .frame session .hangup → locals.phase = .reading)
  /-- A session that has hung up is being torn down or has returned. -/
  torn : ∀ thread ∈ config.threads, ∀ session, thread.job = .frame session .hangup →
    Running thread.job thread.past session ∨
      ∃ locals, config.state.sessions session = some locals ∧ locals.phase = .returned
  /-- Once read by the teardown, the local variables do not change. -/
  settled : ∀ thread ∈ config.threads, ∀ session agentId code,
    thread.job = .frame session .hangup → Did thread.past (.sessionLocals session) (agentId, code) →
    ∃ locals, config.state.sessions session = some locals ∧ locals.authenticatedAgentId = agentId ∧
      locals.currentClaimCode = code

section Step

variable {before after : Config relay} {task : Nat} {thread : Thread relay} {choice : Choice} {op : Op}
  {result : op.Result} {session : SessionId}

omit [Externals] in
theorem Running.origin {job : Job} {past : Past} (running : Running job (⟨op, result⟩ :: past) session) :
    Running job past session ∧ op ≠ .awaitFrame session ∧ op ≠ .returnSession session := by
  obtain ⟨framed, awaits, returns⟩ := running
  refine ⟨⟨framed, fun did => awaits (List.mem_cons_of_mem _ did),
    fun did => returns (List.mem_cons_of_mem _ did)⟩, ?_, ?_⟩
  · rintro rfl
    exact awaits List.mem_cons_self
  · rintro rfl
    exact returns List.mem_cons_self

/-- A task in the middle of a frame was so before the step. -/
theorem running_origin (called : Called before task thread choice op result after) {index : Nat}
    {other : Thread relay} (there : after.threads[index]? = some other)
    (running : Running other.job other.past session) :
    ∃ old, before.threads[index]? = some old ∧ old.job = other.job ∧
      Running old.job old.past session ∧
      (index = task → op ≠ .awaitFrame session ∧ op ≠ .returnSession session) := by
  rcases called.origin there with ⟨rfl, job, _, past⟩ | ⟨elsewhere, old⟩
  · rw [job, past] at running
    obtain ⟨before', unlike⟩ := running.origin
    exact ⟨thread, called.found, job.symm, before', fun _ => unlike⟩
  · exact ⟨other, old, rfl, running, fun same => absurd same elsewhere⟩

/-- The frame in progress is the one that touches its session. -/
theorem Attended.toucher (attended : Attended before) (lawful : before.Lawful contract)
    (called : Called before task thread choice op result after) (about : op.session = some session)
    {index : Nat} {other : Thread relay} (there : before.threads[index]? = some other)
    (running : Running other.job other.past session) : index = task := by
  obtain ⟨frame, framed⟩ := session_framed lawful called about
  exact attended.one _ _ _ _ _ there called.found running (.of_call lawful called framed)

theorem hangup_of_abort {result : Op.Result (.abortSendTask session)} (lawful : before.Lawful contract)
    (called : Called before task thread choice (.abortSendTask session) result after) :
    thread.job = .frame session .hangup ∧ thread.past = [] := by
  have permitted := (called.law lawful).2.2
  unfold Permitted at permitted
  split at permitted
  · rename_i other hangs
    obtain ⟨rfl, empty⟩ := permitted
    exact ⟨hangs, empty⟩
  · exact permitted.elim

theorem tearsDown_of_hangup (lawful : before.Lawful contract)
    (called : Called before task thread choice op result after)
    (hangs : thread.job = .frame session .hangup) : TearsDown session thread.past op := by
  have permitted := (called.law lawful).2.2
  rw [hangs] at permitted
  exact permitted

theorem Attended.call (attended : Attended before) (lawful : before.Lawful contract)
    (called : Called before task thread choice op result after) : Attended after := by
  have sessions {session : SessionId} : after.state.sessions session =
      if op.session = some session then (before.state.sessions session).map (Session.after op)
      else before.state.sessions session := exec_session called.executed
  -- A session whose teardown is over or in other hands is not touched.
  have untouched {session : SessionId} (foreign : op.session ≠ some session) :
      after.state.sessions session = before.state.sessions session := by
    rw [sessions, if_neg foreign]
  have returned {session : SessionId} {locals : Session}
      (found : before.state.sessions session = some locals) (ended : locals.phase = .returned) :
      op.session ≠ some session := by
    intro about
    obtain ⟨frame, framed⟩ := session_framed lawful called about
    obtain ⟨locals', found', _, going, _⟩ :=
      attended.busy thread called.member session (.of_call lawful called framed)
    rw [found, Option.some.injEq] at found'
    exact going (found' ▸ ended)
  refine ⟨?_, ?_, ?_, ?_⟩
  · intro index other left right session thereLeft thereRight runsLeft runsRight
    obtain ⟨_, oldLeft, _, ranLeft, _⟩ := running_origin called thereLeft runsLeft
    obtain ⟨_, oldRight, _, ranRight, _⟩ := running_origin called thereRight runsRight
    exact attended.one _ _ _ _ _ oldLeft oldRight ranLeft ranRight
  · intro other member session runs
    obtain ⟨index, there⟩ := List.mem_iff_getElem?.mp member
    obtain ⟨old, found, job, ran, unlike⟩ := running_origin called there runs
    obtain ⟨locals, known, busy, going, reading⟩ := attended.busy old (List.mem_of_getElem? found) session ran
    by_cases about : op.session = some session
    · have here := attended.toucher lawful called about found ran
      obtain ⟨notAwait, notReturn⟩ := unlike here
      rw [here, called.found, Option.some.injEq] at found
      subst found
      rw [sessions, if_pos about, known, Option.map_some]
      refine ⟨_, rfl, ?_⟩
      cases op with
      | abortSendTask closed =>
          cases about
          exact ⟨busy, by simp [Session.after],
            fun other => absurd (job ▸ (hangup_of_abort lawful called).1) other⟩
      | awaitFrame other =>
          cases about
          exact absurd rfl notAwait
      | returnSession other =>
          cases about
          exact absurd rfl notReturn
      | setAuthenticatedAgentId | setCurrentClaimCode => exact ⟨busy, going, job ▸ reading⟩
      | _ => simp [Op.session] at about
    · exact ⟨locals, (untouched about).trans known, busy, going, job ▸ reading⟩
  · intro other member session hangs
    obtain ⟨index, there⟩ := List.mem_iff_getElem?.mp member
    rcases called.origin there with ⟨_, job, _, past⟩ | ⟨elsewhere, old⟩
    · rw [job] at hangs
      have runs := Running.of_call lawful called hangs
      have tears := tearsDown_of_hangup lawful called hangs
      by_cases ended : op = .returnSession session
      · obtain ⟨locals, known, _⟩ := attended.busy thread called.member session runs
        refine .inr ⟨{ locals with phase := .returned }, ?_, rfl⟩
        rw [sessions, if_pos (ended ▸ rfl), known, ended]
        rfl
      · refine .inl ?_
        rw [job, past]
        refine ⟨runs.1, ?_, ?_⟩
        · intro did
          rcases did_cons.mp did with now | before'
          · cases now
            exact tears
          · exact runs.2.1 before'
        · intro did
          rcases did_cons.mp did with now | before'
          · cases now
            exact ended rfl
          · exact runs.2.2 before'
    · rcases attended.torn other (List.mem_of_getElem? old) session hangs with runs | ⟨locals, known, ended⟩
      · exact .inl runs
      · exact .inr ⟨locals, (untouched (returned known ended)).trans known, ended⟩
  · intro other member session agentId code hangs did
    obtain ⟨index, there⟩ := List.mem_iff_getElem?.mp member
    rcases called.origin there with ⟨_, job, _, past⟩ | ⟨elsewhere, old⟩
    · rw [job] at hangs
      rw [past] at did
      have tears := tearsDown_of_hangup lawful called hangs
      rcases did_cons.mp did with now | before'
      · cases now
        have executed : exec before.state choice (.sessionLocals session) =
          some (after.state, (agentId, code)) := called.executed
        simp only [exec] at executed
        split at executed
        · rename_i locals known
          simp only [Option.some.injEq, Prod.mk.injEq] at executed
          obtain ⟨same, rfl, rfl⟩ := executed
          exact ⟨locals, same ▸ known, rfl, rfl⟩
        · contradiction
      · obtain ⟨locals, known, same⟩ :=
          attended.settled thread called.member session agentId code hangs before'
        by_cases about : op.session = some session
        · rw [sessions, if_pos about, known, Option.map_some]
          refine ⟨_, rfl, ?_⟩
          cases op with
          | abortSendTask closed =>
              rw [tears.2] at before'
              exact absurd before' did_nil
          | returnSession other => exact same
          | setAuthenticatedAgentId | setCurrentClaimCode | awaitFrame => exact tears.elim
          | _ => simp [Op.session] at about
        · exact ⟨locals, (untouched about).trans known, same⟩
    · have before' := List.mem_of_getElem? old
      obtain ⟨locals, known, same⟩ := attended.settled other before' session agentId code hangs did
      refine ⟨locals, (untouched ?_).trans known, same⟩
      rcases attended.torn other before' session hangs with runs | ⟨locals', known', ended⟩
      · exact fun about => elsewhere (attended.toucher lawful called about old runs)
      · exact returned known' ended

omit [Externals] in
/-- What admitting a job does to the sessions: a connection opens one, a frame
occupies one that waits. -/
theorem accept_sessions {world state : World} {job : Job} (admitted : accept world job = some state) :
    (∃ session locals, job = .connect session ∧ world.sessions session = none ∧
      locals.phase = .reading ∧
      state.sessions = Function.update world.sessions session (some locals)) ∨
    (∃ session frame locals, job = .frame session frame ∧ world.sessions session = some locals ∧
      locals.phase = .reading ∧ locals.busy = false ∧
      state.sessions = Function.update world.sessions session (some { locals with busy := true })) ∨
    ((∀ session frame, job ≠ .frame session frame) ∧ state.sessions = world.sessions) := by
  cases job with
  | connect session =>
      simp only [accept] at admitted
      split at admitted
      · contradiction
      · rename_i unknown
        cases admitted
        exact .inl ⟨session, _, rfl, unknown, rfl, rfl⟩
  | frame session frame =>
      simp only [accept] at admitted
      split at admitted
      · rename_i locals known
        split at admitted
        · rename_i free
          cases admitted
          refine .inr (.inl ⟨session, frame, locals, rfl, known, free.1, free.2, ?_⟩)
          simp [updateSession, known]
        · contradiction
      · contradiction
  | _ =>
      cases admitted
      exact .inr (.inr ⟨by simp, rfl⟩)

/-- An old task in the middle of a frame keeps the session it has. -/
theorem Attended.still {job : Job} {state : World} (attended : Attended before)
    (admitted : accept before.state job = some state) {other : Thread relay}
    (member : other ∈ before.threads) (runs : Running other.job other.past session) :
    state.sessions session = before.state.sessions session ∧ ∀ frame, job ≠ .frame session frame := by
  obtain ⟨locals, known, busy, _⟩ := attended.busy other member session runs
  rcases accept_sessions admitted with ⟨opened, fresh, rfl, unknown, _, sessions⟩ |
    ⟨occupied, frame, locals', rfl, known', _, free, sessions⟩ | ⟨unframed, sessions⟩
  · have different : session ≠ opened := by
      rintro rfl
      rw [known] at unknown
      contradiction
    exact ⟨by rw [sessions, Function.update_of_ne different], by simp⟩
  · have different : session ≠ occupied := by
      rintro rfl
      rw [known, Option.some.injEq] at known'
      rw [known', free] at busy
      contradiction
    refine ⟨by rw [sessions, Function.update_of_ne different], fun frame same => ?_⟩
    cases same
    exact different rfl
  · exact ⟨by rw [sessions], unframed session⟩

omit [Externals] in
theorem Running.fresh {job : Job} (runs : Running job [] session) : ∃ frame, job = .frame session frame :=
  runs.1

theorem Attended.start {job : Job} {state : World} (attended : Attended before)
    (admitted : accept before.state job = some state) :
    Attended ⟨state, before.threads ++ [Thread.fresh relay job]⟩ := by
  have kept {session : SessionId} {locals : Session}
      (known : before.state.sessions session = some locals) (ended : locals.phase = .returned) :
      state.sessions session = some locals := by
    rcases accept_sessions admitted with ⟨opened, fresh, rfl, unknown, _, sessions⟩ |
      ⟨occupied, frame, locals', rfl, known', reading, _, sessions⟩ | ⟨_, sessions⟩
    · rw [sessions, Function.update_of_ne, known]
      rintro rfl
      rw [known] at unknown
      contradiction
    · rw [sessions, Function.update_of_ne, known]
      rintro rfl
      rw [known, Option.some.injEq] at known'
      rw [← known', ended] at reading
      contradiction
    · rw [sessions, known]
  refine ⟨?_, ?_, ?_, ?_⟩
  · intro index other left right session thereLeft thereRight runsLeft runsRight
    rcases getElem?_append_cases thereLeft with ⟨rfl, rfl⟩ | oldLeft
    · rcases getElem?_append_cases thereRight with ⟨rfl, rfl⟩ | oldRight
      · rfl
      · obtain ⟨frame, framed⟩ := runsLeft.fresh
        exact absurd framed ((attended.still admitted (List.mem_of_getElem? oldRight) runsRight).2 frame)
    · rcases getElem?_append_cases thereRight with ⟨rfl, rfl⟩ | oldRight
      · obtain ⟨frame, framed⟩ := runsRight.fresh
        exact absurd framed ((attended.still admitted (List.mem_of_getElem? oldLeft) runsLeft).2 frame)
      · exact attended.one _ _ _ _ _ oldLeft oldRight runsLeft runsRight
  · intro other member session runs
    rcases List.mem_append.mp member with old | new
    · obtain ⟨locals, known, rest⟩ := attended.busy other old session runs
      exact ⟨locals, (attended.still admitted old runs).1.trans known, rest⟩
    · rw [List.mem_singleton.mp new] at runs ⊢
      obtain ⟨frame, framed⟩ := runs.fresh
      rcases accept_sessions admitted with ⟨opened, fresh, rfl, _⟩ |
        ⟨occupied, frame', locals, rfl, known, reading, _, sessions⟩ | ⟨unframed, _⟩
      · cases framed
      · cases framed
        exact ⟨{ locals with busy := true }, by rw [sessions, Function.update_self], rfl,
          by simp [reading], fun _ => reading⟩
      · exact absurd framed (unframed session frame)
  · intro other member session hangs
    rcases List.mem_append.mp member with old | new
    · rcases attended.torn other old session hangs with runs | ⟨locals, known, ended⟩
      · exact .inl runs
      · exact .inr ⟨locals, kept known ended, ended⟩
    · rw [List.mem_singleton.mp new] at hangs ⊢
      exact .inl ⟨⟨_, hangs⟩, did_nil, did_nil⟩
  · intro other member session agentId code hangs did
    rcases List.mem_append.mp member with old | new
    · obtain ⟨locals, known, same⟩ := attended.settled other old session agentId code hangs did
      rcases attended.torn other old session hangs with runs | ⟨locals', known', ended⟩
      · exact ⟨locals, (attended.still admitted old runs).1.trans known, same⟩
      · rw [known, Option.some.injEq] at known'
        exact ⟨locals, kept known (known' ▸ ended), same⟩
    · rw [List.mem_singleton.mp new] at did
      exact absurd did did_nil

theorem Attended.replace {held : Held} {rest : Relay Reply} (attended : Attended before)
    (found : before.threads[task]? = some thread) :
    Attended ⟨before.state, before.threads.set task { thread with held, rest }⟩ := by
  have old {index : Nat} {other : Thread relay}
      (there : (before.threads.set task { thread with held, rest })[index]? = some other) :
      ∃ earlier, before.threads[index]? = some earlier ∧ earlier.job = other.job ∧
        earlier.past = other.past := by
    rcases getElem?_set_cases there with ⟨rfl, rfl⟩ | ⟨_, same⟩
    · exact ⟨thread, found, rfl, rfl⟩
    · exact ⟨other, same, rfl, rfl⟩
  refine ⟨?_, ?_, ?_, ?_⟩
  · intro index other left right session thereLeft thereRight runsLeft runsRight
    obtain ⟨one, foundOne, jobOne, pastOne⟩ := old thereLeft
    obtain ⟨two, foundTwo, jobTwo, pastTwo⟩ := old thereRight
    exact attended.one _ _ _ _ session foundOne foundTwo (by rwa [jobOne, pastOne])
      (by rwa [jobTwo, pastTwo])
  · intro other member session runs
    obtain ⟨index, there⟩ := List.mem_iff_getElem?.mp member
    obtain ⟨earlier, found, job, past⟩ := old there
    rw [← job]
    exact attended.busy earlier (List.mem_of_getElem? found) session (by rwa [job, past])
  · intro other member session hangs
    obtain ⟨index, there⟩ := List.mem_iff_getElem?.mp member
    obtain ⟨earlier, found, job, past⟩ := old there
    rw [← job, ← past]
    exact attended.torn earlier (List.mem_of_getElem? found) session (job.trans hangs)
  · intro other member session agentId code hangs did
    obtain ⟨index, there⟩ := List.mem_iff_getElem?.mp member
    obtain ⟨earlier, found, job, past⟩ := old there
    exact attended.settled earlier (List.mem_of_getElem? found) session agentId code (job.trans hangs)
      (by rwa [past])

end Step

theorem Reached.attended {config : Config relay} (reached : Reached allowed portRange config) :
    Attended config := by
  refine Reachable.induct ?_ ?_ reached
  · exact ⟨fun _ _ _ _ _ there => by simp at there, fun thread member => by simp at member,
      fun thread member => by simp at member, fun thread member => by simp at member⟩
  · intro before action after earlier attended _ step
    cases step with
    | start admitted => exact attended.start admitted
    | call found head executed =>
        exact attended.call (Reached.lawful earlier) ⟨found, executed, _, head, rfl⟩
    | acquire found head free => exact attended.replace found
    | release found head => exact attended.replace found
    | reboot =>
        exact ⟨fun _ _ _ _ _ there => by simp at there, fun thread member => by simp at member,
          fun thread member => by simp at member, fun thread member => by simp at member⟩

/-! ## Sessions that have hung up -/

variable {before after : Config relay} {task : Nat} {thread : Thread relay} {choice : Choice} {op : Op}
  {result : op.Result} {session : SessionId} {locals : Session}

theorem tearsDown_nil {op : Op} (tears : TearsDown session [] op) : op = .abortSendTask session := by
  unfold TearsDown at tears
  split at tears
  · rw [tears.1]
  · exact absurd tears.2 did_nil
  · exact absurd tears.choose_spec did_nil
  · exact absurd tears.choose_spec did_nil
  · obtain ⟨_, _, read, _⟩ := tears
    exact absurd read did_nil
  · obtain ⟨_, _, _, read, _⟩ := tears
    exact absurd read did_nil
  · obtain ⟨_, ⟨_, _, _, read, _⟩, _⟩ := tears
    exact absurd read did_nil
  · obtain ⟨_, ⟨_, _, _, read, _⟩, _⟩ := tears
    exact absurd read did_nil
  · obtain ⟨_, _, _, read, _⟩ := tears
    exact absurd read did_nil
  · exact tears.elim

/-- The session before the step. -/
theorem session_before {later : Session} (called : Called before task thread choice op result after)
    (known : after.state.sessions session = some later) :
    ∃ locals, before.state.sessions session = some locals ∧
      (op.session = some session ∧ later = Session.after op locals ∨
        op.session ≠ some session ∧ later = locals) := by
  rw [exec_session called.executed] at known
  split at known
  · rename_i about
    obtain ⟨locals, found, rfl⟩ := Option.map_eq_some_iff.mp known
    exact ⟨locals, found, .inl ⟨about, rfl⟩⟩
  · rename_i foreign
    exact ⟨later, known, .inr ⟨foreign, rfl⟩⟩

omit [Externals] in
theorem phase_after (op : Op) : (Session.after op locals).phase = .reading → locals.phase = .reading := by
  intro reads
  cases op with
  | abortSendTask | returnSession => simp [Session.after] at reads
  | _ => exact reads

/-- The one task that tears the session down. -/
theorem Attended.teardown (attended : Attended before) (lawful : before.Lawful contract)
    (called : Called before task thread choice op result after) (hangs : thread.job = .frame session .hangup)
    {other : Thread relay} (member : other ∈ before.threads) (closes : other.job = .frame session .hangup)
    (known : before.state.sessions session = some locals) (going : locals.phase ≠ .returned) :
    other = thread := by
  obtain ⟨index, there⟩ := List.mem_iff_getElem?.mp member
  rcases attended.torn other member session closes with runs | ⟨found, same, gone⟩
  · have here := attended.one _ _ _ _ session there called.found runs (.of_call lawful called hangs)
    rw [here, called.found, Option.some.injEq] at there
    exact there.symm
  · rw [known, Option.some.injEq] at same
    exact absurd (same ▸ gone) going

/-- What a step on a session's local variables can do to one that has hung up. -/
theorem ends_of_touch (lawful : before.Lawful contract) (attended : Attended before)
    (called : Called before task thread choice op result after) (about : op.session = some session)
    (known : before.state.sessions session = some locals)
    (ended : (Session.after op locals).phase ≠ .reading) :
    op = .abortSendTask session ∨ op = .returnSession session ∧ thread.job = .frame session .hangup := by
  obtain ⟨frame, framed⟩ := session_framed lawful called about
  by_cases hangs : frame = .hangup
  · subst hangs
    have tears := tearsDown_of_hangup lawful called framed
    cases op with
    | abortSendTask closed =>
        cases about
        exact .inl rfl
    | returnSession closed =>
        cases about
        exact .inr ⟨rfl, framed⟩
    | setAuthenticatedAgentId | setCurrentClaimCode | awaitFrame => exact tears.elim
    | _ => simp [Op.session] at about
  · obtain ⟨found, same, _, _, reading⟩ :=
      attended.busy thread called.member session (.of_call lawful called framed)
    rw [known, Option.some.injEq] at same
    have reads : locals.phase = .reading := same ▸ reading (by simpa [framed] using hangs)
    cases op with
    | abortSendTask closed =>
        cases about
        exact .inl rfl
    | returnSession closed =>
        have permitted := (called.law lawful).2.2
        rw [framed] at permitted
        cases frame with
        | hangup => exact absurd rfl hangs
        | _ => exact permitted.elim
    | _ => exact absurd reads ended

omit [Externals] in
/-- A session after a job was admitted is as it was, or it reads frames and did so before if it was there. -/
theorem session_admitted {world state : World} {job : Job} (admitted : accept world job = some state)
    (found : state.sessions session = some locals) :
    locals.phase = .reading ∧ (∀ earlier, world.sessions session = some earlier → earlier.phase = .reading) ∨
      world.sessions session = some locals := by
  rcases accept_sessions admitted with ⟨opened, fresh, _, unknown, reads, changed⟩ |
    ⟨occupied, _, locals', _, known, reads, _, changed⟩ | ⟨_, changed⟩
  · rw [changed] at found
    by_cases here : session = opened
    · subst here
      rw [Function.update_self, Option.some.injEq] at found
      exact .inl ⟨found ▸ reads, by simp [unknown]⟩
    · rw [Function.update_of_ne here] at found
      exact .inr found
  · rw [changed] at found
    by_cases here : session = occupied
    · subst here
      rw [Function.update_self, Option.some.injEq] at found
      refine .inl ⟨found ▸ reads, fun earlier same => ?_⟩
      rw [known, Option.some.injEq] at same
      exact same ▸ reads
    · rw [Function.update_of_ne here] at found
      exact .inr found
  · rw [changed] at found
    exact .inr found

/-- A teardown that has begun is that of a session that is closing or has returned. -/
structure HungUp (config : Config relay) : Prop where
  reading : ∀ session locals, config.state.sessions session = some locals → locals.phase = .reading →
    ∀ thread ∈ config.threads, thread.job = .frame session .hangup → thread.past = []
  closing : ∀ session locals, config.state.sessions session = some locals → locals.phase = .closing →
    ∃ thread ∈ config.threads, thread.job = .frame session .hangup

theorem HungUp.call (hung : HungUp before) (lawful : before.Lawful contract) (attended : Attended before)
    (called : Called before task thread choice op result after) : HungUp after := by
  refine ⟨fun session later known reads other member hangs => ?_, fun session later known closes => ?_⟩
  · obtain ⟨locals, found, change⟩ := session_before called known
    have earlier : locals.phase = .reading := by
      rcases change with ⟨_, rfl⟩ | ⟨_, rfl⟩
      · exact phase_after op reads
      · exact reads
    obtain ⟨index, there⟩ := List.mem_iff_getElem?.mp member
    rcases called.origin there with ⟨_, job, _, _⟩ | ⟨_, old⟩
    · rw [job] at hangs
      have tears := tearsDown_of_hangup lawful called hangs
      rw [hung.reading session locals found earlier thread called.member hangs] at tears
      have aborts := tearsDown_nil tears
      subst aborts
      rcases change with ⟨_, rfl⟩ | ⟨foreign, _⟩
      · simp [Session.after] at reads
      · exact absurd rfl foreign
    · exact hung.reading session locals found earlier other (List.mem_of_getElem? old) hangs
  · obtain ⟨locals, found, ⟨about, rfl⟩ | ⟨_, rfl⟩⟩ := session_before called known
    · rcases ends_of_touch lawful attended called about found (by simp [closes]) with rfl | ⟨rfl, _⟩
      · obtain ⟨self, there, job, _, _⟩ := called.self
        exact ⟨self, List.mem_of_getElem? there, job.trans (hangup_of_abort lawful called).1⟩
      · simp [Session.after] at closes
    · obtain ⟨other, member, hangs⟩ := hung.closing session later found closes
      obtain ⟨kept, there, job⟩ := called.kept member
      exact ⟨kept, there, job.trans hangs⟩

theorem HungUp.quiet (hung : HungUp before) (same : before.SameTasks after)
    (sessions : ∀ session locals, after.state.sessions session = some locals →
      locals.phase = .reading ∧
        (∀ thread ∈ before.threads, thread.job = .frame session .hangup → thread.past = []) ∨
        before.state.sessions session = some locals) : HungUp after := by
  refine ⟨fun session locals known reads thread member hangs => ?_, fun session locals known closes => ?_⟩
  · obtain ⟨index, there⟩ := List.mem_iff_getElem?.mp member
    rcases same.old index thread there with empty | ⟨other, earlier, job, past⟩
    · exact empty
    · have found := List.mem_of_getElem? earlier
      rw [← past]
      rcases sessions session locals known with ⟨_, fresh⟩ | old
      · exact fresh other found (job.trans hangs)
      · exact hung.reading session locals old reads other found (job.trans hangs)
  · rcases sessions session locals known with ⟨reads, _⟩ | old
    · rw [closes] at reads
      contradiction
    · obtain ⟨thread, member, hangs⟩ := hung.closing session locals old closes
      obtain ⟨other, there, job, _⟩ := same.mem member
      exact ⟨other, there, job.trans hangs⟩

theorem HungUp.start {job : Job} {state : World} (hung : HungUp before) (attended : Attended before)
    (admitted : accept before.state job = some state) :
    HungUp ⟨state, before.threads ++ [Thread.fresh relay job]⟩ := by
  refine hung.quiet .start fun session locals found => ?_
  rcases session_admitted admitted found with ⟨reads, earlier⟩ | same
  · refine .inl ⟨reads, fun thread member hangs => ?_⟩
    obtain ⟨old, known⟩ : ∃ old, before.state.sessions session = some old := by
      rcases attended.torn thread member session hangs with runs | ⟨old, known, _⟩
      · exact (attended.busy thread member session runs).imp fun _ there => there.1
      · exact ⟨old, known⟩
    exact hung.reading session old known (earlier old known) thread member hangs
  · exact .inr same

theorem Reached.hungUp {config : Config relay} (reached : Reached allowed portRange config) :
    HungUp config := by
  refine Reachable.induct ?_ ?_ reached
  · exact ⟨fun _ _ found => by simp [World.initial] at found, fun _ _ found => by simp [World.initial] at found⟩
  · intro before action after earlier hung _ step
    have attended := Reached.attended earlier
    cases step with
    | start admitted => exact hung.start attended admitted
    | call found head executed =>
        exact hung.call (Reached.lawful earlier) attended ⟨found, executed, _, head, rfl⟩
    | acquire found head free => exact hung.quiet (.replace found) fun _ _ same => .inr same
    | release found head => exact hung.quiet (.replace found) fun _ _ same => .inr same
    | reboot =>
        exact ⟨fun _ _ found => by simp [World.reboot, World.initial] at found,
          fun _ _ found => by simp [World.reboot, World.initial] at found⟩

end TunnelitRelay
