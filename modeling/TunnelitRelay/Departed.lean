import TunnelitRelay.GhostListeners
import TunnelitRelay.Results
import TunnelitRelay.Sessions
import TunnelitRelay.Standard

namespace TunnelitRelay

open Concurrent

/-! # What a session leaves behind

The teardown takes out what stands under the one agent id and the one claim
code that the loop still remembers.  Everything else a session was registered
for, and everything `claim_agent` registers it for without its knowledge, stays.
-/

section Registry

variable [Externals] {allowed : Condition relay} {portRange : UInt16 × UInt16}

/-! ## A registered channel stays while the registry is read -/

structure RegistryGuarded (config : Config relay) : Prop where
  ordered : ∀ thread ∈ config.threads,
    thread.held.Pairwise fun later earlier => earlier.1.rank < later.1.rank
  current : ∀ thread ∈ config.threads, ∀ agentId sender,
    Did thread.past (.agentSender agentId) (some sender) →
    (Lock.agentSenders, Mode.shared) ∈ thread.held → config.state.agentSenders agentId = some sender

omit [Externals] in
theorem dropGuard_sublist {lock : Lock} {held : Held} :
    (@dropGuard relaySignature lock held).Sublist held := by
  induction held with
  | nil => exact .slnil
  | cons guard rest ih =>
      simp only [dropGuard]
      split
      · exact List.sublist_cons_self _ _
      · exact ih.cons_cons _

omit [Externals] in
/-- A task does not hold one lock in two modes. -/
theorem one_mode {held : Held} {lock : Lock}
    (ordered : held.Pairwise fun later earlier => earlier.1.rank < later.1.rank)
    (shared : (lock, Mode.shared) ∈ held) (exclusive : (lock, Mode.exclusive) ∈ held) : False := by
  induction held with
  | nil => contradiction
  | cons guard rest ih =>
      obtain ⟨below, later⟩ := List.pairwise_cons.mp ordered
      rcases List.mem_cons.mp shared with rfl | inShared
      · rcases List.mem_cons.mp exclusive with same | inExclusive
        · cases same
        · exact absurd (below _ inExclusive) (Nat.lt_irrefl _)
      · rcases List.mem_cons.mp exclusive with rfl | inExclusive
        · exact absurd (below _ inShared) (Nat.lt_irrefl _)
        · exact ih later inShared inExclusive

/-- The registry changes only under its exclusive guard. -/
theorem exec_registry {world after : World} {choice : Choice} {op : Op} {result : op.Result}
    (executed : exec world choice op = some (after, result))
    (other : op.guard ≠ some (.agentSenders, .exclusive)) : after.agentSenders = world.agentSenders := by
  rw [exec_agentSenders executed]
  cases op with
  | insertAgentSender | removeAgentSender => exact absurd rfl other
  | _ => rfl

theorem RegistryGuarded.call {before after : Config relay} {task : Nat} {thread : Thread relay}
    {choice : Choice} {op : Op} {result : op.Result} (guarded : RegistryGuarded before)
    (lawful : before.Lawful contract) (exclusive : before.Exclusive)
    (called : Called before task thread choice op result after) : RegistryGuarded after := by
  refine ⟨fun other member => ?_, fun other member agentId sender did holds => ?_⟩
  · obtain ⟨index, there⟩ := List.mem_iff_getElem?.mp member
    rcases called.origin there with ⟨_, _, held, _⟩ | ⟨_, old⟩
    · rw [held]
      exact guarded.ordered thread called.member
    · exact guarded.ordered other (List.mem_of_getElem? old)
  · obtain ⟨index, there⟩ := List.mem_iff_getElem?.mp member
    rcases called.origin there with ⟨_, _, held, past⟩ | ⟨elsewhere, old⟩
    · rw [held] at holds
      have unlike : op.guard ≠ some (.agentSenders, .exclusive) := fun same =>
        one_mode (guarded.ordered thread called.member) holds ((called.law lawful).2.1 _ same)
      rw [exec_registry called.executed unlike]
      rw [past] at did
      rcases did_cons.mp did with now | earlier
      · cases now
        exact (Prod.mk.inj (Option.some.inj called.executed)).2
      · exact guarded.current thread called.member agentId sender earlier holds
    · have unlike : op.guard ≠ some (.agentSenders, .exclusive) := by
        intro same
        have conflict := exclusive _ _ _ _ _ _ _ elsewhere old called.found holds
          ((called.law lawful).2.1 _ same)
        exact Mode.noConfusion conflict.2
      rw [exec_registry called.executed unlike]
      exact guarded.current other (List.mem_of_getElem? old) agentId sender did holds

theorem Reached.registryGuarded {config : Config relay} (reached : Reached allowed portRange config) :
    RegistryGuarded config := by
  refine Reachable.induct ?_ ?_ reached
  · exact ⟨fun thread member => by simp at member, fun thread member => by simp at member⟩
  · intro before action after earlier guarded _ step
    have lawful := Reached.lawful earlier
    cases step with
    | start admitted =>
        obtain ⟨sessions, rfl⟩ := accept_same admitted
        refine ⟨fun thread member => ?_, fun thread member agentId sender did holds => ?_⟩
        · rcases List.mem_append.mp member with old | new
          · exact guarded.ordered thread old
          · rw [List.mem_singleton.mp new]
            exact .nil
        · rcases List.mem_append.mp member with old | new
          · exact guarded.current thread old agentId sender did holds
          · rw [List.mem_singleton.mp new] at did
            exact absurd did did_nil
    | call found head executed =>
        exact guarded.call lawful (Reachable.exclusive earlier) ⟨found, executed, _, head, rfl⟩
    | @acquire task running lock mode next found head free =>
        have member := List.mem_of_getElem? found
        have permitted : discipline running.job running.past running.held (.acquire lock mode) := by
          have obeys := lawful running member
          rw [head] at obeys
          exact obeys.1
        refine ⟨fun thread there => ?_, fun thread there agentId sender did holds => ?_⟩
        · rcases List.mem_or_eq_of_mem_set there with old | rfl
          · exact guarded.ordered thread old
          · exact List.pairwise_cons.mpr ⟨permitted.1, guarded.ordered running member⟩
        · rcases List.mem_or_eq_of_mem_set there with old | rfl
          · exact guarded.current thread old agentId sender did holds
          · rcases List.mem_cons.mp holds with same | older
            · cases same
              exact absurd did (permitted.2 rfl agentId sender)
            · exact guarded.current running member agentId sender did older
    | @release task running lock next found head =>
        have member := List.mem_of_getElem? found
        refine ⟨fun thread there => ?_, fun thread there agentId sender did holds => ?_⟩
        · rcases List.mem_or_eq_of_mem_set there with old | rfl
          · exact guarded.ordered thread old
          · exact (guarded.ordered running member).sublist dropGuard_sublist
        · rcases List.mem_or_eq_of_mem_set there with old | rfl
          · exact guarded.current thread old agentId sender did holds
          · exact guarded.current running member agentId sender did (mem_of_mem_dropGuard holds)
    | reboot => exact ⟨fun thread member => by simp at member, fun thread member => by simp at member⟩

/-! ## Every entry was put there by a task -/

structure Recorded (config : Config relay) : Prop where
  claims : ∀ code session, config.state.pendingClaims code = some session →
    ∃ thread ∈ config.threads, Did thread.past (.insertPendingClaim code session) ()
  senders : ∀ agentId session, config.state.agentSenders agentId = some session →
    ∃ thread ∈ config.threads, Did thread.past (.insertAgentSender agentId session) ()
  tasks : ∀ tunnelId handle, config.state.tunnelTasks tunnelId = some handle →
    ∃ thread ∈ config.threads, Did thread.past (.insertTunnelTask tunnelId handle) ()

/-- What a task has done it has done after the step too, and the operation of the step with it. -/
theorem did_called {before after : Config relay} {task : Nat} {thread : Thread relay} {choice : Choice}
    {op other : Op} {result : op.Result} {known : other.Result}
    (called : Called before task thread choice op result after)
    (done : (⟨other, known⟩ : Event relaySignature) = ⟨op, result⟩ ∨
      ∃ earlier ∈ before.threads, Did earlier.past other known) :
    ∃ later ∈ after.threads, Did later.past other known := by
  obtain ⟨self, there, _, _, past⟩ := called.self
  rcases done with now | ⟨earlier, member, did⟩
  · exact ⟨self, List.mem_of_getElem? there, past ▸ did_cons.mpr (.inl now)⟩
  · obtain ⟨index, found⟩ := List.mem_iff_getElem?.mp member
    by_cases here : index = task
    · subst here
      rw [called.found, Option.some.injEq] at found
      exact ⟨self, List.mem_of_getElem? there, past ▸ did_cons.mpr (.inr (found ▸ did))⟩
    · exact ⟨earlier, List.mem_of_getElem? (called.other found here), did⟩

theorem Recorded.quiet {before after : Config relay} (recorded : Recorded before)
    (same : before.SameTasks after) (claims : after.state.pendingClaims = before.state.pendingClaims)
    (senders : after.state.agentSenders = before.state.agentSenders)
    (tasks : after.state.tunnelTasks = before.state.tunnelTasks) : Recorded after := by
  have moved {op : Op} {result : op.Result} (done : ∃ thread ∈ before.threads, Did thread.past op result) :
      ∃ thread ∈ after.threads, Did thread.past op result := by
    obtain ⟨thread, member, did⟩ := done
    obtain ⟨other, listed, _, past⟩ := same.mem member
    exact ⟨other, listed, past ▸ did⟩
  exact ⟨fun code session there => moved (recorded.claims code session (claims ▸ there)),
    fun agentId session there => moved (recorded.senders agentId session (senders ▸ there)),
    fun tunnelId handle there => moved (recorded.tasks tunnelId handle (tasks ▸ there))⟩

theorem Reached.recorded {config : Config relay} (reached : Reached allowed portRange config) :
    Recorded config := by
  refine Reachable.track ?_ ?_ ?_ ?_ reached
  · exact ⟨fun _ _ there => by simp [World.initial] at there,
      fun _ _ there => by simp [World.initial] at there, fun _ _ there => by simp [World.initial] at there⟩
  · intro before after task thread choice op result _ recorded _ called
    refine ⟨fun code session there => ?_, fun agentId session there => ?_, fun tunnelId handle there => ?_⟩
    · rcases pendingClaims_origin called.executed there with old | rfl
      · exact did_called called (.inr (recorded.claims code session old))
      · exact did_called called (.inl rfl)
    · rcases agentSenders_origin called.executed there with old | rfl
      · exact did_called called (.inr (recorded.senders agentId session old))
      · exact did_called called (.inl rfl)
    · rcases tunnelTasks_origin called.executed there with ⟨old, _⟩ | rfl
      · exact did_called called (.inr (recorded.tasks tunnelId handle old))
      · exact did_called called (.inl rfl)
  · rintro before after recorded same (state | ⟨job, admitted⟩)
    · exact recorded.quiet same (by rw [state]) (by rw [state]) (by rw [state])
    · obtain ⟨sessions, state⟩ := accept_same admitted
      exact recorded.quiet same (by rw [state]) (by rw [state]) (by rw [state])
  · exact fun _ => ⟨fun _ _ there => by simp [World.reboot, World.initial] at there,
      fun _ _ there => by simp [World.reboot, World.initial] at there,
      fun _ _ there => by simp [World.reboot, World.initial] at there⟩

end Registry

section Departing

variable [Externals] {portRange : UInt16 × UInt16} {session : SessionId} {locals : Session}

/-- Nothing in the shared maps refers to the session. -/
structure Gone (world : World) (session : SessionId) : Prop where
  claims : ∀ code, world.pendingClaims code ≠ some session
  senders : ∀ agentId, world.agentSenders agentId ≠ some session
  tasks : ∀ tunnelId handle, world.tunnelTasks tunnelId = some handle → handle.sender ≠ session

/-- The listener of the tunnel was started with the channel of the session. -/
def runsFor (world : World) (session : SessionId) (tunnelId : Uuid) : Bool :=
  (world.tunnelTasks tunnelId).any (·.sender == session)

/-- The session is registered only under the agent id and the claim code that its
loop remembers, and has listeners only if it remembers an agent. -/
def remembered (config : Config relay) (session : SessionId) (locals : Session) : Bool :=
  config.threads.all fun thread => thread.past.all fun event =>
    match event.1 with
    | .insertPendingClaim code _ => decide
        (config.state.pendingClaims code = some session → locals.currentClaimCode = some code)
    | .insertAgentSender agentId _ => decide
        (config.state.agentSenders agentId = some session → locals.authenticatedAgentId = some agentId)
    | .insertTunnelTask tunnelId _ =>
        locals.authenticatedAgentId.isSome || !runsFor config.state session tunnelId
    | _ => true

/-- Every listener of the session belongs to a row that the query is going to return. -/
def listsAll (config : Config relay) (choice : Choice) (session : SessionId) (agentId : String) : Bool :=
  config.threads.all fun thread => thread.past.all fun event =>
    match event.1 with
    | .insertTunnelTask tunnelId _ => !runsFor config.state session tunnelId ||
        (choice.refuses 0).isNone && config.state.db.tunnels.any fun row =>
          row.agentId == agentId && parseUuid row.id == some tunnelId
    | _ => true

def takesOut : Event relaySignature → Bool
  | ⟨.removeAgentSender _, _⟩ => true
  | _ => false

/-- The teardown of the session has removed it from the registry. -/
def takenOut (config : Config relay) (session : SessionId) : Bool :=
  config.threads.any fun thread => decide (thread.job = .frame session .hangup) && thread.past.any takesOut

/-- The session reads frames, or its teardown has yet to take out the agent it remembers. -/
def attends (config : Config relay) (session : SessionId) (remembers : Option Uuid → Bool) : Bool :=
  (config.state.sessions session).any fun locals => decide (locals.phase = .reading) ||
    decide (locals.phase = .closing) && remembers locals.authenticatedAgentId && !takenOut config session

/-- A session hangs up only when it remembers all it is registered for, its teardown
finds the row of each of its listeners, and no claim is confirmed for a session
whose teardown is past that. -/
def leavesNothingBehind : Check relay := fun config thread choice op =>
  match op, thread.job with
  | .abortSendTask session, _ => (config.state.sessions session).all (remembered config session)
  | .db (.listTunnelsForAgent agentId), .frame session .hangup => listsAll config choice session agentId
  | .insertAgentSender agentId sender, .claimAgent .. => attends config sender (· == some agentId)
  | .insertTunnelTask _ handle, .claimAgent .. => attends config handle.sender Option.isSome
  | _, _ => true

/-- What the teardown in progress has still to take out. -/
structure Leaving (world : World) (session : SessionId) (locals : Session) (past : Past) : Prop where
  claims : ∀ code, world.pendingClaims code = some session →
    locals.currentClaimCode = some code ∧ ∀ sender, ¬ Did past (.removePendingClaim code) sender
  senders : ∀ agentId, world.agentSenders agentId = some session →
    locals.authenticatedAgentId = some agentId ∧ ∀ sender, ¬ Did past (.removeAgentSender agentId) sender
  known : ∀ tunnelId handle, world.tunnelTasks tunnelId = some handle → handle.sender = session →
    locals.authenticatedAgentId.isSome
  tasks : ∀ tunnelId handle, world.tunnelTasks tunnelId = some handle → handle.sender = session →
    ∀ id rows, Did past (.db (.listTunnelsForAgent id)) rows →
      (∃ row ∈ rowsOrNone rows, parseUuid row.id = some tunnelId) ∧
        ¬ Did past (.removeTunnelTask tunnelId) ()
  listed : ∀ id rows, Did past (.db (.listTunnelsForAgent id)) rows →
    ∃ agentId sender, locals.authenticatedAgentId = some agentId ∧ Did past (.removeAgentSender agentId) sender

structure Departing (config : Config relay) : Prop where
  closing : ∀ session locals, config.state.sessions session = some locals → locals.phase = .closing →
    ∃ thread ∈ config.threads, thread.job = .frame session .hangup ∧
      Leaving config.state session locals thread.past
  returned : ∀ session locals, config.state.sessions session = some locals → locals.phase = .returned →
    Gone config.state session

omit [Externals] in
theorem runsFor_iff {world : World} {tunnelId : Uuid} : runsFor world session tunnelId = true ↔
    ∃ handle, world.tunnelTasks tunnelId = some handle ∧ handle.sender = session := by
  simp [runsFor, Option.any_eq_true]

/-- A test passed by everything the tasks have done. -/
theorem passed_of_done {config : Config relay} {test : Event relaySignature → Bool} {op : Op}
    {result : op.Result} (passed : (config.threads.all fun thread => thread.past.all test) = true)
    (done : ∃ thread ∈ config.threads, Did thread.past op result) : test ⟨op, result⟩ = true := by
  obtain ⟨thread, member, did⟩ := done
  exact List.all_eq_true.mp (List.all_eq_true.mp passed thread member) _ did

theorem Leaving.begin {config : Config relay} {result} (recorded : Recorded config)
    (passed : remembered config session locals = true) :
    Leaving config.state session locals [⟨.abortSendTask session, result⟩] := by
  refine ⟨fun code there => ⟨?_, fun sender did => ?_⟩, fun agentId there => ⟨?_, fun sender did => ?_⟩, ?_, ?_, ?_⟩
  · exact of_decide_eq_true (passed_of_done passed (recorded.claims code session there)) there
  · simp [Did] at did
  · exact of_decide_eq_true (passed_of_done passed (recorded.senders agentId session there)) there
  · simp [Did] at did
  · intro tunnelId handle there sends
    have known := passed_of_done passed (recorded.tasks tunnelId handle there)
    simpa [runsFor_iff.mpr ⟨handle, there, sends⟩] using known
  · intro _ _ _ _ id rows did
    simp [Did] at did
  · intro id rows did
    simp [Did] at did

/-- The teardown has still the same to take out after a step of another task. -/
theorem Leaving.foreign {world after : World} {choice : Choice} {op : Op} {result : op.Result}
    {past : Past} (leaving : Leaving world session locals past)
    (executed : exec world choice op = some (after, result))
    (claims : ∀ code, op ≠ .insertPendingClaim code session)
    (senders : ∀ agentId, op = .insertAgentSender agentId session →
      locals.authenticatedAgentId = some agentId ∧ ∀ sender, ¬ Did past (.removeAgentSender agentId) sender)
    (tasks : ∀ tunnelId handle, op = .insertTunnelTask tunnelId handle → handle.sender = session →
      ∃ agentId, locals.authenticatedAgentId = some agentId ∧
        ∀ sender, ¬ Did past (.removeAgentSender agentId) sender) :
    Leaving after session locals past := by
  refine ⟨fun code there => ?_, fun agentId there => ?_, fun tunnelId handle there sends => ?_,
    fun tunnelId handle there sends id rows did => ?_, leaving.listed⟩
  · rcases pendingClaims_origin executed there with old | now
    · exact leaving.claims code old
    · exact absurd now (claims code)
  · rcases agentSenders_origin executed there with old | now
    · exact leaving.senders agentId old
    · exact senders agentId now
  · rcases tunnelTasks_origin executed there with ⟨old, _⟩ | now
    · exact leaving.known tunnelId handle old sends
    · obtain ⟨agentId, remembers, _⟩ := tasks tunnelId handle now sends
      simp [remembers]
  · rcases tunnelTasks_origin executed there with ⟨old, _⟩ | now
    · exact leaving.tasks tunnelId handle old sends id rows did
    · obtain ⟨agentId, remembers, still⟩ := tasks tunnelId handle now sends
      obtain ⟨other, sender, same, out⟩ := leaving.listed id rows did
      rw [remembers, Option.some.injEq] at same
      exact absurd (same ▸ out) (still sender)

/-- What the teardown itself takes out. -/
theorem Leaving.own {world after : World} {choice : Choice} {op : Op} {result : op.Result}
    {past : Past} (leaving : Leaving world session locals past) (tears : TearsDown session past op)
    (executed : exec world choice op = some (after, result))
    (settled : ∀ agentId code, Did past (.sessionLocals session) (agentId, code) →
      locals.authenticatedAgentId = agentId)
    (lists : ∀ id, op = .db (.listTunnelsForAgent id) → ∀ tunnelId, runsFor world session tunnelId = true →
      choice.refuses 0 = none ∧ ∃ row ∈ world.db.tunnels, row.agentId = id ∧ parseUuid row.id = some tunnelId) :
    Leaving after session locals (⟨op, result⟩ :: past) := by
  have running {tunnelId : Uuid} {handle : JoinHandle} (there : after.tunnelTasks tunnelId = some handle) :
      world.tunnelTasks tunnelId = some handle ∧ op ≠ .removeTunnelTask tunnelId := by
    rcases tunnelTasks_origin executed there with old | rfl
    · exact old
    · exact tears.elim
  refine ⟨fun code there => ?_, fun agentId there => ?_, fun tunnelId handle there sends => ?_,
    fun tunnelId handle there sends id rows did => ?_, fun id rows did => ?_⟩
  · rcases pendingClaims_origin executed there with old | rfl
    · obtain ⟨same, still⟩ := leaving.claims code old
      refine ⟨same, fun sender did => ?_⟩
      rcases did_cons.mp did with now | earlier
      · cases now
        rw [exec_pendingClaims executed] at there
        simp at there
      · exact still sender earlier
    · exact tears.elim
  · rcases agentSenders_origin executed there with old | rfl
    · obtain ⟨same, still⟩ := leaving.senders agentId old
      refine ⟨same, fun sender did => ?_⟩
      rcases did_cons.mp did with now | earlier
      · cases now
        rw [exec_agentSenders executed] at there
        simp at there
      · exact still sender earlier
    · exact tears.elim
  · exact leaving.known tunnelId handle (running there).1 sends
  · obtain ⟨old, other⟩ := running there
    have unstopped (still : ¬ Did past (.removeTunnelTask tunnelId) ()) :
        ¬ Did (⟨op, result⟩ :: past) (.removeTunnelTask tunnelId) () := by
      rw [did_cons, not_or]
      exact ⟨fun same => other (congrArg Sigma.fst same).symm, still⟩
    rcases did_cons.mp did with now | earlier
    · cases now
      obtain ⟨answers, row, member, attached, parsed⟩ :=
        lists id rfl tunnelId (runsFor_iff.mpr ⟨handle, old, sends⟩)
      obtain ⟨_, _, _, _, _, _, first⟩ := tears
      obtain ⟨_, answer, _⟩ := exec_db executed
      have rows' : rows = .ok (Db.oldestFirst (world.db.tunnels.filter (·.agentId == id))) := by
        rw [answer]
        simp [Query.run, Db.listTunnelsForAgent, Choice.statement, answers]
      refine ⟨⟨row, ?_, parsed⟩, unstopped (first tunnelId)⟩
      rw [rows', rowsOrNone, Db.oldestFirst, List.mem_insertionSort]
      exact List.mem_filter.mpr ⟨member, by simpa using attached⟩
    · obtain ⟨row, still⟩ := leaving.tasks tunnelId handle old sends id rows earlier
      exact ⟨row, unstopped still⟩
  · rcases did_cons.mp did with now | earlier
    · cases now
      obtain ⟨agentId, code, sender, read, _, out, _⟩ := tears
      exact ⟨agentId, sender, settled _ _ read, List.mem_cons_of_mem _ out⟩
    · obtain ⟨agentId, sender, same, out⟩ := leaving.listed id rows earlier
      exact ⟨agentId, sender, same, List.mem_cons_of_mem _ out⟩

/-- A teardown that returns has taken everything out. -/
theorem Leaving.gone {world : World} {past : Past} (leaving : Leaving world session locals past)
    (tears : TearsDown session past (.returnSession session))
    (settled : ∀ agentId code, Did past (.sessionLocals session) (agentId, code) →
      locals.authenticatedAgentId = agentId ∧ locals.currentClaimCode = code) : Gone world session := by
  obtain ⟨_, agentId, code, read, claims, agents⟩ := tears
  obtain ⟨rfl, rfl⟩ := settled agentId code read
  refine ⟨fun code there => ?_, fun agentId there => ?_, fun tunnelId handle there sends => ?_⟩
  · obtain ⟨same, still⟩ := leaving.claims code there
    obtain ⟨sender, out⟩ := claims code same
    exact still sender out
  · obtain ⟨same, still⟩ := leaving.senders agentId there
    obtain ⟨rows, did, _⟩ := agents agentId same
    obtain ⟨other, sender, same', out⟩ := leaving.listed _ rows did
    rw [same, Option.some.injEq] at same'
    exact still sender (same' ▸ out)
  · obtain ⟨agentId, same⟩ := Option.isSome_iff_exists.mp (leaving.known tunnelId handle there sends)
    obtain ⟨rows, did, stopped⟩ := agents agentId same
    obtain ⟨⟨row, member, parsed⟩, still⟩ := leaving.tasks tunnelId handle there sends _ rows did
    exact still (stopped row member tunnelId parsed)

theorem not_takenOut {config : Config relay} (still : takenOut config session = false)
    {thread : Thread relay} (member : thread ∈ config.threads) (hangs : thread.job = .frame session .hangup)
    (agentId : Uuid) (sender : Option Channel) : ¬ Did thread.past (.removeAgentSender agentId) sender := by
  intro did
  have none := List.any_eq_false.mp still thread member
  simp only [hangs, decide_true, Bool.true_and, List.any_eq_true, not_exists, not_and] at none
  exact none _ did rfl

section Step

variable {before after : Config relay} {task : Nat} {thread : Thread relay} {choice : Choice} {op : Op}
  {result : op.Result}

theorem reading_of_message (lawful : before.Lawful contract) (attended : Attended before)
    (called : Called before task thread choice op result after) {message : AgentMessage}
    (framed : thread.job = .frame session (.message message))
    (known : before.state.sessions session = some locals) : locals.phase = .reading := by
  obtain ⟨found, same, _, _, reading⟩ :=
    attended.busy thread called.member session (.of_call lawful called framed)
  rw [known, Option.some.injEq] at same
  exact same ▸ reading (by simp [framed])

/-- No code is stored for a session that has hung up. -/
theorem not_stored (lawful : before.Lawful contract) (attended : Attended before)
    (called : Called before task thread choice op result after)
    (known : before.state.sessions session = some locals) (ended : locals.phase ≠ .reading) (code : String) :
    op ≠ .insertPendingClaim code session := by
  rintro rfl
  obtain ⟨token, ⟨_, _, framed, _⟩ | ⟨_, _, framed, _⟩, _⟩ := ((called.law lawful).2.2.general fun _ => id).1
  · exact ended (reading_of_message lawful attended called framed known)
  · exact ended (reading_of_message lawful attended called framed known)

/-- A session that has hung up is registered only for an agent its teardown is still to take out. -/
theorem registered_late (lawful : before.Lawful contract) (attended : Attended before)
    (checked : leavesNothingBehind before thread choice op = true)
    (called : Called before task thread choice op result after)
    (known : before.state.sessions session = some locals) (ended : locals.phase ≠ .reading) {agentId : Uuid}
    (registers : op = .insertAgentSender agentId session) :
    locals.phase = .closing ∧ locals.authenticatedAgentId = some agentId ∧ takenOut before session = false := by
  subst registers
  obtain ⟨agent, _, ⟨_, _, framed, _⟩ | ⟨code, headers, _, claims, _⟩⟩ :=
    ((called.law lawful).2.2.general fun _ => id).1
  · exact absurd (reading_of_message lawful attended called framed known) ended
  · simpa [leavesNothingBehind, claims, attends, known, ended, and_assoc] using checked

theorem listens_late (lawful : before.Lawful contract) (attended : Attended before)
    (guarded : RegistryGuarded before) (truthful : Truthful thread.past)
    (checked : leavesNothingBehind before thread choice op = true)
    (called : Called before task thread choice op result after)
    (known : before.state.sessions session = some locals) (ended : locals.phase ≠ .reading)
    {tunnelId : Uuid} {handle : JoinHandle} (listens : op = .insertTunnelTask tunnelId handle)
    (sends : handle.sender = session) :
    (∃ agentId, before.state.agentSenders agentId = some session) ∨
      locals.phase = .closing ∧ locals.authenticatedAgentId.isSome ∧ takenOut before session = false := by
  subst listens
  obtain ⟨tunnel, sender, _, _, serves, spawned, _⟩ := ((called.law lawful).2.2.general fun _ => id).1
  have same : session = sender := sends ▸ (truthful.handle _ _ _ _ _ _ spawned).2.2
  subst same
  rcases serves with ⟨_, _, ⟨_, _, framed, _⟩ | ⟨code, headers, _, claims, _⟩⟩ | ⟨_, read, holds⟩
  · exact absurd (reading_of_message lawful attended called framed known) ended
  · refine .inr ?_
    simpa [leavesNothingBehind, claims, sends, attends, known, ended, and_assoc] using checked
  · exact .inl ⟨_, guarded.current thread called.member _ _ read holds⟩

/-- The teardown in progress after a step that does not touch the session. -/
theorem Departing.closing_call (departing : Departing before) (lawful : before.Lawful contract)
    (attended : Attended before) (guarded : RegistryGuarded before) (recorded : Recorded before)
    (truthful : Truthful thread.past) (checked : leavesNothingBehind before thread choice op = true)
    (called : Called before task thread choice op result after)
    (known : before.state.sessions session = some locals) (closes : locals.phase = .closing) :
    ∃ other ∈ after.threads, other.job = .frame session .hangup ∧
      Leaving after.state session locals other.past := by
  obtain ⟨other, member, hangs, leaving⟩ := departing.closing session locals known closes
  have ended : locals.phase ≠ .reading := by simp [closes]
  by_cases own : thread.job = .frame session .hangup
  · have same := attended.teardown lawful called own member hangs known (by simp [closes])
    subst same
    obtain ⟨self, there, job, _, past⟩ := called.self
    refine ⟨self, List.mem_of_getElem? there, job.trans own, past ▸ ?_⟩
    refine leaving.own (tearsDown_of_hangup lawful called own) called.executed ?_ ?_
    · intro agentId code did
      obtain ⟨found, same, remembers, _⟩ := attended.settled other member session agentId code own did
      rw [known, Option.some.injEq] at same
      exact same ▸ remembers
    · rintro id rfl tunnelId runs
      obtain ⟨handle, there, _⟩ := runsFor_iff.mp runs
      have all : listsAll before choice session id = true := by simpa [leavesNothingBehind, own] using checked
      have listed := passed_of_done all (recorded.tasks tunnelId handle there)
      simpa [runs] using listed
  · obtain ⟨index, there⟩ := List.mem_iff_getElem?.mp member
    have elsewhere : index ≠ task := by
      rintro rfl
      rw [called.found, Option.some.injEq] at there
      exact own (there ▸ hangs)
    refine ⟨other, List.mem_of_getElem? (called.other there elsewhere), hangs, ?_⟩
    refine leaving.foreign called.executed (not_stored lawful attended called known ended) ?_ ?_
    · intro agentId registers
      obtain ⟨_, remembers, still⟩ :=
        registered_late lawful attended checked called known ended registers
      exact ⟨remembers, not_takenOut still member hangs agentId⟩
    · intro tunnelId handle listens sends
      rcases listens_late lawful attended guarded truthful checked called known ended listens sends with
        ⟨agentId, registered⟩ | ⟨_, remembers, still⟩
      · exact ⟨agentId, leaving.senders agentId registered⟩
      · obtain ⟨agentId, same⟩ := Option.isSome_iff_exists.mp remembers
        exact ⟨agentId, same, not_takenOut still member hangs agentId⟩

/-- Nothing refers to the session after a step either. -/
theorem Departing.returned_call (departing : Departing before) (lawful : before.Lawful contract)
    (attended : Attended before) (guarded : RegistryGuarded before)
    (truthful : Truthful thread.past) (checked : leavesNothingBehind before thread choice op = true)
    (called : Called before task thread choice op result after)
    (known : before.state.sessions session = some locals) (returned : locals.phase = .returned) :
    Gone after.state session := by
  have gone := departing.returned session locals known returned
  have ended : locals.phase ≠ .reading := by simp [returned]
  refine ⟨fun code there => ?_, fun agentId there => ?_, fun tunnelId handle there sends => ?_⟩
  · rcases pendingClaims_origin called.executed there with old | now
    · exact gone.claims code old
    · exact not_stored lawful attended called known ended code now
  · rcases agentSenders_origin called.executed there with old | now
    · exact gone.senders agentId old
    · have late := registered_late lawful attended checked called known ended now
      simp [returned] at late
  · rcases tunnelTasks_origin called.executed there with ⟨old, _⟩ | now
    · exact gone.tasks tunnelId handle old sends
    · rcases listens_late lawful attended guarded truthful checked called known ended now sends with
        ⟨agentId, registered⟩ | ⟨closing, _⟩
      · exact gone.senders agentId registered
      · rw [returned] at closing
        contradiction

theorem Departing.call (departing : Departing before) (lawful : before.Lawful contract)
    (attended : Attended before) (hung : HungUp before) (guarded : RegistryGuarded before)
    (recorded : Recorded before)
    (truthful : Truthful thread.past) (checked : leavesNothingBehind before thread choice op = true)
    (called : Called before task thread choice op result after) : Departing after := by
  constructor
  · intro session later known closes
    obtain ⟨locals, found, ⟨about, rfl⟩ | ⟨_, rfl⟩⟩ := session_before called known
    · rcases ends_of_touch lawful attended called about found (by simp [closes]) with rfl | ⟨rfl, _⟩
      · obtain ⟨hangs, empty⟩ := hangup_of_abort lawful called
        have passed : remembered before session locals = true := by
          simpa [leavesNothingBehind, found] using checked
        obtain ⟨self, there, job, _, past⟩ := called.self
        refine ⟨self, List.mem_of_getElem? there, job.trans hangs, ?_⟩
        rw [past, empty]
        have leaving := @Leaving.begin _ session locals before result recorded passed
        obtain ⟨same, _⟩ := Prod.mk.inj (Option.some.inj called.executed)
        rw [← same]
        exact ⟨leaving.claims, leaving.senders, leaving.known, leaving.tasks, leaving.listed⟩
      · simp [Session.after] at closes
    · exact departing.closing_call lawful attended guarded recorded truthful checked called found closes
  · intro session later known returned
    obtain ⟨locals, found, ⟨about, rfl⟩ | ⟨_, rfl⟩⟩ := session_before called known
    · rcases ends_of_touch lawful attended called about found (by simp [returned]) with rfl | ⟨rfl, hangs⟩
      · simp [Session.after] at returned
      · obtain ⟨_, same, _, going, _⟩ :=
          attended.busy thread called.member session (.of_call lawful called hangs)
        rw [found, Option.some.injEq] at same
        subst same
        have tears := tearsDown_of_hangup lawful called hangs
        have closes : locals.phase = .closing := by
          cases phase : locals.phase with
          | reading =>
              rw [hung.reading session locals found phase thread called.member hangs] at tears
              exact absurd (tearsDown_nil tears) (by simp)
          | closing => rfl
          | returned => exact absurd phase going
        obtain ⟨other, member, hangs', leaving⟩ := departing.closing session locals found closes
        have self := attended.teardown lawful called hangs member hangs' found going
        subst self
        have gone := leaving.gone tears fun agentId code did => by
          obtain ⟨_, same, remembers⟩ := attended.settled other member session agentId code hangs did
          rw [found, Option.some.injEq] at same
          exact same ▸ remembers
        obtain ⟨same, _⟩ := Prod.mk.inj (Option.some.inj called.executed)
        rw [← same]
        exact ⟨gone.claims, gone.senders, gone.tasks⟩
    · exact departing.returned_call lawful attended guarded truthful checked called found returned

theorem Departing.quiet {sessions : SessionId → Option Session} (departing : Departing before)
    (same : before.SameTasks after) (state : after.state = { before.state with sessions })
    (old : ∀ session locals, sessions session = some locals → locals.phase = .reading ∨
      before.state.sessions session = some locals) : Departing after := by
  refine ⟨fun session locals found closes => ?_, fun session locals found returned => ?_⟩
  · rw [state] at found
    rcases old session locals found with reads | earlier
    · rw [closes] at reads
      contradiction
    · obtain ⟨thread, member, hangs, leaving⟩ := departing.closing session locals earlier closes
      obtain ⟨other, there, job, past⟩ := same.mem member
      refine ⟨other, there, job.trans hangs, ?_⟩
      rw [state, past]
      exact ⟨leaving.claims, leaving.senders, leaving.known, leaving.tasks, leaving.listed⟩
  · rw [state] at found ⊢
    rcases old session locals found with reads | earlier
    · rw [returned] at reads
      contradiction
    · have gone := departing.returned session locals earlier returned
      exact ⟨gone.claims, gone.senders, gone.tasks⟩

end Step

theorem Reached.departing {config : Config relay}
    (reached : Reached leavesNothingBehind.condition portRange config) : Departing config := by
  refine Reachable.induct ?_ ?_ reached
  · exact ⟨fun _ _ found => by simp [World.initial] at found, fun _ _ found => by simp [World.initial] at found⟩
  · intro before action after earlier departing permitted step
    have lawful := Reached.lawful earlier
    have attended := Reached.attended earlier
    cases step with
    | start admitted =>
        obtain ⟨sessions, rfl⟩ := accept_same admitted
        exact departing.quiet .start rfl fun _ _ found =>
          (session_admitted admitted found).imp_left And.left
    | call found head executed =>
        exact departing.call lawful attended (Reached.hungUp earlier) (Reached.registryGuarded earlier)
          (Reached.recorded earlier) (Reached.truthful earlier _ (List.mem_of_getElem? found))
          (permitted _ _ _ found head) ⟨found, executed, _, head, rfl⟩
    | acquire found head free =>
        exact departing.quiet (.replace found) rfl fun _ _ same => .inr same
    | release found head =>
        exact departing.quiet (.replace found) rfl fun _ _ same => .inr same
    | reboot =>
        exact ⟨fun _ _ found => by simp [World.reboot, World.initial] at found,
          fun _ _ found => by simp [World.reboot, World.initial] at found⟩

/-- In every run in which sessions remember what they are registered for, nothing
of a session is left once `handle_socket` has returned. -/
theorem nothing_left_behind {config : Config relay}
    (reached : Reached leavesNothingBehind.condition portRange config)
    (known : config.state.sessions session = some locals) (returned : locals.phase = .returned) :
    (∀ agentId, config.state.agentSenders agentId ≠ some session) ∧
      (∀ code, config.state.pendingClaims code ≠ some session) ∧
      ∀ tunnelId handle, config.state.tunnelTasks tunnelId = some handle → handle.sender ≠ session := by
  have gone := reached.departing.returned session locals known returned
  exact ⟨gone.senders, gone.claims, gone.tasks⟩

end Departing

/-- Alice's laptop serves a tunnel, then it hangs up. -/
theorem nothing_left_behind_laptop :
    ∃ config : Config relay,
      ((config.state.sessions 0).any fun locals => decide (locals.phase = .returned)) = true ∧
      (∀ agentId, config.state.agentSenders agentId ≠ some 0) ∧
      (∀ code, config.state.pendingClaims code ≠ some 0) ∧
      ∀ tunnelId handle, config.state.tunnelTasks tunnelId = some handle → handle.sender ≠ 0 := by
  have passed : (relay.follow leavesNothingBehind 200 (inOrder
      [(.register { username := "alice", password := "secret" }, answer 1 0),
        (.generateAgentToken (signedIn 1), answer 2 0),
        (.connect 0, answer 0 0),
        (.frame 0 (.message (.auth (Db.agentToken (answer 2 0)) "laptop")), answer 0 0),
        (.createTunnel (signedIn 1) (webTunnel 4), answer 3 0),
        (.frame 0 .hangup, answer 0 0)]) ⟨newRelay, []⟩).any
        (fun config => (config.state.sessions 0).any fun locals => decide (locals.phase = .returned)) =
          true := by decide +kernel
  obtain ⟨config, reached, tested⟩ := newRelay_follow passed
  obtain ⟨locals, known, returned⟩ := (Option.any_eq_true _ _).mp tested
  exact ⟨config, tested, nothing_left_behind reached known (of_decide_eq_true returned)⟩

/-- A session that became active by a user's claim hangs up; its teardown does
not know the agent. -/
theorem left_behind :
    ¬ ∀ config : Config relay, Reached anyStep (10000, 60000) config → Idle config →
      ∀ session locals, config.state.sessions session = some locals → locals.phase = .returned →
        (∀ agentId, config.state.agentSenders agentId ≠ some session) ∧
        (∀ code, config.state.pendingClaims code ≠ some session) ∧
        ∀ tunnelId handle, config.state.tunnelTasks tunnelId = some handle → handle.sender ≠ session := by
  have passed : (relay.performAll
      [(.register { username := "alice", password := "secret" }, answer 1 0),
        (.connect 0, answer 0 0),
        (.frame 0 (.message (.requestClaim "laptop")), answer 2 7),
        (.claimAgent "000007" (signedIn 1), answer 3 0),
        (.frame 0 .hangup, answer 0 0)] newRelay).any
        (fun world : World => (world.sessions 0).any (fun locals => decide (locals.phase = .returned)) &&
          decide (world.agentSenders 4 = some 0)) = true := by
    decide +kernel
  obtain ⟨config, reached, quiet, tested⟩ := newRelay_check passed
  simp only [Bool.and_eq_true, decide_eq_true_eq] at tested
  obtain ⟨locals, known, returned⟩ := (Option.any_eq_true _ _).mp tested.1
  intro always
  exact (always config reached (fun thread there _ => (quiet thread there).2) 0 locals known
    (of_decide_eq_true returned)).1 4 tested.2

end TunnelitRelay
