import TunnelitRelay.Ownership
import TunnelitRelay.Results

namespace TunnelitRelay

open Concurrent

/-! # Every listener belongs to an enabled tunnel

A request that disables a tunnel stops its listener afterwards; until then the
listener runs on although its row says otherwise.
-/

section Runs

variable [Externals] {portRange : UInt16 × UInt16}

/-- The row of a tunnel exists and is enabled. -/
def backed (db : Database) (tunnelId : Uuid) : Bool :=
  db.tunnels.any fun row => row.id == uuidToString tunnelId && row.enabled

def readsTunnel (id : String) (tunnelId : Uuid) : Event relaySignature → Bool
  | ⟨.db (.getTunnelById id'), .ok (some row)⟩ => id' == id && parseUuid row.id == some tunnelId
  | _ => false

def switchesOff (id : String) : Event relaySignature → Bool
  | ⟨.db (.setTunnelEnabled id' false), _⟩ => id' == id
  | _ => false

def stops (tunnelId : Uuid) : Event relaySignature → Bool
  | ⟨.removeTunnelTask tunnelId', _⟩ => tunnelId' == tunnelId
  | _ => false

/-- `OwesStop`, as a test. -/
def owesStop (job : Job) (past : Past) (tunnelId : Uuid) : Bool :=
  match job with
  | .toggleTunnel id =>
      past.any (readsTunnel id tunnelId) && past.any (switchesOff id) && !past.any (stops tunnelId)
  | _ => false

/-- Some request has yet to stop the listener of a tunnel it has disabled. -/
def owed (config : Config relay) (tunnelId : Uuid) : Bool :=
  config.threads.any fun thread => owesStop thread.job thread.past tunnelId

/-- No enabled row of the selected ones has a listener that nobody is about to stop. -/
def stopped (config : Config relay) (selects : TunnelRecord → Bool) : Bool :=
  config.state.db.tunnels.all fun row => !selects row || !row.enabled ||
    (parseUuid row.id).all fun tunnelId =>
      (config.state.tunnelTasks tunnelId).isNone || owed config tunnelId

/-- Rows are deleted only when their listeners have been stopped, and a listener
is entered only while its row is still there and enabled. -/
def leavesNoGhost : Check relay := fun config _ _ op =>
  match op with
  | .db (.deleteAgent id) => stopped config (·.agentId == id)
  | .db (.deleteTunnel id) => stopped config (·.id == id)
  | .insertTunnelTask tunnelId _ => backed config.state.db tunnelId || owed config tunnelId
  | _ => true

theorem owesStop_iff {job : Job} {past : Past} {tunnelId : Uuid} :
    owesStop job past tunnelId = true ↔ OwesStop job past tunnelId := by
  unfold owesStop
  split
  · rename_i id
    simp only [Bool.and_eq_true, Bool.not_eq_true', List.any_eq_true, List.any_eq_false]
    constructor
    · rintro ⟨⟨⟨read, readMember, reads⟩, off, offMember, switches⟩, unstopped⟩
      unfold readsTunnel at reads
      unfold switchesOff at switches
      split at reads
      · split at switches
        · simp only [Bool.and_eq_true, beq_iff_eq] at reads switches
          obtain ⟨rfl, parsed⟩ := reads
          subst switches
          refine ⟨_, _, _, rfl, readMember, parsed, offMember, fun did => unstopped _ did ?_⟩
          simp [stops]
        · contradiction
      · contradiction
    · rintro ⟨_, row, result, ⟨⟩, read, parsed, off, unstopped⟩
      refine ⟨⟨⟨_, read, by simp [readsTunnel, parsed]⟩, _, off, by simp [switchesOff]⟩, ?_⟩
      intro event member stopping
      unfold stops at stopping
      split at stopping
      · simp only [beq_iff_eq] at stopping
        subst stopping
        exact unstopped member
      · contradiction
  · rename_i other
    simp only [Bool.false_eq_true, false_iff]
    rintro ⟨id, _, _, rfl, _⟩
    exact other id rfl

theorem owed_iff {config : Config relay} {tunnelId : Uuid} :
    owed config tunnelId = true ↔ ∃ thread ∈ config.threads, OwesStop thread.job thread.past tunnelId := by
  simp [owed, owesStop_iff]

theorem backed_iff {db : Database} {tunnelId : Uuid} :
    backed db tunnelId = true ↔
      ∃ row ∈ db.tunnels, row.id = uuidToString tunnelId ∧ row.enabled = true := by
  simp [backed]

/-- How a tunnel can lose its enabled row. -/
theorem backed_change {choice : Choice} {db after : Database} {query : Query} {tunnelId : Uuid}
    (change : Change choice db query after) {row : TunnelRecord} (member : row ∈ db.tunnels)
    (named : row.id = uuidToString tunnelId) (enabled : row.enabled = true) :
    backed after tunnelId = true ∨ query = .setTunnelEnabled row.id false ∨
      query = .deleteAgent row.agentId ∨ query = .deleteTunnel row.id := by
  cases change with
  | kept | registered | banned | requested | issued | claimed | touched =>
      exact .inl (backed_iff.mpr ⟨row, member, named, enabled⟩)
  | opened =>
      exact .inl (backed_iff.mpr ⟨row, List.mem_append_left _ member, named, enabled⟩)
  | @detached id | @deleted id =>
      by_cases hit : row.agentId = id
      · exact .inr (.inr (.inl (hit ▸ rfl)))
      · exact .inl (backed_iff.mpr ⟨row, List.mem_filter.mpr ⟨member, by simpa using hit⟩, named, enabled⟩)
  | @closed id =>
      by_cases hit : row.id = id
      · exact .inr (.inr (.inr (hit ▸ rfl)))
      · exact .inl (backed_iff.mpr ⟨row, List.mem_filter.mpr ⟨member, by simpa using hit⟩, named, enabled⟩)
  | @switched id switchedOn =>
      by_cases hit : row.id = id
      · cases switchedOn with
        | false => exact .inr (.inl (hit ▸ rfl))
        | true =>
            refine .inl (backed_iff.mpr ⟨{ row with enabled := true }, ?_, named, rfl⟩)
            exact List.mem_map.mpr ⟨row, member, by simp [hit]⟩
      · refine .inl (backed_iff.mpr ⟨row, ?_, named, enabled⟩)
        exact List.mem_map.mpr ⟨row, member, by simp [hit]⟩
  | edited =>
      refine .inl (backed_iff.mpr ⟨_, List.mem_map.mpr ⟨row, member, rfl⟩, ?_⟩)
      split <;> exact ⟨named, enabled⟩

def NoGhosts (config : Config relay) : Prop :=
  ∀ tunnelId handle, config.state.tunnelTasks tunnelId = some handle →
    backed config.state.db tunnelId = true ∨ owed config tunnelId = true

theorem OwesStop.later {job : Job} {past : Past} {tunnelId : Uuid} {op : Op} {result : op.Result}
    (owes : OwesStop job past tunnelId) (other : op ≠ .removeTunnelTask tunnelId) :
    OwesStop job (⟨op, result⟩ :: past) tunnelId := by
  obtain ⟨id, row, switched, toggles, read, parsed, off, unstopped⟩ := owes
  refine ⟨id, row, switched, toggles, List.mem_cons_of_mem _ read, parsed,
    List.mem_cons_of_mem _ off, ?_⟩
  rw [did_cons, not_or]
  exact ⟨fun same => other (congrArg Sigma.fst same).symm, unstopped⟩

/-- A debt stays owed while the listener is not stopped. -/
theorem owed_call {before after : Config relay} {task : Nat} {thread : Thread relay} {choice : Choice}
    {op : Op} {result : op.Result} {tunnelId : Uuid}
    (called : Called before task thread choice op result after) (other : op ≠ .removeTunnelTask tunnelId)
    (owes : owed before tunnelId = true) : owed after tunnelId = true := by
  obtain ⟨debtor, member, debt⟩ := owed_iff.mp owes
  obtain ⟨index, there⟩ := List.mem_iff_getElem?.mp member
  rw [owed_iff]
  by_cases same : index = task
  · subst same
    rw [called.found, Option.some.injEq] at there
    subst there
    obtain ⟨self, found, job, _, past⟩ := called.self
    exact ⟨self, List.mem_of_getElem? found, by rw [job, past]; exact debt.later other⟩
  · exact ⟨debtor, List.mem_of_getElem? (called.other there same), debt⟩

/-- Rows deleted by a permitted call have no listener, or one that is to be stopped. -/
theorem stopped_listener {config : Config relay} {selects : TunnelRecord → Bool} {row : TunnelRecord}
    {tunnelId : Uuid} {handle : JoinHandle} (quiet : stopped config selects = true)
    (member : row ∈ config.state.db.tunnels) (selected : selects row = true)
    (named : row.id = uuidToString tunnelId) (enabled : row.enabled = true)
    (running : config.state.tunnelTasks tunnelId = some handle) : owed config tunnelId = true := by
  have conditions := List.all_eq_true.mp quiet row member
  simpa [selected, enabled, named, running] using conditions

theorem NoGhosts.call {before after : Config relay} {task : Nat} {thread : Thread relay} {op : Op}
    {choice : Choice} {result : op.Result} (lawful : before.Lawful contract)
    (ghostless : NoGhosts before) (truthful : Truthful thread.past)
    (permitted : leavesNoGhost before thread choice op = true)
    (called : Called before task thread choice op result after) : NoGhosts after := by
  intro tunnelId handle there
  have still := @owed_call _ before after task thread choice op result tunnelId called
  rcases tunnelTasks_origin called.executed there with ⟨running, other⟩ | rfl
  · rcases ghostless tunnelId handle running with backs | owes
    · obtain ⟨row, member, named, enabled⟩ := backed_iff.mp backs
      rcases exec_change called.executed with ⟨query, rfl, change, _⟩ | ⟨same, _⟩
      · rcases backed_change change member named enabled with kept | rfl | rfl | rfl
        · exact .inl kept
        · -- The request that switches the row off owes the stop from now on.
          have justified := ((called.law lawful).2.2.general fun _ => id).1
          obtain ⟨tunnel, stoppedId, toggles, read, _, parsed, unstopped⟩ := justified
          have same : stoppedId = tunnelId := by
            rw [truthful.tunnel _ _ read, named, parseUuid_uuidToString] at parsed
            exact (Option.some.inj parsed).symm
          subst same
          obtain ⟨self, found, job, _, past⟩ := called.self
          refine .inr (owed_iff.mpr ⟨self, List.mem_of_getElem? found, ?_⟩)
          rw [job, past]
          exact ⟨row.id, tunnel, result, toggles, List.mem_cons_of_mem _ read, parsed,
            List.mem_cons_self, by simpa [Did] using unstopped stoppedId⟩
        · exact .inr (still other (stopped_listener permitted member (by simp) named enabled running))
        · exact .inr (still other (stopped_listener permitted member (by simp) named enabled running))
      · exact .inl (same ▸ backs)
    · exact .inr (still other owes)
  · simp only [leavesNoGhost, Bool.or_eq_true] at permitted
    rcases permitted with backs | owes
    · have executed : exec before.state choice (.insertTunnelTask tunnelId handle) =
          some (after.state, result) := called.executed
      rcases exec_change executed with ⟨query, impossible, _⟩ | ⟨same, _⟩
      · cases impossible
      · exact .inl (same ▸ backs)
    · exact .inr (still (by simp) owes)

theorem NoGhosts.quiet {before after : Config relay} (ghostless : NoGhosts before)
    (same : before.SameTasks after) (tunnels : after.state.db = before.state.db)
    (listeners : after.state.tunnelTasks = before.state.tunnelTasks) : NoGhosts after := by
  intro tunnelId handle there
  rw [listeners] at there
  rcases ghostless tunnelId handle there with backs | owes
  · exact .inl (tunnels ▸ backs)
  · obtain ⟨thread, member, debt⟩ := owed_iff.mp owes
    obtain ⟨other, listed, job, past⟩ := same.mem member
    exact .inr (owed_iff.mpr ⟨other, listed, by rwa [job, past]⟩)

theorem OwesStop.toggles {job : Job} {past : Past} {tunnelId : Uuid}
    (owes : OwesStop job past tunnelId) : ∃ id, job = .toggleTunnel id := by
  obtain ⟨id, _, _, toggles, _⟩ := owes
  exact ⟨id, toggles⟩

/-- Every HTTP request and every teardown of a session has returned. -/
def Idle (config : Config relay) : Prop :=
  ∀ thread ∈ config.threads,
    (thread.job.isHttp = true ∨ ∃ session, thread.job = .frame session .hangup) → thread.finished

end Runs

end TunnelitRelay
