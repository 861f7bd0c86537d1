import TunnelitRelay.Data.Succession
import TunnelitRelay.Ownership

namespace TunnelitRelay

open Concurrent Data

/-! # What lasts of a row

Over a run of any length, restarts included, the tables only ever lose rows and
get new ones at the end, and most of a row is written once and for all.
-/

/-- An account without the mark of a ban. -/
def UserRow.lasting (row : UserRow) : UserRow := { row with isBanned := false }

/-- The id, the token and the time of an agent's creation. -/
def AgentRecord.lasting (row : AgentRecord) : String × String × Int := (row.id, row.token, row.createdAt)

/-- A tunnel without what an edit or a toggle may change. -/
def TunnelRecord.lasting (row : TunnelRecord) : TunnelRecord :=
  { row with name := "", localPort := 0, protocol := "", subdomain := none, enabled := false }

section Runs

variable [Externals] {allowed : Condition relay} {portRange : UInt16 × UInt16}

/-- The text names an identifier that had not been drawn by then. -/
def Undrawn (drawn : List Uuid) (id : String) : Prop :=
  ∃ uuid, uuid ∉ drawn ∧ id = uuidToString uuid

/-- The later tables continue the earlier ones. -/
structure RowsContinue (before : Database) (drawn : List Uuid) (after : Database) : Prop where
  users : before.users.map UserRow.lasting <+: after.users.map UserRow.lasting
  agents : Succeeds AgentRecord.lasting (fun row => Undrawn drawn row.1) before.agents after.agents
  tunnels : Succeeds TunnelRecord.lasting (fun row => Undrawn drawn row.id) before.tunnels after.tunnels

theorem RowsContinue.refl (db : Database) (drawn : List Uuid) : RowsContinue db drawn db :=
  ⟨List.prefix_refl _, .refl _, .refl _⟩

theorem RowsContinue.trans {before middle after : Database} {drawn later : List Uuid}
    (first : RowsContinue before drawn middle) (second : RowsContinue middle later after) (grows : drawn ⊆ later) :
    RowsContinue before drawn after := by
  have older {id : String} (undrawn : Undrawn later id) : Undrawn drawn id := by
    obtain ⟨uuid, absent, named⟩ := undrawn
    exact ⟨uuid, fun there => absent (grows there), named⟩
  exact ⟨first.users.trans second.users, first.agents.trans (second.agents.mono fun _ => older),
    first.tunnels.trans (second.tunnels.mono fun _ => older)⟩

theorem continues_change {choice : Choice} {query : Query} {db after : Database} {drawn : List Uuid}
    (fresh : ∀ id ∈ query.draws choice, id ∉ drawn) (change : Change choice db query after) :
    RowsContinue db drawn after := by
  have kept := RowsContinue.refl db drawn
  cases change with
  | kept => exact kept
  | registered named =>
      exact { kept with users := by simp }
  | @banned id isBanned =>
      have same (user : UserRow) :
          (if user.id == id then { user with isBanned } else user).lasting = user.lasting := by
        split <;> rfl
      refine { kept with users := ?_ }
      simp only [List.map_map, Function.comp_def, same]
      exact List.prefix_refl _
  | requested named =>
      exact { kept with agents := .append ⟨choice.id, fresh _ (by simp [Query.draws]), named⟩ }
  | issued named =>
      exact { kept with agents := .append ⟨choice.id, fresh _ (by simp [Query.draws]), named⟩ }
  | claimed | touched =>
      exact { kept with agents := .map fun agent => by split <;> rfl }
  | detached => exact { kept with tunnels := .filter }
  | deleted => exact { kept with agents := .filter, tunnels := .filter }
  | opened named =>
      exact { kept with tunnels := .append ⟨choice.id, fresh _ (by simp [Query.draws]), named⟩ }
  | switched | edited =>
      exact { kept with tunnels := .map fun tunnel => by split <;> rfl }
  | closed => exact { kept with tunnels := .filter }

theorem continues_step {before after : Config relay} {action : Action relay} (step : Step before action after) :
    RowsContinue before.state.db before.state.drawn after.state.db ∧ before.state.drawn ⊆ after.state.drawn := by
  cases step with
  | start admitted =>
      obtain ⟨sessions, rfl⟩ := accept_same admitted
      exact ⟨.refl _ _, List.Subset.refl _⟩
  | call _ _ executed =>
      refine ⟨?_, exec_drawn executed⟩
      rcases exec_change executed with ⟨query, _, change, _, fresh⟩ | ⟨same, _⟩
      · exact continues_change fresh change
      · exact same ▸ .refl _ _
  | acquire | release | reboot => exact ⟨.refl _ _, List.Subset.refl _⟩

theorem continues_steps {first last : Config relay} (steps : Steps allowed first last) :
    RowsContinue first.state.db first.state.drawn last.state.db ∧ first.state.drawn ⊆ last.state.drawn := by
  induction steps with
  | refl => exact ⟨.refl _ _, List.Subset.refl _⟩
  | tail _ step ih =>
      obtain ⟨_, _, step⟩ := step
      obtain ⟨more, grows⟩ := continues_step step
      exact ⟨ih.1.trans more ih.2, List.Subset.trans ih.2 grows⟩

/-- A name that had been drawn belongs to a later row only if it belonged to an earlier one. -/
theorem RowsContinue.agent {before after : Database} {drawn : List Uuid} (continues : RowsContinue before drawn after)
    {row : AgentRecord} (member : row ∈ after.agents) (known : ¬ Undrawn drawn row.id) :
    ∃ old ∈ before.agents, old.lasting = row.lasting :=
  (continues.agents.origin member).resolve_right known

theorem RowsContinue.tunnel {before after : Database} {drawn : List Uuid} (continues : RowsContinue before drawn after)
    {row : TunnelRecord} (member : row ∈ after.tunnels) (known : ¬ Undrawn drawn row.id) :
    ∃ old ∈ before.tunnels, old.lasting = row.lasting :=
  (continues.tunnels.origin member).resolve_right known

theorem not_undrawn {drawn : List Uuid} {id : String} (named : ∃ uuid ∈ drawn, id = uuidToString uuid) :
    ¬ Undrawn drawn id := by
  rintro ⟨other, absent, same⟩
  obtain ⟨uuid, known, rfl⟩ := named
  exact absent (uuidToString_inj.mp same ▸ known)

/-- What one moment of a run tells about the rows at every later one. -/
structure RowsLast (first last : Config relay) : Prop where
  /-- No account is lost or put in another place, or changed but for its ban. -/
  users : first.state.db.users.map UserRow.lasting <+: last.state.db.users.map UserRow.lasting
  /-- The agents left are in their old order, before all that are new. -/
  agents : Succeeds AgentRecord.lasting (fun row => Undrawn first.state.drawn row.1)
    first.state.db.agents last.state.db.agents
  tunnels : Succeeds TunnelRecord.lasting (fun row => Undrawn first.state.drawn row.id)
    first.state.db.tunnels last.state.db.tunnels
  /-- The row of an id is the one that had the id, with the same token. -/
  sameAgent : ∀ row ∈ first.state.db.agents, ∀ later ∈ last.state.db.agents, later.id = row.id →
    later.lasting = row.lasting
  /-- A tunnel stays with its agent, its owner and its port. -/
  sameTunnel : ∀ row ∈ first.state.db.tunnels, ∀ later ∈ last.state.db.tunnels, later.id = row.id →
    later.lasting = row.lasting
  /-- An identifier that has been drawn and names no row any more will never name one again. -/
  retiredAgents : ∀ uuid ∈ first.state.drawn, (∀ row ∈ first.state.db.agents, row.id ≠ uuidToString uuid) →
    ∀ later ∈ last.state.db.agents, later.id ≠ uuidToString uuid
  retiredTunnels : ∀ uuid ∈ first.state.drawn, (∀ row ∈ first.state.db.tunnels, row.id ≠ uuidToString uuid) →
    ∀ later ∈ last.state.db.tunnels, later.id ≠ uuidToString uuid

theorem rows_last {first last : Config relay} (reached : Reached anyStep portRange first)
    (steps : Steps anyStep first last) : RowsLast first last := by
  have consistent := reached.consistent
  obtain ⟨continues, _⟩ := continues_steps steps
  refine ⟨continues.users, continues.agents, continues.tunnels, ?_, ?_, ?_, ?_⟩
  · intro row member later there same
    obtain ⟨old, listed, alike⟩ := continues.agent there
      (not_undrawn (same ▸ consistent.agentDrawn row member))
    have named : old.id = row.id := (congrArg (·.1) alike).trans same
    rw [← alike, List.inj_on_of_nodup_map consistent.agentIds listed member named]
  · intro row member later there same
    obtain ⟨old, listed, alike⟩ := continues.tunnel there
      (not_undrawn (same ▸ consistent.tunnelDrawn row member))
    have named : old.id = row.id := (congrArg TunnelRecord.id alike).trans same
    rw [← alike, List.inj_on_of_nodup_map consistent.tunnelIds listed member named]
  · intro uuid known gone later there same
    obtain ⟨old, listed, alike⟩ := continues.agent there (not_undrawn ⟨uuid, known, same⟩)
    exact gone old listed ((congrArg (·.1) alike).trans same)
  · intro uuid known gone later there same
    obtain ⟨old, listed, alike⟩ := continues.tunnel there (not_undrawn ⟨uuid, known, same⟩)
    exact gone old listed ((congrArg TunnelRecord.id alike).trans same)

end Runs

/-- Alice's tunnel before and after it has been switched off. -/
theorem rows_last_toggled : ∃ first last : Config relay,
    (∃ row ∈ first.state.db.tunnels, ∃ later ∈ last.state.db.tunnels, later.id = row.id ∧ later ≠ row) ∧
      RowsLast first last := by
  have passed : (relay.follow (fun _ _ _ _ => true) 200
      (inOrder [(.register { username := "alice", password := "secret" }, answer 1 0),
        (.generateAgentToken (signedIn 1), answer 2 0),
        (.createTunnel (signedIn 1) (webTunnel (BitVec.ofNat 128 4)), answer 3 0)]) ⟨newRelay, []⟩).any
      (fun first : Config relay => (relay.follow (fun _ _ _ _ => true) 200
        [.start (.toggleTunnel (uuidToString 6)), .finish 3 (answer 4 0)] first).any fun last : Config relay =>
          first.state.db.tunnels.any fun row => last.state.db.tunnels.any fun later =>
            decide (later.id = row.id ∧ later ≠ row)) = true := by decide +kernel
  obtain ⟨first, last, reached, steps, tested⟩ := newRelay_runs passed
  obtain ⟨row, member, tested⟩ := List.any_eq_true.mp tested
  obtain ⟨later, there, different⟩ := List.any_eq_true.mp tested
  exact ⟨first, last, ⟨row, member, later, there, of_decide_eq_true different⟩, rows_last reached steps⟩

end TunnelitRelay
