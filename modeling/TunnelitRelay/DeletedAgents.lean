import TunnelitRelay.OnlineFlags

namespace TunnelitRelay

open Concurrent Program

/-! # The two halves of a deletion

`delete_agent` takes the agent out of the registry under the identifier it has
parsed, and deletes the rows under the text it was given.
-/

section Deletions

variable [Externals] {portRange : UInt16 × UInt16} {config : Config relay}

/-- The agent has no row, and no tunnels. -/
structure Erased (agentId : Uuid) (db : Database) : Prop where
  agents : ∀ row ∈ db.agents, row.id ≠ uuidToString agentId
  tunnels : ∀ row ∈ db.tunnels, row.agentId ≠ uuidToString agentId

/-- Rows are left only where there were some, and the text is not the agent's
identifier as it is stored or a statement is refused. -/
theorem erased_iff {world after : World} {choice : Choice} {id : String} {agentId : Uuid} {result}
    (consistent : Consistent world.db world.drawn)
    (executed : exec world choice (.db (.deleteAgent id)) = some (after, result)) :
    Erased agentId after.db ↔ ((∃ row ∈ world.db.agents, row.id = uuidToString agentId) →
      id = uuidToString agentId ∧ choice.refuses 0 = none ∧ choice.refuses 1 = none) := by
  obtain ⟨written, _, _⟩ := exec_db executed
  have db : after.db = (Db.deleteAgent choice world.db id).1 := by rw [written]; rfl
  rw [db]
  unfold Db.deleteAgent Choice.statement Database.write
  constructor
  · rintro erased ⟨row, member, named⟩
    cases first : choice.refuses 0 with
    | some failure =>
        rw [first] at erased
        exact absurd named (erased.agents row member)
    | none =>
        cases second : choice.refuses 1 with
        | some failure =>
            rw [first, second] at erased
            exact absurd named (erased.agents row member)
        | none =>
            rw [first, second] at erased
            refine ⟨?_, rfl, rfl⟩
            by_contra other
            refine erased.agents row (List.mem_filter.mpr ⟨member, ?_⟩) named
            simpa [named] using Ne.symm other
  · intro alike
    by_cases there : ∃ row ∈ world.db.agents, row.id = uuidToString agentId
    · obtain ⟨rfl, first, second⟩ := alike there
      rw [first, second]
      refine ⟨fun row member => ?_, fun row member => ?_⟩
      · simpa using (List.mem_filter.mp member).2
      · simpa using (List.mem_filter.mp member).2
    · have none : Erased agentId world.db := by
        refine ⟨fun row member named => there ⟨row, member, named⟩, fun row member tied => ?_⟩
        obtain ⟨agent, listed, same⟩ := consistent.attached row member
        exact there ⟨agent, listed, same.trans tied⟩
      cases choice.refuses 0 with
      | some failure => exact none
      | none =>
          have fewer {row : TunnelRecord} (member : row ∈ world.db.tunnels.filter (·.agentId != id)) :
              row.agentId ≠ uuidToString agentId := none.tunnels row (List.mem_filter.mp member).1
          cases choice.refuses 1 with
          | some failure => exact ⟨none.agents, fun row member => fewer member⟩
          | none => exact ⟨fun row member => none.agents row (List.mem_filter.mp member).1,
              fun row member => fewer member⟩

/-! ## The request -/

/-- A request to delete an agent does not answer before it has tried to. -/
def deletionContract : Contract relay where
  law := fun _ _ _ _ => True
  answer := fun job past _ _ => ∀ id, job = .deleteAgent id → ∃ result, Did past (.db (.deleteAgent id)) result

theorem deletion_lawful : relay.Lawful deletionContract := by
  intro job
  change (serve job).Obeys (fun _ _ _ => True) _ [] []
  cases job with
  | deleteAgent id =>
      have deletes {past : Past} {held : Held} : ((query (.deleteAgent id)).bind fun _ =>
          (.done (.status .ok) : Relay Reply)).Obeys (fun _ _ _ => True)
          (fun past _ _ => ∀ other, Job.deleteAgent id = .deleteAgent other →
            ∃ result, Did past (.db (.deleteAgent other)) result) past held := by
        refine obeys_bind.mpr (obeys_guarded.mpr ⟨trivial, trivial, fun result => ⟨trivial, fun other same => ?_⟩⟩)
        cases same
        exact ⟨result, List.mem_cons_self⟩
      exact obeys_bind.mpr (obeys_free (fun _ _ _ => trivial) fun past held _ => deletes)
  | _ => exact obeys_free (fun _ _ _ => trivial) fun past held reply id same => by contradiction

/-- Of an agent whose channel the request has taken out nothing is left in the database. -/
def TreatsAlike (past : Past) (db : Database) : Prop :=
  ∀ agentId sender, Did past (.removeAgentSender agentId) (some sender) → Erased agentId db

end Deletions

/-- The task has taken out the agent, and no other. -/
def tookOut (agentId : Uuid) (past : Past) : Bool :=
  (past.any fun event => match event with
    | ⟨.removeAgentSender removed, sender⟩ => removed == agentId && Option.isSome sender
    | _ => false) &&
  past.all fun event => match event.1 with
    | .removeAgentSender removed => removed == agentId
    | _ => true

theorem took_tookOut {agentId : Uuid} {past : Past} (took : tookOut agentId past = true) :
    (∃ sender, Did past (.removeAgentSender agentId) (some sender)) ∧
      ∀ other sender, Did past (.removeAgentSender other) sender → other = agentId := by
  simp only [tookOut, Bool.and_eq_true, List.any_eq_true, List.all_eq_true] at took
  obtain ⟨⟨event, member, took⟩, only⟩ := took
  refine ⟨?_, fun other sender did => ?_⟩
  · split at took
    · rename_i removed sender
      simp only [Bool.and_eq_true, beq_iff_eq] at took
      obtain ⟨rfl, there⟩ := took
      obtain ⟨channel, rfl⟩ := Option.isSome_iff_exists.mp there
      exact ⟨channel, member⟩
    · contradiction
  · simpa using only _ did

/-- A task is about to delete an agent's rows, after it has taken out the agent. -/
theorem deletes_next {turns : List (Turn relay)} {task : Nat} {choice : Choice} {id : String}
    (passed : (relay.follow (fun _ _ _ _ => true) 200 turns ⟨newRelay, []⟩).any (fun before =>
      (before.threads[task]?).any fun thread => isAbout (.db (.deleteAgent id)) thread &&
        (before.move (fun _ _ _ _ => true) task choice).any fun _ => tookOut 4 thread.past &&
          before.state.db.agents.any fun row => decide (row.id = uuidToString 4)) = true) :
    ∃ (before after : Config relay) (thread : Thread relay) (result : Op.Result (.db (.deleteAgent id))),
      Reached anyStep (10000, 60000) before ∧ Called before task thread choice (.db (.deleteAgent id)) result after ∧
      tookOut 4 thread.past = true ∧ ∃ row ∈ before.state.db.agents, row.id = uuidToString 4 := by
  obtain ⟨before, after, thread, result, reached, _, called, facts⟩ := newRelay_called passed
  obtain ⟨did, stored⟩ := (Bool.and_eq_true _ _).mp facts
  obtain ⟨row, member, named⟩ := List.any_eq_true.mp stored
  exact ⟨before, after, thread, result, reached.weaken fun _ _ _ => trivial, called, did, row, member,
    of_decide_eq_true named⟩

/-- The jobs before the deletion: Alice's laptop authenticates as agent 4. -/
def laptopOnline : List (Turn relay) := inOrder
  [(.register { username := "alice", password := "secret" }, answer 1 0),
    (.generateAgentToken (signedIn 1), answer 2 0),
    (.connect 0, answer 0 0),
    (.frame 0 (.message (.auth (Db.agentToken (answer 2 0)) "laptop")), answer 0 0)]

end TunnelitRelay
