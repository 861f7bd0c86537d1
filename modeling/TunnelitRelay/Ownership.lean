import TunnelitRelay.Concurrent.History
import TunnelitRelay.Handlers
import TunnelitRelay.Standard
import TunnelitRelay.Effects
import TunnelitRelay.Tables

namespace TunnelitRelay

open Concurrent

/-! # Ownership of agents over whole runs -/

section Runs

variable [Externals] {allowed : Condition relay} {portRange : UInt16 × UInt16}

theorem consistent_step {before after : Config relay} {action : Action relay}
    (consistent : Consistent before.state.db before.state.drawn) (step : Step before action after) :
    Consistent after.state.db after.state.drawn := by
  cases step with
  | start admitted =>
      obtain ⟨sessions, rfl⟩ := accept_same admitted
      exact consistent
  | call _ _ executed => exact consistent.exec executed
  | acquire | release | reboot => exact consistent

theorem consistent_steps {before after : Config relay}
    (consistent : Consistent before.state.db before.state.drawn) (steps : Steps allowed before after) :
    Consistent after.state.db after.state.drawn := by
  induction steps with
  | refl => exact consistent
  | tail _ last ih =>
      obtain ⟨_, _, step⟩ := last
      exact consistent_step ih step

theorem Reached.consistent {config : Config relay} (reached : Reached allowed portRange config) :
    Consistent config.state.db config.state.drawn :=
  consistent_steps .empty reached

/-! ## What is settled stays settled -/

/-- Every row with this id is claimed, and its owner and token are as told; no
row with this id can be inserted any more. -/
structure Settled (db : Database) (drawn : List Uuid) (id : String)
    (told : Option String → String → Prop) : Prop where
  named : ∃ uuid ∈ drawn, id = uuidToString uuid
  rows : ∀ row ∈ db.agents, row.id = id → row.claimCode = none ∧ told row.userId row.token

theorem Settled.more {db : Database} {drawn later : List Uuid} {id : String} {told}
    (settled : Settled db drawn id told) (grows : drawn ⊆ later) : Settled db later id told := by
  obtain ⟨⟨uuid, known, named⟩, rows⟩ := settled
  exact ⟨⟨uuid, grows known, named⟩, rows⟩

theorem Settled.change {db after : Database} {drawn : List Uuid} {id : String} {told}
    {choice : Choice} {query : Query} (settled : Settled db drawn id told)
    (fresh : ∀ id ∈ query.draws choice, id ∉ drawn) (change : Change choice db query after) :
    Settled after (query.draws choice ++ drawn) id told := by
  have other {row : AgentRecord} (named : row.id = uuidToString choice.id)
      (draws : choice.id ∈ query.draws choice) : row.id ≠ id := by
    obtain ⟨uuid, known, same⟩ := settled.named
    rintro rfl
    rw [named, uuidToString_inj] at same
    exact fresh _ draws (same ▸ known)
  have grown := settled.more (List.subset_append_right (query.draws choice) drawn)
  refine ⟨grown.named, fun row member same => ?_⟩
  cases change with
  | kept | registered | banned | detached | opened | switched | edited | closed =>
      exact settled.rows row member same
  | requested named unused unclaimed =>
      rcases List.mem_append.mp member with old | new
      · exact settled.rows row old same
      · rw [List.mem_singleton.mp new] at same
        exact absurd same (other named (by simp [Query.draws]))
  | issued named unused owned =>
      rcases List.mem_append.mp member with old | new
      · exact settled.rows row old same
      · rw [List.mem_singleton.mp new] at same
        exact absurd same (other named (by simp [Query.draws]))
  | @claimed code userId taken found =>
      obtain ⟨old, there, rfl⟩ := List.mem_map.mp member
      -- The row taken still carried its code, so it is not one of ours.
      have waiting : taken.claimCode = some code := by simpa using List.find?_some found
      by_cases hit : old.id = taken.id
      · simp only [hit, beq_self_eq_true, if_true] at same
        have claimed := (settled.rows taken (List.mem_of_find?_eq_some found) same).1
        rw [waiting] at claimed
        contradiction
      · simp only [beq_iff_eq, hit, if_false] at same ⊢
        exact settled.rows old there same
  | touched =>
      obtain ⟨old, there, rfl⟩ := List.mem_map.mp member
      split at same
      · have kept := settled.rows old there same
        split <;> exact kept
      · have kept := settled.rows old there same
        split <;> exact kept
  | deleted => exact settled.rows row (List.mem_of_mem_filter member) same

theorem Settled.exec {world after : World} {choice : Choice} {op : Op} {result : op.Result}
    {id : String} {told} (settled : Settled world.db world.drawn id told)
    (executed : exec world choice op = some (after, result)) : Settled after.db after.drawn id told := by
  rcases exec_change executed with ⟨query, _, change, drawn, fresh⟩ | ⟨same, drawn⟩
  · rw [drawn]
    exact settled.change fresh change
  · rw [same]
    exact settled.more drawn

theorem Settled.step {before after : Config relay} {action : Action relay} {id : String} {told}
    (settled : Settled before.state.db before.state.drawn id told) (step : Step before action after) :
    Settled after.state.db after.state.drawn id told := by
  cases step with
  | start admitted =>
      obtain ⟨sessions, rfl⟩ := accept_same admitted
      exact settled
  | call _ _ executed => exact settled.exec executed
  | acquire | release | reboot => exact settled

theorem Settled.steps {before after : Config relay} {id : String} {told}
    (settled : Settled before.state.db before.state.drawn id told) (steps : Steps allowed before after) :
    Settled after.state.db after.state.drawn id told := by
  induction steps with
  | refl => exact settled
  | tail _ last ih =>
      obtain ⟨_, _, step⟩ := last
      exact ih.step step

/-! ## Counting claims -/

/-- The rows waiting under a code. -/
def unclaimed (code : String) (db : Database) : Nat :=
  db.agents.countP (·.claimCode == some code)

/-- A call that has taken a row waiting under the code. -/
def takes (code : String) : Event relaySignature → Bool
  | ⟨.db (.claimAgentToUser code' _), .ok (some _)⟩ => code' == code
  | _ => false

/-- A call that has inserted a row waiting under the code. -/
def draws (code : String) : Event relaySignature → Bool
  | ⟨.db (.createAgentClaim _), .ok (_, code')⟩ => code' == code
  | _ => false

/-- A claim of the code that was answered with success. -/
def claimSucceeded (code : String) (thread : Thread relay) : Bool :=
  match thread.job, thread.rest with
  | .claimAgent code' _, .done reply => code' == code && reply == .text .ok "Agent claimed successfully"
  | _, _ => false

omit [Externals] in
theorem unclaimed_claimed {agents : List AgentRecord} {row : AgentRecord} {code userId : String}
    (member : row ∈ agents) (waiting : row.claimCode = some code) :
    (agents.map fun agent => if agent.id == row.id then
        { agent with claimCode := none, userId := some userId } else agent).countP
          (·.claimCode == some code) + 1 ≤ agents.countP (·.claimCode == some code) := by
  have taken : 0 < (agents.filter fun agent => agent.id == row.id).countP (·.claimCode == some code) := by
    rw [List.countP_pos_iff]
    exact ⟨row, List.mem_filter.mpr ⟨member, by simp⟩, by simp [waiting]⟩
  have others : (agents.map fun agent => if agent.id == row.id then
        { agent with claimCode := none, userId := some userId } else agent).countP
          (·.claimCode == some code) =
      (agents.filter fun agent => !(agent.id == row.id)).countP (·.claimCode == some code) := by
    rw [List.countP_map, List.countP_filter]
    refine List.countP_congr fun agent _ => ?_
    by_cases same : agent.id = row.id <;> simp [same]
  rw [others, List.countP_eq_countP_filter_add agents _ fun agent => agent.id == row.id]
  omega

theorem unclaimed_change {choice : Choice} {db after : Database} {query : Query} {code : String}
    (change : Change choice db query after) (claims : ∀ code userId, query ≠ .claimAgentToUser code userId)
    (requests : ∀ name, query ≠ .createAgentClaim name) : unclaimed code after ≤ unclaimed code db := by
  cases change with
  | kept | registered | banned | detached | opened | switched | edited | closed => exact Nat.le_refl _
  | requested => exact absurd rfl (requests _)
  | claimed => exact absurd rfl (claims _ _)
  | issued named unused owned => simp [unclaimed, owned]
  | touched =>
      refine Nat.le_of_eq ?_
      simp only [unclaimed, List.countP_map]
      refine List.countP_congr fun agent _ => ?_
      simp only [Function.comp]
      split <;> rfl
  | deleted => exact List.filter_sublist.countP_le

theorem unclaimed_other {choice : Choice} {db : Database} {query : Query} {code : String}
    (claims : ∀ code userId, query ≠ .claimAgentToUser code userId)
    (requests : ∀ name, query ≠ .createAgentClaim name) :
    unclaimed code (query.run choice portRange db).1 +
        (takes code ⟨.db query, (query.run choice portRange db).2⟩).toNat ≤
      unclaimed code db + (draws code ⟨.db query, (query.run choice portRange db).2⟩).toNat := by
  have untaken : takes code ⟨.db query, (query.run choice portRange db).2⟩ = false := by
    cases query <;> first | rfl | exact absurd rfl (claims _ _)
  rw [untaken]
  exact Nat.le_add_right_of_le (unclaimed_change query.run_change claims requests)

theorem unclaimed_call {choice : Choice} {db : Database} {query : Query} {code : String} :
    unclaimed code (query.run choice portRange db).1 +
        (takes code ⟨.db query, (query.run choice portRange db).2⟩).toNat ≤
      unclaimed code db + (draws code ⟨.db query, (query.run choice portRange db).2⟩).toNat := by
  cases query with
  | claimAgentToUser code' userId =>
      simp only [Query.run, Db.claimAgentToUser]
      split
      · simp [takes]
      · simp [takes]
      · rename_i row selected
        have found := Except.ok.inj (Choice.statement_ok selected)
        have waiting : row.claimCode = some code' := by simpa using List.find?_some found
        simp only [Database.write]
        split
        · rename_i after ran
          rw [Db.setAgentOwner_ok (Choice.statement_ok ran)]
          by_cases same : code' = code
          · subst same
            simpa [takes, draws, unclaimed] using
              @unclaimed_claimed _ _ _ userId (List.mem_of_find?_eq_some found) waiting
          · have fewer : unclaimed code { db with agents := db.agents.map fun agent =>
                if agent.id == row.id then { agent with claimCode := none, userId := some userId }
                else agent } ≤ unclaimed code db := by
              simp only [unclaimed, List.countP_map]
              refine List.countP_mono_left fun agent _ => ?_
              simp only [Function.comp]
              split <;> simp
            have uncounted : (code' == code) = false := beq_eq_false_iff_ne.mpr same
            simpa only [takes, draws, uncounted, Bool.toNat_false, Nat.add_zero] using fewer
        · simp [takes]
  | createAgentClaim name =>
      simp only [Query.run, Db.createAgentClaim, Database.write]
      split
      · rename_i after ran
        rw [(Db.insertAgent_ok (Choice.statement_ok ran)).1]
        simp only [unclaimed, takes, draws, List.countP_append, List.countP_singleton]
        by_cases same : Data.sixDigits (choice.code % 1000000) = code <;> simp [same]
      · simp [takes]
  | _ => exact unclaimed_other (by simp) (by simp)

theorem unclaimed_exec {world after : World} {choice : Choice} {op : Op} {result : op.Result}
    {code : String} (executed : exec world choice op = some (after, result)) :
    unclaimed code after.db + (takes code ⟨op, result⟩).toNat ≤
      unclaimed code world.db + (draws code ⟨op, result⟩).toNat := by
  by_cases call : ∃ query, op = .db query
  · obtain ⟨query, rfl⟩ := call
    obtain ⟨rfl, rfl, _⟩ := exec_db executed
    exact unclaimed_call
  · rcases exec_change executed with ⟨query, same, _⟩ | ⟨same, _⟩
    · exact absurd ⟨query, same⟩ call
    · have uncounted : takes code ⟨op, result⟩ = false := by
        cases op with
        | db query => exact absurd ⟨query, rfl⟩ call
        | _ => rfl
      rw [same, uncounted]
      exact Nat.le_add_right _ _

/-- Every successful answer was earned by taking a row. -/
theorem claimSucceeded_le {config : Config relay} {code : String} (lawful : config.Lawful contract) :
    config.threads.countP (claimSucceeded code) ≤ config.occurrences (takes code) := by
  refine Config.countP_le_occurrences fun thread member succeeded => ?_
  obtain ⟨job, past, held, rest⟩ := thread
  have obeys := lawful _ member
  unfold claimSucceeded at succeeded
  split at succeeded
  · rename_i code' headers reply claims answers
    simp only [Bool.and_eq_true, beq_iff_eq] at succeeded claims answers
    obtain ⟨rfl, rfl⟩ := succeeded
    subst claims answers
    obtain ⟨_, _, earned, _⟩ := obeys
    obtain ⟨userId, agent, did⟩ := earned code' headers rfl rfl
    exact ⟨_, did, by simp [takes]⟩
  · contradiction

theorem ownership_write_once {first last : Config relay} (reached : Reached anyStep portRange first)
    (steps : Steps anyStep first last) :
    (∀ row ∈ first.state.db.agents, Xor (row.claimCode.isSome = true) (row.userId.isSome = true)) ∧
    (∀ row ∈ first.state.db.agents, ∀ user, row.userId = some user →
      ∀ later ∈ last.state.db.agents, later.id = row.id →
        later.userId = some user ∧ later.token = row.token) ∧
    (Steps noReboot first last → ∀ code,
      last.threads.countP (claimSucceeded code) + first.occurrences (draws code) ≤
        unclaimed code first.state.db + first.occurrences (takes code) +
          last.occurrences (draws code)) := by
  have consistent := reached.consistent
  refine ⟨?_, ?_, ?_⟩
  · intro row member
    have half := consistent.halves row member
    cases claimCode : row.claimCode <;> cases userId : row.userId <;> simp_all [Xor]
  · intro row member user owned later there same
    have settled : Settled first.state.db first.state.drawn row.id
        fun owner token => owner = some user ∧ token = row.token := by
      obtain ⟨uuid, known, named⟩ := consistent.agentDrawn row member
      refine ⟨⟨uuid, known, named⟩, fun other listed alike => ?_⟩
      have equal : other = row := List.inj_on_of_nodup_map consistent.agentIds listed member alike
      subst equal
      have half := consistent.halves other member
      cases claimCode : other.claimCode <;> simp_all
    exact (settled.steps steps).rows later there same |>.2
  · intro running code
    have lawful : last.Lawful contract := Reached.lawful (reached.trans steps)
    have balance := @Steps.balance _ relay first last (fun world => unclaimed code world.db)
      (takes code) (draws code) (fun _ => True)
      (fun admitted _ => by
        obtain ⟨sessions, rfl⟩ := accept_same admitted
        exact ⟨trivial, rfl⟩)
      (fun _ executed => ⟨trivial, unclaimed_exec executed⟩) trivial running
    have earned := @claimSucceeded_le _ _ code lawful
    omega

end Runs

/-- Alice's claim takes the one row waiting under its code. -/
theorem ownership_write_once_claimed :
    ∃ config : Config relay, (∃ row ∈ config.state.db.agents, row.userId = some (uuidToString 2)) ∧
      ∀ row ∈ config.state.db.agents, Xor (row.claimCode.isSome = true) (row.userId.isSome = true) := by
  have passed : (relay.performAll
      [(.register { username := "alice", password := "secret" }, answer 1 0),
        (.connect 0, answer 0 0),
        (.frame 0 (.message (.requestClaim "laptop")), answer 2 7),
        (.claimAgent "000007" (signedIn 1), answer 0 0)] newRelay).any
        (fun world : World => world.db.agents.any (·.userId == some (uuidToString 2))) = true := by
    decide +kernel
  obtain ⟨config, reached, _, checked⟩ := newRelay_check passed
  obtain ⟨row, member, owned⟩ := List.any_eq_true.mp checked
  exact ⟨config, ⟨row, member, by simpa using owned⟩, (ownership_write_once reached .refl).1⟩

end TunnelitRelay
