import TunnelitRelay.Ownership

namespace TunnelitRelay

open Concurrent

/-! # Tunnels and agents have the same owner -/

/-- Every tunnel belongs to an agent of its own owner. -/
def OwnersAgree (db : Database) : Prop :=
  ∀ tunnel ∈ db.tunnels, ∃ agent ∈ db.agents, agent.id = tunnel.agentId ∧ agent.userId = tunnel.userId

instance (db : Database) : Decidable (OwnersAgree db) :=
  inferInstanceAs (Decidable (∀ tunnel ∈ db.tunnels, ∃ agent ∈ db.agents,
    agent.id = tunnel.agentId ∧ agent.userId = tunnel.userId))

section Runs

variable [Externals] {portRange : UInt16 × UInt16}

/-- `create_tunnel` inserts a tunnel only for an agent of the caller, who is
the owner written to the row. -/
def insertsForOwnAgent : Check relay := fun config _ _ op =>
  match op with
  | .db (.createTunnel agentId userId _ _ _ _ _) =>
      decide (∀ agent ∈ config.state.db.agents, agent.id = agentId → agent.userId = userId)
  | _ => true

/-- Every tunnel has an owner, and the agents it belongs to have the same. -/
def OwnedAlike (db : Database) : Prop :=
  ∀ tunnel ∈ db.tunnels, tunnel.userId.isSome ∧
    ∀ agent ∈ db.agents, agent.id = tunnel.agentId → agent.userId = tunnel.userId

theorem OwnedAlike.change {choice : Choice} {db after : Database} {drawn : List Uuid} {query : Query}
    (alike : OwnedAlike db) (consistent : Consistent db drawn) (change : Change choice db query after)
    (inserts : ∀ agentId userId name localPort protocol publicPort subdomain,
      query = .createTunnel agentId userId name localPort protocol publicPort subdomain →
        userId.isSome ∧ ∀ agent ∈ db.agents, agent.id = agentId → agent.userId = userId) :
    OwnedAlike after := by
  -- A new agent has no tunnel: every tunnel is attached to an agent of another id.
  have insertAgent {row : AgentRecord} (unused : Unused db row) :
      OwnedAlike { db with agents := db.agents ++ [row] } := by
    intro tunnel member
    refine ⟨(alike tunnel member).1, fun agent there same => ?_⟩
    rcases List.mem_append.mp there with old | new
    · exact (alike tunnel member).2 agent old same
    · obtain ⟨other, listed, attached⟩ := consistent.attached tunnel member
      rw [List.mem_singleton.mp new] at same
      exact absurd (attached.trans same.symm) (unused other listed).1
  cases change with
  | kept | registered | banned => exact alike
  | requested _ unused _ => exact insertAgent unused
  | issued _ unused _ => exact insertAgent unused
  | @claimed code userId row found =>
      intro tunnel member
      refine ⟨(alike tunnel member).1, fun agent there same => ?_⟩
      obtain ⟨old, listed, rfl⟩ := List.mem_map.mp there
      by_cases hit : old.id = row.id
      · -- An unclaimed agent has no owner, so it has no tunnel either.
        have waiting : row.claimCode = some code := by simpa using List.find?_some found
        have orphan := (consistent.halves row (List.mem_of_find?_eq_some found)).mp (by simp [waiting])
        have owned := (alike tunnel member).2 row (List.mem_of_find?_eq_some found)
          (by simpa [hit] using same)
        have someone := (alike tunnel member).1
        rw [← owned, orphan] at someone
        contradiction
      · simp only [beq_iff_eq, hit, if_false] at same ⊢
        exact (alike tunnel member).2 old listed same
  | touched =>
      intro tunnel member
      refine ⟨(alike tunnel member).1, fun agent there same => ?_⟩
      obtain ⟨old, listed, rfl⟩ := List.mem_map.mp there
      have kept := (alike tunnel member).2 old listed
      split at same <;> rename_i hit <;> simpa [hit] using kept same
  | detached => exact fun tunnel member => alike tunnel (List.mem_of_mem_filter member)
  | deleted =>
      intro tunnel member
      obtain ⟨someone, same⟩ := alike tunnel (List.mem_of_mem_filter member)
      exact ⟨someone, fun agent there => same agent (List.mem_of_mem_filter there)⟩
  | opened named unused attached fields =>
      obtain ⟨rfl, rfl, _⟩ := fields
      intro tunnel member
      rcases List.mem_append.mp member with old | new
      · exact alike tunnel old
      · rw [List.mem_singleton.mp new]
        exact inserts _ _ _ _ _ _ _ rfl
  | switched | edited =>
      intro tunnel member
      obtain ⟨old, listed, rfl⟩ := List.mem_map.mp member
      split <;> exact alike old listed
  | closed => exact fun tunnel member => alike tunnel (List.mem_of_mem_filter member)

/-- In every run in which tunnels are inserted for agents of their owner only,
the owners agree in every state. -/
theorem owners_agree {config : Config relay}
    (reached : Reached insertsForOwnAgent.condition portRange config) : OwnersAgree config.state.db := by
  have invariant := @Reachable.maintain _ relay insertsForOwnAgent.condition
    (fun world => Consistent world.db world.drawn ∧ OwnedAlike world.db) (fun _ _ _ => True)
    (World.initial portRange Database.empty []) config
    ⟨.empty, fun tunnel member => by simp [World.initial, Database.empty] at member⟩
    (by
      rintro world job admitted ⟨consistent, alike⟩ accepted
      obtain ⟨sessions, rfl⟩ := accept_same accepted
      exact ⟨⟨consistent, alike⟩, trivial, fun _ _ _ => trivial⟩)
    (by
      rintro before task thread op next choice state result earlier ⟨consistent, alike⟩ - found head
        permitted executed
      refine ⟨⟨consistent.exec executed, ?_⟩, trivial, fun _ _ _ => trivial⟩
      rcases exec_change executed with ⟨query, rfl, change, _⟩ | ⟨same, _⟩
      · refine alike.change consistent change ?_
        rintro agentId userId name localPort protocol publicPort subdomain rfl
        have justified := (((Reached.lawful earlier).call (List.mem_of_getElem? found) head).2.2.general fun _ => id).1
        obtain ⟨_, _, _, uid, _, _, _, _, _, _, _, _, rfl, _⟩ := justified
        exact ⟨rfl, of_decide_eq_true (permitted thread _ next found head)⟩
      · rw [same]
        exact alike)
    (by
      rintro world ⟨consistent, alike⟩
      exact ⟨consistent, alike⟩)
    reached
  obtain ⟨⟨consistent, alike⟩, _⟩ := invariant
  intro tunnel member
  obtain ⟨agent, listed, same⟩ := consistent.attached tunnel member
  exact ⟨agent, listed, same, (alike tunnel member).2 agent listed same⟩

end Runs

/-- Alice creates a tunnel for her own agent. -/
theorem owners_agree_own :
    ∃ config : Config relay, config.state.db.tunnels ≠ [] ∧ OwnersAgree config.state.db := by
  have passed : (relay.follow insertsForOwnAgent 200 (inOrder
      [(.register { username := "alice", password := "secret" }, answer 1 0),
        (.generateAgentToken (signedIn 1), answer 2 0),
        (.createTunnel (signedIn 1) (webTunnel 4), answer 3 0)]) ⟨newRelay, []⟩).any
        (fun config => decide (config.state.db.tunnels ≠ [])) = true := by decide +kernel
  obtain ⟨config, reached, there⟩ := newRelay_follow passed
  exact ⟨config, of_decide_eq_true there, owners_agree reached⟩

/-- Bob creates a tunnel for Alice's agent, whose id is all the request names. -/
theorem owners_disagree :
    ¬ ∀ config : Config relay, Reached anyStep (10000, 60000) config → OwnersAgree config.state.db := by
  have passed : (relay.performAll
      [(.register { username := "alice", password := "secret" }, answer 1 0),
        (.generateAgentToken (signedIn 1), answer 2 0),
        (.register { username := "bob", password := "secret" }, answer 3 0),
        (.createTunnel (signedIn 3) (webTunnel 4), answer 4 0)] newRelay).any
        (fun world : World => decide (¬ OwnersAgree world.db)) = true := by decide +kernel
  obtain ⟨config, reached, _, disagree⟩ := newRelay_check passed
  exact fun always => of_decide_eq_true disagree (always config reached)

end TunnelitRelay
