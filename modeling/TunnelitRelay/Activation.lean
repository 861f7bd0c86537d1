import TunnelitRelay.Ownership

namespace TunnelitRelay

open Concurrent

/-! # An agent is activated only after it has been claimed -/

section Runs

variable [Externals] {allowed : Condition relay} {portRange : UInt16 × UInt16}

/-- Every row with this id has an owner and no claim code, for good. -/
abbrev Claimed (world : World) (id : String) : Prop :=
  Settled world.db world.drawn id fun owner _ => owner.isSome

theorem Consistent.claimed {world : World} (consistent : Consistent world.db world.drawn)
    {agent : AgentRecord} (member : agent ∈ world.db.agents) (unclaimed : agent.claimCode = none) :
    Claimed world agent.id := by
  obtain ⟨uuid, known, named⟩ := consistent.agentDrawn agent member
  refine ⟨⟨uuid, known, named⟩, fun row listed alike => ?_⟩
  have same : row = agent := List.inj_on_of_nodup_map consistent.agentIds listed member alike
  subst same
  have half := consistent.halves row member
  exact ⟨unclaimed, by simpa [unclaimed, Option.ne_none_iff_isSome] using half⟩

theorem Claimed.parsed {world : World} {id : String} {agentId : Uuid} (claimed : Claimed world id)
    (parsed : parseUuid id = some agentId) : Claimed world (uuidToString agentId) := by
  obtain ⟨uuid, _, named⟩ := claimed.named
  rw [named, parseUuid_uuidToString, Option.some.injEq] at parsed
  rwa [← parsed, ← named]

/-- What a task has read of agents that serve or may serve. -/
structure SawClaimed (world : World) (past : Past) : Prop where
  presented : ∀ token agent, Did past (.db (.getAgentByToken token)) (.ok (some agent)) →
    agent.claimCode = none → Claimed world agent.id
  taken : ∀ code userId agent, Did past (.db (.claimAgentToUser code userId)) (.ok (some agent)) →
    Claimed world agent.id
  registered : ∀ agentId sender, Did past (.agentSender agentId) (some sender) →
    Claimed world (uuidToString agentId)

/-- The tables are consistent and only claimed agents are registered. -/
structure OnlyClaimed (world : World) : Prop where
  consistent : Consistent world.db world.drawn
  registered : ∀ agentId sender, world.agentSenders agentId = some sender →
    Claimed world (uuidToString agentId)

theorem SawClaimed.later {world after : World} {past : Past} (saw : SawClaimed world past)
    (stays : ∀ id, Claimed world id → Claimed after id) : SawClaimed after past where
  presented := fun token agent did unclaimed => stays _ (saw.presented token agent did unclaimed)
  taken := fun code userId agent did => stays _ (saw.taken code userId agent did)
  registered := fun agentId sender did => stays _ (saw.registered agentId sender did)

theorem SawClaimed.entitled {world : World} {job : Job} {past : Past} {agentId : Uuid}
    {sender : Channel} (saw : SawClaimed world past) (entitled : Entitled job past agentId sender) :
    Claimed world (uuidToString agentId) := by
  obtain ⟨agent, parsed, ⟨token, _, _, read, unclaimed⟩ | ⟨code, _, userId, _, taken, _⟩⟩ := entitled
  · exact (saw.presented token agent read unclaimed).parsed parsed
  · exact (saw.taken code userId agent taken).parsed parsed

theorem SawClaimed.serves {world : World} {job : Job} {past : Past} {held : Held} {agentId : Uuid}
    {sender : Channel} (saw : SawClaimed world past) (serves : Serves job past held agentId sender) :
    Claimed world (uuidToString agentId) := by
  rcases serves with entitled | ⟨_, read, _⟩
  · exact saw.entitled entitled
  · exact saw.registered agentId sender read

theorem SawClaimed.exec {world after : World} {past : Past} {choice : Choice} {op : Op}
    {result : op.Result} (only : OnlyClaimed world) (saw : SawClaimed world past)
    (executed : exec world choice op = some (after, result)) :
    SawClaimed after (⟨op, result⟩ :: past) := by
  have old := saw.later fun id (claimed : Claimed world id) => claimed.exec executed
  refine ⟨?_, ?_, ?_⟩
  · intro token agent did unclaimed
    rcases List.mem_cons.mp did with new | before
    · cases new
      obtain ⟨found, same, drawn⟩ := getAgentByToken_found executed
      have claimed := only.consistent.claimed (List.mem_of_find?_eq_some found) unclaimed
      exact Settled.exec claimed executed
    · exact old.presented token agent before unclaimed
  · intro code userId agent did
    rcases List.mem_cons.mp did with new | before
    · cases new
      obtain ⟨row, found, rfl, drawn, written⟩ := claimAgentToUser_taken executed
      have member := List.mem_of_find?_eq_some found
      have consistent := only.consistent.exec executed
      have owned : { row with claimCode := none, userId := some userId } ∈ after.db.agents := by
        rw [written]
        exact List.mem_map.mpr ⟨row, member, by simp⟩
      have claimed := consistent.claimed owned rfl
      exact claimed
    · exact old.taken code userId agent before
  · intro agentId sender did
    rcases List.mem_cons.mp did with new | before
    · cases new
      simp only [TunnelitRelay.exec, Option.some.injEq, Prod.mk.injEq] at executed
      obtain ⟨rfl, found⟩ := executed
      exact only.registered agentId sender found
    · exact old.registered agentId sender before

theorem OnlyClaimed.exec {world after : World} {job : Job} {past : Past} {held : Held}
    {choice : Choice} {op : Op} {result : op.Result} (only : OnlyClaimed world)
    (saw : SawClaimed world past) (lawful : discipline job past held (.call op))
    (executed : exec world choice op = some (after, result)) : OnlyClaimed after := by
  refine ⟨only.consistent.exec executed, fun agentId sender there => ?_⟩
  rcases agentSenders_origin executed there with before | rfl
  · exact Settled.exec (only.registered agentId sender before) executed
  · have entitled : Entitled job past agentId sender := (lawful.2.2.general fun _ => id).1
    exact Settled.exec (saw.entitled entitled) executed

theorem Reached.onlyClaimed {config : Config relay} (reached : Reached allowed portRange config) :
    OnlyClaimed config.state ∧ ∀ thread ∈ config.threads, SawClaimed config.state thread.past := by
  refine @Reachable.maintain _ relay _ OnlyClaimed (fun world _ past => SawClaimed world past) _ _
    ?_ ?_ ?_ ?_ reached
  · exact ⟨.empty, fun agentId sender there => by simp [World.initial] at there⟩
  · rintro world job admitted only accepted
    obtain ⟨sessions, rfl⟩ := accept_same accepted
    exact ⟨⟨only.consistent, only.registered⟩,
      ⟨fun _ _ did => absurd did did_nil, fun _ _ _ did => absurd did did_nil,
        fun _ _ did => absurd did did_nil⟩,
      fun _ _ saw => ⟨saw.presented, saw.taken, saw.registered⟩⟩
  · intro before task thread op next choice state result earlier only each found head _ executed
    have saw := each thread (List.mem_of_getElem? found)
    exact ⟨only.exec saw ((Reached.lawful earlier).call (List.mem_of_getElem? found) head) executed,
      saw.exec only executed,
      fun _ _ other => other.later fun id claimed => Settled.exec claimed executed⟩
  · intro world only
    exact ⟨only.consistent, fun agentId sender there => by simp [World.reboot, World.initial] at there⟩

/-- A registered agent whose row still exists is claimed, and so is every agent
for whose tunnel `start_tunnel_listener` is about to be called. -/
theorem activated_only_after_claim {config : Config relay} (reached : Reached anyStep portRange config) :
    (∀ agentId sender, config.state.agentSenders agentId = some sender →
      ∀ row ∈ config.state.db.agents, row.id = uuidToString agentId →
        row.userId.isSome ∧ row.claimCode = none) ∧
    ∀ thread ∈ config.threads, ∀ tunnel sender next,
      thread.rest = .call (.enterStartTunnelListener tunnel sender) next →
        ∀ row ∈ config.state.db.agents, row.id = uuidToString tunnel.agentId → row.claimCode = none := by
  obtain ⟨only, saw⟩ := reached.onlyClaimed
  refine ⟨fun agentId sender there row member same => ?_, ?_⟩
  · exact ((only.registered agentId sender there).rows row member same).symm
  · intro thread member tunnel sender next head row listed same
    have lawful := reached.lawful.call member head
    have serves : Serves thread.job thread.past thread.held tunnel.agentId sender :=
      (lawful.2.2.general fun _ => id).1.1
    exact (((saw thread member).serves serves).rows row listed same).1

end Runs

/-- Alice's agent is registered after its token was presented. -/
theorem activated_only_after_claim_registered :
    ∃ config : Config relay, config.state.agentSenders 4 = some 0 ∧
      ∀ row ∈ config.state.db.agents, row.id = uuidToString 4 →
        row.userId.isSome ∧ row.claimCode = none := by
  have passed : (relay.performAll
      [(.register { username := "alice", password := "secret" }, answer 1 0),
        (.generateAgentToken (signedIn 1), answer 2 0),
        (.connect 0, answer 0 0),
        (.frame 0 (.message (.auth (Db.agentToken (answer 2 0)) "laptop")), answer 0 0)] newRelay).any
        (fun world : World => decide (world.agentSenders 4 = some 0)) = true := by decide +kernel
  obtain ⟨config, reached, _, checked⟩ := newRelay_check passed
  exact ⟨config, of_decide_eq_true checked, fun row member same =>
    (activated_only_after_claim reached).1 4 0 (of_decide_eq_true checked) row member same⟩

end TunnelitRelay
