import TunnelitRelay.Effects
import TunnelitRelay.Handlers
import TunnelitRelay.Tables

namespace TunnelitRelay

open Concurrent

variable [Externals] {allowed : Condition relay} {portRange : UInt16 × UInt16}

/-! # What the results a task has seen say by themselves

These facts need no state: they hold of every result of an operation, whenever
it was performed.
-/

structure Truthful (past : Past) : Prop where
  tunnel : ∀ id row, Did past (.db (.getTunnelById id)) (.ok (some row)) → row.id = id
  agent : ∀ token row, Did past (.db (.getAgentByToken token)) (.ok (some row)) → row.token = token
  rows : ∀ id rows, Did past (.db (.listTunnelsForAgent id)) (.ok rows) →
    ∀ row ∈ rows, row.agentId = id
  handle : ∀ transport port tunnelId agentId sender handle,
    Did past (.spawnProxy transport port tunnelId agentId sender) handle →
      handle.transport = transport ∧ handle.port = port ∧ handle.sender = sender

omit [Externals] in
theorem Truthful.nil : Truthful [] :=
  ⟨fun _ _ did => absurd did did_nil, fun _ _ did => absurd did did_nil,
    fun _ _ did => absurd did did_nil, fun _ _ _ _ _ _ did => absurd did did_nil⟩

theorem Truthful.exec {world after : World} {choice : Choice} {op : Op} {result : op.Result}
    {past : Past} (truthful : Truthful past)
    (executed : exec world choice op = some (after, result)) : Truthful (⟨op, result⟩ :: past) := by
  refine ⟨?_, ?_, ?_, ?_⟩
  · intro id row did
    rcases List.mem_cons.mp did with new | old
    · cases new
      obtain ⟨_, answer, _⟩ := exec_db executed
      have found := Except.ok.inj (Choice.statement_ok answer.symm)
      simpa using List.find?_some found
    · exact truthful.tunnel id row old
  · intro token row did
    rcases List.mem_cons.mp did with new | old
    · cases new
      simpa using List.find?_some (getAgentByToken_found executed).1
    · exact truthful.agent token row old
  · intro id rows did row member
    rcases List.mem_cons.mp did with new | old
    · cases new
      obtain ⟨_, answer, _⟩ := exec_db executed
      have listed := Except.ok.inj (Choice.statement_ok answer.symm)
      rw [← listed, Db.oldestFirst, List.mem_insertionSort] at member
      simpa using (List.mem_filter.mp member).2
    · exact truthful.rows id rows old row member
  · intro transport port tunnelId agentId sender handle did
    rcases List.mem_cons.mp did with new | old
    · cases new
      cases executed
      exact ⟨rfl, rfl, rfl⟩
    · exact truthful.handle transport port tunnelId agentId sender handle old

theorem Reached.truthful {config : Config relay} (reached : Reached allowed portRange config) :
    ∀ thread ∈ config.threads, Truthful thread.past := by
  refine (@Reachable.maintain _ relay _ (fun _ => True) (fun _ _ past => Truthful past) _ _
    trivial ?_ ?_ (fun _ => trivial) reached).2
  · exact fun _ _ => ⟨trivial, .nil, fun _ _ truthful => truthful⟩
  · intro before task thread op next choice state result _ _ each found _ _ executed
    exact ⟨trivial, (each thread (List.mem_of_getElem? found)).exec executed,
      fun _ _ truthful => truthful⟩

end TunnelitRelay
