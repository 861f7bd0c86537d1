import TunnelitRelay.Traffic

namespace TunnelitRelay

open Concurrent Program

/-! # Listener tasks and their handles

Starting a listener takes three steps on the table of handles: the old handle
is removed, a task is spawned, and its handle is stored.  The table is free in
between, and storing a handle over another one loses the task of the other.
-/

section Runs

variable [Externals]

/-! ## What an action does to the listener tasks -/

/-- The values a listener is spawned with do not change, nor is it aborted by an action. -/
structure Listener.Alike (listener later : Listener) : Prop where
  transport : later.transport = listener.transport
  tunnelId : later.tunnelId = listener.tunnelId
  agentId : later.agentId = listener.agentId
  agentSender : later.agentSender = listener.agentSender
  aborted : later.aborted = listener.aborted

omit [Externals] in
theorem Listener.Alike.refl {listener : Listener} : listener.Alike listener := ⟨rfl, rfl, rfl, rfl, rfl⟩

theorem Proxies.listen_listeners {world world' : World} {proxies proxies' : Proxies} {task : Nat}
    {listener : Listener} {action : ProxyAction}
    (performed : proxies.listen world task listener action = some (world', proxies')) :
    ∃ next, proxies'.listeners = Function.update proxies.listeners task next ∧
      ∀ later, next = some later → listener.Alike later := by
  unfold Proxies.listen at performed
  split at performed <;> (repeat' split at performed) <;> cases performed
  all_goals
    refine ⟨_, rfl, ?_⟩
    rintro later ⟨⟩ <;> exact ⟨rfl, rfl, rfl, rfl, rfl⟩

theorem Proxies.serveTcp_listeners {world world' : World} {proxies proxies' : Proxies} {connId : Uuid}
    {connection : Connection} {action : ProxyAction}
    (performed : proxies.serveTcp world connId connection action = some (world', proxies')) :
    proxies'.listeners = proxies.listeners := by
  unfold Proxies.serveTcp at performed
  split at performed <;> (repeat' split at performed) <;> cases performed <;> rfl

omit [Externals] in
theorem Proxies.serveUdp_listeners {world world' : World} {proxies proxies' : Proxies} {connId : Uuid}
    {connection : Connection} {action : ProxyAction} {task : Nat} {later : Listener}
    (performed : proxies.serveUdp world connId connection action = some (world', proxies'))
    (there : proxies'.listeners task = some later) :
    ∃ listener, proxies.listeners task = some listener ∧ listener.Alike later := by
  unfold Proxies.serveUdp at performed
  split at performed <;> (repeat' split at performed) <;> cases performed
  all_goals first | exact ⟨later, there, .refl⟩ | skip
  rename_i listener known
  change Function.update proxies.listeners connection.listener _ task = some later at there
  by_cases here : task = connection.listener
  · subst here
    rw [Function.update_self, Option.some.injEq] at there
    subst there
    exact ⟨_, known, rfl, rfl, rfl, rfl, rfl⟩
  · rw [Function.update_of_ne here] at there
    exact ⟨later, there, .refl⟩

omit [Externals] in
theorem Proxies.serveUdp_kept {world world' : World} {proxies proxies' : Proxies} {connId : Uuid}
    {connection : Connection} {action : ProxyAction} {task : Nat} {listener : Listener}
    (performed : proxies.serveUdp world connId connection action = some (world', proxies'))
    (there : proxies.listeners task = some listener) :
    ∃ next, proxies'.listeners task = some next ∧ listener.addrToConn ⊆ next.addrToConn := by
  unfold Proxies.serveUdp at performed
  split at performed <;> (repeat' split at performed) <;> cases performed
  all_goals first | exact ⟨listener, there, List.Subset.refl _⟩ | skip
  rename_i known
  by_cases here : task = connection.listener
  · subst here
    rw [known, Option.some.injEq] at there
    subst there
    exact ⟨_, Function.update_self .., List.Subset.refl _⟩
  · exact ⟨listener, (Function.update_of_ne here ..).trans there, List.Subset.refl _⟩

/-- A listener after an action was there before. -/
theorem Proxies.perform_listeners {world world' : World} {proxies proxies' : Proxies}
    {action : ProxyAction} {task : Nat} {later : Listener}
    (performed : proxies.perform world action = some (world', proxies'))
    (there : proxies'.listeners task = some later) :
    ∃ listener, proxies.listeners task = some listener ∧ listener.Alike later := by
  unfold Proxies.perform at performed
  split at performed
  · cases performed
    exact ⟨later, there, .refl⟩
  · split at performed
    · rename_i acting _
      split at performed
      · rename_i listener known
        obtain ⟨next, listeners, alike⟩ := Proxies.listen_listeners performed
        rw [listeners] at there
        by_cases here : task = acting
        · subst here
          rw [Function.update_self] at there
          exact ⟨listener, known, alike later there⟩
        · rw [Function.update_of_ne here] at there
          exact ⟨later, there, .refl⟩
      · contradiction
    · split at performed
      · split at performed
        · split at performed
          · rw [Proxies.serveTcp_listeners performed] at there
            exact ⟨later, there, .refl⟩
          · exact Proxies.serveUdp_listeners performed there
        · contradiction
      · contradiction

omit [Externals] in
theorem update_cases {α β : Type} [DecidableEq α] {f : α → Option β} {here there : α} {new : Option β} {found : β}
    (known : Function.update f here new there = some found) :
    (there = here ∧ new = some found) ∨ (there ≠ here ∧ f there = some found) := by
  by_cases same : there = here
  · subst same
    rw [Function.update_self] at known
    exact .inl ⟨rfl, known⟩
  · rw [Function.update_of_ne same] at known
    exact .inr ⟨same, known⟩

/-- A connection after an action of a listener was there before, or the listener
has just accepted it. -/
theorem Proxies.listen_connections {world world' : World} {proxies proxies' : Proxies} {task : Nat}
    {listener : Listener} {action : ProxyAction} {connId : Uuid} {later : Connection}
    (performed : proxies.listen world task listener action = some (world', proxies'))
    (there : proxies'.connections connId = some later) :
    (∃ connection, proxies.connections connId = some connection ∧ connection.Alike later) ∨
      (connId ∉ world.drawn ∧ later = listener.accepted task ∧
        ∃ next, proxies'.listeners task = some next ∧
          (listener.transport = .udp → ∃ addr, (addr, connId) ∈ next.addrToConn)) := by
  unfold Proxies.listen at performed
  split at performed <;> (repeat' split at performed) <;> cases performed
  all_goals first
    | exact .inl ⟨later, there, rfl, rfl, rfl, rfl, rfl⟩
    | rcases update_cases there with ⟨rfl, ⟨⟩⟩ | ⟨_, old⟩
      · first
        | rename_i known
          exact .inl ⟨_, known, rfl, rfl, rfl, rfl, rfl⟩
        | refine .inr ⟨by simp_all, rfl, _, Function.update_self .., ?_⟩
          simp_all
      · exact .inl ⟨later, old, rfl, rfl, rfl, rfl, rfl⟩

theorem Proxies.serveTcp_connections {world world' : World} {proxies proxies' : Proxies} {served connId : Uuid}
    {connection later : Connection} {action : ProxyAction}
    (known : proxies.connections served = some connection)
    (performed : proxies.serveTcp world served connection action = some (world', proxies'))
    (there : proxies'.connections connId = some later) :
    ∃ old, proxies.connections connId = some old ∧ old.Alike later := by
  unfold Proxies.serveTcp at performed
  split at performed <;> (repeat' split at performed) <;> cases performed
  all_goals
    rcases update_cases there with ⟨rfl, ⟨⟩⟩ | ⟨_, old⟩
    · exact ⟨connection, known, rfl, rfl, rfl, rfl, rfl⟩
    · exact ⟨later, old, rfl, rfl, rfl, rfl, rfl⟩

omit [Externals] in
theorem Proxies.serveUdp_connections {world world' : World} {proxies proxies' : Proxies} {served connId : Uuid}
    {connection later : Connection} {action : ProxyAction}
    (known : proxies.connections served = some connection)
    (performed : proxies.serveUdp world served connection action = some (world', proxies'))
    (there : proxies'.connections connId = some later) :
    ∃ old, proxies.connections connId = some old ∧ old.Alike later := by
  unfold Proxies.serveUdp at performed
  split at performed <;> (repeat' split at performed) <;> cases performed
  all_goals
    rcases update_cases there with ⟨rfl, ⟨⟩⟩ | ⟨_, old⟩
    · exact ⟨connection, known, rfl, rfl, rfl, rfl, rfl⟩
    · exact ⟨later, old, rfl, rfl, rfl, rfl, rfl⟩

/-- A connection after an action was there before, or some listener has just accepted it. -/
theorem Proxies.perform_connections {world world' : World} {proxies proxies' : Proxies}
    {action : ProxyAction} {connId : Uuid} {later : Connection}
    (performed : proxies.perform world action = some (world', proxies'))
    (there : proxies'.connections connId = some later) :
    (∃ connection, proxies.connections connId = some connection ∧ connection.Alike later) ∨
      (connId ∉ world.drawn ∧ ∃ task listener next, proxies.listeners task = some listener ∧
        later = listener.accepted task ∧ proxies'.listeners task = some next ∧
          (listener.transport = .udp → ∃ addr, (addr, connId) ∈ next.addrToConn)) := by
  unfold Proxies.perform at performed
  split at performed
  · cases performed
    exact .inl ⟨later, there, rfl, rfl, rfl, rfl, rfl⟩
  · split at performed
    · rename_i task _
      split at performed
      · rename_i listener known
        rcases Proxies.listen_connections performed there with old | ⟨new, rfl, next, after, clients⟩
        · exact .inl old
        · exact .inr ⟨new, task, listener, next, known, rfl, after, clients⟩
      · contradiction
    · split at performed
      · split at performed
        · rename_i known
          split at performed
          · exact .inl (Proxies.serveTcp_connections known performed there)
          · exact .inl (Proxies.serveUdp_connections known performed there)
        · contradiction
      · contradiction

theorem Proxies.listen_kept {world world' : World} {proxies proxies' : Proxies} {task : Nat}
    {listener : Listener} {action : ProxyAction}
    (performed : proxies.listen world task listener action = some (world', proxies')) :
    (∃ next, proxies'.listeners task = some next ∧ listener.addrToConn ⊆ next.addrToConn) ∨
      proxies.closed listener.agentSender = true ∨ ∃ number, action = .cancel number := by
  unfold Proxies.listen at performed
  split at performed <;> (repeat' split at performed) <;> cases performed
  all_goals first
    | exact .inr (.inr ⟨_, rfl⟩)
    | exact .inr (.inl ‹_›)
    | refine .inl ⟨_, Function.update_self .., ?_⟩
      first | exact List.Subset.refl _ | exact List.subset_cons_self _ _

/-- A listener stays, with its clients, while it is not dropped and its agent is there. -/
theorem Proxies.perform_kept {world world' : World} {proxies proxies' : Proxies} {action : ProxyAction}
    {task : Nat} {listener : Listener}
    (performed : proxies.perform world action = some (world', proxies'))
    (there : proxies.listeners task = some listener) :
    (∃ next, proxies'.listeners task = some next ∧ listener.addrToConn ⊆ next.addrToConn) ∨
      proxies.closed listener.agentSender = true ∨ action = .cancel task := by
  unfold Proxies.perform at performed
  split at performed
  · cases performed
    exact .inl ⟨listener, there, List.Subset.refl _⟩
  · split at performed
    · rename_i acting names
      split at performed
      · rename_i found known
        by_cases here : task = acting
        · subst here
          rw [known, Option.some.injEq] at there
          subst there
          rcases Proxies.listen_kept performed with kept | deaf | ⟨number, rfl⟩
          · exact .inl kept
          · exact .inr (.inl deaf)
          · exact .inr (.inr (by rw [ProxyAction.task, Option.some.injEq] at names; rw [names]))
        · obtain ⟨next, listeners, _⟩ := Proxies.listen_listeners performed
          refine .inl ⟨listener, ?_, List.Subset.refl _⟩
          rw [listeners, Function.update_of_ne here]
          exact there
      · contradiction
    · split at performed
      · split at performed
        · split at performed
          · rw [← Proxies.serveTcp_listeners performed] at there
            exact .inl ⟨listener, there, List.Subset.refl _⟩
          · exact .inl (Proxies.serveUdp_kept performed there)
        · contradiction
      · contradiction

/-- A listener just spawned. -/
def Listener.spawned (transport : Transport) (tunnelId agentId : Uuid) (sender : Channel) : Listener where
  transport := transport
  tunnelId := tunnelId
  agentId := agentId
  agentSender := sender
  aborted := false
  stage := .checking
  addrToConn := []
  connToAddr := []
  inbox := []

omit [Externals] in
/-- A listener after a call of a handler has just been spawned or was there
before; a call that removes its handle aborts it. -/
theorem Proxies.after_listeners {world : World} {proxies : Proxies} {op : Op} {task : Nat}
    {later : Listener} (there : (proxies.after world op).listeners task = some later) :
    (∃ transport port tunnelId agentId sender, op = .spawnProxy transport port tunnelId agentId sender ∧
      task = world.spawned ∧ later = .spawned transport tunnelId agentId sender) ∨
    ∃ listener, proxies.listeners task = some listener ∧
      later = { listener with aborted := later.aborted } ∧
      (later.aborted = false → listener.aborted = false ∧ ∀ tunnelId handle, op = .removeTunnelTask tunnelId →
        world.tunnelTasks tunnelId = some handle → handle.task ≠ task) := by
  unfold Proxies.after at there
  split at there
  · rename_i transport port tunnelId agentId sender
    change Function.update proxies.listeners world.spawned _ task = some later at there
    by_cases here : task = world.spawned
    · subst here
      rw [Function.update_self, Option.some.injEq] at there
      exact .inl ⟨_, _, _, _, _, rfl, rfl, there.symm⟩
    · rw [Function.update_of_ne here] at there
      exact .inr ⟨later, there, rfl, fun running => ⟨running, fun _ _ other => by contradiction⟩⟩
  · rename_i tunnelId
    split at there
    · rename_i handle stored
      change Function.update proxies.listeners handle.task _ task = some later at there
      by_cases here : task = handle.task
      · subst here
        rw [Function.update_self] at there
        obtain ⟨listener, known, rfl⟩ := Option.map_eq_some_iff.mp there
        exact .inr ⟨listener, known, rfl, fun running => by contradiction⟩
      · rw [Function.update_of_ne here] at there
        refine .inr ⟨later, there, rfl, fun running => ⟨running, fun other found same known => ?_⟩⟩
        cases same
        rw [stored, Option.some.injEq] at known
        exact fun alike => here (known ▸ alike.symm)
    · rename_i free
      refine .inr ⟨later, there, rfl, fun running => ⟨running, fun other found same known => ?_⟩⟩
      cases same
      rw [free] at known
      contradiction
  · rename_i unlike
    exact .inr ⟨later, there, rfl, fun running => ⟨running, fun other _ same _ => absurd same (unlike other)⟩⟩

/-- An action changes nothing of the shared state but the channels, the map of
connections and the identifiers drawn. -/
theorem Proxies.perform_world {world world' : World} {proxies proxies' : Proxies} {action : ProxyAction}
    (performed : proxies.perform world action = some (world', proxies')) :
    ∃ sent tcpConnSenders drawn, world' = { world with sent, tcpConnSenders, drawn } := by
  have offers (world : World) (sender : Channel) (message : RelayMessage) :
      ∃ sent, world.offer proxies sender message = { world with sent } := by
    unfold World.offer
    split <;> exact ⟨_, rfl⟩
  unfold Proxies.perform at performed
  split at performed
  · cases performed
    exact ⟨_, _, _, rfl⟩
  · split at performed
    · split at performed
      · unfold Proxies.listen at performed
        split at performed <;> (repeat' split at performed) <;> cases performed
        all_goals first
          | exact ⟨_, _, _, rfl⟩
          | obtain ⟨sent, same⟩ := offers _ _ _
            exact ⟨sent, _, _, same⟩
      · contradiction
    · split at performed
      · split at performed
        · split at performed
          · unfold Proxies.serveTcp at performed
            split at performed <;> (repeat' split at performed) <;> cases performed
            all_goals first
              | exact ⟨_, _, _, rfl⟩
              | obtain ⟨sent, same⟩ := offers _ _ _
                exact ⟨sent, _, _, same⟩
          · unfold Proxies.serveUdp at performed
            split at performed <;> (repeat' split at performed) <;> cases performed <;>
              exact ⟨_, _, _, rfl⟩
        · contradiction
      · contradiction

/-! ## Handles stored and handles on their way -/

/-- The listener task is neither finished nor aborted. -/
def Proxies.live (proxies : Proxies) (task : Nat) : Bool :=
  (proxies.listeners task).any fun listener => !listener.aborted

/-- A handle is stored only where no handle of a live task is stored. -/
def storesFree : Check process := fun config _ _ op =>
  match op with
  | .insertTunnelTask tunnelId _ =>
      (config.state.world.tunnelTasks tunnelId).all fun handle => !config.state.proxies.live handle.task
  | _ => true

/-- The listener has been spawned, and its handle has not been stored. -/
def Unstored (past : Past) (tunnelId : Uuid) (handle : JoinHandle) : Prop :=
  (∃ transport port agentId sender, Did past (.spawnProxy transport port tunnelId agentId sender) handle) ∧
    ¬ Did past (.insertTunnelTask tunnelId handle) ()

/-- A call of `start_tunnel_listener` is between spawning a listener and storing its handle. -/
def Starting (past : Past) : Prop := ∃ tunnelId handle, Unstored past tunnelId handle

omit [Externals] in
/-- A call of `start_tunnel_listener` that has returned is in progress no more. -/
theorem startTunnelListener_stored {tunnel : TunnelConfig} {sender : Channel} {past : Past} {held : Held}
    (stored : ¬ Starting past) : (startTunnelListener tunnel sender).Obeys (fun _ _ _ => True)
      (fun past _ _ => ¬ Starting past) past held := by
  have other {past : Past} {op : Op} {result : op.Result} (stored : ¬ Starting past)
      (unlike : ∀ transport port tunnelId agentId sender,
        op ≠ .spawnProxy transport port tunnelId agentId sender) : ¬ Starting (⟨op, result⟩ :: past) := by
    rintro ⟨tunnelId, handle, ⟨transport, port, agentId, sender, did⟩, unstored⟩
    rcases did_cons.mp did with new | old
    · exact unlike _ _ _ _ _ (congrArg Sigma.fst new).symm
    · exact stored ⟨tunnelId, handle, ⟨_, _, _, _, old⟩, fun did => unstored (List.mem_cons_of_mem _ did)⟩
  simp only [startTunnelListener, stopTunnelListener, bind_eq, pure_eq, obeys_bind, obeys_guarded, true_and]
  refine ⟨trivial, fun _ => ⟨trivial, fun _ => ⟨trivial, fun bound => ?_⟩⟩⟩
  have entered := @other past (.enterStartTunnelListener tunnel sender) () stored (by simp)
  have removed := @other _ (.removeTunnelTask tunnel.id) () entered (by simp)
  have before := @other _ (.bind (transportOf tunnel.protocol) tunnel.publicPort) bound removed (by simp)
  cases bound with
  | error error => exact before
  | ok _ =>
      refine ⟨trivial, fun handle => ?_⟩
      simp only [obeys_done, obeys_bind, obeys_guarded, true_and]
      refine ⟨trivial, fun _ => ?_⟩
      rintro ⟨tunnelId, other, ⟨transport, port, agentId, sender', did⟩, unstored⟩
      rcases did_cons.mp did with ⟨⟨⟩⟩ | spawned
      rcases did_cons.mp spawned with ⟨⟨⟩⟩ | old
      · exact unstored List.mem_cons_self
      · refine before ⟨tunnelId, other, ⟨_, _, _, _, old⟩, fun did => unstored ?_⟩
        exact List.mem_cons_of_mem _ (List.mem_cons_of_mem _ did)

/-- Every handle the task has been given is one it has stored. -/
def storesAll (past : Past) : Bool :=
  past.all fun event =>
    match event with
    | ⟨.spawnProxy _ _ tunnelId _ _, handle⟩ => past.any fun other =>
        match other with
        | ⟨.insertTunnelTask tunnelId' handle', _⟩ => tunnelId' == tunnelId && handle' == handle
        | _ => false
    | _ => true

omit [Externals] in
theorem not_starting {past : Past} (all : storesAll past = true) : ¬ Starting past := by
  rintro ⟨tunnelId, handle, ⟨transport, port, agentId, sender, did⟩, unstored⟩
  have stored := List.all_eq_true.mp all _ did
  simp only [List.any_eq_true] at stored
  obtain ⟨event, member, same⟩ := stored
  split at same
  · simp only [Bool.and_eq_true, beq_iff_eq] at same
    obtain ⟨rfl, rfl⟩ := same
    exact unstored member
  · contradiction

/-- Every live listener task has its handle in the table or on its way to it. -/
structure Handled (config : Config process) : Prop where
  numbered : ∀ thread ∈ config.threads, ∀ tunnelId handle,
    ((∃ transport port agentId sender,
      Did thread.past (.spawnProxy transport port tunnelId agentId sender) handle) ∨
        Did thread.past (.insertTunnelTask tunnelId handle) ()) → handle.task < config.state.world.spawned
  listeners : ∀ task listener, config.state.proxies.listeners task = some listener →
    task < config.state.world.spawned
  handled : ∀ task listener, config.state.proxies.listeners task = some listener →
    listener.aborted = false →
      (∃ handle, config.state.world.tunnelTasks listener.tunnelId = some handle ∧ handle.task = task) ∨
      ∃ thread ∈ config.threads, ∃ handle, Unstored thread.past listener.tunnelId handle ∧ handle.task = task

variable {allowed : Condition process} {portRange : UInt16 × UInt16}

/-- A call of the process is a call of a handler. -/
theorem called_serves {before after : Config process} {task : Nat} {thread : Thread process}
    {choice : Choice} {op : Op} {result : op.Result} (lawful : before.Lawful processContract)
    (called : Called before task thread choice op result after) :
    ∃ job world, thread.job = .serve job ∧ discipline job thread.past thread.held (.call op) ∧
      exec before.state.world choice op = some (world, result) ∧
      after.state = ⟨world, before.state.proxies.after before.state.world op⟩ := by
  obtain ⟨⟨world, answer⟩, executed, same⟩ := Option.map_eq_some_iff.mp called.executed
  obtain ⟨state, rfl⟩ := Prod.mk.inj same
  have law := called.law lawful
  cases job : thread.job with
  | serve served =>
      rw [job] at law
      exact ⟨served, world, rfl, law, executed, state.symm⟩
  | proxy action =>
      rw [job] at law
      exact law.elim

theorem Handled.call {before after : Config process} {task : Nat} {thread : Thread process}
    {choice : Choice} {op : Op} {result : op.Result} (handled : Handled before)
    (lawful : before.Lawful processContract) (free : storesFree before thread choice op = true)
    (called : Called before task thread choice op result after) : Handled after := by
  obtain ⟨job, world, _, law, executed, state⟩ := called_serves lawful called
  obtain ⟨self, found, _, _, past⟩ := called.self
  have spawned := exec_spawned executed
  have grows : before.state.world.spawned ≤ world.spawned := by
    rw [spawned]
    split <;> omega
  have member := called.member
  refine ⟨?_, ?_, ?_⟩
  · intro other listed tunnelId handle did
    rw [state]
    obtain ⟨index, there⟩ := List.mem_iff_getElem?.mp listed
    rcases called.origin there with ⟨rfl, _, _, past'⟩ | ⟨_, old⟩
    · rw [past'] at did
      rcases did with ⟨transport, port, agentId, sender, did⟩ | did
      · rcases did_cons.mp did with ⟨⟨⟩⟩ | earlier
        · cases executed
          exact Nat.lt_succ_self _
        · exact Nat.lt_of_lt_of_le (handled.numbered thread member tunnelId handle
            (.inl ⟨_, _, _, _, earlier⟩)) grows
      · rcases did_cons.mp did with ⟨⟨⟩⟩ | earlier
        · obtain ⟨_, _, _, _, _, made, _⟩ := (law.2.2.general fun _ => id).1
          exact Nat.lt_of_lt_of_le (handled.numbered thread member tunnelId handle
            (.inl ⟨_, _, _, _, made⟩)) grows
        · exact Nat.lt_of_lt_of_le (handled.numbered thread member tunnelId handle (.inr earlier)) grows
    · exact Nat.lt_of_lt_of_le (handled.numbered other (List.mem_of_getElem? old) tunnelId handle did) grows
  · intro number listener there
    rw [state] at there ⊢
    rcases Proxies.after_listeners there with ⟨_, _, _, _, _, rfl, rfl, _⟩ | ⟨old, known, _⟩
    · rw [spawned]
      exact Nat.lt_succ_self _
    · exact Nat.lt_of_lt_of_le (handled.listeners number old known) grows
  · intro number listener there running
    rw [state] at there ⊢
    rcases Proxies.after_listeners there with ⟨_, _, tunnelId, _, _, rfl, rfl, rfl⟩ | ⟨old, known, alike, still⟩
    · cases executed
      refine .inr ⟨self, List.mem_of_getElem? found, _, ⟨⟨_, _, _, _, past ▸ List.mem_cons_self⟩, ?_⟩, rfl⟩
      intro did
      rw [past] at did
      rcases did_cons.mp did with ⟨⟨⟩⟩ | earlier
      exact Nat.lt_irrefl _ (handled.numbered thread member _ _ (.inr earlier))
    · obtain ⟨unaborted, kept⟩ := still running
      have named : listener.tunnelId = old.tunnelId := by rw [alike]
      rw [named]
      rcases handled.handled number old known unaborted with ⟨handle, stored, numbered⟩ |
        ⟨storer, there', handle, unstored, numbered⟩
      · refine .inl ⟨handle, ?_, numbered⟩
        rw [exec_tunnelTasks executed]
        cases op with
        | removeTunnelTask tunnelId =>
            have apart : old.tunnelId ≠ tunnelId := by
              rintro rfl
              exact kept _ handle rfl stored numbered
            exact (Function.update_of_ne apart ..).trans stored
        | insertTunnelTask tunnelId _ =>
            have apart : old.tunnelId ≠ tunnelId := by
              rintro rfl
              -- The handle stored belongs to a live task, so it is not overwritten.
              have busy : before.state.proxies.live handle.task = true := by
                simp [Proxies.live, numbered, known, unaborted]
              simp [storesFree, stored, busy] at free
            exact (Function.update_of_ne apart ..).trans stored
        | _ => exact stored
      · obtain ⟨index, there''⟩ := List.mem_iff_getElem?.mp there'
        by_cases here : index = task
        · subst here
          rw [called.found, Option.some.injEq] at there''
          subst there''
          by_cases stores : op = .insertTunnelTask old.tunnelId handle
          · subst stores
            refine .inl ⟨handle, ?_, numbered⟩
            rw [exec_tunnelTasks executed]
            exact Function.update_self ..
          · obtain ⟨⟨transport, port, agentId, sender, did⟩, unstored⟩ := unstored
            refine .inr ⟨self, List.mem_of_getElem? found, handle, ⟨⟨transport, port, agentId, sender, ?_⟩, ?_⟩,
              numbered⟩
            · rw [past]
              exact List.mem_cons_of_mem _ did
            · rw [past, did_cons, not_or]
              exact ⟨fun same => stores (congrArg Sigma.fst same).symm, unstored⟩
        · exact .inr ⟨storer, List.mem_of_getElem? (called.other there'' here), handle, unstored, numbered⟩

theorem Handled.quiet {before after : Config process} (handled : Handled before)
    (same : before.SameTasks after) (tasks : after.state.world.tunnelTasks = before.state.world.tunnelTasks)
    (spawned : after.state.world.spawned = before.state.world.spawned)
    (listeners : ∀ task later, after.state.proxies.listeners task = some later →
      ∃ listener, before.state.proxies.listeners task = some listener ∧ listener.Alike later) :
    Handled after := by
  refine ⟨?_, ?_, ?_⟩
  · intro thread member tunnelId handle did
    have some : ∃ event, event ∈ thread.past := by
      rcases did with ⟨_, _, _, _, did⟩ | did
      · exact ⟨_, did⟩
      · exact ⟨_, did⟩
    obtain ⟨event, happened⟩ := some
    obtain ⟨old, there, _, past⟩ := same.of_mem member happened
    rw [spawned]
    exact handled.numbered old there tunnelId handle (past ▸ did)
  · intro task later there
    obtain ⟨listener, known, _⟩ := listeners task later there
    exact spawned ▸ handled.listeners task listener known
  · intro task later there running
    obtain ⟨listener, known, alike⟩ := listeners task later there
    rw [tasks, alike.tunnelId]
    rcases handled.handled task listener known (alike.aborted ▸ running) with stored |
      ⟨thread, member, handle, unstored, numbered⟩
    · exact .inl stored
    · obtain ⟨other, listed, _, past⟩ := same.mem member
      exact .inr ⟨other, listed, handle, past ▸ unstored, numbered⟩

theorem Runs.handled {config : Config process}
    (runs : Runs storesFree.condition portRange config) : Handled config := by
  refine Reachable.track ?_ ?_ ?_ ?_ runs
  · exact ⟨fun _ member => by contradiction, fun _ _ there => by contradiction,
      fun _ _ there => by contradiction⟩
  · intro before after task thread choice op result earlier handled permitted called
    exact handled.call (Runs.lawful earlier) (Check.holds permitted called) called
  · rintro before after handled same (state | ⟨job, admitted⟩)
    · exact handled.quiet same (by rw [state]) (by rw [state]) fun task later there =>
        ⟨later, by rwa [state] at there, .refl⟩
    · cases job with
      | serve job =>
          obtain ⟨world, accepted, state⟩ := Option.map_eq_some_iff.mp admitted
          obtain ⟨sessions, rfl⟩ := accept_same accepted
          exact handled.quiet same (by rw [← state]) (by rw [← state]) fun task later there =>
            ⟨later, by rwa [← state] at there, .refl⟩
      | proxy action =>
          obtain ⟨⟨world, proxies⟩, performed, state⟩ := Option.map_eq_some_iff.mp admitted
          obtain ⟨sent, tcpConnSenders, drawn, rfl⟩ := Proxies.perform_world performed
          refine handled.quiet same (by rw [← state]) (by rw [← state]) fun task later there => ?_
          rw [← state] at there
          exact Proxies.perform_listeners performed there
  · exact fun _ => ⟨fun _ member => by contradiction, fun _ _ there => by contradiction,
      fun _ _ there => by contradiction⟩

end Runs

/-- A request for the tunnel to be of another protocol. -/
def webUpdate (protocol : String) : UpdateTunnelRequest where
  name := "web"
  localPort := 80
  protocol := protocol
  subdomain := none

end TunnelitRelay
