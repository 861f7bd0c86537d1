import TunnelitRelay.Concurrent.Simulation
import TunnelitRelay.DedicatedPorts
import TunnelitRelay.Footprints
import TunnelitRelay.Metering

namespace TunnelitRelay

open Concurrent Program

/-! # The handlers within the process, the process within the host

The proxies, the listings and the counters share the state with the handlers,
and take locks that the handlers take.  None of this lets a handler see anything
that it could not see in a relay in which there are only handlers.
-/

/-- What the handlers tell the agents; everything else comes from the proxies. -/
def RelayMessage.fromHandler : RelayMessage → Bool
  | .newConnection .. | .data .. | .closeConnection _ => false
  | _ => true

/-- The world with the proxies at work is that without them, apart from their
messages, their connections and the identifiers they have drawn. -/
structure Behind (world shared : World) : Prop where
  same : ∃ sent tcpConnSenders queued drawn, shared = { world with sent, tcpConnSenders, queued, drawn }
  drawn : world.drawn ⊆ shared.drawn
  told : ∀ channel, (shared.sent channel).filter RelayMessage.fromHandler =
    (world.sent channel).filter RelayMessage.fromHandler

theorem Behind.refl (world : World) : Behind world world :=
  ⟨⟨_, _, _, _, rfl⟩, List.Subset.refl _, fun _ => rfl⟩

theorem Behind.trans {first middle last : World} (left : Behind first middle) (right : Behind middle last) :
    Behind first last := by
  obtain ⟨_, _, _, _, rfl⟩ := left.same
  obtain ⟨_, _, _, _, rfl⟩ := right.same
  exact ⟨⟨_, _, _, _, rfl⟩, List.Subset.trans left.drawn right.drawn, fun channel => (right.told channel).trans (left.told channel)⟩

theorem Behind.draw (world : World) (id : Uuid) : Behind world (world.draw id) :=
  ⟨⟨_, _, _, _, rfl⟩, List.subset_cons_self _ _, fun _ => rfl⟩

theorem Behind.setConnSender (world : World) (connId : Uuid) (there : Bool) :
    Behind world (world.setConnSender connId there) :=
  ⟨⟨_, _, _, _, rfl⟩, List.Subset.refl _, fun _ => rfl⟩

/-- Handing the channels the same message keeps the messages of the handlers alike. -/
theorem told_send {sent sent' : Channel → List RelayMessage} {sender channel : Channel} {message : RelayMessage}
    (told : ∀ channel, (sent' channel).filter RelayMessage.fromHandler = (sent channel).filter RelayMessage.fromHandler) :
    (Function.update sent' sender (sent' sender ++ [message]) channel).filter RelayMessage.fromHandler =
      (Function.update sent sender (sent sender ++ [message]) channel).filter RelayMessage.fromHandler := by
  by_cases here : channel = sender
  · subst here
    simp only [Function.update_self, List.filter_append, told]
  · simp only [Function.update_of_ne here, told]

theorem Behind.offer {message : RelayMessage} (world : World) (proxies : Proxies) (sender : Channel)
    (foreign : message.fromHandler = false) : Behind world (world.offer proxies sender message) := by
  unfold World.offer
  split
  · exact .refl world
  · refine ⟨⟨_, _, _, _, rfl⟩, List.Subset.refl _, fun channel => ?_⟩
    by_cases here : channel = sender
    · subst here
      simp [foreign]
    · simp [Function.update_of_ne here]

section Runs

variable [Externals] {portRange : UInt16 × UInt16}

/-- An action of a proxy is nothing that a handler could see. -/
theorem Proxies.perform_behind {world world' : World} {proxies proxies' : Proxies} {action : ProxyAction}
    (performed : proxies.perform world action = some (world', proxies')) : Behind world world' := by
  unfold Proxies.perform at performed
  split at performed
  · cases performed
    exact .refl world
  · split at performed
    · split at performed
      · unfold Proxies.listen at performed
        split at performed <;> (repeat' split at performed) <;> cases performed
        all_goals first
          | exact .refl world
          | exact .draw world _
          | exact .setConnSender world _ _
          | exact .offer world _ _ rfl
          | exact (Behind.draw world _).trans (.offer _ _ _ rfl)
      · contradiction
    · split at performed
      · split at performed
        · split at performed
          · unfold Proxies.serveTcp at performed
            split at performed <;> (repeat' split at performed) <;> cases performed
            all_goals first
              | exact .refl world
              | exact .setConnSender world _ _
              | exact .offer world _ _ rfl
          · unfold Proxies.serveUdp at performed
            split at performed <;> (repeat' split at performed) <;> cases performed
            all_goals first
              | exact .refl world
              | exact .setConnSender world _ _
        · contradiction
      · contradiction

/-- An operation of a handler has the same result with the proxies at work and without them. -/
theorem Behind.exec {world shared after : World} {choice : Choice} {op : Op} {result : op.Result}
    (behind : Behind world shared) (executed : exec shared choice op = some (after, result)) :
    ∃ later, TunnelitRelay.exec world choice op = some (later, result) ∧ Behind later after := by
  obtain ⟨⟨sent, tcpConnSenders, queued, drawn, rfl⟩, grows, told⟩ := behind
  cases op
  case db query =>
    simp only [TunnelitRelay.exec] at executed ⊢
    split at executed
    · rename_i fresh
      cases executed
      have unused : (query.draws choice).all (· ∉ world.drawn) = true := by
        simp only [List.all_eq_true, decide_eq_true_eq] at fresh ⊢
        exact fun id member old => fresh.2 id member (grows old)
      rw [if_pos ⟨fresh.1, unused⟩]
      refine ⟨_, rfl, ⟨_, _, _, _, rfl⟩, ?_, told⟩
      exact List.append_subset.mpr ⟨List.subset_append_left _ _, List.Subset.trans grows (List.subset_append_right _ _)⟩
    · contradiction
  case newUuid =>
    simp only [TunnelitRelay.exec] at executed ⊢
    split at executed
    · contradiction
    · rename_i fresh
      cases executed
      rw [if_neg fun old => fresh (grows old)]
      exact ⟨_, rfl, ⟨_, _, _, _, rfl⟩, List.cons_subset_cons _ grows, told⟩
  case send sender message =>
    cases executed
    exact ⟨_, rfl, ⟨_, _, _, _, rfl⟩, grows, fun channel => told_send told⟩
  case allocatePort preferred =>
    simp only [TunnelitRelay.exec] at executed ⊢
    have same (port : Option UInt16) (found : AppState.allocatePort { world.toAppState with tcpConnSenders } preferred = port) :
        world.allocatePort preferred = port := found
    split at executed <;> cases executed <;> rename_i found <;> rw [same _ found] <;>
      exact ⟨_, rfl, ⟨_, _, _, _, rfl⟩, grows, told⟩
  case bind transport port =>
    simp only [TunnelitRelay.exec] at executed ⊢
    split at executed <;> cases executed <;> exact ⟨_, rfl, ⟨_, _, _, _, rfl⟩, grows, told⟩
  case enqueueData connId data =>
    simp only [TunnelitRelay.exec] at executed ⊢
    split at executed <;> cases executed <;> split <;> exact ⟨_, rfl, ⟨_, _, _, _, rfl⟩, grows, told⟩
  case sessionLocals session =>
    simp only [TunnelitRelay.exec] at executed ⊢
    split at executed
    · cases executed
      exact ⟨_, rfl, ⟨_, _, _, _, rfl⟩, grows, told⟩
    · contradiction
  all_goals
    cases executed
    exact ⟨_, rfl, ⟨_, _, _, _, rfl⟩, grows, told⟩

omit [Externals] in
theorem Behind.accept {world shared after : World} {job : Job} (behind : Behind world shared)
    (admitted : accept shared job = some after) :
    ∃ later, TunnelitRelay.accept world job = some later ∧ Behind later after := by
  obtain ⟨⟨sent, tcpConnSenders, queued, drawn, rfl⟩, grows, told⟩ := behind
  cases job
  case connect session =>
    simp only [TunnelitRelay.accept] at admitted ⊢
    cases found : world.sessions session with
    | some => simp only [found, reduceCtorEq] at admitted
    | none =>
        simp only [found] at admitted
        cases admitted
        exact ⟨_, rfl, ⟨_, _, _, _, rfl⟩, grows, told⟩
  case frame session frame =>
    simp only [TunnelitRelay.accept] at admitted ⊢
    cases found : world.sessions session with
    | none => simp only [found, reduceCtorEq] at admitted
    | some locals =>
        simp only [found] at admitted ⊢
        split at admitted
        · rename_i idle
          cases admitted
          exact ⟨_, if_pos idle, ⟨_, _, _, _, rfl⟩, grows, told⟩
        · contradiction
  all_goals
    cases admitted
    exact ⟨_, rfl, ⟨_, _, _, _, rfl⟩, grows, told⟩

/-! ## The handlers within the process -/

/-- The job of the handlers, if it is one. -/
def Work.job : Work → Option Job
  | .serve job => some job
  | .proxy _ => none

/-- The process as seen by the handlers. -/
def handlersWithin : Simulation (.refl relaySignature) relay process where
  Relates := fun world state => Behind world state.world
  shown := Work.job
  reply := id
  silent := fun _ => False
  program := fun {work job} visible => by
    cases work with
    | serve => 
        cases visible
        exact embed_refl.symm
    | proxy => contradiction
  hidden := fun {work} unseen => by
    cases work with
    | serve => contradiction
    | proxy => trivial
  admits := fun {_ state _ work _} behind visible admitted => by
    cases work with
    | serve =>
        cases visible
        obtain ⟨world, accepted, rfl⟩ := Option.map_eq_some_iff.mp admitted
        exact behind.accept accepted
    | proxy => contradiction
  ignores := fun {_ _ _ work} behind unseen admitted => by
    cases work with
    | serve => contradiction
    | proxy =>
        obtain ⟨_, performed, rfl⟩ := Option.map_eq_some_iff.mp admitted
        exact behind.trans (Proxies.perform_behind performed)
  performs := fun {_ _ choice _ _ _} behind executed => by
    obtain ⟨_, performed, same⟩ := Option.map_eq_some_iff.mp executed
    cases same
    obtain ⟨later, executes, still⟩ := behind.exec performed
    exact ⟨choice, later, executes, still⟩
  unseen := fun _ never _ => never.elim
  reboots := fun {world state} behind => by
    obtain ⟨⟨_, _, _, _, same⟩, grows, _⟩ := behind
    simp only [same] at grows ⊢
    exact ⟨⟨_, _, _, _, rfl⟩, grows, fun _ => rfl⟩

/-- A relay in which there are only handlers is a process whose proxies never move. -/
def handlersAlone : Simulation (.refl relaySignature) process relay where
  Relates := fun state world => state.world = world
  shown := fun job => some (.serve job)
  reply := id
  silent := fun _ => False
  program := fun visible => by
    cases visible
    exact embed_refl.symm
  hidden := fun unseen => by contradiction
  admits := fun same visible admitted => by
    subst same
    cases visible
    exact ⟨_, Option.map_eq_some_iff.mpr ⟨_, admitted, rfl⟩, rfl⟩
  ignores := fun _ unseen _ => by contradiction
  performs := fun {_ _ choice _ _ _} same executed => by
    subst same
    exact ⟨choice, _, Option.map_eq_some_iff.mpr ⟨_, executed, rfl⟩, rfl⟩
  unseen := fun _ never _ => never.elim
  reboots := fun same => congrArg World.reboot same

/-! ## The process within the host -/

/-- The operations of the host that only read. -/
def HostOp.reads : HostOp → Bool
  | .relay (.userSession _) | .relay (.isAdminSession _) | .relay (.db (.getUserById _))
  | .relay (.db (.listAgentsForUser _)) | .relay (.db (.listTunnelsForUser _))
  | .listAllUsers | .listAllAgents | .listAllTunnels | .liveTraffic => true
  | _ => false

theorem HostOp.reads_same {state after : HostState} {choice : Choice} {op : HostOp} {result : op.Result}
    (reads : op.reads = true) (executed : HostState.exec state choice op = some (after, result)) : after = state := by
  unfold HostOp.reads at reads
  split at reads
  case h_10 => contradiction
  all_goals
    cases executed
    rfl

/-- The work of a visit, if it is not one that only reads. -/
def Visit.process : Visit → Option Work
  | .work job => some job
  | _ => none

/-- A request that only reads performs nothing else. -/
theorem Visit.listing_reads {visit : Visit} (unseen : visit.process = none) :
    visit.program.Avoids fun op : HostOp => ¬ op.reads = true := by
  have caller (headers : HeaderMap) : (fromRelay (getCurrentUserId headers)).Avoids fun op : HostOp => ¬ op.reads = true :=
    .embed (getCurrentUserId_within fun _ => not_not.mpr rfl)
  have admin (headers : HeaderMap) : (fromRelay (isAdmin headers)).Avoids fun op : HostOp => ¬ op.reads = true :=
    .embed (isAdmin_within fun _ => not_not.mpr rfl)
  have direct {op : HostOp} {lock : HostLock} {mode : Mode} (reads : op.reads = true) :
      (withHostLock lock mode (hostAccess op)).Avoids fun op : HostOp => ¬ op.reads = true :=
    .guarded (avoids_perform.mpr (not_not.mpr reads))
  cases visit with
  | work => contradiction
  | getMe headers =>
      refine (caller headers).bind fun user => ?_
      cases user with
      | none => trivial
      | some userId =>
          refine .bind (.embed (query_within (not_not.mpr rfl))) fun answer => ?_
          rcases answer with failure | user
          · trivial
          · cases user <;> trivial
  | adminListUsers headers =>
      refine (admin headers).bind fun allowed => ?_
      cases allowed with
      | false => trivial
      | true =>
          refine .bind (direct rfl) fun answer => ?_
          cases answer <;> trivial
  | listAgents headers =>
      refine (admin headers).bind fun allowed => (caller headers).bind fun user => ?_
      cases allowed with
      | true => exact .bind (direct rfl) fun _ => trivial
      | false =>
          cases user with
          | none => trivial
          | some userId => exact .bind (.embed (query_within (not_not.mpr rfl))) fun _ => trivial
  | listTunnels headers =>
      refine (admin headers).bind fun allowed => (caller headers).bind fun user => ?_
      cases allowed with
      | true => exact .bind (direct rfl) fun _ => trivial
      | false =>
          cases user with
          | none => trivial
          | some userId => exact .bind (.embed (query_within (not_not.mpr rfl))) fun _ => trivial
  | getLiveStats => exact .bind (direct rfl) fun _ => trivial

/-- The host as seen by the process. -/
def processWithin : Simulation intoHost process host where
  Relates := fun process state => state.process = process
  shown := Visit.process
  reply := .relay
  silent := fun op => op.reads = true
  program := fun {visit _} visible => by
    cases visit with
    | work =>
        cases visible
        rfl
    | _ => contradiction
  hidden := fun {visit} unseen => by
    cases visit with
    | work => contradiction
    | _ => exact Visit.listing_reads unseen
  admits := fun {_ state _ visit _} same visible admitted => by
    subst same
    cases visit with
    | work work =>
        cases work <;> cases visible <;> obtain ⟨process, accepted, rfl⟩ := Option.map_eq_some_iff.mp admitted <;>
          exact ⟨process, accepted, rfl⟩
    | _ => contradiction
  ignores := fun {_ _ _ visit} same unseen admitted => by
    cases visit with
    | work => contradiction
    | _ =>
        cases admitted
        exact same
  performs := fun {_ _ choice _ _ _} same executed => by
    subst same
    obtain ⟨_, performed, same⟩ := Option.map_eq_some_iff.mp executed
    cases same
    exact ⟨choice, _, performed, rfl⟩
  unseen := fun same reads executed => by
    rw [HostOp.reads_same reads executed]
    exact same
  reboots := fun same => by
    subst same
    rfl

/-- The work of a labor, if it is not one of the counters' steps. -/
def Labor.process : Labor → Option Work
  | .work job => some job
  | _ => none

/-- The process with its counters, as seen by the process. -/
def unmetered : Simulation (.refl relaySignature) process metered where
  Relates := fun process state => state.process = process
  shown := Labor.process
  reply := id
  silent := fun _ => False
  program := fun {labor _} visible => by
    cases labor with
    | work =>
        cases visible
        exact embed_refl.symm
    | _ => contradiction
  hidden := fun {labor} unseen => by
    cases labor with
    | work => contradiction
    | _ => trivial
  admits := fun {_ state _ labor _} same visible admitted => by
    subst same
    cases labor with
    | work work =>
        cases work with
        | serve =>
            cases visible
            obtain ⟨process, accepted, rfl⟩ := Option.map_eq_some_iff.mp admitted
            exact ⟨process, accepted, rfl⟩
        | proxy =>
            cases visible
            simp only [Metered.accept] at admitted
            split at admitted
            · obtain ⟨process, accepted, rfl⟩ := Option.map_eq_some_iff.mp admitted
              exact ⟨process, accepted, rfl⟩
            · contradiction
    | _ => contradiction
  ignores := fun {_ _ _ labor} same unseen admitted => by
    cases labor with
    | work => contradiction
    | _ =>
        simp only [Metered.accept] at admitted
        (repeat' split at admitted) <;> cases admitted
        exact same
  performs := fun {_ _ choice _ _ _} same executed => by
    subst same
    obtain ⟨_, performed, same⟩ := Option.map_eq_some_iff.mp executed
    cases same
    exact ⟨choice, _, performed, rfl⟩
  unseen := fun _ never _ => never.elim
  reboots := fun same => by
    subst same
    rfl

/-! ## What every run of the host is -/

def HostState.initial (portRange : UInt16 × UInt16) : HostState :=
  { process := Process.initial portRange, liveTraffic := fun _ => none }

theorem Runs.handlers {config : Config process} (runs : Runs anyStep portRange config) :
    ∃ shown, Reached anyStep portRange shown ∧ handlersWithin.Related shown config := by
  have starts : handlersWithin.Relates (World.initial portRange Database.empty []) (Process.initial portRange) :=
    .refl _
  exact handlersWithin.refines starts runs

theorem Reached.alone {shown : Config relay} (reached : Reached anyStep portRange shown) :
    ∃ config, Runs anyStep portRange config ∧ handlersAlone.Related config shown := by
  have starts : handlersAlone.Relates (Process.initial portRange) (World.initial portRange Database.empty []) := rfl
  exact handlersAlone.refines starts reached

theorem HostState.initial_within {config : Config host} (reached : Reachable anyStep (HostState.initial portRange) config) :
    ∃ between, Runs anyStep portRange between ∧ processWithin.Related between config := by
  have starts : processWithin.Relates (Process.initial portRange) (HostState.initial portRange) := rfl
  exact processWithin.refines starts reached

theorem Metered.initial_within {config : Config metered} (reached : Reachable anyStep (Metered.initial portRange) config) :
    ∃ between, Runs anyStep portRange between ∧ unmetered.Related between config := by
  have starts : unmetered.Relates (Process.initial portRange) (Metered.initial portRange) := rfl
  exact unmetered.refines starts reached

/-- Whatever the proxies do, the handlers take part in a run of a relay that has
only handlers, and every run of such a relay is one of the process. -/
theorem handlers_unaffected :
    (∀ config, Runs anyStep portRange config →
      ∃ shown, Reached anyStep portRange shown ∧ handlersWithin.Related shown config) ∧
    ∀ shown, Reached anyStep portRange shown →
      ∃ config, Runs anyStep portRange config ∧ handlersAlone.Related config shown :=
  ⟨fun _ runs => runs.handlers, fun _ reached => Reached.alone reached⟩

/-- Listings and counters take no part in what the process does. -/
theorem telemetry_unseen :
    (∀ config, Reachable anyStep (HostState.initial portRange) config →
      ∃ between, Runs anyStep portRange between ∧ processWithin.Related between config) ∧
    ∀ config, Reachable anyStep (Metered.initial portRange) config →
      ∃ between, Runs anyStep portRange between ∧ unmetered.Related between config :=
  ⟨fun _ reached => HostState.initial_within reached, fun _ reached => Metered.initial_within reached⟩

/-- In every run of the whole host the tables, the sessions, the registered
channels and the answers of the handlers are those of a run that has nothing
else in it. -/
theorem host_observed {config : Config host} (reached : Reachable anyStep (HostState.initial portRange) config) :
    ∃ shown, Reached anyStep portRange shown ∧ Behind shown.state config.state.process.world ∧
      ∀ thread' ∈ config.threads, ∀ job reply, thread'.job = .work (.serve job) →
        thread'.rest = .done (.relay reply) → ∃ thread ∈ shown.threads, thread.job = job ∧ thread.rest = .done reply := by
  obtain ⟨between, runs, within⟩ := HostState.initial_within reached
  obtain ⟨shown, alone, related⟩ := runs.handlers
  refine ⟨shown, alone, within.state ▸ related.state, fun thread' member job reply serves ended => ?_⟩
  obtain ⟨middle, there, alike, same⟩ := within.seen member (congrArg Visit.process serves)
  obtain ⟨_, ended, same'⟩ := alike.returned ended
  cases same'
  obtain ⟨thread, mine, alike, same⟩ := related.seen there (congrArg Work.job same)
  obtain ⟨value, ended, rfl⟩ := alike.returned ended
  exact ⟨thread, mine, same, ended⟩

/-- Between two configurations of a run of the whole host every tunnel is on the
dedicated port of its owner, and no user's port changes. -/
theorem host_tenants_apart {first last : Config host} (reached : Reachable anyStep (HostState.initial portRange) first)
    (steps : Steps anyStep first last) :
    OnOwnPorts last.state.process.world.db ∧ TenantsApart last.state.process.world.db ∧
      UsersKept first.state.process.world.db last.state.process.world.db := by
  obtain ⟨between, runs, within⟩ := HostState.initial_within reached
  obtain ⟨shown, alone, related⟩ := runs.handlers
  obtain ⟨between', steps, within'⟩ := within.steps steps
  obtain ⟨shown', steps, related'⟩ := related.steps steps
  obtain ⟨accounts, _⟩ := Reached.onOwnPorts alone
  obtain ⟨later, owned⟩ := Reached.onOwnPorts (Relation.ReflTransGen.trans alone steps)
  obtain ⟨_, _, _, _, same⟩ := related.state.same
  obtain ⟨_, _, _, _, same'⟩ := related'.state.same
  have rows : first.state.process.world.db = shown.state.db := by rw [within.state, same]
  have rows' : last.state.process.world.db = shown'.state.db := by rw [within'.state, same']
  rw [rows, rows']
  exact ⟨owned, .of_owned later owned, (accounts.steps steps).2⟩

end Runs

/-- A host in which a client of Alice's tunnel has sent a byte. -/
theorem host_observed_bob : ∃ first last : Config host, first.state.liveTraffic 6 ≠ last.state.liveTraffic 6 ∧
    ∃ shown, Reached anyStep (10000, 60000) shown ∧ Behind shown.state last.state.process.world ∧
      ∀ thread' ∈ last.threads, ∀ job reply, thread'.job = .work (.serve job) →
        thread'.rest = .done (.relay reply) → ∃ thread ∈ shown.threads, thread.job = job ∧ thread.rest = .done reply := by
  obtain ⟨first, last, _, reached, _, _, traffic⟩ := bob_alike
  exact ⟨first, last, traffic, host_observed reached⟩

theorem host_tenants_apart_bob : ∃ last : Config host, last.state.process.world.db.tunnels.length = 1 ∧
    OnOwnPorts last.state.process.world.db ∧ TenantsApart last.state.process.world.db ∧
      UsersKept newHost.process.world.db last.state.process.world.db := by
  have passed : (host.performAll bobRegistered newHost).any (fun last : HostState =>
      decide (last.process.world.db.tunnels.length = 1)) = true := by decide +kernel
  obtain ⟨last, threads, reached, _, tested⟩ := @System.performAll_check _ host _ _ _ passed
  have starts : Reachable anyStep (HostState.initial (10000, 60000)) (⟨newHost, []⟩ : Config host) := .refl
  exact ⟨⟨last, threads⟩, of_decide_eq_true tested, host_tenants_apart starts reached⟩

end TunnelitRelay
