import TunnelitRelay.AgentClose
import TunnelitRelay.ListenerTasks

namespace TunnelitRelay

open Concurrent

/-! # The clients of one UDP listener

As for a single connection, what a step of the whole process does to a listener
task with its socket, its clients and the messages about them is one of a few
moves of an automaton of its own.
-/

/-- The connection belongs to a UDP client of the listener task. -/
def Proxies.serves (proxies : Proxies) (task : Nat) (connId : Uuid) : Bool :=
  (proxies.connections connId).any fun connection =>
    connection.transport == .udp && connection.listener == task

/-- The messages about connections of a kind. -/
def World.toldAbout (world : World) (serves : Uuid → Bool) (channel : Channel) : List RelayMessage :=
  (world.sent channel).filter (·.about.any serves)

structure Flow where
  listener : Option Listener
  socket : Option Socket
  serves : Uuid → Bool
  told : Channel → List RelayMessage

def Process.flow (state : Process) (task : Nat) : Flow where
  listener := state.proxies.listeners task
  socket := state.proxies.sockets task
  serves := state.proxies.serves task
  told := state.world.toldAbout (state.proxies.serves task)

namespace Flow

/-- A task that does not exist. -/
def none : Flow where
  listener := .none
  socket := .none
  serves := fun _ => false
  told := fun _ => []

/-- A message about one of the clients, on a channel whose receiver may be gone. -/
def tell (flow : Flow) (closed : Channel → Bool) (sender : Channel) (message : RelayMessage) : Flow :=
  if closed sender then flow
  else { flow with told := Function.update flow.told sender (flow.told sender ++ [message]) }

inductive Step [Externals] (closed : Channel → Bool) : Flow → Flow → Prop where
  | same {flow} : Step closed flow flow
  | rebooted {flow} : Step closed flow none
  | spawned {flow : Flow} {transport tunnelId agentId sender} (unserved : flow.serves = fun _ => false)
      (untold : flow.told = fun _ => []) : Step closed flow { flow with
        listener := some (.spawned transport tunnelId agentId sender)
        socket := some { tunnelId, agentSender := sender, received := [], sent := [] } }
  | ended {flow : Flow} : Step closed flow { flow with listener := .none }
  /-- The task keeps its clients and handles no datagram. -/
  | moved {flow : Flow} {listener later : Listener} (there : flow.listener = some listener)
      (sender : later.agentSender = listener.agentSender) (tunnel : later.tunnelId = listener.tunnelId)
      (addrs : later.addrToConn = listener.addrToConn) (conns : later.connToAddr = listener.connToAddr)
      (stage : later.stage = listener.stage ∨
        (∀ connId bytes, listener.stage ≠ .forwarding connId bytes) ∧
        ∀ connId bytes, later.stage ≠ .forwarding connId bytes)
      (reply : ∀ connId addr data, later.stage = .replying connId addr data →
        listener.stage = later.stage ∨ (connId, addr) ∈ listener.connToAddr) :
      Step closed flow { flow with listener := some later }
  | received {flow : Flow} {listener : Listener} {addr connId bytes} (there : flow.listener = some listener)
      (waiting : listener.stage = .waiting) (known : (addr, connId) ∈ listener.addrToConn) :
      Step closed flow { flow with
        listener := some { listener with stage := .forwarding connId bytes }
        socket := flow.socket.map (·.receive addr bytes) }
  | introduced {flow : Flow} {listener : Listener} {addr connId bytes} (there : flow.listener = some listener)
      (waiting : listener.stage = .waiting) (new : flow.serves connId = false)
      (missing : addr ∉ listener.addrToConn.map Prod.fst) :
      Step closed flow (tell { flow with
        listener := some { listener with
          stage := .forwarding connId bytes
          addrToConn := (addr, connId) :: listener.addrToConn
          connToAddr := (connId, addr) :: listener.connToAddr }
        socket := flow.socket.map (·.receive addr bytes)
        serves := Function.update flow.serves connId true } closed listener.agentSender
          (.newConnection listener.tunnelId connId))
  | forwarded {flow : Flow} {listener : Listener} {connId bytes} (there : flow.listener = some listener)
      (stage : listener.stage = .forwarding connId bytes) (served : flow.serves connId = true) :
      Step closed flow (tell { flow with listener := some { listener with stage := .checking } } closed
        listener.agentSender (.data connId (encodeBase64 bytes)))
  | replied {flow : Flow} {listener : Listener} {connId addr data} (there : flow.listener = some listener)
      (stage : listener.stage = .replying connId addr data) :
      Step closed flow { flow with
        listener := some { listener with stage := .checking }
        socket := flow.socket.map (·.send connId addr data) }

end Flow

/-! ## The parts of a flow -/

section Parts

variable {world : World} {proxies others : Proxies} {task acting : Nat} {connId : Uuid}

theorem serves_setConnection {connection later : Connection}
    (known : proxies.connections connId = some connection) (alike : connection.Alike later) :
    (proxies.setConnection connId later).serves task = proxies.serves task := by
  funext other
  by_cases here : other = connId
  · subst here
    simp [Proxies.serves, Proxies.setConnection, known, alike.transport, alike.listener]
  · simp [Proxies.serves, Proxies.setConnection, Function.update_of_ne here]

/-- A connection that is no UDP client of the task. -/
theorem serves_insert {connection : Connection} (absent : proxies.connections connId = none)
    (foreign : connection.transport = .tcp ∨ connection.listener ≠ task) :
    (proxies.setConnection connId connection).serves task = proxies.serves task := by
  funext other
  by_cases here : other = connId
  · subst here
    rcases foreign with tcp | elsewhere
    · simp [Proxies.serves, Proxies.setConnection, absent, tcp]
    · simp [Proxies.serves, Proxies.setConnection, absent, elsewhere]
  · simp [Proxies.serves, Proxies.setConnection, Function.update_of_ne here]

theorem serves_introduce {connection : Connection} (udp : connection.transport = .udp)
    (own : connection.listener = task) :
    (proxies.setConnection connId connection).serves task =
      Function.update (proxies.serves task) connId true := by
  funext other
  by_cases here : other = connId
  · subst here
    simp [Proxies.serves, Proxies.setConnection, udp, own]
  · simp [Proxies.serves, Proxies.setConnection, Function.update_of_ne here]

theorem serves_of {connection : Connection} (known : proxies.connections connId = some connection) :
    proxies.serves task connId = (connection.transport == .udp && connection.listener == task) := by
  simp [Proxies.serves, known]

theorem toldAbout_offer {serves : Uuid → Bool} {sender : Channel} {message : RelayMessage} :
    (world.offer others sender message).toldAbout serves =
      if message.about.any serves = true ∧ others.closed sender = false then
        Function.update (world.toldAbout serves) sender (world.toldAbout serves sender ++ [message])
      else world.toldAbout serves := by
  funext channel
  cases closed : others.closed sender with
  | true => simp [World.offer, closed]
  | false =>
      by_cases here : channel = sender
      · subst here
        by_cases about : message.about.any serves = true
        · simp [World.offer, closed, World.toldAbout, about]
        · simp [World.offer, closed, World.toldAbout, about]
      · by_cases about : message.about.any serves = true
        · simp [World.offer, closed, World.toldAbout, about, Function.update_of_ne here]
        · simp [World.offer, closed, World.toldAbout, about, Function.update_of_ne here]

theorem toldAbout_insert {serves : Uuid → Bool} {channel : Channel}
    (unused : world.messagesAbout connId channel = []) :
    world.toldAbout (Function.update serves connId true) channel = world.toldAbout serves channel := by
  refine List.filter_congr fun message member => ?_
  have about : message.about ≠ some connId := fun same =>
    List.filter_eq_nil_iff.mp unused message member (by simp [same])
  cases known : message.about with
  | none => rfl
  | some other =>
      have elsewhere : other ≠ connId := fun same => about (known.trans (congrArg some same))
      simp [Function.update_of_ne elsewhere]

/-- The task is not concerned by what another listener does. -/
theorem flow_other {state : Process} {next : Option Listener} (elsewhere : task ≠ acting)
    (serves : proxies.serves task = state.proxies.serves task)
    (told : world.toldAbout (state.proxies.serves task) = state.world.toldAbout (state.proxies.serves task))
    (listeners : proxies.listeners = Function.update state.proxies.listeners acting next)
    (sockets : proxies.sockets task = state.proxies.sockets task) :
    Process.flow ⟨world, proxies⟩ task = state.flow task := by
  simp only [Process.flow, serves, told, listeners, sockets, Function.update_of_ne elsewhere]

theorem flow_own {state : Process} {next : Option Listener}
    (serves : proxies.serves task = state.proxies.serves task)
    (told : world.toldAbout (state.proxies.serves task) = state.world.toldAbout (state.proxies.serves task))
    (listeners : proxies.listeners = Function.update state.proxies.listeners task next)
    (sockets : proxies.sockets = state.proxies.sockets) :
    Process.flow ⟨world, proxies⟩ task = { state.flow task with listener := next } := by
  simp only [Process.flow, serves, told, listeners, sockets, Function.update_self]

theorem serves_other {task acting : Nat} (served : proxies.serves acting connId = true)
    (elsewhere : task ≠ acting) : proxies.serves task connId = false := by
  obtain ⟨connection, known, own⟩ := (Option.any_eq_true _ _).mp served
  simp only [Bool.and_eq_true, beq_iff_eq] at own
  rw [serves_of known, own.2]
  simp [Ne.symm elsewhere]

theorem toldAbout_silent {serves : Uuid → Bool} {sender : Channel} {message : RelayMessage}
    (silent : message.about.any serves = false) :
    (world.offer others sender message).toldAbout serves = world.toldAbout serves := by
  rw [toldAbout_offer, if_neg (by simp [silent])]

theorem toldAbout_own {serves : Uuid → Bool} {sender : Channel} {message : RelayMessage}
    (about : message.about.any serves = true) :
    (world.offer others sender message).toldAbout serves = (if others.closed sender then
      world.toldAbout serves else
      Function.update (world.toldAbout serves) sender (world.toldAbout serves sender ++ [message])) := by
  rw [toldAbout_offer]
  cases closed : others.closed sender <;> simp [about]

theorem Flow.tell_eq {flow : Flow} {closed : Channel → Bool} {sender : Channel} {message : RelayMessage} :
    flow.tell closed sender message = { flow with
      told := (if closed sender then flow.told
        else Function.update flow.told sender (flow.told sender ++ [message])) } := by
  unfold Flow.tell
  split <;> simp_all

end Parts

/-! ## The process moves flows by their automaton -/

section Process

variable [Externals] {state : Process} {task acting : Nat} {listener : Listener} {world : World}
  {proxies : Proxies} {action : ProxyAction}

/-- The clients in the map of a listener are its own. -/
def Owned (state : Process) : Prop :=
  ∀ task listener, state.proxies.listeners task = some listener → ∀ addr connId,
    (addr, connId) ∈ listener.addrToConn → state.proxies.serves task connId = true

/-- A listener task moves on and keeps its clients. -/
theorem flow_moved {later : Listener} (there : state.proxies.listeners acting = some listener)
    (listeners : proxies.listeners = Function.update state.proxies.listeners acting (some later))
    (serves : proxies.serves task = state.proxies.serves task)
    (told : world.toldAbout (state.proxies.serves task) = state.world.toldAbout (state.proxies.serves task))
    (sockets : proxies.sockets = state.proxies.sockets) (sender : later.agentSender = listener.agentSender)
    (tunnel : later.tunnelId = listener.tunnelId) (addrs : later.addrToConn = listener.addrToConn)
    (conns : later.connToAddr = listener.connToAddr)
    (stage : later.stage = listener.stage ∨ (∀ connId bytes, listener.stage ≠ .forwarding connId bytes) ∧
      ∀ connId bytes, later.stage ≠ .forwarding connId bytes)
    (reply : ∀ connId addr data, later.stage = .replying connId addr data →
      listener.stage = later.stage ∨ (connId, addr) ∈ listener.connToAddr) :
    Flow.Step state.proxies.closed (state.flow task) (Process.flow ⟨world, proxies⟩ task) := by
  by_cases here : task = acting
  · subst here
    rw [flow_own serves told listeners sockets]
    exact .moved there sender tunnel addrs conns stage reply
  · rw [flow_other here serves told listeners (by rw [sockets])]
    exact .same

theorem Process.Sound.flow_listen (sound : state.Sound) (owned : Owned state)
    (there : state.proxies.listeners acting = some listener)
    (performed : state.proxies.listen state.world acting listener action = some (world, proxies)) :
    Flow.Step state.proxies.closed (state.flow task) (Process.flow ⟨world, proxies⟩ task) := by
  have anchored := sound.listeners acting listener there
  have ends (serves : proxies.serves task = state.proxies.serves task)
      (told : world.toldAbout (state.proxies.serves task) = state.world.toldAbout (state.proxies.serves task))
      (listeners : proxies.listeners = Function.update state.proxies.listeners acting none)
      (sockets : proxies.sockets = state.proxies.sockets) :
      Flow.Step state.proxies.closed (state.flow task) (Process.flow ⟨world, proxies⟩ task) := by
    by_cases here : task = acting
    · subst here
      rw [flow_own serves told listeners sockets]
      exact .ended
    · rw [flow_other here serves told listeners (by rw [sockets])]
      exact .same
  have moves {later : Listener} (serves : proxies.serves task = state.proxies.serves task)
      (told : world.toldAbout (state.proxies.serves task) = state.world.toldAbout (state.proxies.serves task))
      (listeners : proxies.listeners = Function.update state.proxies.listeners acting (some later))
      (sockets : proxies.sockets = state.proxies.sockets) (sender : later.agentSender = listener.agentSender)
      (tunnel : later.tunnelId = listener.tunnelId) (addrs : later.addrToConn = listener.addrToConn)
      (conns : later.connToAddr = listener.connToAddr)
      (stage : (∀ connId bytes, listener.stage ≠ .forwarding connId bytes) ∧
        ∀ connId bytes, later.stage ≠ .forwarding connId bytes)
      (reply : ∀ connId addr data, later.stage = .replying connId addr data →
        (connId, addr) ∈ listener.connToAddr) :
      Flow.Step state.proxies.closed (state.flow task) (Process.flow ⟨world, proxies⟩ task) :=
    flow_moved there listeners serves told sockets sender tunnel addrs conns (.inr stage)
      fun connId addr data replies => .inr (reply connId addr data replies)
  have foreign (elsewhere : task ≠ acting) {next : Option Listener}
      (serves : proxies.serves task = state.proxies.serves task)
      (told : world.toldAbout (state.proxies.serves task) = state.world.toldAbout (state.proxies.serves task))
      (listeners : proxies.listeners = Function.update state.proxies.listeners acting next)
      (sockets : proxies.sockets task = state.proxies.sockets task) :
      Flow.Step state.proxies.closed (state.flow task) (Process.flow ⟨world, proxies⟩ task) := by
    rw [flow_other elsewhere serves told listeners sockets]
    exact .same
  have own {later : Flow} (step : Flow.Step state.proxies.closed (state.flow task) later)
      (listeners : proxies.listeners task = later.listener) (sockets : proxies.sockets task = later.socket)
      (serves : proxies.serves task = later.serves) (told : world.toldAbout later.serves = later.told) :
      Flow.Step state.proxies.closed (state.flow task) (Process.flow ⟨world, proxies⟩ task) := by
    have same : Process.flow ⟨world, proxies⟩ task = later := by
      simp only [Process.flow, listeners, sockets, serves, told]
    rwa [same]
  cases action with
  | cancel =>
      simp only [Proxies.listen] at performed
      split at performed
      · split at performed
        · split at performed
          · rename_i connection known
            cases performed
            exact ends (serves_setConnection known ⟨rfl, rfl, rfl, rfl, rfl⟩) rfl rfl rfl
          · cases performed
            exact ends rfl rfl rfl rfl
        · cases performed
          exact ends rfl rfl rfl rfl
      · contradiction
  | check =>
      simp only [Proxies.listen] at performed
      split at performed
      · rename_i stage
        split at performed
        · cases performed
          exact ends rfl rfl rfl rfl
        · cases performed
          exact moves rfl rfl rfl rfl rfl rfl rfl rfl (by simp [stage]) (by simp)
      · contradiction
  | fault =>
      simp only [Proxies.listen] at performed
      split at performed
      · rename_i stage
        cases performed
        exact moves rfl rfl rfl rfl rfl rfl rfl rfl (by simp [stage]) (by simp)
      · contradiction
  | accept _ connId =>
      simp only [Proxies.listen] at performed
      split at performed
      · rename_i ready
        obtain ⟨tcp, stage, new⟩ := ready
        have absent : state.proxies.connections connId = none :=
          congrArg View.connection (sound.fresh connId new)
        split at performed
        · cases performed
          exact ends rfl rfl rfl rfl
        · cases performed
          refine moves
            (serves_insert absent (.inl tcp)) ?_ rfl rfl rfl rfl rfl rfl (by simp [stage]) (by simp)
          exact toldAbout_silent (by simp [RelayMessage.about, Proxies.serves, absent])
      · contradiction
  | register =>
      simp only [Proxies.listen] at performed
      split at performed
      · rename_i stage
        split at performed
        · rename_i known
          cases performed
          exact moves (serves_setConnection known ⟨rfl, rfl, rfl, rfl, rfl⟩) rfl rfl rfl rfl rfl rfl rfl
            (by simp [stage]) (by simp)
        · contradiction
      · contradiction
  | receive _ addr bytes connId =>
      simp only [Proxies.listen] at performed
      split at performed
      · rename_i ready
        split at performed
        · rename_i first known found
          cases performed
          by_cases here : task = acting
          · subst here
            obtain rfl : first = addr := by simpa using List.find?_some found
            exact own (.received there ready.2 (List.mem_of_find?_eq_some found)) (Function.update_self ..)
              (Function.update_self ..) rfl rfl
          · exact foreign here rfl rfl rfl (Function.update_of_ne here ..)
        · rename_i missing
          split at performed
          · rename_i new
            cases performed
            have unused := sound.fresh connId new
            have absent : state.proxies.connections connId = none := congrArg View.connection unused
            by_cases here : task = acting
            · subst here
              have serves := @serves_introduce (state.proxies.setListener task (some { listener with
                stage := .forwarding connId bytes
                addrToConn := (addr, connId) :: listener.addrToConn
                connToAddr := (connId, addr) :: listener.connToAddr })) task connId (listener.accepted task)
                ready.1 rfl
              have older : (state.world.draw connId).toldAbout
                  (Function.update (state.proxies.serves task) connId true) =
                    state.world.toldAbout (state.proxies.serves task) :=
                funext fun channel => toldAbout_insert (congrFun (congrArg View.messages unused) channel)
              have step := @Flow.Step.introduced _ state.proxies.closed (state.flow task) listener addr connId
                bytes there ready.2 (by simp [Process.flow, Proxies.serves, absent]) (by
                  intro member
                  obtain ⟨entry, old, rfl⟩ := List.mem_map.mp member
                  exact absurd (List.find?_eq_none.mp missing entry old) (by simp))
              rw [Flow.tell_eq] at step
              refine own step (Function.update_self ..) (Function.update_self ..) serves ?_
              have told := @toldAbout_own (state.world.draw connId) state.proxies
                (Function.update (state.proxies.serves task) connId true) listener.agentSender
                (.newConnection listener.tunnelId connId) (by simp [RelayMessage.about])
              rw [older] at told
              exact told
            · refine foreign here (serves_insert absent (.inr (Ne.symm here)))
                (toldAbout_silent (by simp [RelayMessage.about, Proxies.serves, absent])) rfl
                (Function.update_of_ne here ..)
          · contradiction
      · contradiction
  | forwardDatagram =>
      simp only [Proxies.listen] at performed
      split at performed
      · rename_i connId bytes stage
        obtain ⟨addr, member⟩ := anchored.forwarding connId bytes stage
        have served := owned acting listener there addr connId member
        cases performed
        by_cases here : task = acting
        · subst here
          have step := @Flow.Step.forwarded _ state.proxies.closed (state.flow task) listener connId bytes
            there stage served
          rw [Flow.tell_eq] at step
          refine own step (Function.update_self ..) rfl rfl ?_
          exact toldAbout_own (by simpa [RelayMessage.about, Process.flow] using served)
        · exact foreign here rfl (toldAbout_silent (by simp [RelayMessage.about, serves_other served here]))
            rfl rfl
      · contradiction
  | takeReply =>
      simp only [Proxies.listen] at performed
      split at performed
      · rename_i ready
        split at performed
        · rename_i connId data rest _
          split at performed
          · rename_i id addr found
            cases performed
            refine moves rfl rfl rfl rfl rfl rfl rfl rfl (by simp [ready.2]) ?_
            rintro other client payload ⟨⟩
            obtain rfl : id = connId := by simpa using List.find?_some found
            exact List.mem_of_find?_eq_some found
          · cases performed
            exact moves rfl rfl rfl rfl rfl rfl rfl rfl (by simp [ready.2]) (by simp)
        · contradiction
      · contradiction
  | sendTo =>
      simp only [Proxies.listen] at performed
      split at performed
      · rename_i connId addr data stage
        split at performed
        · rename_i connection known
          cases performed
          by_cases here : task = acting
          · subst here
            exact own (.replied there stage) (Function.update_self ..) (Function.update_self ..)
              (serves_setConnection known ⟨rfl, rfl, rfl, rfl, rfl⟩) rfl
          · exact foreign here (serves_setConnection known ⟨rfl, rfl, rfl, rfl, rfl⟩) rfl rfl
              (Function.update_of_ne here ..)
        · contradiction
      · contradiction
  | _ => contradiction

/-- The task of a connection moves on. -/
theorem flow_connection {connId : Uuid} {connection later : Connection}
    (known : state.proxies.connections connId = some connection) (alike : connection.Alike later)
    (told : world.toldAbout (state.proxies.serves task) = state.world.toldAbout (state.proxies.serves task)) :
    Flow.Step state.proxies.closed (state.flow task)
      (Process.flow ⟨world, state.proxies.setConnection connId later⟩ task) := by
  have same : Process.flow ⟨world, state.proxies.setConnection connId later⟩ task = state.flow task := by
    simp only [Process.flow, serves_setConnection known alike, told]
    rfl
  rw [same]
  exact .same

theorem flow_serveTcp {connId : Uuid} {connection : Connection}
    (known : state.proxies.connections connId = some connection) (tcp : connection.transport = .tcp)
    (performed : state.proxies.serveTcp state.world connId connection action = some (world, proxies)) :
    Flow.Step state.proxies.closed (state.flow task) (Process.flow ⟨world, proxies⟩ task) := by
  have unserved : state.proxies.serves task connId = false := by simp [serves_of known, tcp]
  have silent (sender : Channel) (message : RelayMessage) (about : message.about = some connId) :
      (state.world.offer state.proxies sender message).toldAbout (state.proxies.serves task) =
        state.world.toldAbout (state.proxies.serves task) :=
    toldAbout_silent (by simp [about, unserved])
  unfold Proxies.serveTcp at performed
  split at performed <;> (repeat' split at performed) <;> cases performed
  all_goals first
    | exact flow_connection known ⟨rfl, rfl, rfl, rfl, rfl⟩ rfl
    | exact flow_connection known ⟨rfl, rfl, rfl, rfl, rfl⟩ (silent _ _ rfl)

theorem flow_serveUdp {connId : Uuid} {connection : Connection}
    (known : state.proxies.connections connId = some connection)
    (performed : state.proxies.serveUdp state.world connId connection action = some (world, proxies)) :
    Flow.Step state.proxies.closed (state.flow task) (Process.flow ⟨world, proxies⟩ task) := by
  unfold Proxies.serveUdp at performed
  split at performed <;> (repeat' split at performed) <;> cases performed
  all_goals first
    | exact flow_connection known ⟨rfl, rfl, rfl, rfl, rfl⟩ rfl
    | skip
  rename_i listener there
  have serves := @serves_setConnection state.proxies task connId connection
    { connection with taken := connection.taken + 1 } known ⟨rfl, rfl, rfl, rfl, rfl⟩
  exact flow_moved there rfl serves rfl rfl rfl rfl rfl rfl (.inl rfl) fun _ _ _ _ => .inl rfl

theorem Process.Sound.flow_perform (sound : state.Sound) (owned : Owned state)
    (performed : state.proxies.perform state.world action = some (world, proxies)) :
    Flow.Step state.proxies.closed (state.flow task) (Process.flow ⟨world, proxies⟩ task) := by
  unfold Proxies.perform at performed
  split at performed
  · cases performed
    exact .same
  · split at performed
    · split at performed
      · rename_i there
        exact sound.flow_listen owned there performed
      · contradiction
    · split at performed
      · split at performed
        · rename_i connection known
          split at performed
          · rename_i tcp
            exact flow_serveTcp known tcp performed
          · exact flow_serveUdp known performed
        · contradiction
      · contradiction

theorem toldAbout_called {choice : Choice} {op : Op} {result : op.Result} {serves : Uuid → Bool}
    (executed : exec state.world choice op = some (world, result))
    (silent : ∀ sender message, op = .send sender message → message.about = none) :
    world.toldAbout serves = state.world.toldAbout serves := by
  funext channel
  unfold World.toldAbout
  rw [exec_sent executed]
  cases op with
  | send sender message =>
      by_cases same : channel = sender
      · subst same
        simp [silent _ _ rfl]
      · simp [Function.update_of_ne same]
  | _ => rfl

theorem Process.Sound.flow_called {choice : Choice} {op : Op} {result : op.Result} (sound : state.Sound)
    (executed : exec state.world choice op = some (world, result))
    (silent : ∀ sender message, op = .send sender message → message.about = none) :
    Flow.Step state.proxies.closed (state.flow task)
      (Process.flow ⟨world, state.proxies.after state.world op⟩ task) := by
  have serves : (state.proxies.after state.world op).serves task = state.proxies.serves task := by
    simp only [funext_iff, Proxies.serves, Proxies.after_connections, implies_true]
  have told := @toldAbout_called _ state world choice op result (state.proxies.serves task) executed silent
  have still : Flow.Step state.proxies.closed (state.flow task) (Process.flow ⟨world, state.proxies⟩ task) := by
    have same : Process.flow ⟨world, state.proxies⟩ task = state.flow task := by
      simp only [Process.flow, told]
    exact same ▸ .same
  cases op with
  | spawnProxy transport port tunnelId agentId sender =>
    by_cases here : task = state.world.spawned
    · subst here
      have unserved : state.proxies.serves state.world.spawned = fun _ => false := by
        funext connId
        by_contra served
        obtain ⟨connection, known, own⟩ := (Option.any_eq_true _ _).mp (Bool.not_eq_false _ ▸ served)
        simp only [Bool.and_eq_true, beq_iff_eq] at own
        exact absurd (sound.spawned connId connection known) (by omega)
      have same : Process.flow ⟨world, state.proxies.after state.world (.spawnProxy transport port tunnelId
          agentId sender)⟩ state.world.spawned = { state.flow state.world.spawned with
            listener := some (.spawned transport tunnelId agentId sender)
            socket := some { tunnelId, agentSender := sender, received := [], sent := [] } } := by
        simp only [Process.flow, serves, told]
        simp only [Proxies.after, Proxies.record, Proxies.setListener, Function.update_self]
        rfl
      rw [same]
      refine .spawned unserved ?_
      simp only [Process.flow, unserved]
      funext channel
      exact List.filter_eq_nil_iff.mpr fun message _ => by cases message.about <;> simp
    · rw [flow_other here serves told rfl (Function.update_of_ne here ..)]
      exact .same
  | removeTunnelTask tunnelId =>
    simp only [Proxies.after] at serves ⊢
    split
    · rename_i handle stored
      cases known : state.proxies.listeners handle.task with
      | some listener =>
          exact flow_moved known rfl rfl told rfl rfl rfl rfl rfl (.inl rfl) fun _ _ _ _ => .inl rfl
      | none =>
          have unchanged : state.proxies.setListener handle.task none = state.proxies := by
            simp only [Proxies.setListener, ← known, Function.update_eq_self]
          rw [Option.map_none, unchanged]
          exact still
    · exact still
  | _ => exact still

theorem Process.Change.flow {label : Option ProxyAction} {state later : Process}
    (change : Process.Change label state later) (sound : state.Sound) (owned : Owned state) :
    Flow.Step state.proxies.closed (state.flow task) (later.flow task) := by
  cases change with
  | same | accepted => exact .same
  | called executed silent => exact sound.flow_called executed silent
  | performed performed => exact sound.flow_perform owned performed
  | rebooted => exact .rebooted

end Process

/-! ## What a listener relays -/

/-- The connection and the bytes of a `Data` message. -/
def RelayMessage.datagram? [Externals] : RelayMessage → Option (Option Uuid × Option (List UInt8))
  | .data connId payload => some (some connId, decodeBase64 payload)
  | _ => none

/-- The value of a key in a map. -/
def valueOf {α β : Type} [BEq α] (map : List (α × β)) (key : α) : Option β :=
  (map.find? (·.1 == key)).map Prod.snd

namespace Flow

/-- The datagrams received that have not been passed to the agent. -/
def Pending (flow : Flow) (flows : List (SocketAddr × Uuid)) (pending : List (SocketAddr × List UInt8)) :
    Prop :=
  match flow.listener with
  | .none => pending.length ≤ 1
  | some listener =>
      match listener.stage with
      | .forwarding connId bytes => ∃ addr, (addr, connId) ∈ flows ∧ pending = [(addr, bytes)]
      | _ => pending = []

/-- The clients of a listener, latest first, and what has passed between them
and an agent whose channel is open. -/
structure Carries [Externals] (closed : Channel → Bool) (flow : Flow) (socket : Socket)
    (flows : List (SocketAddr × Uuid)) : Prop where
  addrs : (flows.map Prod.fst).Nodup
  conns : (flows.map Prod.snd).Nodup
  serves : ∀ connId, flow.serves connId = true ↔ connId ∈ flows.map Prod.snd
  received : ∀ addr, addr ∈ flows.map Prod.fst ↔ addr ∈ socket.received.map Prod.fst
  live : ∀ listener, flow.listener = some listener →
    listener.agentSender = socket.agentSender ∧ listener.tunnelId = socket.tunnelId ∧
      listener.addrToConn = flows ∧ listener.connToAddr = flows.map Prod.swap ∧
        ∀ connId addr data, listener.stage = .replying connId addr data → (addr, connId) ∈ flows
  sent : ∀ connId addr data, (connId, addr, data) ∈ socket.sent → (addr, connId) ∈ flows
  told : ∀ message ∈ flow.told socket.agentSender, message.about.any flow.serves = true
  data : closed socket.agentSender = false → ∃ handled pending, socket.received = handled ++ pending ∧
    flow.Pending flows pending ∧ (flow.told socket.agentSender).filterMap (·.datagram?) =
      handled.map fun (addr, bytes) => (valueOf flows addr, some bytes)
  announced : closed socket.agentSender = false → ∀ connId ∈ flows.map Prod.snd, ∃ datagrams,
    (flow.told socket.agentSender).filter (·.about == some connId) =
      .newConnection socket.tunnelId connId :: datagrams ∧
        ∀ message ∈ datagrams, ∃ payload, message = .data connId payload

def Carried [Externals] (closed : Channel → Bool) (flow : Flow) : Prop :=
  (flow.listener.isSome → flow.socket.isSome) ∧
    ∀ socket, flow.socket = some socket → ∃ flows, flow.Carries closed socket flows

end Flow

section Carrying

variable [Externals] {α β : Type} [BEq α] [LawfulBEq α]

omit [Externals] in
/-- A map without a repeated key gives each key the value it has there. -/
theorem valueOf_iff {map : List (α × β)} {key : α} {value : β} (keys : (map.map Prod.fst).Nodup) :
    valueOf map key = some value ↔ (key, value) ∈ map := by
  induction map with
  | nil => simp [valueOf]
  | cons entry rest ih =>
      obtain ⟨first, held⟩ := entry
      obtain ⟨fresh, others⟩ := List.nodup_cons.mp keys
      by_cases here : first = key
      · subst here
        have absent : (first, value) ∉ rest := fun member => fresh (List.mem_map.mpr ⟨_, member, rfl⟩)
        simp [valueOf, absent, eq_comm]
      · have elsewhere : (first == key) = false := by simpa using here
        have tail : valueOf ((first, held) :: rest) key = valueOf rest key := by
          simp [valueOf, elsewhere]
        rw [tail, ih others]
        simp [Ne.symm here]

omit [Externals] in
theorem valueOf_cons_ne {map : List (α × β)} {key other : α} {value : β} (elsewhere : other ≠ key) :
    valueOf ((key, value) :: map) other = valueOf map other := by
  have unlike : (key == other) = false := by simpa using Ne.symm elsewhere
  simp [valueOf, unlike]

variable {closed later : Channel → Bool} {flow after : Flow} {socket : Socket}
  {flows : List (SocketAddr × Uuid)} {listener : Listener} {connId : Uuid} {addr : SocketAddr}
  {bytes : List UInt8}

/-- The task moves on without a datagram, or ends. -/
theorem Flow.Carries.move (carries : flow.Carries closed socket flows)
    (opens : ∀ channel, later channel = false → closed channel = false) {next : Option Listener}
    (live : ∀ listener, next = some listener →
      listener.agentSender = socket.agentSender ∧ listener.tunnelId = socket.tunnelId ∧
        listener.addrToConn = flows ∧ listener.connToAddr = flows.map Prod.swap ∧
          ∀ connId addr data, listener.stage = .replying connId addr data → (addr, connId) ∈ flows)
    (pending : ∀ pending, flow.Pending flows pending →
      ({ flow with listener := next } : Flow).Pending flows pending) :
    ({ flow with listener := next } : Flow).Carries later socket flows where
  addrs := carries.addrs
  conns := carries.conns
  serves := carries.serves
  received := carries.received
  live := live
  sent := carries.sent
  told := carries.told
  announced := fun heard => carries.announced (opens _ heard)
  data := fun heard => by
    obtain ⟨handled, waiting, split, pends, messages⟩ := carries.data (opens _ heard)
    exact ⟨handled, waiting, split, pending waiting pends, messages⟩

omit [Externals] in
theorem Flow.Pending.length {pending : List (SocketAddr × List UInt8)} (pends : flow.Pending flows pending) :
    pending.length ≤ 1 := by
  unfold Flow.Pending at pends
  split at pends
  · exact pends
  · split at pends
    · obtain ⟨_, _, rfl⟩ := pends
      simp
    · subst pends
      simp

omit [Externals] in
theorem Flow.pending_idle {pending : List (SocketAddr × List UInt8)} (there : flow.listener = some listener)
    (idle : ∀ connId bytes, listener.stage ≠ .forwarding connId bytes) :
    flow.Pending flows pending ↔ pending = [] := by
  unfold Flow.Pending
  rw [there]
  dsimp only
  split
  · rename_i stage
    exact absurd stage (idle _ _)
  · rfl

omit [Externals] in
theorem Flow.pending_forwarding {pending : List (SocketAddr × List UInt8)}
    (there : flow.listener = some listener) (stage : listener.stage = .forwarding connId bytes) :
    flow.Pending flows pending ↔ ∃ addr, (addr, connId) ∈ flows ∧ pending = [(addr, bytes)] := by
  unfold Flow.Pending
  rw [there]
  dsimp only
  rw [stage]

/-- A datagram of a client the listener knows. -/
theorem Flow.Carries.receive (carries : flow.Carries closed socket flows)
    (opens : ∀ channel, later channel = false → closed channel = false)
    (there : flow.listener = some listener) (waiting : listener.stage = .waiting)
    (known : (addr, connId) ∈ listener.addrToConn) :
    ({ flow with
      listener := some { listener with stage := .forwarding connId bytes }
      socket := some (socket.receive addr bytes) } : Flow).Carries later (socket.receive addr bytes) flows := by
  obtain ⟨sender, tunnel, addrs, conns, _⟩ := carries.live listener there
  have client : (addr, connId) ∈ flows := addrs ▸ known
  refine ⟨carries.addrs, carries.conns, carries.serves, fun other => ?_, ?_, carries.sent, carries.told, ?_,
    fun heard => carries.announced (opens _ heard)⟩
  · simp only [Socket.receive, List.map_append, List.map_cons, List.map_nil, List.mem_append,
      List.mem_singleton]
    constructor
    · exact fun member => .inl ((carries.received other).mp member)
    · rintro (old | rfl)
      · exact (carries.received other).mpr old
      · exact List.mem_map.mpr ⟨_, client, rfl⟩
  · rintro found ⟨⟩
    exact ⟨sender, tunnel, addrs, conns, fun _ _ _ stage => by contradiction⟩
  · intro heard
    obtain ⟨handled, pending, split, pends, messages⟩ := carries.data (opens _ heard)
    obtain rfl := (flow.pending_idle there (by simp [waiting])).mp pends
    rw [List.append_nil] at split
    exact ⟨handled, [(addr, bytes)], by simp [Socket.receive, split],
      (Flow.pending_forwarding rfl rfl).mpr ⟨addr, client, rfl⟩, messages⟩

/-- The first datagram of a client. -/
theorem Flow.Carries.introduce (carries : flow.Carries closed socket flows)
    (opens : ∀ channel, later channel = false → closed channel = false)
    (there : flow.listener = some listener) (waiting : listener.stage = .waiting)
    (new : flow.serves connId = false) (missing : addr ∉ listener.addrToConn.map Prod.fst) :
    (Flow.tell { flow with
      listener := some { listener with
        stage := .forwarding connId bytes
        addrToConn := (addr, connId) :: listener.addrToConn
        connToAddr := (connId, addr) :: listener.connToAddr }
      socket := some (socket.receive addr bytes)
      serves := Function.update flow.serves connId true } closed socket.agentSender
        (.newConnection socket.tunnelId connId)).Carries later (socket.receive addr bytes)
          ((addr, connId) :: flows) := by
  obtain ⟨sender, tunnel, addrs, conns, _⟩ := carries.live listener there
  have unserved : connId ∉ flows.map Prod.snd := fun member => by
    rw [(carries.serves connId).mpr member] at new
    contradiction
  have unseen : addr ∉ flows.map Prod.fst := addrs ▸ missing
  have still : ∀ message ∈ flow.told socket.agentSender,
      message.about.any (Function.update flow.serves connId true) = true := by
    intro message member
    obtain ⟨other, about, served⟩ := (Option.any_eq_true _ _).mp (carries.told message member)
    refine (Option.any_eq_true _ _).mpr ⟨other, about, ?_⟩
    by_cases here : other = connId
    · rw [here, Function.update_self]
    · rwa [Function.update_of_ne here]
  rw [Flow.tell_eq]
  refine ⟨List.nodup_cons.mpr ⟨unseen, carries.addrs⟩, List.nodup_cons.mpr ⟨unserved, carries.conns⟩, ?_, ?_,
    ?_, fun other client data member => List.mem_cons_of_mem _ (carries.sent other client data member), ?_, ?_, ?_⟩
  · intro other
    by_cases here : other = connId
    · simp [here]
    · simp [here, carries.serves other]
  · intro other
    have old := carries.received other
    simp only [Socket.receive, List.map_append, List.map_cons, List.map_nil, List.mem_append, List.mem_cons,
      List.not_mem_nil, or_false]
    rw [old]
    exact or_comm
  · rintro found ⟨⟩
    exact ⟨sender, tunnel, by simp [addrs], by simp [conns], fun _ _ _ stage => by contradiction⟩
  · intro message member
    dsimp only [Socket.receive] at member ⊢
    split at member
    · exact still message member
    · rw [Function.update_self] at member
      rcases List.mem_append.mp member with old | last
      · exact still message old
      · rw [List.mem_singleton.mp last]
        simp [RelayMessage.about]
  · intro heard
    have heard' : closed socket.agentSender = false := opens _ heard
    obtain ⟨handled, pending, split, pends, messages⟩ := carries.data heard'
    obtain rfl := (flow.pending_idle there (by simp [waiting])).mp pends
    rw [List.append_nil] at split
    refine ⟨handled, [(addr, bytes)], by simp [Socket.receive, split],
      (Flow.pending_forwarding rfl rfl).mpr ⟨addr, List.mem_cons_self, rfl⟩, ?_⟩
    dsimp only [Socket.receive]
    rw [if_neg (by simp [heard']), Function.update_self, List.filterMap_append, messages]
    simp only [List.filterMap_cons, RelayMessage.datagram?, List.filterMap_nil, List.append_nil]
    refine List.map_congr_left fun entry member => ?_
    have seen : entry.1 ∈ flows.map Prod.fst :=
      (carries.received _).mpr (split ▸ List.mem_map.mpr ⟨entry, member, rfl⟩)
    rw [valueOf_cons_ne fun same : entry.1 = addr => unseen (same ▸ seen)]
  · intro heard other member
    have heard' : closed socket.agentSender = false := opens _ heard
    dsimp only [Socket.receive]
    rw [if_neg (by simp [heard']), Function.update_self, List.filter_append]
    by_cases here : other = connId
    · subst here
      have none : (flow.told socket.agentSender).filter (·.about == some other) = [] := by
        refine List.filter_eq_nil_iff.mpr fun message told about => ?_
        have served := carries.told message told
        rw [beq_iff_eq.mp about, Option.any_some, new] at served
        contradiction
      exact ⟨[], by rw [none]; simp [RelayMessage.about], by simp⟩
    · obtain ⟨datagrams, messages, all⟩ := carries.announced heard' other (by simpa [here] using member)
      exact ⟨datagrams, by rw [messages]; simp [RelayMessage.about, Ne.symm here], all⟩

/-- A datagram is passed to the agent. -/
theorem Flow.Carries.forward (carries : flow.Carries closed socket flows)
    (opens : ∀ channel, later channel = false → closed channel = false)
    (there : flow.listener = some listener) (stage : listener.stage = .forwarding connId bytes)
    (served : flow.serves connId = true) :
    (Flow.tell { flow with listener := some { listener with stage := .checking } } closed
      socket.agentSender (.data connId (encodeBase64 bytes))).Carries later socket flows := by
  obtain ⟨sender, tunnel, addrs, conns, _⟩ := carries.live listener there
  rw [Flow.tell_eq]
  refine ⟨carries.addrs, carries.conns, carries.serves, carries.received, ?_, carries.sent, ?_, ?_, ?_⟩
  · rintro found ⟨⟩
    exact ⟨sender, tunnel, addrs, conns, fun _ _ _ stage => by contradiction⟩
  · intro message member
    dsimp only at member ⊢
    split at member
    · exact carries.told message member
    · rw [Function.update_self] at member
      rcases List.mem_append.mp member with old | last
      · exact carries.told message old
      · rw [List.mem_singleton.mp last]
        simpa [RelayMessage.about] using served
  · intro heard
    have heard' := opens _ heard
    obtain ⟨handled, pending, split, pends, messages⟩ := carries.data heard'
    obtain ⟨addr, client, rfl⟩ := (Flow.pending_forwarding there stage).mp pends
    refine ⟨handled ++ [(addr, bytes)], [], by simp [split], (Flow.pending_idle rfl (by simp)).mpr rfl, ?_⟩
    dsimp only
    rw [if_neg (by simp [heard']), Function.update_self, List.filterMap_append, messages, List.map_append]
    simp [RelayMessage.datagram?, decodeBase64_encode, (valueOf_iff carries.addrs).mpr client]
  · intro heard other member
    have heard' := opens _ heard
    obtain ⟨datagrams, messages, all⟩ := carries.announced heard' other member
    dsimp only
    rw [if_neg (by simp [heard']), Function.update_self, List.filter_append, messages]
    by_cases here : other = connId
    · subst here
      refine ⟨datagrams ++ [.data other (encodeBase64 bytes)], by simp [RelayMessage.about], ?_⟩
      intro message inside
      rcases List.mem_append.mp inside with old | last
      · exact all message old
      · exact ⟨_, List.mem_singleton.mp last⟩
    · exact ⟨datagrams, by simp [RelayMessage.about, Ne.symm here], all⟩

/-- A datagram is sent to a client. -/
theorem Flow.Carries.reply {data : List UInt8} (carries : flow.Carries closed socket flows)
    (opens : ∀ channel, later channel = false → closed channel = false)
    (there : flow.listener = some listener) (stage : listener.stage = .replying connId addr data) :
    ({ flow with
      listener := some { listener with stage := .checking }
      socket := some (socket.send connId addr data) } : Flow).Carries later (socket.send connId addr data)
        flows := by
  obtain ⟨sender, tunnel, addrs, conns, replies⟩ := carries.live listener there
  refine ⟨carries.addrs, carries.conns, carries.serves, carries.received, ?_, ?_, carries.told, ?_,
    fun heard => carries.announced (opens _ heard)⟩
  · rintro found ⟨⟩
    exact ⟨sender, tunnel, addrs, conns, fun _ _ _ stage => by contradiction⟩
  · intro other client payload member
    rcases List.mem_append.mp member with old | last
    · exact carries.sent other client payload old
    · cases List.mem_singleton.mp last
      exact replies connId addr data stage
  · intro heard
    obtain ⟨handled, pending, split, pends, messages⟩ := carries.data (opens _ heard)
    obtain rfl := (flow.pending_idle there (by simp [stage])).mp pends
    exact ⟨handled, [], split, (Flow.pending_idle rfl (by simp)).mpr rfl, messages⟩

theorem Flow.Carried.step (carried : flow.Carried closed)
    (opens : after.listener = .none ∧ after.socket = .none ∨
      ∀ channel, later channel = false → closed channel = false)
    (step : Flow.Step closed flow after) : after.Carried later := by
  rcases opens with ⟨unlistened, unbound⟩ | opens
  · exact ⟨fun listens => by rw [unlistened] at listens; contradiction,
      fun socket known => by rw [unbound] at known; contradiction⟩
  · obtain ⟨bound, carries⟩ := carried
    have socketed {listener : Listener} (there : flow.listener = some listener) :
        ∃ socket flows, flow.socket = some socket ∧ flow.Carries closed socket flows := by
      obtain ⟨socket, known⟩ := Option.isSome_iff_exists.mp (bound (by rw [there]; rfl))
      obtain ⟨flows, carries⟩ := carries socket known
      exact ⟨socket, flows, known, carries⟩
    cases step with
    | same =>
        refine ⟨bound, fun socket known => ?_⟩
        obtain ⟨flows, carries⟩ := carries socket known
        exact ⟨flows, carries.move opens carries.live fun _ => id⟩
    | rebooted => exact ⟨fun impossible => by contradiction, fun _ impossible => by contradiction⟩
    | spawned unserved untold =>
        refine ⟨fun _ => rfl, ?_⟩
        rintro socket ⟨⟩
        refine ⟨[], List.nodup_nil, List.nodup_nil, by simp [unserved], by simp, ?_, by simp, by simp [untold],
          fun _ => ⟨[], [], rfl, (Flow.pending_idle rfl (by simp [Listener.spawned])).mpr rfl, by simp [untold]⟩,
          by simp⟩
        rintro found ⟨⟩
        exact ⟨rfl, rfl, rfl, rfl, fun _ _ _ stage => by contradiction⟩
    | ended =>
        refine ⟨fun impossible => by contradiction, fun socket known => ?_⟩
        obtain ⟨flows, carries⟩ := carries socket known
        exact ⟨flows, carries.move opens (fun _ impossible => by contradiction) fun pending pends => pends.length⟩
    | @moved listener next there sender tunnel addrs conns stage reply =>
        refine ⟨fun _ => bound (by rw [there]; rfl), fun socket known => ?_⟩
        obtain ⟨flows, carries⟩ := carries socket known
        obtain ⟨sender', tunnel', addrs', conns', replies⟩ := carries.live listener there
        refine ⟨flows, carries.move opens ?_ ?_⟩
        · rintro found ⟨⟩
          refine ⟨sender.trans sender', tunnel.trans tunnel', addrs.trans addrs', conns.trans conns', ?_⟩
          intro other client payload at'
          rcases reply other client payload at' with same | member
          · exact replies other client payload (same.trans at')
          · rw [conns'] at member
            obtain ⟨entry, inside, same⟩ := List.mem_map.mp member
            cases same
            exact inside
        · intro pending pends
          rcases stage with same | ⟨before', after'⟩
          · unfold Flow.Pending at pends ⊢
            rw [there] at pends
            dsimp only at pends ⊢
            rwa [same]
          · rw [flow.pending_idle there before'] at pends
            exact (Flow.pending_idle rfl after').mpr pends
    | received there waiting known =>
        obtain ⟨socket, flows, bound', carries⟩ := socketed there
        rw [bound', Option.map_some]
        refine ⟨fun _ => rfl, ?_⟩
        rintro found ⟨⟩
        exact ⟨flows, carries.receive opens there waiting known⟩
    | @introduced listener addr connId bytes there waiting new missing =>
        obtain ⟨socket, flows, bound', carries⟩ := socketed there
        obtain ⟨sender, tunnel, _⟩ := carries.live _ there
        rw [bound', Option.map_some]
        refine ⟨fun _ => by rw [Flow.tell_eq]; rfl, fun found known => ?_⟩
        rw [Flow.tell_eq] at known
        cases known
        have kept := @Flow.Carries.introduce _ closed later flow socket flows listener connId addr bytes
          carries opens there waiting new missing
        rw [← sender, ← tunnel] at kept
        exact ⟨_, kept⟩
    | forwarded there stage served =>
        obtain ⟨socket, flows, bound', carries⟩ := socketed there
        obtain ⟨sender, _⟩ := carries.live _ there
        refine ⟨fun _ => by rw [Flow.tell_eq]; exact bound (by rw [there]; rfl), fun found known => ?_⟩
        rw [Flow.tell_eq] at known
        obtain rfl := Option.some.inj (bound'.symm.trans known)
        have kept := carries.forward opens there stage served
        rw [← sender] at kept
        exact ⟨_, kept⟩
    | replied there stage =>
        obtain ⟨socket, flows, bound', carries⟩ := socketed there
        rw [bound', Option.map_some]
        refine ⟨fun _ => rfl, ?_⟩
        rintro found ⟨⟩
        exact ⟨flows, carries.reply opens there stage⟩

end Carrying

section Runs

variable [Externals] {allowed : Condition process} {portRange : UInt16 × UInt16} {config : Config process}

theorem Owned.of_carried {state : Process} (carried : ∀ task, (state.flow task).Carried state.proxies.closed) :
    Owned state := by
  intro task listener there addr connId member
  obtain ⟨bound, carries⟩ := carried task
  obtain ⟨socket, known⟩ := Option.isSome_iff_exists.mp
    (bound (by rw [show (state.flow task).listener = some listener from there]; rfl))
  obtain ⟨flows, carries⟩ := carries socket known
  obtain ⟨_, _, addrs, _⟩ := carries.live listener there
  exact (carries.serves connId).mpr (List.mem_map.mpr ⟨_, addrs ▸ member, rfl⟩)

theorem Runs.carried (runs : Runs allowed portRange config) (task : Nat) :
    (config.state.flow task).Carried config.state.proxies.closed := by
  refine @Reachable.induct _ process allowed
    (fun config => ∀ task, (config.state.flow task).Carried config.state.proxies.closed) _ _ ?_ ?_ runs task
  · exact fun _ => ⟨fun impossible => by contradiction, fun _ impossible => by contradiction⟩
  · intro before action after earlier carried _ step task
    have change := Step.change (Runs.lawful earlier) step
    refine (carried task).step ?_ (change.flow (Runs.sound earlier) (.of_carried carried))
    by_cases restarted : after.state.proxies = .none
    · exact .inl ⟨by rw [Process.flow, restarted]; rfl, by rw [Process.flow, restarted]; rfl⟩
    · refine .inr fun channel heard => ?_
      by_contra deaf
      rcases change.closed (by simpa using deaf) with still | none
      · rw [heard] at still
        contradiction
      · exact restarted none

/-! ## Datagrams are relayed faithfully -/

/-- What the tasks of a listener's clients and its agent see of a listener task
whose clients are `conn`. -/
structure Relayed (state : Process) (task : Nat) (socket : Socket) (conn : SocketAddr → Option Uuid) : Prop where
  injective : ∀ addr other connId, conn addr = some connId → conn other = some connId → addr = other
  /-- The maps of the task are the clients and their inverse. -/
  maps : ∀ listener, state.proxies.listeners task = some listener → ∀ addr connId,
    (valueOf listener.addrToConn addr = some connId ↔ conn addr = some connId) ∧
      (valueOf listener.connToAddr connId = some addr ↔ conn addr = some connId)
  clients : ∀ connId, state.proxies.serves task connId = true ↔ ∃ addr, conn addr = some connId
  received : ∀ addr, (conn addr).isSome = true ↔ addr ∈ socket.received.map Prod.fst
  /-- At most the datagram the task is handling, or was handling when it was
  dropped, has not been passed to the agent. -/
  data : ∃ handled pending, socket.received = handled ++ pending ∧ pending.length ≤ 1 ∧
    (∀ listener, state.proxies.listeners task = some listener →
      (∀ connId bytes, listener.stage ≠ .forwarding connId bytes) → pending = []) ∧
    (state.world.toldAbout (state.proxies.serves task) socket.agentSender).filterMap (·.datagram?) =
      handled.map fun (addr, bytes) => (conn addr, some bytes)
  announced : ∀ addr connId, conn addr = some connId → ∃ datagrams,
    state.world.messagesAbout connId socket.agentSender = .newConnection socket.tunnelId connId :: datagrams ∧
      ∀ message ∈ datagrams, ∃ payload, message = .data connId payload
  sent : ∀ connId addr data, (connId, addr, data) ∈ socket.sent → conn addr = some connId

/-- In every run every listener task whose agent's channel is open has relayed
the datagrams of its clients faithfully. -/
theorem datagrams_relayed (runs : Runs anyStep portRange config) {task : Nat} {socket : Socket}
    (there : config.state.proxies.sockets task = some socket)
    (heard : config.state.proxies.closed socket.agentSender = false) :
    ∃ conn, Relayed config.state task socket conn := by
  obtain ⟨flows, carries⟩ := (runs.carried task).2 socket there
  have client (addr : SocketAddr) (connId : Uuid) : valueOf flows addr = some connId ↔ (addr, connId) ∈ flows :=
    valueOf_iff carries.addrs
  refine ⟨valueOf flows, ?_, ?_, ?_, ?_, ?_, ?_, ?_⟩
  · intro addr other connId first second
    have same := List.inj_on_of_nodup_map carries.conns ((client addr connId).mp first)
      ((client other connId).mp second) rfl
    exact congrArg Prod.fst same
  · intro listener known addr connId
    obtain ⟨_, _, addrs, conns, _⟩ := carries.live listener known
    have swapped : ((flows.map Prod.swap).map Prod.fst).Nodup := by
      simpa [List.map_map, Function.comp_def] using carries.conns
    rw [addrs, conns, valueOf_iff swapped, client]
    refine ⟨Iff.rfl, ?_⟩
    simp
  · intro connId
    rw [show config.state.proxies.serves task connId = true ↔ _ from carries.serves connId]
    simp [client]
  · intro addr
    rw [← carries.received addr, Option.isSome_iff_exists]
    simp [client]
  · obtain ⟨handled, pending, split, pends, messages⟩ := carries.data heard
    refine ⟨handled, pending, split, pends.length, fun listener known idle => ?_, messages⟩
    exact (Flow.pending_idle known idle).mp pends
  · intro addr connId known
    obtain ⟨datagrams, messages, all⟩ := carries.announced heard connId
      (List.mem_map.mpr ⟨_, (client addr connId).mp known, rfl⟩)
    have served : config.state.proxies.serves task connId = true :=
      (carries.serves connId).mpr (List.mem_map.mpr ⟨_, (client addr connId).mp known, rfl⟩)
    refine ⟨datagrams, Eq.trans ?_ messages, all⟩
    simp only [World.messagesAbout, Process.flow, World.toldAbout, List.filter_filter]
    refine List.filter_congr fun message _ => ?_
    cases about : message.about == some connId with
    | false => rfl
    | true => simp [beq_iff_eq.mp about, served]
  · exact fun connId addr data member => (client addr connId).mpr (carries.sent connId addr data member)

end Runs

/-- Two clients send three datagrams, and one of them is answered. -/
theorem datagrams_relayed_answered :
    ∃ config : Config process, ∃ socket conn, socket.received = [(5, [1]), (6, [2]), (5, [3])] ∧
      socket.sent = [(1000, 5, [72, 105])] ∧ Relayed config.state 0 socket conn := by
  have passed : (process.follow (fun _ _ _ _ => true) 200 (works 0 (udpTunnelOpened ++
      proxied [.check 0, .receive 0 5 [1] 1000, .forwardDatagram 0, .enroll 1000, .check 0,
        .receive 0 6 [2] 1001, .forwardDatagram 0, .check 0, .receive 0 5 [3] 0, .forwardDatagram 0] ++
      [(.serve (.frame 0 (.message (.data 1000 "SGk="))), answer 0 0)] ++
      proxied [.passOn 1000, .check 0, .takeReply 0, .sendTo 0])) ⟨newProcess, []⟩).any (fun config =>
        (config.state.proxies.sockets 0).any fun socket => decide (
          socket.received = [(5, [1]), (6, [2]), (5, [3])] ∧ socket.sent = [(1000, 5, [72, 105])] ∧
            config.state.proxies.closed socket.agentSender = false)) = true := by decide +kernel
  obtain ⟨config, runs, tested⟩ := newProcess_run passed
  obtain ⟨socket, there, tested⟩ := (Option.any_eq_true _ _).mp tested
  obtain ⟨received, sent, heard⟩ := of_decide_eq_true tested
  obtain ⟨conn, relayed⟩ := datagrams_relayed runs there heard
  exact ⟨config, socket, conn, received, sent, relayed⟩

end TunnelitRelay
