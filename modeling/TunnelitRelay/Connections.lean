import TunnelitRelay.Handlers
import TunnelitRelay.Effects
import TunnelitRelay.Proxy

namespace TunnelitRelay

open Concurrent

/-! # One connection of a run

What a step of the whole process does to one connection is one of a few moves
of an automaton of its own.  `View` is all that is seen of the connection,
`View.Step` are its moves, and `Runs.follows` shows that the process makes no
others; what follows about connections is proved on the automaton.
-/

/-- The connection a message is about. -/
def RelayMessage.about : RelayMessage → Option Uuid
  | .newConnection _ connId | .data connId _ | .closeConnection connId => some connId
  | _ => none

def World.messagesAbout (world : World) (connId : Uuid) (channel : Channel) : List RelayMessage :=
  (world.sent channel).filter (·.about == some connId)

structure View where
  connection : Option Connection
  messages : Channel → List RelayMessage
  registered : Bool
  queue : List (List UInt8)

/-- An identifier that is not in use. -/
def View.none : View where
  connection := .none
  messages := fun _ => []
  registered := false
  queue := []

def Process.view (state : Process) (connId : Uuid) : View where
  connection := state.proxies.connections connId
  messages := state.world.messagesAbout connId
  registered := state.world.tcpConnSenders connId
  queue := state.world.queued connId

namespace View

def set (view : View) (connection : Connection) : View := { view with connection := some connection }

def tell (view : View) (channel : Channel) (message : RelayMessage) : View :=
  { view with messages := Function.update view.messages channel (view.messages channel ++ [message]) }

/-- What happens to a connection by an action of the proxies or by something
else: `closed` are the channels whose receiver is gone, `old` and `drawn` the
identifiers drawn before and after the step. -/
inductive Step [Externals] (closed : Channel → Bool) (old drawn : List Uuid) (connId : Uuid) : Option ProxyAction → View → View → Prop where
  | same {label view} : Step closed old drawn connId label view view
  | enqueued {view data} (registered : view.registered = true) :
      Step closed old drawn connId .none view { view with queue := view.queue ++ [data] }
  | unregistered {view} : Step closed old drawn connId .none view { view with registered := false }
  | rebooted {view} : Step closed old drawn connId .none view View.none
  | announced {label} {listener : Listener} {task : Nat} (new : connId ∉ old) (known : connId ∈ drawn) :
      Step closed old drawn connId label View.none
        ((View.none.set (listener.accepted task)).tell listener.agentSender
          (.newConnection listener.tunnelId connId))
  | unannounced {label} {listener : Listener} {task : Nat} (new : connId ∉ old) (known : connId ∈ drawn) (udp : listener.transport = .udp) :
      Step closed old drawn connId label View.none (View.none.set (listener.accepted task))
  | registered {label connection} {view : View} (there : view.connection = some connection)
      (stage : connection.stage = .announced) :
      Step closed old drawn connId label view { view.set { connection with stage := .selecting } with registered := true }
  | dropped {connection task} {view : View} (there : view.connection = some connection)
      (tcp : connection.transport = .tcp) (stage : connection.stage = .announced) :
      Step closed old drawn connId (some (.cancel task)) view (view.set { connection with stage := .ended })
  | arrived {connection bytes} {view : View} (there : view.connection = some connection)
      (tcp : connection.transport = .tcp) (open' : connection.finished = false) :
      Step closed old drawn connId (some (.arrive connId bytes)) view
        (view.set { connection with unread := connection.unread ++ bytes })
  | finished {connection} {view : View} (there : view.connection = some connection)
      (tcp : connection.transport = .tcp) :
      Step closed old drawn connId (some (.finish connId)) view (view.set { connection with finished := true })
  | read {connection size} {view : View} (there : view.connection = some connection)
      (tcp : connection.transport = .tcp) (stage : connection.stage = .selecting)
      (some' : 0 < size ∧ size ≤ connection.unread.length) :
      Step closed old drawn connId (some (.read connId size)) view (view.set { connection with
        stage := .forwarding (connection.unread.take size)
        unread := connection.unread.drop size
        read := connection.read ++ [connection.unread.take size] })
  | leftEof {connection} {view : View} (there : view.connection = some connection)
      (tcp : connection.transport = .tcp) (stage : connection.stage = .selecting) :
      Step closed old drawn connId (some (.readEof connId)) view (view.set { connection with stage := .leaving })
  | leftError {connection} {view : View} (there : view.connection = some connection)
      (tcp : connection.transport = .tcp) (stage : connection.stage = .selecting) :
      Step closed old drawn connId (some (.readError connId)) view (view.set { connection with stage := .leaving })
  | leftUnsent {connection bytes} {view : View} (there : view.connection = some connection)
      (tcp : connection.transport = .tcp) (stage : connection.stage = .forwarding bytes)
      (deaf : closed connection.agentSender = true) :
      Step closed old drawn connId (some (.forward connId)) view (view.set { connection with stage := .leaving })
  | forwarded {connection bytes} {view : View} (there : view.connection = some connection)
      (tcp : connection.transport = .tcp) (stage : connection.stage = .forwarding bytes)
      (hears : closed connection.agentSender = false) :
      Step closed old drawn connId (some (.forward connId)) view
        ((view.set { connection with stage := .selecting }).tell connection.agentSender
          (.data connId (encodeBase64 bytes)))
  | took {connection data} {view : View} (there : view.connection = some connection)
      (tcp : connection.transport = .tcp) (stage : connection.stage = .selecting)
      (next : view.queue[connection.taken]? = some data) :
      Step closed old drawn connId (some (.take connId)) view
        (view.set { connection with stage := .writing data, taken := connection.taken + 1 })
  | wrote {connection data} {view : View} (there : view.connection = some connection)
      (tcp : connection.transport = .tcp) (stage : connection.stage = .writing data) :
      Step closed old drawn connId (some (.writeAll connId)) view
        (view.set { connection with stage := .selecting, written := connection.written ++ [data] })
  | leftUnwritten {connection data} {view : View} (there : view.connection = some connection)
      (tcp : connection.transport = .tcp) (stage : connection.stage = .writing data) :
      Step closed old drawn connId (some (.writeError connId)) view (view.set { connection with stage := .leaving })
  | closed {connection} {view : View} (there : view.connection = some connection)
      (tcp : connection.transport = .tcp) (stage : connection.stage = .leaving) :
      Step closed old drawn connId (some (.close connId)) view
        ((view.set { connection with stage := .removing }).tell connection.agentSender (.closeConnection connId))
  | closedUnheard {connection} {view : View} (there : view.connection = some connection)
      (tcp : connection.transport = .tcp) (stage : connection.stage = .leaving)
      (deaf : closed connection.agentSender = true) :
      Step closed old drawn connId (some (.close connId)) view (view.set { connection with stage := .removing })
  | removed {connection} {view : View} (there : view.connection = some connection)
      (tcp : connection.transport = .tcp) (stage : connection.stage = .removing) :
      Step closed old drawn connId (some (.remove connId)) view
        { view.set { connection with stage := .ended } with registered := false }
  | datagram {label connection payload} {view : View} (there : view.connection = some connection)
      (udp : connection.transport = .udp) :
      Step closed old drawn connId label view (view.tell connection.agentSender (.data connId payload))
  | replied {label connection data} {view : View} (there : view.connection = some connection)
      (udp : connection.transport = .udp) :
      Step closed old drawn connId label view (view.set { connection with written := connection.written ++ [data] })
  | passedOn {label connection} {view : View} (there : view.connection = some connection)
      (udp : connection.transport = .udp) (next : connection.taken < view.queue.length) :
      Step closed old drawn connId label view (view.set { connection with taken := connection.taken + 1 })
  | retired {label connection} {view : View} (there : view.connection = some connection)
      (udp : connection.transport = .udp) (gone : view.registered = false) :
      Step closed old drawn connId label view (view.set { connection with stage := .ended })

theorem Step.none [Externals] {closed : Channel → Bool} {old drawn : List Uuid} {connId : Uuid}
    {label : Option ProxyAction} {after : View}
    (step : View.Step closed old drawn connId label View.none after) (new : connId ∉ drawn) : after = View.none := by
  cases step with
  | same | rebooted => rfl
  | unregistered => rfl
  | announced _ known | unannounced _ known => exact absurd known new
  | enqueued registered => simp [View.none] at registered
  | _ there => simp [View.none] at there

end View

/-! ## What a step of the process does to its state -/

variable [Externals]

inductive Process.Change : Option ProxyAction → Process → Process → Prop where
  | same {state} : Change none state state
  | accepted {state sessions} : Change none state ⟨{ state.world with sessions }, state.proxies⟩
  | called {state : Process} {choice op world} {result : op.Result}
      (executed : exec state.world choice op = some (world, result))
      (silent : ∀ sender message, op = .send sender message → message.about = none) :
      Change none state ⟨world, state.proxies.after state.world op⟩
  | performed {state : Process} {action world proxies}
      (performed : state.proxies.perform state.world action = some (world, proxies)) :
      Change (some action) state ⟨world, proxies⟩
  | rebooted {state : Process} : Change none state ⟨state.world.reboot, .none⟩

/-- The action of the proxies that a step is. -/
def proxyAction : Action process → Option ProxyAction
  | .start (.proxy action) => some action
  | _ => none

/-- The handlers keep their discipline; an action of a proxy has no text. -/
def processContract : Contract process where
  law := fun work => match work with
    | .serve job => discipline job
    | .proxy _ => fun _ _ _ => False
  answer := fun work => match work with
    | .serve job => answered job
    | .proxy _ => fun _ _ _ => True

theorem process_lawful : process.Lawful processContract := by
  intro work
  cases work with
  | serve job => exact relay_lawful job
  | proxy action => trivial

theorem Runs.lawful {allowed : Condition process} {portRange : UInt16 × UInt16} {config : Config process}
    (runs : Runs allowed portRange config) : config.Lawful processContract :=
  Reachable.lawful process_lawful runs

/-- No handler sends a message about a connection. -/
theorem silent_of_permitted {job : Job} {past : Past} {held : Held} {sender : Channel}
    {message : RelayMessage} (permitted : Permitted job past held (.send sender message)) :
    message.about = none := by
  have justified := (permitted.general fun _ => id).1
  cases message with
  | newConnection | data | closeConnection => exact justified.elim
  | _ => rfl

theorem silent_call {config : Config process} {task : Nat} {thread : Thread process} {op : Op} {next}
    (lawful : config.Lawful processContract) (found : config.threads[task]? = some thread)
    (head : thread.rest = .call op next) :
    ∀ sender message, op = .send sender message → message.about = none := by
  intro sender message sends
  have law := lawful.call (List.mem_of_getElem? found) head
  cases job : thread.job with
  | serve served =>
      rw [job] at law
      exact silent_of_permitted (sends ▸ law.2.2)
  | proxy action =>
      rw [job] at law
      exact law.elim

theorem Step.change {before after : Config process} {action : Action process}
    (lawful : before.Lawful processContract) (step : Step before action after) :
    Process.Change (proxyAction action) before.state after.state := by
  cases step with
  | @start job state admitted =>
      cases job with
      | serve job =>
          obtain ⟨world, accepted, rfl⟩ := Option.map_eq_some_iff.mp admitted
          obtain ⟨sessions, rfl⟩ := accept_same accepted
          exact .accepted
      | proxy action =>
          obtain ⟨⟨world, proxies⟩, performed, rfl⟩ := Option.map_eq_some_iff.mp admitted
          exact .performed performed
  | call found head executed =>
      obtain ⟨⟨world, answer⟩, executed', same⟩ := Option.map_eq_some_iff.mp executed
      cases same
      exact .called executed' (silent_call lawful found head)
  | acquire | release => exact .same
  | reboot => exact .rebooted

/-! ## The parts of a view -/

section Parts

variable {world : World} {proxies others : Proxies} {connId other : Uuid}

omit [Externals] in
theorem view_setConnection {connection : Connection} :
    Process.view ⟨world, proxies.setConnection other connection⟩ connId =
      if connId = other then (Process.view ⟨world, proxies⟩ connId).set connection
      else Process.view ⟨world, proxies⟩ connId := by
  by_cases same : connId = other
  · subst same
    simp [Process.view, Proxies.setConnection, View.set]
  · simp [Process.view, Proxies.setConnection, same]

omit [Externals] in
theorem view_setConnSender {there : Bool} :
    Process.view ⟨world.setConnSender other there, proxies⟩ connId =
      if connId = other then { Process.view ⟨world, proxies⟩ connId with registered := there }
      else Process.view ⟨world, proxies⟩ connId := by
  by_cases same : connId = other
  · subst same
    simp only [Process.view, World.setConnSender, Function.update_self, if_true]
    rfl
  · simp only [Process.view, World.setConnSender, Function.update_of_ne same, same, if_false]
    rfl

omit [Externals] in
theorem view_offer {sender : Channel} {message : RelayMessage} :
    Process.view ⟨world.offer others sender message, proxies⟩ connId =
      if message.about = some connId ∧ others.closed sender = false then
        (Process.view ⟨world, proxies⟩ connId).tell sender message
      else Process.view ⟨world, proxies⟩ connId := by
  cases closed : others.closed sender with
  | true => simp [World.offer, closed]
  | false =>
      by_cases about : message.about = some connId
      · simp only [World.offer, closed, about, and_self, if_true, Process.view, View.tell]
        congr 1
        funext channel
        by_cases same : channel = sender
        · subst same
          simp [World.messagesAbout, about]
        · simp [World.messagesAbout, Function.update_of_ne same]
      · simp only [World.offer, closed, about, false_and, if_false, Process.view]
        congr 1
        funext channel
        by_cases same : channel = sender
        · subst same
          simp [World.messagesAbout, about]
        · simp [World.messagesAbout, Function.update_of_ne same]

end Parts

omit [Externals] in
theorem Proxies.after_connections {world : World} {proxies : Proxies} {op : Op} :
    (proxies.after world op).connections = proxies.connections := by
  unfold Proxies.after
  split
  · rfl
  · split <;> rfl
  · rfl

/-- A call of a handler changes a view by queueing a payload or by taking the
connection out of the map. -/
theorem view_called {state : Process} {choice : Choice} {op : Op} {world : World} {result : op.Result}
    {connId : Uuid} {drawn : List Uuid} (executed : exec state.world choice op = some (world, result))
    (silent : ∀ sender message, op = .send sender message → message.about = none) :
    View.Step state.proxies.closed state.world.drawn drawn connId none (state.view connId)
      (Process.view ⟨world, state.proxies.after state.world op⟩ connId) := by
  have connections := @Proxies.after_connections state.world state.proxies op
  have messages : world.messagesAbout connId = state.world.messagesAbout connId := by
    funext channel
    unfold World.messagesAbout
    rw [exec_sent executed]
    cases op with
    | send sender message =>
        by_cases same : channel = sender
        · subst same
          simp [silent _ _ rfl]
        · simp [Function.update_of_ne same]
    | _ => rfl
  have same (registered : world.tcpConnSenders connId = state.world.tcpConnSenders connId)
      (queued : world.queued connId = state.world.queued connId) :
      View.Step state.proxies.closed state.world.drawn drawn connId none (state.view connId)
        (Process.view ⟨world, state.proxies.after state.world op⟩ connId) := by
    have alike : Process.view ⟨world, state.proxies.after state.world op⟩ connId = state.view connId := by
      simp only [Process.view, connections, messages, registered, queued]
    rw [alike]
    exact .same
  have senders := exec_tcpConnSenders executed
  have queues := exec_queued executed
  cases op with
  | enqueueData other data =>
      by_cases here : connId = other ∧ state.world.tcpConnSenders other = true
      · obtain ⟨rfl, registered⟩ := here
        have alike : Process.view ⟨world, state.proxies.after state.world (.enqueueData connId data)⟩ connId =
            { state.view connId with queue := (state.view connId).queue ++ [data] } := by
          simp only [Process.view, connections, messages, senders, queues, registered, if_true,
            Function.update_self]
        rw [alike]
        exact .enqueued registered
      · refine same (by rw [senders]) ?_
        rw [queues]
        dsimp only
        split
        · rename_i registered
          rw [Function.update_of_ne]
          rintro rfl
          exact here ⟨rfl, registered⟩
        · rfl
  | removeConnSender other =>
      by_cases here : connId = other
      · subst here
        have alike : Process.view ⟨world, state.proxies.after state.world (.removeConnSender connId)⟩ connId =
            { state.view connId with registered := false } := by
          simp only [Process.view, connections, messages, senders, queues, Function.update_self]
        rw [alike]
        exact .unregistered
      · exact same (by rw [senders]; exact Function.update_of_ne here _ _) (by rw [queues])
  | _ => exact same (by rw [senders]) (by rw [queues])

/-! ## Listeners and their connections -/

/-- The connections a listener task refers to are its own. -/
structure Listener.Sound (connections : Uuid → Option Connection) (task : Nat) (listener : Listener) :
    Prop where
  registering : ∀ connId, listener.stage = .registering connId →
    ∃ connection, connections connId = some connection ∧ connection.transport = .tcp ∧
      connection.stage = .announced ∧ connection.listener = task
  clients : ∀ addr connId, (addr, connId) ∈ listener.addrToConn →
    ∃ connection, connections connId = some connection ∧ connection.transport = .udp ∧
      connection.agentSender = listener.agentSender ∧ connection.tunnelId = listener.tunnelId
  forwarding : ∀ connId bytes, listener.stage = .forwarding connId bytes →
    ∃ addr, (addr, connId) ∈ listener.addrToConn
  replying : ∀ connId addr data, listener.stage = .replying connId addr data →
    (addr, connId) ∈ listener.addrToConn
  converse : ∀ connId addr, (connId, addr) ∈ listener.connToAddr → (addr, connId) ∈ listener.addrToConn

structure Process.Sound (state : Process) : Prop where
  /-- An identifier not drawn is not in use. -/
  fresh : ∀ connId, connId ∉ state.world.drawn → state.view connId = View.none
  listeners : ∀ task listener, state.proxies.listeners task = some listener →
    listener.Sound state.proxies.connections task
  numbered : ∀ task listener, state.proxies.listeners task = some listener → task < state.world.spawned
  spawned : ∀ connId connection, state.proxies.connections connId = some connection →
    connection.listener < state.world.spawned

/-- The values a connection is accepted with do not change. -/
structure Connection.Alike (connection later : Connection) : Prop where
  transport : later.transport = connection.transport
  listener : later.listener = connection.listener
  tunnelId : later.tunnelId = connection.tunnelId
  agentId : later.agentId = connection.agentId
  agentSender : later.agentSender = connection.agentSender

section Anchors

variable {connections : Uuid → Option Connection} {task : Nat} {listener : Listener} {connId : Uuid}
  {connection : Connection}

omit [Externals] in
/-- A new connection disturbs no listener. -/
theorem Listener.Sound.insert (sound : listener.Sound connections task)
    (new : connections connId = none) :
    listener.Sound (Function.update connections connId (some connection)) task where
  registering := by
    intro other stage
    obtain ⟨found, there, facts⟩ := sound.registering other stage
    refine ⟨found, ?_, facts⟩
    rw [Function.update_of_ne (fun same => by rw [same, new] at there; contradiction)]
    exact there
  clients := by
    intro addr other member
    obtain ⟨found, there, facts⟩ := sound.clients addr other member
    refine ⟨found, ?_, facts⟩
    rw [Function.update_of_ne (fun same => by rw [same, new] at there; contradiction)]
    exact there
  forwarding := sound.forwarding
  replying := sound.replying
  converse := sound.converse

omit [Externals] in
/-- A change to a connection disturbs no listener, unless it moves one that the
listener is about to register. -/
theorem Listener.Sound.replace {later : Connection} (sound : listener.Sound connections task)
    (there : connections connId = some connection) (alike : connection.Alike later)
    (kept : connection.transport = .tcp → connection.stage = .announced → connection.listener = task →
      later.stage = .announced) :
    listener.Sound (Function.update connections connId (some later)) task where
  registering := by
    intro other stage
    obtain ⟨found, known, tcp, announced, own⟩ := sound.registering other stage
    by_cases same : other = connId
    · subst same
      obtain rfl : connection = found := Option.some.inj (there.symm.trans known)
      exact ⟨later, Function.update_self .., alike.transport.trans tcp, kept tcp announced own,
        alike.listener.trans own⟩
    · exact ⟨found, by rwa [Function.update_of_ne same], tcp, announced, own⟩
  clients := by
    intro addr other member
    obtain ⟨found, known, udp, sender, tunnel⟩ := sound.clients addr other member
    by_cases same : other = connId
    · subst same
      obtain rfl : connection = found := Option.some.inj (there.symm.trans known)
      exact ⟨later, Function.update_self .., alike.transport.trans udp, alike.agentSender.trans sender,
        alike.tunnelId.trans tunnel⟩
    · exact ⟨found, by rwa [Function.update_of_ne same], udp, sender, tunnel⟩
  forwarding := sound.forwarding
  replying := sound.replying
  converse := sound.converse

omit [Externals] in
/-- A listener that keeps its clients and is between two connections. -/
theorem Listener.Sound.stand {later : Listener} (sound : listener.Sound connections task)
    (clients : later.addrToConn = listener.addrToConn) (back : later.connToAddr = listener.connToAddr)
    (sender : later.agentSender = listener.agentSender)
    (tunnel : later.tunnelId = listener.tunnelId)
    (stands : later.stage = .checking ∨ later.stage = .waiting ∨ later.stage = listener.stage) :
    later.Sound connections task where
  registering := by
    intro other stage
    rcases stands with same | same | same
    · rw [same] at stage; contradiction
    · rw [same] at stage; contradiction
    · exact sound.registering other (same ▸ stage)
  clients := by
    intro addr other member
    rw [sender, tunnel]
    exact sound.clients addr other (clients ▸ member)
  forwarding := by
    intro other bytes stage
    rw [clients]
    rcases stands with same | same | same
    · rw [same] at stage; contradiction
    · rw [same] at stage; contradiction
    · exact sound.forwarding other bytes (same ▸ stage)
  replying := by
    intro other addr data stage
    rw [clients]
    rcases stands with same | same | same
    · rw [same] at stage; contradiction
    · rw [same] at stage; contradiction
    · exact sound.replying other addr data (same ▸ stage)
  converse := by
    rw [clients, back]
    exact sound.converse

end Anchors

/-- A step keeps the tasks sound and moves every connection by its automaton. -/
structure Process.Follows (label : Option ProxyAction) (state later : Process) : Prop where
  sound : later.Sound
  drawn : state.world.drawn ⊆ later.world.drawn
  views : ∀ connId, View.Step state.proxies.closed state.world.drawn later.world.drawn connId label
    (state.view connId) (later.view connId)

theorem Process.Sound.follows {label : Option ProxyAction} {state later : Process} (sound : state.Sound)
    (views : ∀ connId, View.Step state.proxies.closed state.world.drawn later.world.drawn connId label
      (state.view connId) (later.view connId))
    (drawn : state.world.drawn ⊆ later.world.drawn)
    (listeners : ∀ task listener, later.proxies.listeners task = some listener →
      listener.Sound later.proxies.connections task ∧ task < later.world.spawned)
    (spawned : ∀ connId connection, later.proxies.connections connId = some connection →
      connection.listener < later.world.spawned) : Process.Follows label state later where
  views := views
  drawn := drawn
  sound := {
    fresh := fun connId new => by
      have step := views connId
      rw [sound.fresh connId fun old => new (drawn old)] at step
      exact step.none new
    listeners := fun task listener there => (listeners task listener there).1
    numbered := fun task listener there => (listeners task listener there).2
    spawned := spawned }

/-- What has passed through a socket matters to no task. -/
theorem Process.Follows.record {label : Option ProxyAction} {state : Process} {world : World}
    {proxies : Proxies} {task : Nat} {socket : Option Socket}
    (follows : Process.Follows label state ⟨world, proxies⟩) :
    Process.Follows label state ⟨world, proxies.record task socket⟩ where
  sound := ⟨follows.sound.fresh, follows.sound.listeners, follows.sound.numbered, follows.sound.spawned⟩
  drawn := follows.drawn
  views := follows.views

section Performed

variable {state : Process} {task : Nat} {listener : Listener} {world : World} {proxies : Proxies}
  {action : ProxyAction}

/-- One listener moves on, or ends; nothing else changes. -/
theorem Process.Sound.setListener {label : Option ProxyAction} (sound : state.Sound)
    (there : state.proxies.listeners task = some listener) {later : Option Listener}
    (keeps : ∀ next, later = some next → next.Sound state.proxies.connections task) {drawn : List Uuid}
    (grows : state.world.drawn ⊆ drawn) :
    Process.Follows label state ⟨{ state.world with drawn }, state.proxies.setListener task later⟩ := by
  refine sound.follows (fun _ => .same) grows ?_ sound.spawned
  intro other found known
  by_cases same : other = task
  · subst same
    simp only [Proxies.setListener, Function.update_self] at known
    exact ⟨keeps found known, sound.numbered other listener there⟩
  · simp only [Proxies.setListener, Function.update_of_ne same] at known
    exact ⟨sound.listeners other found known, sound.numbered other found known⟩

/-- One connection moves on, and with it perhaps its listener. -/
theorem Process.Sound.setConnection {label : Option ProxyAction} {connId : Uuid}
    {connection later : Connection} (sound : state.Sound)
    (known : state.proxies.connections connId = some connection) (alike : connection.Alike later)
    (same : proxies.connections = state.proxies.connections)
    (drawn : world.drawn = state.world.drawn) (spawned : world.spawned = state.world.spawned)
    (listeners : ∀ task listener, proxies.listeners task = some listener →
      task < state.world.spawned ∧ listener.Sound state.proxies.connections task ∧
        (connection.transport = .tcp → connection.stage = .announced → connection.listener = task →
          later.stage = .announced ∨ ∀ other, listener.stage ≠ .registering other))
    (views : ∀ other, View.Step state.proxies.closed state.world.drawn world.drawn other label
      (state.view other)
      (Process.view ⟨world, proxies.setConnection connId later⟩ other)) :
    Process.Follows label state ⟨world, proxies.setConnection connId later⟩ := by
  refine sound.follows views (fun _ old => drawn ▸ old) ?_ ?_
  · intro other found there
    obtain ⟨numbered, anchored, moves⟩ := listeners other found there
    refine ⟨?_, spawned ▸ numbered⟩
    simp only [Proxies.setConnection, same]
    by_cases announced : connection.transport = .tcp ∧ connection.stage = .announced ∧
        connection.listener = other
    · rcases moves announced.1 announced.2.1 announced.2.2 with stays | idle
      · exact anchored.replace known alike fun _ _ _ => stays
      · refine ⟨fun other stage => absurd stage (idle other), ?_, anchored.forwarding, anchored.replying, anchored.converse⟩
        intro addr client member
        obtain ⟨entry, entered, udp, facts⟩ := anchored.clients addr client member
        refine ⟨entry, ?_, udp, facts⟩
        rw [Function.update_of_ne]
        · exact entered
        · rintro rfl
          obtain rfl := Option.some.inj (known.symm.trans entered)
          rw [announced.1] at udp
          contradiction
    · exact anchored.replace known alike fun tcp stage own => absurd ⟨tcp, stage, own⟩ announced
  · intro other found there
    simp only [Proxies.setConnection, same] at there
    by_cases here : other = connId
    · subst here
      rw [Function.update_self, Option.some.injEq] at there
      subst there
      rw [alike.listener, spawned]
      exact sound.spawned other connection known
    · rw [Function.update_of_ne here] at there
      exact spawned ▸ sound.spawned other found there

omit [Externals] in
theorem offer_spawned {others : Proxies} {sender : Channel} {message : RelayMessage} :
    (world.offer others sender message).spawned = world.spawned := by
  unfold World.offer
  split <;> rfl

omit [Externals] in
theorem offer_drawn {others : Proxies} {sender : Channel} {message : RelayMessage} :
    (world.offer others sender message).drawn = world.drawn := by
  unfold World.offer
  split <;> rfl

/-- A listener accepts a new connection and announces it. -/
theorem Process.Sound.introduce {label : Option ProxyAction} {connId : Uuid} {next : Listener}
    (sound : state.Sound) (there : state.proxies.listeners task = some listener)
    (new : connId ∉ state.world.drawn)
    (heard : listener.transport = .udp ∨ state.proxies.closed listener.agentSender = false)
    (keeps : next.Sound (Function.update state.proxies.connections connId
      (some (listener.accepted task))) task) :
    Process.Follows label state
      ⟨(state.world.draw connId).offer state.proxies listener.agentSender
          (.newConnection listener.tunnelId connId),
        (state.proxies.setListener task (some next)).setConnection connId (listener.accepted task)⟩ := by
  have unused := sound.fresh connId new
  have absent : state.proxies.connections connId = none := congrArg View.connection unused
  refine sound.follows ?_ ?_ ?_ ?_
  · intro other
    rw [view_setConnection, view_offer]
    change View.Step _ _ _ _ _ _ (if other = connId then
      (if _ then (state.view other).tell _ _ else state.view other).set _ else
      if _ then (state.view other).tell _ _ else state.view other)
    by_cases here : other = connId
    · subst here
      rw [unused, if_pos rfl]
      have known : other ∈ ((state.world.draw other).offer state.proxies listener.agentSender
          (.newConnection listener.tunnelId other)).drawn := by
        rw [offer_drawn]
        exact List.mem_cons_self
      split
      · exact .announced new known
      · rename_i silent
        refine .unannounced new known (heard.resolve_right fun open' => silent ⟨rfl, open'⟩)
    · rw [if_neg here, if_neg]
      · exact .same
      · rintro ⟨about, _⟩
        exact here (Option.some.inj about).symm
  · rw [offer_drawn]
    exact List.subset_cons_self _ _
  · intro other found known
    rw [offer_spawned]
    by_cases same : other = task
    · subst same
      simp only [Proxies.setConnection, Proxies.setListener, Function.update_self, Option.some.injEq] at known
      subst known
      exact ⟨keeps, sound.numbered other listener there⟩
    · simp only [Proxies.setConnection, Proxies.setListener, Function.update_of_ne same] at known
      exact ⟨(sound.listeners other found known).insert absent, sound.numbered other found known⟩
  · intro other found known
    rw [offer_spawned]
    by_cases here : other = connId
    · subst here
      simp only [Proxies.setConnection, Function.update_self, Option.some.injEq] at known
      subst known
      exact sound.numbered task listener there
    · simp only [Proxies.setConnection, Function.update_of_ne here] at known
      exact sound.spawned other found known

omit [Externals] in
/-- Listeners that stand as they did, apart from one that has left a connection. -/
theorem Process.Sound.listeners_after (sound : state.Sound)
    (there : state.proxies.listeners task = some listener) {next : Option Listener}
    {connection : Connection} {kept : Prop}
    (keeps : ∀ later, next = some later → later.Sound state.proxies.connections task ∧
      ∀ other, later.stage ≠ .registering other)
    (own : connection.transport = .tcp → connection.stage = .announced → connection.listener = task ∨ kept) :
    ∀ other found, (state.proxies.setListener task next).listeners other = some found →
      other < state.world.spawned ∧ found.Sound state.proxies.connections other ∧
        (connection.transport = .tcp → connection.stage = .announced → connection.listener = other →
          kept ∨ ∀ client, found.stage ≠ .registering client) := by
  intro other found known
  by_cases same : other = task
  · subst same
    simp only [Proxies.setListener, Function.update_self] at known
    obtain ⟨anchored, idle⟩ := keeps found known
    exact ⟨sound.numbered other listener there, anchored, fun _ _ _ => .inr idle⟩
  · simp only [Proxies.setListener, Function.update_of_ne same] at known
    refine ⟨sound.numbered other found known, sound.listeners other found known, fun tcp stage listens => ?_⟩
    rcases own tcp stage with here | holds
    · exact absurd (listens.symm.trans here) same
    · exact .inl holds

theorem Process.Sound.listen (sound : state.Sound) (there : state.proxies.listeners task = some listener)
    (performed : state.proxies.listen state.world task listener action = some (world, proxies)) :
    Process.Follows (some action) state ⟨world, proxies⟩ := by
  have anchored := sound.listeners task listener there
  have stands (stage : ListenerStage) (stands : stage = .checking ∨ stage = .waiting) :
      Listener.Sound state.proxies.connections task { listener with stage } :=
    anchored.stand rfl rfl rfl rfl (stands.imp_right .inl)
  have moves {stage : ListenerStage} (idle : stage = .checking ∨ stage = .waiting) :
      Process.Follows (some action) state
        ⟨state.world, state.proxies.setListener task (some { listener with stage })⟩ :=
    sound.setListener there (fun _ same => Option.some.inj same ▸ stands stage idle) (List.Subset.refl _)
  have ends {drawn : List Uuid} (grows : state.world.drawn ⊆ drawn) :
      Process.Follows (some action) state
        ⟨{ state.world with drawn }, state.proxies.setListener task none⟩ :=
    sound.setListener there (fun _ same => by contradiction) grows
  cases action with
  | cancel =>
      simp only [Proxies.listen] at performed
      split at performed
      · split at performed
        · rename_i connId stage
          obtain ⟨connection, known, tcp, announced, own⟩ := anchored.registering connId stage
          rw [known] at performed
          cases performed
          refine sound.setConnection known ⟨rfl, rfl, rfl, rfl, rfl⟩ rfl rfl rfl
            (sound.listeners_after there (fun _ same => by contradiction) fun _ _ => .inl own) ?_
          intro other
          rw [view_setConnection]
          split
          · rename_i here
            subst here
            exact .dropped known tcp announced
          · exact .same
        · cases performed
          exact ends (List.Subset.refl _)
      · contradiction
  | check =>
      simp only [Proxies.listen] at performed
      split at performed
      · split at performed
        · cases performed
          exact ends (List.Subset.refl _)
        · cases performed
          exact moves (.inr rfl)
      · contradiction
  | fault =>
      simp only [Proxies.listen] at performed
      split at performed
      · cases performed
        exact moves (.inl rfl)
      · contradiction
  | accept _ connId =>
      simp only [Proxies.listen] at performed
      split at performed
      · rename_i ready
        obtain ⟨tcp, _, new⟩ := ready
        split at performed
        · cases performed
          exact ends (List.subset_cons_self _ _)
        · rename_i open'
          cases performed
          have inserted : listener.Sound (Function.update state.proxies.connections connId
              (some (listener.accepted task))) task :=
            anchored.insert (congrArg View.connection (sound.fresh connId new))
          refine sound.introduce there new (.inr (by simpa using open'))
            ⟨?_, inserted.clients, ?_, ?_, inserted.converse⟩
          · intro other stage
            cases stage
            exact ⟨_, Function.update_self .., tcp, rfl, rfl⟩
          · intro other bytes stage
            contradiction
          · intro other addr data stage
            contradiction
      · contradiction
  | register =>
      simp only [Proxies.listen] at performed
      split at performed
      · rename_i connId stage
        obtain ⟨connection, known, tcp, announced, own⟩ := anchored.registering connId stage
        rw [known] at performed
        cases performed
        refine sound.setConnection known ⟨rfl, rfl, rfl, rfl, rfl⟩ rfl rfl rfl
          (sound.listeners_after there (fun _ same => ?_) fun _ _ => .inl own) ?_
        · rw [← Option.some.inj same]
          exact ⟨stands _ (.inl rfl), by simp⟩
        · intro other
          rw [view_setConnection, view_setConnSender]
          split
          · rename_i here
            subst here
            exact .registered known announced
          · exact .same
      · contradiction
  | receive _ addr bytes connId =>
      simp only [Proxies.listen] at performed
      split at performed
      · rename_i ready
        split at performed
        · rename_i first known found
          cases performed
          refine (sound.setListener there (fun _ same => ?_) (List.Subset.refl _)).record
          rw [← Option.some.inj same]
          refine ⟨fun _ stage => by contradiction, anchored.clients, ?_, fun _ _ _ stage => by contradiction,
            anchored.converse⟩
          intro other chunk stage
          cases stage
          exact ⟨first, List.mem_of_find?_eq_some found⟩
        · split at performed
          · rename_i new
            cases performed
            have inserted : listener.Sound (Function.update state.proxies.connections connId
                (some (listener.accepted task))) task :=
              anchored.insert (congrArg View.connection (sound.fresh connId new))
            refine (sound.introduce there new (.inl ready.1) ⟨fun _ stage => by contradiction, ?_, ?_,
              fun _ _ _ stage => by contradiction, ?_⟩).record
            · intro client other member
              rcases List.mem_cons.mp member with first | old
              · cases first
                exact ⟨_, Function.update_self .., ready.1, rfl, rfl⟩
              · exact inserted.clients client other old
            · intro other chunk stage
              cases stage
              exact ⟨addr, List.mem_cons_self⟩
            · intro other client member
              rcases List.mem_cons.mp member with first | old
              · cases first
                exact List.mem_cons_self
              · exact List.mem_cons_of_mem _ (anchored.converse other client old)
          · contradiction
      · contradiction
  | forwardDatagram number =>
      simp only [Proxies.listen] at performed
      split at performed
      · rename_i connId bytes stage
        obtain ⟨addr, member⟩ := anchored.forwarding connId bytes stage
        obtain ⟨connection, known, udp, sender, _⟩ := anchored.clients addr connId member
        cases performed
        refine sound.follows ?_ (by rw [offer_drawn]; exact List.Subset.refl _) ?_ ?_
        · intro other
          rw [view_offer]
          split
          · rename_i about
            obtain rfl : connId = other := Option.some.inj about.1
            have passed : View.Step state.proxies.closed state.world.drawn
                ((state.world.offer state.proxies listener.agentSender (.data connId (encodeBase64 bytes))).drawn) connId (some (.forwardDatagram number))
                (state.view connId) ((state.view connId).tell connection.agentSender
                  (.data connId (encodeBase64 bytes))) := .datagram known udp
            rw [sender] at passed
            exact passed
          · exact .same
        · intro other found known'
          rw [offer_spawned]
          by_cases same : other = task
          · subst same
            simp only [Proxies.setListener, Function.update_self, Option.some.injEq] at known'
            subst known'
            exact ⟨stands _ (.inl rfl), sound.numbered other listener there⟩
          · simp only [Proxies.setListener, Function.update_of_ne same] at known'
            exact ⟨sound.listeners other found known', sound.numbered other found known'⟩
        · intro other found known'
          rw [offer_spawned]
          exact sound.spawned other found known'
      · contradiction
  | takeReply =>
      simp only [Proxies.listen] at performed
      split at performed
      · split at performed
        · rename_i connId data rest _
          split at performed
          · rename_i id addr found
            cases performed
            refine sound.setListener there (fun _ same => ?_) (List.Subset.refl _)
            rw [← Option.some.inj same]
            refine ⟨fun _ stage => by contradiction, anchored.clients, fun _ _ stage => by contradiction, ?_,
              anchored.converse⟩
            intro other client payload stage
            cases stage
            obtain rfl : id = connId := by simpa using List.find?_some found
            exact anchored.converse id addr (List.mem_of_find?_eq_some found)
          · cases performed
            refine sound.setListener there (fun _ same => ?_) (List.Subset.refl _)
            rw [← Option.some.inj same]
            exact anchored.stand rfl rfl rfl rfl (.inl rfl)
        · contradiction
      · contradiction
  | sendTo =>
      simp only [Proxies.listen] at performed
      split at performed
      · rename_i connId addr data stage
        obtain ⟨connection, known, udp, _⟩ :=
          anchored.clients addr connId (anchored.replying connId addr data stage)
        rw [known] at performed
        cases performed
        refine Process.Follows.record ?_
        refine sound.setConnection known ⟨rfl, rfl, rfl, rfl, rfl⟩ rfl rfl rfl
          (sound.listeners_after there (fun _ same => ?_) fun tcp _ => ?_) ?_
        · rw [← Option.some.inj same]
          exact ⟨stands _ (.inl rfl), by simp⟩
        · rw [udp] at tcp
          contradiction
        · intro other
          rw [view_setConnection]
          split
          · rename_i here
            subst here
            exact .replied known udp
          · exact .same
      · contradiction
  | _ => contradiction

/-- The task of a connection moves on; the listeners stand as they did. -/
theorem Process.Sound.move {label : Option ProxyAction} {connId : Uuid} {connection later : Connection}
    (sound : state.Sound) (known : state.proxies.connections connId = some connection)
    (alike : connection.Alike later)
    (keeps : connection.transport = .tcp → connection.stage = .announced → later.stage = .announced)
    (drawn : world.drawn = state.world.drawn) (spawned : world.spawned = state.world.spawned)
    (views : ∀ other, View.Step state.proxies.closed state.world.drawn world.drawn other label
      (state.view other)
      (Process.view ⟨world, state.proxies.setConnection connId later⟩ other)) :
    Process.Follows label state ⟨world, state.proxies.setConnection connId later⟩ :=
  sound.setConnection known alike rfl drawn spawned (fun task listener there =>
    ⟨sound.numbered task listener there, sound.listeners task listener there,
      fun tcp stage _ => .inl (keeps tcp stage)⟩) views

/-- The same where the state of the relay does not change. -/
theorem Process.Sound.moveAlone {label : Option ProxyAction} {connId : Uuid}
    {connection later : Connection} (sound : state.Sound)
    (known : state.proxies.connections connId = some connection) (alike : connection.Alike later)
    (keeps : connection.transport = .tcp → connection.stage = .announced → later.stage = .announced)
    (step : View.Step state.proxies.closed state.world.drawn state.world.drawn connId label
      (state.view connId) ((state.view connId).set later)) :
    Process.Follows label state ⟨state.world, state.proxies.setConnection connId later⟩ := by
  refine sound.move known alike keeps rfl rfl fun other => ?_
  rw [view_setConnection]
  split
  · rename_i here
    subst here
    exact step
  · exact .same

theorem Process.Sound.serveTcp {connId : Uuid} {connection : Connection} (sound : state.Sound)
    (known : state.proxies.connections connId = some connection) (tcp : connection.transport = .tcp)
    (names : action.connection = some connId)
    (performed : state.proxies.serveTcp state.world connId connection action = some (world, proxies)) :
    Process.Follows (some action) state ⟨world, proxies⟩ := by
  have alike {stage unread finished read taken written} :
      connection.Alike { connection with stage, unread, finished, read, taken, written } :=
    ⟨rfl, rfl, rfl, rfl, rfl⟩
  have there : (state.view connId).connection = some connection := known
  cases action with
  | arrive other bytes =>
      cases names
      simp only [Proxies.serveTcp] at performed
      split at performed
      · rename_i open'
        cases performed
        exact sound.moveAlone known alike (fun _ stage => stage) (.arrived there tcp open')
      · contradiction
  | finish other =>
      cases names
      cases performed
      exact sound.moveAlone known alike (fun _ stage => stage) (.finished there tcp)
  | read other size =>
      cases names
      simp only [Proxies.serveTcp] at performed
      split at performed
      · rename_i ready
        obtain ⟨stage, some', _, fits⟩ := ready
        cases performed
        exact sound.moveAlone known alike (fun _ old => by rw [stage] at old; contradiction)
          (.read there tcp stage ⟨some', fits⟩)
      · contradiction
  | readEof other =>
      cases names
      simp only [Proxies.serveTcp] at performed
      split at performed
      · rename_i ready
        cases performed
        exact sound.moveAlone known alike (fun _ old => by rw [ready.1] at old; contradiction)
          (.leftEof there tcp ready.1)
      · contradiction
  | readError other =>
      cases names
      simp only [Proxies.serveTcp] at performed
      split at performed
      · rename_i stage
        cases performed
        exact sound.moveAlone known alike (fun _ old => by rw [stage] at old; contradiction)
          (.leftError there tcp stage)
      · contradiction
  | forward other =>
      cases names
      simp only [Proxies.serveTcp] at performed
      split at performed
      · rename_i bytes stage
        split at performed
        · rename_i deaf
          cases performed
          exact sound.moveAlone known alike (fun _ old => by rw [stage] at old; contradiction)
            (.leftUnsent there tcp stage deaf)
        · rename_i open'
          cases performed
          refine sound.move known alike (fun _ old => by rw [stage] at old; contradiction)
            offer_drawn offer_spawned fun client => ?_
          rw [view_setConnection, view_offer]
          by_cases here : client = connId
          · subst here
            rw [if_pos rfl, if_pos ⟨rfl, by simpa using open'⟩]
            exact .forwarded there tcp stage (by simpa using open')
          · rw [if_neg here, if_neg fun about => here (Option.some.inj about.1).symm]
            exact .same
      · contradiction
  | take other =>
      cases names
      simp only [Proxies.serveTcp] at performed
      split at performed
      · rename_i stage
        split at performed
        · rename_i data next
          cases performed
          exact sound.moveAlone known alike (fun _ old => by rw [stage] at old; contradiction)
            (.took there tcp stage next)
        · contradiction
      · contradiction
  | writeAll other =>
      cases names
      simp only [Proxies.serveTcp] at performed
      split at performed
      · rename_i data stage
        cases performed
        exact sound.moveAlone known alike (fun _ old => by rw [stage] at old; contradiction)
          (.wrote there tcp stage)
      · contradiction
  | writeError other =>
      cases names
      simp only [Proxies.serveTcp] at performed
      split at performed
      · rename_i data stage
        cases performed
        exact sound.moveAlone known alike (fun _ old => by rw [stage] at old; contradiction)
          (.leftUnwritten there tcp stage)
      · contradiction
  | close other =>
      cases names
      simp only [Proxies.serveTcp] at performed
      split at performed
      · rename_i stage
        cases performed
        refine sound.move known alike (fun _ old => by rw [stage] at old; contradiction)
          offer_drawn offer_spawned fun client => ?_
        rw [view_setConnection, view_offer]
        by_cases here : client = connId
        · subst here
          rw [if_pos rfl]
          split
          · exact .closed there tcp stage
          · rename_i silent
            exact .closedUnheard there tcp stage (by simpa [RelayMessage.about] using silent)
        · rw [if_neg here, if_neg fun about => here (Option.some.inj about.1).symm]
          exact .same
      · contradiction
  | remove other =>
      cases names
      simp only [Proxies.serveTcp] at performed
      split at performed
      · rename_i stage
        cases performed
        refine sound.move known alike (fun _ old => by rw [stage] at old; contradiction) rfl rfl
          fun client => ?_
        rw [view_setConnection, view_setConnSender]
        split
        · rename_i here
          subst here
          exact .removed there tcp stage
        · exact .same
      · contradiction
  | _ => contradiction

theorem Process.Sound.serveUdp {connId : Uuid} {connection : Connection} (sound : state.Sound)
    (known : state.proxies.connections connId = some connection) (udp : connection.transport = .udp)
    (names : action.connection = some connId)
    (performed : state.proxies.serveUdp state.world connId connection action = some (world, proxies)) :
    Process.Follows (some action) state ⟨world, proxies⟩ := by
  have alike {stage unread finished read taken written} :
      connection.Alike { connection with stage, unread, finished, read, taken, written } :=
    ⟨rfl, rfl, rfl, rfl, rfl⟩
  have there : (state.view connId).connection = some connection := known
  have datagrams : ∀ {goal : Prop}, connection.transport = .tcp → goal := fun tcp => by
    rw [udp] at tcp
    contradiction
  cases action with
  | enroll other =>
      cases names
      simp only [Proxies.serveUdp] at performed
      split at performed
      · rename_i stage
        cases performed
        refine sound.move known alike (fun tcp _ => datagrams tcp) rfl rfl fun client => ?_
        rw [view_setConnection, view_setConnSender]
        split
        · rename_i here
          subst here
          exact .registered there stage
        · exact .same
      · contradiction
  | passOn other =>
      cases names
      simp only [Proxies.serveUdp] at performed
      split at performed
      · split at performed
        · rename_i data next
          have views {others : Nat → Option Listener} : ∀ client,
              View.Step state.proxies.closed state.world.drawn state.world.drawn client (some (.passOn connId)) (state.view client) (Process.view ⟨state.world,
                { state.proxies with listeners := others }.setConnection connId
                  { connection with taken := connection.taken + 1 }⟩ client) := by
            intro client
            rw [view_setConnection]
            split
            · rename_i here
              subst here
              exact .passedOn there udp (List.getElem?_eq_some_iff.mp next).1
            · exact .same
          split at performed
          · rename_i listener found
            cases performed
            refine @Process.Sound.setConnection _ state state.world
              (state.proxies.setListener connection.listener
                (some { listener with inbox := listener.inbox ++ [(connId, data)] }))
              _ connId connection _ sound known alike rfl rfl rfl ?_ views
            intro task standing listed
            refine ⟨?_, ?_, fun tcp => datagrams tcp⟩
            · by_cases same : task = connection.listener
              · subst same
                exact sound.numbered _ listener found
              · simp only [Proxies.setListener, Function.update_of_ne same] at listed
                exact sound.numbered task standing listed
            · by_cases same : task = connection.listener
              · subst same
                simp only [Proxies.setListener, Function.update_self, Option.some.injEq] at listed
                subst listed
                exact (sound.listeners _ listener found).stand rfl rfl rfl rfl (.inr (.inr rfl))
              · simp only [Proxies.setListener, Function.update_of_ne same] at listed
                exact sound.listeners task standing listed
          · cases performed
            exact sound.move known alike (fun tcp _ => datagrams tcp) rfl rfl views
        · contradiction
      · contradiction
  | retire other =>
      cases names
      simp only [Proxies.serveUdp] at performed
      split at performed
      · rename_i ready
        cases performed
        exact sound.moveAlone known alike (fun tcp _ => datagrams tcp) (.retired there udp ready.2.1)
      · contradiction
  | _ => contradiction

theorem Process.Sound.perform (sound : state.Sound)
    (performed : state.proxies.perform state.world action = some (world, proxies)) :
    Process.Follows (some action) state ⟨world, proxies⟩ := by
  unfold Proxies.perform at performed
  split at performed
  · rename_i sender
    cases performed
    exact sound.follows (fun _ => .same) (List.Subset.refl _)
      (fun task listener there => ⟨sound.listeners task listener there, sound.numbered task listener there⟩)
      sound.spawned
  · split at performed
    · split at performed
      · rename_i task _ listener there
        exact sound.listen there performed
      · contradiction
    · split at performed
      · rename_i connId names
        split at performed
        · rename_i connection known
          split at performed
          · rename_i tcp
            exact sound.serveTcp known tcp names performed
          · rename_i udp
            exact sound.serveUdp known udp names performed
        · contradiction
      · contradiction

end Performed

/-! ## Runs -/

omit [Externals] in
theorem Process.Sound.initial {portRange : UInt16 × UInt16} : (Process.initial portRange).Sound where
  fresh := fun _ _ => rfl
  listeners := fun _ _ there => by simp [Process.initial, Proxies.none] at there
  numbered := fun _ _ there => by simp [Process.initial, Proxies.none] at there
  spawned := fun _ _ there => by simp [Process.initial, Proxies.none] at there

theorem Process.Sound.change {label : Option ProxyAction} {state later : Process} (sound : state.Sound)
    (change : Process.Change label state later) : Process.Follows label state later := by
  have still (world : World)
      (views : ∀ connId, View.Step state.proxies.closed state.world.drawn world.drawn connId label
        (state.view connId) (Process.view ⟨world, state.proxies⟩ connId))
      (drawn : state.world.drawn ⊆ world.drawn) (spawned : state.world.spawned = world.spawned) :
      Process.Follows label state ⟨world, state.proxies⟩ :=
    sound.follows views drawn
      (fun task listener there => ⟨sound.listeners task listener there,
        spawned ▸ sound.numbered task listener there⟩)
      (fun connId connection there => spawned ▸ sound.spawned connId connection there)
  cases change with
  | same => exact still _ (fun _ => .same) (List.Subset.refl _) rfl
  | accepted => exact still _ (fun _ => .same) (List.Subset.refl _) rfl
  | @called _ choice op world result executed silent =>
      have views (connId : Uuid) := @view_called _ state choice op world result connId world.drawn
        executed silent
      have drawn := exec_drawn executed
      have spawned := exec_spawned executed
      cases op with
      | spawnProxy transport port tunnelId agentId sender =>
          refine sound.follows views drawn ?_ ?_
          · intro task listener there
            rw [spawned]
            by_cases same : task = state.world.spawned
            · subst same
              simp only [Proxies.after, Proxies.record, Proxies.setListener, Function.update_self, Option.some.injEq] at there
              subst there
              exact ⟨⟨fun _ stage => by contradiction, fun _ _ member => by simp at member,
                fun _ _ stage => by contradiction, fun _ _ _ stage => by contradiction,
                fun _ _ member => by simp at member⟩, Nat.lt_succ_self _⟩
            · simp only [Proxies.after, Proxies.record, Proxies.setListener, Function.update_of_ne same] at there
              exact ⟨sound.listeners task listener there,
                Nat.lt_succ_of_lt (sound.numbered task listener there)⟩
          · intro connId connection there
            rw [spawned]
            exact Nat.lt_succ_of_lt (sound.spawned connId connection there)
      | removeTunnelTask tunnelId =>
          have same := @Proxies.after_connections state.world state.proxies (.removeTunnelTask tunnelId)
          refine sound.follows views drawn ?_ ?_
          · intro task listener there
            rw [spawned, same]
            simp only [Proxies.after] at there
            split at there
            · rename_i handle _
              by_cases here : task = handle.task
              · subst here
                simp only [Proxies.setListener, Function.update_self, Option.map_eq_some_iff] at there
                obtain ⟨old, known, rfl⟩ := there
                exact ⟨(sound.listeners _ old known).stand rfl rfl rfl rfl (.inr (.inr rfl)),
                  sound.numbered _ old known⟩
              · simp only [Proxies.setListener, Function.update_of_ne here] at there
                exact ⟨sound.listeners task listener there, sound.numbered task listener there⟩
            · exact ⟨sound.listeners task listener there, sound.numbered task listener there⟩
          · intro connId connection there
            rw [same] at there
            rw [spawned]
            exact sound.spawned connId connection there
      | _ => exact still _ views drawn spawned.symm
  | performed performed => exact sound.perform performed
  | rebooted =>
      refine sound.follows (fun _ => .rebooted) (List.Subset.refl _) ?_ ?_
      · intro task listener there
        simp [Proxies.none] at there
      · intro connId connection there
        simp [Proxies.none] at there

section Runs

variable {allowed : Condition process} {portRange : UInt16 × UInt16} {config : Config process}

theorem Runs.sound (runs : Runs allowed portRange config) : config.state.Sound := by
  refine @Reachable.induct _ process allowed (fun config => config.state.Sound) _ _
    Process.Sound.initial ?_ runs
  intro before action after earlier sound _ step
  exact (sound.change (Step.change (Runs.lawful earlier) step)).sound

/-- A connection has an identifier that was drawn. -/
theorem Runs.drawn {connId : Uuid} {connection : Connection} (runs : Runs allowed portRange config)
    (there : config.state.proxies.connections connId = some connection) :
    connId ∈ config.state.world.drawn := by
  by_contra new
  have unused := congrArg View.connection (runs.sound.fresh connId new)
  rw [show (config.state.view connId).connection = some connection from there] at unused
  contradiction

/-- Every step of a run moves every connection by its automaton. -/
theorem Runs.follows {after : Config process} {action : Action process} (runs : Runs allowed portRange config)
    (step : Step config action after) :
    Process.Follows (proxyAction action) config.state after.state :=
  runs.sound.change (Step.change runs.lawful step)

end Runs

end TunnelitRelay
