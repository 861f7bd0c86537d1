import Mathlib.Algebra.BigOperators.Group.Finset.Piecewise
import TunnelitRelay.AgentClose
import TunnelitRelay.ReadIsolation

namespace TunnelitRelay

open Concurrent

/-! # Traffic accounting

A task that has a chunk in its hands takes three steps with it: it waits for the
counters, records the chunk, and passes it on.  Other tasks move in between, and
a listener can be dropped while it waits.
-/

/-- A task that passes chunks on. -/
inductive Worker where
  | listener (task : Nat)
  | connection (connId : Uuid)
deriving DecidableEq, Repr

inductive Direction where
  | inward
  | outward
deriving DecidableEq, Repr

/-- A chunk that has been read and not yet passed on. -/
structure Chunk where
  tunnelId : Uuid
  connId : Uuid
  direction : Direction
  bytes : List UInt8
deriving DecidableEq, Repr

def Listener.hand (listener : Listener) : Option Chunk :=
  match listener.stage with
  | .forwarding connId bytes => some ⟨listener.tunnelId, connId, .inward, bytes⟩
  | .replying connId _ data => some ⟨listener.tunnelId, connId, .outward, data⟩
  | _ => none

def Connection.hand (connection : Connection) (connId : Uuid) : Option Chunk :=
  match connection.stage with
  | .forwarding bytes => some ⟨connection.tunnelId, connId, .inward, bytes⟩
  | .writing data => some ⟨connection.tunnelId, connId, .outward, data⟩
  | _ => none

/-- What a task has in its hands. -/
def Proxies.hand (proxies : Proxies) : Worker → Option Chunk
  | .listener task => (proxies.listeners task).bind Listener.hand
  | .connection connId => (proxies.connections connId).bind (·.hand connId)

/-- The task that passes its chunk on to the agent. -/
def ProxyAction.sender : ProxyAction → Option Worker
  | .forward connId => some (.connection connId)
  | .forwardDatagram task => some (.listener task)
  | _ => none

/-- The task whose write to a client ends. -/
def ProxyAction.writer : ProxyAction → Option Worker
  | .writeAll connId | .writeError connId => some (.connection connId)
  | .sendTo task => some (.listener task)
  | _ => none

/-- The task that is dropped. -/
def ProxyAction.dropped : ProxyAction → Option Worker
  | .cancel task => some (.listener task)
  | _ => none

/-- The call of `record_traffic` for a chunk. -/
def LiveTraffic.charge (traffic : LiveTraffic) (chunk : Chunk) : LiveTraffic :=
  match chunk.direction with
  | .inward => traffic.record chunk.tunnelId (.ofNat chunk.bytes.length) 0
  | .outward => traffic.record chunk.tunnelId 0 (.ofNat chunk.bytes.length)

/-- The process with its counters: the tasks that have recorded the chunk in
their hands and not yet passed it on, those in the middle of a write, and all
writes to client sockets that were started. -/
structure Metered where
  process : Process
  liveTraffic : LiveTraffic
  recorded : List Worker
  writing : List Worker
  started : List (Uuid × List UInt8)

def Metered.initial (portRange : UInt16 × UInt16) : Metered where
  process := Process.initial portRange
  liveTraffic := fun _ => none
  recorded := []
  writing := []
  started := []

/-- A job of the process, or a step that a task takes with the chunk in its hands. -/
inductive Labor where
  | work (work : Work)
  | recordTraffic (worker : Worker)
  | startWrite (worker : Worker)
deriving DecidableEq

/-- Nothing is passed on that has not been recorded, no write ends that was not
started, and a listener that has recorded a chunk goes on to pass it on before
it can be dropped: there is no await point in between. -/
def Metered.ready (state : Metered) (action : ProxyAction) : Bool :=
  action.sender.all (· ∈ state.recorded) && action.writer.all (· ∈ state.writing) &&
    action.dropped.all (· ∉ state.recorded)

section System

variable [Externals]

def Metered.accept (state : Metered) : Labor → Option Metered
  | .work (.serve job) =>
      (TunnelitRelay.process.accept state.process (.serve job)).map fun process => { state with process }
  | .work (.proxy action) =>
      if state.ready action then
        (TunnelitRelay.process.accept state.process (.proxy action)).map fun process => { state with
          process
          recorded := action.sender.elim state.recorded state.recorded.erase
          writing := (action.writer.or action.dropped).elim state.writing state.writing.erase }
      else none
  | .recordTraffic worker =>
      match state.process.proxies.hand worker with
      | some chunk =>
          if worker ∉ state.recorded ∧ worker ∉ state.writing then
            some { state with
              liveTraffic := state.liveTraffic.charge chunk
              recorded := worker :: state.recorded }
          else none
      | none => none
  | .startWrite worker =>
      match state.process.proxies.hand worker with
      | some chunk =>
          if chunk.direction = .outward ∧ worker ∈ state.recorded then
            some { state with
              recorded := state.recorded.erase worker
              writing := worker :: state.writing
              started := state.started ++ [(chunk.connId, chunk.bytes)] }
          else none
      | none => none

abbrev metered : System relaySignature where
  State := Metered
  Choice := Choice
  Job := Labor
  Reply := Reply
  exec := fun state choice op =>
    (TunnelitRelay.process.exec state.process choice op).map fun (process, result) => ({ state with process }, result)
  accept := Metered.accept
  program := fun labor =>
    match labor with
    | .work work => TunnelitRelay.process.program work
    | _ => .done .none
  reboot := fun state =>
    { process := TunnelitRelay.process.reboot state.process, liveTraffic := fun _ => none, recorded := [],
      writing := [], started := [] }

/-- No agent's channel is closed in the run. -/
def channelsOpen : Condition metered := fun _ action =>
  ∀ sender, action ≠ .start (.work (.proxy (.closeChannel sender)))

/-! ## What was passed on -/

/-- The decoded length of a message of data. -/
def RelayMessage.dataBytes : RelayMessage → Nat
  | .data _ payload => ((decodeBase64 payload).getD []).length
  | _ => 0

def World.dataTold (world : World) (connId : Uuid) (channel : Channel) : Nat :=
  ((world.messagesAbout connId channel).map RelayMessage.dataBytes).sum

/-- The bytes told about a connection to its agent, if it is one of the tunnel. -/
def Process.bytesTold (state : Process) (tunnelId connId : Uuid) : Nat :=
  match state.proxies.connections connId with
  | some connection =>
      if connection.tunnelId = tunnelId then state.world.dataTold connId connection.agentSender else 0
  | none => 0

/-- The total decoded length of the data put on the channels for the tunnel's connections. -/
def Process.bytesIn (state : Process) (tunnelId : Uuid) : Nat :=
  ∑ connId ∈ state.world.drawn.toFinset, state.bytesTold tunnelId connId

end System

def Proxies.isOf (proxies : Proxies) (tunnelId connId : Uuid) : Bool :=
  (proxies.connections connId).any (·.tunnelId == tunnelId)

/-- The total length of the payloads for the tunnel's connections whose write was started. -/
def Metered.bytesOut (state : Metered) (tunnelId : Uuid) : Nat :=
  (state.started.map fun entry =>
    if state.process.proxies.isOf tunnelId entry.1 then entry.2.length else 0).sum

/-- What a task in the middle of its steps has recorded. -/
def Proxies.recordedBytes (proxies : Proxies) (direction : Direction) (tunnelId : Uuid) (worker : Worker) : Nat :=
  (proxies.hand worker).elim 0 fun chunk =>
    if chunk.tunnelId = tunnelId ∧ chunk.direction = direction then chunk.bytes.length else 0

/-- What is recorded and not yet passed on. -/
def Metered.pending (state : Metered) (direction : Direction) (tunnelId : Uuid) : Nat :=
  (state.recorded.map (state.process.proxies.recordedBytes direction tunnelId)).sum

/-! ## What an action tells the agents -/

section Actions

variable [Externals] {world world' : World} {proxies proxies' : Proxies} {action : ProxyAction}

theorem dataTold_offer {others : Proxies} {sender channel : Channel} {message : RelayMessage} {connId : Uuid}
    (hears : others.closed sender = false) : (world.offer others sender message).dataTold connId channel =
      world.dataTold connId channel +
        if message.about = some connId ∧ channel = sender then message.dataBytes else 0 := by
  simp only [World.dataTold, World.messagesAbout, World.offer, hears, Bool.false_eq_true, if_false]
  by_cases here : channel = sender
  · subst here
    rw [Function.update_self]
    by_cases about : message.about = some connId
    · simp [about]
    · simp [about]
  · simp [here]

/-- Nothing but the passing on of a chunk tells an agent any data. -/
theorem perform_dataTold (hears : ∀ channel, proxies.closed channel = false)
    (performed : proxies.perform world action = some (world', proxies')) (other : action.sender = none)
    (connId : Uuid) (channel : Channel) : world'.dataTold connId channel = world.dataTold connId channel := by
  have offers (world : World) {sender : Channel} {message : RelayMessage} (empty : message.dataBytes = 0) :
      (world.offer proxies sender message).dataTold connId channel = world.dataTold connId channel := by
    rw [dataTold_offer (hears sender), empty]
    simp
  unfold Proxies.perform at performed
  split at performed
  · cases performed
    rfl
  · split at performed
    · split at performed
      · unfold Proxies.listen at performed
        split at performed <;> (repeat' split at performed) <;> cases performed
        all_goals first
          | contradiction
          | rfl
          | exact offers _ rfl
      · contradiction
    · split at performed
      · split at performed
        · split at performed
          · unfold Proxies.serveTcp at performed
            split at performed <;> (repeat' split at performed) <;> cases performed
            all_goals first
              | contradiction
              | rfl
              | exact offers _ rfl
          · unfold Proxies.serveUdp at performed
            split at performed <;> (repeat' split at performed) <;> cases performed <;> rfl
        · contradiction
      · contradiction

/-- The chunk passed on is told to the agent of its connection. -/
structure Tells (proxies : Proxies) (world world' : World) (worker : Worker) (chunk : Chunk)
    (connection : Connection) : Prop where
  held : proxies.hand worker = some chunk
  inward : chunk.direction = .inward
  known : proxies.connections chunk.connId = some connection
  tunnel : connection.tunnelId = chunk.tunnelId
  told : ∀ connId channel, world'.dataTold connId channel = world.dataTold connId channel +
    if chunk.connId = connId ∧ channel = connection.agentSender then chunk.bytes.length else 0

theorem dataBytes_data {connId : Uuid} {bytes : List UInt8} :
    (RelayMessage.data connId (encodeBase64 bytes)).dataBytes = bytes.length := by
  simp [RelayMessage.dataBytes, decodeBase64_encode]

theorem perform_tells {worker : Worker} (sound : Process.Sound ⟨world, proxies⟩)
    (hears : ∀ channel, proxies.closed channel = false)
    (performed : proxies.perform world action = some (world', proxies')) (sends : action.sender = some worker) :
    ∃ chunk connection, Tells proxies world world' worker chunk connection := by
  cases action with
  | forward connId =>
      cases sends
      simp only [Proxies.perform, ProxyAction.task, ProxyAction.connection] at performed
      split at performed
      · rename_i connection known
        split at performed
        · simp only [Proxies.serveTcp] at performed
          split at performed
          · rename_i bytes stage
            rw [if_neg (by simp [hears])] at performed
            cases performed
            refine ⟨⟨connection.tunnelId, connId, .inward, bytes⟩, connection, ?_, rfl, known, rfl, ?_⟩
            · simp [Proxies.hand, known, Connection.hand, stage]
            · intro other channel
              rw [dataTold_offer (hears _), dataBytes_data]
              simp [RelayMessage.about]
          · contradiction
        · simp [Proxies.serveUdp] at performed
      · contradiction
  | forwardDatagram task =>
      cases sends
      simp only [Proxies.perform, ProxyAction.task] at performed
      split at performed
      · rename_i listener known
        simp only [Proxies.listen] at performed
        split at performed
        · rename_i connId bytes stage
          cases performed
          have stands := sound.listeners task listener known
          obtain ⟨addr, client⟩ := stands.forwarding connId bytes stage
          obtain ⟨connection, there, _, sender, tunnel⟩ := stands.clients addr connId client
          refine ⟨⟨listener.tunnelId, connId, .inward, bytes⟩, connection, ?_, rfl, there, tunnel, ?_⟩
          · simp [Proxies.hand, known, Listener.hand, stage]
          · intro other channel
            rw [dataTold_offer (hears _), dataBytes_data, sender]
            simp [RelayMessage.about]
        · contradiction
      · contradiction
  | _ => contradiction

/-! ## What a task keeps in its hands -/

/-- A listener keeps its chunk. -/
theorem listen_hand {acting task : Nat} {listener : Listener} {chunk : Chunk}
    (known : proxies.listeners acting = some listener)
    (performed : proxies.listen world acting listener action = some (world', proxies'))
    (held : proxies.hand (.listener task) = some chunk) (names : action.task = some acting)
    (sends : action.sender ≠ some (.listener task)) (writes : action.writer ≠ some (.listener task))
    (drops : action.dropped ≠ some (.listener task)) : proxies'.hand (.listener task) = some chunk := by
  simp only [Proxies.hand] at held ⊢
  obtain ⟨next, listeners, _⟩ := Proxies.listen_listeners performed
  by_cases here : task = acting
  · subst here
    rw [known, Option.bind_some] at held
    unfold Proxies.listen at performed
    split at performed <;> (repeat' split at performed) <;> cases performed
    all_goals
      cases names
      simp_all [Listener.hand, ProxyAction.sender, ProxyAction.writer, ProxyAction.dropped]
  · rw [listeners, Function.update_of_ne here]
    exact held

/-- What a listener does to connections leaves their chunks with them. -/
theorem listen_hand_connection {task : Nat} {listener : Listener} {connId : Uuid} {chunk : Chunk}
    (sound : Process.Sound ⟨world, proxies⟩) (known : proxies.listeners task = some listener)
    (performed : proxies.listen world task listener action = some (world', proxies'))
    (held : proxies.hand (.connection connId) = some chunk) :
    proxies'.hand (.connection connId) = some chunk := by
  simp only [Proxies.hand] at held ⊢
  obtain ⟨connection, there, held⟩ := Option.bind_eq_some_iff.mp held
  have stands := sound.listeners task listener known
  have drawn : connId ∈ world.drawn := by
    by_contra new
    have unused := congrArg View.connection (sound.fresh connId new)
    exact absurd (there.symm.trans unused) (by simp [View.none])
  have announced {other : Uuid} (stage : listener.stage = .registering other) : connId ≠ other := by
    rintro rfl
    obtain ⟨found, same, _, stage, _⟩ := stands.registering connId stage
    obtain rfl := Option.some.inj (there.symm.trans same)
    simp [Connection.hand, stage] at held
  unfold Proxies.listen at performed
  split at performed <;> (repeat' split at performed) <;> cases performed
  all_goals first
    | exact Option.bind_eq_some_iff.mpr ⟨connection, there, held⟩
    | skip
  -- A listener moves connections it is about to register, has just accepted, or has written to.
  · have apart := announced (by assumption)
    simpa [Proxies.setConnection, Proxies.setListener, apart, there] using held
  · rename_i other waits _
    have apart : connId ≠ other := fun same => waits.2.2 (same ▸ drawn)
    simpa [Proxies.setConnection, Proxies.setListener, apart, there] using held
  · have apart := announced (by assumption)
    simpa [Proxies.setConnection, Proxies.setListener, apart, there] using held
  · rename_i other _ _ _ new
    have apart : connId ≠ other := fun same => new (same ▸ drawn)
    simpa [Proxies.setConnection, Proxies.setListener, Proxies.record, apart, there] using held
  · rename_i other _ _ _ _ found same
    by_cases here : connId = other
    · subst here
      obtain rfl := Option.some.inj (there.symm.trans same)
      simpa [Proxies.setConnection, Proxies.setListener, Proxies.record, Connection.hand] using held
    · simpa [Proxies.setConnection, Proxies.setListener, Proxies.record, here, there] using held

theorem serveTcp_hand {served connId : Uuid} {connection : Connection} {chunk : Chunk}
    (known : proxies.connections served = some connection)
    (performed : proxies.serveTcp world served connection action = some (world', proxies'))
    (held : proxies.hand (.connection connId) = some chunk) (names : action.connection = some served)
    (sends : action.sender ≠ some (.connection connId)) (writes : action.writer ≠ some (.connection connId)) :
    proxies'.hand (.connection connId) = some chunk := by
  simp only [Proxies.hand] at held ⊢
  by_cases here : connId = served
  · subst here
    rw [known, Option.bind_some] at held
    unfold Proxies.serveTcp at performed
    split at performed <;> (repeat' split at performed) <;> cases performed
    all_goals
      cases names
      simp_all [Connection.hand, Proxies.setConnection, ProxyAction.sender, ProxyAction.writer]
  · unfold Proxies.serveTcp at performed
    split at performed <;> (repeat' split at performed) <;> cases performed
    all_goals simpa [Proxies.setConnection, here] using held

omit [Externals] in
theorem serveUdp_hand {served : Uuid} {connection : Connection} {worker : Worker} {chunk : Chunk}
    (known : proxies.connections served = some connection)
    (performed : proxies.serveUdp world served connection action = some (world', proxies'))
    (held : proxies.hand worker = some chunk) : proxies'.hand worker = some chunk := by
  cases worker with
  | listener task =>
      unfold Proxies.serveUdp at performed
      split at performed <;> (repeat' split at performed) <;> cases performed
      all_goals first | exact held | skip
      rename_i listener listed
      simp only [Proxies.hand] at held ⊢
      by_cases here : task = connection.listener
      · subst here
        simpa [Proxies.setConnection, Proxies.setListener, listed, Listener.hand] using held
      · simpa [Proxies.setConnection, Proxies.setListener, here] using held
  | connection connId =>
      unfold Proxies.serveUdp at performed
      split at performed <;> (repeat' split at performed) <;> cases performed
      all_goals
        simp only [Proxies.hand] at held ⊢
        by_cases here : connId = served
        · subst here
          simp_all [Connection.hand]
        · simpa [Proxies.setConnection, Proxies.setListener, here] using held

/-- A chunk stays with the task that has it until the task passes it on, ends
its write or is dropped. -/
theorem perform_hand {worker : Worker} {chunk : Chunk} (sound : Process.Sound ⟨world, proxies⟩)
    (performed : proxies.perform world action = some (world', proxies'))
    (held : proxies.hand worker = some chunk) (sends : action.sender ≠ some worker)
    (writes : action.writer ≠ some worker) (drops : action.dropped ≠ some worker) :
    proxies'.hand worker = some chunk := by
  unfold Proxies.perform at performed
  split at performed
  · cases performed
    cases worker <;> exact held
  · split at performed
    · rename_i acting names
      split at performed
      · rename_i listener known
        cases worker with
        | listener task => exact listen_hand known performed held names sends writes drops
        | connection connId => exact listen_hand_connection sound known performed held
      · contradiction
    · split at performed
      · rename_i served names
        split at performed
        · rename_i connection known
          split at performed
          · cases worker with
            | listener task =>
                simp only [Proxies.hand, Proxies.serveTcp_listeners performed] at held ⊢
                exact held
            | connection connId => exact serveTcp_hand known performed held names sends writes
          · exact serveUdp_hand known performed held
        · contradiction
      · contradiction

omit [Externals] in
/-- So it does while handlers are at work. -/
theorem called_hand {state : Process} {op : Op} {worker : Worker} {chunk : Chunk} (sound : state.Sound)
    (held : state.proxies.hand worker = some chunk) :
    (state.proxies.after state.world op).hand worker = some chunk := by
  cases worker with
  | connection connId =>
      simp only [Proxies.hand, Proxies.after_connections] at held ⊢
      exact held
  | listener task =>
      simp only [Proxies.hand] at held ⊢
      obtain ⟨listener, known, held⟩ := Option.bind_eq_some_iff.mp held
      have numbered := sound.numbered task listener known
      unfold Proxies.after
      split
      · have apart : task ≠ state.world.spawned := Nat.ne_of_lt numbered
        simpa [Proxies.setListener, Proxies.record, apart, known] using held
      · split
        · rename_i handle _
          by_cases here : task = handle.task
          · subst here
            simpa [Proxies.setListener, known, Listener.hand] using held
          · simpa [Proxies.setListener, here, known] using held
        · simpa [known] using held
      · simpa [known] using held

theorem perform_hears (hears : ∀ channel, proxies.closed channel = false)
    (remains : ∀ sender, action ≠ .closeChannel sender)
    (performed : proxies.perform world action = some (world', proxies')) (channel : Channel) :
    proxies'.closed channel = false := by
  unfold Proxies.perform at performed
  split at performed
  · exact absurd rfl (remains _)
  · split at performed
    · split at performed
      · rw [Proxies.listen_closed performed]
        exact hears channel
      · contradiction
    · split at performed
      · split at performed
        · split at performed
          · rw [Proxies.serveTcp_closed performed]
            exact hears channel
          · rw [Proxies.serveUdp_closed performed]
            exact hears channel
        · contradiction
      · contradiction

/-! ## Totals -/

/-- A connection stays, with its tunnel and its agent. -/
theorem perform_remains {connId : Uuid} {connection : Connection} (sound : Process.Sound ⟨world, proxies⟩)
    (performed : proxies.perform world action = some (world', proxies'))
    (there : proxies.connections connId = some connection) :
    ∃ later, proxies'.connections connId = some later ∧ connection.Alike later := by
  have step := (sound.perform performed).views connId
  have known : (Process.view ⟨world, proxies⟩ connId).connection = some connection := there
  generalize Process.view ⟨world, proxies⟩ connId = before at step known
  generalize same : Process.view ⟨world', proxies'⟩ connId = after at step
  have after_known : proxies'.connections connId = after.connection := congrArg View.connection same
  rw [after_known]
  cases step with
  | announced | unannounced => simp [View.none] at known
  | same | datagram => exact ⟨_, known, rfl, rfl, rfl, rfl, rfl⟩
  | registered there | dropped there | arrived there | finished there | read there | leftEof there
  | leftError there | leftUnsent there | forwarded there | took there | wrote there | leftUnwritten there
  | closed there | closedUnheard there | removed there | replied there | passedOn there | retired there =>
      obtain rfl := Option.some.inj (known.symm.trans there)
      exact ⟨_, rfl, rfl, rfl, rfl, rfl, rfl⟩

variable {state later : Process} {tunnelId : Uuid}

/-- An identifier not drawn has been told nothing. -/
theorem dataTold_fresh {connId : Uuid} {channel : Channel} (sound : state.Sound)
    (new : connId ∉ state.world.drawn) : state.world.dataTold connId channel = 0 := by
  have unused := congrArg View.messages (sound.fresh connId new)
  have silent : state.world.messagesAbout connId channel = [] := congrFun unused channel
  rw [World.dataTold, silent]
  rfl

theorem bytesTold_unknown {connId : Uuid} (absent : state.proxies.connections connId = none) :
    state.bytesTold tunnelId connId = 0 := by
  rw [Process.bytesTold, absent]

omit [Externals] in
theorem drawn_of_known {connId : Uuid} {connection : Connection} (sound : state.Sound)
    (there : state.proxies.connections connId = some connection) : connId ∈ state.world.drawn := by
  by_contra new
  have unused := congrArg View.connection (sound.fresh connId new)
  exact absurd (there.symm.trans unused) (by simp [View.none])

/-- The connections there were are there, alike, and others are new. -/
structure Continues (state later : Process) : Prop where
  drawn : state.world.drawn ⊆ later.world.drawn
  remains : ∀ connId connection, state.proxies.connections connId = some connection →
    ∃ next, later.proxies.connections connId = some next ∧ connection.Alike next
  fresh : ∀ connId next, later.proxies.connections connId = some next →
    (∃ connection, state.proxies.connections connId = some connection ∧ connection.Alike next) ∨
      connId ∉ state.world.drawn

/-- What one connection is told. -/
theorem bytesTold_grows {other : Uuid} {more : Uuid → Channel → Nat} (sound : state.Sound)
    (continues : Continues state later)
    (told : ∀ connId channel, later.world.dataTold connId channel =
      state.world.dataTold connId channel + more connId channel)
    (unknown : ∀ connId, state.proxies.connections connId = none → ∀ channel, more connId channel = 0) :
    later.bytesTold tunnelId other = state.bytesTold tunnelId other +
      (state.proxies.connections other).elim 0 fun connection =>
        if connection.tunnelId = tunnelId then more other connection.agentSender else 0 := by
  cases there : state.proxies.connections other with
  | some found =>
      obtain ⟨next, there', alike⟩ := continues.remains other found there
      simp only [Process.bytesTold, there, there', alike.tunnelId, alike.agentSender, told, Option.elim_some]
      split <;> rfl
  | none =>
      rw [bytesTold_unknown there, Option.elim_none]
      cases there' : later.proxies.connections other with
      | none => exact bytesTold_unknown there'
      | some next =>
          have new := (continues.fresh other next there').resolve_left (by simp [there])
          simp [Process.bytesTold, there', told, unknown other there, dataTold_fresh sound new]

/-- The total is over all identifiers drawn, now or later. -/
theorem bytesIn_later (sound : state.Sound) (drawn : state.world.drawn ⊆ later.world.drawn) :
    state.bytesIn tunnelId = ∑ connId ∈ later.world.drawn.toFinset, state.bytesTold tunnelId connId := by
  refine Finset.sum_subset ?_ fun other _ outside => ?_
  · exact fun other member => List.mem_toFinset.mpr (drawn (List.mem_toFinset.mp member))
  · refine bytesTold_unknown (Option.eq_none_iff_forall_ne_some.mpr fun found there => outside ?_)
    exact List.mem_toFinset.mpr (drawn_of_known sound there)

theorem bytesIn_same (sound : state.Sound) (continues : Continues state later)
    (told : ∀ connId channel, later.world.dataTold connId channel = state.world.dataTold connId channel) :
    later.bytesIn tunnelId = state.bytesIn tunnelId := by
  rw [bytesIn_later sound continues.drawn]
  refine Finset.sum_congr rfl fun other _ => ?_
  rw [@bytesTold_grows _ state later tunnelId other (fun _ _ => 0) sound continues told fun _ _ _ => rfl]
  cases state.proxies.connections other <;> simp

/-- A chunk told to the agent of one connection adds to the total of its tunnel. -/
theorem bytesIn_grows (sound : state.Sound) (continues : Continues state later) {connId : Uuid}
    {connection : Connection} {amount : Nat} (known : state.proxies.connections connId = some connection)
    (told : ∀ other channel, later.world.dataTold other channel = state.world.dataTold other channel +
      if connId = other ∧ channel = connection.agentSender then amount else 0) :
    later.bytesIn tunnelId = state.bytesIn tunnelId + if connection.tunnelId = tunnelId then amount else 0 := by
  have each (other : Uuid) : later.bytesTold tunnelId other = state.bytesTold tunnelId other +
      if connId = other then (if connection.tunnelId = tunnelId then amount else 0) else 0 := by
    rw [bytesTold_grows sound continues told fun other absent channel => if_neg ?_]
    · by_cases same : connId = other
      · subst same
        simp [known]
      · cases state.proxies.connections other <;> simp [same]
    · rintro ⟨rfl, _⟩
      rw [known] at absent
      contradiction
  have inside : connId ∈ later.world.drawn.toFinset :=
    List.mem_toFinset.mpr (continues.drawn (drawn_of_known sound known))
  rw [bytesIn_later sound continues.drawn, Process.bytesIn, Finset.sum_congr rfl fun other _ => each other,
    Finset.sum_add_distrib, Finset.sum_ite_eq, if_pos inside]

omit [Externals] in
/-- A chunk in the hands of a task is of a connection of its tunnel. -/
theorem hand_known {worker : Worker} {chunk : Chunk} (sound : state.Sound)
    (held : state.proxies.hand worker = some chunk) :
    ∃ connection, state.proxies.connections chunk.connId = some connection ∧
      connection.tunnelId = chunk.tunnelId := by
  cases worker with
  | connection connId =>
      obtain ⟨connection, there, held⟩ := Option.bind_eq_some_iff.mp held
      unfold Connection.hand at held
      split at held <;> cases held <;> exact ⟨connection, there, rfl⟩
  | listener task =>
      obtain ⟨listener, there, held⟩ := Option.bind_eq_some_iff.mp held
      have stands := sound.listeners task listener there
      unfold Listener.hand at held
      split at held
      · rename_i connId bytes stage
        cases held
        obtain ⟨addr, client⟩ := stands.forwarding connId bytes stage
        obtain ⟨connection, known, _, _, tunnel⟩ := stands.clients addr connId client
        exact ⟨connection, known, tunnel⟩
      · rename_i connId addr data stage
        cases held
        have client := stands.replying connId addr data stage
        obtain ⟨connection, known, _, _, tunnel⟩ := stands.clients addr connId client
        exact ⟨connection, known, tunnel⟩
      · contradiction

theorem perform_continues (sound : Process.Sound ⟨world, proxies⟩)
    (performed : proxies.perform world action = some (world', proxies')) :
    Continues ⟨world, proxies⟩ ⟨world', proxies'⟩ where
  drawn := (sound.perform performed).drawn
  remains := fun _ _ there => perform_remains sound performed there
  fresh := fun _ _ there => (Proxies.perform_connections performed there).imp_right fun made => made.1

theorem called_continues {choice : Choice} {op : Op} {result : op.Result}
    (executed : exec state.world choice op = some (world, result)) :
    Continues state ⟨world, state.proxies.after state.world op⟩ where
  drawn := exec_drawn executed
  remains := fun connId connection there => by
    rw [Proxies.after_connections]
    exact ⟨connection, there, rfl, rfl, rfl, rfl, rfl⟩
  fresh := fun connId next there => by
    rw [Proxies.after_connections] at there
    exact .inl ⟨next, there, rfl, rfl, rfl, rfl, rfl⟩

/-- No handler tells an agent any data. -/
theorem called_dataTold {choice : Choice} {op : Op} {result : op.Result} {connId : Uuid} {channel : Channel}
    (executed : exec state.world choice op = some (world, result))
    (silent : ∀ sender message, op = .send sender message → message.about = none) :
    world.dataTold connId channel = state.world.dataTold connId channel := by
  unfold World.dataTold World.messagesAbout
  rw [exec_sent executed]
  cases op with
  | send sender message =>
      by_cases same : channel = sender
      · subst same
        simp [silent _ _ rfl]
      · simp [Function.update_of_ne same]
  | _ => rfl

end Actions

/-! ## The books -/

/-- The counters are what has been passed on and what is on its way. -/
def Metered.Balanced [Externals] (state : Metered) : Prop :=
  ∀ tunnelId, (state.liveTraffic tunnelId).getD (0, 0) =
    (.ofNat (state.process.bytesIn tunnelId + state.pending .inward tunnelId),
      .ofNat (state.bytesOut tunnelId + state.pending .outward tunnelId))

structure Metered.Exact [Externals] (state : Metered) : Prop where
  sound : state.process.Sound
  hears : ∀ channel, state.process.proxies.closed channel = false
  distinct : state.recorded.Nodup
  holding : ∀ worker ∈ state.recorded, ∃ chunk, state.process.proxies.hand worker = some chunk
  apart : ∀ worker ∈ state.writing, worker ∉ state.recorded
  known : ∀ entry ∈ state.started, ∃ connection, state.process.proxies.connections entry.1 = some connection
  balanced : state.Balanced

section Books

variable [Externals] {state later : Metered} {worker : Worker} {chunk : Chunk} {tunnelId : Uuid}

omit [Externals] in
theorem charge_getD {traffic : LiveTraffic} : ((traffic.charge chunk) tunnelId).getD (0, 0) =
    ((traffic tunnelId).getD (0, 0)).map
      (· + .ofNat (if chunk.tunnelId = tunnelId ∧ chunk.direction = .inward then chunk.bytes.length else 0))
      (· + .ofNat (if chunk.tunnelId = tunnelId ∧ chunk.direction = .outward then chunk.bytes.length else 0)) := by
  unfold LiveTraffic.charge LiveTraffic.record
  by_cases here : tunnelId = chunk.tunnelId
  · subst here
    cases chunk.direction <;> simp [Prod.map]
  · have other : chunk.tunnelId ≠ tunnelId := fun same => here same.symm
    cases chunk.direction <;> simp [Function.update_of_ne here, other, Prod.map]

omit [Externals] in
theorem recordedBytes_of {proxies : Proxies} {direction : Direction} (held : proxies.hand worker = some chunk) :
    proxies.recordedBytes direction tunnelId worker =
      if chunk.tunnelId = tunnelId ∧ chunk.direction = direction then chunk.bytes.length else 0 := by
  simp [Proxies.recordedBytes, held]

/-- A chunk is recorded. -/
theorem Metered.Exact.recordTraffic (exact : state.Exact) (held : state.process.proxies.hand worker = some chunk)
    (unrecorded : worker ∉ state.recorded) (idle : worker ∉ state.writing) :
    Metered.Exact { state with
      liveTraffic := state.liveTraffic.charge chunk
      recorded := worker :: state.recorded } where
  sound := exact.sound
  hears := exact.hears
  distinct := List.nodup_cons.mpr ⟨unrecorded, exact.distinct⟩
  holding := List.forall_mem_cons.mpr ⟨⟨chunk, held⟩, exact.holding⟩
  apart := by
    intro other writes member
    rcases List.mem_cons.mp member with rfl | old
    · exact idle writes
    · exact exact.apart other writes old
  known := exact.known
  balanced := by
    intro tunnelId
    have pends (direction : Direction) : Metered.pending { state with
        liveTraffic := state.liveTraffic.charge chunk, recorded := worker :: state.recorded } direction tunnelId =
          (if chunk.tunnelId = tunnelId ∧ chunk.direction = direction then chunk.bytes.length else 0) +
            state.pending direction tunnelId := by
      simp [Metered.pending, recordedBytes_of held]
    rw [charge_getD, exact.balanced tunnelId, pends, pends]
    simp only [Prod.map, ← UInt64.ofNat_add, Metered.bytesOut]
    congr 2 <;> omega

/-- A write is started. -/
theorem Metered.Exact.startWrite (exact : state.Exact) (held : state.process.proxies.hand worker = some chunk)
    (outward : chunk.direction = .outward) (recorded : worker ∈ state.recorded) :
    Metered.Exact { state with
      recorded := state.recorded.erase worker
      writing := worker :: state.writing
      started := state.started ++ [(chunk.connId, chunk.bytes)] } where
  sound := exact.sound
  hears := exact.hears
  distinct := exact.distinct.erase worker
  holding := fun other member => exact.holding other (List.mem_of_mem_erase member)
  apart := by
    intro other writes member
    rcases List.mem_cons.mp writes with rfl | old
    · exact exact.distinct.not_mem_erase member
    · exact exact.apart other old (List.mem_of_mem_erase member)
  known := by
    intro entry member
    rcases List.mem_append.mp member with old | new
    · exact exact.known entry old
    · rw [List.mem_singleton.mp new]
      obtain ⟨connection, there, _⟩ := hand_known exact.sound held
      exact ⟨connection, there⟩
  balanced := by
    intro tunnelId
    obtain ⟨connection, there, tunnel⟩ := hand_known exact.sound held
    have pends (direction : Direction) : state.pending direction tunnelId =
        (if chunk.tunnelId = tunnelId ∧ chunk.direction = direction then chunk.bytes.length else 0) +
          ((state.recorded.erase worker).map (state.process.proxies.recordedBytes direction tunnelId)).sum := by
      rw [← recordedBytes_of held]
      exact (List.sum_map_erase _ recorded).symm
    have begun : Metered.bytesOut { state with
        recorded := state.recorded.erase worker
        writing := worker :: state.writing
        started := state.started ++ [(chunk.connId, chunk.bytes)] } tunnelId =
          state.bytesOut tunnelId + if chunk.tunnelId = tunnelId then chunk.bytes.length else 0 := by
      simp [Metered.bytesOut, Proxies.isOf, there, tunnel]
    have inward : ¬ (chunk.tunnelId = tunnelId ∧ chunk.direction = .inward) := by simp [outward]
    rw [exact.balanced tunnelId, begun, pends, pends, if_neg inward]
    simp only [Metered.pending, outward, and_true, Nat.zero_add, Nat.add_assoc]

omit [Externals] in
theorem Continues.isOf {before after : Process} {connId : Uuid} {connection : Connection}
    (continues : Continues before after) (there : before.proxies.connections connId = some connection) :
    after.proxies.isOf tunnelId connId = before.proxies.isOf tunnelId connId := by
  obtain ⟨next, there', alike⟩ := continues.remains connId connection there
  simp [Proxies.isOf, there, there', alike.tunnelId]

/-- What has been started counts for the same tunnels after a step. -/
theorem Metered.Exact.outSame (exact : state.Exact) (continues : Continues state.process later.process)
    (started : later.started = state.started) : later.bytesOut tunnelId = state.bytesOut tunnelId := by
  unfold Metered.bytesOut
  rw [started]
  refine congrArg List.sum (List.map_congr_left fun entry member => ?_)
  obtain ⟨connection, there⟩ := exact.known entry member
  rw [continues.isOf there]

/-- A step in which nothing is passed on and every task keeps what it has recorded. -/
theorem Metered.Exact.quiet {process : Process} {writing : List Worker} (exact : state.Exact) (sound : process.Sound)
    (hears : ∀ channel, process.proxies.closed channel = false) (continues : Continues state.process process)
    (told : ∀ connId channel, process.world.dataTold connId channel = state.process.world.dataTold connId channel)
    (hands : ∀ worker ∈ state.recorded, ∀ chunk, state.process.proxies.hand worker = some chunk →
      process.proxies.hand worker = some chunk)
    (writes : writing ⊆ state.writing) : Metered.Exact { state with process, writing } where
  sound := sound
  hears := hears
  distinct := exact.distinct
  holding := by
    intro worker member
    obtain ⟨chunk, held⟩ := exact.holding worker member
    exact ⟨chunk, hands worker member chunk held⟩
  apart := fun worker member => exact.apart worker (writes member)
  known := by
    intro entry member
    obtain ⟨connection, there⟩ := exact.known entry member
    obtain ⟨next, there', _⟩ := continues.remains _ connection there
    exact ⟨next, there'⟩
  balanced := by
    intro tunnelId
    have pends (direction : Direction) :
        Metered.pending { state with process, writing } direction tunnelId = state.pending direction tunnelId := by
      refine congrArg List.sum (List.map_congr_left fun worker member => ?_)
      obtain ⟨chunk, held⟩ := exact.holding worker member
      rw [recordedBytes_of held, recordedBytes_of (hands worker member chunk held)]
    have begun := @outSame _ state { state with process, writing } tunnelId exact continues rfl
    rw [pends, pends, begun, bytesIn_same exact.sound continues told]
    exact exact.balanced tunnelId

/-- A task passes on the chunk it has recorded. -/
theorem Metered.Exact.send {process : Process} {connection : Connection} (exact : state.Exact)
    (sound : process.Sound) (hears : ∀ channel, process.proxies.closed channel = false)
    (continues : Continues state.process process) (recorded : worker ∈ state.recorded)
    (tells : Tells state.process.proxies state.process.world process.world worker chunk connection)
    (hands : ∀ other ∈ state.recorded, other ≠ worker →
      ∀ chunk, state.process.proxies.hand other = some chunk → process.proxies.hand other = some chunk) :
    Metered.Exact { state with process, recorded := state.recorded.erase worker } := by
  have keeps : ∀ other ∈ state.recorded.erase worker, ∃ chunk, state.process.proxies.hand other = some chunk ∧
      process.proxies.hand other = some chunk := by
    intro other member
    have apart : other ≠ worker := by
      rintro rfl
      exact exact.distinct.not_mem_erase member
    obtain ⟨chunk, held⟩ := exact.holding other (List.mem_of_mem_erase member)
    exact ⟨chunk, held, hands other (List.mem_of_mem_erase member) apart chunk held⟩
  constructor
  · exact sound
  · exact hears
  · exact exact.distinct.erase worker
  · exact fun other member => (keeps other member).imp fun chunk holds => holds.2
  · exact fun other writes member => exact.apart other writes (List.mem_of_mem_erase member)
  · intro entry member
    obtain ⟨connection, there⟩ := exact.known entry member
    obtain ⟨next, there', _⟩ := continues.remains _ connection there
    exact ⟨next, there'⟩
  · intro tunnelId
    have pends (direction : Direction) : state.pending direction tunnelId =
        (if chunk.tunnelId = tunnelId ∧ chunk.direction = direction then chunk.bytes.length else 0) +
          Metered.pending { state with process, recorded := state.recorded.erase worker } direction tunnelId := by
      have same : Metered.pending { state with process, recorded := state.recorded.erase worker } direction tunnelId =
          ((state.recorded.erase worker).map (state.process.proxies.recordedBytes direction tunnelId)).sum := by
        refine congrArg List.sum (List.map_congr_left fun other member => ?_)
        obtain ⟨chunk, before, after⟩ := keeps other member
        rw [recordedBytes_of before, recordedBytes_of after]
      rw [same, ← recordedBytes_of tells.held]
      exact (List.sum_map_erase _ recorded).symm
    have outward : ¬ (chunk.tunnelId = tunnelId ∧ chunk.direction = .outward) := by simp [tells.inward]
    have balance := exact.balanced tunnelId
    rw [pends, pends, if_neg outward] at balance
    have begun := @outSame _ state { state with process, recorded := state.recorded.erase worker } tunnelId exact
      continues rfl
    rw [balance, begun, bytesIn_grows exact.sound continues tells.known tells.told]
    simp only [tells.inward, tells.tunnel, and_true, Nat.zero_add, Nat.add_assoc]

/-! ## Runs -/

theorem Metered.Exact.initial {portRange : UInt16 × UInt16} : (Metered.initial portRange).Exact where
  sound := .initial
  hears := fun _ => rfl
  distinct := List.nodup_nil
  holding := fun _ member => by contradiction
  apart := fun _ member => by contradiction
  known := fun _ member => by contradiction
  balanced := fun _ => rfl

/-- A restart loses the counters with all that they count. -/
theorem Metered.Exact.reboot (exact : state.Exact) : Metered.Exact (metered.reboot state) where
  sound := (exact.sound.change .rebooted).sound
  hears := fun _ => rfl
  distinct := List.nodup_nil
  holding := fun _ member => by contradiction
  apart := fun _ member => by contradiction
  known := fun _ member => by contradiction
  balanced := by
    intro tunnelId
    have nothing : (TunnelitRelay.process.reboot state.process).bytesIn tunnelId = 0 :=
      Finset.sum_eq_zero fun _ _ => rfl
    change (0, 0) = _
    rw [nothing]
    rfl

theorem Metered.Exact.perform {action : ProxyAction} {world : World} {proxies : Proxies} (exact : state.Exact)
    (remains : ∀ sender, action ≠ .closeChannel sender) (ready : state.ready action = true)
    (performed : state.process.proxies.perform state.process.world action = some (world, proxies)) :
    Metered.Exact { state with
      process := ⟨world, proxies⟩
      recorded := action.sender.elim state.recorded state.recorded.erase
      writing := (action.writer.or action.dropped).elim state.writing state.writing.erase } := by
  have sound := (exact.sound.perform performed).sound
  have hears := perform_hears exact.hears remains performed
  have continues := perform_continues exact.sound performed
  simp only [Metered.ready, Bool.and_eq_true, Option.all_eq_true, decide_eq_true_eq] at ready
  obtain ⟨⟨records, writes⟩, drops⟩ := ready
  have hands (worker : Worker) (member : worker ∈ state.recorded) (other : action.sender ≠ some worker)
      (chunk : Chunk) (held : state.process.proxies.hand worker = some chunk) : proxies.hand worker = some chunk :=
    perform_hand exact.sound performed held other
      (fun same => exact.apart worker (writes worker same) member) fun same => drops worker same member
  cases sends : action.sender with
  | some worker =>
      obtain ⟨chunk, connection, tells⟩ := perform_tells exact.sound exact.hears performed sends
      have nothing : action.writer.or action.dropped = none := by
        cases action <;> first | contradiction | rfl
      rw [nothing]
      exact exact.send sound hears continues (records worker sends) tells fun other member apart =>
        hands other member (by rw [sends]; exact fun same => apart (Option.some.inj same).symm)
  | none =>
      have told := perform_dataTold exact.hears performed sends
      refine exact.quiet sound hears continues told (fun worker member => hands worker member (by simp [sends])) ?_
      cases action.writer.or action.dropped with
      | none => exact List.Subset.refl _
      | some worker => exact List.erase_subset

/-- The handlers keep their discipline. -/
def meteredContract : Contract metered where
  law := fun labor => match labor with
    | .work work => processContract.law work
    | _ => fun _ _ _ => False
  answer := fun labor => match labor with
    | .work work => processContract.answer work
    | _ => fun _ _ _ => True

theorem metered_lawful : metered.Lawful meteredContract := by
  intro labor
  cases labor with
  | work work => exact process_lawful work
  | recordTraffic | startWrite => trivial

/-- Every step keeps the books. -/
theorem Metered.Exact.step {before after : Config metered} {action : Action metered}
    (exact : before.state.Exact) (lawful : before.Lawful meteredContract)
    (permitted : channelsOpen before action) (step : Step before action after) : after.state.Exact := by
  cases step with
  | @start labor state admitted =>
      cases labor with
      | work work =>
          cases work with
          | serve job =>
              obtain ⟨process, served, rfl⟩ := Option.map_eq_some_iff.mp admitted
              obtain ⟨world, accepted, rfl⟩ := Option.map_eq_some_iff.mp served
              obtain ⟨sessions, rfl⟩ := accept_same accepted
              refine exact.quiet (exact.sound.change .accepted).sound exact.hears ?_ (fun _ _ => rfl)
                (fun _ _ _ held => held) (List.Subset.refl _)
              exact ⟨List.Subset.refl _, fun _ connection there => ⟨connection, there, rfl, rfl, rfl, rfl, rfl⟩,
                fun _ next there => .inl ⟨next, there, rfl, rfl, rfl, rfl, rfl⟩⟩
          | proxy action =>
              simp only [Metered.accept] at admitted
              split at admitted
              · rename_i ready
                obtain ⟨process, accepted, rfl⟩ := Option.map_eq_some_iff.mp admitted
                obtain ⟨⟨world, proxies⟩, performed, rfl⟩ := Option.map_eq_some_iff.mp accepted
                exact exact.perform (fun sender same => permitted sender (by rw [same])) ready performed
              · contradiction
      | recordTraffic worker =>
          simp only [Metered.accept] at admitted
          split at admitted
          · rename_i chunk held
            split at admitted
            · rename_i free
              cases admitted
              exact exact.recordTraffic held free.1 free.2
            · contradiction
          · contradiction
      | startWrite worker =>
          simp only [Metered.accept] at admitted
          split at admitted
          · rename_i chunk held
            split at admitted
            · rename_i goes
              cases admitted
              exact exact.startWrite held goes.1 goes.2
            · contradiction
          · contradiction
  | @call task thread op next choice state result found head executed =>
      obtain ⟨⟨process, answer⟩, executed, same⟩ := Option.map_eq_some_iff.mp executed
      cases same
      obtain ⟨⟨world, answer⟩, executed, same⟩ := Option.map_eq_some_iff.mp executed
      cases same
      have silent : ∀ sender message, op = .send sender message → message.about = none := by
        intro sender message sends
        have law := lawful.call (List.mem_of_getElem? found) head
        cases job : thread.job with
        | work work =>
            cases work with
            | serve served =>
                rw [job] at law
                exact silent_of_permitted (sends ▸ law.2.2)
            | proxy action =>
                rw [job] at law
                exact law.elim
        | recordTraffic | startWrite =>
            rw [job] at law
            exact law.elim
      refine exact.quiet (exact.sound.change (.called executed silent)).sound ?_ (called_continues executed)
        (fun _ _ => called_dataTold executed silent) (fun _ _ _ held => called_hand exact.sound held)
        (List.Subset.refl _)
      intro channel
      rw [Proxies.after_closed]
      exact exact.hears channel
  | acquire | release => exact exact
  | reboot => exact exact.reboot

/-- While the agents' channels are open, whenever no task is between recording a
chunk and passing it on, the counters of every tunnel are, modulo `2 ^ 64`, the
bytes told to the agent for its connections and those of the writes started to
its clients. -/
theorem traffic_exact {portRange : UInt16 × UInt16} {config : Config metered}
    (reached : Reachable channelsOpen (Metered.initial portRange) config) (idle : config.state.recorded = [])
    (tunnelId : Uuid) : (config.state.liveTraffic tunnelId).getD (0, 0) =
      (.ofNat (config.state.process.bytesIn tunnelId), .ofNat (config.state.bytesOut tunnelId)) := by
  have exact : config.state.Exact := by
    refine @Reachable.induct _ metered channelsOpen (fun config => config.state.Exact) _ _ .initial ?_ reached
    exact fun earlier exact permitted step => exact.step (Reachable.lawful metered_lawful earlier) permitted step
  have balance := exact.balanced tunnelId
  simpa [Metered.pending, idle] using balance

end Books

/-- The jobs one after the other. -/
def labors (jobs : List (Labor × Choice)) : List (Turn metered) :=
  jobs.zipIdx.flatMap fun entry => [.start entry.1.1, .finish entry.2 entry.1.2]

/-- A turn in which no channel is closed. -/
def keepsOpen : Turn metered → Bool
  | .start (.work (.proxy (.closeChannel _))) | .reboot => false
  | _ => true

theorem follow_open {turns : List (Turn metered)} {before after : Config metered}
    (followed : metered.follow (fun _ _ _ _ => true) 200 turns before = some after)
    (keeps : turns.all keepsOpen = true) : Steps channelsOpen before after := by
  refine System.follow_allowed followed ?_ ?_ ?_
  · rintro config action ⟨_, running⟩ sender rfl
    exact running.1 _ rfl
  · intro labor member config sender same
    cases same
    exact absurd (List.all_eq_true.mp keeps _ member) (by simp [keepsOpen])
  · intro member
    exact absurd (List.all_eq_true.mp keeps _ member) (by simp [keepsOpen])

theorem newMetered_run {turns : List (Turn metered)} {test : Config metered → Bool}
    (passed : (turns.all keepsOpen && (metered.follow (fun _ _ _ _ => true) 200 turns
      ⟨Metered.initial (10000, 60000), []⟩).any test) = true) :
    ∃ config, Reachable channelsOpen (Metered.initial (10000, 60000)) config ∧ test config = true := by
  obtain ⟨keeps, passed⟩ := (Bool.and_eq_true _ _).mp passed
  obtain ⟨config, followed, tested⟩ := (Option.any_eq_true _ _).mp passed
  exact ⟨config, follow_open followed keeps, tested⟩

/-- Alice's client sends two bytes, and gets two from her agent. -/
def answeredClient : List (Turn metered) :=
  labors (tunnelOpened.map (fun entry => (.work entry.1, entry.2)) ++
    [(.work (.proxy (.check 0)), answer 0 0), (.work (.proxy (.accept 0 1000)), answer 0 0),
      (.work (.proxy (.register 0)), answer 0 0), (.work (.proxy (.arrive 1000 [1, 2, 3])), answer 0 0),
      (.work (.proxy (.read 1000 2)), answer 0 0), (.recordTraffic (.connection 1000), answer 0 0),
      (.work (.proxy (.forward 1000)), answer 0 0),
      (.work (.serve (.frame 0 (.message (.data 1000 "SGk=")))), answer 0 0),
      (.work (.proxy (.take 1000)), answer 0 0), (.recordTraffic (.connection 1000), answer 0 0),
      (.startWrite (.connection 1000), answer 0 0), (.work (.proxy (.writeAll 1000)), answer 0 0)])

theorem traffic_exact_answered : ∃ config : Config metered, config.state.liveTraffic 6 = some (2, 2) ∧
    (config.state.liveTraffic 6).getD (0, 0) =
      (.ofNat (config.state.process.bytesIn 6), .ofNat (config.state.bytesOut 6)) := by
  have passed : (answeredClient.all keepsOpen && (metered.follow (fun _ _ _ _ => true) 200 answeredClient
      ⟨Metered.initial (10000, 60000), []⟩).any fun config =>
        decide (config.state.liveTraffic 6 = some (2, 2) ∧ config.state.recorded = [])) = true := by
    decide +kernel
  obtain ⟨config, reached, tested⟩ := newMetered_run passed
  obtain ⟨counted, idle⟩ := of_decide_eq_true tested
  exact ⟨config, counted, traffic_exact reached idle 6⟩

end TunnelitRelay
