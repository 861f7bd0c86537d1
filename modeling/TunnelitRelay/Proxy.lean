import TunnelitRelay.Server

namespace TunnelitRelay

open Concurrent

/-! # Proxy tasks (`tcp_proxy.rs`, `udp_proxy.rs`)

A listener task is spawned by `start_tunnel_listener` and runs until it is
aborted or its agent's channel is closed.  Every accepted TCP connection is
served by a detached task of its own; every UDP client is served by the
listener, with a detached task that passes the agent's payloads on to it.

Each of these tasks is a loop of atomic actions: between two of them, any other
task may run.  The guard of the connection map is held for one access only, so
that an access is one action.
-/

/-- The address a datagram comes from. -/
abbrev SocketAddr := Nat

/-- Where the loop of a listener task stands. -/
inductive ListenerStage where
  /-- At the head of the loop. -/
  | checking
  /-- At `accept`, or at the `select!` of the UDP loop. -/
  | waiting
  /-- TCP: the connection is announced and not yet in the map. -/
  | registering (connId : Uuid)
  /-- UDP: a datagram has been received and not yet passed to the agent. -/
  | forwarding (connId : Uuid) (bytes : List UInt8)
  /-- UDP: a payload has been taken from the inbox and not yet been sent. -/
  | replying (connId : Uuid) (addr : SocketAddr) (data : List UInt8)
deriving DecidableEq, Repr

structure Listener where
  transport : Transport
  tunnelId : Uuid
  agentId : Uuid
  agentSender : Channel
  aborted : Bool
  stage : ListenerStage
  addrToConn : List (SocketAddr × Uuid)
  connToAddr : List (Uuid × SocketAddr)
  /-- What the tasks of the UDP clients have passed on and is not yet taken. -/
  inbox : List (Uuid × List UInt8)
deriving DecidableEq, Repr

/-- Where the task of a connection stands. -/
inductive ConnStage where
  /-- The connection is not in the map yet. -/
  | announced
  /-- TCP: at the `select!`.  UDP: at `conn_rx.recv()`. -/
  | selecting
  /-- A chunk has been read and not yet passed to the agent. -/
  | forwarding (bytes : List UInt8)
  /-- A payload has been taken from the queue and not yet been written. -/
  | writing (data : List UInt8)
  /-- The loop has been left. -/
  | leaving
  /-- The close has been announced; the connection is still in the map. -/
  | removing
  | ended
deriving DecidableEq, Repr

/-- A client connection: the values its task was spawned with, where the task
stands, what a TCP client has sent and the relay has not read, and what has
been read from it and written to it so far.  The payloads queued for it are in
the shared state; the task has taken the first `taken` of them. -/
structure Connection where
  transport : Transport
  listener : Nat
  tunnelId : Uuid
  agentId : Uuid
  agentSender : Channel
  stage : ConnStage
  unread : List UInt8
  finished : Bool
  read : List (List UInt8)
  taken : Nat
  written : List (List UInt8)
deriving DecidableEq, Repr

/-- What has passed through the socket of a listener task: the datagrams
received, and those sent with the connection each was sent for.  The record
outlives the task. -/
structure Socket where
  tunnelId : Uuid
  agentSender : Channel
  received : List (SocketAddr × List UInt8)
  sent : List (Uuid × SocketAddr × List UInt8)
deriving DecidableEq, Repr

/-- The tasks, and the channels whose receiver has been dropped. -/
structure Proxies where
  listeners : Nat → Option Listener
  connections : Uuid → Option Connection
  sockets : Nat → Option Socket
  closed : Channel → Bool

def Proxies.none : Proxies where
  listeners := fun _ => .none
  connections := fun _ => .none
  sockets := fun _ => .none
  closed := fun _ => false

namespace Proxies

def setListener (proxies : Proxies) (task : Nat) (listener : Option Listener) : Proxies :=
  { proxies with listeners := Function.update proxies.listeners task listener }

def setConnection (proxies : Proxies) (connId : Uuid) (connection : Connection) : Proxies :=
  { proxies with connections := Function.update proxies.connections connId (some connection) }

def record (proxies : Proxies) (task : Nat) (socket : Option Socket) : Proxies :=
  { proxies with sockets := Function.update proxies.sockets task socket }

end Proxies

def Socket.receive (socket : Socket) (addr : SocketAddr) (bytes : List UInt8) : Socket :=
  { socket with received := socket.received ++ [(addr, bytes)] }

def Socket.send (socket : Socket) (connId : Uuid) (addr : SocketAddr) (data : List UInt8) : Socket :=
  { socket with sent := socket.sent ++ [(connId, addr, data)] }

/-- A connection just accepted by a listener. -/
def Listener.accepted (listener : Listener) (task : Nat) : Connection where
  transport := listener.transport
  listener := task
  tunnelId := listener.tunnelId
  agentId := listener.agentId
  agentSender := listener.agentSender
  stage := .announced
  unread := []
  finished := false
  read := []
  taken := 0
  written := []

def World.draw (world : World) (id : Uuid) : World := { world with drawn := id :: world.drawn }

/-- A `send` on a channel whose receiver may be gone. -/
def World.offer (world : World) (proxies : Proxies) (sender : Channel) (message : RelayMessage) : World :=
  if proxies.closed sender then world
  else { world with sent := Function.update world.sent sender (world.sent sender ++ [message]) }

def World.setConnSender (world : World) (connId : Uuid) (there : Bool) : World :=
  { world with tcpConnSenders := Function.update world.tcpConnSenders connId there }

inductive ProxyAction where
  /-- The receiving end of a channel is dropped. -/
  | closeChannel (sender : Channel)
  /-- An aborted task is dropped. -/
  | cancel (task : Nat)
  /-- `agent_sender.is_closed()`. -/
  | check (task : Nat)
  /-- `accept` or `recv_from` fails. -/
  | fault (task : Nat)
  /-- `accept` yields a stream and the connection is announced. -/
  | accept (task : Nat) (connId : Uuid)
  /-- The TCP loop puts the connection into the map and spawns its task. -/
  | register (task : Nat)
  /-- `recv_from` yields a datagram; a new client is announced. -/
  | receive (task : Nat) (addr : SocketAddr) (bytes : List UInt8) (connId : Uuid)
  /-- The UDP loop passes a datagram to the agent. -/
  | forwardDatagram (task : Nat)
  /-- The UDP loop takes a payload from its inbox. -/
  | takeReply (task : Nat)
  /-- `send_to`. -/
  | sendTo (task : Nat)
  /-- The client of a TCP connection sends. -/
  | arrive (connId : Uuid) (bytes : List UInt8)
  /-- The client of a TCP connection closes its sending side. -/
  | finish (connId : Uuid)
  | read (connId : Uuid) (size : Nat)
  | readEof (connId : Uuid)
  | readError (connId : Uuid)
  /-- The chunk read is passed to the agent. -/
  | forward (connId : Uuid)
  /-- `rx.recv()` yields a payload. -/
  | take (connId : Uuid)
  | writeAll (connId : Uuid)
  | writeError (connId : Uuid)
  /-- The close is announced to the agent. -/
  | close (connId : Uuid)
  /-- The connection is taken out of the map and its socket is dropped. -/
  | remove (connId : Uuid)
  /-- The task of a UDP client puts it into the map. -/
  | enroll (connId : Uuid)
  /-- The task of a UDP client passes a payload on to the listener. -/
  | passOn (connId : Uuid)
  /-- The task of a UDP client ends: its sender is gone and its queue is empty. -/
  | retire (connId : Uuid)
deriving DecidableEq, Repr

/-- What one pass through the loop of a listener task is made of. -/
def Proxies.listen [Externals] (world : World) (proxies : Proxies) (task : Nat) (listener : Listener) :
    ProxyAction → Option (World × Proxies)
  | .cancel _ =>
      if listener.aborted then
        match listener.stage with
        | .registering connId =>
            -- The accepted stream is dropped with the task.
            match proxies.connections connId with
            | some connection => some (world,
                (proxies.setListener task .none).setConnection connId { connection with stage := .ended })
            | .none => some (world, proxies.setListener task .none)
        | _ => some (world, proxies.setListener task .none)
      else .none
  | .check _ =>
      if listener.stage = .checking then
        if proxies.closed listener.agentSender then some (world, proxies.setListener task .none)
        else some (world, proxies.setListener task (some { listener with stage := .waiting }))
      else .none
  | .fault _ =>
      if listener.stage = .waiting then
        some (world, proxies.setListener task (some { listener with stage := .checking }))
      else .none
  | .accept _ connId =>
      if listener.transport = .tcp ∧ listener.stage = .waiting ∧ connId ∉ world.drawn then
        if proxies.closed listener.agentSender then
          some (world.draw connId, proxies.setListener task .none)
        else some ((world.draw connId).offer proxies listener.agentSender
            (.newConnection listener.tunnelId connId),
          (proxies.setListener task (some { listener with stage := .registering connId })).setConnection
            connId (listener.accepted task))
      else .none
  | .register _ =>
      match listener.stage with
      | .registering connId =>
          match proxies.connections connId with
          | some connection => some (world.setConnSender connId true,
              (proxies.setListener task (some { listener with stage := .checking })).setConnection
                connId { connection with stage := .selecting })
          | .none => .none
      | _ => .none
  | .receive _ addr bytes connId =>
      if listener.transport = .udp ∧ listener.stage = .waiting then
        match listener.addrToConn.find? (·.1 == addr) with
        | some (_, known) =>
            some (world,
              (proxies.setListener task (some { listener with stage := .forwarding known bytes })).record
                task ((proxies.sockets task).map (·.receive addr bytes)))
        | .none =>
            if connId ∉ world.drawn then
              some ((world.draw connId).offer proxies listener.agentSender
                  (.newConnection listener.tunnelId connId),
                ((proxies.setListener task (some { listener with
                    stage := .forwarding connId bytes
                    addrToConn := (addr, connId) :: listener.addrToConn
                    connToAddr := (connId, addr) :: listener.connToAddr })).setConnection
                  connId (listener.accepted task)).record
                task ((proxies.sockets task).map (·.receive addr bytes)))
            else .none
      else .none
  | .forwardDatagram _ =>
      match listener.stage with
      | .forwarding connId bytes =>
          some (world.offer proxies listener.agentSender (.data connId (encodeBase64 bytes)),
            proxies.setListener task (some { listener with stage := .checking }))
      | _ => .none
  | .takeReply _ =>
      if listener.transport = .udp ∧ listener.stage = .waiting then
        match listener.inbox with
        | (connId, data) :: rest =>
            match listener.connToAddr.find? (·.1 == connId) with
            | some (_, addr) => some (world, proxies.setListener task (some { listener with
                stage := .replying connId addr data, inbox := rest }))
            | .none => some (world, proxies.setListener task (some { listener with
                stage := .checking, inbox := rest }))
        | [] => .none
      else .none
  | .sendTo _ =>
      match listener.stage with
      | .replying connId addr data =>
          match proxies.connections connId with
          | some connection => some (world,
              ((proxies.setListener task (some { listener with stage := .checking })).setConnection
                connId { connection with written := connection.written ++ [data] }).record
              task ((proxies.sockets task).map (·.send connId addr data)))
          | .none => .none
      | _ => .none
  | _ => .none

/-- What the task of a TCP connection and its client do. -/
def Proxies.serveTcp [Externals] (world : World) (proxies : Proxies) (connId : Uuid)
    (connection : Connection) : ProxyAction → Option (World × Proxies)
  | .arrive _ bytes =>
      if connection.finished = false then
        some (world, proxies.setConnection connId { connection with unread := connection.unread ++ bytes })
      else .none
  | .finish _ => some (world, proxies.setConnection connId { connection with finished := true })
  | .read _ size =>
      if connection.stage = .selecting ∧ 0 < size ∧ size ≤ 8192 ∧ size ≤ connection.unread.length then
        some (world, proxies.setConnection connId { connection with
          stage := .forwarding (connection.unread.take size)
          unread := connection.unread.drop size
          read := connection.read ++ [connection.unread.take size] })
      else .none
  | .readEof _ =>
      if connection.stage = .selecting ∧ connection.unread = [] ∧ connection.finished then
        some (world, proxies.setConnection connId { connection with stage := .leaving })
      else .none
  | .readError _ =>
      if connection.stage = .selecting then
        some (world, proxies.setConnection connId { connection with stage := .leaving })
      else .none
  | .forward _ =>
      match connection.stage with
      | .forwarding bytes =>
          if proxies.closed connection.agentSender then
            some (world, proxies.setConnection connId { connection with stage := .leaving })
          else some (world.offer proxies connection.agentSender (.data connId (encodeBase64 bytes)),
            proxies.setConnection connId { connection with stage := .selecting })
      | _ => .none
  | .take _ =>
      -- The branch is disabled while the queue is empty, also when its sender is gone.
      if connection.stage = .selecting then
        match (world.queued connId)[connection.taken]? with
        | some data => some (world, proxies.setConnection connId { connection with
            stage := .writing data, taken := connection.taken + 1 })
        | .none => .none
      else .none
  | .writeAll _ =>
      match connection.stage with
      | .writing data => some (world, proxies.setConnection connId { connection with
          stage := .selecting, written := connection.written ++ [data] })
      | _ => .none
  | .writeError _ =>
      match connection.stage with
      | .writing _ => some (world, proxies.setConnection connId { connection with stage := .leaving })
      | _ => .none
  | .close _ =>
      if connection.stage = .leaving then
        some (world.offer proxies connection.agentSender (.closeConnection connId),
          proxies.setConnection connId { connection with stage := .removing })
      else .none
  | .remove _ =>
      if connection.stage = .removing then
        some (world.setConnSender connId false,
          proxies.setConnection connId { connection with stage := .ended })
      else .none
  | _ => .none

/-- What the task of a UDP client does. -/
def Proxies.serveUdp (world : World) (proxies : Proxies) (connId : Uuid) (connection : Connection) :
    ProxyAction → Option (World × Proxies)
  | .enroll _ =>
      if connection.stage = .announced then
        some (world.setConnSender connId true,
          proxies.setConnection connId { connection with stage := .selecting })
      else .none
  | .passOn _ =>
      if connection.stage = .selecting then
        match (world.queued connId)[connection.taken]? with
        | some data =>
            let passed := proxies.setConnection connId { connection with taken := connection.taken + 1 }
            match proxies.listeners connection.listener with
            | some listener => some (world, passed.setListener connection.listener
                (some { listener with inbox := listener.inbox ++ [(connId, data)] }))
            | .none => some (world, passed)
        | .none => .none
      else .none
  | .retire _ =>
      if connection.stage = .selecting ∧ world.tcpConnSenders connId = false ∧
          connection.taken = (world.queued connId).length then
        some (world, proxies.setConnection connId { connection with stage := .ended })
      else .none
  | _ => .none

/-- The listener task that performs an action. -/
def ProxyAction.task : ProxyAction → Option Nat
  | .cancel task | .check task | .fault task | .accept task _ | .register task
  | .receive task .. | .forwardDatagram task | .takeReply task | .sendTo task => some task
  | _ => none

/-- The connection whose task or client performs an action. -/
def ProxyAction.connection : ProxyAction → Option Uuid
  | .arrive connId _ | .finish connId | .read connId _ | .readEof connId | .readError connId
  | .forward connId | .take connId | .writeAll connId | .writeError connId | .close connId
  | .remove connId | .enroll connId | .passOn connId | .retire connId => some connId
  | _ => none

def Proxies.perform [Externals] (world : World) (proxies : Proxies) (action : ProxyAction) :
    Option (World × Proxies) :=
  match action with
  | .closeChannel sender =>
      some (world, { proxies with closed := Function.update proxies.closed sender true })
  | _ =>
      match action.task with
      | some task =>
          match proxies.listeners task with
          | some listener => proxies.listen world task listener action
          | .none => .none
      | .none =>
          match action.connection with
          | some connId =>
              match proxies.connections connId with
              | some connection =>
                  match connection.transport with
                  | .tcp => proxies.serveTcp world connId connection action
                  | .udp => proxies.serveUdp world connId connection action
              | .none => .none
          | .none => .none

/-! ## The whole process -/

structure Process where
  world : World
  proxies : Proxies

def Process.initial (portRange : UInt16 × UInt16) : Process :=
  ⟨World.initial portRange Database.empty [], .none⟩

/-- What an operation of a handler does to the proxy tasks. -/
def Proxies.after (world : World) (proxies : Proxies) : Op → Proxies
  | .spawnProxy transport _ tunnelId agentId sender =>
      (proxies.setListener world.spawned (some
        { transport, tunnelId, agentId, agentSender := sender, aborted := false, stage := .checking,
          addrToConn := [], connToAddr := [], inbox := [] })).record world.spawned (some
        { tunnelId, agentSender := sender, received := [], sent := [] })
  | .removeTunnelTask tunnelId =>
      match world.tunnelTasks tunnelId with
      | some handle => proxies.setListener handle.task
          ((proxies.listeners handle.task).map ({ · with aborted := true }))
      | .none => proxies
  | _ => proxies

/-- A job of the process: a request or a frame, or one action of a proxy. -/
inductive Work where
  | serve (job : Job)
  | proxy (action : ProxyAction)
deriving DecidableEq

variable [Externals]

abbrev process : System relaySignature where
  State := Process
  Choice := Choice
  Job := Work
  Reply := Reply
  exec := fun state choice op => (exec state.world choice op).map fun (world, result) =>
    (⟨world, state.proxies.after state.world op⟩, result)
  accept := fun state work =>
    match work with
    | .serve job => (accept state.world job).map fun world => ⟨world, state.proxies⟩
    | .proxy action => (state.proxies.perform state.world action).map fun (world, proxies) => ⟨world, proxies⟩
  program := fun work =>
    match work with
    | .serve job => serve job
    | .proxy _ => .done .none
  reboot := fun state => ⟨state.world.reboot, .none⟩

/-- The configurations of a process started on an empty database. -/
abbrev Runs (allowed : Condition process) (portRange : UInt16 × UInt16) (config : Config process) : Prop :=
  Reachable allowed (Process.initial portRange) config

end TunnelitRelay
