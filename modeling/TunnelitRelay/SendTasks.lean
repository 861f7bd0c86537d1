import TunnelitRelay.Announcements
import TunnelitRelay.Refinement
import TunnelitRelay.StreamFidelity
import TunnelitRelay.UdpFlows
import TunnelitRelay.WireFormat

namespace TunnelitRelay

open Concurrent Data Program

/-! # What travels over the WebSockets (`handle_socket`)

Each session has a task that takes the messages from its channel, one by one, and
writes them to the socket as JSON.  It ends when a write fails, or when the end
of the session has aborted it, and takes the receiving end of the channel with it.
Text frames are read as JSON, and passed over where they are no message.
-/

/-- The task that forwards the messages of a channel: how many it has received,
the text it is about to write, and the texts it has written. -/
structure SendTask where
  received : Nat
  hand : Option Json
  written : List Json
  ended : Bool

def SendTask.start : SendTask := ⟨0, none, [], false⟩

section System

variable [Externals]

namespace SendTask

/-- `rx.recv()` and `to_string`. -/
def receive (task : SendTask) (sent : List RelayMessage) : Option SendTask :=
  if task.ended = false ∧ task.hand.isNone then
    sent[task.received]?.map fun message =>
      { task with received := task.received + 1, hand := some message.toJson }
  else none

/-- `ws_sender.send` succeeds. -/
def write (task : SendTask) : Option SendTask :=
  if task.ended = false then
    task.hand.map fun text => { task with hand := none, written := task.written ++ [text] }
  else none

/-- `ws_sender.send` fails, and the loop is left. -/
def fail (task : SendTask) : Option SendTask :=
  if task.ended = false ∧ task.hand.isSome then some { task with ended := true } else none

/-- The aborted task is dropped, with what it has in its hands. -/
def drop (task : SendTask) (aborted : Bool) : Option SendTask :=
  if task.ended = false ∧ aborted then some { task with ended := true } else none

end SendTask

/-- A text frame, as JSON if it is any. -/
def Frame.ofText (text : Option Json) : Frame :=
  match text.bind AgentMessage.fromJson with
  | some parsed => .message parsed
  | none => .ignored

structure Wired where
  process : Process
  sendTasks : Channel → SendTask

def Wired.initial (portRange : UInt16 × UInt16) : Wired :=
  ⟨Process.initial portRange, fun _ => .start⟩

/-- A job of the process other than a message or the closing of a channel, a text
frame, or a step of a task that forwards messages. -/
inductive Transfer where
  | work (work : Work)
  | text (session : SessionId) (text : Option Json)
  | receive (channel : Channel)
  | write (channel : Channel)
  | fail (channel : Channel)
  | drop (channel : Channel)

/-- Messages come as texts, and a channel is closed by the task that reads it. -/
def Work.direct : Work → Bool
  | .serve (.frame _ (.message _)) | .proxy (.closeChannel _) => false
  | _ => true

/-- What a transfer is for the process. -/
def Transfer.work? : Transfer → Option Work
  | .work job => some job
  | .text session json => some (.serve (.frame session (Frame.ofText json)))
  | .fail channel | .drop channel => some (.proxy (.closeChannel channel))
  | .receive _ | .write _ => none

/-- The session has aborted its task. -/
def World.aborted (world : World) (session : SessionId) : Bool :=
  (world.sessions session).any (·.phase != .reading)

def Wired.set (state : Wired) (channel : Channel) (task : SendTask) : Wired :=
  { state with sendTasks := Function.update state.sendTasks channel task }

/-- What a transfer does to the task of its channel. -/
def Wired.forward (state : Wired) : Transfer → Option Wired
  | .work job => if job.direct then some state else none
  | .text .. => some state
  | .receive channel =>
      ((state.sendTasks channel).receive (state.process.world.sent channel)).map (state.set channel)
  | .write channel => (state.sendTasks channel).write.map (state.set channel)
  | .fail channel => (state.sendTasks channel).fail.map (state.set channel)
  | .drop channel => ((state.sendTasks channel).drop (state.process.world.aborted channel)).map (state.set channel)

def Wired.accept (state : Wired) (transfer : Transfer) : Option Wired :=
  (state.forward transfer).bind fun middle =>
    match transfer.work? with
    | some work => (TunnelitRelay.process.accept state.process work).map fun process => { middle with process }
    | none => some middle

abbrev wired : System relaySignature where
  State := Wired
  Choice := Choice
  Job := Transfer
  Reply := Reply
  exec := fun state choice op =>
    (TunnelitRelay.process.exec state.process choice op).map fun (process, result) => ({ state with process }, result)
  accept := Wired.accept
  program := fun transfer =>
    match transfer.work? with
    | some work => TunnelitRelay.process.program work
    | none => .done .none
  reboot := fun state => ⟨TunnelitRelay.process.reboot state.process, fun _ => .start⟩

/-- The process, as the sockets see it. -/
def processBehind : Simulation (.refl relaySignature) process wired where
  Relates := fun process state => state.process = process
  shown := Transfer.work?
  reply := id
  silent := fun _ => False
  program := fun {transfer work} visible => by
    have runs : wired.program transfer = TunnelitRelay.process.program work := by
      simp only [wired, visible]
    exact runs.trans embed_refl.symm
  hidden := fun {transfer} unseen => by
    have done : wired.program transfer = .done .none := by
      simp only [wired, unseen]
    rw [done]
    trivial
  admits := fun {_ state _ transfer work} same visible admitted => by
    subst same
    obtain ⟨middle, _, accepted⟩ := Option.bind_eq_some_iff.mp admitted
    simp only [visible] at accepted
    obtain ⟨process, accepts, rfl⟩ := Option.map_eq_some_iff.mp accepted
    exact ⟨process, accepts, rfl⟩
  ignores := fun {_ state after transfer} same unseen admitted => by
    subst same
    obtain ⟨middle, forwards, accepted⟩ := Option.bind_eq_some_iff.mp admitted
    simp only [unseen, Option.some.injEq] at accepted
    subst accepted
    cases transfer with
    | work | text | fail | drop => contradiction
    | receive | write =>
        obtain ⟨task, _, rfl⟩ := Option.map_eq_some_iff.mp forwards
        rfl
  performs := fun {_ _ choice _ _ _} same executed => by
    subst same
    obtain ⟨_, performed, same⟩ := Option.map_eq_some_iff.mp executed
    cases same
    exact ⟨choice, _, performed, rfl⟩
  unseen := fun _ never _ => never.elim
  reboots := fun same => by
    subst same
    rfl

/-! ## In order -/

/-- What a task has written and has in its hand are the messages it has received. -/
structure SendTask.InStep (task : SendTask) (sent : List RelayMessage) : Prop where
  texts : task.written ++ task.hand.toList = (sent.take task.received).map RelayMessage.toJson
  within : task.received ≤ sent.length

variable {task next : SendTask} {sent later : List RelayMessage}

theorem SendTask.InStep.grows (inStep : task.InStep sent) (grows : sent <+: later) : task.InStep later := by
  obtain ⟨more, rfl⟩ := grows
  refine ⟨?_, inStep.within.trans (by simp)⟩
  rw [inStep.texts, List.take_append_of_le_length inStep.within]

theorem SendTask.InStep.receive (inStep : task.InStep sent) (received : task.receive sent = some next) :
    next.InStep sent := by
  unfold SendTask.receive at received
  split at received
  · rename_i idle
    obtain ⟨message, there, rfl⟩ := Option.map_eq_some_iff.mp received
    have empty : task.hand = none := Option.isNone_iff_eq_none.mp idle.2
    obtain ⟨inside, found⟩ := List.getElem?_eq_some_iff.mp there
    have texts := inStep.texts
    rw [empty, Option.toList_none, List.append_nil] at texts
    refine ⟨?_, inside⟩
    have taken : sent.take (task.received + 1) = sent.take task.received ++ [message] := by
      rw [← found, List.take_append_getElem inside]
    simp only [Option.toList_some, texts, taken, List.map_append, List.map_singleton]
  · contradiction

theorem SendTask.InStep.write (inStep : task.InStep sent) (wrote : task.write = some next) : next.InStep sent := by
  unfold SendTask.write at wrote
  split at wrote
  · obtain ⟨text, there, rfl⟩ := Option.map_eq_some_iff.mp wrote
    have texts := inStep.texts
    rw [there] at texts
    exact ⟨by simpa using texts, inStep.within⟩
  · contradiction

theorem SendTask.InStep.fail (inStep : task.InStep sent) (failed : task.fail = some next) : next.InStep sent := by
  unfold SendTask.fail at failed
  split at failed
  · cases failed
    exact ⟨inStep.texts, inStep.within⟩
  · contradiction

theorem SendTask.InStep.drop {aborted : Bool} (inStep : task.InStep sent) (dropped : task.drop aborted = some next) :
    next.InStep sent := by
  unfold SendTask.drop at dropped
  split at dropped
  · cases dropped
    exact ⟨inStep.texts, inStep.within⟩
  · contradiction

/-- What holds of every channel: its task has written what was sent, in order, and
it is closed when the task has ended. -/
structure Wired.Orderly (state : Wired) : Prop where
  inStep : ∀ channel, (state.sendTasks channel).InStep (state.process.world.sent channel)
  closed : ∀ channel, state.process.proxies.closed channel = (state.sendTasks channel).ended

theorem process_sent {before after : Process} {work : Work}
    (accepted : TunnelitRelay.process.accept before work = some after) (channel : Channel) :
    before.world.sent channel <+: after.world.sent channel := by
  cases work with
  | serve job =>
      obtain ⟨world, admitted, rfl⟩ := Option.map_eq_some_iff.mp accepted
      obtain ⟨sessions, rfl⟩ := accept_same admitted
      exact List.prefix_refl _
  | proxy action =>
      obtain ⟨_, performed, rfl⟩ := Option.map_eq_some_iff.mp accepted
      rcases Proxies.perform_sent performed channel with same | ⟨message, grown, _⟩
      · exact same ▸ List.prefix_refl _
      · exact grown ▸ List.prefix_append _ _

/-- A channel is closed by nothing but the action of that name. -/
theorem process_closed {before after : Process} {work : Work}
    (accepted : TunnelitRelay.process.accept before work = some after) :
    after.proxies.closed = match work with
      | .proxy (.closeChannel channel) => Function.update before.proxies.closed channel true
      | _ => before.proxies.closed := by
  cases work with
  | serve job =>
      obtain ⟨world, admitted, rfl⟩ := Option.map_eq_some_iff.mp accepted
      rfl
  | proxy action =>
      obtain ⟨⟨world, proxies⟩, performed, rfl⟩ := Option.map_eq_some_iff.mp accepted
      unfold Proxies.perform at performed
      split at performed
      · cases performed
        rfl
      · rename_i other
        have same : proxies.closed = before.proxies.closed := by
          split at performed
          · split at performed
            · exact Proxies.listen_closed performed
            · contradiction
          · split at performed
            · split at performed
              · split at performed
                · exact Proxies.serveTcp_closed performed
                · exact Proxies.serveUdp_closed performed
              · contradiction
            · contradiction
        cases action with
        | closeChannel channel => exact absurd rfl (other channel)
        | _ => exact same

theorem Wired.Orderly.set {state : Wired} {process : Process} {channel : Channel} {task : SendTask}
    (orderly : state.Orderly) (grows : ∀ other, state.process.world.sent other <+: process.world.sent other)
    (inStep : task.InStep (process.world.sent channel)) (own : process.proxies.closed channel = task.ended)
    (others : ∀ other, other ≠ channel → process.proxies.closed other = state.process.proxies.closed other) :
    Wired.Orderly ⟨process, Function.update state.sendTasks channel task⟩ := by
  constructor
  · intro other
    dsimp only
    by_cases here : other = channel
    · subst here
      rwa [Function.update_self]
    · rw [Function.update_of_ne here]
      exact (orderly.inStep other).grows (grows other)
  · intro other
    dsimp only
    by_cases here : other = channel
    · subst here
      rwa [Function.update_self]
    · rw [Function.update_of_ne here, others other here]
      exact orderly.closed other

/-- A task that ends closes its channel. -/
theorem Wired.Orderly.ends {state : Wired} {process : Process} {channel : Channel} {task : SendTask}
    (orderly : state.Orderly) (inStep : task.InStep (state.process.world.sent channel)) (ended : task.ended = true)
    (accepted : TunnelitRelay.process.accept state.process (.proxy (.closeChannel channel)) = some process) :
    Wired.Orderly ⟨process, Function.update state.sendTasks channel task⟩ := by
  have closed := process_closed accepted
  refine orderly.set (process_sent accepted) (inStep.grows (process_sent accepted channel)) ?_ fun other here => ?_
  · rw [closed, ended]
    exact Function.update_self ..
  · rw [closed]
    exact Function.update_of_ne here ..

theorem SendTask.receive_ended (received : task.receive sent = some next) : next.ended = task.ended := by
  unfold SendTask.receive at received
  split at received
  · obtain ⟨_, _, rfl⟩ := Option.map_eq_some_iff.mp received
    rfl
  · contradiction

omit [Externals] in
theorem SendTask.write_ended (wrote : task.write = some next) : next.ended = task.ended := by
  unfold SendTask.write at wrote
  split at wrote
  · obtain ⟨_, _, rfl⟩ := Option.map_eq_some_iff.mp wrote
    rfl
  · contradiction

omit [Externals] in
theorem SendTask.fail_ended (failed : task.fail = some next) : next.ended = true := by
  unfold SendTask.fail at failed
  split at failed
  · cases failed
    rfl
  · contradiction

omit [Externals] in
theorem SendTask.drop_ended {aborted : Bool} (dropped : task.drop aborted = some next) : next.ended = true := by
  unfold SendTask.drop at dropped
  split at dropped
  · cases dropped
    rfl
  · contradiction

/-- A move that leaves the tasks of the channels alone and closes no channel. -/
theorem Wired.Orderly.same {state : Wired} {process : Process} (orderly : state.Orderly)
    (grows : ∀ channel, state.process.world.sent channel <+: process.world.sent channel)
    (closed : process.proxies.closed = state.process.proxies.closed) : Wired.Orderly ⟨process, state.sendTasks⟩ :=
  ⟨fun channel => (orderly.inStep channel).grows (grows channel), fun channel => by
    rw [closed]
    exact orderly.closed channel⟩

theorem Wired.Orderly.accept {state after : Wired} {transfer : Transfer} (orderly : state.Orderly)
    (admitted : state.accept transfer = some after) : after.Orderly := by
  obtain ⟨middle, forwards, accepted⟩ := Option.bind_eq_some_iff.mp admitted
  cases transfer with
  | work job =>
      simp only [Wired.forward] at forwards
      split at forwards
      · rename_i direct
        cases forwards
        obtain ⟨process, accepts, rfl⟩ := Option.map_eq_some_iff.mp accepted
        refine orderly.same (process_sent accepts) ((process_closed accepts).trans ?_)
        split
        · contradiction
        · rfl
      · contradiction
  | text session json =>
      cases forwards
      obtain ⟨process, accepts, rfl⟩ := Option.map_eq_some_iff.mp accepted
      exact orderly.same (process_sent accepts) (process_closed accepts)
  | receive channel =>
      obtain ⟨task, received, rfl⟩ := Option.map_eq_some_iff.mp forwards
      cases accepted
      exact orderly.set (fun _ => List.prefix_refl _) ((orderly.inStep channel).receive received)
        ((orderly.closed channel).trans (SendTask.receive_ended received).symm) fun _ _ => rfl
  | write channel =>
      obtain ⟨task, wrote, rfl⟩ := Option.map_eq_some_iff.mp forwards
      cases accepted
      exact orderly.set (fun _ => List.prefix_refl _) ((orderly.inStep channel).write wrote)
        ((orderly.closed channel).trans (SendTask.write_ended wrote).symm) fun _ _ => rfl
  | fail channel =>
      obtain ⟨task, failed, rfl⟩ := Option.map_eq_some_iff.mp forwards
      obtain ⟨process, accepts, rfl⟩ := Option.map_eq_some_iff.mp accepted
      exact orderly.ends ((orderly.inStep channel).fail failed) (SendTask.fail_ended failed) accepts
  | drop channel =>
      obtain ⟨task, dropped, rfl⟩ := Option.map_eq_some_iff.mp forwards
      obtain ⟨process, accepts, rfl⟩ := Option.map_eq_some_iff.mp accepted
      exact orderly.ends ((orderly.inStep channel).drop dropped) (SendTask.drop_ended dropped) accepts

variable {portRange : UInt16 × UInt16} {allowed : Condition wired} {config : Config wired}

theorem wired_orderly (reached : Reachable allowed (Wired.initial portRange) config) : config.state.Orderly := by
  refine (@Reachable.maintain _ wired allowed Wired.Orderly (fun _ _ _ => True) _ _ ?_ ?_ ?_ ?_ reached).1
  · exact ⟨fun _ => ⟨rfl, Nat.le_refl _⟩, fun _ => rfl⟩
  · exact fun orderly admitted => ⟨orderly.accept admitted, trivial, fun _ _ _ => trivial⟩
  · intro before task thread op next choice state result _ orderly _ _ _ _ executed
    refine ⟨?_, trivial, fun _ _ _ => trivial⟩
    obtain ⟨_, performed, same⟩ := Option.map_eq_some_iff.mp executed
    cases same
    obtain ⟨⟨world, answer⟩, calls, same⟩ := Option.map_eq_some_iff.mp performed
    cases same
    exact orderly.same (sent_grows calls) Proxies.after_closed
  · exact fun _ => ⟨fun _ => ⟨rfl, Nat.le_refl _⟩, fun _ => rfl⟩

/-! ## From end to end -/

theorem Wired.within {config : Config wired} (reached : Reachable anyStep (Wired.initial portRange) config) :
    ∃ between, Runs anyStep portRange between ∧ processBehind.Related between config := by
  have starts : processBehind.Relates (Process.initial portRange) (Wired.initial portRange) := rfl
  exact processBehind.refines starts reached

/-- What has been written to the socket of a session is the beginning of what was
sent on its channel, message by message; the channel is closed if and only if the
task that writes to the socket has ended. -/
theorem socket_in_order (reached : Reachable allowed (Wired.initial portRange) config) (channel : Channel) :
    (config.state.sendTasks channel).written <+:
        (config.state.process.world.sent channel).map RelayMessage.toJson ∧
      config.state.process.proxies.closed channel = (config.state.sendTasks channel).ended := by
  have orderly := wired_orderly reached
  refine ⟨?_, orderly.closed channel⟩
  have texts := (orderly.inStep channel).texts
  calc (config.state.sendTasks channel).written
      <+: (config.state.sendTasks channel).written ++ (config.state.sendTasks channel).hand.toList :=
        List.prefix_append _ _
    _ = ((config.state.process.world.sent channel).take (config.state.sendTasks channel).received).map
        RelayMessage.toJson := texts
    _ <+: (config.state.process.world.sent channel).map RelayMessage.toJson := (List.take_prefix _ _).map _

/-- The messages that the agent at the other end of the socket reads. -/
def Wired.heard (state : Wired) (channel : Channel) : List RelayMessage :=
  (state.sendTasks channel).written.filterMap RelayMessage.fromJson

theorem Wired.Orderly.heard {state : Wired} (orderly : state.Orderly) (channel : Channel) :
    state.heard channel <+: state.process.world.sent channel := by
  have texts := (orderly.inStep channel).texts
  have reads (messages : List RelayMessage) : (messages.map RelayMessage.toJson).filterMap RelayMessage.fromJson = messages := by
    induction messages with
    | nil => rfl
    | cons message rest ih =>
        rw [List.map_cons, List.filterMap_cons_some (RelayMessage.fromJson_toJson message), ih]
  calc state.heard channel
      <+: ((state.sendTasks channel).written ++ (state.sendTasks channel).hand.toList).filterMap RelayMessage.fromJson := by
        rw [List.filterMap_append]
        exact List.prefix_append _ _
    _ = (state.process.world.sent channel).take (state.sendTasks channel).received := by rw [texts, reads]
    _ <+: state.process.world.sent channel := List.take_prefix _ _

omit [Externals] in
/-- What has been passed on is the beginning of what was read, and is followed by at most one close. -/
theorem ConnStage.Told.part {connId : Uuid} {stage : ConnStage} {read sent : List (List UInt8)}
    {closing : List RelayMessage} (told : stage.Told connId read sent closing) :
    sent <+: read ∧ (closing = [] ∨ closing = [.closeConnection connId]) := by
  cases stage with
  | announced | selecting | writing => exact ⟨told.1 ▸ List.prefix_refl _, .inl told.2⟩
  | forwarding bytes => exact ⟨⟨_, told.1⟩, .inl told.2⟩
  | leaving => exact ⟨told.1, .inl told.2⟩
  | removing | ended => exact told

/-- What an agent reads of a TCP connection from its socket is an announcement,
then data that is the beginning of what the relay has read from the client, then
at most one close; other agents read nothing of it. -/
theorem client_to_agent {connId : Uuid} {connection : Connection}
    (reached : Reachable anyStep (Wired.initial portRange) config)
    (there : config.state.process.proxies.connections connId = some connection) (tcp : connection.transport = .tcp) :
    (∃ chunks : List (List UInt8), (config.state.heard connection.agentSender).filter (·.about == some connId) <+:
        .newConnection connection.tunnelId connId ::
          chunks.map (fun bytes => .data connId (encodeBase64 bytes)) ++ [.closeConnection connId] ∧
        chunks.flatten <+: connection.read.flatten) ∧
      ∀ channel, channel ≠ connection.agentSender →
        (config.state.heard channel).filter (·.about == some connId) = [] := by
  obtain ⟨between, runs, related⟩ := Wired.within reached
  have told := @Runs.told _ connId _ _ _ runs
  rw [← related.state] at told
  obtain ⟨sent, closing, messages, stage⟩ := told.stream connection there tcp
  have heard (channel : Channel) : (config.state.heard channel).filter (·.about == some connId) <+:
      onlyTo connection.agentSender (transcript connId connection sent closing) channel :=
    (congrFun messages channel) ▸ ((wired_orderly reached).heard channel).filter _
  refine ⟨⟨sent, ?_, ?_⟩, fun channel other => ?_⟩
  · have own := heard connection.agentSender
    rw [onlyTo, Function.update_self] at own
    refine own.trans ?_
    rcases (stage.part).2 with rfl | rfl
    · exact List.prefix_append_right_inj _ |>.mpr (List.nil_prefix)
    · exact List.prefix_refl _
  · obtain ⟨rest, whole⟩ := stage.part.1
    exact ⟨rest.flatten, by rw [← whole, List.flatten_append]⟩
  · have none := heard channel
    rw [onlyTo, Function.update_of_ne other] at none
    exact List.prefix_nil.mp none

omit [Externals] in
theorem toldAbout_about {world : World} {serves : Uuid → Bool} {connId : Uuid} {channel : Channel}
    (served : serves connId = true) :
    (world.toldAbout serves channel).filter (·.about == some connId) = (world.sent channel).filter (·.about == some connId) := by
  rw [World.toldAbout, List.filter_filter]
  refine List.filter_congr fun message _ => ?_
  cases about : message.about == some connId with
  | false => rfl
  | true => simp [beq_iff_eq.mp about, served]

/-- What an agent reads from its socket of the clients of a UDP listener, while
the task that writes to the socket is running: the datagrams in the order in which
the listener has received them, whichever client they came from, each under the
identifier of its sender, which no other has; of each client first an announcement
and then nothing but data.  Whatever has been sent under an identifier went to the
client it belongs to. -/
theorem datagrams_to_agent {task : Nat} {socket : Socket}
    (reached : Reachable anyStep (Wired.initial portRange) config)
    (there : config.state.process.proxies.sockets task = some socket)
    (running : (config.state.sendTasks socket.agentSender).ended = false) :
    ∃ client : SocketAddr → Option Uuid,
      (∀ addr other connId, client addr = some connId → client other = some connId → addr = other) ∧
      ((config.state.heard socket.agentSender).filter (·.about.any (config.state.process.proxies.serves task))).filterMap
          (·.datagram?) <+: socket.received.map (fun datagram => (client datagram.1, some datagram.2)) ∧
      (∀ addr connId, client addr = some connId →
        (config.state.heard socket.agentSender).filter (·.about == some connId) = [] ∨ ∃ datagrams,
          (config.state.heard socket.agentSender).filter (·.about == some connId) =
            .newConnection socket.tunnelId connId :: datagrams ∧
          ∀ message ∈ datagrams, ∃ payload, message = .data connId payload) ∧
      ∀ connId addr data, (connId, addr, data) ∈ socket.sent → client addr = some connId := by
  obtain ⟨between, runs, related⟩ := Wired.within reached
  have carried := @Runs.carried _ _ _ _ runs task
  rw [← related.state] at carried
  obtain ⟨flows, carries⟩ := carried.2 socket there
  have orderly := wired_orderly reached
  have heard := orderly.heard socket.agentSender
  have listening : config.state.process.proxies.closed socket.agentSender = false :=
    (orderly.closed socket.agentSender).trans running
  have client (addr : SocketAddr) (connId : Uuid) : valueOf flows addr = some connId ↔ (addr, connId) ∈ flows :=
    valueOf_iff carries.addrs
  refine ⟨valueOf flows, ?_, ?_, ?_, ?_⟩
  · intro addr other connId first second
    exact congrArg Prod.fst
      (List.inj_on_of_nodup_map carries.conns ((client addr connId).mp first) ((client other connId).mp second) rfl)
  · obtain ⟨handled, pending, split, _, messages⟩ := carries.data listening
    have part := (heard.filter (·.about.any (config.state.process.proxies.serves task))).filterMap (·.datagram?)
    refine part.trans ?_
    rw [split, List.map_append]
    exact messages ▸ List.prefix_append _ _
  · intro addr connId known
    obtain ⟨datagrams, messages, all⟩ := carries.announced listening connId
      (List.mem_map.mpr ⟨_, (client addr connId).mp known, rfl⟩)
    have served : config.state.process.proxies.serves task connId = true :=
      (carries.serves connId).mpr (List.mem_map.mpr ⟨_, (client addr connId).mp known, rfl⟩)
    have part := heard.filter (·.about == some connId)
    rw [← toldAbout_about served] at part
    rw [show (config.state.process.world.toldAbout (config.state.process.proxies.serves task)
      socket.agentSender).filter (·.about == some connId) = _ from messages] at part
    rcases List.prefix_cons_iff.mp part with none | ⟨first, same, begins⟩
    · exact .inl none
    · exact .inr ⟨first, same, fun message member => all message (begins.subset member)⟩
  · exact fun connId addr data member => (client addr connId).mpr (carries.sent connId addr data member)

end System

/-- A process just started, with its sockets. -/
def newWired : Wired := Wired.initial (10000, 60000)

/-- Alice's agent connects and presents its token as text; a client of her tunnel
sends three bytes in two chunks; the messages are written to the socket. -/
def carried : List (Transfer × Choice) :=
  (tunnelOpened.take 3).map (fun entry => (.work entry.1, entry.2)) ++
    [(.text 0 (some (AgentMessage.auth (Db.agentToken (answer 2 0)) "host").toJson), answer 0 0)] ++
    (tunnelOpened.drop 4).map (fun entry => (.work entry.1, entry.2)) ++
    ((proxied [.check 0, .accept 0 1000, .register 0, .arrive 1000 [1, 2, 3], .read 1000 2, .forward 1000,
      .read 1000 1, .forward 1000]).map fun entry => (.work entry.1, entry.2)) ++
    (List.replicate 6 [(.receive 0, answer 0 0), (.write 0, answer 0 0)]).flatten

theorem wired_run {transfers : List (Transfer × Choice)} {test : Wired → Bool}
    (passed : (wired.performAll transfers newWired).any test = true) :
    ∃ config : Config wired, Reachable anyStep (Wired.initial (10000, 60000)) config ∧ test config.state = true := by
  obtain ⟨state, threads, reached, _, tested⟩ := @System.performAll_check _ wired _ _ _ passed
  exact ⟨⟨state, threads⟩, reached, tested⟩

theorem socket_in_order_alice : ∃ config : Config wired, (config.state.sendTasks 0).written.length = 6 ∧
    (config.state.sendTasks 0).written <+: (config.state.process.world.sent 0).map RelayMessage.toJson ∧
      config.state.process.proxies.closed 0 = (config.state.sendTasks 0).ended := by
  have passed : (wired.performAll carried newWired).any
      (fun state : Wired => (state.sendTasks 0).written.length == 6) = true := by decide +kernel
  obtain ⟨config, reached, tested⟩ := wired_run passed
  exact ⟨config, eq_of_beq tested, socket_in_order reached 0⟩

theorem client_to_agent_alice : ∃ (config : Config wired) (connection : Connection),
    ((config.state.heard 0).filter (·.about == some 1000)).length = 3 ∧ connection.read = [[1, 2], [3]] ∧
    (∃ chunks : List (List UInt8), (config.state.heard connection.agentSender).filter (·.about == some 1000) <+:
        .newConnection connection.tunnelId 1000 ::
          chunks.map (fun bytes => .data 1000 (encodeBase64 bytes)) ++ [.closeConnection 1000] ∧
        chunks.flatten <+: connection.read.flatten) ∧
      ∀ channel, channel ≠ connection.agentSender → (config.state.heard channel).filter (·.about == some 1000) = [] := by
  have passed : (wired.performAll carried newWired).any (fun state : Wired =>
      ((state.heard 0).filter (·.about == some 1000)).length == 3 &&
        (state.process.proxies.connections 1000).any fun connection =>
          connection.transport == .tcp && connection.read == [[1, 2], [3]]) = true := by decide +kernel
  obtain ⟨config, reached, tested⟩ := wired_run passed
  simp only [Bool.and_eq_true, beq_iff_eq, Option.any_eq_true] at tested
  obtain ⟨count, connection, there, tcp, read⟩ := tested
  exact ⟨config, connection, count, read, client_to_agent reached there tcp⟩

/-- Two clients of Alice's UDP tunnel send a datagram each. -/
def carriedDatagrams : List (Transfer × Choice) :=
  (tunnelOpened.take 3).map (fun entry => (.work entry.1, entry.2)) ++
    [(.text 0 (some (AgentMessage.auth (Db.agentToken (answer 2 0)) "host").toJson), answer 0 0)] ++
    ((udpTunnelOpened.drop 4 ++ proxied [.check 0, .receive 0 5 [1] 1000, .forwardDatagram 0, .enroll 1000,
      .check 0, .receive 0 6 [2] 1001, .forwardDatagram 0]).map fun entry => (.work entry.1, entry.2)) ++
    (List.replicate 7 [(.receive 0, answer 0 0), (.write 0, answer 0 0)]).flatten

theorem datagrams_to_agent_two : ∃ (config : Config wired) (socket : Socket), ∃ client : SocketAddr → Option Uuid,
    ((config.state.heard 0).filter (·.about.any (config.state.process.proxies.serves 0))).length = 4 ∧
    ((config.state.heard 0).filter (·.about.any (config.state.process.proxies.serves 0))).filterMap (·.datagram?) <+:
      socket.received.map fun datagram => (client datagram.1, some datagram.2) := by
  have passed : (wired.performAll carriedDatagrams newWired).any (fun state : Wired =>
      ((state.heard 0).filter (·.about.any (state.process.proxies.serves 0))).length == 4 &&
        ((state.process.proxies.sockets 0).any fun socket =>
          socket.agentSender == 0 && (state.sendTasks 0).ended == false)) = true := by decide +kernel
  obtain ⟨config, reached, tested⟩ := wired_run passed
  simp only [Bool.and_eq_true, beq_iff_eq, Option.any_eq_true] at tested
  obtain ⟨count, socket, there, own, running⟩ := tested
  obtain ⟨client, _, datagrams, _⟩ := datagrams_to_agent reached there (own ▸ running)
  exact ⟨config, socket, client, count, own ▸ datagrams⟩

end TunnelitRelay
