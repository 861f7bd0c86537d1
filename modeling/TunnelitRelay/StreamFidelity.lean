import TunnelitRelay.Traffic

namespace TunnelitRelay

open Concurrent

/-! # From the client to the agent -/

section Streams

variable [Externals] {connId : Uuid}

/-- The messages about a TCP connection on its agent's channel: the
announcement, data, at most one close; and the bytes they carry. -/
structure Faithful (state : Process) (connId : Uuid) (connection : Connection) : Prop where
  told : ∃ (payloads : List String) (closing : List RelayMessage),
    state.world.messagesAbout connId connection.agentSender =
      .newConnection connection.tunnelId connId :: payloads.map (.data connId) ++ closing ∧
    (closing = [] ∨ closing = [.closeConnection connId]) ∧
    ∃ chunks : List (List UInt8), payloads.map decodeBase64 = chunks.map some ∧ chunks.flatten <+: connection.read.flatten
  elsewhere : ∀ channel, channel ≠ connection.agentSender → state.world.messagesAbout connId channel = []

/-- What a connection has told its agent at a stage of its task: `sent` are the
chunks passed on, `closing` is what follows them. -/
def ConnStage.Told (connId : Uuid) (read sent : List (List UInt8)) (closing : List RelayMessage) :
    ConnStage → Prop
  | .announced | .selecting | .writing _ => sent = read ∧ closing = []
  | .forwarding bytes => sent ++ [bytes] = read ∧ closing = []
  | .leaving => sent <+: read ∧ closing = []
  | .removing | .ended => sent <+: read ∧ (closing = [] ∨ closing = [.closeConnection connId])

def onlyTo (channel : Channel) (messages : List RelayMessage) : Channel → List RelayMessage :=
  Function.update (fun _ => []) channel messages

def transcript (connId : Uuid) (connection : Connection) (sent : List (List UInt8))
    (closing : List RelayMessage) : List RelayMessage :=
  .newConnection connection.tunnelId connId ::
    sent.map (fun bytes => .data connId (encodeBase64 bytes)) ++ closing

/-- An identifier not in use has no messages, and a TCP connection has its transcript. -/
structure View.Told (connId : Uuid) (view : View) : Prop where
  unused : view.connection = Option.none → view.messages = fun _ => []
  stream : ∀ connection, view.connection = some connection → connection.transport = .tcp →
    ∃ sent closing, view.messages = onlyTo connection.agentSender (transcript connId connection sent closing) ∧
      connection.stage.Told connId connection.read sent closing

omit [Externals] in
theorem onlyTo_append {channel : Channel} {messages : List RelayMessage} {message : RelayMessage} :
    Function.update (onlyTo channel messages) channel (onlyTo channel messages channel ++ [message]) =
      onlyTo channel (messages ++ [message]) := by
  simp [onlyTo]

theorem View.Told.step {before after : View} {closed : Channel → Bool} {old drawn : List Uuid}
    {label : Option ProxyAction} (told : before.Told connId)
    (step : View.Step closed old drawn connId label before after) : after.Told connId := by
  -- A change that leaves the messages alone keeps the transcript.
  have keep {connection later : Connection} (there : before.connection = some connection)
      (tcp : connection.transport = .tcp)
      (same : later.agentSender = connection.agentSender ∧ later.tunnelId = connection.tunnelId)
      (next : ∀ sent closing, connection.stage.Told connId connection.read sent closing →
        later.stage.Told connId later.read sent closing) : (before.set later).Told connId := by
    obtain ⟨sent, closing, messages, stage⟩ := told.stream connection there tcp
    refine ⟨fun absent => by contradiction, fun found known _ => ?_⟩
    obtain rfl := Option.some.inj known
    refine ⟨sent, closing, ?_, next sent closing stage⟩
    simp only [transcript, same.1, same.2]
    exact messages
  have datagrams {later : View} (connection : Connection) (there : later.connection = some connection)
      (other : connection.transport ≠ .tcp) : later.Told connId := by
    refine ⟨fun absent => by rw [there] at absent; contradiction, fun found known tcp => ?_⟩
    obtain rfl := Option.some.inj (there.symm.trans known)
    exact absurd tcp other
  cases step with
  | same => exact told
  | enqueued | unregistered => exact ⟨told.unused, told.stream⟩
  | rebooted => exact ⟨fun _ => rfl, fun _ known => by contradiction⟩
  | @announced _ listener task _ known =>
      refine ⟨fun absent => by contradiction, fun found known tcp => ?_⟩
      obtain rfl := Option.some.inj known
      exact ⟨[], [], rfl, rfl, rfl⟩
  | unannounced _ _ udp => exact datagrams _ rfl (by simp [Listener.accepted, udp])
  | @registered _ connection _ there stage =>
      by_cases tcp : connection.transport = .tcp
      · obtain ⟨unused, stream⟩ := @keep _ { connection with stage := .selecting } there tcp
          ⟨rfl, rfl⟩ fun sent closing holds => by rwa [stage] at holds
        exact ⟨unused, stream⟩
      · exact datagrams _ rfl tcp
  | dropped there tcp stage =>
      refine keep there tcp ⟨rfl, rfl⟩ fun sent closing holds => ?_
      rw [stage] at holds
      obtain ⟨rfl, rfl⟩ := holds
      exact ⟨List.prefix_refl _, .inl rfl⟩
  | arrived there tcp | finished there tcp => exact keep there tcp ⟨rfl, rfl⟩ fun _ _ holds => holds
  | read there tcp stage =>
      refine keep there tcp ⟨rfl, rfl⟩ fun sent closing holds => ?_
      rw [stage] at holds
      obtain ⟨rfl, rfl⟩ := holds
      exact ⟨rfl, rfl⟩
  | leftEof there tcp stage | leftError there tcp stage | leftUnwritten there tcp stage =>
      refine keep there tcp ⟨rfl, rfl⟩ fun sent closing holds => ?_
      rw [stage] at holds
      obtain ⟨rfl, rfl⟩ := holds
      exact ⟨List.prefix_refl _, rfl⟩
  | leftUnsent there tcp stage =>
      refine keep there tcp ⟨rfl, rfl⟩ fun sent closing holds => ?_
      rw [stage] at holds
      obtain ⟨whole, rfl⟩ := holds
      exact ⟨⟨_, whole⟩, rfl⟩
  | @forwarded connection bytes _ there tcp stage =>
      obtain ⟨sent, closing, messages, holds⟩ := told.stream connection there tcp
      rw [stage] at holds
      obtain ⟨whole, rfl⟩ := holds
      refine ⟨fun absent => by contradiction, fun found known _ => ?_⟩
      obtain rfl := Option.some.inj known
      refine ⟨sent ++ [bytes], [], ?_, whole, rfl⟩
      simp only [View.tell, View.set, messages, onlyTo_append, transcript]
      simp
  | took there tcp stage | wrote there tcp stage =>
      refine keep there tcp ⟨rfl, rfl⟩ fun sent closing holds => ?_
      rw [stage] at holds
      exact holds
  | @closed connection _ there tcp stage =>
      obtain ⟨sent, closing, messages, holds⟩ := told.stream connection there tcp
      rw [stage] at holds
      obtain ⟨part, rfl⟩ := holds
      refine ⟨fun absent => by contradiction, fun found known _ => ?_⟩
      obtain rfl := Option.some.inj known
      refine ⟨sent, [.closeConnection connId], ?_, part, .inr rfl⟩
      simp only [View.tell, View.set, messages, onlyTo_append, transcript]
      simp
  | closedUnheard there tcp stage =>
      refine keep there tcp ⟨rfl, rfl⟩ fun sent closing holds => ?_
      rw [stage] at holds
      exact ⟨holds.1, .inl holds.2⟩
  | @removed connection _ there tcp stage =>
      obtain ⟨unused, stream⟩ := @keep _ { connection with stage := .ended } there tcp
        ⟨rfl, rfl⟩ fun sent closing holds => by rwa [stage] at holds
      exact ⟨unused, stream⟩
  | datagram there udp => exact datagrams _ there (by simp [udp])
  | replied there udp | passedOn there udp | retired there udp => exact datagrams _ rfl (by simp [udp])

theorem Runs.told {allowed : Condition process} {portRange : UInt16 × UInt16} {config : Config process}
    (runs : Runs allowed portRange config) : (config.state.view connId).Told connId :=
  Runs.always ⟨fun _ => rfl, fun _ known => by contradiction⟩ (fun told step => told.step step) runs

/-- In every run the messages about a TCP connection are a faithful stream of
the bytes read from its client, and there are none about an unused identifier. -/
theorem stream_faithful {portRange : UInt16 × UInt16} {config : Config process}
    (runs : Runs anyStep portRange config) (connId : Uuid) :
    (config.state.proxies.connections connId = none →
      ∀ channel, config.state.world.messagesAbout connId channel = []) ∧
    ∀ connection, config.state.proxies.connections connId = some connection →
      connection.transport = .tcp → Faithful config.state connId connection := by
  have told := @Runs.told _ connId _ _ _ runs
  refine ⟨fun absent channel => congrFun (told.unused absent) channel, fun connection there tcp => ?_⟩
  obtain ⟨sent, closing, messages, stage⟩ := told.stream connection there tcp
  have part : sent <+: connection.read ∧ (closing = [] ∨ closing = [.closeConnection connId]) := by
    cases at' : connection.stage <;> rw [at'] at stage
    case forwarding bytes => exact ⟨⟨_, stage.1⟩, .inl stage.2⟩
    case leaving => exact ⟨stage.1, .inl stage.2⟩
    case removing => exact stage
    case ended => exact stage
    all_goals exact ⟨stage.1 ▸ List.prefix_refl _, .inl stage.2⟩
  constructor
  · refine ⟨sent.map encodeBase64, closing, ?_, part.2, sent, ?_, ?_⟩
    · have own := congrFun messages connection.agentSender
      simp only [onlyTo, Function.update_self] at own
      rw [show config.state.world.messagesAbout connId connection.agentSender = _ from own, transcript,
        List.map_map]
      rfl
    · rw [List.map_map]
      exact List.map_congr_left fun bytes _ => decodeBase64_encode bytes
    · obtain ⟨rest, whole⟩ := part.1
      exact ⟨rest.flatten, by rw [← whole, List.flatten_append]⟩
  · intro channel other
    have none := congrFun messages channel
    simp only [onlyTo, Function.update_of_ne other] at none
    exact none

end Streams

/-- A client sends three bytes in two chunks and closes. -/
theorem stream_faithful_closed :
    ∃ config : Config process, ∃ connection, (config.state.world.messagesAbout 1000 0).length = 4 ∧
      connection.read = [[1, 2], [3]] ∧ Faithful config.state 1000 connection := by
  have passed : (process.follow (fun _ _ _ _ => true) 200 (works 0 (tunnelOpened ++ proxied
      [.check 0, .accept 0 1000, .register 0, .arrive 1000 [1, 2, 3], .read 1000 2, .forward 1000,
        .finish 1000, .read 1000 1, .forward 1000, .readEof 1000, .close 1000, .remove 1000]))
      ⟨newProcess, []⟩).any (fun config =>
        (config.state.world.messagesAbout 1000 0).length == 4 &&
          (config.state.proxies.connections 1000).any fun connection =>
            connection.transport == .tcp && connection.read == [[1, 2], [3]]) = true := by decide +kernel
  obtain ⟨config, runs, tested⟩ := newProcess_run passed
  simp only [Bool.and_eq_true, beq_iff_eq, Option.any_eq_true] at tested
  obtain ⟨count, connection, there, tcp, read⟩ := tested
  exact ⟨config, connection, count, read, (stream_faithful runs 1000).2 connection there tcp⟩

end TunnelitRelay
