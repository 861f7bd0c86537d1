import TunnelitRelay.Data.Json
import TunnelitRelay.Protocol

namespace TunnelitRelay

open Data

/-! # The wire format (`protocol.rs`)

What the derived serializers and deserializers make of the messages: objects
with the variant under `type`.
-/

variable [Externals]

def uuidCodec : Codec Uuid :=
  .spelled uuidToString parseUuid parseUuid_uuidToString

def optionalString : Codec (Option String) :=
  .optional .string fun _ same => by contradiction

namespace TunnelConfig

def toJson (tunnel : TunnelConfig) : Json :=
  .object [("id", uuidCodec.encode tunnel.id), ("agent_id", uuidCodec.encode tunnel.agentId),
    ("name", Codec.string.encode tunnel.name), ("local_port", Codec.uint16.encode tunnel.localPort),
    ("protocol", Codec.string.encode tunnel.protocol), ("public_port", Codec.uint16.encode tunnel.publicPort),
    ("subdomain", optionalString.encode tunnel.subdomain), ("enabled", Codec.bool.encode tunnel.enabled)]

def fromJson (json : Json) : Option TunnelConfig := do
  let record ← json.record
  let (id, record) ← record.field uuidCodec "id"
  let (agentId, record) ← record.field uuidCodec "agent_id"
  let (name, record) ← record.field .string "name"
  let (localPort, record) ← record.field .uint16 "local_port"
  let (protocol, record) ← record.field .string "protocol"
  let (publicPort, record) ← record.field .uint16 "public_port"
  let (subdomain, record) ← record.optionalField optionalString "subdomain"
  let (enabled, record) ← record.field .bool "enabled"
  record.finish
  return { id, agentId, name, localPort, protocol, publicPort, subdomain, enabled }

theorem fromJson_toJson (tunnel : TunnelConfig) : fromJson tunnel.toJson = some tunnel := by
  simp only [fromJson, toJson, Json.record, Record.field, Record.optionalField, values, Record.finish, String.reduceEq,
    if_true, if_false, List.filterMap_cons_some, List.filterMap_cons_none, List.filterMap_nil, Option.some.injEq,
    Codec.decode_encode, Option.map_some, Option.bind_eq_bind, Option.bind_some, Option.pure_def]

def codec : Codec TunnelConfig := ⟨toJson, fromJson, fromJson_toJson⟩

end TunnelConfig

namespace AgentMessage

def toJson : AgentMessage → Json
  | .auth token hostname => .variant "type" "Auth"
      [("token", Codec.string.encode token), ("hostname", Codec.string.encode hostname)]
  | .requestClaim hostname => .variant "type" "RequestClaim" [("hostname", Codec.string.encode hostname)]
  | .data connId payload => .variant "type" "Data"
      [("conn_id", uuidCodec.encode connId), ("payload", Codec.string.encode payload)]
  | .closeConnection connId => .variant "type" "CloseConnection" [("conn_id", uuidCodec.encode connId)]
  | .ping => .variant "type" "Ping" []

def fromJson (json : Json) : Option AgentMessage := do
  let (variant, record) ← json.tagged "type"
  match variant with
  | "Auth" =>
      let (token, record) ← record.field .string "token"
      let (hostname, record) ← record.field .string "hostname"
      record.finish
      return .auth token hostname
  | "RequestClaim" =>
      let (hostname, record) ← record.field .string "hostname"
      record.finish
      return .requestClaim hostname
  | "Data" =>
      let (connId, record) ← record.field uuidCodec "conn_id"
      let (payload, record) ← record.field .string "payload"
      record.finish
      return .data connId payload
  | "CloseConnection" =>
      let (connId, record) ← record.field uuidCodec "conn_id"
      record.finish
      return .closeConnection connId
  | "Ping" =>
      record.finish
      return .ping
  | _ => none

end AgentMessage

namespace RelayMessage

def toJson : RelayMessage → Json
  | .authSuccess agentId name token => .variant "type" "AuthSuccess"
      [("agent_id", uuidCodec.encode agentId), ("name", Codec.string.encode name),
        ("token", Codec.string.encode token)]
  | .claimReady code claimUrl token => .variant "type" "ClaimReady"
      [("code", Codec.string.encode code), ("claim_url", Codec.string.encode claimUrl),
        ("token", optionalString.encode token)]
  | .syncTunnels tunnels => .variant "type" "SyncTunnels" [("tunnels", (Codec.list TunnelConfig.codec).encode tunnels)]
  | .startTunnel tunnel => .variant "type" "StartTunnel" [("tunnel", TunnelConfig.codec.encode tunnel)]
  | .stopTunnel tunnelId => .variant "type" "StopTunnel" [("tunnel_id", uuidCodec.encode tunnelId)]
  | .newConnection tunnelId connId => .variant "type" "NewConnection"
      [("tunnel_id", uuidCodec.encode tunnelId), ("conn_id", uuidCodec.encode connId)]
  | .data connId payload => .variant "type" "Data"
      [("conn_id", uuidCodec.encode connId), ("payload", Codec.string.encode payload)]
  | .closeConnection connId => .variant "type" "CloseConnection" [("conn_id", uuidCodec.encode connId)]
  | .pong => .variant "type" "Pong" []
  | .error message => .variant "type" "Error" [("message", Codec.string.encode message)]

def fromJson (json : Json) : Option RelayMessage := do
  let (variant, record) ← json.tagged "type"
  match variant with
  | "AuthSuccess" =>
      let (agentId, record) ← record.field uuidCodec "agent_id"
      let (name, record) ← record.field .string "name"
      let (token, record) ← record.field .string "token"
      record.finish
      return .authSuccess agentId name token
  | "ClaimReady" =>
      let (code, record) ← record.field .string "code"
      let (claimUrl, record) ← record.field .string "claim_url"
      let (token, record) ← record.defaultField optionalString "token"
      record.finish
      return .claimReady code claimUrl token
  | "SyncTunnels" =>
      let (tunnels, record) ← record.field (.list TunnelConfig.codec) "tunnels"
      record.finish
      return .syncTunnels tunnels
  | "StartTunnel" =>
      let (tunnel, record) ← record.field TunnelConfig.codec "tunnel"
      record.finish
      return .startTunnel tunnel
  | "StopTunnel" =>
      let (tunnelId, record) ← record.field uuidCodec "tunnel_id"
      record.finish
      return .stopTunnel tunnelId
  | "NewConnection" =>
      let (tunnelId, record) ← record.field uuidCodec "tunnel_id"
      let (connId, record) ← record.field uuidCodec "conn_id"
      record.finish
      return .newConnection tunnelId connId
  | "Data" =>
      let (connId, record) ← record.field uuidCodec "conn_id"
      let (payload, record) ← record.field .string "payload"
      record.finish
      return .data connId payload
  | "CloseConnection" =>
      let (connId, record) ← record.field uuidCodec "conn_id"
      record.finish
      return .closeConnection connId
  | "Pong" =>
      record.finish
      return .pong
  | "Error" =>
      let (message, record) ← record.field .string "message"
      record.finish
      return .error message
  | _ => none

theorem fromJson_toJson (message : RelayMessage) : fromJson message.toJson = some message := by
  cases message <;>
    simp only [fromJson, toJson, Json.tagged_variant, Record.field, Record.optionalField, Record.defaultField, values,
      Record.finish, List.mem_cons, List.not_mem_nil, or_false, forall_eq_or_imp, forall_eq, false_implies, implies_true,
      ne_eq, not_false_eq_true, and_self, String.reduceEq, if_true, if_false, List.filterMap_cons_some,
      List.filterMap_cons_none, List.filterMap_nil, Option.some.injEq, Codec.decode_encode, Option.map_some,
      Option.bind_eq_bind, Option.bind_some, Option.pure_def]

end RelayMessage

/-- What either side writes the other reads as the same message. -/
theorem wire_round_trip : (∀ message : AgentMessage, AgentMessage.fromJson message.toJson = some message) ∧
    ∀ message : RelayMessage, RelayMessage.fromJson message.toJson = some message := by
  refine ⟨fun message => ?_, RelayMessage.fromJson_toJson⟩
  cases message <;>
    simp only [AgentMessage.fromJson, AgentMessage.toJson, Json.tagged_variant, Record.field, values, Record.finish,
      List.mem_cons, List.not_mem_nil, or_false, forall_eq_or_imp, forall_eq, false_implies, implies_true, ne_eq,
      not_false_eq_true, and_self, String.reduceEq, if_true, if_false, List.filterMap_cons_some,
      List.filterMap_cons_none, List.filterMap_nil, Option.some.injEq, Codec.decode_encode, Option.map_some,
      Option.bind_eq_bind, Option.bind_some, Option.pure_def]

end TunnelitRelay
