import Mathlib.Algebra.GroupWithZero.Nat

namespace TunnelitRelay

abbrev Uuid := BitVec 128

instance : LawfulBEq Uuid := inferInstance

/-- Code the relay calls and does not contain: the `uuid` and `base64` crates
and the standard hasher.  Of their behaviour only that parsing undoes printing
and decoding undoes encoding is relied upon. -/
class Externals where
  /-- `Uuid::to_string`. -/
  uuidToString : Uuid → String
  /-- `Uuid::parse_str`. -/
  parseUuid : String → Option Uuid
  parseUuid_toString : ∀ id, parseUuid (uuidToString id) = some id
  /-- `general_purpose::STANDARD.decode`. -/
  decodeBase64 : String → Option (List UInt8)
  /-- `general_purpose::STANDARD.encode`. -/
  encodeBase64 : List UInt8 → String
  decodeBase64_encode : ∀ bytes, decodeBase64 (encodeBase64 bytes) = some bytes
  /-- `DefaultHasher::finish` after hashing a string. -/
  defaultHash : String → UInt64

export Externals (uuidToString parseUuid decodeBase64 encodeBase64 decodeBase64_encode defaultHash)

@[simp] theorem parseUuid_uuidToString [Externals] (id : Uuid) :
    parseUuid (uuidToString id) = some id :=
  Externals.parseUuid_toString id

theorem uuidToString_injective [Externals] {left right : Uuid}
    (same : uuidToString left = uuidToString right) : left = right := by
  have parsed := congrArg parseUuid same
  simpa using parsed

@[simp] theorem uuidToString_inj [Externals] {left right : Uuid} :
    uuidToString left = uuidToString right ↔ left = right :=
  ⟨uuidToString_injective, congrArg uuidToString⟩

end TunnelitRelay
