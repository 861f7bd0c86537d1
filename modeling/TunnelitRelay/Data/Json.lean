namespace TunnelitRelay.Data

/-! # JSON values, and records in them

Records and tagged enumerations are read as the derived deserializers of `serde`
read them: a record is an object, whose other fields are passed over, or an array
with the fields in their order; no field is given twice.
-/

inductive Json where
  | null
  | bool (value : Bool)
  | natural (value : Nat)
  /-- Any other number, as it is written. -/
  | number (text : String)
  | string (value : String)
  | array (items : List Json)
  | object (fields : List (String × Json))

/-- A type together with its form in JSON. -/
structure Codec (α : Type) where
  encode : α → Json
  decode : Json → Option α
  decode_encode : ∀ value, decode (encode value) = some value

attribute [simp] Codec.decode_encode

namespace Codec

variable {α : Type}

def string : Codec String where
  encode := .string
  decode
    | .string value => some value
    | _ => none
  decode_encode _ := rfl

def bool : Codec Bool where
  encode := .bool
  decode
    | .bool value => some value
    | _ => none
  decode_encode _ := rfl

def uint16 : Codec UInt16 where
  encode value := .natural value.toNat
  decode
    | .natural value => if value < 65536 then some (.ofNat value) else none
    | _ => none
  decode_encode value := by
    have small : value.toNat < 65536 := value.toNat_lt
    simp only [if_pos small, UInt16.ofNat_toNat]

/-- A type whose values are spelled out in strings. -/
def spelled (print : α → String) (read : String → Option α) (read_print : ∀ value, read (print value) = some value) :
    Codec α where
  encode value := .string (print value)
  decode
    | .string text => read text
    | _ => none
  decode_encode := read_print

/-- A value or `null`. -/
def optional (codec : Codec α) (solid : ∀ value, codec.encode value ≠ .null) : Codec (Option α) where
  encode
    | some value => codec.encode value
    | none => .null
  decode
    | .null => some none
    | json => (codec.decode json).map some
  decode_encode value := by
    cases value with
    | none => rfl
    | some value =>
        dsimp only
        split
        · rename_i empty
          exact absurd empty (solid value)
        · simp

def list (codec : Codec α) : Codec (List α) where
  encode items := .array (items.map codec.encode)
  decode
    | .array items => items.mapM codec.decode
    | _ => none
  decode_encode items := by
    dsimp only
    induction items with
    | nil => rfl
    | cons first rest ih => simp only [List.map_cons, List.mapM_cons, decode_encode, ih]; rfl

end Codec

/-! ## Records -/

/-- What is left to read of a record: values with their names, or values in order. -/
inductive Record where
  | named (fields : List (String × Json))
  | listed (items : List Json)

/-- The values given under a name. -/
def values (key : String) (fields : List (String × Json)) : List Json :=
  fields.filterMap fun entry => if entry.1 = key then some entry.2 else none

namespace Record

variable {α : Type}

def field (codec : Codec α) (key : String) : Record → Option (α × Record)
  | .named fields =>
      match values key fields with
      | [value] => (codec.decode value).map (·, .named fields)
      | _ => none
  | .listed (value :: rest) => (codec.decode value).map (·, .listed rest)
  | .listed [] => none

/-- A field that may be missing from an object. -/
def optionalField (codec : Codec (Option α)) (key : String) : Record → Option (Option α × Record)
  | .named fields =>
      match values key fields with
      | [] => some (none, .named fields)
      | _ => (Record.named fields).field codec key
  | record => record.field codec key

/-- A field that may also be missing from the end of an array. -/
def defaultField (codec : Codec (Option α)) (key : String) : Record → Option (Option α × Record)
  | .listed [] => some (none, .listed [])
  | record => record.optionalField codec key

/-- Nothing may be left over in an array. -/
def finish : Record → Option Unit
  | .listed (_ :: _) => none
  | _ => some ()

end Record

def Json.record : Json → Option Record
  | .object fields => some (.named fields)
  | .array items => some (.listed items)
  | _ => none

/-- The variant that the tag of an enumeration names, and the rest of the record. -/
def Json.tagged (tag : String) : Json → Option (String × Record)
  | .object fields =>
      match values tag fields with
      | [.string variant] => some (variant, .named (fields.filter (·.1 != tag)))
      | _ => none
  | .array (.string variant :: rest) => some (variant, .listed rest)
  | _ => none

/-- A variant with its tag first. -/
def Json.variant (tag name : String) (fields : List (String × Json)) : Json :=
  .object ((tag, .string name) :: fields)

theorem Json.tagged_variant {tag name : String} {fields : List (String × Json)}
    (distinct : ∀ entry ∈ fields, entry.1 ≠ tag) :
    (Json.variant tag name fields).tagged tag = some (name, .named fields) := by
  have none : values tag fields = [] :=
    List.filterMap_eq_nil_iff.mpr fun entry member => if_neg (distinct entry member)
  have kept : fields.filter (·.1 != tag) = fields :=
    List.filter_eq_self.mpr fun entry member => bne_iff_ne.mpr (distinct entry member)
  have given : values tag ((tag, Json.string name) :: fields) = [.string name] := by
    simp only [values, List.filterMap_cons, if_true]
    exact congrArg _ none
  simp only [variant, tagged, given, List.filter_cons, bne_self_eq_false, Bool.false_eq_true, if_false, kept]

end TunnelitRelay.Data
