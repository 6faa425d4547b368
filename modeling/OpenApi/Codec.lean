import OpenApi.DateTime.Printer
import OpenApi.DateTime.Reader
import OpenApi.Json.Printer
import OpenApi.Registry

/-!
# Encoding and decoding

Wire JSON becomes a value under a data type, and a value becomes wire JSON. What a type does not
constrain passes through unchanged, and null stands for null under every type.
-/

namespace OpenApi

/-- Which names the fields of records have on the wire. -/
inductive NameMode where
  | wire | local
  deriving DecidableEq, Repr

inductive CodecError where
  | discriminatorMissing (field : String)
  | unknownTag (tag : String)
  | invalidDateTime (text : String) (fault : DateTime.Fault)
  | notAMember (record : String)
  | expectedObject (record : String)
  /-- The record id belongs to another registry. -/
  | foreignRecord (id : RecordId)
  /-- The default of a field lacks, at some depth, a field whose default is the same again. -/
  | endlessDefault
  deriving DecidableEq

def CodecError.message : CodecError → String
  | .discriminatorMissing field => s!"discriminator field `{field}` not found on union payload"
  | .unknownTag tag => s!"discriminator value `{tag}` is not part of the union"
  | .invalidDateTime text fault => s!"invalid date-time `{text}`: {fault.message}"
  | .notAMember record => s!"record `{record}` is not a member of the union"
  | .expectedObject record => s!"expected a JSON object for `{record}`"
  | .foreignRecord id => s!"record {id.index} is not in the registry"
  | .endlessDefault => "a default needs itself"

/-- The member that a tag names. -/
def DataType.memberOf (mapping : OrderedMap String DataType) (tag : String) :
    Except CodecError DataType :=
  match OrderedMap.get? mapping tag with
  | some ty => .ok ty
  | none => .error (.unknownTag tag)

def readDateTime (text : String) : Except CodecError DateTime :=
  (DateTime.ofText text).mapError (.invalidDateTime text ·)

structure Codec where
  registry : Registry
  mode : NameMode := .wire

namespace Codec

def record (c : Codec) (id : RecordId) : Except CodecError RecordType :=
  match c.registry.record? id with
  | some r => .ok r
  | none => .error (.foreignRecord id)

/-- The key of a record's field on the wire. -/
def fieldKey (c : Codec) (f : Field) : String :=
  match c.mode with
  | .wire => f.wireName
  | .local => f.localName

/-- The key of a union's tag on the wire. -/
def tagKey (c : Codec) (field : String) : String :=
  match c.mode with
  | .wire => field
  | .local => localName field

/-! ## Decoding -/

abbrev Decoded := Logged CodecError

/-- The tag of a payload; other values than texts are taken by their JSON text. -/
def tagText : Json → String
  | .string s => s
  | v => v.render

def payloadTag (c : Codec) (field : String) (wire : Json) : Except CodecError String :=
  match (wire.field? (c.tagKey field)).filter (!·.isNull) with
  | some tag => .ok (tagText tag)
  | none => .error (.discriminatorMissing (c.tagKey field))

mutual

/-- The member type that a payload's tags select, through unions within unions. Any other type is
its own. -/
def select (c : Codec) (wire : Json) : DataType → Except CodecError DataType
  | .union field mapping => do
    let tag ← c.payloadTag field wire
    selectMember c wire tag mapping
  | ty => .ok ty

/-- As `select` for the member of a tag. -/
def selectMember (c : Codec) (wire : Json) (tag : String) :
    List (String × DataType) → Except CodecError DataType
  | [] => .error (.unknownTag tag)
  | (t, ty) :: rest => if t = tag then select c wire ty else selectMember c wire tag rest

end

/-- The parts of a payload, each decoded once its type is known. -/
structure Parts where
  items? : Option (DataType → Decoded (List Value)) := none
  fields? : Option (OrderedMap String (DataType → Decoded Value)) := none

/-- Decodes the fields of a record in their order; `fallback` decodes a default. -/
def decodeFields (c : Codec) (fallback : Json → DataType → Decoded Value)
    (parts : OrderedMap String (DataType → Decoded Value)) :
    List Field → Record → Decoded Record
  | [], r => pure r
  | f :: rest, r => do
    match OrderedMap.get? parts (c.fieldKey f), f.default with
    | some part, _ => decodeFields c fallback parts rest (r.set f.localName (← part f.type))
    | none, some (.wire v) =>
      decodeFields c fallback parts rest (r.set f.localName (← fallback v f.type))
    | none, some (.held v) => decodeFields c fallback parts rest (r.set f.localName v)
    | none, none => decodeFields c fallback parts rest r

def decodeRecordParts (c : Codec) (fallback : Json → DataType → Decoded Value)
    (parts : OrderedMap String (DataType → Decoded Value)) (id : RecordId) : Decoded Record := do
  let record ← Logged.ofExcept (c.record id)
  decodeFields c fallback parts record.fields ⟨id, record.name, []⟩

/-- Decodes a payload that is not null. -/
def decodeParts (c : Codec) (fallback : Json → DataType → Decoded Value) (wire : Json)
    (parts : Parts) (ty : DataType) : Decoded Value := do
  match ← Logged.ofExcept (c.select wire ty) with
  | .dateTime =>
    match wire with
    | .string s => return .dateTime (← Logged.ofExcept (readDateTime s))
    | _ => return .ofJson wire
  | .array element =>
    match parts.items? with
    | some items => return .array (← items element)
    | none =>
      Logged.notice (.notAnArray (.array element))
      return .ofJson wire
  | .record id =>
    match parts.fields? with
    | some fields => return (← decodeRecordParts c fallback fields id).toValue
    | none => throw (.expectedObject (← Logged.ofExcept (c.record id)).name)
  | _ => return .ofJson wire

mutual

/-- Decodes a payload; `fallback` decodes a default. -/
def decodeWith (c : Codec) (fallback : Json → DataType → Decoded Value) :
    Json → DataType → Decoded Value
  | .null, _ => pure .null
  | .array items, ty =>
    decodeParts c fallback (.array items) { items? := some (decodeItems c fallback items) } ty
  | .object fields, ty =>
    decodeParts c fallback (.object fields) { fields? := some (fieldParts c fallback fields) } ty
  | wire, ty => decodeParts c fallback wire {} ty

def decodeItems (c : Codec) (fallback : Json → DataType → Decoded Value) :
    List Json → DataType → Decoded (List Value)
  | [], _ => pure []
  | v :: rest, element => do
    return (← decodeWith c fallback v element) :: (← decodeItems c fallback rest element)

def fieldParts (c : Codec) (fallback : Json → DataType → Decoded Value) :
    List (String × Json) → List (String × (DataType → Decoded Value))
  | [] => []
  | (key, v) :: rest => (key, decodeWith c fallback v) :: fieldParts c fallback rest

end

/-- Decodes a payload in which defaults nest at most so deep. -/
def decodeWithin (c : Codec) : Nat → Json → DataType → Decoded Value
  | 0 => decodeWith c fun _ _ => throw .endlessDefault
  | depth + 1 => decodeWith c (decodeWithin c depth)

/-- How many fields have a default on the wire. No default that ends nests others any deeper. -/
def defaultDepth (r : Registry) : Nat :=
  (r.records.flatMap (·.fields)).countP fun f =>
    match f.default with
    | some (.wire _) => true
    | _ => false

def decode (c : Codec) (wire : Json) (ty : DataType) : Decoded Value :=
  decodeWithin c (defaultDepth c.registry) wire ty

/-- Decodes the fields of an object as a record. -/
def decodeRecord (c : Codec) (fields : OrderedMap String Json) (id : RecordId) : Decoded Record :=
  let fallback := decodeWithin c (defaultDepth c.registry)
  decodeRecordParts c fallback (fieldParts c fallback fields) id

/-! ## Encoding -/

abbrev Encoded := Except CodecError

/-- A record's values, each encoded once its type is known. Nulls are left out. -/
abbrev FieldParts := OrderedMap String (DataType → Encoded Json)

/-- The fields of a record in their order. A field without a value is left out if it is optional
and null if it is not. -/
def encodeFields (c : Codec) (record : RecordType) (parts : FieldParts) :
    List Field → OrderedMap String Json → Encoded (OrderedMap String Json)
  | [], out => .ok out
  | f :: rest, out => do
    match OrderedMap.get? parts f.localName with
    | some part => encodeFields c record parts rest (out.insert (c.fieldKey f) (← part f.type))
    | none =>
      if record.isOptional f.localName then encodeFields c record parts rest out
      else encodeFields c record parts rest (out.insert (c.fieldKey f) .null)

def encodeRecordParts (c : Codec) (id : RecordId) (parts : FieldParts) :
    Encoded (OrderedMap String Json) := do
  let record ← c.record id
  encodeFields c record parts record.fields []

/-- The fields of a record as a member of a union: a tag that is not there is filled in. -/
def encodeMember (c : Codec) (field : String) (mapping : OrderedMap String DataType)
    (id : RecordId) (name : String) (parts : FieldParts) : Encoded (OrderedMap String Json) :=
  match DataType.tagOf? mapping id with
  | none => .error (.notAMember name)
  | some tag => do
    let out ← encodeRecordParts c id parts
    let key := c.tagKey field
    if ((OrderedMap.get? out key).filter (!·.isNull)).isSome then return out
    else return out.insert key (.string tag)

mutual

def encode (c : Codec) : Value → DataType → Encoded Json
  | .null, _ => .ok .null
  | .bool b, _ => .ok (.bool b)
  | .number n, _ => .ok (.number n)
  | .string s, _ => .ok (.string s)
  | .dateTime t, _ => .ok (.string t.render)
  | .array items, ty => do
    let element := match ty with
      | .array element => element
      | _ => .any
    return .array (← encodeItems c items element)
  | .object fields, _ => return .object (← encodeEntries c fields)
  | .record id name fields, .union field mapping =>
    return .object (← encodeMember c field mapping id name (encodeParts c fields))
  | .record id _ fields, _ => return .object (← encodeRecordParts c id (encodeParts c fields))

def encodeItems (c : Codec) : List Value → DataType → Encoded (List Json)
  | [], _ => .ok []
  | v :: rest, element => do return (← encode c v element) :: (← encodeItems c rest element)

/-- The fields of an untyped object. -/
def encodeEntries (c : Codec) : List (String × Value) → Encoded (List (String × Json))
  | [] => .ok []
  | (key, v) :: rest => do return (key, ← encode c v .any) :: (← encodeEntries c rest)

def encodeParts (c : Codec) : List (String × Value) → List (String × (DataType → Encoded Json))
  | [] => []
  | (key, v) :: rest =>
    if v.isNull then encodeParts c rest else (key, encode c v) :: encodeParts c rest

end

/-- The fields of a record under its own type. -/
def encodeRecord (c : Codec) (r : Record) : Encoded (OrderedMap String Json) :=
  encodeRecordParts c r.id (encodeParts c r.fields)

end Codec

end OpenApi
