import OpenApi.DataType
import OpenApi.DateTime.Basic
import OpenApi.Json.Basic

/-!
# Values

Decoded data: JSON, with date-times and with records of registered types. In a record a field that
is null and one that is absent are the same; in an untyped object they are not.
-/

namespace OpenApi

inductive Value where
  | null
  | bool (b : Bool)
  | number (n : Json.Number)
  | string (s : String)
  | dateTime (t : DateTime)
  | array (items : List Value)
  | object (fields : List (String × Value))
  /-- The fields go by their local names. -/
  | record (id : RecordId) (typeName : String) (fields : List (String × Value))
  deriving Repr, Inhabited

namespace Value

def isNull : Value → Bool
  | .null => true
  | _ => false

mutual

def ofJson : Json → Value
  | .null => .null
  | .bool b => .bool b
  | .number n => .number n
  | .string s => .string s
  | .array items => .array (ofItems items)
  | .object fields => .object (ofFields fields)

def ofItems : List Json → List Value
  | [] => []
  | v :: rest => ofJson v :: ofItems rest

def ofFields : List (String × Json) → List (String × Value)
  | [] => []
  | (key, v) :: rest => (key, ofJson v) :: ofFields rest

end

/-- A double that is not finite has no JSON form and becomes null. -/
def ofDouble? (d : Option OpenApi.Number.Double) : Value :=
  match d with
  | some d => .number (.double d)
  | none => .null

/-! ## Views -/

def toNumber? : Value → Option Json.Number
  | .number n => some n
  | _ => none

def toBool? : Value → Option Bool
  | .bool b => some b
  | _ => none

def toText? : Value → Option String
  | .string s => some s
  | _ => none

def toDateTime? : Value → Option DateTime
  | .dateTime t => some t
  | _ => none

def toItems? : Value → Option (List Value)
  | .array items => some items
  | _ => none

def toFields? : Value → Option (OrderedMap String Value)
  | .object fields => some fields
  | _ => none

/-! ## Equality -/

mutual

/-- Equality of data: date-times by their instants, objects and records without the order of their
fields, records by their type and by the fields that are not null. -/
def same : Value → Value → Bool
  | .null, .null => true
  | .bool a, .bool b => a == b
  | .number a, .number b => a.equals b
  | .string a, .string b => a == b
  | .dateTime a, .dateTime b => a.sameInstant b
  | .array a, .array b => sameItems a b
  | .object a, .object b => a.length == b.length && sameFields a b
  | .record i _ a, .record j _ b =>
    i == j && samePresent a b && b.all fun (key, v) => v.isNull || OrderedMap.contains a key
  | _, _ => false

def sameItems : List Value → List Value → Bool
  | [], [] => true
  | v :: a, w :: b => same v w && sameItems a b
  | _, _ => false

/-- Every field of the first object has an equal one in the second. -/
def sameFields : List (String × Value) → List (String × Value) → Bool
  | [], _ => true
  | (key, v) :: rest, b =>
    (match OrderedMap.get? b key with
      | some w => same v w
      | none => false) && sameFields rest b

/-- Every field of the first record has an equal one in the second, or is null and has none. -/
def samePresent : List (String × Value) → List (String × Value) → Bool
  | [], _ => true
  | (key, v) :: rest, b =>
    (match OrderedMap.get? b key with
      | some w => same v w
      | none => v.isNull) && samePresent rest b

end

end Value

/-- A value of a record type. -/
structure Record where
  id : RecordId
  typeName : String
  fields : OrderedMap String Value := []

namespace Record

def toValue (r : Record) : Value :=
  .record r.id r.typeName r.fields

def ofValue? : Value → Option Record
  | .record id typeName fields => some ⟨id, typeName, fields⟩
  | _ => none

/-- The value of a field that is there and not null. -/
def get? (r : Record) (name : String) : Option Value :=
  (OrderedMap.get? r.fields name).filter (!·.isNull)

def set (r : Record) (name : String) (v : Value) : Record :=
  { r with fields := OrderedMap.insert r.fields name v }

def erase (r : Record) (name : String) : Record :=
  { r with fields := OrderedMap.erase r.fields name }

end Record

end OpenApi
