import OpenApi.Value

/-!
# Record types

A record type lists its fields. Each has a wire name and a local name, and in one record type no
name of either kind stands twice.
-/

namespace OpenApi

/-- What a decoded record holds for a field that its payload lacks. -/
inductive FieldDefault where
  /-- A wire value, decoded against the field's type. -/
  | wire (v : Json)
  /-- A value as it is held in memory. -/
  | held (v : Value)

structure Field where
  localName : String
  wireName : String
  type : DataType
  default : Option FieldDefault := none
  description : Option String := none

structure RecordType where
  name : String
  description : Option String := none
  fields : List Field := []
  /-- The local names of the required fields. -/
  required : List String := []
  /-- The local names of the fields that may be null. -/
  nullable : List String := []

namespace RecordType

/-- The name of the field that stands already, if the new field's names are not free. -/
def clash? (r : RecordType) (f : Field) : Option String :=
  (r.fields.find? fun g => g.localName == f.localName || g.wireName == f.wireName).map fun g =>
    if g.wireName = f.wireName then f.wireName else f.localName

/-- Puts a field at the end. The error is the name that is taken. -/
def addField (r : RecordType) (f : Field) (required nullable : Bool) : Except String RecordType :=
  match r.clash? f with
  | some name => .error name
  | none => .ok { r with
      fields := r.fields ++ [f]
      required := if required then r.required ++ [f.localName] else r.required
      nullable := if nullable then r.nullable ++ [f.localName] else r.nullable }

/-- No local name and no wire name stands twice. -/
def NamesOnce (r : RecordType) : Prop :=
  (r.fields.map (·.localName)).Nodup ∧ (r.fields.map (·.wireName)).Nodup

/-- Gives the field at a place a new type. -/
def setFieldType (r : RecordType) (place : Nat) (ty : DataType) : RecordType :=
  { r with fields := r.fields.modify place ({ · with type := ty }) }

def byLocalName? (r : RecordType) (name : String) : Option Field :=
  r.fields.find? (·.localName == name)

def byWireName? (r : RecordType) (name : String) : Option Field :=
  r.fields.find? (·.wireName == name)

def isRequired (r : RecordType) (name : String) : Bool :=
  r.required.contains name

def isNullable (r : RecordType) (name : String) : Bool :=
  r.nullable.contains name

/-- A field that is left out when it has no value. -/
def isOptional (r : RecordType) (name : String) : Bool :=
  !r.isRequired name && !r.isNullable name

end RecordType

end OpenApi
