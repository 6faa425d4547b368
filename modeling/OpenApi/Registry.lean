import OpenApi.RecordType
import OpenApi.Resolution

/-!
# The registry

One record type for each component schema of type `object`. It is built in two passes, so that a
reference may lead forward: the first enters every record, with field types as far as the records
before it allow, and the second finds the field types again with all the names known.
-/

namespace OpenApi

structure Registry where
  records : List RecordType := []
  names : RecordNames := []
  /-- The component names behind the records. -/
  sources : List String := []

namespace Registry

open Resolution

def empty : Registry := {}

def record? (r : Registry) (id : RecordId) : Option RecordType :=
  r.records[id.index]?

def idOf? (r : Registry) (name : String) : Option RecordId :=
  OrderedMap.get? r.names name

def lookup? (r : Registry) (name : String) : Option RecordType :=
  (r.idOf? name).bind r.record?

/-- The record types with their places. -/
def entries (r : Registry) : List (RecordId × RecordType) :=
  r.records.zipIdx.map fun (record, i) => (⟨i⟩, record)

/-- Enters a record type that comes from a component of the given name. -/
def enter (r : Registry) (source : String) (record : RecordType) :
    Except SchemaError (RecordId × Registry) :=
  match r.idOf? record.name with
  | some id =>
    .error (.nameCollision ((r.sources[id.index]?).getD record.name) source record.name)
  | none =>
    let id : RecordId := ⟨r.records.length⟩
    .ok (id, ⟨r.records ++ [record], OrderedMap.insert r.names record.name id,
      r.sources ++ [source]⟩)

/-- Enters a record type under its own name. -/
def insert (r : Registry) (record : RecordType) : Except SchemaError (RecordId × Registry) :=
  r.enter record.name record

def modify (r : Registry) (id : RecordId) (f : RecordType → RecordType) : Registry :=
  { r with records := r.records.modify id.index f }

/-- The component names must have different type names, given those seen so far. -/
def checkNames (seen : OrderedMap String String) : List String → Except SchemaError Unit
  | [] => .ok ()
  | name :: rest =>
    match OrderedMap.get? seen (typeName name) with
    | some first => .error (.nameCollision first name (typeName name))
    | none => checkNames (OrderedMap.insert seen (typeName name) name) rest

/-- The field for a property of the given type. -/
def fieldOf (property : String) (schema : Schema) (ty : DataType) : Field where
  localName := localName property
  wireName := property
  type := ty
  default := (schema.inline?.bind (·.default)).map .wire
  description := schema.inline?.bind (·.description)

/-- A field whose type the second pass finds again. -/
structure Pending where
  record : RecordId
  place : Nat
  schema : Schema
  location : String

/-- The first pass over the properties of a record, from a place on. -/
def enterFields (doc : Document) (id : RecordId) (required : List String) (location : String) :
    List (String × Schema) → Nat → Registry → Resolved (Registry × List Pending)
  | [], _, r => pure (r, [])
  | (property, schema) :: rest, place, r => do
    let fieldLocation := location ++ "/properties/" ++ property
    let ty ← resolve doc r.names schema fieldLocation
    let record := (r.record? id).getD ⟨"", none, [], [], []⟩
    match record.addField (fieldOf property schema ty) (required.contains property)
        (schema.inline?.any (·.isNullable)) with
    | .error field => throw (.duplicateField record.name field)
    | .ok record =>
      let (r, pending) ←
        enterFields doc id required location rest (place + 1) (r.modify id fun _ => record)
      return (r, ⟨id, place, schema, fieldLocation⟩ :: pending)

/-- The first pass over the component schemas. -/
def enterSchemas (doc : Document) :
    List (String × Schema) → Registry → Resolved (Registry × List Pending)
  | [], r => pure (r, [])
  | (name, schema) :: rest, r =>
    match schema.inline? with
    | none => enterSchemas doc rest r
    | some object =>
      if object.keyword? = some "object" then do
        let record : RecordType := { name := typeName name, description := object.description }
        let (id, r) ← Logged.ofExcept (r.enter name record)
        let location := componentSchemas ++ name
        let (r, pending) ← enterFields doc id object.required location object.properties 0 r
        let (r, others) ← enterSchemas doc rest r
        return (r, pending ++ others)
      else enterSchemas doc rest r

/-- The second pass, with the number of types it has replaced. -/
def settleFields (doc : Document) (names : RecordNames) :
    List Pending → Registry → Nat → Resolved (Registry × Nat)
  | [], r, replaced => pure (r, replaced)
  | field :: rest, r, replaced => do
    let ty ← resolve doc names field.schema field.location
    let old := ((r.record? field.record).bind (·.fields[field.place]?)).map (·.type)
    if old.any (!·.same ty) then
      Logged.notice (.fieldTypeReplaced field.location (old.getD .any) ty)
      settleFields doc names rest
        (r.modify field.record (·.setFieldType field.place ty)) (replaced + 1)
    else settleFields doc names rest r replaced

/-- The registry of a document. -/
def build (doc : Document) : Resolved Registry :=
  match doc.description.components with
  | none => pure empty
  | some components => do
    Logged.ofExcept (checkNames [] (OrderedMap.keys components.schemas))
    let (r, pending) ← enterSchemas doc components.schemas empty
    Logged.notice (.recordsRegistered r.records.length)
    let (r, replaced) ← settleFields doc r.names pending r 0
    Logged.notice (.fieldTypesReplaced replaced)
    return r

end Registry

end OpenApi
