import OpenApi.Json.Typed

/-!
# Schemas

The part of a JSON schema that types values. A schema stands inline or is a reference to another
place of the document; an object whose `$ref` is a text is a reference, whatever else it holds.
-/

namespace OpenApi

/-- The `type` keyword: one name or several. -/
inductive TypeNames where
  | one (name : String)
  | several (names : List String)
  deriving DecidableEq, Repr

/-- The field that tells the branches of a schema apart, and the branch of each of its values. -/
structure Discriminator where
  propertyName : String := ""
  mapping : OrderedMap String String := []
  deriving DecidableEq, Repr

/-- The keywords of an inline schema over schemas of type `σ`. -/
structure SchemaObject (σ : Type) where
  types : Option TypeNames := none
  format : Option String := none
  description : Option String := none
  default : Option Json := none
  nullable : Option Bool := none
  properties : List (String × σ) := []
  required : List String := []
  items : Option σ := none
  allOf : List σ := []
  oneOf : List σ := []
  anyOf : List σ := []
  discriminator : Option Discriminator := none

inductive Schema where
  | reference (path : String)
  | inline (object : SchemaObject Schema)

instance : Inhabited Schema := ⟨.reference ""⟩

namespace TypeNames

/-- The only name besides `null`. -/
def keyword? : TypeNames → Option String
  | .one name => some name
  | .several names =>
    match names.filter (· != "null") with
    | [name] => some name
    | _ => none

def hasNull : TypeNames → Bool
  | .one _ => false
  | .several names => names.contains "null"

def read? : Json → Option TypeNames
  | .string s => some (.one s)
  | .array items => (items.mapM fun v => (Json.Typed.text v).toOption).map .several
  | _ => none

end TypeNames

namespace SchemaObject

variable {σ : Type}

def keyword? (o : SchemaObject σ) : Option String :=
  o.types.bind TypeNames.keyword?

/-- Whether null is a value of the schema. -/
def isNullable (o : SchemaObject σ) : Bool :=
  o.nullable == some true || o.types.any TypeNames.hasNull

/-- The keywords in the order of their declaration. -/
def keywords : List String :=
  ["type", "format", "description", "default", "nullable", "properties", "required", "items",
    "allOf", "oneOf", "anyOf", "discriminator"]

end SchemaObject

namespace Schema

open Json.Typed

def inline? : Schema → Option (SchemaObject Schema)
  | .inline o => some o
  | .reference _ => none

def isReference : Schema → Bool
  | .reference _ => true
  | .inline _ => false

def readDiscriminator : Json → Except Json.Mismatch Discriminator :=
  record {
    name := "Discriminator"
    fields := ["propertyName", "mapping"]
    required := 0
    set := fun key v d =>
      match key with
      | "propertyName" => return { d with propertyName := ← text v }
      | _ => return { d with mapping := ← map text v }
  } {}

/-- The schemas below a keyword's value, each read only where the keyword asks for it. -/
structure Below where
  schema : Unit → Option Schema
  list : Unit → Option (List Schema)
  map : Unit → Option (List (String × Schema))

/-- What one keyword does to the schema read so far. Null stands for an absent value only where the
keyword has no default of its own. -/
def setKeyword? (key : String) (v : Json) (below : Below) (o : SchemaObject Schema) :
    Option (SchemaObject Schema) :=
  match key with
  | "type" => if v.isNull then some { o with types := none }
      else (TypeNames.read? v).map ({ o with types := some · })
  | "format" => (optional text v).toOption.map ({ o with format := · })
  | "description" => (optional text v).toOption.map ({ o with description := · })
  | "default" => some { o with default := if v.isNull then none else some v }
  | "nullable" => (optional flag v).toOption.map ({ o with nullable := · })
  | "properties" => (below.map ()).map ({ o with properties := · })
  | "required" => (Json.Typed.list text v).toOption.map ({ o with required := · })
  | "items" => if v.isNull then some { o with items := none }
      else (below.schema ()).map ({ o with items := some · })
  | "allOf" => (below.list ()).map ({ o with allOf := · })
  | "oneOf" => (below.list ()).map ({ o with oneOf := · })
  | "anyOf" => (below.list ()).map ({ o with anyOf := · })
  | "discriminator" =>
    (optional readDiscriminator v).toOption.map ({ o with discriminator := · })
  | _ => some o

mutual

def read? : Json → Option Schema
  | .object fields =>
    match OrderedMap.get? fields "$ref" with
    | some (.string path) => some (.reference path)
    | _ => (readKeywords? fields {}).map .inline
  | .array items => (readInOrder? SchemaObject.keywords items {}).map .inline
  | _ => none

/-- The keywords of an object. -/
def readKeywords? : List (String × Json) → SchemaObject Schema → Option (SchemaObject Schema)
  | [], o => some o
  | (key, v) :: rest, o =>
    let below : Below := ⟨fun _ => read? v, fun _ => readList? v, fun _ => readMap? v⟩
    (setKeyword? key v below o).bind (readKeywords? rest ·)

/-- The values of the keywords in their order. -/
def readInOrder? :
    List String → List Json → SchemaObject Schema → Option (SchemaObject Schema)
  | _, [], o => some o
  | [], _ :: _, _ => none
  | key :: keys, v :: rest, o =>
    let below : Below := ⟨fun _ => read? v, fun _ => readList? v, fun _ => readMap? v⟩
    (setKeyword? key v below o).bind (readInOrder? keys rest ·)

def readList? : Json → Option (List Schema)
  | .array items => readItems? items
  | _ => none

def readItems? : List Json → Option (List Schema)
  | [] => some []
  | v :: rest => do return (← read? v) :: (← readItems? rest)

def readMap? : Json → Option (List (String × Schema))
  | .object fields => readEntries? fields
  | _ => none

def readEntries? : List (String × Json) → Option (List (String × Schema))
  | [] => some []
  | (key, v) :: rest => do return (key, ← read? v) :: (← readEntries? rest)

end

/-- A schema or a reference to one. -/
def read : Json → Except Json.Mismatch Schema :=
  choice "SchemaOrRef" read?

end Schema

end OpenApi
