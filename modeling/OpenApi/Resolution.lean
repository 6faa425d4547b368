import OpenApi.Document.Basic
import OpenApi.Logged
import OpenApi.Naming
import OpenApi.SchemaError

/-!
# Types of schemas

A schema's type is read off its keywords. A reference has the type of its target, except that one to
a component whose name is in the table of records names that record. References are followed at most
as often as there are references in the document. Only a circle could exceed that, and it is found
before.
-/

namespace OpenApi

/-- The records that references may name, by type name. -/
abbrev RecordNames := OrderedMap String RecordId

namespace Resolution

/-- Where the schemas of components stand. -/
def componentSchemas : String := "#/components/schemas/"

/-- The component that a reference names. -/
def componentName? (path : String) : Option String :=
  (Text.dropStart? componentSchemas.toList path.toList).map fun token =>
    String.ofList (Json.unescapeToken token)

/-- The record that a reference names. -/
def recordOf? (names : RecordNames) (path : String) : Option RecordId :=
  (componentName? path).bind fun name => OrderedMap.get? names (typeName name)

abbrev Resolved := Logged SchemaError

def unsupported {α : Type} (location : String) (reason : Unsupported) : Resolved α :=
  throw (.unsupported location reason)

def ambiguous {α : Type} (location : String) (reason : Ambiguity) : Resolved α :=
  throw (.ambiguous location reason)

/-- The type of a keyword other than `array`. -/
def scalarType (keyword : String) (format : Option String) (location : String) :
    Resolved DataType :=
  if keyword = "string" ∧ format = some "date-time" then pure .dateTime
  else
    match Primitive.ofKeyword? keyword with
    | some kind => pure (.primitive kind)
    | none => unsupported location (.unknownType keyword)

/-- The member of each tag: the branch whose reference is the tag's target. -/
def taggedMembers (location : String) (branches : List (Option String × DataType)) :
    List (String × String) → Resolved (List (String × DataType))
  | [] => pure []
  | (tag, target) :: rest => do
    match branches.find? (·.1 == some target) with
    | none => ambiguous location (.notABranch tag target)
    | some (_, ty) => return (tag, ty) :: (← taggedMembers location branches rest)

def referencePath? : Schema → Option String
  | .reference path => some path
  | .inline _ => none

/-- The type of a schema with several branches. -/
def unionType (discriminator : Option Discriminator)
    (branches : Unit → Resolved (List (Option String × DataType))) (location : String) :
    Resolved DataType :=
  match discriminator with
  | none => ambiguous location .noDiscriminator
  | some d =>
    if d.propertyName.isEmpty || d.mapping.isEmpty then ambiguous location .emptyDiscriminator
    else do
      return .union d.propertyName (← taggedMembers location (← branches ()) d.mapping)

/-- The type of a schema without branches. -/
def plainType (types : Option TypeNames) (format : Option String)
    (element : Unit → Resolved DataType) (location : String) : Resolved DataType :=
  match types.bind TypeNames.keyword? with
  | none => unsupported location (if types.isSome then .severalTypes else .noType)
  | some keyword =>
    if keyword = "array" then return .array (← element ())
    else scalarType keyword format location

mutual

/-- The type of a schema at a location, `follow` giving the types of references. -/
def resolveSchema (follow : String → String → Resolved DataType) :
    Schema → String → Resolved DataType
  | .reference path, location => follow path location
  | .inline o, location => resolveObject follow o location

def resolveObject (follow : String → String → Resolved DataType) :
    SchemaObject Schema → String → Resolved DataType
  | ⟨types, format, _, _, _, _, _, items, allOf, oneOf, anyOf, discriminator⟩, location =>
    if !anyOf.isEmpty then unsupported location .anyOf
    else
      match allOf with
      | [only] => resolveSchema follow only (location ++ "/allOf/0")
      | _ :: _ :: _ => do
        Logged.notice (.branchesIgnored location allOf.length)
        return .any
      | [] =>
        match oneOf with
        | [only] => resolveSchema follow only (location ++ "/oneOf/0")
        | first :: second :: others =>
          unionType discriminator
            (fun _ => resolveBranches follow (first :: second :: others) location 0) location
        | [] => plainType types format (fun _ => resolveElement follow items location) location

/-- The element type of an array; any without `items`. -/
def resolveElement (follow : String → String → Resolved DataType) :
    Option Schema → String → Resolved DataType
  | none, _ => pure .any
  | some schema, location => resolveSchema follow schema (location ++ "/items")

/-- The types of the branches from the given index on, each with its reference if it is one. -/
def resolveBranches (follow : String → String → Resolved DataType) :
    List Schema → String → Nat → Resolved (List (Option String × DataType))
  | [], _, _ => pure []
  | schema :: rest, location, i => do
    let ty ← resolveSchema follow schema (location ++ "/oneOf/" ++ toString i)
    return (referencePath? schema, ty) :: (← resolveBranches follow rest location (i + 1))

end

/-- The schema that a reference leads to. A fault of the target is told at the reference's path. -/
def target (raw : Json) (path location : String) : Resolved Schema :=
  match (Text.dropStart? ['#'] path.toList).bind fun pointer => raw.pointer? (String.ofList pointer)
  with
  | none => unsupported location (.targetNotFound path)
  | some v =>
    Logged.ofExcept ((Schema.read v).mapError fun m => .unsupported path (.targetNotSchema m))

/-- The type of a reference that is reached through the references of `chain`, with at most `jumps`
more of them to follow. -/
def follow (raw : Json) (names : RecordNames) :
    Nat → List String → String → String → Resolved DataType
  | jumps, chain, path, location =>
    if !Text.startsWith path "#" then unsupported location (.foreignReference path)
    else
      match recordOf? names path with
      | some id => pure (.record id)
      | none =>
        if path ∈ chain then unsupported location (.circularReference path)
        else do
          let schema ← target raw path location
          match jumps with
          | 0 => unsupported location (.tooManyReferences path)
          | jumps + 1 => resolveSchema (follow raw names jumps (path :: chain)) schema path

mutual

/-- How many references stand in a value. -/
def countReferences : Json → Nat
  | .array items => countInItems items
  | .object fields => countInFields fields
  | _ => 0

def countInItems : List Json → Nat
  | [] => 0
  | v :: rest => countReferences v + countInItems rest

def countInFields : List (String × Json) → Nat
  | [] => 0
  | (key, v) :: rest =>
    (if key = "$ref" then 1 else 0) + countReferences v + countInFields rest

end

/-- The type of a schema of a document. The location stands in what is told of it. -/
def resolve (doc : Document) (names : RecordNames) (schema : Schema) (location : String) :
    Resolved DataType :=
  resolveSchema (follow doc.raw names (countReferences doc.raw + 1) []) schema location

end Resolution

end OpenApi
