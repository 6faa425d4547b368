import OpenApi.OrderedMap

/-!
# Data types

What a schema says about its values. An object schema of the document is a record type, which a data
type names by its place in the registry.
-/

namespace OpenApi

/-- The place of a record type in its registry. -/
structure RecordId where
  index : Nat
  deriving DecidableEq, Repr

/-- The types that values pass through unchanged. -/
inductive Primitive where
  | number | integer | boolean | string | object
  deriving DecidableEq, Repr

namespace Primitive

def keyword : Primitive → String
  | .number => "number"
  | .integer => "integer"
  | .boolean => "boolean"
  | .string => "string"
  | .object => "object"

def ofKeyword? (s : String) : Option Primitive :=
  [number, integer, boolean, string, object].find? (·.keyword == s)

end Primitive

inductive DataType where
  | primitive (kind : Primitive)
  /-- A text on the wire, an instant in memory. -/
  | dateTime
  | array (element : DataType)
  | record (id : RecordId)
  /-- The value of `field` is a tag, and each tag has its member. -/
  | union (field : String) (mapping : List (String × DataType))
  | any
  deriving Repr, Inhabited

namespace DataType

mutual

/-- Equality, where the order of a union's tags does not matter. -/
def same : DataType → DataType → Bool
  | .primitive a, .primitive b => a == b
  | .dateTime, .dateTime => true
  | .array a, .array b => same a b
  | .record a, .record b => a == b
  | .union f a, .union g b => f == g && a.length == b.length && sameMembers a b
  | .any, .any => true
  | _, _ => false

/-- Every tag of the first mapping has the same member in the second. -/
def sameMembers : List (String × DataType) → List (String × DataType) → Bool
  | [], _ => true
  | (tag, ty) :: rest, b =>
    (match OrderedMap.get? b tag with
      | some ty' => same ty ty'
      | none => false) && sameMembers rest b

end

mutual

/-- Whether `any` stands in the type at any depth. -/
def containsAny : DataType → Bool
  | .any => true
  | .array element => containsAny element
  | .union _ mapping => membersContainAny mapping
  | _ => false

def membersContainAny : List (String × DataType) → Bool
  | [] => false
  | (_, ty) :: rest => containsAny ty || membersContainAny rest

end

mutual

def render : DataType → String
  | .primitive kind => kind.keyword
  | .dateTime => "date-time"
  | .array element => "array<" ++ render element ++ ">"
  | .record id => "record#" ++ toString id.index
  | .union field mapping =>
    "union<" ++ field ++ ": " ++ String.intercalate " | " (renderMembers mapping) ++ ">"
  | .any => "any"

def renderMembers : List (String × DataType) → List String
  | [] => []
  | (tag, ty) :: rest => (tag ++ "=" ++ render ty) :: renderMembers rest

end

/-- Keeps the first of equal types. -/
def distinct (types : List DataType) : List DataType :=
  types.foldl (fun seen ty => if seen.any (same · ty) then seen else seen ++ [ty]) []

/-- The members of a union, each once, in the order of their first tags. -/
def members (mapping : OrderedMap String DataType) : List DataType :=
  distinct mapping.values

/-- The first tag whose member is a record. -/
def tagOf? (mapping : OrderedMap String DataType) (id : RecordId) : Option String :=
  mapping.findSome? fun
    | (tag, .record id') => if id' = id then some tag else none
    | _ => none

end DataType

end OpenApi
