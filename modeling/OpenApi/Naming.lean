import OpenApi.Text.Words

/-!
# Names

A document names its operations, parameters and fields in wire spelling. Each has a local name in
small words joined by underscores. A component schema has a type name.
-/

namespace OpenApi

open OpenApi.Text

/-- The words of a wire name; a name without any word is called `unnamed`. -/
def nameWords (name : String) : List (List Char) :=
  match words name with
  | [] => ["unnamed".toList]
  | ws => ws

/-- A wire name with its local spellings. -/
structure Name where
  wire : String
  snake : String
  pascal : String
  deriving DecidableEq, Repr

def Name.ofText (text : String) : Name :=
  ⟨text, snakeCase (nameWords text), pascalCase (nameWords text)⟩

/-- The local name for a wire name. -/
def localName (wire : String) : String :=
  snakeCase (nameWords wire)

/-- The usual wire spelling of a local name. It is a guess: records keep their own wire names. -/
def conventionalWireName (name : String) : String :=
  camelCase (words name)

/-- A component name with a capital letter in front and without its hyphens and spaces. -/
def typeName (component : String) : String :=
  match component.toList with
  | [] => ""
  | c :: rest => String.ofList ((toUppercase c ++ rest).filter fun c => c != '-' && c != ' ')

end OpenApi
