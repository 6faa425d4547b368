import OpenApi.Registry

/-!
# Arguments of wrappers

How a data type and a name look in a wrapper module: the type that an argument is declared with, the
type in words for a comment, and a name as an identifier.
-/

namespace OpenApi.Wrapper

/-- The type that an argument is declared with. -/
def argumentType : DataType → String
  | .primitive .string => "String"
  | .primitive .integer => "i64"
  | .primitive .number => "f64"
  | .primitive .boolean => "bool"
  | .primitive .object | .any => "oarc_core::Value"
  | .dateTime => "oarc_core::chrono::DateTime<oarc_core::chrono::FixedOffset>"
  | .array element => "Vec<" ++ argumentType element ++ ">"
  | .record _ | .union .. => "oarc_core::Record"

/-- Keeps the words of the first of equal types. -/
def distinctWords (members : List (DataType × String)) : List String :=
  (members.foldl (fun seen m => if seen.any (·.1.same m.1) then seen else seen ++ [m]) []).map
    Prod.snd

mutual

/-- The type in words, records by their names. -/
def describe (r : Registry) : DataType → String
  | .record id => "`" ++ ((r.record? id).map (·.name)).getD "" ++ "`"
  | .union _ mapping => String.intercalate " | " (distinctWords (describeMembers r mapping))
  | .array element => "list of " ++ describe r element
  | .primitive kind => kind.keyword
  | .dateTime => DataType.dateTime.render
  | .any => DataType.any.render

def describeMembers (r : Registry) : List (String × DataType) → List (DataType × String)
  | [] => []
  | (_, ty) :: rest => (ty, describe r ty) :: describeMembers r rest

end

/-- Names that stand for paths and that no mark makes usable. -/
def pathKeywords : List String :=
  ["self", "Self", "super", "crate"]

def keywords : List String :=
  ["as", "async", "await", "break", "const", "continue", "dyn", "else", "enum", "extern", "false",
    "fn", "for", "gen", "if", "impl", "in", "let", "loop", "match", "mod", "move", "mut", "pub",
    "ref", "return", "static", "struct", "trait", "true", "type", "unsafe", "use", "where",
    "while", "abstract", "become", "box", "do", "final", "macro", "override", "priv", "try",
    "typeof", "unsized", "virtual", "yield"]

def startsWithDigit (name : String) : Bool :=
  name.toList.head?.any Char.isDigit

/-- A snake-case name as an identifier: a keyword is marked, and no digit stands in front. -/
def identifier (name : String) : String :=
  if name ∈ pathKeywords then name ++ "_"
  else if name ∈ keywords then "r#" ++ name
  else if startsWithDigit name then "_" ++ name
  else name

end OpenApi.Wrapper
