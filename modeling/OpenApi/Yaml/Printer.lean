import OpenApi.Yaml.ScalarStyle

/-!
# Writing YAML

A value is written in block style. The items of a list stand under the key of the list without an
indentation of their own, and a mapping is indented by two. Empty collections stand on one line.
-/

namespace OpenApi.Yaml

/-- The text of a scalar at an indentation, with the end of its line. -/
def scalarLine (indent : Nat) (s : String) : String :=
  let style := ScalarStyle.ofText true s
  let cs := s.toList
  let text := String.ofList (style.write (List.replicate indent ' ') cs)
  if style.endsLine cs then text else text ++ "\n"

/-- The text of a key. -/
def keyText (key : String) : String :=
  String.ofList ((ScalarStyle.ofText false key).write [] key.toList)

def blanks (n : Nat) : String :=
  String.ofList (List.replicate n ' ')

/-- Puts an indentation before each of some texts. -/
def indentAll (indent : Nat) (texts : List String) : String :=
  String.join (texts.map (blanks indent ++ ·))

/-- As `indentAll`, except that the first text follows a mark. -/
def indentOthers (indent : Nat) : List String → String
  | [] => ""
  | first :: others => first ++ indentAll indent others

mutual

/-- A value behind the key of a mapping at an indentation. -/
def behindKey (indent : Nat) : Json → String
  | .object [] => " \x7b\x7d\n"
  | .array [] => " []\n"
  | .object fields => "\n" ++ indentAll (indent + 2) (fieldTexts (indent + 2) fields)
  | .array items => "\n" ++ indentAll indent (itemTexts indent items)
  | .string s => " " ++ scalarLine (indent + 2) s
  | .null => " null\n"
  | .bool b => " " ++ (Json.bool b).render ++ "\n"
  | .number n => " " ++ n.render ++ "\n"

/-- A value behind the mark of an item of a list at an indentation. -/
def behindMark (indent : Nat) : Json → String
  | .object [] => " \x7b\x7d\n"
  | .array [] => " []\n"
  | .object fields => " " ++ indentOthers (indent + 2) (fieldTexts (indent + 2) fields)
  | .array items => " " ++ indentOthers (indent + 2) (itemTexts (indent + 2) items)
  | .string s => " " ++ scalarLine (indent + 2) s
  | .null => " null\n"
  | .bool b => " " ++ (Json.bool b).render ++ "\n"
  | .number n => " " ++ n.render ++ "\n"

def fieldTexts (indent : Nat) : List (String × Json) → List String
  | [] => []
  | (key, v) :: rest => (keyText key ++ ":" ++ behindKey indent v) :: fieldTexts indent rest

def itemTexts (indent : Nat) : List Json → List String
  | [] => []
  | v :: rest => ("-" ++ behindMark indent v) :: itemTexts indent rest

end

/-- The text of an object. -/
def renderFields (fields : List (String × Json)) : String :=
  if fields.isEmpty then "\x7b\x7d\n" else String.join (fieldTexts 0 fields)

end OpenApi.Yaml
