import OpenApi.Json.Basic

/-!
# JSON text

The compact text has no blanks. The indented text puts every item on a line of its own.
-/

namespace OpenApi.Json

def hexDigit (n : Nat) : Char :=
  "0123456789abcdef".toList.getD n '0'

/-- Control characters, quotes and backslashes are escaped; nothing else is. -/
def escapeChar (c : Char) : List Char :=
  match c with
  | '"' => ['\\', '"']
  | '\\' => ['\\', '\\']
  | '\n' => ['\\', 'n']
  | '\r' => ['\\', 'r']
  | '\t' => ['\\', 't']
  | '\x08' => ['\\', 'b']
  | '\x0c' => ['\\', 'f']
  | c =>
    if c.toNat < 0x20 then
      ['\\', 'u', '0', '0', hexDigit (c.toNat / 16), hexDigit (c.toNat % 16)]
    else [c]

def quote (s : String) : String :=
  String.ofList ('"' :: s.toList.flatMap escapeChar ++ ['"'])

mutual

/-- The text without blanks. -/
def render : Json → String
  | .null => "null"
  | .bool true => "true"
  | .bool false => "false"
  | .number n => n.render
  | .string s => quote s
  | .array items => "[" ++ String.intercalate "," (renderItems items) ++ "]"
  | .object fields => "\x7b" ++ String.intercalate "," (renderFields fields) ++ "\x7d"

def renderItems : List Json → List String
  | [] => []
  | v :: rest => render v :: renderItems rest

def renderFields : List (String × Json) → List String
  | [] => []
  | (key, v) :: rest => (quote key ++ ":" ++ render v) :: renderFields rest

end

/-- Lines of items between brackets, one step deeper than `margin`. -/
def block (opening closing margin : String) (items : List String) : String :=
  match items with
  | [] => opening ++ closing
  | items =>
    opening ++ "\n" ++ String.intercalate ",\n" (items.map (margin ++ "  " ++ ·)) ++ "\n" ++ margin
      ++ closing

mutual

/-- The text with an item a line, two blanks a level. -/
def renderIndented (margin : String) : Json → String
  | .array items => block "[" "]" margin (indentItems (margin ++ "  ") items)
  | .object fields => block "\x7b" "\x7d" margin (indentFields (margin ++ "  ") fields)
  | v => render v

def indentItems (margin : String) : List Json → List String
  | [] => []
  | v :: rest => renderIndented margin v :: indentItems margin rest

def indentFields (margin : String) : List (String × Json) → List String
  | [] => []
  | (key, v) :: rest => (quote key ++ ": " ++ renderIndented margin v) :: indentFields margin rest

end

def renderPretty (v : Json) : String :=
  renderIndented "" v

end OpenApi.Json
