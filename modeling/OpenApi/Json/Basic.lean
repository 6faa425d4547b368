import OpenApi.Json.Number
import OpenApi.OrderedMap

/-!
# JSON values

Objects keep the order of their fields. A reader leaves each key once.
-/

namespace OpenApi

inductive Json where
  | null
  | bool (b : Bool)
  | number (n : Json.Number)
  | string (s : String)
  | array (items : List Json)
  | object (fields : List (String × Json))
  deriving Repr, Inhabited

namespace Json

def isNull : Json → Bool
  | .null => true
  | _ => false

/-- The field of an object; no other value has fields. -/
def field? : Json → String → Option Json
  | .object fields, key => OrderedMap.get? fields key
  | _, _ => none

def ofNat (n : Nat) : Json :=
  .number (.integer n)

def ofInt (n : Int) : Json :=
  .number (.integer n)

def ofOption (text : Option String) : Json :=
  match text with
  | some s => .string s
  | none => .null

/-! ## Pointers -/

/-- The index that a pointer's token names: decimal digits without a sign or a leading zero. -/
def indexOfToken? (token : List Char) : Option Nat :=
  match token with
  | [] => none
  | ['0'] => some 0
  | '0' :: _ => none
  | digits => if digits.all Char.isDigit then some (Nat.ofDigitChars 10 digits 0) else none

/-- Replaces each `~` followed by `digit`. -/
def replaceEscape (digit : Char) (char : Char) : List Char → List Char
  | '~' :: c :: rest =>
    if c = digit then char :: replaceEscape digit char rest
    else '~' :: replaceEscape digit char (c :: rest)
  | c :: rest => c :: replaceEscape digit char rest
  | [] => []

/-- Undoes the escapes of a token: `~1` is a slash, then `~0` a tilde. -/
def unescapeToken (token : List Char) : List Char :=
  replaceEscape '0' '~' (replaceEscape '1' '/' token)

/-- Escapes a key for use as a token. -/
def escapeToken : List Char → List Char
  | [] => []
  | '~' :: rest => '~' :: '0' :: escapeToken rest
  | '/' :: rest => '~' :: '1' :: escapeToken rest
  | c :: rest => c :: escapeToken rest

/-- The child that an unescaped token names. -/
def child? (v : Json) (token : List Char) : Option Json :=
  match v with
  | .object fields => OrderedMap.get? fields (String.ofList token)
  | .array items => (indexOfToken? token).bind (items[·]?)
  | _ => none

/-- Cuts a text at every slash. -/
def splitSlashes : List Char → List (List Char)
  | [] => [[]]
  | '/' :: rest => [] :: splitSlashes rest
  | c :: rest =>
    match splitSlashes rest with
    | first :: others => (c :: first) :: others
    | [] => [[c]]

/-- Follows the tokens downward. -/
def descend : Json → List (List Char) → Option Json
  | v, [] => some v
  | v, token :: rest => (child? v (unescapeToken token)).bind (descend · rest)

/-- The value a pointer leads to. The empty pointer is the whole value; any other starts with a
slash. -/
def pointer? (v : Json) (pointer : String) : Option Json :=
  match pointer.toList with
  | [] => some v
  | '/' :: rest => descend v (splitSlashes rest)
  | _ => none

end Json

end OpenApi
