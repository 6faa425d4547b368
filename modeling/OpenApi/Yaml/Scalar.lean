import OpenApi.Json.Basic
import OpenApi.Number.Reader
import OpenApi.Text.Search
import OpenApi.Yaml.ScalarText

/-!
# Values of scalars

A plain scalar without a tag is what it looks like: null, a boolean, a number or else a text. A
number that starts with a zero and has digits only is a text, and so is one that is not finite when
it is spelled as a word. A tag of the core schema says what a scalar has to be.
-/

namespace OpenApi.Yaml.Scalar

open OpenApi.Text (dropStart? startsWith)

def nullWords : List String :=
  ["null", "Null", "NULL", "~"]

def isNull (s : String) : Bool :=
  nullWords.contains s

def bool? (s : String) : Option Bool :=
  if ["true", "True", "TRUE"].contains s then some true
  else if ["false", "False", "FALSE"].contains s then some false
  else none

/-! ## Integers -/

def withoutPlus : List Char → List Char
  | '+' :: rest => rest
  | cs => cs

def startsWithSign (cs : List Char) : Bool :=
  cs.head?.any fun c => c == '+' || c == '-'

def digitValue? (radix : Nat) (c : Char) : Option Nat :=
  (hexValue? [c]).filter (· < radix)

/-- The number of a word of digits. -/
def digits? (radix : Nat) (cs : List Char) : Option Nat :=
  if cs.isEmpty then none
  else cs.foldlM (fun n c => (digitValue? radix c).map (n * radix + ·)) 0

/-- A zero with more digits behind it, and perhaps a sign before it. -/
def isZeroPadded (s : String) : Bool :=
  match s.toList with
  | '-' :: rest | '+' :: rest => padded rest
  | rest => padded rest
where
  padded : List Char → Bool
    | '0' :: c :: rest => (c :: rest).all Char.isDigit
    | _ => false

/-- The marks of the bases besides ten. -/
def bases : List (String × Nat) :=
  [("0x", 16), ("0o", 8), ("0b", 2)]

/-- The number after the mark of a base. -/
def based? (cs : List Char) : Option Nat :=
  bases.findSome? fun (mark, radix) => (dropStart? mark.toList cs).bind (digits? radix)

/-- A number below `limit`, with a plus sign or without. -/
def natural? (limit : Nat) (s : String) : Option Nat :=
  let cs := withoutPlus s.toList
  ((based? cs).filter (· < limit)) <|>
    if startsWithSign cs || isZeroPadded s then none else (digits? 10 cs).filter (· < limit)

/-- A number with a minus sign, not below `-limit`. -/
def negative? (limit : Nat) (s : String) : Option Int :=
  match s.toList with
  | '-' :: rest =>
    let n := ((based? rest).filter (· ≤ limit)) <|>
      if isZeroPadded s then none else (digits? 10 rest).filter (· ≤ limit)
    n.map fun n => -(n : Int)
  | _ => none

/-- An integer of sixty-four bits; one that only a hundred and twenty-eight bits hold is refused. -/
def integer? (s : String) : Scan (Option Int) :=
  match natural? 0x10000000000000000 s, negative? 0x8000000000000000 s with
  | some n, _ => .ok (some n)
  | none, some n => .ok (some n)
  | none, none =>
    if (natural? 0x100000000000000000000000000000000 s).isSome ||
        (negative? 0x80000000000000000000000000000000 s).isSome then malformed
    else .ok none

/-! ## Other numbers -/

def infinityWords : List String :=
  [".inf", ".Inf", ".INF"]

def notANumberWords : List String :=
  [".nan", ".NaN", ".NAN"]

/-- A number with a point or an exponent, or a word for one that is not finite. -/
def double? (s : String) : Option Number.Extended :=
  let positive := withoutPlus s.toList
  let signed := s.toList.head? == some '+'
  if signed && startsWithSign positive then none
  else if infinityWords.contains (String.ofList positive) then some (.infinite false)
  else if (infinityWords.map ("-" ++ ·)).contains s then some (.infinite true)
  else if notANumberWords.contains s then some .notANumber
  else (Number.Extended.ofText? (String.ofList positive)).filter (·.finite?.isSome)

/-- A number that is not finite has no JSON form and becomes null. -/
def ofExtended : Number.Extended → Json
  | .finite d => .number (.double d)
  | _ => .null

/-- The value of a plain scalar without a tag. -/
def ofPlain (s : String) : Scan Json := do
  if s.isEmpty || isNull s then return .null
  if let some b := bool? s then return .bool b
  if let some n := ← integer? s then return .ofInt n
  match (double? s).filter fun _ => !isZeroPadded s with
  | some x => return ofExtended x
  | none => return .string s

/-! ## Tags -/

/-- Where the tags of the core schema start. -/
def coreTags : String := "tag:yaml.org,2002:"

/-- A tag of a document's own, which no JSON value has. -/
def isLocalTag (tag : String) : Bool :=
  startsWith tag "!"

def ofTagged (tag : String) (s : String) : Scan Json :=
  let refuseNone {α : Type} : Option α → Scan α
    | some a => .ok a
    | none => malformed
  if isLocalTag tag then malformed
  else if tag = coreTags ++ "bool" then (refuseNone (bool? s)).map .bool
  else if tag = coreTags ++ "int" then do return .ofInt (← refuseNone (← integer? s))
  else if tag = coreTags ++ "float" then (refuseNone (double? s)).map ofExtended
  else if tag = coreTags ++ "null" then if isNull s then .ok .null else malformed
  else .ok (.string s)

/-- The value of a scalar. -/
def value (tag : Option String) (plain : Bool) (s : String) : Scan Json :=
  match tag with
  | some tag => ofTagged tag s
  | none => if plain then ofPlain s else .ok (.string s)

end OpenApi.Yaml.Scalar
