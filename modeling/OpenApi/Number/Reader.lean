import OpenApi.Number.Double

/-!
# Reading decimals

A decimal has digits on at least one side of its point, perhaps a sign, and perhaps an exponent. It
is read to the nearest double. The words for infinity and for no number may have letters of either
case.
-/

namespace OpenApi.Number

/-- A double or what lies beyond the doubles. -/
inductive Extended where
  | finite (d : Double)
  | infinite (negative : Bool)
  | notANumber
  deriving DecidableEq, Repr

namespace Extended

def finite? : Extended → Option Double
  | .finite d => some d
  | _ => none

def negate : Extended → Extended
  | .finite d => .finite d.negate
  | .infinite negative => .infinite !negative
  | .notANumber => .notANumber

/-- Takes a sign off. The answer says whether it was a minus. -/
def takeSign : List Char → Bool × List Char
  | '-' :: rest => (true, rest)
  | '+' :: rest => (false, rest)
  | cs => (false, cs)

/-- The number of an exponent mark and its digits; zero if nothing is there. -/
def exponent? : List Char → Option Int
  | [] => some 0
  | mark :: rest =>
    if mark = 'e' ∨ mark = 'E' then
      let (negative, digits) := takeSign rest
      let e : Nat := Nat.ofDigitChars 10 digits 0
      if digits.isEmpty || !digits.all Char.isDigit then none
      else some (if negative then -(e : Int) else e)
    else none

/-- The digits after a point, if one is there, and what follows them. -/
def fraction : List Char → List Char × List Char
  | '.' :: rest => rest.span Char.isDigit
  | cs => ([], cs)

/-- Reads a decimal without a sign. -/
def unsigned? (cs : List Char) : Option Extended := do
  let (whole, rest) := cs.span Char.isDigit
  let (part, rest) := fraction rest
  if whole.isEmpty && part.isEmpty then none
  let e ← exponent? rest
  match Double.ofDecimal? (Nat.ofDigitChars 10 (whole ++ part) 0) (e - part.length) with
  | some d => return .finite d
  | none => return .infinite false

def infinityWords : List String :=
  ["inf", "infinity"]

def ofText? (s : String) : Option Extended :=
  let (negative, rest) := takeSign s.toList
  let word := String.ofList (rest.map Char.toLower)
  let magnitude :=
    if word ∈ infinityWords then some (.infinite false)
    else if word = "nan" then some .notANumber
    else unsigned? rest
  if negative then magnitude.map negate else magnitude

end Extended

end OpenApi.Number
