import OpenApi.Number.Shortest

/-!
# JSON numbers

An integer literal that fits sixty-four bits stays an integer, of any sign; every other number is a
finite double.
-/

namespace OpenApi.Json

open OpenApi.Number

inductive Number where
  /-- From `-2 ^ 63` to `2 ^ 64 - 1`. -/
  | integer (n : Int)
  | double (d : Double)
  deriving DecidableEq, Repr

namespace Number

/-- Equality as numbers of one kind: an integer differs from every double. -/
def equals : Number → Number → Bool
  | .integer a, .integer b => a == b
  | .double a, .double b => a.equals b
  | _, _ => false

theorem equals_refl (a : Number) : a.equals a := by
  cases a <;> simp [equals, Double.equals_refl]

theorem equals_symm {a b : Number} (h : a.equals b) : b.equals a := by
  cases a <;> cases b <;> simp_all [equals]
  exact Double.equals_symm h

theorem equals_trans {a b c : Number} (hab : a.equals b) (hbc : b.equals c) : a.equals c := by
  cases a <;> cases b <;> cases c <;> simp_all [equals]
  exact Double.equals_trans hab hbc

/-- The integer, when a signed word holds it. -/
def toInt64? : Number → Option Int
  | .integer n => if n < 0x8000000000000000 then some n else none
  | .double _ => none

/-- The nearest double. -/
def toDouble : Number → Double
  | .double d => d
  | .integer n =>
    let d := (Double.ofNat? n.natAbs).getD .zero
    if n < 0 then d.negate else d

/-- Places that a number may have on either side of the point before an exponent is written. -/
structure Style where
  mostWhole : Int
  mostZeros : Int

/-- Up to sixteen whole places, or four zeros after the point, are written out. -/
def style : Style := ⟨16, 4⟩

/-- The text of a positive decimal, always with a point or an exponent. -/
def renderDecimal (d : Decimal) : String :=
  let digits := Nat.toDigits 10 d.digits
  let place := (digits.length : Int) + d.exponent
  let zeros (n : Int) := List.replicate n.toNat '0'
  if 0 ≤ d.exponent ∧ place ≤ style.mostWhole then
    String.ofList (digits ++ zeros d.exponent) ++ ".0"
  else if 0 < place ∧ place ≤ style.mostWhole then
    String.ofList (digits.take place.toNat) ++ "." ++ String.ofList (digits.drop place.toNat)
  else if -style.mostZeros ≤ place ∧ place ≤ 0 then
    "0." ++ String.ofList (zeros (-place) ++ digits)
  else
    let point := if digits.length = 1 then "" else "."
    let sign := if place - 1 < 0 then "-" else "+"
    String.ofList (digits.take 1) ++ point ++ String.ofList (digits.drop 1) ++ "e" ++ sign
      ++ toString (place - 1).natAbs

def renderDouble (d : Double) : String :=
  let sign := if d.isNegative then "-" else ""
  sign ++ (if d.isZero then "0.0" else renderDecimal d.shortest)

def render : Number → String
  | .integer n => toString n
  | .double d => renderDouble d

end Number

end OpenApi.Json
