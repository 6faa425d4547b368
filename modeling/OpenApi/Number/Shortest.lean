import OpenApi.Number.Double

/-!
# Shortest decimals

The fewest decimal digits that read back as the same double, and among those the nearest to it.
-/

namespace OpenApi.Number

/-- The number `digits * 10 ^ exponent`. -/
structure Decimal where
  digits : Nat
  exponent : Int
  deriving DecidableEq, Repr

namespace Double

/-- The reals that round to a double, over the common denominator `den`: from `low` to `high`, the
ends included when the significand is even. -/
structure Interval where
  low : Nat
  value : Nat
  high : Nat
  den : Nat
  closed : Bool

/-- Below a power of two the next double is only half as far away. -/
def interval (d : Double) : Interval :=
  let m := d.significand
  let below := if m = 0x10000000000000 && -1074 < d.exponent then 1 else 2
  let scale (n : Nat) := (scaleByTwo n 4 d.exponent).1
  ⟨scale (4 * m - below), scale (4 * m), scale (4 * m + 2), (scaleByTwo 1 4 d.exponent).2,
    m % 2 == 0⟩

namespace Interval

/-- Whether `num / den` lies in the interval. -/
def contains (i : Interval) (num den : Nat) : Bool :=
  if i.closed then i.low * den ≤ num * i.den && num * i.den ≤ i.high * den
  else i.low * den < num * i.den && num * i.den < i.high * den

/-- How far `num / den` is from the value, over the denominator `den * i.den`. -/
def distance (i : Interval) (num den : Nat) : Nat :=
  let a := num * i.den
  let b := i.value * den
  (a - b) + (b - a)

/-- The multiple of `10 ^ e` that stands for the value: of its two neighbours on that grid the one
in the interval, of two the nearer, of two equally near the even one. -/
def onGrid? (i : Interval) (e : Int) : Option Nat :=
  let (num, den) := scaleByTen i.value i.den (-e)
  let lower := num / den
  let point (k : Nat) := scaleByTen k 1 e
  let fits (k : Nat) := i.contains (point k).1 (point k).2
  let gap (k : Nat) := i.distance (point k).1 (point k).2
  match fits lower, fits (lower + 1) with
  | true, true =>
    if gap lower < gap (lower + 1) then some lower
    else if gap (lower + 1) < gap lower then some (lower + 1)
    else if lower % 2 = 0 then some lower else some (lower + 1)
  | true, false => some lower
  | false, true => some (lower + 1)
  | false, false => none

end Interval

/-- The least `j` with `den ≤ num * 10 ^ j`, looked for among the next `fuel` ones. -/
def leadingShift (num den : Nat) : Nat → Nat → Nat
  | 0, j => j
  | fuel + 1, j => if den ≤ num then j else leadingShift (10 * num) den fuel (j + 1)

/-- The place of the leading digit: the value is below `10 ^ place` and not below a tenth of it. -/
def leadingPlace (i : Interval) : Int :=
  if i.den ≤ i.value then (Nat.toDigits 10 (i.value / i.den)).length
  else 1 - (leadingShift i.value i.den 400 0 : Int)

/-- The first grid with a hit, from one digit upward. -/
def firstHit (i : Interval) (place : Int) : Nat → Nat → Decimal
  | 0, count => ⟨0, place - count⟩
  | fuel + 1, count =>
    match i.onGrid? (place - count) with
    | some digits => ⟨digits, place - count⟩
    | none => firstHit i place fuel (count + 1)

/-- Takes zeros off the end of the digits. -/
def dropZeros : Nat → Decimal → Decimal
  | 0, d => d
  | fuel + 1, d =>
    if d.digits ≠ 0 ∧ d.digits % 10 = 0 then dropZeros fuel ⟨d.digits / 10, d.exponent + 1⟩ else d

/-- The shortest decimal of the magnitude of a double that is not zero. -/
def shortest (d : Double) : Decimal :=
  let i := d.interval
  dropZeros 20 (firstHit i (leadingPlace i) 20 1)

end Double

end OpenApi.Number
