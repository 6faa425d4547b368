/-!
# Double-precision numbers

A finite double is kept by its bits, and every operation on it is a rounding of an exact quotient
of natural numbers: to the nearest double, a tie to the even one.
-/

namespace OpenApi.Number

/-- A finite double-precision number: one bit of sign, eleven of exponent, fifty-two of fraction. -/
structure Double where
  bits : UInt64
  deriving DecidableEq, Repr

/-- The nearest integer to a quotient, a tie to the even one. -/
def roundHalfEven (num den : Nat) : Nat :=
  let q := num / den
  let twice := 2 * (num % den)
  if twice < den then q
  else if den < twice then q + 1
  else if q % 2 = 0 then q else q + 1

/-- The quotient `num / den` scaled by a power of two, as a new quotient. -/
def scaleByTwo (num den : Nat) (e : Int) : Nat × Nat :=
  if 0 ≤ e then (num * Nat.pow 2 e.toNat, den) else (num, den * Nat.pow 2 (-e).toNat)

/-- The quotient `num / den` scaled by a power of ten, as a new quotient. -/
def scaleByTen (num den : Nat) (e : Int) : Nat × Nat :=
  if 0 ≤ e then (num * Nat.pow 10 e.toNat, den) else (num, den * Nat.pow 10 (-e).toNat)

namespace Double

def zero : Double := ⟨0⟩

def isNegative (d : Double) : Bool :=
  0x8000000000000000 ≤ d.bits.toNat

/-- The bits below the sign. They order the magnitudes as numbers do. -/
def magnitude (d : Double) : Nat :=
  d.bits.toNat % 0x8000000000000000

def isZero (d : Double) : Bool :=
  d.magnitude == 0

def negate (d : Double) : Double :=
  ⟨d.bits ^^^ 0x8000000000000000⟩

/-- The value is `significand * 2 ^ exponent`, up to its sign. -/
def significand (d : Double) : Nat :=
  if d.magnitude < 0x10000000000000 then d.magnitude
  else d.magnitude % 0x10000000000000 + 0x10000000000000

def exponent (d : Double) : Int :=
  if d.magnitude < 0x10000000000000 then -1074
  else (d.magnitude / 0x10000000000000 : Nat) - 1075

/-- The magnitude as an exact quotient. -/
def toRatio (d : Double) : Nat × Nat :=
  scaleByTwo d.significand 1 d.exponent

/-- The nearest double to a quotient; none when that is beyond the largest. The exponent is the one
at which the rounded quotient has fifty-three bits, or the least there is. -/
def nearest? (num den : Nat) : Option Double :=
  if num = 0 then some zero
  else
    let guess := max ((num.log2 : Int) - den.log2 - 53) (-1074)
    let at_ (e : Int) := scaleByTwo num den (-e)
    let e := if 0x20000000000000 ≤ (at_ guess).1 / (at_ guess).2 then guess + 1 else guess
    let rounded := roundHalfEven (at_ e).1 (at_ e).2
    let bits := (e + 1074).toNat * 0x10000000000000 + rounded
    if bits < 0x7FF0000000000000 then some ⟨bits.toUInt64⟩ else none

/-- The nearest double to `digits * 10 ^ e`. -/
def ofDecimal? (digits : Nat) (e : Int) : Option Double :=
  if digits = 0 then some zero
  else if 400 < e then none
  else if e + digits.log2 < -1200 then some zero
  else
    let (num, den) := scaleByTen digits 1 e
    nearest? num den

def ofNat? (n : Nat) : Option Double :=
  nearest? n 1

/-- The rounded product of two magnitudes. -/
def mulMagnitude? (a b : Double) : Option Double :=
  nearest? (a.toRatio.1 * b.toRatio.1) (a.toRatio.2 * b.toRatio.2)

/-- The rounded quotient of two magnitudes, `b` not zero. -/
def divMagnitude? (a b : Double) : Option Double :=
  nearest? (a.toRatio.1 * b.toRatio.2) (a.toRatio.2 * b.toRatio.1)

/-- Equality as numbers: the two zeros are equal. -/
def equals (a b : Double) : Bool :=
  a == b || (a.isZero && b.isZero)

theorem equals_refl (a : Double) : a.equals a := by
  simp [equals]

theorem equals_symm {a b : Double} (h : a.equals b) : b.equals a := by
  simp only [equals, Bool.or_eq_true, beq_iff_eq, Bool.and_eq_true] at h ⊢
  rcases h with h | ⟨ha, hb⟩
  · exact .inl h.symm
  · exact .inr ⟨hb, ha⟩

theorem equals_trans {a b c : Double} (hab : a.equals b) (hbc : b.equals c) : a.equals c := by
  simp only [equals, Bool.or_eq_true, beq_iff_eq, Bool.and_eq_true] at hab hbc ⊢
  rcases hab with rfl | ⟨ha, hb⟩
  · exact hbc
  · rcases hbc with rfl | ⟨_, hc⟩
    · exact .inr ⟨ha, hb⟩
    · exact .inr ⟨ha, hc⟩

end Double

end OpenApi.Number
