/-!
# Ranges of characters

The tables of the Unicode standard are lists of such ranges.
-/

namespace OpenApi.Text

/-- The characters from `first` to `last`, both included. -/
structure CharRange where
  first : Nat
  last : Nat
  deriving DecidableEq, Repr

namespace CharRange

def contains (r : CharRange) (c : Char) : Bool :=
  r.first ≤ c.toNat && c.toNat ≤ r.last

/-- Whether one of the ranges holds the character. -/
def anyContains (ranges : List CharRange) (c : Char) : Bool :=
  ranges.any (·.contains c)

theorem anyContains_iff {ranges : List CharRange} {c : Char} :
    anyContains ranges c ↔ ∃ r ∈ ranges, r.first ≤ c.toNat ∧ c.toNat ≤ r.last := by
  simp [anyContains, contains]

end CharRange

end OpenApi.Text
