import Mathlib.Data.Nat.Bitwise
import OpenApi.Text.CharRange

/-!
# Sets of characters as numbers

A list of ranges is packed into one number with a bit for each of their characters. Two long tables
are compared by one operation on two numbers, where a comparison range by range would take a step
for every pair.
-/

namespace OpenApi.Text.CharRange

/-- The characters of the ranges, one bit each. -/
def mask : List CharRange → Nat
  | [] => 0
  | r :: rest => (2 ^ (r.last + 1 - r.first) - 1) <<< r.first ||| mask rest

theorem testBit_mask (ranges : List CharRange) (c : Char) :
    (mask ranges).testBit c.toNat = anyContains ranges c := by
  induction ranges with
  | nil => simp [mask, anyContains]
  | cons r rest ih =>
    have hbit : ((2 ^ (r.last + 1 - r.first) - 1) <<< r.first).testBit c.toNat = r.contains c := by
      rw [Nat.testBit_shiftLeft, Nat.testBit_two_pow_sub_one, contains, Bool.eq_iff_iff]
      simp only [ge_iff_le, Bool.and_eq_true, decide_eq_true_eq]
      omega
    rw [mask, Nat.testBit_or, hbit, ih, anyContains, anyContains, List.any_cons]

variable {a b : List CharRange} {c : Char}

theorem not_anyContains_of_mask (apart : mask a &&& mask b = 0) (mem : anyContains a c = true) :
    anyContains b c = false := by
  have hbit := Nat.testBit_and (mask a) (mask b) c.toNat
  rw [apart, Nat.zero_testBit, testBit_mask, testBit_mask, mem, Bool.true_and] at hbit
  exact hbit.symm

theorem anyContains_of_mask (sub : mask a &&& mask b = mask a) (mem : anyContains a c = true) :
    anyContains b c = true := by
  have hbit := Nat.testBit_and (mask a) (mask b) c.toNat
  rw [sub, testBit_mask, testBit_mask, mem, Bool.true_and] at hbit
  exact hbit.symm

theorem anyContains_append (a b : List CharRange) (c : Char) :
    anyContains (a ++ b) c = (anyContains a c || anyContains b c) :=
  List.any_append

theorem anyContains_flatMap_of_mem {α : Type} {f : α → List CharRange} {as : List α} {x : α}
    (mem : x ∈ as) (h : anyContains (f x) c = true) : anyContains (as.flatMap f) c = true := by
  obtain ⟨r, hr, hc⟩ := anyContains_iff.1 h
  exact anyContains_iff.2 ⟨r, List.mem_flatMap.2 ⟨x, mem, hr⟩, hc⟩

end OpenApi.Text.CharRange
