/-!
# Parts of a text

Looking for a part of a text, from the left, on lists of characters.
-/

namespace OpenApi.Text

/-- What follows `start`, if the text starts with it. -/
def dropStart? : List Char → List Char → Option (List Char)
  | [], cs => some cs
  | _ :: _, [] => none
  | a :: start, c :: cs => if a = c then dropStart? start cs else none

def startsWith (s start : String) : Bool :=
  (dropStart? start.toList s.toList).isSome

/-- The text before and after the first occurrence of a part. -/
def cutAt? (part : List Char) : List Char → Option (List Char × List Char)
  | [] => (dropStart? part []).map ([], ·)
  | c :: cs =>
    match dropStart? part (c :: cs) with
    | some rest => some ([], rest)
    | none => (cutAt? part cs).map fun (before, after) => (c :: before, after)

def hasPart (s part : String) : Bool :=
  (cutAt? part.toList s.toList).isSome

/-- Replaces the occurrences of a part that is not empty, from the left, as they do not overlap. An
occurrence hides the characters it covers: `skip` of them are left to pass over. -/
def replaceFrom (part value : List Char) : Nat → List Char → List Char
  | _, [] => []
  | skip + 1, _ :: cs => replaceFrom part value skip cs
  | 0, c :: cs =>
    if (dropStart? part (c :: cs)).isSome then
      value ++ replaceFrom part value (part.length - 1) cs
    else c :: replaceFrom part value 0 cs

def replaceAll (s part value : String) : String :=
  String.ofList (replaceFrom part.toList value.toList 0 s.toList)

theorem dropStart?_eq_some_iff {start cs rest : List Char} :
    dropStart? start cs = some rest ↔ cs = start ++ rest := by
  induction start generalizing cs with
  | nil => simp [dropStart?, eq_comm]
  | cons a start ih =>
    cases cs with
    | nil => simp [dropStart?]
    | cons c cs =>
      by_cases h : a = c
      · simp [dropStart?, h, ih]
      · simp [dropStart?, h, Ne.symm h]

theorem startsWith_iff {s start : String} :
    startsWith s start ↔ ∃ rest, s.toList = start.toList ++ rest := by
  simp [startsWith, Option.isSome_iff_exists, dropStart?_eq_some_iff]

end OpenApi.Text
