import OpenApi.Text.CaseMapping
import OpenApi.Text.Letter
import OpenApi.Text.LetterCase

/-!
# Words

A name is a run of words: runs of word characters, each cut where a small letter meets a capital one
and before the last of several capitals. A spelling of the name joins its words again.
-/

namespace OpenApi.Text

/-- The maximal runs of word characters, `run` being the one read so far, in reverse. -/
def runsFrom (run : List Char) : List Char → List (List Char)
  | [] => if run.isEmpty then [] else [run.reverse]
  | c :: rest =>
    if isWordChar c then runsFrom (c :: run) rest
    else if run.isEmpty then runsFrom [] rest
    else run.reverse :: runsFrom [] rest

def runs (s : String) : List (List Char) :=
  runsFrom [] s.toList

/-- The kind of the last cased letter since the start of a word. -/
inductive Hump where
  | start | small | capital
  deriving DecidableEq

/-- The kind after one more character. -/
def Hump.next (hump : Hump) (c : Char) : Hump :=
  if isLowercase c then .small else if isUppercase c then .capital else hump

/-- Cuts a run into words, `word` being the one read so far, in reverse. -/
def humpsFrom (hump : Hump) (word : List Char) : List Char → List (List Char)
  | [] => []
  | [c] => [(c :: word).reverse]
  | c :: d :: rest =>
    if hump.next c = .small && isUppercase d then
      (c :: word).reverse :: humpsFrom .start [] (d :: rest)
    else if hump = .capital && isUppercase c && isLowercase d then
      word.reverse :: humpsFrom .start [c] (d :: rest)
    else humpsFrom (hump.next c) (c :: word) (d :: rest)

def humps (run : List Char) : List (List Char) :=
  humpsFrom .start [] run

def words (s : String) : List (List Char) :=
  (runs s).flatMap humps

/-- A word in small letters. A capital sigma at the end takes its final form. -/
def lower : List Char → List Char
  | [] => []
  | [c] => if c = 'Σ' then ['ς'] else toLowercase c
  | c :: rest => toLowercase c ++ lower rest

/-- A word with a capital letter in front. -/
def capitalize : List Char → List Char
  | [] => []
  | c :: rest => toUppercase c ++ lower rest

/-- Small words, joined by underscores. -/
def snakeCase (ws : List (List Char)) : String :=
  String.intercalate "_" (ws.map fun w => String.ofList (lower w))

/-- Words with capital letters in front, joined without a mark. -/
def pascalCase (ws : List (List Char)) : String :=
  String.ofList (ws.flatMap capitalize)

/-- As `pascalCase`, but the first word is small. -/
def camelCase : List (List Char) → String
  | [] => ""
  | w :: ws => String.ofList (lower w ++ ws.flatMap capitalize)

end OpenApi.Text
