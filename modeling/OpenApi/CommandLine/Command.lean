import OpenApi.Summary
import OpenApi.Text.Search

/-!
# Commands

What the words of a command line ask for. A long option takes its value from the next word or from
behind an equals sign, a short one also from right behind its letter.
-/

namespace OpenApi

/-- A call as it is asked for: its arguments are still pairs of a name and a value. -/
structure CallCommand where
  operationId : String
  input : Option String := none
  arguments : List String := []
  body : Option String := none
  headers : List String := []
  server : Option String := none
  deriving DecidableEq, Repr

inductive Command where
  | validate (input : Option String)
  | inspect (input : Option String) (format : SummaryFormat)
  | call (c : CallCommand)
  | generate (input output : Option String)
  | init (force : Bool)
  deriving DecidableEq, Repr

namespace Command

/-- An option that a command knows: its short and its long name, and whether it has a value. -/
structure Known where
  short : Option Char := none
  long : String
  hasValue : Bool := true

/-- The words of a command line, sorted. -/
structure Words where
  /-- Options by their long names, in order. A flag has an empty value. -/
  options : List (String × String) := []
  /-- The other words. -/
  operands : List String := []

/-- The name and value of a word with a long option, if the value stands in the word. -/
def cutLong (name : List Char) : String × Option String :=
  match Text.cutAt? ['='] name with
  | some (name, value) => (String.ofList name, some (String.ofList value))
  | none => (String.ofList name, none)

/-- The value right behind a short option. -/
def attached : List Char → Option String
  | [] => none
  | '=' :: value => some (String.ofList value)
  | value => some (String.ofList value)

/-- The option of a word, with the value that stands in the word. -/
def optionOf? (known : List Known) (word : List Char) : Option (Known × Option String) :=
  match word with
  | '-' :: '-' :: name =>
    let (name, value) := cutLong name
    (known.find? (·.long == name)).map fun k => (k, value)
  | '-' :: letter :: rest =>
    (known.find? (·.short == some letter)).map fun k => (k, attached rest)
  | _ => none

def Words.withOption (w : Words) (name value : String) : Words :=
  { w with options := w.options ++ [(name, value)] }

def Words.withOperand (w : Words) (word : String) : Words :=
  { w with operands := w.operands ++ [word] }

/-- A word that starts with a hyphen and is longer is no value on its own. -/
def isOptionLike (word : String) : Bool :=
  Text.startsWith word "-" && word ≠ "-"

/-- Sorts words; there is no answer where an option is unknown or lacks its value. -/
def sort? (known : List Known) : List String → Words → Option Words
  | [], w => some w
  | word :: rest, w =>
    if word = "--" then some { w with operands := w.operands ++ rest }
    else if !isOptionLike word then sort? known rest (w.withOperand word)
    else
      match optionOf? known word.toList, rest with
      | none, _ => none
      | some (k, some value), rest =>
        if k.hasValue then sort? known rest (w.withOption k.long value) else none
      | some (k, none), [] => if k.hasValue then none else some (w.withOption k.long "")
      | some (k, none), next :: rest =>
        if !k.hasValue then sort? known (next :: rest) (w.withOption k.long "")
        else if isOptionLike next then none
        else sort? known rest (w.withOption k.long next)
termination_by words => words.length

def Words.values (w : Words) (name : String) : List String :=
  w.options.filterMap fun (key, value) => if key = name then some value else none

/-- The value of an option that is given at most once. -/
def Words.single? (w : Words) (name : String) : Option (Option String) :=
  match w.values name with
  | [] => some none
  | [value] => some (some value)
  | _ => none

/-- The words must be no more than the options. -/
def Words.withoutOperands (w : Words) : Option Unit :=
  if w.operands.isEmpty then some () else none

def inputOption : Known := { short := some 'i', long := "input" }

def formats : List (String × SummaryFormat) :=
  [("yaml", .yaml), ("json", .json)]

def validate? (words : List String) : Option Command := do
  let w ← sort? [inputOption] words {}
  w.withoutOperands
  return .validate (← w.single? "input")

def inspect? (words : List String) : Option Command := do
  let w ← sort? [inputOption, { long := "format" }] words {}
  w.withoutOperands
  let format ← OrderedMap.get? formats ((← w.single? "format").getD "yaml")
  return .inspect (← w.single? "input") format

def callOptions : List Known :=
  [inputOption, { short := some 'a', long := "arg" }, { long := "body" }, { long := "header" },
    { long := "server" }]

def call? (words : List String) : Option Command := do
  let w ← sort? callOptions words {}
  match w.operands with
  | [operationId] =>
    return .call {
      operationId
      input := ← w.single? "input"
      arguments := w.values "arg"
      body := ← w.single? "body"
      headers := w.values "header"
      server := ← w.single? "server" }
  | _ => none

def generate? (words : List String) : Option Command := do
  let w ← sort? [inputOption, { short := some 'o', long := "output" }] words {}
  w.withoutOperands
  return .generate (← w.single? "input") (← w.single? "output")

def init? (words : List String) : Option Command := do
  let w ← sort? [{ long := "force", hasValue := false }] words {}
  w.withoutOperands
  return .init (← w.single? "force").isSome

/-- The command of a command line. -/
def ofWords? : List String → Option Command
  | "validate" :: words => validate? words
  | "inspect" :: words => inspect? words
  | "call" :: words => call? words
  | "generate" :: words => generate? words
  | "init" :: words => init? words
  | _ => none

end Command

end OpenApi
