import OpenApi.Json.Printer
import OpenApi.Yaml.Scalar

/-!
# Styles of scalars

A text is written plain where it reads back as itself. A text that looks like another value is
quoted, one of several lines is written literally, and one that holds what only an escape can write
is written with escapes.
-/

namespace OpenApi.Yaml

/-- A character that needs no escape. -/
def isPlainlyWritten (c : Char) : Bool :=
  let n := c.toNat
  c == '\n' || (0x20 ≤ n && n ≤ 0x7E) || (0xA0 ≤ n && n != 0xFEFF && n != 0xFFFE && n != 0xFFFF)

/-- A blank, a line break or the end stands next. -/
def endsWord (next : Option Char) : Bool :=
  next.all fun c => isBlank c || isBreak c

/-- Characters that give a scalar another meaning when it starts with them. -/
def leadingMarks : List Char :=
  ['#', ',', '[', ']', '\x7b', '\x7d', '&', '*', '!', '|', '>', '\'', '"', '%', '@', '\x60']

/-- Whether marks of YAML stand in the rest of a text, `before` being the character before it. -/
def hasMarksAfter (before : Char) : List Char → Bool
  | [] => false
  | c :: rest =>
    (c == ':' && endsWord rest.head?) || (c == '#' && (isBlank before || isBreak before))
      || hasMarksAfter c rest

def hasMarks : List Char → Bool
  | [] => false
  | c :: rest =>
    leadingMarks.contains c || (['?', ':', '-'].contains c && endsWord rest.head?)
      || hasMarksAfter c rest

/-- Three marks at the start that look like those of a document. -/
def startsLikeDocument (cs : List Char) : Bool :=
  cs.take 3 == ['-', '-', '-'] || cs.take 3 == ['.', '.', '.']

/-- Whether a character of the first class stands right before one of the second. -/
def hasPair (first second : Char → Bool) : List Char → Bool
  | a :: b :: rest => (first a && second b) || hasPair first second (b :: rest)
  | _ => false

def isSpace (c : Char) : Bool :=
  c == ' '

def mayBePlain (cs : List Char) : Bool :=
  !(cs.any isBreak || cs.head?.any isSpace || cs.getLast?.any isSpace || startsLikeDocument cs
    || hasMarks cs)

def mayBeQuoted (cs : List Char) : Bool :=
  !(hasPair isBreak isSpace cs || hasPair isSpace isBreak cs) && cs.all isPlainlyWritten

def mayBeLiteral (cs : List Char) : Bool :=
  !(cs.getLast?.any isSpace || hasPair isSpace isBreak cs) && cs.all isPlainlyWritten

/-- Whether a plain scalar with this text would be read as something else, or nearly. -/
def looksOtherwise (s : String) : Bool :=
  Scalar.isZeroPadded s ||
    match Scalar.ofPlain s with
    | .ok (.string _) => false
    | _ => true

inductive ScalarStyle where
  | plain | singleQuoted | literal | doubleQuoted
  deriving DecidableEq, Repr

namespace ScalarStyle

/-- The style of a text. A text of several lines is written literally only where `lines` may
follow. -/
def ofText (lines : Bool) (s : String) : ScalarStyle :=
  let cs := s.toList
  if cs.contains '\n' then if lines && mayBeLiteral cs then .literal else .doubleQuoted
  else if !looksOtherwise s && mayBePlain cs && mayBeQuoted cs then .plain
  else if mayBeQuoted cs && (lines || !cs.any isBreak) then .singleQuoted
  else .doubleQuoted

/-! ## Texts -/

/-- Writes characters, `doubled` twice, and an indentation before each that follows a line break. -/
def writeLines (doubled : Option Char) (margin : List Char) : Bool → List Char → List Char
  | _, [] => []
  | broken, c :: rest =>
    if isBreak c then c :: writeLines doubled margin true rest
    else
      (if broken then margin else []) ++ (if doubled = some c then [c, c] else [c])
        ++ writeLines doubled margin false rest

def endsBroken (cs : List Char) : Bool :=
  cs.getLast?.any isBreak

/-- What stands behind the mark of a literal scalar: the indentation where the text does not show
it, and what becomes of the line breaks at its end. -/
def literalHints (cs : List Char) : List Char :=
  let indentation := if cs.head?.any fun c => isSpace c || isBreak c then ['2'] else []
  let ending := match cs.reverse with
    | last :: before :: _ =>
      if !isBreak last then ['-'] else if isBreak before then ['+'] else []
    | [last] => if isBreak last then ['+'] else ['-']
    | [] => ['-']
  indentation ++ ending

def hexPadded (width n : Nat) : List Char :=
  let digits := (Nat.toDigits 16 n).map Char.toUpper
  List.replicate (width - digits.length) '0' ++ digits

/-- The letter of a character that has an escape of its own. -/
def escapeLetter? (c : Char) : Option Char :=
  ['0', 'a', 'b', 't', 'n', 'v', 'f', 'r', 'e', '"', '\\', 'N', '_', 'L', 'P'].find? fun letter =>
    simpleEscape? letter == some c

def escaped (c : Char) : List Char :=
  let n := c.toNat
  '\\' :: match escapeLetter? c with
    | some letter => [letter]
    | none =>
      if n ≤ 0xFF then 'x' :: hexPadded 2 n
      else if n ≤ 0xFFFF then 'u' :: hexPadded 4 n
      else 'U' :: hexPadded 8 n

def needsEscape (c : Char) : Bool :=
  !isPlainlyWritten c || isBreak c || c == '"' || c == '\\'

/-- The text of a scalar whose further lines are indented by `margin`. -/
def write (style : ScalarStyle) (margin : List Char) (cs : List Char) : List Char :=
  match style with
  | .plain => cs
  | .singleQuoted =>
    let inner := writeLines (some '\'') margin false cs
    ['\''] ++ inner ++ (if endsBroken cs then margin else []) ++ ['\'']
  | .literal => ['|'] ++ literalHints cs ++ ['\n'] ++ writeLines none margin true cs
  | .doubleQuoted =>
    ['"'] ++ cs.flatMap (fun c => if needsEscape c then escaped c else [c]) ++ ['"']

/-- Whether the text of a scalar ends its line. -/
def endsLine (style : ScalarStyle) (cs : List Char) : Bool :=
  style == .literal && endsBroken cs

end ScalarStyle

end OpenApi.Yaml
