/-!
# Places in a YAML text

A cursor stands before the rest of a text and knows its line and column. Any of five characters ends
a line, and a carriage return with a line feed ends one line together.
-/

namespace OpenApi.Yaml

structure Cursor where
  rest : List Char
  index : Nat := 0
  line : Nat := 0
  column : Nat := 0

/-- A character that a YAML text may hold. -/
def isAllowed (c : Char) : Bool :=
  let n := c.toNat
  n == 0x9 || n == 0xA || n == 0xD || (0x20 ≤ n && n ≤ 0x7E) || n == 0x85
    || (0xA0 ≤ n && n ≤ 0xD7FF) || (0xE000 ≤ n && n ≤ 0xFFFD) || 0x10000 ≤ n

def isBlank (c : Char) : Bool :=
  c == ' ' || c == '\t'

def isBreak (c : Char) : Bool :=
  c == '\n' || c == '\r' || c == '\u0085' || c == '\u2028' || c == '\u2029'

/-- A character of a name: an ASCII letter or digit, an underscore or a hyphen. -/
def isNameChar (c : Char) : Bool :=
  c.isAlphanum || c == '_' || c == '-'

namespace Cursor

def atEnd (c : Cursor) : Bool :=
  c.rest.isEmpty

/-- The character at a distance. -/
def peek? (c : Cursor) (distance : Nat := 0) : Option Char :=
  c.rest[distance]?

/-- Whether a character stands at a distance. -/
def sees (c : Cursor) (char : Char) (distance : Nat := 0) : Bool :=
  c.peek? distance == some char

def seesAny (c : Cursor) (chars : List Char) : Bool :=
  (c.peek?).any chars.contains

def seesBlank (c : Cursor) : Bool :=
  (c.peek?).any isBlank

def seesBreak (c : Cursor) (distance : Nat := 0) : Bool :=
  (c.peek? distance).any isBreak

/-- A blank, a line break or the end. -/
def seesGap (c : Cursor) (distance : Nat := 0) : Bool :=
  (c.peek? distance).all fun char => isBlank char || isBreak char

/-- A line break or the end. -/
def seesLineEnd (c : Cursor) : Bool :=
  (c.peek?).all isBreak

/-- Passes over characters of one line. -/
def skip (c : Cursor) (count : Nat := 1) : Cursor :=
  ⟨c.rest.drop count, c.index + count, c.line, c.column + count⟩

/-- The characters of a class that stand here, none of which ends a line. -/
def take (c : Cursor) (p : Char → Bool) : List Char × Cursor :=
  let chars := c.rest.takeWhile p
  (chars, c.skip chars.length)

def skipWhile (c : Cursor) (p : Char → Bool) : Cursor :=
  (c.take p).2

/-- Reads a line break. All but the two separators of Unicode are read as line feeds. -/
def takeBreak (c : Cursor) : List Char × Cursor :=
  match c.rest with
  | '\r' :: '\n' :: rest => (['\n'], ⟨rest, c.index + 2, c.line + 1, 0⟩)
  | char :: rest =>
    if isBreak char then
      let text := if char == '\u2028' || char == '\u2029' then char else '\n'
      ([text], ⟨rest, c.index + 1, c.line + 1, 0⟩)
    else ([], c)
  | [] => ([], c)

def skipBreak (c : Cursor) : Cursor :=
  c.takeBreak.2

/-- Passes over blanks and a comment. -/
def skipToLineEnd (c : Cursor) : Cursor :=
  let c := c.skipWhile isBlank
  if c.sees '#' then c.skipWhile (!isBreak ·) else c

/-- Whether three marks that start or end a document stand here. -/
def seesDocumentMark (c : Cursor) (mark : Char) : Bool :=
  c.column == 0 && c.sees mark && c.sees mark 1 && c.sees mark 2 && c.seesGap 3

def seesAnyDocumentMark (c : Cursor) : Bool :=
  c.seesDocumentMark '-' || c.seesDocumentMark '.'

end Cursor

end OpenApi.Yaml
