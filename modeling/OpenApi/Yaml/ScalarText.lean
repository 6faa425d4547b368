import OpenApi.Yaml.Cursor

/-!
# Texts of scalars

How plain, quoted and block scalars are read. Line breaks within a scalar are folded: a single one
becomes a blank, and of several the first is dropped. A block scalar keeps its breaks when it is
literal, and around lines that start with a blank.
-/

namespace OpenApi.Yaml

/-- The text is no YAML. Its wording is nobody's concern. -/
inductive Malformed where
  | malformed
  deriving DecidableEq, Repr

abbrev Scan := Except Malformed

def malformed {α : Type} : Scan α :=
  .error .malformed

/-! ## Gaps between words -/

/-- Blanks and line breaks between two words. Blanks beside a line break do not count. -/
structure Gap where
  blanks : List Char := []
  broken : Bool := false
  firstBreak : List Char := []
  otherBreaks : List Char := []

/-- What a gap contributes to a text. -/
def Gap.text (g : Gap) : List Char :=
  if !g.broken then g.blanks
  else if g.firstBreak == ['\n'] then
    if g.otherBreaks.isEmpty then [' '] else g.otherBreaks
  else g.firstBreak ++ g.otherBreaks

/-- Reads a gap. A tab may not stand before the column `indent` of a later line. -/
def readGap (indent : Nat) : Nat → Gap → Cursor → Scan (Gap × Cursor)
  | 0, g, c => .ok (g, c)
  | fuel + 1, g, c =>
    if c.seesBlank then
      if g.broken && c.column < indent && c.sees '\t' then malformed
      else if g.broken then readGap indent fuel g c.skip
      else readGap indent fuel { g with blanks := g.blanks ++ c.rest.take 1 } c.skip
    else if c.seesBreak then
      let (text, c) := c.takeBreak
      if g.broken then readGap indent fuel { g with otherBreaks := g.otherBreaks ++ text } c
      else readGap indent fuel { g with broken := true, firstBreak := text } c
    else .ok (g, c)

/-! ## Plain scalars -/

def flowMarks : List Char :=
  [',', '[', ']', '\x7b', '\x7d']

/-- Reads a word of a plain scalar, in reverse onto `word`. -/
def readPlainWord (inFlow : Bool) : Nat → List Char → Cursor → Scan (List Char × Cursor)
  | 0, word, c => .ok (word, c)
  | fuel + 1, word, c =>
    match c.peek? with
    | none => .ok (word, c)
    | some char =>
      if isBlank char || isBreak char then .ok (word, c)
      else if inFlow && char == ':' && (c.peek? 1).any ('?' :: flowMarks).contains then malformed
      else if (char == ':' && c.seesGap 1) || (inFlow && flowMarks.contains char) then .ok (word, c)
      else readPlainWord inFlow fuel (char :: word) c.skip

/-- Reads a plain scalar, in reverse onto `text`. The last answer says whether it ended after a line
break. -/
def readPlain (inFlow : Bool) (indent : Nat) :
    Nat → List Char → Gap → Cursor → Scan (List Char × Cursor × Bool)
  | 0, text, gap, c => .ok (text, c, gap.broken)
  | fuel + 1, text, gap, c => do
    if c.seesAnyDocumentMark || c.sees '#' then return (text, c, gap.broken)
    let (word, c) ← readPlainWord inFlow (c.rest.length + 1) [] c
    let (text, gap) :=
      if word.isEmpty then (text, gap) else (word ++ gap.text.reverse ++ text, {})
    if c.seesBlank || c.seesBreak then
      let (gap, c) ← readGap indent (c.rest.length + 1) {} c
      if !inFlow && c.column < indent then return (text, c, gap.broken)
      readPlain inFlow indent fuel text gap c
    else return (text, c, gap.broken)

/-! ## Quoted scalars -/

def hexValue? (digits : List Char) : Option Nat :=
  digits.foldlM (fun n d => do
    let v := d.toNat
    if d.isDigit then some (n * 16 + (v - '0'.toNat))
    else if 'a' ≤ d && d ≤ 'f' then some (n * 16 + (v - 'a'.toNat + 10))
    else if 'A' ≤ d && d ≤ 'F' then some (n * 16 + (v - 'A'.toNat + 10))
    else none) 0

/-- The character of an escape with a single letter. -/
def simpleEscape? (letter : Char) : Option Char :=
  match letter with
  | '0' => some '\x00'
  | 'a' => some '\x07'
  | 'b' => some '\x08'
  | 't' | '\t' => some '\t'
  | 'n' => some '\n'
  | 'v' => some '\x0b'
  | 'f' => some '\x0c'
  | 'r' => some '\r'
  | 'e' => some '\x1b'
  | ' ' | '"' | '/' | '\\' => some letter
  | 'N' => some '\u0085'
  | '_' => some '\u00a0'
  | 'L' => some '\u2028'
  | 'P' => some '\u2029'
  | _ => none

/-- How many digits follow the letter of a numeric escape. -/
def escapeWidth? (letter : Char) : Option Nat :=
  match letter with
  | 'x' => some 2
  | 'u' => some 4
  | 'U' => some 8
  | _ => none

/-- Reads an escape from its backslash on. -/
def readEscape (c : Cursor) : Scan (Char × Cursor) := do
  let some letter := c.peek? 1 | malformed
  match simpleEscape? letter with
  | some char => return (char, c.skip 2)
  | none =>
    let some width := escapeWidth? letter | malformed
    let c := c.skip 2
    let digits := c.rest.take width
    let some code := hexValue? digits | malformed
    if digits.length < width || (0xD800 ≤ code && code ≤ 0xDFFF) || 0x10FFFF < code then malformed
    else return (Char.ofNat code, c.skip width)

def quoteMark (single : Bool) : Char :=
  if single then '\'' else '"'

/-- Reads a word of a quoted scalar, in reverse onto `word`. The last answer says whether it ended
in an escaped line break, which joins the lines without a blank. -/
def readQuotedWord (single : Bool) :
    Nat → List Char → Cursor → Scan (List Char × Cursor × Bool)
  | 0, word, c => .ok (word, c, false)
  | fuel + 1, word, c =>
    match c.peek? with
    | none => .ok (word, c, false)
    | some char =>
      if isBlank char || isBreak char then .ok (word, c, false)
      else if single && char == '\'' && c.sees '\'' 1 then
        readQuotedWord single fuel ('\'' :: word) (c.skip 2)
      else if char == quoteMark single then .ok (word, c, false)
      else if !single && char == '\\' then
        if c.seesBreak 1 then .ok (word, c.skip.skipBreak, true)
        else do
          let (char, c) ← readEscape c
          readQuotedWord single fuel (char :: word) c
      else readQuotedWord single fuel (char :: word) c.skip

/-- Reads a quoted scalar after its opening quote, in reverse onto `text`. -/
def readQuoted (single : Bool) : Nat → List Char → Cursor → Scan (List Char × Cursor)
  | 0, _, _ => malformed
  | fuel + 1, text, c => do
    if c.seesAnyDocumentMark || c.atEnd then malformed
    let (text, c, joined) ← readQuotedWord single (c.rest.length + 1) text c
    if c.sees (quoteMark single) then return (text, c.skip)
    let (gap, c) ← readGap 0 (c.rest.length + 1) { broken := joined } c
    readQuoted single fuel (gap.text.reverse ++ text) c

/-! ## Block scalars -/

/-- What becomes of the line breaks at the end. -/
inductive Chomping where
  | strip | clip | keep
  deriving DecidableEq

/-- Reads a chomping mark. -/
def readChomping (c : Cursor) : Option Chomping × Cursor :=
  if c.sees '+' then (some .keep, c.skip)
  else if c.sees '-' then (some .strip, c.skip)
  else (none, c)

/-- Reads a width of indentation. -/
def readIncrement (c : Cursor) : Scan (Option Nat × Cursor) :=
  match c.peek? with
  | some '0' => malformed
  | some d => if d.isDigit then .ok (some (d.toNat - '0'.toNat), c.skip) else .ok (none, c)
  | none => .ok (none, c)

/-- The marks after the indicator, in either order. -/
def readBlockHeader (c : Cursor) : Scan (Chomping × Option Nat × Cursor) := do
  let (chomping, c) := readChomping c
  let (increment, c) ← readIncrement c
  let (chomping, c) :=
    if chomping.isSome || increment.isNone then (chomping, c) else readChomping c
  let c := c.skipToLineEnd
  if !c.seesLineEnd then malformed
  return (chomping.getD .clip, increment, c.skipBreak)

/-- Reads empty lines and the indentation of the line after them. Until the indentation is known,
the deepest of the lines counts. -/
def readBlockBreaks (indent : Option Nat) :
    Nat → Nat → List Char → Cursor → Scan (Nat × List Char × Cursor)
  | 0, deepest, breaks, c => .ok (deepest, breaks, c)
  | fuel + 1, deepest, breaks, c =>
    let room := match indent with
      | none => c.rest.length
      | some indent => indent - c.column
    let c := c.skip ((c.rest.take room).takeWhile (· == ' ')).length
    let deepest := max deepest c.column
    if (indent.all fun indent => c.column < indent) && c.sees '\t' then malformed
    else if c.seesBreak then
      let (text, c) := c.takeBreak
      readBlockBreaks indent fuel deepest (breaks ++ text) c
    else .ok (deepest, breaks, c)

/-- The lines of a block scalar read so far. -/
structure BlockText where
  /-- In reverse. -/
  text : List Char := []
  leadingBreak : List Char := []
  trailingBreaks : List Char := []
  leadingBlank : Bool := false

/-- Reads the lines that stand at the indentation. -/
def readBlockLines (literal : Bool) (indent : Nat) :
    Nat → BlockText → Cursor → Scan (BlockText × Cursor)
  | 0, b, c => .ok (b, c)
  | fuel + 1, b, c => do
    if c.column ≠ indent || c.atEnd then return (b, c)
    let startsBlank := c.seesBlank
    let folds := !literal && b.leadingBreak == ['\n'] && !b.leadingBlank && !startsBlank
    let joint :=
      if folds then if b.trailingBreaks.isEmpty then [' '] else b.trailingBreaks
      else b.leadingBreak ++ b.trailingBreaks
    let (line, c) := c.take (!isBreak ·)
    let (leadingBreak, c) := c.takeBreak
    let (_, trailingBreaks, c) ← readBlockBreaks (some indent) (c.rest.length + 1) 0 [] c
    readBlockLines literal indent fuel
      ⟨line.reverse ++ joint.reverse ++ b.text, leadingBreak, trailingBreaks, startsBlank⟩ c

/-- Reads a block scalar after its indicator, within a block whose indentation is one less than
`outer`. -/
def readBlock (literal : Bool) (outer : Nat) (c : Cursor) : Scan (List Char × Cursor) := do
  let (chomping, increment, c) ← readBlockHeader c
  let given := increment.map (· + (outer - 1))
  let (deepest, breaks, c) ← readBlockBreaks given (c.rest.length + 1) 0 [] c
  let indent := given.getD (max (max deepest outer) 1)
  let (b, c) ← readBlockLines literal indent (c.rest.length + 1) { trailingBreaks := breaks } c
  let tail := match chomping with
    | .strip => []
    | .clip => b.leadingBreak
    | .keep => b.leadingBreak ++ b.trailingBreaks
  return (b.text.reverse ++ tail, c)

end OpenApi.Yaml
