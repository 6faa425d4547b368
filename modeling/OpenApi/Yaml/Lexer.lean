import OpenApi.Yaml.Token

/-!
# Reading tokens

A text becomes tokens from left to right. A key of a mapping is only known for one when the colon
behind it is read: where a key may stand, its place among the tokens is remembered, and its mark is
put there later.
-/

namespace OpenApi.Yaml

/-- A place where a key may have started. -/
structure PendingKey where
  /-- How many tokens stand before it. -/
  place : Nat
  index : Nat
  line : Nat
  column : Nat
  /-- It starts a line of a block mapping, so nothing but a key may stand there. -/
  required : Bool

structure Lexer where
  cursor : Cursor
  tokens : Array Token := #[]
  /-- The column of the current block collection, after those around it. -/
  indent : Int := -1
  outer : List Int := []
  keyAllowed : Bool := true
  /-- The place of a key in the current flow collection, or outside of any. -/
  pending : Option PendingKey := none
  /-- The same for the flow collections around it, the innermost first. -/
  enclosing : List (Option PendingKey) := []

namespace Lexer

def inFlow (l : Lexer) : Bool :=
  !l.enclosing.isEmpty

def push (l : Lexer) (t : Token) : Lexer :=
  { l with tokens := l.tokens.push t }

/-- Passes over the mark of a token. -/
def pushMark (l : Lexer) (t : Token) (width : Nat := 1) : Lexer :=
  { l with tokens := l.tokens.push t, cursor := l.cursor.skip width }

/-! ## Indentation -/

/-- Starts a block collection at a column further to the right; its token goes to `place`. -/
def indentTo (l : Lexer) (column : Nat) (place : Nat) (t : Token) : Lexer :=
  if l.inFlow || (column : Int) ≤ l.indent then l
  else { l with
    outer := l.indent :: l.outer
    indent := column
    tokens := l.tokens.insertIdxIfInBounds place t }

/-- Ends the block collections that stand further to the right than a column. -/
def dedentFrom (column : Int) : Int → List Int → Array Token → Int × List Int × Array Token
  | indent, [], tokens => (indent, [], tokens)
  | indent, next :: outer, tokens =>
    if column < indent then dedentFrom column next outer (tokens.push .blockEnd)
    else (indent, next :: outer, tokens)

def dedentTo (l : Lexer) (column : Int) : Lexer :=
  if l.inFlow then l
  else
    let (indent, outer, tokens) := dedentFrom column l.indent l.outer l.tokens
    { l with indent, outer, tokens }

/-! ## Keys -/

/-- Gives up a place, which must not be a required one. -/
def dropPending (l : Lexer) : Scan Lexer :=
  if l.pending.any (·.required) then malformed else .ok { l with pending := none }

/-- Remembers that a key may start here. -/
def savePending (l : Lexer) : Scan Lexer :=
  if !l.keyAllowed then .ok l
  else do
    let l ← l.dropPending
    let c := l.cursor
    return { l with pending := some {
      place := l.tokens.size
      index := c.index
      line := c.line
      column := c.column
      required := !l.inFlow && l.indent == c.column } }

/-- A key stands on one line and is not longer than this. -/
def longestKey : Nat := 1024

def PendingKey.isStale (k : PendingKey) (c : Cursor) : Bool :=
  k.line < c.line || k.index + longestKey < c.index

/-- Gives up a place if its key would be too long. -/
def refreshed (c : Cursor) : Option PendingKey → Scan (Option PendingKey)
  | some k =>
    if PendingKey.isStale k c then if k.required then malformed else .ok none else .ok (some k)
  | none => .ok none

def refreshPending (l : Lexer) : Scan Lexer := do
  return { l with
    pending := ← refreshed l.cursor l.pending
    enclosing := ← l.enclosing.mapM (refreshed l.cursor) }

/-! ## Between tokens -/

/-- The byte order mark, which may start a text. -/
def byteOrderMark : Char := '\ufeff'

def skipGap : Nat → Lexer → Lexer
  | 0, l => l
  | fuel + 1, l =>
    let c := if l.cursor.index = 0 && l.cursor.sees byteOrderMark then l.cursor.skip else l.cursor
    let c := c.skipWhile fun char => char == ' ' || ((l.inFlow || !l.keyAllowed) && char == '\t')
    let c := if c.sees '#' then c.skipWhile (!isBreak ·) else c
    if c.seesBreak then
      skipGap fuel { l with cursor := c.skipBreak, keyAllowed := l.keyAllowed || !l.inFlow }
    else { l with cursor := c }

/-! ## Tokens -/

def flowStart (l : Lexer) (t : Token) : Scan Lexer := do
  let l ← l.savePending
  let l := { l with enclosing := l.pending :: l.enclosing, pending := none, keyAllowed := true }
  return l.pushMark t

def flowEnd (l : Lexer) (t : Token) : Scan Lexer := do
  let l ← l.dropPending
  let l := match l.enclosing with
    | [] => l
    | pending :: enclosing => { l with pending, enclosing }
  return { l with keyAllowed := false }.pushMark t

def flowEntry (l : Lexer) : Scan Lexer := do
  let l ← l.dropPending
  return { l with keyAllowed := true }.pushMark .flowEntry

/-- Starts a block collection for a mark that stands outside of flow collections, where that is
possible. -/
def blockStart (l : Lexer) (t : Token) : Scan Lexer :=
  if l.inFlow then .ok l
  else if !l.keyAllowed then malformed
  else .ok (l.indentTo l.cursor.column l.tokens.size t)

def blockEntry (l : Lexer) : Scan Lexer := do
  let l ← l.blockStart .blockSequenceStart
  let l ← l.dropPending
  return { l with keyAllowed := true }.pushMark .blockEntry

def key (l : Lexer) : Scan Lexer := do
  let l ← l.blockStart .blockMappingStart
  let l ← l.dropPending
  return { l with keyAllowed := !l.inFlow }.pushMark .key

def value (l : Lexer) : Scan Lexer :=
  match l.pending with
  | some k =>
    let l := { l with tokens := l.tokens.insertIdxIfInBounds k.place .key }
    let l := l.indentTo k.column k.place .blockMappingStart
    .ok ({ l with pending := none, keyAllowed := false }.pushMark .value)
  | none => do
    let l ← l.blockStart .blockMappingStart
    return { l with keyAllowed := !l.inFlow }.pushMark .value

/-- Reads a token that may be or start a key, and that no other key follows at once. -/
def content (l : Lexer) (read : Cursor → Scan (Token × Cursor)) : Scan Lexer := do
  let l ← l.savePending
  let (t, cursor) ← read l.cursor
  return { l with cursor, tokens := l.tokens.push t, keyAllowed := false }

def quotedScalar (single : Bool) (c : Cursor) : Scan (Token × Cursor) := do
  let (text, c) ← readQuoted single (c.rest.length + 1) [] c.skip
  return (.scalar false (String.ofList text.reverse), c)

def plainScalar (l : Lexer) : Scan Lexer := do
  let l ← l.savePending
  let c := l.cursor
  let (text, cursor, broken) ← readPlain l.inFlow (l.indent + 1).toNat (c.rest.length + 1) [] {} c
  return { l with
    cursor
    tokens := l.tokens.push (.scalar true (String.ofList text.reverse))
    keyAllowed := broken }

def blockScalar (l : Lexer) (literal : Bool) : Scan Lexer := do
  let l ← l.dropPending
  let (text, cursor) ← readBlock literal (l.indent + 1).toNat l.cursor.skip
  return { l with
    cursor
    tokens := l.tokens.push (.scalar false (String.ofList text))
    keyAllowed := true }

/-- Ends all block collections before a mark that stands outside of them. -/
def endBlocks (l : Lexer) : Scan Lexer := do
  let l ← (l.dedentTo (-1)).dropPending
  return { l with keyAllowed := false }

def directive (l : Lexer) : Scan Lexer := do
  let l ← l.endBlocks
  let (t, cursor) ← readDirective l.cursor
  return { l with cursor, tokens := l.tokens.push t }

def documentMark (l : Lexer) (t : Token) : Scan Lexer := do
  return (← l.endBlocks).pushMark t 3

/-- Characters that no plain scalar starts with, the first three unless more of a word follows. -/
def indicators : List Char :=
  ['-', '?', ':', ',', '[', ']', '\x7b', '\x7d', '#', '&', '*', '!', '|', '>', '\'', '"', '%', '@',
    '\x60']

/-- Whether a plain scalar starts here. -/
def seesPlain (l : Lexer) : Bool :=
  let c := l.cursor
  !(c.seesGap || c.seesAny indicators)
    || (c.sees '-' && !(c.peek? 1).any isBlank)
    || (!l.inFlow && (c.sees '?' || c.sees ':') && !c.seesGap 1)

/-- Reads the token at the cursor, which is not at the end. -/
def token (l : Lexer) : Scan Lexer :=
  let c := l.cursor
  if c.column == 0 && c.sees '%' then l.directive
  else if c.seesDocumentMark '-' then l.documentMark .documentStart
  else if c.seesDocumentMark '.' then l.documentMark .documentEnd
  else if c.sees '[' then l.flowStart .flowSequenceStart
  else if c.sees '\x7b' then l.flowStart .flowMappingStart
  else if c.sees ']' then l.flowEnd .flowSequenceEnd
  else if c.sees '\x7d' then l.flowEnd .flowMappingEnd
  else if c.sees ',' then l.flowEntry
  else if c.sees '-' && c.seesGap 1 then l.blockEntry
  else if c.sees '?' && (l.inFlow || c.seesGap 1) then l.key
  else if c.sees ':' && (l.inFlow || c.seesGap 1) then l.value
  else if c.sees '*' then l.content fun c => (readName c).map fun (name, c) => (.alias name, c)
  else if c.sees '&' then l.content fun c => (readName c).map fun (name, c) => (.anchor name, c)
  else if c.sees '!' then
    l.content fun c => (readTag l.inFlow c).map fun (name, c) => (.tag name, c)
  else if c.sees '|' && !l.inFlow then l.blockScalar true
  else if c.sees '>' && !l.inFlow then l.blockScalar false
  else if c.sees '\'' then l.content (quotedScalar true)
  else if c.sees '"' then l.content (quotedScalar false)
  else if l.seesPlain then l.plainScalar
  else malformed

/-- Reads tokens to the end. -/
def run : Nat → Lexer → Scan (Array Token)
  | 0, _ => malformed
  | fuel + 1, l => do
    let l ← (l.skipGap (l.cursor.rest.length + 1)).refreshPending
    let l := l.dedentTo l.cursor.column
    if l.cursor.atEnd then
      let l ← l.endBlocks
      return l.tokens.push .streamEnd
    else run fuel (← l.token)

end Lexer

namespace Token

/-- The tokens of a text. -/
def ofText (s : String) : Scan (List Token) :=
  let cs := s.toList
  if cs.all isAllowed then (Lexer.run (cs.length + 2) { cursor := ⟨cs, 0, 0, 0⟩ }).map Array.toList
  else malformed

end Token

end OpenApi.Yaml
