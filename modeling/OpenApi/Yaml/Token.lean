import OpenApi.Yaml.ScalarText

/-!
# YAML tokens

Block collections have tokens of their own for where they start and end; the text marks these by its
indentation alone.
-/

namespace OpenApi.Yaml

/-- A tag as it is written: a handle and what follows it. A tag that is written whole has an empty
handle. -/
structure TagName where
  handle : String
  suffix : String
  deriving DecidableEq, Repr

inductive Token where
  | versionDirective (major minor : Nat)
  | tagDirective (handle start : String)
  | documentStart
  | documentEnd
  | streamEnd
  | blockSequenceStart
  | blockMappingStart
  | blockEnd
  | flowSequenceStart
  | flowSequenceEnd
  | flowMappingStart
  | flowMappingEnd
  | blockEntry
  | flowEntry
  | key
  | value
  | alias (name : String)
  | anchor (name : String)
  | tag (name : TagName)
  | scalar (plain : Bool) (text : String)
  deriving DecidableEq, Repr

/-! ## Anchors and aliases -/

/-- Characters that may follow a name. -/
def nameEnds : List Char :=
  ['?', ':', ',', ']', '\x7d', '%', '@', '\x60']

/-- Reads the name of an anchor or an alias after its mark. -/
def readName (c : Cursor) : Scan (String × Cursor) := do
  let (name, c) := c.skip.take isNameChar
  if name.isEmpty || !(c.seesGap || c.seesAny nameEnds) then malformed
  return (String.ofList name, c)

/-! ## Tags -/

/-- Characters of a tag besides those of names. -/
def tagMarks : List Char :=
  [';', '/', '?', ':', '@', '&', '=', '+', '$', '.', '!', '~', '*', '\'', '(', ')', '%']

/-- A character of a tag. One that is written whole may also hold marks of flow collections. -/
def isTagChar (whole : Bool) (char : Char) : Bool :=
  isNameChar char || tagMarks.contains char || (whole && [',', '[', ']'].contains char)

/-- How many bytes a character has whose first byte is this one. -/
def widthOfLead (lead : Nat) : Nat :=
  if lead < 0x80 then 1
  else if lead / 0x20 = 6 then 2
  else if lead / 0x10 = 14 then 3
  else if lead / 8 = 30 then 4
  else 0

/-- The byte of an escape such as `%41` at the front. -/
def takeOctet : List Char → Scan (Nat × List Char)
  | '%' :: a :: b :: rest =>
    match hexValue? [a, b] with
    | some n => .ok (n, rest)
    | none => malformed
  | _ => malformed

/-- The bytes that continue a character, as bits on the right of `bits`. -/
def takeContinuation : Nat → Nat → List Char → Scan (Nat × List Char)
  | 0, bits, cs => .ok (bits, cs)
  | count + 1, bits, cs => do
    let (octet, cs) ← takeOctet cs
    if octet / 0x40 ≠ 2 then malformed
    takeContinuation count (bits * 0x40 + octet % 0x40) cs

/-- The character of the escapes at the front. -/
def takeEscaped (cs : List Char) : Scan (Char × List Char) := do
  let (lead, cs) ← takeOctet cs
  let width := widthOfLead lead
  if width = 0 then malformed
  let bits := if width = 1 then lead else lead % Nat.pow 2 (7 - width)
  let (code, cs) ← takeContinuation (width - 1) bits cs
  return (Char.ofNat code, cs)

/-- Resolves the escapes of a tag. -/
def unescapeTag : Nat → List Char → Scan (List Char)
  | 0, _ | _, [] => .ok []
  | fuel + 1, '%' :: rest => do
    let (char, rest) ← takeEscaped ('%' :: rest)
    return char :: (← unescapeTag fuel rest)
  | fuel + 1, char :: rest => do return char :: (← unescapeTag fuel rest)

/-- Reads what follows a tag's handle. -/
def readTagText (whole : Bool) (c : Cursor) : Scan (String × Cursor) := do
  let (text, c) := c.take (isTagChar whole)
  return (String.ofList (← unescapeTag text.length text), c)

/-- Reads a handle: a mark, perhaps with a name and another mark. -/
def readHandle (c : Cursor) : Scan (String × Cursor) := do
  if !c.sees '!' then malformed
  let (name, c) := c.skip.take isNameChar
  let name := "!" ++ String.ofList name
  return if c.sees '!' then (name ++ "!", c.skip) else (name, c)

/-- A handle with a mark at either end. -/
def isNamedHandle (handle : String) : Bool :=
  handle ≠ "!" && handle.endsWith "!"

/-- Reads a tag up to what may follow it. -/
def readTagName (c : Cursor) : Scan (TagName × Cursor) := do
  if c.sees '<' 1 then
    let (text, c) ← readTagText true (c.skip 2)
    if text.isEmpty || !c.sees '>' then malformed
    return (⟨"", text⟩, c.skip)
  else
    let (handle, c) ← readHandle c
    let (text, c) ← readTagText false c
    if isNamedHandle handle then
      if text.isEmpty then malformed
      return (⟨handle, text⟩, c)
    else
      let text := String.ofList (handle.toList.drop 1) ++ text
      return (if text.isEmpty then ⟨"", "!"⟩ else ⟨"!", text⟩, c)

/-- Reads a tag. -/
def readTag (inFlow : Bool) (c : Cursor) : Scan (TagName × Cursor) := do
  let (name, c) ← readTagName c
  if !(c.seesGap || (inFlow && c.sees ',')) then malformed
  return (name, c)

/-! ## Directives -/

/-- Reads a number of at most nine digits. -/
def readVersionNumber (c : Cursor) : Scan (Nat × Cursor) := do
  let (digits, c) := c.take Char.isDigit
  if digits.isEmpty || 9 < digits.length then malformed
  return (Nat.ofDigitChars 10 digits 0, c)

def readVersion (c : Cursor) : Scan (Token × Cursor) := do
  let (major, c) ← readVersionNumber (c.skipWhile isBlank)
  if !c.sees '.' then malformed
  let (minor, c) ← readVersionNumber c.skip
  return (.versionDirective major minor, c)

def readTagDirective (c : Cursor) : Scan (Token × Cursor) := do
  let (handle, c) ← readHandle (c.skipWhile isBlank)
  if !(handle = "!" || isNamedHandle handle) || !c.seesBlank then malformed
  let (start, c) ← readTagText true (c.skipWhile isBlank)
  if start.isEmpty || !c.seesGap then malformed
  return (.tagDirective handle start, c)

/-- Reads a directive with its line. -/
def readDirective (c : Cursor) : Scan (Token × Cursor) := do
  let (name, c) := c.skip.take isNameChar
  if !c.seesGap then malformed
  let (token, c) ← match String.ofList name with
    | "YAML" => readVersion c
    | "TAG" => readTagDirective c
    | _ => malformed
  let c := c.skipToLineEnd
  if !c.seesLineEnd then malformed
  return (token, c.skipBreak)

end OpenApi.Yaml
