import OpenApi.Json.Basic
import OpenApi.Yaml.Lexer

/-!
# YAML nodes

Tokens become a tree. An alias stands for the node that its anchor names, which may be any node of
the document.
-/

namespace OpenApi.Yaml

/-- The number that the anchors of a document are known by. -/
abbrev AnchorId := Nat

/-- What may stand in front of a node. -/
structure Properties where
  anchor : Option AnchorId := none
  tag : Option String := none
  deriving DecidableEq, Repr

inductive Node where
  | alias (id : AnchorId)
  | scalar (properties : Properties) (plain : Bool) (text : String)
  | sequence (properties : Properties) (items : List Node)
  | mapping (properties : Properties) (entries : List (Node × Node))
  deriving Repr, Inhabited

namespace Node

/-- A plain scalar without a text. -/
def empty : Node := .scalar {} true ""

/-! ## Anchored nodes -/

def anchored (p : Properties) (n : Node) : List (AnchorId × Node) :=
  (p.anchor.map fun id => (id, n)).toList

mutual

/-- The nodes with an anchor, in the order in which they start. -/
def anchors : Node → List (AnchorId × Node)
  | .alias _ => []
  | .scalar p plain text => anchored p (.scalar p plain text)
  | .sequence p items => anchored p (.sequence p items) ++ anchorsOfItems items
  | .mapping p entries => anchored p (.mapping p entries) ++ anchorsOfEntries entries

def anchorsOfItems : List Node → List (AnchorId × Node)
  | [] => []
  | n :: rest => anchors n ++ anchorsOfItems rest

def anchorsOfEntries : List (Node × Node) → List (AnchorId × Node)
  | [] => []
  | (k, v) :: rest => anchors k ++ anchors v ++ anchorsOfEntries rest

end

mutual

/-- How many marks a document of the node has: one for a leaf, and two around a collection. -/
def weight : Node → Nat
  | .alias _ | .scalar .. => 1
  | .sequence _ items => 2 + weightOfItems items
  | .mapping _ entries => 2 + weightOfEntries entries

def weightOfItems : List Node → Nat
  | [] => 0
  | n :: rest => weight n + weightOfItems rest

def weightOfEntries : List (Node × Node) → Nat
  | [] => 0
  | (k, v) :: rest => weight k + weight v + weightOfEntries rest

end

/-! ## From tokens -/

/-- The tokens that are left, and the anchors so far. -/
structure Reading where
  tokens : List Token
  names : OrderedMap String AnchorId := []

abbrev Parse := StateT Reading Scan

/-- The next token. After the last it is the end. -/
def peek : Parse Token := do
  return ((← get).tokens.head?).getD .streamEnd

def skip : Parse Unit :=
  modify fun r => { r with tokens := r.tokens.drop 1 }

/-- Passes over a token, if it is next. -/
def accept (t : Token) : Parse Bool := do
  if (← peek) = t then
    skip
    return true
  else return false

def fail {α : Type} : Parse α :=
  fun _ => malformed

/-- The anchor of a name gets the number of names before it. -/
def enterAnchor (name : String) : Parse AnchorId := do
  let names := (← get).names
  modify fun r => { r with names := names.insert name names.length }
  return names.length

def alias? (name : String) : Parse Node := do
  match (← get).names.get? name with
  | some id => return .alias id
  | none => fail

/-- The starts that tag handles stand for. -/
abbrev Handles := OrderedMap String String

/-- The handles that need no directive. -/
def standardHandles : Handles :=
  [("!", "!"), ("!!", "tag:yaml.org,2002:")]

def resolveTag (handles : Handles) (t : TagName) : Parse String :=
  if t.handle.isEmpty then pure t.suffix
  else
    match handles.get? t.handle <|> standardHandles.get? t.handle with
    | some start => pure (start ++ t.suffix)
    | none => fail

def acceptAnchor : Parse (Option String) := do
  match ← peek with
  | .anchor name => do
    skip
    return some name
  | _ => return none

def acceptTag : Parse (Option TagName) := do
  match ← peek with
  | .tag name => do
    skip
    return some name
  | _ => return none

/-- An anchor and a tag, in either order. -/
def acceptProperties : Parse (Option String × Option TagName) := do
  match ← acceptAnchor with
  | some name => return (some name, ← acceptTag)
  | none =>
    match ← acceptTag with
    | some tag => return (← acceptAnchor, some tag)
    | none => return (none, none)

/-- The node whose tokens come next, or an empty one before any of `ends`. -/
def orEmpty (node : Parse Node) (ends : List Token) : Parse Node := do
  if (← peek) ∈ ends then return .empty else node

/-- The items of a block sequence from the next mark on. One without an indentation of its own has
no end mark either. -/
def blockItems (node : Parse Node) (indentless : Bool) : Nat → List Node → Parse (List Node)
  | 0, _ => fail
  | fuel + 1, items => do
    if ← accept .blockEntry then
      let ends := if indentless then [.key, .value] else []
      let item ← orEmpty node (.blockEntry :: .blockEnd :: ends)
      blockItems node indentless fuel (item :: items)
    else if indentless then return items.reverse
    else if ← accept .blockEnd then return items.reverse
    else fail

def blockEntries (node : Parse Node) : Nat → List (Node × Node) → Parse (List (Node × Node))
  | 0, _ => fail
  | fuel + 1, entries => do
    if ← accept .key then
      let key ← orEmpty node [.key, .value, .blockEnd]
      let value ← if ← accept .value then orEmpty node [.key, .value, .blockEnd] else pure .empty
      blockEntries node fuel ((key, value) :: entries)
    else if ← accept .blockEnd then return entries.reverse
    else fail

/-- The only entry of a mapping that stands for an item of a flow sequence. -/
def singleEntry (node : Parse Node) : Parse (Node × Node) := do
  let key ← if (← peek) ∈ [.value, .flowEntry, .flowSequenceEnd] then do
      skip
      pure .empty
    else node
  let value ←
    if ← accept .value then orEmpty node [.flowEntry, .flowSequenceEnd] else pure .empty
  return (key, value)

def flowItems (node : Parse Node) : Nat → Bool → List Node → Parse (List Node)
  | 0, _, _ => fail
  | fuel + 1, first, items => do
    if ← accept .flowSequenceEnd then return items.reverse
    if !first && !(← accept .flowEntry) then fail
    if ← accept .flowSequenceEnd then return items.reverse
    let item ← if ← accept .key then do pure (.mapping {} [← singleEntry node]) else node
    flowItems node fuel false (item :: items)

/-- A key of a flow mapping and its value. Without a mark before the key there is no value. -/
def flowPair (node : Parse Node) : Parse (Node × Node) := do
  if ← accept .key then
    let key ← orEmpty node [.value, .flowEntry, .flowMappingEnd]
    let value ←
      if ← accept .value then orEmpty node [.flowEntry, .flowMappingEnd] else pure .empty
    return (key, value)
  else return (← node, .empty)

def flowEntries (node : Parse Node) :
    Nat → Bool → List (Node × Node) → Parse (List (Node × Node))
  | 0, _, _ => fail
  | fuel + 1, first, entries => do
    if ← accept .flowMappingEnd then return entries.reverse
    if !first && !(← accept .flowEntry) then fail
    if ← accept .flowMappingEnd then return entries.reverse
    let entry ← flowPair node
    flowEntries node fuel false (entry :: entries)

/-- Where a node stands: in a flow collection, in a block collection, or in one where a sequence
needs no indentation. -/
inductive Place where
  | flow | block | mapping
  deriving DecidableEq

/-- A tag that only says that a scalar is no collection is dropped. -/
def scalarProperties (p : Properties) : Properties :=
  if p.tag = some "!" then { p with tag := none } else p

/-- Reads a node, with at most so many collections in each other. -/
def read (handles : Handles) : Nat → Place → Parse Node
  | 0, _ => fail
  | depth + 1, place => do
    if let .alias name ← peek then
      skip
      return ← alias? name
    let (name, tagName) ← acceptProperties
    let anchor ← name.mapM enterAnchor
    let tag ← tagName.mapM (resolveTag handles)
    let p : Properties := { anchor, tag }
    let fuel := (← get).tokens.length + 1
    match ← peek with
    | .blockEntry =>
      if place = .mapping then
        return .sequence p (← blockItems (read handles depth .block) true fuel [])
      else if name.isSome || tagName.isSome then return .scalar p true ""
      else fail
    | .scalar plain text => do
      skip
      return .scalar (scalarProperties p) plain text
    | .flowSequenceStart => do
      skip
      return .sequence p (← flowItems (read handles depth .flow) fuel true [])
    | .flowMappingStart => do
      skip
      return .mapping p (← flowEntries (read handles depth .flow) fuel true [])
    | .blockSequenceStart =>
      if place = .flow then fail
      else do
        skip
        return .sequence p (← blockItems (read handles depth .block) false fuel [])
    | .blockMappingStart =>
      if place = .flow then fail
      else do
        skip
        return .mapping p (← blockEntries (read handles depth .mapping) fuel [])
    | _ => if name.isSome || tagName.isSome then return .scalar p true "" else fail

/-! ## Documents -/

/-- The directives in front of a document. -/
structure Directives where
  version : Option (Nat × Nat) := none
  handles : Handles := []

def readDirectives : Nat → Directives → Parse Directives
  | 0, d => pure d
  | fuel + 1, d => do
    match ← peek with
    | .versionDirective major minor => do
      skip
      if d.version.isSome || major ≠ 1 || (minor ≠ 1 && minor ≠ 2) then fail
      readDirectives fuel { d with version := some (major, minor) }
    | .tagDirective handle start => do
      skip
      if d.handles.contains handle then fail
      readDirectives fuel { d with handles := d.handles.insert handle start }
    | _ => return d

/-- The node of a document after its start mark. -/
def readContent (handles : Handles) : Parse Node := do
  let tokens := (← get).tokens
  match ← peek with
  | .versionDirective .. | .tagDirective .. | .documentStart | .documentEnd | .streamEnd =>
    return .empty
  | _ => read handles tokens.length .block

def skipDocumentEnds : Nat → Parse Unit
  | 0 => pure ()
  | fuel + 1 => do
    if ← accept .documentEnd then skipDocumentEnds fuel

/-- The only document of a stream. -/
def readStream : Parse Node := do
  let fuel := (← get).tokens.length + 1
  let node ← match ← peek with
    | .streamEnd => pure .empty
    | .versionDirective .. | .tagDirective .. | .documentStart => do
      let d ← readDirectives fuel {}
      if !(← accept .documentStart) then fail
      readContent d.handles
    | _ => read [] fuel .block
  skipDocumentEnds fuel
  if (← peek) ≠ .streamEnd then fail
  return node

/-- The tree of a text with at most one document. An empty text has an empty node. -/
def ofText (s : String) : Scan Node := do
  let tokens ← Token.ofText s
  return (← (readStream.run { tokens })).1

end Node

end OpenApi.Yaml
