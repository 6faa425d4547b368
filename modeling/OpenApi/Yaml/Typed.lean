import OpenApi.Yaml.Tree

/-!
# Typed parts of a tree

Readers of texts, maps and records out of a tree. A text may be any scalar, whatever it looks like.
A record is a mapping, whose unknown keys are passed over.
-/

namespace OpenApi.Yaml.Typed

open Node

variable {α σ : Type}

abbrev Reader (α : Type) := Targets → Node → Walk α

def text : Reader String :=
  scalarText

/-- A plain scalar that stands for nothing. -/
def isNothing (tag : Option String) (s : String) : Walk Bool :=
  match tag with
  | none => pure (s.isEmpty || Scalar.isNull s)
  | some tag =>
    if tag = Scalar.coreTags ++ "null" then if Scalar.isNull s then pure true else stop
    else pure false

def optional (read : Reader α) : Reader (Option α) := fun targets n => do
  let n ← follow targets n
  match n with
  | .scalar p true s =>
    if ← isNothing p.tag s then return none
    else return some (← read targets n)
  | _ => return some (← read targets n)

/-- The keys and values of a mapping. An empty plain scalar has none. -/
def entries : Reader (List (String × Node)) := fun targets n => do
  match ← follow targets n with
  | .mapping _ pairs => pairs.mapM fun (k, v) => return (← scalarText targets k, v)
  | .scalar _ true "" => return []
  | _ => stop

def map (read : Reader α) : Reader (OrderedMap String α) := fun targets n => do
  let pairs ← (← entries targets n).mapM fun (k, v) => return (k, ← read targets v)
  return OrderedMap.ofList pairs

/-- Reads a record, whose fields `set` knows by their names. No field may stand twice. -/
def record (set : String → Option (σ → Targets → Node → Walk σ)) (start : σ) : Reader σ :=
  fun targets n => do
    let known := (← entries targets n).filter fun (key, _) => (set key).isSome
    if ¬(OrderedMap.keys known).Nodup then stop
    known.foldlM (fun r (key, v) =>
      match set key with
      | some f => f r targets v
      | none => pure r) start

/-- The part of a tag after its mark. -/
def variantOfTag (tag : String) : String :=
  if tag = "!" then tag else String.ofList (tag.toList.drop 1)

/-- One of some words. The word may stand as a tag of the document's own, with nothing behind it. -/
def word (words : List (String × α)) : Reader α := fun targets n => do
  let name ← match ← follow targets n with
    | .scalar ⟨_, some tag⟩ plain s =>
      if !Scalar.isLocalTag tag then pure s
      else if plain && (s.isEmpty || Scalar.isNull s) then pure (variantOfTag tag)
      else stop
    | .scalar _ _ s => pure s
    | _ => stop
  match OrderedMap.get? words name with
  | some a => return a
  | none => stop

/-- Reads a document. -/
def readText (read : Reader α) (s : String) : Scan α := do
  let root ← Node.ofText s
  root.walk fun targets _ n => read targets n

end OpenApi.Yaml.Typed
