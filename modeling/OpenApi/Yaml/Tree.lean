import OpenApi.Yaml.Node
import OpenApi.Yaml.Scalar

/-!
# Trees of values

A tree is walked from its root, through its aliases. Aliases may lead back to where they stand, so
a walk passes through only so many of them, and through only so many collections in each other.
-/

namespace OpenApi.Yaml.Node

/-- How many collections may stand in each other. -/
def deepest : Nat := 128

/-- How many aliases a walk may pass for each mark of its document. -/
def aliasesPerMark : Nat := 100

/-- The anchored nodes of a document. -/
abbrev Targets := List (AnchorId × Node)

/-- A step of a walk, which knows how many aliases it may still pass. -/
abbrev Walk := StateT Nat Scan

def stop {α : Type} : Walk α :=
  fun _ => malformed

/-- The node that stands here or that an alias leads to. Of two nodes with one anchor it is the
later. -/
def follow (targets : Targets) : Node → Walk Node
  | .alias id => do
    match ← get, targets.reverse.find? (·.1 == id) with
    | left + 1, some (_, n) => do
      set left
      return n
    | _, _ => stop
  | n => pure n

/-- The text of a scalar, whatever its tag. -/
def scalarText (targets : Targets) (n : Node) : Walk String := do
  match ← follow targets n with
  | .scalar _ _ text => return text
  | _ => stop

/-- The value of a node, `below` walking the nodes in it if there may be any. -/
def jsonWith (targets : Targets) (below : Option (Node → Walk Json)) (n : Node) : Walk Json := do
  match ← follow targets n, below with
  | .scalar p plain text, _ => return ← Scalar.value p.tag plain text
  | .sequence p items, some below =>
    if p.tag.any Scalar.isLocalTag then stop
    return .array (← items.mapM below)
  | .mapping p entries, some below =>
    if p.tag.any Scalar.isLocalTag then stop
    let fields ← entries.mapM fun (k, v) => return (← scalarText targets k, ← below v)
    return .object (OrderedMap.ofList fields)
  | _, _ => stop

def jsonWithin (targets : Targets) : Nat → Node → Walk Json
  | 0 => jsonWith targets none
  | depth + 1 => jsonWith targets (some (jsonWithin targets depth))

/-- Walks a document. -/
def walk {α : Type} (root : Node) (step : Targets → Nat → Node → Walk α) : Scan α := do
  return (← (step root.anchors deepest root).run (aliasesPerMark * root.weight)).1

def toJson (root : Node) : Scan Json :=
  root.walk jsonWithin

end OpenApi.Yaml.Node
