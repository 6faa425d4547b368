import OpenApi.Json.Basic
import OpenApi.Text.Quoted

/-!
# Typed parts of a JSON value

Readers of texts, lists, maps and records out of a value. A record is an object whose unknown keys
are passed over, or an array of its fields in their declared order. The first fault in the order of
the value's own fields is the one that is told.
-/

namespace OpenApi.Json

/-- Why a value is not of a type. -/
inductive Mismatch where
  | wrongType (found : Json) (expected : String)
  | wrongLength (length : Nat) (expected : String)
  | missingField (name : String)
  /-- No alternative of the named choice fits. -/
  | noAlternative (choice : String)

/-- What a message calls a value. -/
def describe : Json → String
  | .null => "null"
  | .bool b => s!"boolean `{b}`"
  | .number (.integer n) => s!"integer `{n}`"
  | .number (.double d) => s!"floating point `{Number.renderDouble d}`"
  | .string s => s!"string {Text.quoted s}"
  | .array _ => "sequence"
  | .object _ => "map"

def Mismatch.message : Mismatch → String
  | .wrongType found expected => s!"invalid type: {found.describe}, expected {expected}"
  | .wrongLength length expected => s!"invalid length {length}, expected {expected}"
  | .missingField name => s!"missing field `{name}`"
  | .noAlternative choice => s!"data did not match any variant of untagged enum {choice}"

namespace Typed

variable {α σ : Type}

def text : Json → Except Mismatch String
  | .string s => .ok s
  | v => .error (.wrongType v "a string")

def flag : Json → Except Mismatch Bool
  | .bool b => .ok b
  | v => .error (.wrongType v "a boolean")

/-- Nothing for null. -/
def optional (read : Json → Except Mismatch α) : Json → Except Mismatch (Option α)
  | .null => .ok none
  | v => (read v).map some

def list (read : Json → Except Mismatch α) : Json → Except Mismatch (List α)
  | .array items => items.mapM read
  | v => .error (.wrongType v "a sequence")

def map (read : Json → Except Mismatch α) : Json → Except Mismatch (OrderedMap String α)
  | .object fields => fields.mapM fun (key, v) => return (key, ← read v)
  | v => .error (.wrongType v "a map")

/-- A choice of alternatives, whose own faults are not told. -/
def choice (name : String) (read? : Json → Option α) (v : Json) : Except Mismatch α :=
  match read? v with
  | some a => .ok a
  | none => .error (.noAlternative name)

/-- How a record is read: its name, its fields in order, how many of them lead an array at least,
and what a field's value does to the record read so far. -/
structure Layout (σ : Type) where
  name : String
  fields : List String
  required : Nat
  set : String → Json → σ → Except Mismatch σ

/-- What is expected of an array that is too short. -/
def Layout.elements (layout : Layout σ) : String :=
  let n := layout.fields.length
  s!"struct {layout.name} with {n} element" ++ if n = 1 then "" else "s"

def record (layout : Layout σ) (start : σ) : Json → Except Mismatch σ
  | .object fields =>
    fields.foldlM (fun r (key, v) => if key ∈ layout.fields then layout.set key v r else pure r)
      start
  | .array items => do
    let r ← (layout.fields.zip items).foldlM (fun r (key, v) => layout.set key v r) start
    if items.length < layout.required then throw (.wrongLength items.length layout.elements)
    if layout.fields.length < items.length then
      throw (.wrongLength items.length "fewer elements in array")
    return r
  | v => .error (.wrongType v s!"struct {layout.name}")

/-- The value of a field that must be there. -/
def required (name : String) : Option α → Except Mismatch α
  | some a => .ok a
  | none => .error (.missingField name)

end Typed

end OpenApi.Json
