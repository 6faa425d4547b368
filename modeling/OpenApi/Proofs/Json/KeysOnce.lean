import OpenApi.Proofs.OrderedMap
import OpenApi.Json.Basic

/-!
# JSON trees without repeated keys

Objects are lists of pairs here. `KeysOnce` says that they are maps, at every depth.
-/

namespace OpenApi.Json

/-- In each object of the tree a key stands once. -/
inductive KeysOnce : Json → Prop where
  | null : KeysOnce .null
  | bool (b : Bool) : KeysOnce (.bool b)
  | number (n : Json.Number) : KeysOnce (.number n)
  | string (s : String) : KeysOnce (.string s)
  | array {items : List Json} (each : ∀ v ∈ items, KeysOnce v) : KeysOnce (.array items)
  | object {fields : List (String × Json)} (nodup : (OrderedMap.keys fields).Nodup)
      (each : ∀ p ∈ fields, KeysOnce p.2) : KeysOnce (.object fields)

@[simp] theorem keysOnce_array_iff (items : List Json) :
    KeysOnce (.array items) ↔ ∀ v ∈ items, KeysOnce v :=
  ⟨fun | .array each => each, .array⟩

@[simp] theorem keysOnce_object_iff (fields : List (String × Json)) :
    KeysOnce (.object fields) ↔
      (OrderedMap.keys fields).Nodup ∧ ∀ p ∈ fields, KeysOnce p.2 :=
  ⟨fun | .object nodup each => ⟨nodup, each⟩, fun h => .object h.1 h.2⟩

end OpenApi.Json
