import OpenApi.Document.Schema

/-!
# Parts that may be references

Parameters, request bodies and responses stand in place or are references to a component.
-/

namespace OpenApi

inductive Referable (α : Type) where
  | reference (path : String)
  | inline (value : α)

namespace Referable

variable {α : Type}

/-- An object with a text under `$ref` is a reference; anything else is read in place. -/
def read? (inline? : Json → Option α) (v : Json) : Option (Referable α) :=
  match v.field? "$ref" with
  | some (.string path) => some (.reference path)
  | _ => (inline? v).map .inline

def read (choice : String) (readInline : Json → Except Json.Mismatch α) :
    Json → Except Json.Mismatch (Referable α) :=
  Json.Typed.choice choice (read? fun v => (readInline v).toOption)

end Referable

end OpenApi
