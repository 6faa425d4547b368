import OpenApi.Document.Referable

/-!
# Declared parameters
-/

namespace OpenApi

open Json.Typed

/-- Where an argument goes in a request. A document declares no parameter in the body; the request
body itself is one. -/
inductive Location where
  | path | query | header | cookie | body
  deriving DecidableEq, Repr

namespace Location

def name : Location → String
  | .path => "path"
  | .query => "query"
  | .header => "header"
  | .cookie => "cookie"
  | .body => "body"

/-- The locations that a document may declare. -/
def declarable : List Location :=
  [.path, .query, .header, .cookie]

def ofName? (s : String) : Option Location :=
  declarable.find? (·.name == s)

/-- The name itself, or an object with the name as its only key and null under it. -/
def read? : Json → Option Location
  | .string s => ofName? s
  | .object [(s, .null)] => ofName? s
  | _ => none

end Location

/-- A parameter as a document declares it. -/
structure ParameterEntry where
  name : String
  location : Location
  description : Option String := none
  required : Bool := false
  schema : Option Schema := none

namespace ParameterEntry

/-- What has been read of a parameter. -/
structure Draft where
  name : Option String := none
  location : Option Location := none
  description : Option String := none
  required : Bool := false
  schema : Option Schema := none

def readDraft : Json → Except Json.Mismatch Draft :=
  record {
    name := "Parameter"
    fields := ["name", "in", "description", "required", "schema"]
    required := 2
    set := fun key v d =>
      match key with
      | "name" => return { d with name := some (← text v) }
      | "in" => return { d with location := some (← choice "ParameterLocation" Location.read? v) }
      | "description" => return { d with description := ← optional text v }
      | "required" => return { d with required := ← flag v }
      | _ => return { d with schema := ← optional Schema.read v }
  } {}

def read (v : Json) : Except Json.Mismatch ParameterEntry := do
  let d ← readDraft v
  let name ← Json.Typed.required "name" d.name
  let location ← Json.Typed.required "in" d.location
  return { d with name, location }

end ParameterEntry

def readParameter : Json → Except Json.Mismatch (Referable ParameterEntry) :=
  Referable.read "ParameterOrRef" ParameterEntry.read

end OpenApi
