import OpenApi.Document.Content
import OpenApi.Document.Parameter

/-!
# Paths

A path holds an operation for each of some methods, and parameters common to them all.
-/

namespace OpenApi

open Json.Typed

inductive Method where
  | get | put | post | delete | options | head | patch | trace
  deriving DecidableEq, Repr

namespace Method

/-- The name as a request writes it. -/
def name : Method → String
  | .get => "GET"
  | .put => "PUT"
  | .post => "POST"
  | .delete => "DELETE"
  | .options => "OPTIONS"
  | .head => "HEAD"
  | .patch => "PATCH"
  | .trace => "TRACE"

/-- The key of a path entry. -/
def key : Method → String
  | .get => "get"
  | .put => "put"
  | .post => "post"
  | .delete => "delete"
  | .options => "options"
  | .head => "head"
  | .patch => "patch"
  | .trace => "trace"

/-- The methods in the order in which a path entry declares them. -/
def declared : List Method :=
  [.get, .put, .post, .delete, .options, .head, .patch, .trace]

/-- The methods in the order in which the operations of a path are listed. -/
def listed : List Method :=
  [.get, .post, .put, .delete, .patch, .options, .head, .trace]

def ofKey? (s : String) : Option Method :=
  declared.find? (·.key == s)

end Method

/-- An operation as a document declares it. -/
structure OperationEntry where
  operationId : Option String := none
  summary : Option String := none
  description : Option String := none
  tags : List String := []
  parameters : List (Referable ParameterEntry) := []
  requestBody : Option (Referable RequestBody) := none
  responses : OrderedMap String (Referable ResponseEntry) := []
  deprecated : Option Bool := none

def OperationEntry.read : Json → Except Json.Mismatch OperationEntry :=
  record {
    name := "Operation"
    fields := ["operationId", "summary", "description", "tags", "parameters", "requestBody",
      "responses", "deprecated"]
    required := 0
    set := fun key v o =>
      match key with
      | "operationId" => return { o with operationId := ← optional text v }
      | "summary" => return { o with summary := ← optional text v }
      | "description" => return { o with description := ← optional text v }
      | "tags" => return { o with tags := ← list text v }
      | "parameters" => return { o with parameters := ← list readParameter v }
      | "requestBody" => return { o with requestBody := ← optional readRequestBody v }
      | "responses" => return { o with responses := ← map readResponse v }
      | _ => return { o with deprecated := ← optional flag v }
  } {}

structure PathItem where
  parameters : List (Referable ParameterEntry) := []
  operations : OrderedMap Method OperationEntry := []

namespace PathItem

def operation? (item : PathItem) (m : Method) : Option OperationEntry :=
  OrderedMap.get? item.operations m

/-- The declared operations in the order in which they are listed. -/
def listed (item : PathItem) : List (Method × OperationEntry) :=
  Method.listed.filterMap fun m => (item.operation? m).map (m, ·)

def read : Json → Except Json.Mismatch PathItem :=
  record {
    name := "PathItem"
    fields := "parameters" :: Method.declared.map Method.key
    required := 0
    set := fun key v item =>
      match Method.ofKey? key with
      | none => return { item with parameters := ← list readParameter v }
      | some m => do
        match ← optional OperationEntry.read v with
        | none => return item
        | some entry => return { item with operations := OrderedMap.insert item.operations m entry }
  } {}

end PathItem

end OpenApi
