import OpenApi.Document.Paths
import OpenApi.Json.Reader

/-!
# Documents

A document is kept twice: as a typed description, from which the client is built, and as the raw
tree, in which references are followed.
-/

namespace OpenApi

open Json.Typed

/-- A server as a document declares it, with the default value of each variable. -/
structure ServerEntry where
  url : String
  description : Option String := none
  values : OrderedMap String String := []
  deriving DecidableEq, Repr

namespace ServerEntry

def readVariable (v : Json) : Except Json.Mismatch String := do
  let default ← record {
    name := "ServerVariable"
    fields := ["default"]
    required := 1
    set := fun _ v _ => return some (← text v)
  } none v
  required "default" default

/-- What has been read of a server. -/
structure Draft where
  url : Option String := none
  description : Option String := none
  values : OrderedMap String String := []

def readDraft : Json → Except Json.Mismatch Draft :=
  record {
    name := "Server"
    fields := ["url", "description", "variables"]
    required := 1
    set := fun key v d =>
      match key with
      | "url" => return { d with url := some (← text v) }
      | "description" => return { d with description := ← optional text v }
      | _ => return { d with values := ← map readVariable v }
  } {}

def read (v : Json) : Except Json.Mismatch ServerEntry := do
  let d ← readDraft v
  return { d with url := ← required "url" d.url }

end ServerEntry

/-- Definitions that references lead to. -/
structure Components where
  schemas : OrderedMap String Schema := []
  parameters : OrderedMap String (Referable ParameterEntry) := []
  requestBodies : OrderedMap String (Referable RequestBody) := []
  responses : OrderedMap String (Referable ResponseEntry) := []

def Components.read : Json → Except Json.Mismatch Components :=
  record {
    name := "Components"
    fields := ["schemas", "parameters", "requestBodies", "responses"]
    required := 0
    set := fun key v c =>
      match key with
      | "schemas" => return { c with schemas := ← map Schema.read v }
      | "parameters" => return { c with parameters := ← map readParameter v }
      | "requestBodies" => return { c with requestBodies := ← map readRequestBody v }
      | _ => return { c with responses := ← map readResponse v }
  } {}

structure Info where
  title : String := ""
  version : String := ""
  deriving DecidableEq, Repr

def Info.read : Json → Except Json.Mismatch Info :=
  record {
    name := "Info"
    fields := ["title", "version"]
    required := 0
    set := fun key v i =>
      match key with
      | "title" => return { i with title := ← text v }
      | _ => return { i with version := ← text v }
  } {}

/-- The typed description of a document. -/
structure Description where
  openapi : String
  info : Info
  servers : List ServerEntry := []
  paths : OrderedMap String PathItem := []
  components : Option Components := none

namespace Description

/-- What has been read of a description. -/
structure Draft where
  openapi : Option String := none
  info : Option Info := none
  servers : List ServerEntry := []
  paths : OrderedMap String PathItem := []
  components : Option Components := none

def readDraft : Json → Except Json.Mismatch Draft :=
  record {
    name := "OpenApiSpec"
    fields := ["openapi", "info", "servers", "paths", "components"]
    required := 5
    set := fun key v d =>
      match key with
      | "openapi" => return { d with openapi := some (← text v) }
      | "info" => return { d with info := some (← Info.read v) }
      | "servers" => return { d with servers := ← list ServerEntry.read v }
      | "paths" => return { d with paths := ← map PathItem.read v }
      | _ => return { d with components := ← optional Components.read v }
  } {}

def read (v : Json) : Except Json.Mismatch Description := do
  let d ← readDraft v
  let openapi ← required "openapi" d.openapi
  let info ← required "info" d.info
  return { d with openapi, info }

end Description

structure Document where
  raw : Json
  description : Description

/-- Why a document cannot be read. -/
inductive DocumentError where
  | yaml
  | jsonText (e : Json.TextError)
  | mismatch (m : Json.Mismatch)
  | missingKey (key : String)
  | unsupportedVersion (version : String)

/-- The text of the cause. The one of malformed YAML has no fixed wording. -/
def DocumentError.message : DocumentError → String
  | .yaml => "failed to parse YAML"
  | .jsonText e => s!"failed to parse JSON: {e.message}"
  | .mismatch m => s!"failed to parse JSON: {m.message}"
  | .missingKey key => s!"invalid OpenAPI document: missing top-level key `{key}`"
  | .unsupportedVersion version => s!"unsupported OpenAPI version: {version}"

namespace Document

/-- The value that a pointer leads to. -/
def pointer? (d : Document) (pointer : String) : Option Json :=
  d.raw.pointer? pointer

/-- The keys that every document has. -/
def requiredKeys : List String :=
  ["openapi", "info", "paths"]

def ofJson (raw : Json) : Except DocumentError Document := do
  if let some key := requiredKeys.find? fun key => (raw.field? key).isNone then
    throw (.missingKey key)
  let description ← (Description.read raw).mapError .mismatch
  if !Text.startsWith description.openapi "3." then throw (.unsupportedVersion description.openapi)
  return ⟨raw, description⟩

end Document

end OpenApi
