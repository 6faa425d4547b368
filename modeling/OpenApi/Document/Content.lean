import OpenApi.Document.Referable
import OpenApi.Text.Search

/-!
# Content

Request bodies and responses hold a schema for each media type. A client reads and writes JSON.
-/

namespace OpenApi

open Json.Typed

structure MediaType where
  schema : Option Schema := none

abbrev Content := OrderedMap String MediaType

namespace MediaType

def read : Json → Except Json.Mismatch MediaType :=
  record {
    name := "MediaType"
    fields := ["schema"]
    required := 0
    set := fun _ v m => return { m with schema := ← optional Schema.read v }
  } {}

end MediaType

namespace Content

/-- The exact media type of JSON. -/
def jsonMediaType : String := "application/json"

def isJsonLike (mediaType : String) : Bool :=
  Text.startsWith mediaType "application/" && Text.hasPart mediaType "json"

/-- The schema of JSON content: that of the exact media type when it stands there, else that of the
first application media type with `json` in its name. -/
def jsonSchema? (content : Content) : Option Schema :=
  let media := OrderedMap.get? content jsonMediaType
    <|> (content.find? fun entry => isJsonLike entry.1).map Prod.snd
  media.bind MediaType.schema

end Content

structure RequestBody where
  description : Option String := none
  content : Content := []
  required : Bool := false

def RequestBody.read : Json → Except Json.Mismatch RequestBody :=
  record {
    name := "RequestBody"
    fields := ["description", "content", "required"]
    required := 0
    set := fun key v b =>
      match key with
      | "description" => return { b with description := ← optional text v }
      | "content" => return { b with content := ← map MediaType.read v }
      | _ => return { b with required := ← flag v }
  } {}

structure ResponseEntry where
  description : String := ""
  content : Content := []

def ResponseEntry.read : Json → Except Json.Mismatch ResponseEntry :=
  record {
    name := "Response"
    fields := ["description", "content"]
    required := 0
    set := fun key v r =>
      match key with
      | "description" => return { r with description := ← text v }
      | _ => return { r with content := ← map MediaType.read v }
  } {}

def readRequestBody : Json → Except Json.Mismatch (Referable RequestBody) :=
  Referable.read "RequestBodyOrRef" RequestBody.read

def readResponse : Json → Except Json.Mismatch (Referable ResponseEntry) :=
  Referable.read "ResponseOrRef" ResponseEntry.read

end OpenApi
