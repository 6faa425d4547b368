import OpenApi.Document.Basic
import OpenApi.Yaml.Tree

/-!
# Documents from texts

A document is written in JSON or in YAML.
-/

namespace OpenApi.Document

def ofJsonText (text : String) : Except DocumentError Document := do
  ofJson (← (Json.ofText text).mapError .jsonText)

def ofYamlText (text : String) : Except DocumentError Document := do
  ofJson (← ((Yaml.Node.ofText text).bind Yaml.Node.toJson).mapError fun _ => .yaml)

end OpenApi.Document
