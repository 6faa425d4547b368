import OpenApi.Client
import OpenApi.Json.Printer
import OpenApi.Wrapper.ArgumentType
import OpenApi.Yaml.Printer

/-!
# Summaries

What a client offers, in short: its records with their fields, and its operations with their
signatures.
-/

namespace OpenApi

namespace Client

def fieldSummary (r : Registry) (record : RecordType) (f : Field) : Json :=
  .object [
    ("name", .string f.localName),
    ("wire_name", .string f.wireName),
    ("type", .string (Wrapper.describe r f.type)),
    ("required", .bool (record.isRequired f.localName)),
    ("nullable", .bool (record.isNullable f.localName))]

def recordSummary (r : Registry) (record : RecordType) : Json :=
  .object [
    ("name", .string record.name),
    ("fields", .array (record.fields.map (fieldSummary r record)))]

/-- A parameter in a signature, marked if it may be left out. -/
def parameterSummary (r : Registry) (p : Parameter) : String :=
  let mark := if p.required then "" else "?"
  s!"{p.localName}{mark}: {Wrapper.describe r p.type} ({p.location.name})"

def operationSummary (r : Registry) (o : Operation) : Json :=
  .object [
    ("id", .string o.id),
    ("method", .string o.method.name),
    ("path", .string o.path),
    ("namespace", .ofOption o.group?),
    ("signature", .array (o.signature.map fun p => .string (parameterSummary r p)))]

def summary (c : Client) : List (String × Json) :=
  [("info", .object [("title", .string c.title), ("version", .string c.version)]),
    ("server", .string c.server.url),
    ("records", .array (c.registry.records.map (recordSummary c.registry))),
    ("operations", .array (c.operations.operations.map (operationSummary c.registry))),
    ("namespaces", .array (c.groups.named.keys.map .string))]

end Client

/-- How a summary is written. -/
inductive SummaryFormat where
  | yaml | json
  deriving DecidableEq, Repr

/-- The text of a summary. Only YAML ends its last line. -/
def Client.renderSummary (c : Client) : SummaryFormat → String
  | .yaml => Yaml.renderFields c.summary
  | .json => (Json.object c.summary).renderPretty

end OpenApi
