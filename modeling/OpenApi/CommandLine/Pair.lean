import OpenApi.Json.Reader
import OpenApi.Text.Search
import OpenApi.Value

/-!
# Names with values

Arguments and headers are given as a name, an equals sign and a value. The value of an argument is
JSON where it can be read so, and else a text.
-/

namespace OpenApi.CommandLine

/-- The text is not a name with a value. -/
inductive PairError where
  | malformed (raw : String)
  deriving DecidableEq, Repr

def PairError.message : PairError → String
  | .malformed raw => s!"expected NAME=VALUE, got `{raw}`"

/-- The name before the first equals sign and the value behind it. -/
def splitPair (raw : String) : Except PairError (String × String) :=
  match Text.cutAt? ['='] raw.toList with
  | some (name, value) =>
    if name.isEmpty then .error (.malformed raw) else .ok (String.ofList name, String.ofList value)
  | none => .error (.malformed raw)

def readArgument (raw : String) : Except PairError (String × Value) := do
  let (name, value) ← splitPair raw
  match Json.ofText value with
  | .ok v => return (name, .ofJson v)
  | .error _ => return (name, .string value)

/-- Whether a document is to be fetched from an address. -/
def isUrl (input : String) : Bool :=
  Text.startsWith input "http://" || Text.startsWith input "https://"

end OpenApi.CommandLine
