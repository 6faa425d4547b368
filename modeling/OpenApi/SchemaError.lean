import OpenApi.Json.Typed

/-!
# What is wrong with a document's schemas
-/

namespace OpenApi

/-- Why a schema or a reference has no type. -/
inductive Unsupported where
  | foreignReference (path : String)
  | circularReference (path : String)
  /-- More references stand in a row than the document has. -/
  | tooManyReferences (path : String)
  | targetNotFound (path : String)
  | targetNotSchema (m : Json.Mismatch)
  | unexpectedTarget (m : Json.Mismatch)
  | anyOf
  | noType
  | severalTypes
  | unknownType (keyword : String)
  | parameterTooDeep
  | requestBodyTooDeep

def Unsupported.message : Unsupported → String
  | .foreignReference path => s!"only same-document references are supported, got `{path}`"
  | .circularReference path => s!"circular reference through `{path}`"
  | .tooManyReferences path => s!"too many references up to `{path}`"
  | .targetNotFound path => s!"reference target `{path}` not found"
  | .targetNotSchema m => s!"reference target is not a schema: {m.message}"
  | .unexpectedTarget m => s!"unexpected reference target: {m.message}"
  | .anyOf => "anyOf is not supported"
  | .noType => "schemas must have a type or a $ref"
  | .severalTypes => "type arrays with several non-null types are not supported"
  | .unknownType keyword => s!"unknown type keyword `{keyword}`"
  | .parameterTooDeep => "parameter reference chain is too deep"
  | .requestBodyTooDeep => "request body reference chain is too deep"

/-- Why the branch of a payload cannot be told. -/
inductive Ambiguity where
  | noDiscriminator
  | emptyDiscriminator
  | notABranch (tag target : String)

def Ambiguity.message : Ambiguity → String
  | .noDiscriminator => "oneOf with several branches requires a discriminator"
  | .emptyDiscriminator => "discriminator property name and mapping are required"
  | .notABranch tag target => s!"mapping `{tag}` points at `{target}`, not a oneOf branch"

inductive SchemaError where
  | unsupported (location : String) (reason : Unsupported)
  | ambiguous (location : String) (reason : Ambiguity)
  | nameCollision (first second formatted : String)
  | duplicateField (record field : String)

def SchemaError.message : SchemaError → String
  | .unsupported location reason => s!"unsupported schema at {location}: {reason.message}"
  | .ambiguous location reason => s!"ambiguous union at {location}: {reason.message}"
  | .nameCollision first second formatted =>
    s!"schema names `{first}` and `{second}` both format to `{formatted}`"
  | .duplicateField record field => s!"record `{record}` declares field `{field}` more than once"

end OpenApi
