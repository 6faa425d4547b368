import OpenApi.Registry

/-!
# Operations

An operation is one callable entry of a document, with its parameters and response types settled.
The request body is the last parameter. Operations are filed under their ids; a document may use an
id more than once.
-/

namespace OpenApi

open Resolution

/-- A parameter with its type. -/
structure Parameter where
  wireName : String
  localName : String
  type : DataType
  required : Bool
  location : Location
  default : Option Json
  description : Option String

/-- What a response is filed under. -/
inductive ResponseKey where
  | status (code : Nat)
  | default
  deriving DecidableEq, Repr

namespace ResponseKey

/-- A status is a number below 65536 in decimal digits, with a plus sign or without. -/
def ofText? (s : String) : Option ResponseKey :=
  if s = "default" then some .default
  else
    let digits := match s.toList with
      | '+' :: rest => rest
      | cs => cs
    let code := Nat.ofDigitChars 10 digits 0
    if !digits.isEmpty && digits.all Char.isDigit && code < 65536 then some (.status code) else none

def render : ResponseKey → String
  | .status code => toString code
  | .default => "default"

end ResponseKey

structure Operation where
  id : String
  name : Name
  method : Method
  path : String
  summary : Option String
  description : Option String
  tags : List String
  deprecated : Bool
  parameters : List Parameter
  responses : OrderedMap ResponseKey DataType

namespace Operation

/-- The parameters in the order of a call: the required ones first. -/
def signature (o : Operation) : List Parameter :=
  o.parameters.filter (·.required) ++ o.parameters.filter (!·.required)

/-- The name of the group that the operation belongs to, from its first tag. -/
def group? (o : Operation) : Option String :=
  o.tags.head?.map OpenApi.localName

/-- The parameter of a local name, else of a wire name. -/
def parameter? (o : Operation) (name : String) : Option Parameter :=
  o.parameters.find? (·.localName == name) <|> o.parameters.find? (·.wireName == name)

/-- The type of a status's own response, else of the default one. -/
def responseType? (o : Operation) (status : Nat) : Option DataType :=
  o.responses.get? (.status status) <|> o.responses.get? .default

def render (o : Operation) : String :=
  s!"[{o.method.name}] {o.path}"

/-! ## References -/

/-- How many references may be followed to a parameter or a request body, and one more. -/
def referenceDepth : Nat := 16

/-- Reads the value that a reference leads to. -/
def referenced {α : Type} (doc : Document) (read : Json → Except Json.Mismatch α)
    (path location : String) : Except SchemaError α :=
  match (Text.dropStart? ['#'] path.toList).bind fun pointer => doc.pointer? (String.ofList pointer)
  with
  | none => .error (.unsupported location (.targetNotFound path))
  | some v => (read v).mapError fun m => .unsupported path (.unexpectedTarget m)

/-- Follows references until something stands in place, looking at most `fuel` times. -/
def settle {α : Type} (doc : Document) (read : Json → Except Json.Mismatch (Referable α))
    (location : String) (tooDeep : Unsupported) : Nat → Referable α → Except SchemaError α
  | 0, _ => .error (.unsupported location tooDeep)
  | _ + 1, .inline value => .ok value
  | fuel + 1, .reference path => do
    settle doc read location tooDeep fuel (← referenced doc read path location)

def settleParameter (doc : Document) (location : String) (p : Referable ParameterEntry) :
    Except SchemaError ParameterEntry :=
  settle doc readParameter location .parameterTooDeep referenceDepth p

def settleRequestBody (doc : Document) (location : String) (b : Referable RequestBody) :
    Except SchemaError RequestBody :=
  settle doc readRequestBody location .requestBodyTooDeep referenceDepth b

def settleResponse (doc : Document) (location : String) :
    Referable ResponseEntry → Except SchemaError ResponseEntry
  | .inline response => .ok response
  | .reference path => referenced doc ResponseEntry.read path location

/-! ## Building -/

/-- The parameters of a path and of an operation, one for each name and location: the place is that
of the first, the definition that of the last. -/
def mergeParameters (doc : Document) (location : String)
    (common own : List (Referable ParameterEntry)) : Except SchemaError (List ParameterEntry) := do
  let entries ← (common ++ own).mapM (settleParameter doc location)
  return OrderedMap.values (OrderedMap.ofList (entries.map fun p => ((p.name, p.location), p)))

/-- The name of the request body among the parameters. -/
def bodyName : String := "body"

def buildParameter (doc : Document) (names : RecordNames) (location : String)
    (p : ParameterEntry) : Resolved Parameter := do
  let type ← match p.schema with
    | none => pure .any
    | some schema => resolve doc names schema (location ++ "/schema")
  return {
    wireName := p.name
    localName := OpenApi.localName p.name
    type
    required := p.required || p.location == .path
    location := p.location
    default := p.schema.bind fun schema => schema.inline?.bind (·.default)
    description := p.description }

def buildParameters (doc : Document) (names : RecordNames) (location : String) :
    List ParameterEntry → Nat → Resolved (List Parameter)
  | [], _ => pure []
  | p :: rest, i => do
    let p ← buildParameter doc names s!"{location}/parameters/{i}" p
    return p :: (← buildParameters doc names location rest (i + 1))

def buildBody (doc : Document) (names : RecordNames) (location : String)
    (b : Referable RequestBody) : Resolved Parameter := do
  let body ← Logged.ofExcept (settleRequestBody doc location b)
  let type ← match Content.jsonSchema? body.content with
    | none => pure .any
    | some schema => resolve doc names schema (location ++ "/content")
  return {
    wireName := bodyName
    localName := bodyName
    type
    required := body.required
    location := .body
    default := none
    description := body.description }

/-- The types of the responses with JSON content. -/
def buildResponses (doc : Document) (names : RecordNames) (location : String) :
    List (String × Referable ResponseEntry) → OrderedMap ResponseKey DataType →
      Resolved (OrderedMap ResponseKey DataType)
  | [], types => pure types
  | (key, response) :: rest, types =>
    match ResponseKey.ofText? key with
    | none => do
      Logged.notice (.responseKeySkipped location key)
      buildResponses doc names location rest types
    | some responseKey => do
      let here := s!"{location}/responses/{key}"
      let response ← Logged.ofExcept (settleResponse doc here response)
      match Content.jsonSchema? response.content with
      | none => buildResponses doc names location rest types
      | some schema =>
        let type ← resolve doc names schema (here ++ "/content")
        buildResponses doc names location rest (types.insert responseKey type)

/-- The operation of an entry. One without an id cannot be called and is passed over. -/
def build (doc : Document) (names : RecordNames) (path : String) (method : Method)
    (entry : OperationEntry) (common : List (Referable ParameterEntry)) :
    Resolved (Option Operation) :=
  match entry.operationId with
  | none => do
    Logged.notice (.missingOperationId method path)
    return none
  | some id => do
    let location :=
      s!"#/paths/{String.ofList (Json.escapeToken path.toList)}/{method.key}"
    let declared ← Logged.ofExcept (mergeParameters doc location common entry.parameters)
    let declared ← buildParameters doc names location declared 0
    let body ← match entry.requestBody with
      | none => pure []
      | some b => pure [← buildBody doc names (location ++ "/requestBody") b]
    let parameters := declared ++ body
    let responses ← buildResponses doc names location entry.responses []
    Logged.notice (.operationBuilt id method path parameters.length)
    return some {
      id
      name := .ofText id
      method
      path
      summary := entry.summary
      description := entry.description
      tags := entry.tags
      deprecated := entry.deprecated.getD false
      parameters
      responses }

end Operation

/-- Operations by their ids, in the order of the ids' first use. -/
abbrev OperationTable := OrderedMap String (List Operation)

namespace OperationTable

/-- Files an operation under its id. -/
def file (table : OperationTable) (o : Operation) : OperationTable :=
  OrderedMap.insert table o.id ((OrderedMap.get? table o.id).getD [] ++ [o])

/-- The entries of a document, each with its path, method and common parameters. -/
def entries (doc : Document) :
    List (String × Method × OperationEntry × List (Referable ParameterEntry)) :=
  doc.description.paths.flatMap fun (path, item) =>
    item.listed.map fun (method, entry) => (path, method, entry, item.parameters)

def buildEntries (doc : Document) (names : RecordNames) :
    List (String × Method × OperationEntry × List (Referable ParameterEntry)) → OperationTable →
      Resolved OperationTable
  | [], table => pure table
  | (path, method, entry, common) :: rest, table => do
    match ← Operation.build doc names path method entry common with
    | none => buildEntries doc names rest table
    | some o =>
      if OrderedMap.contains table o.id then Logged.notice (.sharedOperationId o.id)
      buildEntries doc names rest (table.file o)

/-- The operations of a document. -/
def build (doc : Document) (names : RecordNames) : Resolved OperationTable := do
  let table ← buildEntries doc names (entries doc) []
  Logged.notice (.operationsBuilt table.length)
  return table

/-- All the operations, bucket by bucket. -/
def operations (table : OperationTable) : List Operation :=
  (OrderedMap.values table).flatten

end OperationTable

end OpenApi
