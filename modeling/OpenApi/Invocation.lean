import OpenApi.Codec
import OpenApi.Operation
import OpenApi.Response
import OpenApi.Server

/-!
# Invocations

A call of an operation: its arguments become a request, the request goes through a transport, and
the response becomes a value.
-/

namespace OpenApi

/-- Arguments by local or wire name. A null argument is not there. -/
abbrev Arguments := OrderedMap String Value

/-- A failure of the transport, perhaps with the text of its cause. -/
structure TransportError where
  message : String
  cause : Option String := none
  deriving DecidableEq, Repr

inductive InvokeError where
  | unknownOperation (id : String)
  | ambiguousOperation (id : String) (count : Nat)
  | missingParameter (name : String)
  | unresolvedPlaceholder (path placeholder : String)
  | codec (e : CodecError)
  | transport (e : TransportError)
  /-- The status is none of success. The body stands here if it is JSON. -/
  | status (code : Nat) (body : Option Json)
  | invalidJson (e : Json.TextError)

def InvokeError.message : InvokeError → String
  | .unknownOperation id => s!"unknown operation: {id}"
  | .ambiguousOperation id count => s!"operation id `{id}` is shared by {count} operations"
  | .missingParameter name => s!"'{name}' is required"
  | .unresolvedPlaceholder path placeholder =>
    s!"path `{path}` has no value for placeholder `{placeholder}`"
  | .codec e => s!"codec error: {e.message}"
  | .transport e => s!"transport error: {e.message}"
  | .status code none => s!"HTTP {code}"
  | .status code (some body) => s!"HTTP {code}: {body.render}"
  | .invalidJson e => s!"response body is not valid JSON: {e.message}"

namespace Invocation

/-! ## Arguments -/

mutual

/-- A wire value as the text of a path, a query, a header or a cookie. -/
def wireText : Json → String
  | .null => ""
  | .string s => s
  | .array items => String.intercalate "," (itemTexts items)
  | v => v.render

def itemTexts : List Json → List String
  | [] => []
  | v :: rest => wireText v :: itemTexts rest

end

/-- The arguments sorted by their locations, in wire form. -/
structure Collected where
  path : OrderedMap String String := []
  query : List (String × String) := []
  headers : List (String × String) := []
  cookies : List (String × String) := []
  body : Option Json := none

/-- The argument of a parameter, under its local name or else its wire name. -/
def argument? (args : Arguments) (p : Parameter) : Option Value :=
  (args.get? p.localName <|> args.get? p.wireName).filter (!·.isNull)

/-- Puts a parameter's wire value where it goes. Each item of a list in the query goes there on its
own. -/
def Collected.put (c : Collected) (p : Parameter) (wire : Json) : Collected :=
  match p.location, wire with
  | .path, _ => { c with path := c.path.insert p.wireName (wireText wire) }
  | .query, .array items =>
    { c with query := c.query ++ items.map fun item => (p.wireName, wireText item) }
  | .query, _ => { c with query := c.query ++ [(p.wireName, wireText wire)] }
  | .header, _ => { c with headers := c.headers ++ [(p.wireName, wireText wire)] }
  | .cookie, _ => { c with cookies := c.cookies ++ [(p.wireName, wireText wire)] }
  | .body, _ => { c with body := some wire }

def collect (codec : Codec) (args : Arguments) :
    List Parameter → Collected → Except InvokeError Collected
  | [], c => .ok c
  | p :: rest, c =>
    match argument? args p with
    | none =>
      if p.required then .error (.missingParameter p.wireName) else collect codec args rest c
    | some v => do
      let wire ← (codec.encode v p.type).mapError .codec
      collect codec args rest (c.put p wire)

/-! ## Requests -/

/-- The text up to the next `mark` and the text after it. -/
def cutAtChar? (mark : Char) : List Char → Option (List Char × List Char)
  | [] => none
  | c :: rest =>
    if c = mark then some ([], rest)
    else (cutAtChar? mark rest).map fun (before, after) => (c :: before, after)

/-- Fills the placeholders of a path, `fuel` of them at most. -/
def fillPlaceholders (template : String) (values : OrderedMap String String) :
    Nat → List Char → Except InvokeError (List Char)
  | 0, rest => .ok rest
  | fuel + 1, rest =>
    match cutAtChar? '\x7b' rest with
    | none => .ok rest
    | some (before, inside) =>
      match cutAtChar? '\x7d' inside with
      | none => .ok rest
      | some (name, after) =>
        match values.get? (String.ofList name) with
        | none => .error (.unresolvedPlaceholder template (String.ofList name))
        | some value => do
          let after ← fillPlaceholders template values fuel after
          return before ++ (Text.percentEncode value).toList ++ after

def fillPath (template : String) (values : OrderedMap String String) :
    Except InvokeError String := do
  let filled ← fillPlaceholders template values template.length template.toList
  return String.ofList filled

/-- Puts the entries of a lower layer behind those whose names they do not repeat. -/
def underlay (same : String → String → Bool) (upper lower : List (String × String)) :
    List (String × String) :=
  upper ++ lower.filter fun entry => !upper.any fun taken => same taken.1 entry.1

/-- Arguments stand above the options of a call, and these above the defaults of a client. -/
def layer (same : String → String → Bool) (arguments options defaults : List (String × String)) :
    List (String × String) :=
  underlay same (underlay same arguments options) defaults

def withoutTrailingSlashes (url : String) : String :=
  String.ofList (url.toList.reverse.dropWhile (· == '/')).reverse

/-- What an invocation needs of its client. -/
structure Setting where
  codec : Codec
  serverUrl : String
  defaults : RequestOptions := {}

def buildRequest (s : Setting) (o : Operation) (args : Arguments) (options : RequestOptions) :
    Except InvokeError Request := do
  let c ← collect s.codec args o.parameters {}
  let path ← fillPath o.path c.path
  return {
    method := o.method
    url := withoutTrailingSlashes s.serverUrl ++ path
    query := layer (· == ·) c.query options.query s.defaults.query
    headers := layer sameHeader c.headers options.headers s.defaults.headers
    cookies := layer (· == ·) c.cookies options.cookies s.defaults.cookies
    body := c.body }

/-! ## Responses -/

/-- The value of a response; nothing if it is empty. -/
def decodeResponse (s : Setting) (o : Operation) (r : Response) :
    Logged InvokeError (Option Value) := do
  if !r.isSuccess then throw (.status r.status r.json.toOption)
  if r.isEmpty then return none
  let json ← Logged.ofExcept (r.json.mapError .invalidJson)
  match o.responseType? r.status with
  | none => return some (.ofJson json)
  | some ty => return some (← (s.codec.decode json ty).mapError .codec)

/-- What carries a request to a server and brings its answer, with whatever effects that has. -/
abbrev Transport (m : Type → Type) := Request → m (Except TransportError Response)

/-- Sends the request of a call, if it can be built, once through the transport. -/
def invoke {m : Type → Type} [Monad m] (s : Setting) (transport : Transport m) (o : Operation)
    (args : Arguments) (options : RequestOptions) : m (Logged InvokeError (Option Value)) :=
  match buildRequest s o args options with
  | .error e => pure (throw e)
  | .ok request => do
    let answer ← transport request
    return do
      Logged.notice (.requestSent request.method request.fullUrl)
      let response ← Logged.ofExcept (answer.mapError .transport)
      Logged.notice (.responseReceived o.id response.status)
      decodeResponse s o response

end Invocation

end OpenApi
