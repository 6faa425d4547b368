import OpenApi.Client
import OpenApi.Text.Blank
import OpenApi.Text.Quoted
import OpenApi.Wrapper.ArgumentType

/-!
# Wrappers

A wrapper is a module with a typed method for each callable of a client: one type for the operations
without a tag, which leads to one more type for each group.
-/

namespace OpenApi

structure WrapperOptions where
  /-- The file of the module. -/
  output : String := "src/api.rs"
  /-- The name of the client's type; without one it is made from the title. -/
  clientName : Option String := none
  deriving DecidableEq, Repr

/-- The given name cannot name a type. -/
inductive WrapperError where
  | invalidClientName (name : String)
  deriving DecidableEq, Repr

def WrapperError.message : WrapperError → String
  | .invalidClientName name => s!"invalid client name `{name}`"

namespace Wrapper

structure Argument where
  identifier : String
  /-- The argument's name as a literal. -/
  key : String
  type : String
  deriving DecidableEq, Repr

structure Method where
  name : String
  /-- The operation's id as a literal. -/
  operationId : String
  deprecated : Bool
  doc : List String
  arguments : List Argument
  deriving DecidableEq, Repr

/-- The type of a group. -/
structure Section where
  tag : String
  accessor : String
  typeName : String
  methods : List Method
  deriving DecidableEq, Repr

end Wrapper

structure Wrapper where
  title : String
  version : String
  typeName : String
  methods : List Wrapper.Method
  sections : List Wrapper.Section
  deriving DecidableEq, Repr

namespace Wrapper

/-! ## Names -/

/-- The name for a title without a letter to start one. -/
def fallbackName : String := "ApiClient"

def startsWithLetter (name : String) : Bool :=
  name.toList.head?.any Char.isAlpha

def isValidName (name : String) : Bool :=
  startsWithLetter name && name.toList.all fun c => c.isAlphanum || c == '_'

def nameOfTitle (title : String) : String :=
  let name := Text.pascalCase (Text.words title)
  if startsWithLetter name then name else fallbackName

def clientName (title : String) (options : WrapperOptions) : Except WrapperError String :=
  match options.clientName with
  | some name => if isValidName name then .ok name else .error (.invalidClientName name)
  | none => .ok (nameOfTitle title)

/-! ## Methods -/

/-- The lines of a text, each ended by a line feed or by the end. Of the first, `line` has been
read, in reverse. -/
def splitLines (line : List Char) : List Char → List (List Char)
  | [] => if line.isEmpty then [] else [line.reverse]
  | '\n' :: rest => line.reverse :: splitLines [] rest
  | c :: rest => splitLines (c :: line) rest

/-- The lines of a text without the blanks at their ends. -/
def textLines (s : String) : List String :=
  (splitLines [] s.toList).map fun line => String.ofList (Text.trimEnd line)

/-- The lines of a method's comment: the method and path, the summary and the description, and the
parameters. -/
def docLines (r : Registry) (o : Operation) : List String :=
  let texts := [o.summary, o.description].filterMap id
  let parameters := o.signature.map fun p =>
    s!"* `{p.localName}` ({p.location.name}): {describe r p.type}"
  s!"`{o.method.name} {o.path}`" :: texts.flatMap (fun text => "" :: textLines text)
    ++ (if parameters.isEmpty then [] else "" :: parameters)

/-- The first name that stands a second time. -/
def firstRepeated? (seen : List String) : List String → Option String
  | [] => none
  | name :: rest => if name ∈ seen then some name else firstRepeated? (name :: seen) rest

def argumentOf (p : Parameter) : Argument where
  identifier := identifier p.localName
  key := Text.quoted p.localName
  type := if p.required then argumentType p.type else "Option<" ++ argumentType p.type ++ ">"

/-- The method of an operation. There is none if two parameters share a local name, for their
arguments could not be told apart. -/
def methodOf {ε : Type} (r : Registry) (o : Operation) : Logged ε (Option Method) :=
  match firstRepeated? [] (o.signature.map (·.localName)) with
  | some parameter => do
    Logged.notice (.wrapperAmbiguous o.id parameter)
    return none
  | none => return some {
      name := identifier o.name.snake
      operationId := Text.quoted o.id
      deprecated := o.deprecated
      doc := docLines r o
      arguments := o.signature.map argumentOf }

/-- The methods of the operations with the given ids. An id that is shared has none. -/
def methodsOf {ε : Type} (client : Client) : List String → Logged ε (List Method)
  | [] => pure []
  | id :: rest => do
    let method ← match client.operation id with
      | .ok o => methodOf client.registry o
      | .error e => do
        Logged.notice (.wrapperSkipped id e.message)
        pure none
    return method.toList ++ (← methodsOf client rest)

def sectionsOf {ε : Type} (client : Client) : List Group → Logged ε (List Section)
  | [] => pure []
  | g :: rest => do
    let methods ← methodsOf client g.callables.values
    let entry : Section := {
      tag := g.name
      accessor := identifier g.name
      typeName := Text.pascalCase (Text.words g.name) ++ "Api"
      methods }
    return entry :: (← sectionsOf client rest)

/-- The wrapper of a client, whose type has the given name. -/
def ofClient {ε : Type} (client : Client) (typeName : String) : Logged ε Wrapper := do
  let methods ← methodsOf client client.groups.root.callables.values
  let sections ← sectionsOf client client.groups.named.values
  return { title := client.title, version := client.version, typeName, methods, sections }

end Wrapper

end OpenApi
