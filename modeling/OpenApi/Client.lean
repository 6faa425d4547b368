import OpenApi.Invocation

/-!
# Clients

A client holds what a document offers: its records, its operations by id and by callable name, and
the server that calls go to. Operations with a tag are grouped under the local name of the first.
-/

namespace OpenApi

/-- The callables of a group, each with the id of its operation. -/
structure Group where
  name : String
  callables : OrderedMap String String := []
  deriving DecidableEq, Repr

namespace Group

/-- The first operation to claim a callable name keeps it. -/
def attach {ε : Type} (g : Group) (o : Operation) : Logged ε Group :=
  match g.callables.get? o.name.snake with
  | none => return { g with callables := g.callables.insert o.name.snake o.id }
  | some existing => do
    if existing ≠ o.id then
      Logged.notice (.callableTaken g.name o.name.snake existing o.id)
    return g

end Group

/-- The operations without a tag, and the groups of the others by name. -/
structure Groups where
  root : Group := ⟨"", []⟩
  named : OrderedMap String Group := []

namespace Groups

def attach {ε : Type} (g : Groups) (o : Operation) : Logged ε Groups := do
  match o.group? with
  | none => return { g with root := ← g.root.attach o }
  | some name =>
    let group := (g.named.get? name).getD ⟨name, []⟩
    return { g with named := g.named.insert name (← group.attach o) }

def attachAll {ε : Type} : List Operation → Groups → Logged ε Groups
  | [], g => pure g
  | o :: rest, g => do attachAll rest (← g.attach o)

end Groups

structure ClientOptions where
  /-- Stands in for the first server of the document. -/
  server : Option Server := none
  /-- Go over the values of the server's variables. -/
  values : OrderedMap String String := []
  defaults : RequestOptions := {}
  mode : NameMode := .wire

structure Client where
  title : String
  version : String
  registry : Registry
  operations : OperationTable
  groups : Groups
  servers : List Server
  server : Server
  defaults : RequestOptions
  mode : NameMode

namespace Client

/-- The server of the options, else the first of the document, else one without an address. -/
def chooseServer {ε : Type} (options : ClientOptions) (servers : List Server) :
    Logged ε Server := do
  let server ← match options.server <|> servers.head? with
    | some server => pure server
    | none =>
      Logged.notice .noServers
      pure ⟨"", none, []⟩
  return { server with values := server.values.insertAll options.values }

def build (doc : Document) (options : ClientOptions := {}) : Logged SchemaError Client := do
  let registry ← Registry.build doc
  let operations ← OperationTable.build doc registry.names
  let groups ← Groups.attachAll operations.operations {}
  let servers := doc.description.servers.map Server.ofEntry
  let server ← chooseServer options servers
  Logged.notice
    (.clientReady registry.records.length operations.length groups.named.length server.url)
  return {
    title := doc.description.info.title
    version := doc.description.info.version
    registry, operations, groups, servers, server
    defaults := options.defaults
    mode := options.mode }

/-- The operation of an id that is used once. -/
def operation (c : Client) (id : String) : Except InvokeError Operation :=
  match (c.operations.get? id).getD [] with
  | [] => .error (.unknownOperation id)
  | [o] => .ok o
  | bucket => .error (.ambiguousOperation id bucket.length)

def group? (c : Client) (name : String) : Option Group :=
  c.groups.named.get? name

def codec (c : Client) : Codec :=
  ⟨c.registry, c.mode⟩

def setting (c : Client) : Invocation.Setting :=
  ⟨c.codec, c.server.url, c.defaults⟩

variable {m : Type → Type} [Monad m]

abbrev Called := Logged InvokeError (Option Value)

/-- Calls an operation, which may be one of several with its id. -/
def invokeOperation (c : Client) (transport : Invocation.Transport m) (o : Operation)
    (args : Arguments) (options : RequestOptions) : m Called :=
  Invocation.invoke c.setting transport o args options

/-- Calls the operation of an id. -/
def invoke (c : Client) (transport : Invocation.Transport m) (id : String) (args : Arguments)
    (options : RequestOptions := {}) : m Called :=
  match c.operation id with
  | .ok o => c.invokeOperation transport o args options
  | .error e => pure (throw e)

/-- Calls an operation without a tag by its callable name. -/
def call (c : Client) (transport : Invocation.Transport m) (callable : String) (args : Arguments) :
    m Called :=
  match c.groups.root.callables.get? callable with
  | some id => c.invoke transport id args
  | none => pure (throw (.unknownOperation callable))

/-- Calls an operation of a group by its callable name. -/
def callIn (c : Client) (group : Group) (transport : Invocation.Transport m) (callable : String)
    (args : Arguments) (options : RequestOptions := {}) : m Called :=
  match group.callables.get? callable with
  | some id => c.invoke transport id args options
  | none => pure (throw (.unknownOperation s!"{group.name}.{callable}"))

end Client

end OpenApi
