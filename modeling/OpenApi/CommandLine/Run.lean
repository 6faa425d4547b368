import OpenApi.CommandLine.Command
import OpenApi.CommandLine.Failure

/-!
# Running commands

A command works on a host, which holds files and carries requests. What the command says goes to two
streams, one for results and one for all else.
-/

namespace OpenApi.CommandLine

/-- Where a command runs. -/
structure Host (m : Type → Type) where
  read : String → m (Except FileFault String)
  /-- Whether a file or directory is there. -/
  has : String → m Bool
  /-- Makes a directory, with those that lead to it, where it is not there yet. -/
  makeDirectory : String → m (Except FileFault Unit)
  write : String → String → m (Except FileFault Unit)
  /-- Reads the text at an address. -/
  fetch : String → m (Except TransportError String)
  transport : Invocation.Transport m

/-- What a command has said. -/
structure Output where
  results : String := ""
  remarks : String := ""
  deriving DecidableEq, Repr

abbrev Run (m : Type → Type) := ExceptT Failure (StateT Output m)

variable {m : Type → Type} [Monad m]

/-- Says a line about what is going on. -/
def remark (line : String) : Run m Unit :=
  modify fun o => { o with remarks := o.remarks ++ line ++ "\n" }

def result (text : String) : Run m Unit :=
  modify fun o => { o with results := o.results ++ text }

def orFail {ε α : Type} (failure : ε → Failure) (x : Except ε α) : Run m α :=
  match x with
  | .ok a => pure a
  | .error e => throw (failure e)

/-- Asks the host. -/
def ask {α : Type} (x : m α) : Run m α :=
  ExceptT.lift (StateT.lift x)

/-! ## Documents and clients -/

/-- The configuration, which need not be there. -/
def loadConfig (host : Host m) : Run m Config := do
  if !(← ask (host.has Config.fileName)) then return {}
  let text ← orFail (fun e => ⟨s!"failed to read config {Config.fileName}: {e.message}", []⟩)
    (← ask (host.read Config.fileName))
  orFail (fun _ => ⟨s!"failed to parse config {Config.fileName}", []⟩) (Config.ofText text)

/-- The text of a document from its file or its address. -/
def readInput (host : Host m) (input : String) : Run m String := do
  if isUrl input then
    orFail (fun e => ⟨s!"failed to fetch {input}", e.message :: e.cause.toList⟩)
      (← ask (host.fetch input))
  else
    orFail (fun e => (Failure.ofFile e).within s!"failed to read {input}") (← ask (host.read input))

/-- Loads a document. A name that ends so means JSON, any other YAML. -/
def loadDocument (host : Host m) (input : String) : Run m Document := do
  let text ← readInput host input
  let document :=
    if input.endsWith ".json" then Document.ofJsonText text else Document.ofYamlText text
  orFail (fun e => (Failure.ofDocument e).within s!"failed to parse {input}") document

def buildClient (host : Host m) (input : String) (config : Config) : Run m Client := do
  let document ← loadDocument host input
  orFail (fun e => (Failure.ofSchema e).within s!"failed to assemble a client from {input}")
    (Client.build document config.clientOptions).outcome

/-! ## Commands -/

def validate (host : Host m) (input : Option String) : Run m Unit := do
  let config ← loadConfig host
  let document ← loadDocument host (input.getD config.input)
  let d := document.description
  remark s!"Valid OpenAPI {d.openapi} document: {d.info.title}"
  remark s!"  Version: {d.info.version}"
  remark s!"  Paths: {d.paths.length}"
  let client ← orFail Failure.ofSchema (Client.build document config.clientOptions).outcome
  remark s!"  Records: {client.registry.records.length}"
  remark s!"  Operations: {client.operations.length}"
  remark s!"  Namespaces: {client.groups.named.length}"
  remark s!"  Server: {client.server.url}"
  remark "Validation successful."

def inspect (host : Host m) (input : Option String) (format : SummaryFormat) : Run m Unit := do
  let config ← loadConfig host
  let client ← buildClient host (input.getD config.input) config
  result (client.renderSummary format)
  if format = .json then result "\n"

/-- The arguments of a call with the body among them. -/
def readArguments (c : CallCommand) : Except Failure Arguments := do
  let args ← (c.arguments.mapM readArgument).mapError Failure.ofPair
  let args := OrderedMap.ofList args
  match c.body with
  | none => return args
  | some body =>
    let v ← (Json.ofText body).mapError fun e =>
      { message := "--body must be valid JSON", causes := [e.message] }
    return args.insert Operation.bodyName (.ofJson v)

def call (host : Host m) (c : CallCommand) : Run m Unit := do
  let config ← loadConfig host
  let client ← buildClient host (c.input.getD config.input) config
  let server := (c.server.map Server.ofUrl).getD client.server
  let client := { client with server }
  let args ← orFail id (readArguments c)
  let headers ← orFail Failure.ofPair (c.headers.mapM splitPair)
  let options : RequestOptions := { headers := OrderedMap.ofList headers }
  let called ← ask (client.invoke host.transport c.operationId args options)
  let value ← orFail (fun e => (Failure.ofInvocation e).within s!"call to `{c.operationId}` failed")
    called.outcome
  match value with
  | none => remark "(empty response)"
  | some v =>
    let json ← orFail (fun e : CodecError => { message := e.message }) (client.codec.encode v .any)
    result (json.renderPretty ++ "\n")

/-- The path of a file below the current directory. -/
def belowHere (path : String) : String :=
  if Text.startsWith path "/" then path else "./" ++ path

/-- The path of the directory of a file. -/
def parentOf (path : String) : String :=
  let isSlash (c : Char) := c == '/'
  let name := path.toList.reverse.dropWhile isSlash
  let parent := (name.dropWhile (!isSlash ·)).dropWhile isSlash
  if parent.isEmpty && Text.startsWith path "/" then "/" else String.ofList parent.reverse

/-- Writes a file, with the directories that lead to it. -/
def writeFile (host : Host m) (path text : String) : Run m Unit := do
  let parent := parentOf path
  orFail (fun e => (Failure.ofFile e).within s!"failed to create directory {parent}")
    (← ask (host.makeDirectory parent))
  orFail (fun e => (Failure.ofFile e).within s!"failed to write {path}")
    (← ask (host.write path text))

def generate (host : Host m) (input output : Option String) : Run m Unit := do
  let config ← loadConfig host
  let client ← buildClient host (input.getD config.input) config
  let options := { config.codegen with output := output.getD config.codegen.output }
  remark s!"Generating {client.title} → {options.output}"
  let text ← orFail Failure.ofWrapper (Wrapper.generate client options).outcome
  let path := belowHere options.output
  writeFile host path text
  remark s!"  wrote {path}"
  remark ""
  remark "The generated module is overwritten on every run; do not edit it by hand."

def init (host : Host m) (force : Bool) : Run m Unit := do
  if (← ask (host.has Config.fileName)) && !force then
    throw { message := s!"{Config.fileName} already exists. Use --force to overwrite." }
  orFail Failure.ofFile (← ask (host.write Config.fileName Config.defaultText))
  remark s!"Created {Config.fileName}"

def runCommand (host : Host m) : Command → Run m Unit
  | .validate input => validate host input
  | .inspect input format => inspect host input format
  | .call c => call host c
  | .generate input output => generate host input output
  | .init force => init host force

/-- How a command ended, with all that it said. -/
structure Report where
  exitCode : Nat
  results : String
  remarks : String
  deriving DecidableEq, Repr

def usage : String :=
  "usage: oarc <validate|inspect|call|generate|init> [options]\n"

/-- Runs a command line. -/
def run (host : Host m) (words : List String) : m Report :=
  match Command.ofWords? words with
  | none => pure ⟨2, "", usage⟩
  | some command => do
    match ← (runCommand host command).run.run {} with
    | (.ok (), output) => return ⟨0, output.results, output.remarks⟩
    | (.error failure, output) => return ⟨1, output.results, output.remarks ++ failure.render⟩

end OpenApi.CommandLine
