import OpenApi.Client
import OpenApi.Wrapper.Basic
import OpenApi.Yaml.Typed

/-!
# Configuration

What a project says once for all commands: its document, the server, what every call sends, and
where its wrapper goes.
-/

namespace OpenApi

open Yaml.Typed

structure ServerConfig where
  /-- Stands in for the first server of the document. -/
  url : Option String := none
  /-- Values for the variables of whichever server is chosen. -/
  values : OrderedMap String String := []
  deriving DecidableEq, Repr

structure Config where
  /-- The place of the document. -/
  input : String := "openapi.yaml"
  server : ServerConfig := {}
  /-- What is sent with every call. -/
  defaults : RequestOptions := {}
  mode : NameMode := .wire
  codegen : WrapperOptions := {}
  deriving DecidableEq, Repr

/-- The server of an address, as it stands. -/
def Server.ofUrl (url : String) : Server :=
  ⟨url, none, []⟩

namespace Config

def fileName : String := ".oarc.yaml"

/-- How the configuration bears on a client. -/
def clientOptions (c : Config) : ClientOptions where
  server := c.server.url.map Server.ofUrl
  values := c.server.values
  defaults := c.defaults
  mode := c.mode

/-! ## Reading -/

def readServer : Reader ServerConfig :=
  record (fun
    | "url" => some fun s targets n => return { s with url := ← optional text targets n }
    | "variables" => some fun s targets n => return { s with values := ← map text targets n }
    | _ => none) {}

def readOptions : Reader RequestOptions :=
  record (fun
    | "headers" => some fun o targets n => return { o with headers := ← map text targets n }
    | "query" => some fun o targets n => return { o with query := ← map text targets n }
    | "cookies" => some fun o targets n => return { o with cookies := ← map text targets n }
    | _ => none) {}

def modes : List (String × NameMode) :=
  [("wire", .wire), ("local", .local)]

def readCodegen : Reader WrapperOptions :=
  record (fun
    | "output" => some fun o targets n => return { o with output := ← text targets n }
    | "client_name" => some fun o targets n =>
      return { o with clientName := ← optional text targets n }
    | _ => none) {}

def read : Reader Config :=
  record (fun
    | "input" => some fun c targets n => return { c with input := ← text targets n }
    | "server" => some fun c targets n => return { c with server := ← readServer targets n }
    | "defaults" => some fun c targets n => return { c with defaults := ← readOptions targets n }
    | "name_mode" => some fun c targets n => return { c with mode := ← word modes targets n }
    | "codegen" => some fun c targets n => return { c with codegen := ← readCodegen targets n }
    | _ => none) {}

/-- The configuration of a text. What a text leaves out has its default. -/
def ofText (s : String) : Yaml.Scan Config :=
  readText read s

/-- The text that a project starts with. It says nothing but the defaults. -/
def defaultText : String :=
  String.join ([
    "# oarc configuration",
    "input: openapi.yaml     # path or http(s):// URL",
    "",
    "server:",
    "  # url: https://api.example.com    # overrides the document's first server",
    "  variables: \x7b\x7d",
    "    # region: eu",
    "",
    "defaults:",
    "  headers: \x7b\x7d",
    "    # Authorization: Bearer <token>",
    "  query: \x7b\x7d",
    "  cookies: \x7b\x7d",
    "",
    "name_mode: wire         # wire | local",
    "",
    "codegen:",
    "  output: src/api.rs",
    "  # client_name: PetStore"].map (· ++ "\n"))

end Config

end OpenApi
