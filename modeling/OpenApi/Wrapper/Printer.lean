import OpenApi.Wrapper.Basic

/-!
# The text of a wrapper

A wrapper is written line by line.
-/

namespace OpenApi.Wrapper

/-- A line of a method's comment. -/
def commentLine (line : String) : String :=
  if line.isEmpty then "    ///" else "    /// " ++ line

def bodyLines (m : Method) : List String :=
  if m.arguments.isEmpty then ["        let args = Args::new();"]
  else
    "        let mut args = Args::new();" :: m.arguments.map fun a =>
      s!"        args.insert({a.key}.to_string(), Value::from({a.identifier}));"

def methodLines (m : Method) : List String :=
  m.doc.map commentLine
    ++ (if m.deprecated then ["    #[deprecated]"] else [])
    ++ [s!"    pub fn {m.name}(", "        &self,"]
    ++ m.arguments.map (fun a => s!"        {a.identifier}: {a.type},")
    ++ ["    ) -> Result<Option<Value>, InvokeError> \x7b"]
    ++ bodyLines m
    ++ [s!"        self.client.invoke({m.operationId}, &args)", "    \x7d"]

def accessorLines (s : Section) : List String :=
  ["",
    s!"    /// Operations tagged `{s.tag}`.",
    s!"    pub fn {s.accessor}(&self) -> {s.typeName}<'c> \x7b",
    s!"        {s.typeName} \x7b",
    "            client: self.client,",
    "        \x7d",
    "    \x7d"]

/-- A type that holds the client, up to its methods. -/
def structLines (typeName : String) : List String :=
  [s!"pub struct {typeName}<'c> \x7b",
    "    client: &'c Client,",
    "\x7d",
    "",
    s!"impl<'c> {typeName}<'c> \x7b"]

def sectionLines (s : Section) : List String :=
  "" :: structLines s.typeName
    ++ (List.intersperse [""] (s.methods.map methodLines)).flatten ++ ["\x7d"]

def lines (w : Wrapper) : List String :=
  [s!"//! Typed wrappers for {w.title} {w.version}.",
    "//!",
    "//! Generated by `oarc generate`. Do not edit by hand.",
    "",
    "#![allow(clippy::too_many_arguments)]",
    "",
    "use oarc_core::\x7bArgs, Client, InvokeError, Value\x7d;",
    "",
    "/// Entry point over a runtime [`Client`]."]
    ++ structLines w.typeName
    ++ ["    pub fn new(client: &'c Client) -> Self \x7b",
      "        Self \x7b client \x7d",
      "    \x7d"]
    ++ w.sections.flatMap accessorLines
    ++ w.methods.flatMap (fun m => "" :: methodLines m)
    ++ ["\x7d"]
    ++ w.sections.flatMap sectionLines

def render (w : Wrapper) : String :=
  String.join (w.lines.map (· ++ "\n"))

/-- The text of a client's wrapper. -/
def generate (client : Client) (options : WrapperOptions) : Logged WrapperError String := do
  let typeName ← Logged.ofExcept (clientName client.title options)
  Logged.notice (.rendering typeName options.output)
  return (← ofClient client typeName).render

end OpenApi.Wrapper
