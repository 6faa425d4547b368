import OpenApi.CommandLine.Pair
import OpenApi.Config
import OpenApi.Document.Reader
import OpenApi.Wrapper.Printer

/-!
# Failures of commands

A command that fails says what it could not do, and then the causes, the outermost first.
-/

namespace OpenApi

/-- What a store of files answers when it cannot do something. -/
inductive FileFault where
  | notFound
  | alreadyThere
  | notADirectory
  | isADirectory
  | other (text : String)
  deriving DecidableEq, Repr

def FileFault.message : FileFault → String
  | .notFound => "No such file or directory (os error 2)"
  | .alreadyThere => "File exists (os error 17)"
  | .notADirectory => "Not a directory (os error 20)"
  | .isADirectory => "Is a directory (os error 21)"
  | .other text => text

namespace CommandLine

structure Failure where
  message : String
  causes : List String := []
  deriving DecidableEq, Repr

namespace Failure

/-- A failure in the light of what was to be done. -/
def within (f : Failure) (message : String) : Failure :=
  ⟨message, f.message :: f.causes⟩

def ofFile (e : FileFault) : Failure :=
  { message := e.message }

def ofPair (e : PairError) : Failure :=
  { message := e.message }

def ofDocument (e : DocumentError) : Failure where
  message := e.message
  causes := match e with
    | .jsonText cause => [cause.message]
    | .mismatch cause => [cause.message]
    | _ => []

def ofSchema (e : SchemaError) : Failure :=
  ⟨s!"schema error: {e.message}", [e.message]⟩

def ofInvocation (e : InvokeError) : Failure where
  message := e.message
  causes := match e with
    | .codec cause => cause.message :: match cause with
      | .invalidDateTime _ fault => [fault.message]
      | _ => []
    | .transport cause => cause.message :: cause.cause.toList
    | .invalidJson cause => [cause.message]
    | _ => []

def ofWrapper (e : WrapperError) : Failure :=
  { message := e.message }

/-! ## Text -/

/-- Indents the lines of a text behind the first. -/
def indentLines (margin : String) (s : String) : String :=
  Text.replaceAll s "\n" ("\n" ++ margin)

/-- Some texts, numbered from zero. -/
def numbered (texts : List String) : List String :=
  texts.zipIdx.map fun (text, i) =>
    let number := toString i
    let margin := String.ofList (List.replicate (5 - number.length) ' ')
    margin ++ number ++ ": " ++ indentLines "       " text

def causeLines : List String → List String
  | [] => []
  | [cause] => ["", "Caused by:", "    " ++ indentLines "    " cause]
  | causes => ["", "Caused by:"] ++ numbered causes

/-- The text that a failed command leaves. -/
def render (f : Failure) : String :=
  String.join ((s!"Error: {f.message}" :: causeLines f.causes).map (· ++ "\n"))

end Failure

end CommandLine

end OpenApi
