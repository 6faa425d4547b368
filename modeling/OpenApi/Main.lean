import OpenApi.CommandLine.Run

/-!
# The program

The command line on the files of the machine. The program has no network: no request leaves it, and
documents are files.
-/

namespace OpenApi.CommandLine

/-- The numbers that the system gives to faults. -/
def faultOfCode (code : UInt32) (text : String) : FileFault :=
  match code.toNat with
  | 2 => .notFound
  | 17 => .alreadyThere
  | 20 => .notADirectory
  | 21 => .isADirectory
  | _ => .other text

def faultOf (e : IO.Error) : FileFault :=
  match e with
  | .noFileOrDirectory _ code _ | .inappropriateType _ code _ | .alreadyExists _ code _ =>
    faultOfCode code (toString e)
  | e => .other (toString e)

def attempt {α : Type} (action : IO α) : IO (Except FileFault α) := do
  match ← action.toBaseIO with
  | .ok a => return .ok a
  | .error e => return .error (faultOf e)

def noNetwork {α : Type} : IO (Except TransportError α) :=
  return .error { message := "no network" }

/-- The machine. -/
def machine : Host IO where
  read path := attempt (IO.FS.readFile path)
  has path := return (← attempt (IO.FS.Handle.mk path .read)).toBool
  makeDirectory path := attempt (if path.isEmpty then pure () else IO.FS.createDirAll path)
  write path text := attempt (IO.FS.writeFile path text)
  fetch _ := noNetwork
  transport _ := noNetwork

end OpenApi.CommandLine

def main (words : List String) : IO UInt32 := do
  let report ← OpenApi.CommandLine.run OpenApi.CommandLine.machine words
  IO.print report.results
  IO.eprint report.remarks
  return report.exitCode.toUInt32
