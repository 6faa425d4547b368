import OpenApi.CommandLine.Run

/-!
# Folders in memory

A host that keeps its files by their names, below one directory. A directory is there when a file
is in it or when it was made. Such a host has no network.
-/

namespace OpenApi.CommandLine

structure Folder where
  files : OrderedMap String String := []
  /-- Directories that were made, each as the names that lead to it. -/
  directories : List (List String) := []
  /-- The names of the files that were written, each once. -/
  written : List String := []

namespace Folder

/-- The names that lead to a file. A dot leads nowhere, and two lead back. -/
def steps (path : String) : List String :=
  (path.splitOn "/").foldl (fun names name =>
    if name = "" || name = "." then names
    else if name = ".." then names.dropLast
    else names ++ [name]) []

def join (names : List String) : String :=
  String.intercalate "/" names

def hasFile (f : Folder) (names : List String) : Bool :=
  OrderedMap.contains f.files (join names)

def hasDirectory (f : Folder) (names : List String) : Bool :=
  names.isEmpty || f.directories.any (names.isPrefixOf ·)
    || f.files.any fun file => Text.startsWith file.1 (join names ++ "/")

/-- Whether a file stands on the way. -/
def isBlocked (f : Folder) (names : List String) : Bool :=
  (List.range names.length).any fun n => f.hasFile (names.take n)

def endsInSlash (path : String) : Bool :=
  path.toList.getLast? == some '/'

def read (f : Folder) (path : String) : Except FileFault String :=
  let names := steps path
  match OrderedMap.get? f.files (join names) with
  | some text => if endsInSlash path then .error .notADirectory else .ok text
  | none =>
    if path.isEmpty then .error .notFound
    else if f.isBlocked names then .error .notADirectory
    else if f.hasDirectory names then .error .isADirectory
    else .error .notFound

def makeDirectory (f : Folder) (path : String) : Except FileFault Folder :=
  let names := steps path
  if f.isBlocked names then .error .notADirectory
  else if f.hasFile names then .error .alreadyThere
  else .ok { f with directories := f.directories ++ [names] }

def write (f : Folder) (path text : String) : Except FileFault Folder :=
  let names := steps path
  let name := join names
  match f.read path with
  | .error .notFound =>
    if path.isEmpty || !f.hasDirectory names.dropLast then .error .notFound
    else if endsInSlash path then .error .isADirectory
    else .ok { f with files := f.files.insert name text, written := f.written ++ [name] }
  | .error fault => .error fault
  | .ok _ => .ok { f with
      files := f.files.insert name text
      written := if f.written.contains name then f.written else f.written ++ [name] }

/-- Runs a change of the folder, which stays as it is if the change fails. -/
def change (step : Folder → Except FileFault Folder) : StateM Folder (Except FileFault Unit) := do
  match step (← get) with
  | .ok f => do
    set f
    return .ok ()
  | .error fault => return .error fault

def noNetwork : TransportError :=
  { message := "no network" }

def host : Host (StateM Folder) where
  read path := return (← get).read path
  has path := return match (← get).read path with
    | .ok _ | .error .isADirectory => true
    | .error _ => false
  makeDirectory path := change (·.makeDirectory path)
  write path text := change (·.write path text)
  fetch _ := return .error noNetwork
  transport _ := return .error noNetwork

end Folder

end OpenApi.CommandLine
