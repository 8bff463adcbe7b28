/-
A world in memory.

* `Disk` — files, folders and variables, with a working folder;
* `Disk.ofFiles` — a disk with given files;
* the instance of `Host` for programs with a disk as their state.
-/
import TimeBuckets.Host.Basic

namespace TimeBuckets

/-- A world in memory.  Paths are lists of names from the root on. -/
structure Disk where
  files : List (List String × List UInt8)
  folders : List (List String)
  /-- The folder in which relative paths start. -/
  working : List String
  environment : List (String × String)

namespace Disk

/-- What a path leads to. -/
inductive Place
  | file (path : List String) (bytes : List UInt8)
  | folder (path : List String)
  /-- Nothing yet, in a folder that is there. -/
  | vacant (path : List String)

/-- Whether there is a folder. -/
def hasFolder (d : Disk) (path : List String) : Bool := path.isEmpty || d.folders.contains path

/-- The greatest number of bytes of a name. -/
def nameLimit : Nat := 255

/-- The greatest number of bytes of a path. -/
def pathLimit : Nat := 4095

/-- What names lead to from a folder on.  A dot at the end asks for a folder. -/
def walk (d : Disk) (path : List String) : List String → Except FileFault Place
  | [] => .ok (.folder path)
  | "." :: rest => d.walk path rest
  | ".." :: rest => d.walk path.dropLast rest
  | name :: rest =>
    let next := path ++ [name]
    if nameLimit < name.utf8ByteSize then .error .nameTooLong
    else if d.hasFolder next then d.walk next rest
    else
      match d.files.lookup next with
      | some bytes => if rest.isEmpty then .ok (.file next bytes) else .error .notFolder
      | none => if rest.isEmpty then .ok (.vacant next) else .error .notFound

/-- The folder in which a path starts. -/
def startOf (d : Disk) (path : String) : List String :=
  if path.startsWith "/" then [] else d.working

/-- The names in a path. -/
def namesOf (path : String) : List String := (path.splitOn "/").filter (· ≠ "")

/-- What names lead to from the start of a path on, unless the path is too long. -/
def walkFrom (d : Disk) (path : String) (names : List String) : Except FileFault Place :=
  if pathLimit < path.utf8ByteSize then .error .nameTooLong else d.walk (d.startOf path) names

/-- What a path leads to.  A slash at the end asks for a folder. -/
def locate (d : Disk) (path : String) : Except FileFault Place :=
  d.walkFrom path (if path.endsWith "/" then namesOf path ++ ["."] else namesOf path)

/-- All folders above a path. -/
def above (path : List String) : List (List String) :=
  (List.range path.length).map path.take

/-- A disk with files at paths below the working folder. -/
def ofFiles (working : List String) (files : List (String × List UInt8))
    (environment : List (String × String)) : Disk :=
  let placed := files.map fun f => (working ++ namesOf f.1, f.2)
  ⟨placed, working :: above working ++ placed.flatMap fun f => above f.1, working, environment⟩

/-- The bytes of a file. -/
def readFile (d : Disk) (path : String) : Except FileFault (List UInt8) :=
  match d.locate path with
  | .ok (.file _ bytes) => .ok bytes
  | .ok (.folder _) => .error .isFolder
  | .ok (.vacant _) => .error .notFound
  | .error fault => .error fault

/-- The text of a file, if there is such a file and it holds a text. -/
def textOf? (d : Disk) (path : String) : Option String :=
  match d.readFile path with
  | .ok bytes => String.fromUTF8? ⟨bytes.toArray⟩
  | .error _ => none

/-- What a path leads to when a file is to be there.  With a slash at its end a path is that of
a folder, whatever the name in front of the slash. -/
def target (d : Disk) (path : String) : Except FileFault Place :=
  let names := namesOf path
  d.walkFrom path (if path.endsWith "/" then names.dropLast ++ ["."] else names)

/-- The disk with a file made or replaced. -/
def writeFile (d : Disk) (path : String) (text : String) : Except FileFault Disk := do
  let bytes := text.toUTF8.toList
  match ← d.target path with
  | .file place _ => return { d with files := (place, bytes) :: d.files.filter (·.1 ≠ place) }
  | .vacant place => return { d with files := (place, bytes) :: d.files }
  | .folder _ => throw .isFolder

/-- The disk with one folder made, which is fine if it is there already. -/
def makeFolder (d : Disk) (start names : List String) : Except FileFault Disk :=
  match d.walk start names with
  | .ok (.folder _) => .ok d
  | .ok (.file _ _) => .error .alreadyThere
  | .ok (.vacant place) => .ok { d with folders := place :: d.folders }
  | .error fault => .error fault

/-- The disk with a folder made, and those above it only if the way to it is missing.  The
names of its path come in reverse. -/
def makeWay (d : Disk) (start : List String) : List String → Except FileFault Disk
  | [] => .ok d
  | name :: above =>
    match d.makeFolder start (name :: above).reverse with
    | .error .notFound => do
      let d ← d.makeWay start above
      d.makeFolder start (name :: above).reverse
    | outcome => outcome

/-- The parts of a path, where empty parts do not count, nor does a dot behind other parts. -/
def pathParts (path : String) : List String :=
  match namesOf path with
  | "." :: rest => "." :: rest.filter (· ≠ ".")
  | parts => parts.filter (· ≠ ".")

/-- The disk with a folder and the missing folders above it made. -/
def makeFolders (d : Disk) (path : String) : Except FileFault Disk :=
  if pathLimit < path.utf8ByteSize then .error .nameTooLong
  else d.makeWay (d.startOf path) (pathParts path).reverse

/-- An operation that changes the disk unless it fails. -/
def update (change : Disk → Except FileFault Disk) : StateM Disk (Except FileFault Unit) := do
  match change (← get) with
  | .ok d =>
    set d
    return .ok ()
  | .error fault => return .error fault

instance : Host (StateM Disk) where
  readFile path := do return (← get).readFile path
  writeFile path text := update fun d => d.writeFile path text
  makeFolders path := update fun d => d.makeFolders path
  environment name := do return (← get).environment.lookup name

end Disk

end TimeBuckets
