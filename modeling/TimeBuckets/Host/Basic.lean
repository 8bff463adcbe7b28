/-
The world around the command line.

* `Host` — files, folders and variables, as operations of a monad;
* `parentFolder?` — the folder of a path.

Everything else works on values alone.
-/
import TimeBuckets.Fault

namespace TimeBuckets

/-- Files, folders and variables. -/
class Host (m : Type → Type) where
  /-- The bytes of a file. -/
  readFile : String → m (Except FileFault (List UInt8))
  /-- Makes or replaces a file. -/
  writeFile : String → String → m (Except FileFault Unit)
  /-- Makes a folder and all folders above it that are missing. -/
  makeFolders : String → m (Except FileFault Unit)
  /-- The value of a variable, if it is set. -/
  environment : String → m (Option String)

/-- A path in reverse, without the slashes and single dots at its end. -/
def bareEnd : List Char → List Char
  | '/' :: rest => bareEnd rest
  | '.' :: '/' :: rest => bareEnd rest
  | path => path

/-- The folder of a path, as it is written there: empty for a single name, and none for a
root. -/
def parentFolder? (path : String) : Option String :=
  match bareEnd path.toList.reverse with
  | [] => none
  | bare =>
    match bareEnd (bare.dropWhile (· ≠ '/')) with
    | [] => some (if path.startsWith "/" then "/" else "")
    | folder => some (String.ofList folder.reverse)

end TimeBuckets
