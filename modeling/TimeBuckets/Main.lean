/-
The program on a real machine.

* the instance of `Host` for programs that act on the machine;
* `main` — runs the command line and prints its outcome.
-/
import TimeBuckets.CommandLine.Run

namespace TimeBuckets

/-- The fault that an error of the machine stands for. -/
def FileFault.ofError : IO.Error → FileFault
  | .noFileOrDirectory _ _ _ => .notFound
  | .alreadyExists _ _ _ => .alreadyThere
  | .invalidArgument _ 36 _ => .nameTooLong
  | .inappropriateType _ code _ => if code = 20 ∨ code = -20 then .notFolder else .isFolder
  | e => .other (toString e)

/-- An action with its error as a fault. -/
def withFault {α : Type} (action : IO α) : IO (Except FileFault α) := do
  match ← action.toBaseIO with
  | .ok a => return .ok a
  | .error e => return .error (.ofError e)

instance : Host IO where
  readFile path := withFault do return (← IO.FS.readBinFile path).toList
  writeFile path text := withFault (IO.FS.writeFile path text)
  makeFolders path := withFault do unless path.isEmpty do IO.FS.createDirAll path
  environment name := IO.getEnv name

end TimeBuckets

/-- Runs the command line. -/
def main (arguments : List String) : IO UInt32 := do
  let outcome ← TimeBuckets.CommandLine.run arguments
  IO.print outcome.out
  IO.eprint outcome.err
  return outcome.code.toUInt32
