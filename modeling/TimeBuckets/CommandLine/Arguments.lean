/-
Arguments of the command line.

* `Invocation` — what the user asks for;
* `Halt` — reasons to stop before anything is done: help, the version or misuse;
* `readInvocation` — the invocation that a list of arguments stands for.

An option takes its value behind an equals sign or from the next argument, a short one also
directly.  An argument that starts with a dash is no value, and a double dash makes all
arguments after it positional.  An option may be given once before the subcommand and once
after it, and then the later one counts.
-/
import TimeBuckets.Text.Numeral

namespace TimeBuckets.CommandLine

open Text (word? count?)

/-- An option that takes a value. -/
inductive OptionName
  | settings
  | format
  | interval
  | statistic
  | zone
  | rate
  | seek
  | timeColumn
  | valueColumn
  | output
  deriving DecidableEq, Repr

/-- What an argument with a dash stands for. -/
inductive Flag
  | value (name : OptionName)
  | help
  | version
  deriving DecidableEq, Repr

/-- A reason to stop before anything is done. -/
inductive Halt
  | help
  | version
  | misuse
  deriving DecidableEq, Repr

/-- The flags of a command: their long names, and their letters if they have one. -/
abbrev FlagTable := List (String × Option Char × Flag)

/-- The options that may stand before and after the subcommand. -/
def globalFlags : FlagTable :=
  [("config", some 'c', .value .settings), ("format", some 'f', .value .format),
   ("help", some 'h', .help)]

/-- The flags before the subcommand. -/
def topFlags : FlagTable := ("version", some 'V', .version) :: globalFlags

/-- The flags of the subcommand that resamples a table. -/
def resampleFlags : FlagTable :=
  [("interval", some 'i', .value .interval), ("aggregator", some 'a', .value .statistic),
   ("timezone", some 'z', .value .zone), ("rate", some 'r', .value .rate),
   ("seek", none, .value .seek), ("timestamp-col", none, .value .timeColumn),
   ("value-col", none, .value .valueColumn)] ++ globalFlags

/-- The flags of the subcommand that writes settings. -/
def settingsFlags : FlagTable := ("output", some 'o', .value .output) :: globalFlags

/-- Whether a text can be the value of an option: paths are not empty, and numbers fit. -/
def OptionName.accepts (name : OptionName) (value : String) : Bool :=
  match name with
  | settings => value ≠ ""
  | output => value ≠ ""
  | seek => (word? value.toList).isSome
  | timeColumn => (count? value.toList).isSome
  | valueColumn => (count? value.toList).isSome
  | _ => true

/-- The arguments of one command. -/
structure Given where
  values : List (OptionName × String) := []
  positional : Option String := none
  deriving DecidableEq, Repr

namespace Given

/-- The arguments with the value of an option, which must not have one yet. -/
def withValue (g : Given) (name : OptionName) (value : String) : Except Halt Given :=
  if name.accepts value && (g.values.lookup name).isNone then
    .ok { g with values := (name, value) :: g.values }
  else
    .error .misuse

/-- The arguments with one that stands for itself, of which there may be one, not empty. -/
def withPositional (g : Given) (value : String) : Except Halt Given :=
  if value ≠ "" && g.positional.isNone then .ok { g with positional := some value }
  else .error .misuse

end Given

/-- An argument that starts with a dash, taken apart. -/
structure Dashed where
  flag : Flag
  /-- The value that is attached to it. -/
  attached : Option String

/-- The long name and the value behind the first equals sign of an argument. -/
def splitEquals (s : List Char) : String × Option String :=
  let name := s.takeWhile (· ≠ '=')
  match s.drop name.length with
  | [] => (String.ofList name, none)
  | _ :: value => (String.ofList name, some (String.ofList value))

/-- An argument with two dashes. -/
def longFlag? (table : FlagTable) (s : List Char) : Option Dashed :=
  let (name, attached) := splitEquals s
  (table.lookup name).map fun entry => ⟨entry.2, attached⟩

/-- An argument with one dash.  What stands behind the letter is attached, without an equals
sign in front. -/
def shortFlag? (table : FlagTable) (letter : Char) (rest : List Char) : Option Dashed :=
  let attached := match rest with
    | [] => none
    | '=' :: value => some (String.ofList value)
    | value => some (String.ofList value)
  (table.find? fun entry => entry.2.1 == some letter).map fun entry => ⟨entry.2.2, attached⟩

/-- How an argument reads. -/
inductive Reading
  /-- A double dash. -/
  | escape
  /-- A flag that may be long. -/
  | flag (found : Option Dashed) (long : Bool)
  /-- Anything else. -/
  | plain

/-- How an argument reads.  A single dash is a plain one. -/
def readingOf (table : FlagTable) (argument : String) : Reading :=
  match argument.toList with
  | ['-', '-'] => .escape
  | '-' :: '-' :: rest => .flag (longFlag? table rest) true
  | '-' :: letter :: rest => .flag (shortFlag? table letter rest) false
  | _ => .plain

/-- Where reading arguments has got to. -/
structure Progress where
  given : Given := {}
  /-- An option that waits for its value. -/
  pending : Option OptionName := none
  /-- Whether a double dash has been passed. -/
  escaped : Bool := false

/-- Reads a flag.  An option that waits for its value must not wait any longer. -/
def readFlag (p : Progress) (found : Option Dashed) (long : Bool) : Except Halt Progress :=
  if p.pending.isSome then .error .misuse
  else
    match found with
    | none => .error .misuse
    | some ⟨.value name, some value⟩ => do
      return { p with given := ← p.given.withValue name value }
    | some ⟨.value name, none⟩ => .ok { p with pending := some name }
    | some ⟨.help, attached⟩ => .error (if long && attached.isSome then .misuse else .help)
    | some ⟨.version, attached⟩ => .error (if long && attached.isSome then .misuse else .version)

/-- What plain arguments are to a command. -/
inductive PlainUse
  /-- The first one is a subcommand. -/
  | subcommand
  /-- There is one, which stands for itself. -/
  | input
  /-- There is none. -/
  | unused
  deriving DecidableEq, Repr

/-- Reads an argument that stands for itself. -/
def readPlain (use : PlainUse) (p : Progress) (argument : String) : Except Halt Progress :=
  if use = .input then do return { p with given := ← p.given.withPositional argument }
  else .error .misuse

/-- Reads the arguments of a command up to its subcommand, if it takes one, and gives what is
left from there on. -/
def readArguments (table : FlagTable) (use : PlainUse) :
    List String → Progress → Except Halt (Given × List String)
  | [], p => if p.pending.isSome then .error .misuse else .ok (p.given, [])
  | argument :: rest, p =>
    if p.escaped then do
      readArguments table use rest (← readPlain use p argument)
    else
      match readingOf table argument, p.pending with
      | .escape, some _ => .error .misuse
      | .escape, none => readArguments table use rest { p with escaped := true }
      | .flag found long, _ => do
        readArguments table use rest (← readFlag p found long)
      | .plain, some name => do
        let given ← p.given.withValue name argument
        readArguments table use rest { p with given := given, pending := none }
      | .plain, none =>
        if use = .subcommand then .ok (p.given, argument :: rest)
        else do
          readArguments table use rest (← readPlain use p argument)

/-- What resampling a table takes: the table, and settings given as options. -/
structure ResampleRequest where
  input : String
  interval : Option String
  statistic : Option String
  zone : Option String
  rate : Option String
  seek : Option Word
  timeColumn : Option Nat
  valueColumn : Option Nat
  deriving DecidableEq, Repr

/-- What the user asks for. -/
inductive Command
  | resample (request : ResampleRequest)
  | writeSettings (output : Option String)
  deriving DecidableEq, Repr

/-- A command with the options that all commands have. -/
structure Invocation where
  settingsPath : Option String
  format : String
  command : Command
  deriving DecidableEq, Repr

/-- The names of the subcommands. -/
def subcommandNames : List String := ["downsample", "config", "help"]

/-- What asking for help about subcommands leads to. -/
def readHelp : List String → Halt
  | [] => .help
  | [name] => if subcommandNames.contains name then .help else .misuse
  | _ => .misuse

/-- The request to resample, from the arguments of its subcommand. -/
def resampleCommand (g : Given) : Except Halt Command :=
  match g.positional with
  | none => .error .misuse
  | some input =>
    .ok (.resample
      { input := input
        interval := g.values.lookup .interval
        statistic := g.values.lookup .statistic
        zone := g.values.lookup .zone
        rate := g.values.lookup .rate
        seek := (g.values.lookup .seek).bind fun v => word? v.toList
        timeColumn := (g.values.lookup .timeColumn).bind fun v => count? v.toList
        valueColumn := (g.values.lookup .valueColumn).bind fun v => count? v.toList })

/-- A command with the options that all commands have: those behind the subcommand count more
than those in front of it. -/
def invocation (top inner : Given) (command : Command) : Invocation where
  settingsPath := (inner.values.lookup .settings).or (top.values.lookup .settings)
  format := ((inner.values.lookup .format).or (top.values.lookup .format)).getD "table"
  command := command

/-- The invocation that a list of arguments stands for. -/
def readInvocation (arguments : List String) : Except Halt Invocation := do
  let (top, rest) ← readArguments topFlags .subcommand arguments {}
  match rest with
  | "downsample" :: rest =>
    let (inner, _) ← readArguments resampleFlags .input rest {}
    return invocation top inner (← resampleCommand inner)
  | "config" :: rest =>
    let (inner, _) ← readArguments settingsFlags .unused rest {}
    return invocation top inner (.writeSettings (inner.values.lookup .output))
  | "help" :: rest => throw (readHelp rest)
  | _ => throw .misuse

end TimeBuckets.CommandLine
