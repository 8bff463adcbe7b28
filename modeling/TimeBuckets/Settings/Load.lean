/-
Where settings come from.

* `SettingsFault` — settings that cannot be had or used, with their wording;
* `Settings.load` — settings from a file;
* `Settings.loadWithEnvironment` — the same with texts replaced from the environment;
* `Settings.fromEnvironment` — the defaults with texts replaced from the environment;
* `Settings.loadDefault` — settings from the first usable file at the usual places.
-/
import TimeBuckets.Host.Basic
import TimeBuckets.Settings.Document
import TimeBuckets.Text.Quoted

namespace TimeBuckets

/-- Settings that cannot be had or used. -/
inductive SettingsFault
  | unreadable (path : String) (cause : FileFault)
  | malformed (path : String)
  | invalid (cause : SettingFault)
  deriving DecidableEq, Repr

namespace SettingsFault

/-- The wording of settings that cannot be had or used. -/
def message : SettingsFault → String
  | unreadable path cause =>
    "Failed to read config file " ++ Text.quotedPath path ++ ": " ++ cause.message
  | malformed path =>
    "Failed to parse config file " ++ Text.quotedPath path ++ ": TOML parse error"
  | invalid cause => "Invalid setting: " ++ (Fault.setting cause).message

end SettingsFault

namespace Settings

variable {m : Type → Type} [Monad m] [Host m]

/-- Settings from a file. -/
def load (path : String) : m (Except SettingsFault Settings) := do
  match ← Host.readFile path with
  | .error cause => return .error (.unreadable path cause)
  | .ok bytes =>
    match String.fromUTF8? ⟨bytes.toArray⟩ with
    | none => return .error (.unreadable path .notText)
    | some text =>
      match ofDocument? text with
      | none => return .error (.malformed path)
      | some s => return .ok s

/-- The variable that replaces a setting. -/
def variableName (name : String) : String := "CHRONICLE_ROLLUP_" ++ name

/-- The texts that the environment gives, by the names of their settings. -/
def readOverrides : m (List (String × String)) := do
  let found ← overrideNames.mapM fun name => do
    return (← Host.environment (variableName name)).map fun value => (name, value)
  return found.filterMap id

/-- Settings from a file, with texts replaced from the environment. -/
def loadWithEnvironment (path : String) : m (Except SettingsFault Settings) := do
  match ← load path with
  | .error fault => return .error fault
  | .ok s => return .ok (s.override (← readOverrides))

/-- The defaults, with texts replaced from the environment. -/
def fromEnvironment : m Settings := do
  return ({} : Settings).override (← readOverrides)

/-- The folder for settings of the user: the one that is set if its path is absolute, or else
a folder in the home folder. -/
def userFolder? : m (Option String) := do
  match ← Host.environment "XDG_CONFIG_HOME" with
  | some folder =>
    if folder.startsWith "/" then return some folder else home?
  | none => home?
where
  /-- The folder in the home folder. -/
  home? : m (Option String) := do
    match ← Host.environment "HOME" with
    | some home => return if home.isEmpty then none else some (home ++ "/.config")
    | none => return none

/-- The places where settings are looked for, in order. -/
def places : m (List String) := do
  let user := (← userFolder?).toList.map (· ++ "/chronicle-rollup/config.toml")
  return user ++ ["/etc/chronicle-rollup/config.toml", "./config.toml"]

/-- The settings in the first file of a list that can be used. -/
def firstUsable? : List String → m (Option Settings)
  | [] => return none
  | path :: rest => do
    match ← loadWithEnvironment path with
    | .ok s => return some s
    | .error _ => firstUsable? rest

/-- Settings from the first usable file at the usual places, or else the defaults. -/
def loadDefault : m Settings := do
  match ← firstUsable? (← places) with
  | some s => return s
  | none => fromEnvironment

end Settings

end TimeBuckets
