/-
The command line.

* `Outcome` — the exit code and what is printed;
* `resample` — the points of a table of samples, by the settings;
* `run` — carries out a list of arguments.

Settings come from a file and the environment, and options on the command line replace them.
-/
import TimeBuckets.CommandLine.Arguments
import TimeBuckets.CommandLine.Logging
import TimeBuckets.CommandLine.Report
import TimeBuckets.Resampler
import TimeBuckets.Settings.Load

namespace TimeBuckets.CommandLine

/-- The exit code and what is printed. -/
structure Outcome where
  code : Nat
  out : String := ""
  err : String := ""
  deriving DecidableEq, Repr

/-- The causes that a fault of a source has below its own message. -/
def sourceCauses : SourceFault → List String
  | .file cause => [cause.message]
  | .unreadable cause => [cause.message]
  | _ => []

/-- The message of a fault with the causes below it. -/
def faultChain (f : Fault) : List String :=
  match f with
  | .source cause => f.message :: cause.message :: sourceCauses cause
  | _ => [f.message]

/-- A failure from a chain of messages. -/
def failureOf : List String → Failure
  | [] => .of "" []
  | message :: causes => .of message causes

/-- The settings with those replaced that are given as options. -/
def ResampleRequest.apply (r : ResampleRequest) (s : Settings) : Settings :=
  { s with
    buckets :=
      { interval := r.interval.getD s.buckets.interval
        statistic := r.statistic.getD s.buckets.statistic
        zone := r.zone.getD s.buckets.zone
        rate := r.rate.or s.buckets.rate }
    input :=
      { s.input with
        timeColumn := r.timeColumn.getD s.input.timeColumn
        valueColumn := r.valueColumn.getD s.input.valueColumn } }

/-- The resampler over a feed, by the settings. -/
def resamplerFor (s : BucketSettings) (feed : Feed) : Except Fault AnyResampler := do
  let setting {α : Type} (read : Except SettingFault α) : Except Fault α :=
    read.mapError Fault.setting
  AnyResampler.build feed (← setting s.readInterval) (← setting s.readStatistic)
    (← setting s.readZone) (← setting s.readRate)

/-- The points of a feed, by the settings, from the first complete bucket at a time on. -/
def resample (s : BucketSettings) (feed : Feed) (seek : Option Word) :
    Except Failure (List Point) := do
  let ⟨_, r⟩ ← (resamplerFor s feed).mapError fun f => failureOf (faultChain f)
  let r ← match seek with
    | none => pure r
    | some time =>
      match Resampler.seek time r with
      | .ok () r => pure r
      | .error f _ => throw (failureOf (faultChain f))
  let (drained, _) := r.drainAll
  match drained.fault with
  | none => return drained.points
  -- this ends the program without a report
  | some .overflow => throw ⟨Fault.overflow.message, [], 101⟩
  | some f => throw (.of "downsampling failed" (faultChain f))

variable {m : Type → Type} [Monad m] [Host m]

/-- A failure unless what is logged can be read: from the environment, or else from the
settings. -/
def checkLogging (s : LogSettings) : m (Except Failure Unit) := do
  match (← Host.environment "RUST_LOG").map filterFault? with
  | some none => return .ok ()
  | _ =>
    match filterFault? ("chronicle_rollup=" ++ s.level) with
    | none => return .ok ()
    | some fault => return .error (.of "invalid log level" fault.causes)

/-- The samples of a table in a file. -/
def readTable (layout : Table.Layout) (path : String) : m (Except SourceFault Feed) := do
  match ← Host.readFile path with
  | .ok bytes => return layout.read bytes
  | .error .isFolder => return .error (.unreadable .isFolder)
  | .error cause => return .error (.file cause)

/-- Resamples a table and gives the text of its points. -/
def runResample (s : Settings) (format : String) (seek : Option Word) (input : String) :
    m (Except Failure String) := do
  match ← checkLogging s.log with
  | .error f => return .error f
  | .ok () =>
    match s.validate with
    | .error cause =>
      return .error (.of "invalid configuration"
        [(SettingsFault.invalid cause).message, (Fault.setting cause).message])
    | .ok () =>
      match ← readTable s.input input with
      | .error cause =>
        return .error (.of ("reading samples from " ++ Text.quotedPath input)
          (cause.message :: sourceCauses cause))
      | .ok feed =>
        return (resample s.buckets feed seek).map fun points =>
          pointsText (.ofName format) ((Zone.find? s.buckets.zone).getD Zone.utc) points

/-- Writes settings to a file, or gives their text. -/
def runSettings (output : Option String) : m (Except Failure String) := do
  match output with
  | none => return .ok Settings.sampleDocument
  | some path =>
    let made ← match parentFolder? path with
      | some folder => Host.makeFolders folder
      | none => pure (.ok ())
    match made with
    | .error cause => return .error (.of cause.message [])
    | .ok () =>
      match ← Host.writeFile path Settings.sampleDocument with
      | .error cause =>
        return .error (.of ("writing config to " ++ Text.quotedPath path) [cause.message])
      | .ok () => return .ok ("Config written to " ++ Text.quotedPath path ++ "\n")

/-- The settings for an invocation: from the file that it names, or from the usual places. -/
def settingsFor (i : Invocation) : m (Except Failure Settings) := do
  match i.settingsPath with
  | none => return .ok (← Settings.loadDefault)
  | some path =>
    return (← Settings.loadWithEnvironment path).mapError fun fault =>
      .of ("loading config from " ++ Text.quotedPath path) [fault.message]

/-- Carries out an invocation. -/
def invoke (i : Invocation) : m (Except Failure String) := do
  match ← settingsFor i with
  | .error f => return .error f
  | .ok s =>
    match i.command with
    | .resample request =>
      runResample (request.apply s) i.format request.seek request.input
    | .writeSettings output => runSettings output

/-- The name and version of the program. -/
def versionText : String := "chronicle-rollup 0.1.0\n"

/-- How the program is used. -/
def helpText : String :=
  "Downsample time-series samples into aggregated buckets\n\n" ++
    "Usage: chronicle-rollup [OPTIONS] <COMMAND>\n"

/-- Carries out a list of arguments. -/
def run (arguments : List String) : m Outcome := do
  match readInvocation arguments with
  | .error .help => return { code := 0, out := helpText }
  | .error .version => return { code := 0, out := versionText }
  | .error .misuse => return { code := 2, err := helpText }
  | .ok i =>
    match ← invoke i with
    | .ok out => return { code := 0, out := out }
    | .error f => return { code := f.code, err := f.text }

end TimeBuckets.CommandLine
