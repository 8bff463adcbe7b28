/-
Settings.

* `Settings` — how samples are read and put into buckets, and what is logged;
* `Settings.override` — settings with some of their texts replaced;
* `Settings.validate` — the first setting that cannot be used, if there is one;
* `Settings.sampleDocument` — a document with all settings at their defaults.

Texts are kept as they are given and read only when they are needed.
-/
import TimeBuckets.Interval
import TimeBuckets.Rate
import TimeBuckets.Statistic
import TimeBuckets.Table.Samples
import TimeBuckets.Zone.Names

namespace TimeBuckets

/-- How samples are put into buckets, as the user gives it. -/
structure BucketSettings where
  interval : String := "1h"
  statistic : String := "avg"
  zone : String := "UTC"
  rate : Option String := none
  deriving DecidableEq, Repr

namespace BucketSettings

/-- The interval of the buckets. -/
def readInterval (s : BucketSettings) : Except SettingFault Interval := Interval.parse s.interval

/-- The statistic of the buckets. -/
def readStatistic (s : BucketSettings) : Except SettingFault Statistic :=
  Statistic.parse s.statistic

/-- The time zone of the buckets. -/
def readZone (s : BucketSettings) : Except SettingFault Zone := Zone.parse s.zone

/-- The rate options, which mean plain values if they are left out. -/
def readRate (s : BucketSettings) : Except SettingFault RateOptions :=
  match s.rate with
  | some text => RateOptions.parse text
  | none => .ok .plain

end BucketSettings

/-- What is logged, and how. -/
structure LogSettings where
  level : String := "info"
  format : String := "pretty"
  deriving DecidableEq, Repr

/-- All settings. -/
structure Settings where
  buckets : BucketSettings := {}
  input : Table.Layout := {}
  log : LogSettings := {}
  deriving DecidableEq, Repr

namespace Settings

/-- The names of the settings that the environment can replace. -/
def overrideNames : List String :=
  ["INTERVAL", "AGGREGATOR", "TIMEZONE", "RATE", "LOG_LEVEL", "LOG_FORMAT"]

/-- The settings with texts replaced that are given by name. -/
def override (s : Settings) (given : List (String × String)) : Settings :=
  { s with
    buckets :=
      { interval := (given.lookup "INTERVAL").getD s.buckets.interval
        statistic := (given.lookup "AGGREGATOR").getD s.buckets.statistic
        zone := (given.lookup "TIMEZONE").getD s.buckets.zone
        rate := (given.lookup "RATE").or s.buckets.rate }
    log :=
      { level := (given.lookup "LOG_LEVEL").getD s.log.level
        format := (given.lookup "LOG_FORMAT").getD s.log.format } }

/-- A fault unless every text about the buckets can be read. -/
def validate (s : Settings) : Except SettingFault Unit := do
  let _ ← s.buckets.readInterval
  let _ ← s.buckets.readStatistic
  let _ ← s.buckets.readZone
  let _ ← s.buckets.readRate

/-- The lines of a document with all settings at their defaults. -/
def sampleLines : List String :=
  ["# chronicle-rollup configuration",
   "#",
   "# Environment variables override these settings:",
   "# - CHRONICLE_ROLLUP_INTERVAL",
   "# - CHRONICLE_ROLLUP_AGGREGATOR",
   "# - CHRONICLE_ROLLUP_TIMEZONE",
   "# - CHRONICLE_ROLLUP_RATE",
   "# - CHRONICLE_ROLLUP_LOG_LEVEL",
   "# - CHRONICLE_ROLLUP_LOG_FORMAT",
   "",
   "[downsample]",
   "# Bucket width: <amount><unit> with unit ms, s, m, h, d, w,",
   "# n (calendar month), y (calendar year) or o (active runs)",
   "interval = \"1h\"",
   "",
   "# Reducer: sum, avg, min, max, first, last, count",
   "aggregator = \"avg\"",
   "",
   "# Time zone used to align buckets (IANA name)",
   "timezone = \"UTC\"",
   "",
   "# Treat values as counters: kind[,max[,reset]]",
   "# kind: counter | mono-inc-counter | bi-inc-counter | bi-dec-counter",
   "# rate = \"counter,65535,1000\"",
   "",
   "[input]",
   "# Zero-based CSV columns",
   "timestamp_column = 0",
   "value_column = 1",
   "",
   "# Whether the first CSV row is a header",
   "has_header = true",
   "",
   "# Optional strftime format for timestamps",
   "# timestamp_format = \"%Y-%m-%d %H:%M:%S\"",
   "",
   "# Skip unparsable rows instead of failing",
   "skip_invalid = false",
   "",
   "[logging]",
   "# Log level: trace, debug, info, warn, error",
   "level = \"info\"",
   "",
   "# Log format: pretty (for development) or json (for production)",
   "format = \"pretty\""]

/-- A document with all settings at their defaults. -/
def sampleDocument : String := String.join (sampleLines.map (· ++ "\n"))

end Settings

end TimeBuckets
