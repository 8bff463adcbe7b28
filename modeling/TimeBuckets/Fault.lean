/-
What can go wrong, as causes with their wording.

* `SettingFault` — a setting that cannot be used;
* `RowFault` — a row of a table that is no sample;
* `FileFault` — a file that cannot be reached;
* `DecodingFault` — a record of a table that is not text;
* `SourceFault` — samples that cannot be had;
* `Fault` — a request to a cursor or a resampler that fails.

Each type has one function `message` for its text.
-/
import TimeBuckets.Word
import TimeBuckets.Sample

namespace TimeBuckets

/-- A text in single quotes. -/
def quoted (text : String) : String := "'" ++ text ++ "'"

/-- A setting that cannot be used. -/
inductive SettingFault
  /-- The text is no amount followed by a unit. -/
  | malformedInterval (text : String)
  /-- The unit behind the amount is unknown. -/
  | unknownIntervalUnit (unit text : String)
  /-- More or less than one month or year is asked for. -/
  | calendarAmount (text unit : String)
  /-- The width does not fit a word. -/
  | intervalOverflow (text : String)
  /-- The width is zero. -/
  | intervalNotPositive (text : String)
  /-- Buckets of this width are impossible. -/
  | widthNotPositive (width : Word)
  /-- Rate options have more than three parts. -/
  | rateParts (count : Nat)
  /-- The greatest value of a counter is no number. -/
  | rateMax (text : String)
  /-- The threshold of a reset is no number. -/
  | rateReset (text : String)
  /-- No statistic has this name. -/
  | unknownStatistic (name : String) (known : List String)
  /-- No time zone has this name. -/
  | unknownZone (name : String)
  deriving DecidableEq, Repr

namespace SettingFault

/-- The wording of an unusable setting. -/
def message : SettingFault → String
  | malformedInterval text => "invalid interval " ++ quoted text
  | unknownIntervalUnit unit text =>
    "unknown interval unit " ++ quoted unit ++ " in " ++ quoted text
  | calendarAmount text unit =>
    "calendar interval " ++ quoted text ++ " must span exactly one " ++ unit
  | intervalOverflow text => "interval " ++ quoted text ++ " overflows"
  | intervalNotPositive text => "interval " ++ quoted text ++ " must be positive"
  | widthNotPositive width => "interval width must be positive, got " ++ width.text
  | rateParts count =>
    "rate options must be kind[,max[,reset]], received " ++ toString count ++ " parts"
  | rateMax text => "counter max is not a number, received " ++ quoted text
  | rateReset text => "reset value is not a number, received " ++ quoted text
  | unknownStatistic name known =>
    "unknown aggregator " ++ quoted name ++ ", expected one of " ++ ", ".intercalate known
  | unknownZone name => "unknown time zone " ++ quoted name

end SettingFault

/-- A row of a table that is no sample. -/
inductive RowFault
  | noTimeColumn
  | noValueColumn
  | unreadableTime (text : String)
  | unreadableValue (text : String)
  deriving DecidableEq, Repr

namespace RowFault

/-- The wording of a row that is no sample. -/
def message : RowFault → String
  | noTimeColumn => "missing timestamp column"
  | noValueColumn => "missing value column"
  | unreadableTime text => "could not parse timestamp " ++ quoted text
  | unreadableValue text => "could not parse value " ++ quoted text

end RowFault

/-- A file or folder that cannot be reached, read or made. -/
inductive FileFault
  | notFound
  | alreadyThere
  | notFolder
  | isFolder
  | nameTooLong
  | notText
  | other (detail : String)
  deriving DecidableEq, Repr

namespace FileFault

/-- The wording of a failed access, with the number that operating systems give to it. -/
def message : FileFault → String
  | notFound => "No such file or directory (os error 2)"
  | alreadyThere => "File exists (os error 17)"
  | notFolder => "Not a directory (os error 20)"
  | isFolder => "Is a directory (os error 21)"
  | nameTooLong => "File name too long (os error 36)"
  | notText => "stream did not contain valid UTF-8"
  | other detail => detail

end FileFault

/-- A record of a table that is not text. -/
structure DecodingFault where
  /-- The number of records in front of it, the names of the columns included. -/
  record : Nat
  /-- The number of fields in front of the first one that is not text. -/
  field : Nat
  /-- How many bytes that field begins with that are text. -/
  textual : Nat
  deriving DecidableEq, Repr

namespace DecodingFault

/-- The wording of a record that is not text. -/
def message (f : DecodingFault) : String :=
  "record " ++ toString f.record ++ ": invalid UTF-8 in field " ++ toString f.field ++
    " near byte index " ++ toString f.textual

end DecodingFault

/-- Samples that cannot be had. -/
inductive SourceFault
  /-- The file of the samples cannot be opened. -/
  | file (cause : FileFault)
  /-- The file of the samples can be opened but not read. -/
  | unreadable (cause : FileFault)
  /-- A record of the table is not text. -/
  | undecodable (cause : DecodingFault)
  /-- The record with this number is no sample. -/
  | row (number : Nat) (cause : RowFault)
  /-- A sample is not later than the one before it. -/
  | outOfOrder (next previous : Word)
  /-- The holder of the samples reports a disorder of its own. -/
  | disorderReported (detail : String)
  /-- No sample is left. -/
  | exhausted
  deriving DecidableEq, Repr

namespace SourceFault

/-- The wording of samples that cannot be had. -/
def message : SourceFault → String
  | file cause => "IO error: " ++ cause.message
  | unreadable cause => "CSV error: " ++ cause.message
  | undecodable cause => "CSV error: " ++ cause.message
  | row number cause => "Parse error at row " ++ toString number ++ ": " ++ cause.message
  | outOfOrder next previous =>
    "Samples out of order: timestamp " ++ next.text ++ " follows " ++ previous.text
  | disorderReported detail => "Samples out of order: " ++ detail
  | exhausted => "Source exhausted"

end SourceFault

/-- A request to a cursor or a resampler that fails. -/
inductive Fault
  /-- The open bucket of this cursor has no further value. -/
  | noValue (cursor : String)
  /-- This resampler has no further bucket. -/
  | noBucket (resampler : String)
  /-- A statistic over no values. -/
  | emptyBucket (statistic : String)
  /-- Two samples of this cursor whose difference is needed are not in order of time. -/
  | disorder (previous next : Word) (cursor : String)
  /-- No word holds the time between two samples. -/
  | overflow
  /-- An operation that buckets do not offer. -/
  | unsupported (operation : String)
  /-- A setting that cannot be used. -/
  | setting (cause : SettingFault)
  /-- The bucket of this time has an edge that no word or date can hold. -/
  | outOfRange (time : Word)
  /-- The samples cannot be had. -/
  | source (cause : SourceFault)
  deriving DecidableEq, Repr

namespace Fault

/-- The wording of a failed request. -/
def message : Fault → String
  | noValue cursor => "Iterator exhausted: no value pending in " ++ cursor
  | noBucket resampler => "Iterator exhausted: no bucket pending in " ++ resampler
  | emptyBucket statistic => "Iterator exhausted: " ++ statistic ++ " over an empty bucket"
  | disorder previous next cursor =>
    "Source ordering violated: timestamp " ++ next.text ++ " does not follow " ++ previous.text ++
      " in " ++ cursor
  | overflow => "attempt to subtract with overflow"
  | unsupported operation => "Unsupported operation: " ++ operation
  | setting cause => "Invalid configuration: " ++ cause.message
  | outOfRange time => "Timestamp out of range: " ++ time.text
  | source cause => "Source error: " ++ cause.message

end Fault

end TimeBuckets
