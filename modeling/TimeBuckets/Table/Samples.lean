/-
Samples from tables.

* `Row` — a record as it comes out of decoding: its fields, or what kept them from being text;
* `Layout` — which columns hold times and values, and how they are read;
* `Layout.sampleOf` — the sample in a record;
* `Layout.feedOf` — the feed over the samples in a list of records, in order of time;
* `Layout.read` — the feed over the samples in a table.

Either every record has to be a sample, or records that are none are left out.
-/
import TimeBuckets.Decimal.Reader
import TimeBuckets.Feed
import TimeBuckets.Table.Records
import TimeBuckets.Timestamp.Read

namespace TimeBuckets.Table

/-- How samples lie in a table. -/
structure Layout where
  timeColumn : Nat := 0
  valueColumn : Nat := 1
  /-- The pattern of times that is tried before the common ones. -/
  timePattern : Option String := none
  /-- Whether the first record holds the names of the columns. -/
  header : Bool := true
  /-- Whether records that are no samples are left out. -/
  skipInvalid : Bool := false
  deriving DecidableEq, Repr

/-- A record as it comes out of decoding. -/
abbrev Row := Except DecodingFault (List String)

/-- The reading in a text: a word if it is one, and a double otherwise. -/
def reading? (s : List Char) : Option Reading :=
  match Text.word? s with
  | some w => some (.whole w)
  | none => (Decimal.float? s).map .real

namespace Layout

/-- The sample in a record.  Both columns must be there before either is read. -/
def sampleOf (l : Layout) (record : List String) : Except RowFault Sample :=
  match record[l.timeColumn]?, record[l.valueColumn]? with
  | none, _ => .error .noTimeColumn
  | _, none => .error .noValueColumn
  | some time, some value =>
    let time := Text.trim time.toList
    let value := Text.trim value.toList
    match readTime? (l.timePattern.map pattern) time with
    | none => .error (.unreadableTime (String.ofList time))
    | some t =>
      match reading? value with
      | none => .error (.unreadableValue (String.ofList value))
      | some r => .ok ⟨t, r⟩

/-- The sample in a record with a number, or the fault of that row. -/
def sampleOfRow (l : Layout) (number : Nat) : Row → Except SourceFault Sample
  | .error cause => .error (.undecodable cause)
  | .ok record =>
    match l.sampleOf record with
    | .ok s => .ok s
    | .error cause => .error (.row number cause)

/-- The number of the first record that is no header. -/
def firstRow (l : Layout) : Nat := if l.header then 2 else 1

/-- The samples or faults of all records, in the order of the table. -/
def outcomes (l : Layout) (rows : List Row) : List (Except SourceFault Sample) :=
  rows.mapIdx fun i row => l.sampleOfRow (l.firstRow + i) row

/-- The samples of all records, or the first fault unless such records are left out. -/
def samplesOf (l : Layout) (rows : List Row) : Except SourceFault (List Sample) :=
  if l.skipInvalid then .ok ((l.outcomes rows).filterMap Except.toOption)
  else (l.outcomes rows).mapM id

/-- The feed over the samples of all records, in order of time.  No two times may be equal. -/
def feedOf (l : Layout) (rows : List Row) : Except SourceFault Feed := do
  let samples ← l.samplesOf rows
  Feed.ordered? (samples.mergeSort fun a b => a.time ≤ b.time)

/-- The feed over the samples of a table. -/
def read (l : Layout) (bytes : List UInt8) : Except SourceFault Feed :=
  let rows := (records bytes).mapIdx decode
  l.feedOf (if l.header then rows.drop 1 else rows)

end Layout

end TimeBuckets.Table
