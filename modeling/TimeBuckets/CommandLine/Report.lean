/-
What the command line prints.

* `PointFormat`, `pointsText` — points as a table for people, as JSON or as comma-separated
  values;
* `Failure`, `Failure.text` — an error with the causes below it.

The table shows the start of a bucket on the clocks of a time zone and its value with four
places.
-/
import TimeBuckets.Json.Record
import TimeBuckets.Zone.Basic

namespace TimeBuckets.CommandLine

/-- How points are printed. -/
inductive PointFormat
  | table
  | json
  | csv
  deriving DecidableEq, Repr

/-- The format with a name.  Any other name means the table. -/
def PointFormat.ofName : String → PointFormat
  | "json" => json
  | "csv" => csv
  | _ => table

/-- A text with blanks behind it up to a width. -/
def padRight (width : Nat) (s : String) : String :=
  s ++ String.ofList (List.replicate (width - s.length) ' ')

/-- A text with blanks in front of it up to a width. -/
def padLeft (width : Nat) (s : String) : String :=
  String.ofList (List.replicate (width - s.length) ' ') ++ s

/-- A number with zeros in front of it up to a number of digits. -/
def digits (width : Nat) (n : Nat) : String :=
  let s := toString n
  Decimal.zeros (width - s.length) ++ s

/-- A year with four digits at least, and with a sign unless it lies between 0 and 9999. -/
def yearText (year : Int) : String :=
  if 0 ≤ year ∧ year ≤ 9999 then digits 4 year.toNat
  else (if year < 0 then "-" else "+") ++ digits 4 year.natAbs

/-- The date, the time of day and the name of the clocks at a time in a zone, or a dash if the
calendar does not hold the time. -/
def clockText (z : Zone) (time : Word) : String :=
  let s := time.toInt / 1000
  if Zone.isDated s then
    let kind := z.kindAt s
    let l := s + kind.offset
    let (year, month, day) := Date.civil (l / 86400)
    let second := (l % 86400).toNat
    yearText year ++ "-" ++ digits 2 month ++ "-" ++ digits 2 day ++ " " ++
      digits 2 (second / 3600) ++ ":" ++ digits 2 (second / 60 % 60) ++ ":" ++
      digits 2 (second % 60) ++ " " ++ kind.abbreviation
  else "-"

/-- A line of the table. -/
def tableLine (time clock value : String) : String :=
  padRight 16 time ++ " " ++ padRight 26 clock ++ " " ++ padLeft 14 value ++ "\n"

/-- Points as a table. -/
def tableText (z : Zone) (points : List Point) : String :=
  tableLine "Timestamp" "Bucket start" "Value" ++
    String.ofList (List.replicate 58 '-') ++ "\n" ++
    String.join (points.map fun p =>
      tableLine p.time.text (clockText z p.time) (Decimal.places 4 p.value))

/-- Points as comma-separated values. -/
def csvText (points : List Point) : String :=
  "timestamp,value\n" ++
    String.join (points.map fun p => p.time.text ++ "," ++ Decimal.plain p.value ++ "\n")

/-- Points in a format, where the zone is that of the table. -/
def pointsText (format : PointFormat) (z : Zone) (points : List Point) : String :=
  match format with
  | .table => tableText z points
  | .json => Json.prettyPoints points ++ "\n"
  | .csv => csvText points

/-- An error: what failed, and the causes from the nearest one on. -/
structure Failure where
  message : String
  causes : List String
  /-- The exit code that it leads to. -/
  code : Nat := 1
  deriving DecidableEq, Repr

namespace Failure

/-- An error that the program reports. -/
def of (message : String) (causes : List String) : Failure := { message, causes }

/-- A cause behind its mark, where further lines are set in. -/
def entry (mark indent cause : String) : String :=
  "\n" ++ mark ++ ("\n" ++ indent).intercalate (cause.splitOn "\n")

/-- The causes of an error.  Several are numbered. -/
def causesText : List String → String
  | [] => ""
  | [cause] => "\n\nCaused by:" ++ entry "    " "    " cause
  | causes =>
    "\n\nCaused by:" ++ String.join (causes.mapIdx fun i cause =>
      entry (padLeft 5 (toString i) ++ ": ") "       " cause)

/-- The text of an error. -/
def text (f : Failure) : String := "Error: " ++ f.message ++ causesText f.causes ++ "\n"

end Failure

end TimeBuckets.CommandLine
