/-
Bucket intervals.

* `Interval` — a width in milliseconds and the unit that decides where buckets end;
* `Interval.parse` — an amount and a unit, such as `15m`, `1n` or `0o`;
* `IntervalUnit.ofToken` — the unit that the last character of a token selects.

Months and years always come one at a time; their width is only the width at the start.
-/
import TimeBuckets.Fault
import TimeBuckets.Text.Blank
import TimeBuckets.Text.Numeral

namespace TimeBuckets

/-- What decides where a bucket ends. -/
inductive IntervalUnit
  /-- The width alone. -/
  | fixed
  /-- The calendar month of the time zone. -/
  | month
  /-- The calendar year of the time zone. -/
  | year
  /-- The data: a bucket is a run of activity. -/
  | run
  deriving DecidableEq, Repr

namespace IntervalUnit

/-- The name of a unit. -/
def name : IntervalUnit → String
  | fixed => "fixed"
  | month => "month"
  | year => "year"
  | run => "run"

/-- The unit that a token selects by its last character. -/
def ofToken (token : String) : IntervalUnit :=
  match (Text.trim token.toList).getLast? with
  | some 'n' => month
  | some 'y' => year
  | some 'o' => run
  | _ => fixed

/-- Whether the unit follows the calendar. -/
def isCalendar : IntervalUnit → Bool
  | month => true
  | year => true
  | _ => false

end IntervalUnit

/-- How samples are put into buckets. -/
structure Interval where
  width : Word
  unit : IntervalUnit
  deriving DecidableEq, Repr

namespace Interval

/-- The milliseconds of a second. -/
def second : Int := 1000

/-- The milliseconds of a minute. -/
def minute : Int := 60 * second

/-- The milliseconds of an hour. -/
def hour : Int := 60 * minute

/-- The milliseconds of a day. -/
def day : Int := 24 * hour

/-- Buckets of a width, with the unit that a token selects. -/
def ofToken (width : Word) (token : String) : Interval := ⟨width, .ofToken token⟩

/-- Buckets of one width. -/
def fixed (width : Word) : Interval := ⟨width, .fixed⟩

/-- Calendar months. -/
def month : Interval := ⟨Int64.ofInt (30 * day), .month⟩

/-- Calendar years. -/
def year : Interval := ⟨Int64.ofInt (365 * day), .year⟩

/-- Runs of activity. -/
def run : Interval := ⟨0, .run⟩

/-- The milliseconds in one unit of an amount, and the kind of its buckets. -/
def unit? : String → Option (Int × IntervalUnit)
  | "" => some (1, .fixed)
  | "ms" => some (1, .fixed)
  | "s" => some (second, .fixed)
  | "m" => some (minute, .fixed)
  | "h" => some (hour, .fixed)
  | "d" => some (day, .fixed)
  | "w" => some (7 * day, .fixed)
  | "n" => some (30 * day, .month)
  | "y" => some (365 * day, .year)
  | "o" => some (1, .run)
  | _ => none

/-- The digits in front of a text and the letters behind them, if there is nothing else. -/
def split? (s : List Char) : Option (Word × List Char) :=
  let unit := s.dropWhile Char.isDigit
  match Text.word? (s.takeWhile Char.isDigit) with
  | some amount => if unit.all Char.isAlpha then some (amount, unit) else none
  | none => none

/-- The interval that a text such as `15m` stands for.  Blanks around it do not count. -/
def parse (text : String) : Except SettingFault Interval :=
  match split? (Text.trim text.toList) with
  | none => .error (.malformedInterval text)
  | some (amount, letters) =>
    match unit? (String.ofList letters) with
    | none => .error (.unknownIntervalUnit (String.ofList letters) text)
    | some (size, unit) =>
      if unit.isCalendar ∧ amount ≠ 1 then .error (.calendarAmount text unit.name)
      else
        match Word.ofInt? (amount.toInt * size) with
        | none => .error (.intervalOverflow text)
        | some width =>
          if width ≤ 0 ∧ unit ≠ .run then .error (.intervalNotPositive text)
          else .ok ⟨width, unit⟩

/-- The text of an interval. -/
def text (i : Interval) : String := i.width.text ++ "ms/" ++ i.unit.name

end Interval

end TimeBuckets
