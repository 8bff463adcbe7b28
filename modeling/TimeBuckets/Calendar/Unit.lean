/-
Calendar units.

* `CalendarUnit` — a month or a year;
* `CalendarUnit.start` — the first day of the unit of a date;
* `CalendarUnit.next?`, `CalendarUnit.previous?` — the first days of the units around it;
* `CalendarUnit.width?` — the length of a month in milliseconds.
-/
import TimeBuckets.Calendar.Date
import TimeBuckets.Word

namespace TimeBuckets

/-- A stretch of the calendar that makes one bucket. -/
inductive CalendarUnit
  | month
  | year
  deriving DecidableEq, Repr

namespace CalendarUnit

/-- The name of a unit. -/
def name : CalendarUnit → String
  | month => "month"
  | year => "year"

theorem one_le_daysInMonth (year : Int) (month : Nat) :
    1 ≤ 1 ∧ 1 ≤ daysInMonth year month := by
  unfold daysInMonth
  split
  · split <;> decide
  · split <;> decide

/-- The first day of the unit of a date. -/
def start (u : CalendarUnit) (d : Date) : Date :=
  match u with
  | month => ⟨d.year, d.month, 1, d.year_mem, d.month_mem, one_le_daysInMonth _ _⟩
  | year => ⟨d.year, 1, 1, d.year_mem, by decide, one_le_daysInMonth _ _⟩

/-- The first day of the unit after that of a date. -/
def next? (u : CalendarUnit) (d : Date) : Option Date :=
  match u with
  | month =>
    if d.month = 12 then Date.ofYmd? (d.year + 1) 1 1 else Date.ofYmd? d.year (d.month + 1) 1
  | year => Date.ofYmd? (d.year + 1) 1 1

/-- The first day of the unit before that of a date. -/
def previous? (u : CalendarUnit) (d : Date) : Option Date :=
  match u with
  | month =>
    if d.month = 1 then Date.ofYmd? (d.year - 1) 12 1 else Date.ofYmd? d.year (d.month - 1) 1
  | year => Date.ofYmd? (d.year - 1) 1 1

/-- The milliseconds of a day. -/
def dayMillis : Int := 86400000

/-- The milliseconds from a date to the next month, at whose start buckets get this width.
Years leave the width as it is. -/
def width? (u : CalendarUnit) (d : Date) : Option Word :=
  match u with
  | month => (month.next? d).map fun next => Int64.ofInt ((next.toDays - d.toDays) * dayMillis)
  | year => none

end CalendarUnit

end TimeBuckets
