/-
Fields of a written moment.

* `Fields` — what a text says about a moment: any of year, month, day, hour and so on;
* `Fields.date?` — the date that the fields determine;
* `Fields.dayMillis?` — the time of day that they determine;
* `Fields.moment?` — the time, which is the start of the day if no time of day is determined.

A field that is given twice must have the same value both times.
-/
import TimeBuckets.Calendar.Date
import TimeBuckets.Word

namespace TimeBuckets

/-- What a text says about a moment. -/
structure Fields where
  year : Option Int := none
  /-- The last two digits of the year. -/
  shortYear : Option Nat := none
  month : Option Nat := none
  day : Option Nat := none
  /-- The number of the day within the year. -/
  ordinal : Option Nat := none
  /-- Whether it is afternoon. -/
  afternoon : Option Bool := none
  /-- The hour within the half of the day, from 0 to 11. -/
  halfHour : Option Nat := none
  minute : Option Nat := none
  second : Option Nat := none
  /-- The billionths of a second. -/
  nanos : Option Nat := none
  deriving DecidableEq, Repr

namespace Fields

/-- A field with a value that it is given now, unless it has another one already. -/
def agree? {α : Type} [DecidableEq α] (field : Option α) (value : α) : Option (Option α) :=
  match field with
  | none => some (some value)
  | some old => if old = value then some (some value) else none

/-- The year.  Two digits alone mean a year from 1970 to 2069, and beside a full year they
must agree with it. -/
def year? (f : Fields) : Option Int :=
  match f.year, f.shortYear with
  | some y, none => some y
  | some y, some r => if 0 ≤ y ∧ y % 100 = r then some y else none
  | none, some r => some (if r < 70 then 2000 + r else 1900 + r)
  | none, none => none

/-- The number of a date within its year. -/
def ordinalOf (d : Date) : Int := d.toDays - Date.dayNumber d.year 1 1 + 1

/-- Whether a date has the month, day and number that are given. -/
def fits (f : Fields) (d : Date) : Bool :=
  f.month.all (· = d.month) && f.day.all (· = d.day) &&
    f.ordinal.all fun n => (n : Int) = ordinalOf d

/-- The date from the year, month and day, or else from the year and the number of the day
within it. -/
def date? (f : Fields) : Option Date := do
  let y ← f.year?
  let d ← match f.month, f.day, f.ordinal with
    | some m, some d, _ => Date.ofYmd? y m d
    | _, _, some n => do
      let d ← Date.ofDays? (Date.dayNumber y 1 1 + n - 1)
      if d.year = y then some d else none
    | _, _, _ => none
  if f.fits d then some d else none

/-- The milliseconds since midnight.  An hour, its half of the day and a minute are needed,
and a fraction needs a second.  A second number 60 is a leap second: it counts as a further
second after the one before it. -/
def dayMillis? (f : Fields) : Option Int := do
  let afternoon ← f.afternoon
  let hour ← f.halfHour
  let minute ← f.minute
  if f.second.isNone && f.nanos.isSome then none
  else
    let hours := if afternoon then hour + 12 else hour
    let second := f.second.getD 0
    return ((hours * 60 + minute) * 60 + second) * 1000 + f.nanos.getD 0 / 1000000

/-- The time that the fields determine. -/
def moment? (f : Fields) : Option Word := do
  let d ← f.date?
  Word.ofInt? (d.toDays * 86400000 + f.dayMillis?.getD 0)

end Fields

end TimeBuckets
