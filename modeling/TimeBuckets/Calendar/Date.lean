/-
Dates of the proleptic Gregorian calendar.

* `Date` — a date with a year from -262143 to 262142;
* `Date.ofYmd?` — the date with a given year, month and day, if there is one;
* `Date.toDays`, `Date.ofDays?` — the number of days since 1970-01-01 and back.

Days are counted in years that start with March, so that the day that is added in a leap year
comes last.
-/

namespace TimeBuckets

/-- Whether a year has a 29th of February. -/
def isLeapYear (year : Int) : Bool :=
  year % 4 == 0 && (year % 100 != 0 || year % 400 == 0)

/-- The number of days of a month. -/
def daysInMonth (year : Int) (month : Nat) : Nat :=
  if month = 2 then (if isLeapYear year then 29 else 28)
  else if month = 4 ∨ month = 6 ∨ month = 9 ∨ month = 11 then 30
  else 31

/-- A date of the calendar. -/
structure Date where
  year : Int
  month : Nat
  day : Nat
  year_mem : -262143 ≤ year ∧ year ≤ 262142
  month_mem : 1 ≤ month ∧ month ≤ 12
  day_mem : 1 ≤ day ∧ day ≤ daysInMonth year month
  deriving DecidableEq, Repr

namespace Date

/-- The date with a year, month and day. -/
def ofYmd? (year : Int) (month day : Nat) : Option Date :=
  if hy : -262143 ≤ year ∧ year ≤ 262142 then
    if hm : 1 ≤ month ∧ month ≤ 12 then
      if hd : 1 ≤ day ∧ day ≤ daysInMonth year month then
        some ⟨year, month, day, hy, hm, hd⟩
      else none
    else none
  else none

/-- The days from the first of March of the year 0 to the first of March of another year. -/
def marchDays (year : Int) : Int :=
  365 * year + year / 4 - year / 100 + year / 400

/-- The days from the first of March of the year 0 to 1970-01-01. -/
def epochDays : Int := 719468

/-- The days since 1970-01-01 of a year, month and day. -/
def dayNumber (year : Int) (month day : Nat) : Int :=
  let march := if month ≤ 2 then year - 1 else year
  let index : Int := (month + 9) % 12
  marchDays march + (153 * index + 2) / 5 + day - 1 - epochDays

/-- The days since 1970-01-01. -/
def toDays (d : Date) : Int := dayNumber d.year d.month d.day

/-- The year, starting with March, that holds a day counted from the first of March of the
year 0.  The average length of a year gives it up to one year. -/
def marchYear (days : Int) : Int :=
  let guess := 400 * days / 146097
  if days < marchDays guess then guess - 1
  else if marchDays (guess + 1) ≤ days then guess + 1
  else guess

/-- The year, month and day that lie some days after 1970-01-01, without any bound. -/
def civil (days : Int) : Int × Nat × Nat :=
  let shifted := days + epochDays
  let march := marchYear shifted
  let inYear := shifted - marchDays march
  let index := (5 * inYear + 2) / 153
  let day := inYear - (153 * index + 2) / 5 + 1
  if index < 10 then (march, (index + 3).toNat, day.toNat)
  else (march + 1, (index - 9).toNat, day.toNat)

/-- The date that lies some days after 1970-01-01. -/
def ofDays? (days : Int) : Option Date :=
  let (year, month, day) := civil days
  ofYmd? year month day

end Date

end TimeBuckets
