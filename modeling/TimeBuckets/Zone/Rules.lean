/-
Zones from tables and from yearly rules.

* `Zone.ofRows` — a zone from the kinds of its clocks and a table of changes;
* `YearlyRule` — a change on a certain Sunday of a month of every year;
* `Zone.ofRules` — a table that goes on with yearly rules up to the end of 2099.
-/
import TimeBuckets.Zone.Basic

namespace TimeBuckets

/-- Which Sunday of a month is meant. -/
inductive Sunday
  | nth (n : Nat)
  | last
  deriving DecidableEq, Repr

/-- The day number of the first Sunday of a month; the day number 3 was a Sunday. -/
def firstSunday (year : Int) (month : Nat) : Int :=
  let day := Date.dayNumber year month 1
  day + (3 - day) % 7

/-- The day number of a Sunday of a month. -/
def Sunday.dayNumber (year : Int) (month : Nat) : Sunday → Int
  | nth n => firstSunday year month + 7 * (n - 1)
  | last =>
    let fourth := firstSunday year month + 21
    if fourth + 7 < Date.dayNumber year month 1 + daysInMonth year month then fourth + 7
    else fourth

/-- A change of clocks in every year: `second` counts from the midnight in UTC with which the
Sunday begins, and `kind` is an index. -/
structure YearlyRule where
  month : Nat
  sunday : Sunday
  second : Int
  kind : Nat
  deriving DecidableEq, Repr

namespace Zone

/-- The changes of a table. -/
def changesOf (kinds : List LocalKind) (rows : List (Int × Nat)) : List ClockChange :=
  rows.filterMap fun row => kinds[row.2]?.map fun kind => ⟨row.1, kind⟩

/-- The rows that yearly rules make from a year up to the end of 2099. -/
def yearlyRows (year : Nat) (rules : List YearlyRule) : List (Int × Nat) :=
  (List.range (2100 - year)).flatMap fun i =>
    rules.map fun rule =>
      (86400 * rule.sunday.dayNumber (year + i : Nat) rule.month + rule.second, rule.kind)

/-- A zone from its kinds, of which the first one holds before all changes. -/
def ofRows (name : String) (standard : Int) (kinds : List LocalKind) (rows : List (Int × Nat))
    (h : ClockChange.inOrder (changesOf kinds rows) = true := by decide +kernel) : Zone :=
  ⟨name, standard, kinds.headD ⟨0, name⟩, changesOf kinds rows, h⟩

/-- A zone whose changes follow yearly rules from a year on. -/
def ofRules (name : String) (standard : Int) (kinds : List LocalKind)
    (rows : List (Int × Nat)) (year : Nat) (rules : List YearlyRule)
    (h : ClockChange.inOrder (changesOf kinds (rows ++ yearlyRows year rules)) = true := by
      decide +kernel) : Zone :=
  ofRows name standard kinds (rows ++ yearlyRows year rules) h

end Zone

end TimeBuckets
