/-
Calendar units tile the line of dates.

* `CalendarUnit.start_le_start_iff` — units start in the order of their first months;
* `CalendarUnit.lt_next`, `CalendarUnit.not_between` — the next unit starts behind every date of
  this one, and no unit starts between the two;
* `CalendarUnit.next?_eq_none_iff`, `CalendarUnit.previous?_eq_none_iff` — only the last unit has
  none behind it, and only the first one none before it;
* `CalendarUnit.utc_width` — a month gives buckets the time between its midnights in UTC;
* `CalendarUnit.Tiles`, `CalendarUnit.tiles_dates` — all of this for the unit of any date.

Dates are taken in the order of year, month and day.  Units are stretches of months that are
numbered through, and two different ones are apart by the months of a unit at least
(`firstMonth_add_le`): this leaves no room between a unit and the next, and none at the two ends of
the calendar.
-/
import TimeBuckets.Proofs.Units
import TimeBuckets.Proofs.Zones

namespace TimeBuckets.CalendarUnit

variable {u : CalendarUnit} {d e next previous : Date}

/-! ### Units in order -/

/-- Units start in the order of their first months. -/
theorem start_le_start_iff : u.start d ≤ u.start e ↔ u.firstMonth d ≤ u.firstMonth e := by
  rw [Date.le_iff_toDays_le, toDays_start, toDays_start, ← Int.not_lt, monthStart_lt_iff,
    Int.not_lt]

theorem start_lt_start_iff : u.start d < u.start e ↔ u.firstMonth d < u.firstMonth e := by
  rw [Date.lt_iff_toDays_lt, toDays_start, toDays_start, monthStart_lt_iff]

/-- A later unit starts later by the months of a unit at least. -/
theorem firstMonth_add_le (h : u.firstMonth d < u.firstMonth e) :
    u.firstMonth d + u.months ≤ u.firstMonth e := by
  cases u with
  | month => exact h
  | year =>
    change monthIndex d.year 1 < monthIndex e.year 1 at h
    show monthIndex d.year 1 + 12 ≤ monthIndex e.year 1
    unfold monthIndex at h ⊢
    omega

/-- The months of a unit are months of dates. -/
theorem firstMonth_mem (u : CalendarUnit) (d : Date) :
    monthIndex (-262143) 1 ≤ u.firstMonth d ∧
      u.firstMonth d + u.months ≤ monthIndex 262142 12 + 1 := by
  have hyear := d.year_mem
  have hmonth := d.month_mem
  cases u with
  | month =>
    show monthIndex (-262143) 1 ≤ monthIndex d.year d.month ∧
      monthIndex d.year d.month + 1 ≤ monthIndex 262142 12 + 1
    unfold monthIndex
    omega
  | year =>
    show monthIndex (-262143) 1 ≤ monthIndex d.year 1 ∧
      monthIndex d.year 1 + 12 ≤ monthIndex 262142 12 + 1
    unfold monthIndex
    omega

/-- A unit starts at each of its dates or before it. -/
theorem start_le (u : CalendarUnit) (d : Date) : u.start d ≤ d :=
  Date.le_iff_toDays_le.mpr (start_le_iff.mpr (Int.le_refl _))

/-! ### The units around one -/

/-- The next unit starts behind every date of this one. -/
theorem lt_next (h : u.next? (u.start d) = some next) : d < next :=
  Date.lt_iff_toDays_lt.mpr ((start_eq_iff h).mp rfl).2

/-- No unit starts strictly between a unit and the next. -/
theorem not_between (h : u.next? (u.start d) = some next) (e : Date) :
    ¬ (u.start d < u.start e ∧ u.start e < next) := by
  rintro ⟨hafter, hbefore⟩
  have hle := firstMonth_add_le (start_lt_start_iff.mp hafter)
  rw [Date.lt_iff_toDays_lt, toDays_start, toDays_next h, firstMonth_start,
    monthStart_lt_iff] at hbefore
  omega

/-- Only the last unit has none behind it. -/
theorem next?_eq_none_iff : u.next? (u.start d) = none ↔ ∀ e, u.start e ≤ u.start d := by
  constructor
  · intro hnone e
    rw [start_le_start_iff, ← Int.not_lt]
    intro hlt
    -- the months of the later unit leave room for the next one
    have hroom := firstMonth_add_le hlt
    have hmonths := (u.firstMonth_mem e).2
    have hpos : 1 ≤ u.months := by cases u <;> decide
    obtain ⟨next, hnext⟩ := exists_next (u := u) (d := u.start d)
      (by rw [firstMonth_start]; omega)
    rw [hnone] at hnext
    cases hnext
  · intro h
    rcases hnext : u.next? (u.start d) with _ | next
    · rfl
    · have hle := h next
      have hlt := lt_next (d := u.start d) (by rw [start_start]; exact hnext)
      rw [start_next hnext, Date.le_iff_toDays_le] at hle
      rw [Date.lt_iff_toDays_lt] at hlt
      omega

/-- Only the first unit has none before it. -/
theorem previous?_eq_none_iff : u.previous? (u.start d) = none ↔ ∀ e, u.start d ≤ u.start e := by
  constructor
  · intro hnone e
    rw [start_le_start_iff, ← Int.not_lt]
    intro hlt
    have hroom := firstMonth_add_le hlt
    have hmonths := (u.firstMonth_mem e).1
    obtain ⟨previous, hprevious⟩ := exists_previous (u := u) (d := u.start d)
      (by rw [firstMonth_start]; omega)
    rw [hnone] at hprevious
    cases hprevious
  · intro h
    rcases hprevious : u.previous? (u.start d) with _ | previous
    · rfl
    · have hle := h previous
      obtain ⟨hday, hindex, -⟩ := previous_fields hprevious
      have hpos : 1 ≤ u.months := by cases u <;> decide
      have hlt : monthStart previous.index < monthStart (u.firstMonth d) := by
        rw [monthStart_lt_iff, hindex, firstMonth_start]
        omega
      rw [start_previous hprevious, Date.le_iff_toDays_le, toDays_start, previous.toDays_eq,
        hday] at hle
      omega

/-! ### The width of a month -/

/-- A month gives buckets the time from its midnight to that of the next month in UTC. -/
theorem utc_width (h : month.next? (month.start d) = some next) :
    ∃ width first last, month.width? (month.start d) = some width ∧
      Zone.utc.localMidnight? (month.start d) = some first ∧
      Zone.utc.localMidnight? next = some last ∧
      width.toInt = last.toInt - first.toInt ∧
      width.toInt = daysInMonth d.year d.month * dayMillis := by
  obtain ⟨width, hwidth, hmillis, hdays⟩ := toInt_width h
  obtain ⟨first, hfirst, hfirstMillis⟩ := Zone.utc_localMidnight? (month.start d)
  obtain ⟨last, hlast, hlastMillis⟩ := Zone.utc_localMidnight? next
  refine ⟨width, first, last, hwidth, hfirst, hlast, ?_, ?_⟩
  · rw [hmillis, hfirstMillis, hlastMillis, dayMillis]
    omega
  · rw [hmillis, hdays]

/-! ### Tiles -/

/-- The unit of a date as a tile of the line of dates. -/
structure Tiles (u : CalendarUnit) (d : Date) : Prop where
  /-- The unit starts with a date, which is the first day of the month or of the year. -/
  exists_start : Date.ofYmd? d.year (if u = month then d.month else 1) 1 = some (u.start d)
  start_le : u.start d ≤ d
  start_start : u.start (u.start d) = u.start d
  /-- The next unit starts behind the date, without another start in between, and has this one
  before it. -/
  next (next : Date) (h : u.next? (u.start d) = some next) :
    d < next ∧ u.start next = next ∧ u.previous? next = some (u.start d) ∧
      ∀ e, ¬ (u.start d < u.start e ∧ u.start e < next)
  /-- Only the last unit has none behind it. -/
  last : u.next? (u.start d) = none ↔ ∀ e, u.start e ≤ u.start d
  /-- Only the first unit has none before it. -/
  first : u.previous? (u.start d) = none ↔ ∀ e, u.start d ≤ u.start e
  /-- A month is as wide as its days, 28 to 31 of them, which is the time between its midnight in
  UTC and that of the next month. -/
  width (hmonth : u = month) (next : Date) (h : u.next? (u.start d) = some next) :
    28 ≤ daysInMonth d.year d.month ∧ daysInMonth d.year d.month ≤ 31 ∧
      ∃ width first last, u.width? (u.start d) = some width ∧
        Zone.utc.localMidnight? (u.start d) = some first ∧
        Zone.utc.localMidnight? next = some last ∧
        width.toInt = last.toInt - first.toInt ∧
        width.toInt = daysInMonth d.year d.month * dayMillis

/-- The months tile the line of dates, and so do the years. -/
theorem tiles_dates (u : CalendarUnit) (d : Date) : u.Tiles d where
  exists_start := by
    cases u with
    | month => exact (month.start d).ofYmd?_self
    | year => exact (year.start d).ofYmd?_self
  start_le := u.start_le d
  start_start := u.start_start d
  next _ h := ⟨lt_next h, start_next h, previous_next h, not_between h⟩
  last := next?_eq_none_iff
  first := previous?_eq_none_iff
  width := by
    rintro rfl next h
    have hdays := daysInMonth_mem d.year d.month
    exact ⟨hdays.1, hdays.2, utc_width h⟩

end TimeBuckets.CalendarUnit
