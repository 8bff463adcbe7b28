/-
Calendar units as stretches of days.

* `CalendarUnit.start_eq_iff` — dates have the same unit just if they lie between the start of the
  unit and the start of the next;
* `CalendarUnit.start_le_iff` — units start in the order of their dates;
* `CalendarUnit.start_next`, `CalendarUnit.previous_next` — the start of the next unit starts its
  unit, and the unit before it is the one it came from;
* `CalendarUnit.exists_next`, `CalendarUnit.exists_previous` — there are units around one as long as
  their months are those of dates;
* `CalendarUnit.toInt_width`, `CalendarUnit.width_of_next` — the width that a month gives to
  buckets.

Both units are stretches of months, of one month and of twelve.
-/
import TimeBuckets.Calendar.Unit
import TimeBuckets.Proofs.Dates

namespace TimeBuckets

theorem Date.eq_of_fields {d e : Date} (hyear : d.year = e.year) (hmonth : d.month = e.month)
    (hday : d.day = e.day) : d = e := by
  obtain ⟨year, month, day, hy, hm, hd⟩ := d
  obtain ⟨year', month', day', hy', hm', hd'⟩ := e
  obtain rfl : year = year' := hyear
  obtain rfl : month = month' := hmonth
  obtain rfl : day = day' := hday
  rfl

namespace CalendarUnit

variable {u : CalendarUnit} {d e next : Date}

/-- The first month of the unit of a date. -/
def firstMonth (u : CalendarUnit) (d : Date) : Int :=
  match u with
  | month => d.index
  | year => monthIndex d.year 1

/-- The number of months of a unit. -/
def months : CalendarUnit → Int
  | month => 1
  | year => 12

theorem toDays_start (u : CalendarUnit) (d : Date) :
    (u.start d).toDays = monthStart (u.firstMonth d) := by
  rw [Date.toDays_eq]
  cases u with
  | month =>
    show monthStart d.index + ((1 : Nat) : Int) - 1 = monthStart d.index
    omega
  | year =>
    show monthStart (monthIndex d.year 1) + ((1 : Nat) : Int) - 1 = monthStart (monthIndex d.year 1)
    omega

theorem firstMonth_start (u : CalendarUnit) (d : Date) :
    u.firstMonth (u.start d) = u.firstMonth d := by
  cases u with
  | month => rfl
  | year => rfl

/-- The unit of a date has the months from its first one on. -/
theorem start_eq_iff_index :
    u.start e = u.start d ↔ u.firstMonth d ≤ e.index ∧ e.index < u.firstMonth d + u.months := by
  have hd := d.month_mem
  have he := e.month_mem
  cases u with
  | month =>
    show month.start e = month.start d ↔ d.index ≤ e.index ∧ e.index < d.index + 1
    unfold Date.index monthIndex
    constructor
    · intro h
      have hyear : e.year = d.year := (congrArg Date.year h :)
      have hmonth : e.month = d.month := (congrArg Date.month h :)
      omega
    · rintro ⟨hlow, hhigh⟩
      exact Date.eq_of_fields (show e.year = d.year by omega) (show e.month = d.month by omega) rfl
  | year =>
    show year.start e = year.start d ↔
      monthIndex d.year 1 ≤ e.index ∧ e.index < monthIndex d.year 1 + 12
    unfold Date.index monthIndex
    constructor
    · intro h
      have hyear : e.year = d.year := (congrArg Date.year h :)
      omega
    · rintro ⟨hlow, hhigh⟩
      exact Date.eq_of_fields (show e.year = d.year by omega) rfl rfl

/-- The next unit starts on the first day of a month, right behind the months of this one. -/
theorem next_fields (h : u.next? d = some next) :
    next.day = 1 ∧ next.index = u.firstMonth d + u.months ∧ (u = year → next.month = 1) := by
  have hd := d.month_mem
  cases u with
  | month =>
    show next.day = 1 ∧ next.index = d.index + 1 ∧ _
    unfold Date.index monthIndex
    change (if d.month = 12 then Date.ofYmd? (d.year + 1) 1 1
      else Date.ofYmd? d.year (d.month + 1) 1) = some next at h
    split at h
    · obtain ⟨hyear, hmonth, hday⟩ := Date.of_ofYmd? h
      exact ⟨hday, by omega, nofun⟩
    · obtain ⟨hyear, hmonth, hday⟩ := Date.of_ofYmd? h
      exact ⟨hday, by omega, nofun⟩
  | year =>
    show next.day = 1 ∧ next.index = monthIndex d.year 1 + 12 ∧ _
    unfold Date.index monthIndex
    obtain ⟨hyear, hmonth, hday⟩ := Date.of_ofYmd? h
    exact ⟨hday, by omega, fun _ => hmonth⟩

/-- The unit before starts on the first day of a month as well. -/
theorem previous_fields {previous : Date} (h : u.previous? d = some previous) :
    previous.day = 1 ∧ previous.index = u.firstMonth d - u.months ∧
      (u = year → previous.month = 1) := by
  have hd := d.month_mem
  cases u with
  | month =>
    show previous.day = 1 ∧ previous.index = d.index - 1 ∧ _
    unfold Date.index monthIndex
    change (if d.month = 1 then Date.ofYmd? (d.year - 1) 12 1
      else Date.ofYmd? d.year (d.month - 1) 1) = some previous at h
    split at h
    · obtain ⟨hyear, hmonth, hday⟩ := Date.of_ofYmd? h
      exact ⟨hday, by omega, nofun⟩
    · obtain ⟨hyear, hmonth, hday⟩ := Date.of_ofYmd? h
      exact ⟨hday, by omega, nofun⟩
  | year =>
    show previous.day = 1 ∧ previous.index = monthIndex d.year 1 - 12 ∧ _
    unfold Date.index monthIndex
    obtain ⟨hyear, hmonth, hday⟩ := Date.of_ofYmd? h
    exact ⟨hday, by omega, fun _ => hmonth⟩

theorem toDays_next (h : u.next? d = some next) :
    next.toDays = monthStart (u.firstMonth d + u.months) := by
  obtain ⟨hday, hindex, -⟩ := next_fields h
  rw [Date.toDays_eq, hindex, hday]
  omega

/-- Dates have the same unit just if they lie between its start and the start of the next. -/
theorem start_eq_iff (h : u.next? (u.start d) = some next) :
    u.start e = u.start d ↔ (u.start d).toDays ≤ e.toDays ∧ e.toDays < next.toDays := by
  rw [toDays_next h, toDays_start, firstMonth_start, e.toDays_mem_iff, start_eq_iff_index]

theorem start_of_fields (hday : d.day = 1) (hyear : u = year → d.month = 1) : u.start d = d := by
  cases u with
  | month => exact Date.eq_of_fields rfl rfl hday.symm
  | year => exact Date.eq_of_fields rfl (hyear rfl).symm hday.symm

/-- The start of the next unit starts its unit. -/
theorem start_next (h : u.next? d = some next) : u.start next = next := by
  obtain ⟨hday, -, hyear⟩ := next_fields h
  exact start_of_fields hday hyear

theorem start_previous {previous : Date} (h : u.previous? d = some previous) :
    u.start previous = previous := by
  obtain ⟨hday, -, hyear⟩ := previous_fields h
  exact start_of_fields hday hyear

theorem start_start (u : CalendarUnit) (d : Date) : u.start (u.start d) = u.start d := by
  cases u with
  | month => rfl
  | year => rfl

theorem firstMonth_le_iff : u.firstMonth d ≤ e.index ↔ u.firstMonth d ≤ u.firstMonth e := by
  have he := e.month_mem
  cases u with
  | month => rfl
  | year =>
    show monthIndex d.year 1 ≤ e.index ↔ monthIndex d.year 1 ≤ monthIndex e.year 1
    unfold Date.index monthIndex
    omega

/-- A unit starts at a date or before it just if it starts where the unit of that date does, or
before. -/
theorem start_le_iff :
    (u.start d).toDays ≤ e.toDays ↔ (u.start d).toDays ≤ (u.start e).toDays := by
  have hupto := (e.toDays_mem_iff (j := e.index) (k := e.index + 1)).mpr (by omega)
  have hmem := e.toDays_mem_iff (j := u.firstMonth d) (k := e.index + 1)
  have hmono : monthStart (u.firstMonth e) < monthStart (u.firstMonth d) ↔ _ := monthStart_lt_iff
  have hfirst := firstMonth_le_iff (u := u) (d := d) (e := e)
  rw [toDays_start, toDays_start]
  omega

/-- The unit before the next one is the one it came from. -/
theorem previous_next (h : u.next? (u.start d) = some next) :
    u.previous? next = some (u.start d) := by
  have hd := d.month_mem
  have hself := (u.start d).ofYmd?_self
  cases u with
  | month =>
    change (if d.month = 12 then Date.ofYmd? (d.year + 1) 1 1
      else Date.ofYmd? d.year (d.month + 1) 1) = some next at h
    change (if next.month = 1 then Date.ofYmd? (next.year - 1) 12 1
      else Date.ofYmd? next.year (next.month - 1) 1) = some (month.start d)
    change Date.ofYmd? d.year d.month 1 = some (month.start d) at hself
    -- January comes from December of the year before
    split at h
    · rename_i hlast
      obtain ⟨hyear, hmonth, -⟩ := Date.of_ofYmd? h
      rw [if_pos hmonth, hyear, Int.add_sub_cancel, ← hlast, hself]
    · rename_i hlast
      obtain ⟨hyear, hmonth, -⟩ := Date.of_ofYmd? h
      rw [if_neg (by omega), hyear, hmonth, Nat.add_sub_cancel, hself]
  | year =>
    obtain ⟨hyear, -, -⟩ := Date.of_ofYmd? h
    unfold previous?
    rw [← hself, hyear, Int.add_sub_cancel]
    rfl

/-- There is a next unit as long as the months of dates go on. -/
theorem exists_next (h : u.firstMonth d + u.months ≤ monthIndex 262142 12) :
    ∃ next, u.next? d = some next := by
  have hyear := d.year_mem
  have hmonth := d.month_mem
  cases u with
  | month =>
    change monthIndex d.year d.month + 1 ≤ monthIndex 262142 12 at h
    unfold monthIndex at h
    show ∃ next, (if d.month = 12 then Date.ofYmd? (d.year + 1) 1 1
      else Date.ofYmd? d.year (d.month + 1) 1) = some next
    split
    · exact Date.exists_ofYmd?_first (by omega) (by omega)
    · exact Date.exists_ofYmd?_first (by omega) (by omega)
  | year =>
    change monthIndex d.year 1 + 12 ≤ monthIndex 262142 12 at h
    unfold monthIndex at h
    exact Date.exists_ofYmd?_first (by omega) (by omega)

theorem exists_previous (h : monthIndex (-262143) 1 ≤ u.firstMonth d - u.months) :
    ∃ previous, u.previous? d = some previous := by
  have hyear := d.year_mem
  have hmonth := d.month_mem
  cases u with
  | month =>
    change monthIndex (-262143) 1 ≤ monthIndex d.year d.month - 1 at h
    unfold monthIndex at h
    show ∃ previous, (if d.month = 1 then Date.ofYmd? (d.year - 1) 12 1
      else Date.ofYmd? d.year (d.month - 1) 1) = some previous
    split
    · exact Date.exists_ofYmd?_first (by omega) (by omega)
    · exact Date.exists_ofYmd?_first (by omega) (by omega)
  | year =>
    change monthIndex (-262143) 1 ≤ monthIndex d.year 1 - 12 at h
    unfold monthIndex at h
    exact Date.exists_ofYmd?_first (by omega) (by omega)

/-- A month gives buckets the width of its days. -/
theorem toInt_width (h : month.next? (month.start d) = some next) :
    ∃ width, month.width? (month.start d) = some width ∧
      width.toInt = (next.toDays - (month.start d).toDays) * dayMillis ∧
      next.toDays - (month.start d).toDays = daysInMonth d.year d.month := by
  have hlen : next.toDays - (month.start d).toDays = daysInMonth d.year d.month := by
    rw [toDays_next h, toDays_start, firstMonth_start]
    show monthStart (d.index + 1) - monthStart d.index = _
    rw [Date.index, monthStart_succ d.month_mem]
    omega
  have hdays := daysInMonth_mem d.year d.month
  refine ⟨Int64.ofInt ((next.toDays - (month.start d).toDays) * dayMillis), ?_, ?_, hlen⟩
  · rw [width?, h, Option.map_some]
  · rw [hlen, Word.toInt_ofInt]
    simp only [Word.least, Word.greatest, dayMillis]
    omega

/-- A month gives buckets a positive width of 31 days at most, and a year leaves the width as it
is. -/
theorem width_of_next (h : u.next? (u.start d) = some next) :
    (u = year ∧ u.width? (u.start d) = none) ∨
      ∃ width, u = month ∧ u.width? (u.start d) = some width ∧ 0 < width.toInt ∧
        width.toInt ≤ 31 * dayMillis := by
  cases u with
  | year => exact Or.inl ⟨rfl, rfl⟩
  | month =>
    obtain ⟨width, hwidth, hmillis, hlen⟩ := toInt_width h
    have hdays := daysInMonth_mem d.year d.month
    rw [hlen] at hmillis
    refine Or.inr ⟨width, rfl, hwidth, ?_, ?_⟩
    · rw [hmillis, dayMillis]
      omega
    · rw [hmillis, dayMillis]
      omega

end CalendarUnit

end TimeBuckets
