/-
Calendar units of a time zone.

* `CalendarUnit.key` — the unit of a time: its first day;
* `CalendarUnit.Covers` — the calendar holds the unit of a time and the start of the next one, and
  both starts divide the instants;
* `CalendarUnit.UnitAt` — the unit of a time with the instants at which it starts and ends;
* `CalendarUnit.Covers.exists_unitAt` — the times of a unit are those between these two instants.
-/
import TimeBuckets.Proofs.Alignment
import TimeBuckets.Proofs.Zones

namespace TimeBuckets

namespace CalendarUnit

variable {u : CalendarUnit} {z : Zone} {t t' : Word} {start next start' next' : Date}
  {first last first' last' : Word}

/-- The first day of the unit of a time. -/
def key (u : CalendarUnit) (z : Zone) (t : Word) : Option Date := (z.localDate? t).map u.start

/-- The instant at which the next unit starts. -/
def endOf? (u : CalendarUnit) (z : Zone) (k : Option Date) : Option Word :=
  (k.bind u.next?).bind z.localMidnight?

/-- There are a date of the time and a unit after that of the date, and the starts of both units
divide the instants. -/
def Covers (u : CalendarUnit) (z : Zone) (t : Word) : Prop :=
  ∃ date next, z.localDate? t = some date ∧ u.next? (u.start date) = some next ∧
    z.Divides (u.start date) ∧ z.Divides next

/-- In UTC there only have to be a date and a next unit. -/
theorem covers_utc
    (h : ((Zone.utc.localDate? t).bind fun date => u.next? (u.start date)).isSome = true) :
    u.Covers Zone.utc t := by
  obtain ⟨next, hnext⟩ := Option.isSome_iff_exists.mp h
  obtain ⟨date, hdate, hnext⟩ := Option.bind_eq_some_iff.mp hnext
  exact ⟨date, next, hdate, hnext, Zone.utc_divides _, Zone.utc_divides _⟩

/-- The unit of a time starts on one day and ends before another, and these days start at the first
and at the last instant. -/
structure UnitAt (u : CalendarUnit) (z : Zone) (t : Word) (start next : Date)
    (first last : Word) : Prop where
  key_eq : u.key z t = some start
  next_eq : u.next? start = some next
  first_eq : z.localMidnight? start = some first
  last_eq : z.localMidnight? next = some last
  previous_eq : u.previous? next = some start
  mem_iff : ∀ t' date, z.localDate? t' = some date →
    (u.start date = start ↔ first ≤ t' ∧ t' < last)

theorem Covers.exists_unitAt (h : u.Covers z t) :
    ∃ start next first last, u.UnitAt z t start next first last := by
  obtain ⟨date, next, hdate, hnext, ⟨first, hfirst, hfrom⟩, ⟨last, hlast, hupto⟩⟩ := h
  refine ⟨u.start date, next, first, last, ?_, hnext, hfirst, hlast, previous_next hnext, ?_⟩
  · rw [key, hdate]
    rfl
  · intro t' date' hdate'
    rw [start_eq_iff hnext, hfrom t' date' hdate', ← Int64.not_le, ← hupto t' date' hdate',
      Int.not_le]

namespace UnitAt

theorem exists_date (h : u.UnitAt z t start next first last) :
    ∃ date, z.localDate? t = some date ∧ u.start date = start :=
  Option.map_eq_some_iff.mp h.key_eq

theorem endOf?_eq (h : u.UnitAt z t start next first last) :
    u.endOf? z (some start) = some last := by
  rw [endOf?, Option.bind_some, h.next_eq, Option.bind_some, h.last_eq]

/-- A time lies within its unit. -/
theorem mem (h : u.UnitAt z t start next first last) : first ≤ t ∧ t < last := by
  obtain ⟨date, hdate, hstart⟩ := h.exists_date
  exact (h.mem_iff t date hdate).mp hstart

/-- A later time belongs to the same unit just if it is before the end of that unit. -/
theorem key_eq_iff (h : u.UnitAt z t start next first last)
    (h' : u.UnitAt z t' start' next' first' last') (hlt : t < t') :
    u.key z t' = u.key z t ↔ t' < last := by
  obtain ⟨date', hdate', hstart'⟩ := h'.exists_date
  rw [h'.key_eq, h.key_eq, Option.some_inj, ← hstart', h.mem_iff t' date' hdate']
  exact and_iff_right (Int64.le_of_lt (Int64.lt_of_le_of_lt h.mem.1 hlt))

/-- A later unit starts later. -/
theorem first_lt (h : u.UnitAt z t start next first last)
    (h' : u.UnitAt z t' start' next' first' last') (hlt : t < t')
    (hne : u.key z t ≠ u.key z t') : first < first' := by
  obtain ⟨date, hdate, hstart⟩ := h.exists_date
  -- the earlier time is outside the later unit, so it lies before its start
  have hout : ¬ (first' ≤ t ∧ t < last') := by
    rw [← h'.mem_iff t date hdate, hstart]
    intro hsame
    rw [h.key_eq, h'.key_eq, hsame] at hne
    exact hne rfl
  have hbefore : t < first' := by
    by_cases hle : first' ≤ t
    · exact absurd ⟨hle, Int64.lt_trans hlt h'.mem.2⟩ hout
    · exact Int64.not_le.mp hle
  exact Int64.lt_of_le_of_lt h.mem.1 hbefore

end UnitAt

/-- Buckets as wide as a month fit around every time that has a date. -/
theorem fits_of_dated {width : Word} {date : Date} (h : z.localDate? t = some date)
    (hpos : 0 < width.toInt) (hwidth : width.toInt ≤ 31 * dayMillis) (offset : Word) :
    Fits width offset t := by
  have hbounds := Zone.toInt_bounds h
  have hlow : startOf width.toInt offset.toInt t.toInt ≤ t.toInt := startOf_le hpos
  have hhigh : t.toInt < startOf width.toInt offset.toInt t.toInt + width.toInt :=
    lt_startOf_add hpos
  simp only [dayMillis] at hwidth
  constructor
  · simp only [Word.least]
    omega
  · simp only [Word.greatest]
    omega

end CalendarUnit

end TimeBuckets
