/-
Months and years are groups by the local unit.

* `CalendarCursor.walk` — a cursor over months or years, above a grid, as a walk over what the
  samples of the grid contribute;
* `CalendarCursor.openers` — the values at which the grid below opens a bucket of its own width;
* `CalendarCursor.gives_unit_groups` — draining gives one point for each unit that comes up, whatever
  the width and the offset of the grid are.

The boundary of the grid below is always replaced with the end of the unit, so that its own buckets
are never seen.  They still have to exist whenever a unit is opened: a grid fails if words cannot
hold the ends of its bucket.
-/
import TimeBuckets.Proofs.Keeping
import TimeBuckets.Proofs.LocalUnits

namespace TimeBuckets

namespace CalendarCursor

variable {u : CalendarUnit} {z : Zone} {c : CalendarCursor Grid} {v : Timed} {values : List Timed}

/-! ### Single operations -/

/-- Whether a unit takes a value: the value comes before the end of the unit. -/
def takes (u : CalendarUnit) (z : Zone) (k : Option Date) (v : Timed) : Bool :=
  (u.endOf? z k).any fun last => v.time < last

/-- The values cut into stretches of one unit each. -/
def stretches (u : CalendarUnit) (z : Zone) (values : List Timed) : List (Timed × List Timed) :=
  cut (fun _ => false) (fun v => takes u z (u.key z v.time)) values

/-- The cursor has these values ahead, all of them in units that the calendar holds, and ends the
bucket of the grid below with the open unit.  The grid can open its bucket at the start of every
unit to come. -/
structure Holds (u : CalendarUnit) (z : Zone) (c : CalendarCursor Grid) (values : List Timed)
    (bucket : Option (Option Date)) : Prop where
  unit_eq : c.unit = u
  zone_eq : c.zone = z
  values_ahead : Grid.Ahead c.inner values
  clocked : Clocked c.inner.counter c.inner.stock
  covered : ∀ v ∈ values, u.Covers z v.time
  opened : ∀ k ∈ bucket, ∃ t start next first last, u.UnitAt z t start next first last ∧
    k = some start ∧ c.phase = .ready last ∧ c.inner.boundary = last
  fits : ∀ k ∈ bucket, ∀ stretch ∈ stretches u z (values.dropWhile (takes u z k)),
    Fits c.inner.width c.inner.offset stretch.1.time
  ended : bucket = none → values = [] ∧ c.phase = .spent

theorem fill_of_begun {σ : Type} [BucketCursor σ] {c : CalendarCursor σ} (h : c.phase ≠ .unread) :
    fill c = .ok () c := by
  rw [fill, get_bind]
  rcases hphase : c.phase with _ | last | _
  · exact absurd hphase h
  · rfl
  · rfl

theorem unitAround_of_unitAt {t : Word} {start next : Date} {first last : Word}
    (hunit : c.unit = u) (hzone : c.zone = z) (h : u.UnitAt z t start next first last) :
    c.unitAround t = .ok (start, last) := by
  obtain ⟨date, hdate, hstart⟩ := h.exists_date
  rw [unitAround, unitStart, hzone, hdate, hunit]
  show (do
    let next ← orOutOfRange t (u.next? (u.start date))
    let last ← orOutOfRange t (z.localMidnight? next)
    return (u.start date, last) : Except Fault (Date × Word)) = _
  rw [hstart, h.next_eq]
  show (do
    let last ← orOutOfRange t (z.localMidnight? next)
    return (start, last) : Except Fault (Date × Word)) = _
  rw [h.last_eq]
  rfl

theorem stretches_cons (u : CalendarUnit) (z : Zone) (v : Timed) (rest : List Timed) :
    stretches u z (v :: rest) = (v, rest.takeWhile (takes u z (u.key z v.time))) ::
      stretches u z (rest.dropWhile (takes u z (u.key z v.time))) :=
  cut_of_not_idle rfl rest

/-- A month gives its width to the grid below, and its end to the bucket there. -/
theorem pin_of_width {start : Date} {width : Word} (hwidth : c.unit.width? start = some width)
    (hpos : 0 < width) (last : Word) :
    c.pin start last = { c with
      inner := { c.inner with width := width, width_pos := hpos, boundary := last },
      phase := .ready last } := by
  rw [pin, hwidth]
  show CalendarCursor.mk c.unit c.zone { c.inner.setWidth width with boundary := last }
    (.ready last) = _
  rw [Grid.setWidth_of_pos hpos]

/-- Pinning the unit of the first value ahead opens it. -/
theorem holds_pin {start next : Date} {first last : Word} (hunit : c.unit = u) (hzone : c.zone = z)
    (h : Grid.Ahead c.inner (v :: values)) (hclocked : Clocked c.inner.counter c.inner.stock)
    (hcovered : ∀ w ∈ v :: values, u.Covers z w.time)
    (hat : u.UnitAt z v.time start next first last)
    (hfits : u = .year → ∀ stretch ∈ stretches u z (v :: values),
      Fits c.inner.width c.inner.offset stretch.1.time) :
    Holds u z (c.pin start last) (v :: values) (some (u.key z v.time)) := by
  have htakes : takes u z (u.key z v.time) v = true := by
    rw [takes, hat.key_eq, hat.endOf?_eq, Option.any_some, decide_eq_true hat.mem.2]
  have hlater : ∀ stretch ∈ stretches u z ((v :: values).dropWhile (takes u z (u.key z v.time))),
      stretch ∈ stretches u z (v :: values) := by
    intro stretch hstretch
    rw [List.dropWhile_cons_of_pos htakes] at hstretch
    rw [stretches_cons]
    exact List.mem_cons_of_mem _ hstretch
  have hopened : ∀ k ∈ some (u.key z v.time), ∃ t start' next first last',
      u.UnitAt z t start' next first last' ∧ k = some start' ∧
        (c.pin start last).phase = .ready last' ∧ (c.pin start last).inner.boundary = last' := by
    intro k hk
    rw [Option.mem_some_iff] at hk
    exact ⟨v.time, start, next, first, last, hat, hk ▸ hat.key_eq, rfl, rfl⟩
  obtain ⟨date, hdate, rfl⟩ := hat.exists_date
  -- a year leaves the width of the grid as it is, and a month makes it so small that it fits
  rcases CalendarUnit.width_of_next hat.next_eq with ⟨hyear, hnone⟩ |
    ⟨width, hmonth, hsome, hpos, hle⟩
  · have hpin : c.pin (u.start date) last
        = { c with inner := { c.inner with boundary := last }, phase := .ready last } := by
      rw [pin, hunit, hnone]
      rfl
    refine ⟨hunit, hzone, ?_, ?_, hcovered, hopened, ?_, nofun⟩
    · rw [hpin]
      exact h.setEnd last
    · rw [hpin]
      exact hclocked
    · intro k hk stretch hstretch
      rw [Option.mem_some_iff] at hk
      rw [← hk] at hstretch
      rw [hpin]
      exact hfits hyear stretch (hlater stretch hstretch)
  · have hpos' : 0 < width := Int64.lt_iff_toInt_lt.mpr hpos
    have hpin := pin_of_width (c := c) (by rw [hunit]; exact hsome) hpos' last
    refine ⟨hunit, hzone, ?_, ?_, hcovered, hopened, ?_, nofun⟩
    · rw [hpin]
      exact ⟨h.reliable, h.begun, h.increasing, h.followed, h.ahead⟩
    · rw [hpin]
      exact hclocked
    · intro k hk stretch hstretch
      rw [Option.mem_some_iff] at hk
      rw [← hk] at hstretch
      obtain ⟨date', -, hdate', -⟩ := hcovered _ (mem_of_mem_cut (hlater stretch hstretch))
      rw [hpin]
      exact CalendarUnit.fits_of_dated hdate' hpos hle _

/-- Opening a unit opens the unit of the first value ahead, once the grid below has opened the
bucket of that value. -/
theorem openUnit_of_openNext {g : Grid} (hunit : c.unit = u) (hzone : c.zone = z)
    (hopen : Grid.openNext c.inner = .ok () g) (h : Grid.Ahead g values)
    (hclocked : Clocked g.counter g.stock)
    (hbefore : ∀ v ∈ values.head?, v.time < g.boundary)
    (hcovered : ∀ v ∈ values, u.Covers z v.time)
    (hfits : u = .year → ∀ stretch ∈ stretches u z values,
      Fits g.width g.offset stretch.1.time) :
    ∃ c', openUnit c = .ok () c' ∧
      Holds u z c' values (values.head?.map fun v => u.key z v.time) := by
  have hbelow : below BucketCursor.openNext c = .ok () { c with inner := g } := below_of_ok hopen
  have hmore : below ValueStream.hasValue { c with inner := g }
      = .ok (values.head?.any fun v => v.time < g.boundary) { c with inner := g } :=
    below_of_ok (Grid.hasValue_of_ahead h)
  rcases values with _ | ⟨v, values⟩
  · refine ⟨{ c with inner := g, phase := .spent }, ?_, hunit, hzone, h, hclocked, hcovered, ?_, ?_,
      fun _ => ⟨rfl, rfl⟩⟩
    case refine_2 => exact fun k hk => absurd hk (by simp)
    case refine_3 => exact fun k hk => absurd hk (by simp)
    rw [openUnit, bind_of_ok hbelow, bind_of_ok hmore, get_bind]
    rfl
  · obtain ⟨start, next, first, last, hat⟩ := (hcovered v List.mem_cons_self).exists_unitAt
    refine ⟨({ c with inner := g } : CalendarCursor Grid).pin start last, ?_,
      holds_pin hunit hzone h hclocked hcovered hat hfits⟩
    obtain ⟨s, hphase, htime⟩ := h.phase_cons
    have hpending : BucketCursor.pendingTime g = some v.time := by
      show g.phase.held?.map Sample.time = _
      rw [hphase, ← htime]
      rfl
    have haround : unitAround { c with inner := g } v.time = .ok (start, last) :=
      unitAround_of_unitAt hunit hzone hat
    rw [openUnit, bind_of_ok hbelow, bind_of_ok hmore, get_bind, List.head?_cons,
      Option.any_some, decide_eq_true (hbefore v rfl)]
    simp only [if_true, hpending, haround]
    rfl

/-- The start of a unit, where the calendar holds it. -/
def timeOf (z : Zone) (k : Option Date) : Word := (k.bind z.localMidnight?).getD 0

namespace Holds

variable {k : Option Date}

theorem begun {bucket : Option (Option Date)} (h : Holds u z c values bucket) :
    c.phase ≠ .unread := by
  rcases bucket with _ | k
  · rw [(h.ended rfl).2]
    nofun
  · obtain ⟨t, start, next, first, last, -, -, hphase, -⟩ := h.opened k rfl
    rw [hphase]
    nofun

/-- The end of the open unit is the boundary of the grid below. -/
theorem takes_eq (h : Holds u z c values (some k)) :
    takes u z k = fun v => decide (v.time < c.inner.boundary) := by
  obtain ⟨t, start, next, first, last, hat, rfl, -, hboundary⟩ := h.opened k rfl
  funext v
  rw [takes, hat.endOf?_eq, hboundary, Option.any_some]

theorem hasValue_eq (h : Holds u z c values (some k)) :
    hasValue c = .ok (values.head?.any (takes u z k)) c := by
  have hmore : below ValueStream.hasValue c
      = .ok (values.head?.any fun v => v.time < c.inner.boundary) c :=
    below_of_ok (Grid.hasValue_of_ahead h.values_ahead)
  rw [h.takes_eq]
  obtain ⟨t, start, next, first, last, -, -, hphase, hboundary⟩ := h.opened k rfl
  rw [hasValue, bind_of_ok (fill_of_begun h.begun), get_bind, hphase]
  show (below ValueStream.hasValue >>= _) c = _
  rw [bind_of_ok hmore]
  rcases values with _ | ⟨v, values⟩
  · rfl
  · obtain ⟨s, hheld, htime⟩ := h.values_ahead.phase_cons
    have hpending : BucketCursor.pendingTime c.inner = some v.time := by
      show c.inner.phase.held?.map Sample.time = _
      rw [hheld, ← htime]
      rfl
    rw [List.head?_cons, Option.any_some, hboundary]
    -- the grid below has the same boundary, so both questions have the same answer
    by_cases hlt : v.time < last
    · rw [decide_eq_true hlt, if_pos rfl, get_bind, hpending]
      show EStateM.Result.ok (decide (v.time < last)) c = _
      rw [decide_eq_true hlt]
    · rw [decide_eq_false hlt, if_neg (by decide)]
      rfl

theorem nextValue_eq (h : Holds u z c (v :: values) (some k)) (htakes : takes u z k v = true) :
    ∃ c', nextValue c = .ok v.value c' ∧ Holds u z c' values (some k) := by
  have hmore : hasValue c = .ok true c := by
    rw [h.hasValue_eq, List.head?_cons, Option.any_some, htakes]
  have hlt : v.time < c.inner.boundary := by
    rw [h.takes_eq] at htakes
    exact of_decide_eq_true htakes
  obtain ⟨hnext, hahead, hclocked⟩ := Grid.nextValue_of_clocked h.values_ahead h.clocked hlt
  refine ⟨{ c with inner := c.inner.started }, ?_, h.unit_eq, h.zone_eq, hahead, hclocked,
    fun w hw => h.covered w (List.mem_cons_of_mem v hw), h.opened, ?_, nofun⟩
  · rw [nextValue_of_more hmore]
    exact below_of_ok hnext
  · intro k' hk stretch hstretch
    rw [Option.mem_some_iff] at hk
    have hfits := h.fits k rfl stretch
    rw [List.dropWhile_cons_of_pos htakes] at hfits
    rw [← hk] at hstretch
    exact hfits hstretch

/-- The start of the open unit is found from its end: it starts the unit before. -/
theorem bucketTime_eq (h : Holds u z c values (some k)) :
    c.bucketTime = .ok (timeOf z k) := by
  obtain ⟨t, start, next, first, last, hat, rfl, hphase, -⟩ := h.opened k rfl
  -- the end of the unit has the date with which the next unit starts
  have hdate := Zone.localDate?_of_localMidnight? hat.last_eq
  have hstart : c.unitStart last = .ok next := by
    rw [unitStart, h.zone_eq, hdate, h.unit_eq]
    show Except.ok (u.start next) = _
    rw [CalendarUnit.start_next hat.next_eq]
  rw [bucketTime, hphase]
  show (do
    let next ← c.unitStart last
    let start ← orOutOfRange last (c.unit.previous? next)
    orOutOfRange last (c.zone.localMidnight? start)) = _
  rw [hstart, h.unit_eq, h.zone_eq]
  show (do
    let start ← orOutOfRange last (u.previous? next)
    orOutOfRange last (z.localMidnight? start)) = _
  rw [hat.previous_eq]
  show orOutOfRange last (z.localMidnight? start) = _
  rw [timeOf, Option.bind_some, hat.first_eq]
  rfl

/-- Opening the unit of the first value ahead, when the open unit takes no further one. -/
theorem openNext_eq (h : Holds u z c values (some k))
    (hover : values.head?.any (takes u z k) = false) :
    ∃ c', openNext c = .ok () c' ∧
      Holds u z c' values (values.head?.map fun v => u.key z v.time) := by
  -- the open unit takes nothing more, so that all values ahead belong to units to come
  have hall : values.dropWhile (takes u z k) = values := by
    rcases values with _ | ⟨v, values⟩
    · rfl
    · rw [List.head?_cons, Option.any_some] at hover
      rw [List.dropWhile_cons_of_neg (by rw [hover]; decide)]
  have hfits := h.fits k rfl
  rw [hall] at hfits
  have hfirst : ∀ v ∈ values.head?, Fits c.inner.width c.inner.offset v.time := by
    intro v hv
    rcases values with _ | ⟨w, values⟩
    · exact absurd hv (by simp)
    · rw [List.head?_cons, Option.mem_some_iff] at hv
      rw [stretches_cons] at hfits
      exact hv ▸ hfits _ List.mem_cons_self
  obtain ⟨last, hopen, hlast⟩ := Grid.openNext_of_ahead h.values_ahead hfirst
  obtain ⟨c', hunit, hheld⟩ := openUnit_of_openNext h.unit_eq h.zone_eq hopen
    (h.values_ahead.setEnd last) h.clocked (fun v hv => Grid.lt_of_bucketEnd (hlast v hv)) h.covered
    fun _ => hfits
  refine ⟨c', ?_, hheld⟩
  obtain ⟨t, start, next, first, last, -, -, hphase, -⟩ := h.opened k rfl
  rw [openNext, get_bind, hphase]
  exact hunit

end Holds

/-! ### Units as a walk -/

/-- A cursor over units walks over the values of the grid below: a bucket takes the values before
the end of its unit. -/
def walk (u : CalendarUnit) (z : Zone) : Walk (CalendarCursor Grid) Timed (Option Date) where
  idle _ := false
  enter v := u.key z v.time
  takes := takes u z
  value := Timed.value
  time := timeOf z
  Holds := Holds u z
  takes_enter {c v values} h _ := by
    obtain ⟨start, next, first, last, hat⟩ := (h.covered v List.mem_cons_self).exists_unitAt
    rw [takes, hat.key_eq, hat.endOf?_eq, Option.any_some, decide_eq_true hat.mem.2]
  length_le h := h.values_ahead.length_le
  hasValue_open h := h.hasValue_eq
  hasValue_none {c values} h := by
    show hasValue c = _
    rw [hasValue, bind_of_ok (fill_of_begun h.begun), get_bind, (h.ended rfl).2]
    rfl
  nextValue h htakes := h.nextValue_eq htakes
  bucketTime h := h.bucketTime_eq
  openNext {c values k} h hover := by
    rw [dropWhile_never]
    exact h.openNext_eq hover

/-- A cursor that has read nothing yet starts a walk over what the remaining samples
contribute. -/
theorem starts_of_unread (hunit : c.unit = u) (hzone : c.zone = z)
    (hphase : c.phase = .unread) (hinner : c.inner.phase = .unread)
    (hf : c.inner.feed.readFaults = []) (hinc : Increasing c.inner.feed.remaining)
    (hclocked : Clocked c.inner.counter c.inner.feed.remaining)
    (hvalues : valuesOf c.inner.counter c.inner.feed.remaining = values)
    (hcovered : ∀ v ∈ values, u.Covers z v.time)
    (hfirst : ∀ v ∈ values.head?, Fits c.inner.width c.inner.offset v.time)
    (hyears : u = .year → ∀ stretch ∈ stretches u z values,
      Fits c.inner.width c.inner.offset stretch.1.time) :
    (walk u z).Starts c values := by
  subst hvalues
  obtain ⟨last, hopen, hlast⟩ := Grid.openNext_of_unread hinner hf hinc hfirst
  obtain ⟨c', hrun, hheld⟩ := openUnit_of_openNext hunit hzone hopen
    ((Grid.ahead_started hf hinc).setEnd last) (hclocked.of_suffix c.inner.stock_started_suffix)
    (fun v hv => Grid.lt_of_bucketEnd (hlast v hv)) hcovered hyears
  have hfill : fill c = .ok () c' := by
    rw [fill, get_bind, hphase]
    exact hrun
  refine Walk.Starts.of_never_idle rfl hheld ?_
  show hasValue c = hasValue c'
  rw [hasValue, bind_of_ok hfill, bind_of_ok (fill_of_begun hheld.begun)]

/-! ### Groups by unit -/

/-- A later value is taken just if it belongs to the same unit. -/
theorem pairwise_takes_iff (hinc : values.Pairwise fun v w => v.time < w.time)
    (hcovered : ∀ v ∈ values, u.Covers z v.time) :
    values.Pairwise fun v w =>
      takes u z (u.key z v.time) w = true ↔ u.key z w.time = u.key z v.time := by
  refine hinc.imp_of_mem fun {v w} hv hw hlt => ?_
  obtain ⟨start, next, first, last, hat⟩ := (hcovered v hv).exists_unitAt
  obtain ⟨start', next', first', last', hat'⟩ := (hcovered w hw).exists_unitAt
  rw [hat.key_eq_iff hat' hlt, takes, hat.key_eq, hat.endOf?_eq, Option.any_some,
    decide_eq_true_eq]

/-- With a value all earlier ones are taken. -/
theorem pairwise_takes_of_takes (hinc : values.Pairwise fun v w => v.time < w.time) :
    values.Pairwise fun v w => ∀ x : Timed,
      takes u z (u.key z x.time) w = true → takes u z (u.key z x.time) v = true := by
  refine hinc.imp fun {v w} hlt x hx => ?_
  rw [takes] at hx ⊢
  rcases hend : u.endOf? z (u.key z x.time) with _ | last
  · rw [hend] at hx
    exact absurd hx (by simp)
  · rw [hend, Option.any_some, decide_eq_true_eq] at hx
    rw [Option.any_some, decide_eq_true_eq]
    exact Int64.lt_trans hlt hx

/-- The buckets of increasing values are groups by unit. -/
theorem grouped_stretches (hinc : values.Pairwise fun v w => v.time < w.time)
    (hcovered : ∀ v ∈ values, u.Covers z v.time) (s : Statistic) :
    Grouped s (fun v => u.key z v.time) (fun k => k.bind z.localMidnight?) Timed.value values
      (((walk u z).stretches values).map ((walk u z).point s)) := by
  refine Walk.grouped (W := walk u z) rfl (pairwise_takes_iff hinc hcovered)
    (pairwise_takes_of_takes hinc) ?_ ?_ s
  · intro v hv
    obtain ⟨start, next, first, last, hat⟩ := (hcovered v hv).exists_unitAt
    show (u.key z v.time).bind z.localMidnight? = some (timeOf z (u.key z v.time))
    rw [timeOf, hat.key_eq, Option.bind_some, hat.first_eq]
    rfl
  · refine hinc.imp_of_mem fun {v w} hv hw hlt hne => ?_
    obtain ⟨start, next, first, last, hat⟩ := (hcovered v hv).exists_unitAt
    obtain ⟨start', next', first', last', hat'⟩ := (hcovered w hw).exists_unitAt
    show timeOf z (u.key z v.time) < timeOf z (u.key z w.time)
    rw [timeOf, timeOf, hat.key_eq, hat'.key_eq, Option.bind_some, Option.bind_some, hat.first_eq,
      hat'.first_eq]
    exact hat.first_lt hat' hlt hne

/-- The values at which the grid below opens a bucket of its own width: the first value of every
year, but of months only the very first value, since every month gives the grid its own width. -/
def openers (u : CalendarUnit) (z : Zone) (values : List Timed) : List Timed :=
  match u with
  | .month => values.head?.toList
  | .year => (groups (fun v => CalendarUnit.year.key z v.time) values).filterMap fun g => g.2.head?

/-- Years start with openers. -/
theorem mem_openers_of_stretch (hinc : values.Pairwise fun v w => v.time < w.time)
    (hcovered : ∀ v ∈ values, CalendarUnit.year.Covers z v.time) {stretch : Timed × List Timed}
    (h : stretch ∈ stretches .year z values) :
    stretch.1 ∈ openers .year z values := by
  have hgroups := groups_eq_cut (pairwise_takes_iff hinc hcovered) (pairwise_takes_of_takes hinc)
  show stretch.1 ∈ (groups (fun v => CalendarUnit.year.key z v.time) values).filterMap
    fun g => g.2.head?
  rw [hgroups, List.mem_filterMap]
  exact ⟨_, List.mem_map_of_mem h, rfl⟩

theorem head_mem_openers (hinc : values.Pairwise fun v w => v.time < w.time)
    (hcovered : ∀ v ∈ values, u.Covers z v.time) (h : v ∈ values.head?) :
    v ∈ openers u z values := by
  rcases values with _ | ⟨w, values⟩
  · exact absurd h (by simp)
  · rw [List.head?_cons, Option.mem_some_iff] at h
    subst h
    cases u with
    | month => exact List.mem_singleton_self _
    | year =>
      have hfirst : (w, values.takeWhile (takes .year z (CalendarUnit.year.key z w.time)))
          ∈ stretches .year z (w :: values) := by
        rw [stretches_cons]
        exact List.mem_cons_self
      exact mem_openers_of_stretch hinc hcovered hfirst

/-- Samples that have dates are so close to each other that words hold the times between them. -/
theorem clocked_of_dated {samples : List Sample}
    (hdated : ∀ a ∈ samples, (z.localDate? a.time).isSome = true) (counter : Option Counter) :
    Clocked counter samples := by
  intro pair hpair
  obtain ⟨i, hi⟩ := List.mem_iff_getElem?.mp hpair
  obtain ⟨hprevious, hcurrent⟩ := getElem?_of_pairs hi
  obtain ⟨date, hdate⟩ := Option.isSome_iff_exists.mp
    (hdated _ (List.mem_of_getElem? hprevious))
  obtain ⟨date', hdate'⟩ := Option.isSome_iff_exists.mp
    (hdated _ (List.mem_of_getElem? hcurrent))
  have hbounds := Zone.toInt_bounds hdate
  have hbounds' := Zone.toInt_bounds hdate'
  have hword : (Word.ofInt? (pair.current.since pair.previous)).isSome = true := by
    rw [Word.isSome_ofInt?_iff, Sample.since, Word.least, Word.greatest]
    omega
  rw [Pair.clocked, Option.all_eq_true]
  intro c _
  rw [Counter.clocks]
  rcases c.kind with _ | _ | _
  · exact hword
  · rfl
  · rfl

/-- Draining a cursor over months or years gives one point for each unit that comes up among the
values: the instant at which the unit starts is its time, and its value is the statistic of the
values of the unit, in their order.  The points are the same for every width and every offset of
the grid below.  In UTC all dates divide the instants.  A counter that asks for the time between
neighbours has to be told it, as it always is if all samples have dates. -/
theorem gives_unit_groups {samples : List Sample} (hinc : Increasing samples) (u : CalendarUnit)
    (z : Zone) {counter : Option Counter} (hclocked : Clocked counter samples)
    (hcovered : ∀ v ∈ valuesOf counter samples, u.Covers z v.time) (s : Statistic) :
    (∃ points,
      Grouped s (fun v => u.key z v.time) (fun k => k.bind z.localMidnight?) Timed.value
        (valuesOf counter samples) points ∧
      ∀ width offset : Word, 0 < width →
        (∀ v ∈ openers u z (valuesOf counter samples), Fits width offset v.time) →
        ∃ g, Grid.make (.ofSamples samples) width offset counter = .ok g ∧
          CursorGives s (make u z g) points) ∧
    ∀ d, Zone.utc.Divides d := by
  have hvalues := pairwise_valuesOf hinc counter
  refine ⟨⟨_, grouped_stretches hvalues hcovered s, fun width offset hw hfits => ?_⟩,
    Zone.utc_divides⟩
  have hremaining : (Grid.fresh samples offset counter hw).feed.remaining = samples :=
    Feed.remaining_ofSamples samples
  refine ⟨_, Grid.make_of_pos hw, Walk.cursor_gives (starts_of_unread rfl rfl rfl rfl rfl
    (by rwa [make, hremaining]) (by rwa [make, hremaining]) (by rw [make, hremaining]; rfl) hcovered
    ?_ ?_) ?_⟩
  · exact fun v hv => hfits v (head_mem_openers hvalues hcovered hv)
  · rintro rfl stretch hstretch
    exact hfits _ (mem_openers_of_stretch hvalues hcovered hstretch)
  · show (valuesOf counter samples).length ≤ Grid.pending (Grid.fresh samples offset counter hw)
    rw [Grid.pending, Grid.fresh, Feed.left_eq, Feed.remaining_ofSamples]
    exact length_valuesOf_le counter samples

/-- Months of UTC around the end of January 1970, with buckets of seven milliseconds below. -/
theorem gives_unit_groups_of_four :
    ∃ points,
      Grouped .sum (fun v => CalendarUnit.month.key Zone.utc v.time)
        (fun k => k.bind Zone.utc.localMidnight?) Timed.value
        (valuesOf (some ⟨.monotonic, 100, 0⟩) [⟨-1, .whole 2⟩, ⟨2678399999, .whole 3⟩,
          ⟨2678400000, .whole 5⟩, ⟨9000000000, .whole 9⟩]) points ∧
      ∃ g, Grid.make (.ofSamples [⟨-1, .whole 2⟩, ⟨2678399999, .whole 3⟩,
          ⟨2678400000, .whole 5⟩, ⟨9000000000, .whole 9⟩]) 7 3 (some ⟨.monotonic, 100, 0⟩)
          = .ok g ∧
        CursorGives .sum (make .month Zone.utc g) points := by
  have hcovered : ∀ v ∈ valuesOf (some ⟨.monotonic, 100, 0⟩) [⟨-1, .whole 2⟩,
      ⟨2678399999, .whole 3⟩, ⟨2678400000, .whole 5⟩, ⟨9000000000, .whole 9⟩],
      CalendarUnit.month.Covers Zone.utc v.time := by
    have hall : ∀ v ∈ valuesOf (some ⟨.monotonic, 100, 0⟩) [⟨-1, .whole 2⟩,
        ⟨2678399999, .whole 3⟩, ⟨2678400000, .whole 5⟩, ⟨9000000000, .whole 9⟩],
        ((Zone.utc.localDate? v.time).bind fun date =>
          CalendarUnit.month.next? (CalendarUnit.month.start date)).isSome = true := by decide
    exact fun v hv => CalendarUnit.covers_utc (hall v hv)
  have hclocked : Clocked (some ⟨.monotonic, 100, 0⟩) [⟨-1, .whole 2⟩, ⟨2678399999, .whole 3⟩,
      ⟨2678400000, .whole 5⟩, ⟨9000000000, .whole 9⟩] :=
    clocked_of_dated (z := Zone.utc) (by decide) _
  obtain ⟨⟨points, hgrouped, hgives⟩, -⟩ := gives_unit_groups (by decide) .month
    Zone.utc hclocked hcovered .sum
  refine ⟨points, hgrouped, hgives 7 3 (by decide) ?_⟩
  intro v hv
  obtain rfl := List.mem_singleton.mp hv
  exact ⟨by decide, by decide⟩

end CalendarCursor

end TimeBuckets
