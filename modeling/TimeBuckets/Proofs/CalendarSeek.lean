/-
Jumping over calendar units leaves exactly the later points.

* `CalendarUnit.Rounds` — a time can be rounded up to the start of a unit;
* `CalendarCursor.exists_unitFrom` — the values from there on are those of the units that start at
  the time or later;
* `CalendarCursor.seek_gives_later_units` — after any requests, jumping to a time and draining gives
  the points of a fresh drain at that time or later;
* `CalendarCursor.seek_fails_above_wide_grid` — this needs a grid below that can open its own bucket
  at the first value of every unit.

A drain opens a bucket of the grid below only at the very first value of all, since every month then
gives the grid its own width.  A jump may make any other first value of a month the very first one,
which is why a fresh drain can succeed where a jump is followed by a fault.
-/
import TimeBuckets.Proofs.Calendar
import TimeBuckets.Proofs.Keeping

namespace TimeBuckets

namespace CalendarUnit

variable {u : CalendarUnit} {z : Zone} {t time : Word} {start next : Date} {first last : Word}

/-- There is a date of the time, and the start of its unit divides the instants.  So does the start
of the next unit, which is not needed at the very start of a unit. -/
def Rounds (u : CalendarUnit) (z : Zone) (time : Word) : Prop :=
  ∃ date, z.localDate? time = some date ∧ z.Divides (u.start date) ∧
    (z.localMidnight? (u.start date) = some time ∨
      ∃ next, u.next? (u.start date) = some next ∧ z.Divides next)

theorem Covers.rounds (h : u.Covers z time) : u.Rounds z time := by
  obtain ⟨date, next, hdate, hnext, hstart, hlast⟩ := h
  exact ⟨date, hdate, hstart, Or.inr ⟨next, hnext, hlast⟩⟩

/-- From a start of a unit that divides the instants, the units start just where their times are. -/
theorem UnitAt.le_iff_le_first (h : u.UnitAt z t start next first last) {d : Date} {m : Word}
    (hd : u.start d = d)
    (hdivides : ∀ t e, z.localDate? t = some e → (d.toDays ≤ e.toDays ↔ m ≤ t)) :
    m ≤ t ↔ m ≤ first := by
  obtain ⟨date, hdate, hstart⟩ := h.exists_date
  have hfirst := Zone.localDate?_of_localMidnight? h.first_eq
  rw [← hdivides t date hdate, ← hdivides first start hfirst, ← hd, start_le_iff, hstart]

end CalendarUnit

namespace CalendarCursor

variable {u : CalendarUnit} {z : Zone} {c : CalendarCursor Grid} {values : List Timed}
  {time : Word}

/-! ### Rounding up to the start of a unit -/

theorem unitFrom_of_start {date : Date} (hdate : c.zone.localDate? time = some date)
    (hstart : c.zone.localMidnight? (c.unit.start date) = some time) :
    c.unitFrom time = .ok time := by
  simp [unitFrom, unitStart, hdate, hstart, orOutOfRange, bind, Except.bind, pure, Except.pure]

theorem unitFrom_of_next {date next : Date} {m m' : Word}
    (hdate : c.zone.localDate? time = some date)
    (hstart : c.zone.localMidnight? (c.unit.start date) = some m) (hne : m ≠ time)
    (hnext : c.unit.next? (c.unit.start date) = some next)
    (hlast : c.zone.localMidnight? next = some m') :
    c.unitFrom time = .ok m' := by
  simp [unitFrom, unitStart, hdate, hstart, hne, hnext, hlast, orOutOfRange, bind, Except.bind,
    pure, Except.pure]

/-- The time is rounded up to a start of a unit, and from there on come the times of the units that
start at the time or later. -/
theorem exists_unitFrom (hunit : c.unit = u) (hzone : c.zone = z) (h : u.Rounds z time) :
    ∃ target, c.unitFrom time = .ok target ∧
      ∀ t start next first last, u.UnitAt z t start next first last →
        (target ≤ t ↔ time ≤ first) := by
  subst hunit hzone
  obtain ⟨date, hdate, ⟨m, hm, hfrom⟩, hround⟩ := h
  have hself := CalendarUnit.start_start c.unit date
  by_cases heq : m = time
  -- at the start of a unit there is nothing to round
  · subst heq
    exact ⟨m, unitFrom_of_start hdate hm, fun t start next first last hat =>
      hat.le_iff_le_first hself hfrom⟩
  · obtain ⟨next, hnext, m', hm', hupto⟩ : ∃ next, c.unit.next? (c.unit.start date) = some next ∧
        c.zone.Divides next := by
      rcases hround with hstart | hnext
      · rw [hm, Option.some_inj] at hstart
        exact absurd hstart heq
      · exact hnext
    refine ⟨m', unitFrom_of_next hdate hm heq hnext hm', fun t start next' first last hat => ?_⟩
    rw [hat.le_iff_le_first (CalendarUnit.start_next hnext) hupto]
    -- the time lies behind the start of its unit and before the start of the next one
    obtain ⟨hlow, hhigh⟩ := (CalendarUnit.start_eq_iff hnext).mp (Eq.refl (c.unit.start date))
    have hafter : m ≤ time := (hfrom time date hdate).mp hlow
    have hbefore : time < m' := by
      rw [← Int64.not_le, ← hupto time date hdate]
      exact Int.not_le.mpr hhigh
    have hfirst := Zone.localDate?_of_localMidnight? hat.first_eq
    constructor
    · intro hle
      exact Int64.le_trans (Int64.le_of_lt hbefore) hle
    · intro hle
      -- a unit that starts in between would be the unit of the time, and start before it
      by_cases hlt : m' ≤ first
      · exact hlt
      · rw [← hupto first start hfirst, Int.not_le] at hlt
        have hge := (hfrom first start hfirst).mpr (Int64.le_trans hafter hle)
        have hsame := (CalendarUnit.start_eq_iff hnext).mpr ⟨hge, hlt⟩
        obtain ⟨date', -, rfl⟩ := hat.exists_date
        rw [CalendarUnit.start_start] at hsame
        have hm'' := hat.first_eq
        rw [hsame, hm, Option.some_inj] at hm''
        rw [← hm''] at hle
        exact absurd (Int64.le_antisymm hafter hle) heq

/-! ### First values of units -/

/-- The first value of each unit. -/
def firsts (u : CalendarUnit) (z : Zone) (values : List Timed) : List Timed :=
  (groups (fun v => u.key z v.time) values).filterMap fun g => g.2.head?

theorem mem_firsts_of_head {v : Timed} (h : v ∈ values.head?) : v ∈ firsts u z values := by
  rcases values with _ | ⟨w, values⟩
  · exact absurd h (by simp)
  · rw [List.head?_cons, Option.mem_some_iff] at h
    rw [firsts, groups_cons, List.filterMap_cons]
    simp [h]

/-- Leaving out whole units leaves the first values of the others as they are. -/
theorem mem_firsts_of_filter {v : Timed} (keep : Option Date → Bool)
    (h : v ∈ firsts u z (values.filter fun w => keep (u.key z w.time))) :
    v ∈ firsts u z values := by
  rw [firsts, groups_filter (fun w : Timed => u.key z w.time) keep, List.mem_filterMap] at h
  obtain ⟨g, hg, hv⟩ := h
  exact List.mem_filterMap.mpr ⟨g, (List.mem_filter.mp hg).1, hv⟩

theorem mem_of_mem_firsts {v : Timed} (h : v ∈ firsts u z values) : v ∈ values := by
  obtain ⟨g, hg, hv⟩ := List.mem_filterMap.mp h
  obtain ⟨k, -, rfl⟩ := List.mem_map.mp hg
  exact (List.mem_filter.mp (List.mem_of_mem_head? hv)).1

/-! ### Grids below a calendar -/

variable {samples : List Sample} {width offset : Word} {counter : Option Counter}

/-- The grid over these samples, at its first width or at one that a unit gave to it. -/
def Recast (u : CalendarUnit) (width offset : Word) (counter : Option Counter)
    (samples : List Sample) (g : Grid) : Prop :=
  ∃ (w : Word) (hw : 0 < w), (w = width ∨ Resizes u w) ∧
    g.rewound = Grid.fresh samples offset counter hw

theorem Recast.setWidth {g : Grid} (h : Recast u width offset counter samples g) {w : Word}
    (hw : Resizes u w) : Recast u width offset counter samples (g.setWidth w) := by
  obtain ⟨w₀, hw₀, -, hrewound⟩ := h
  have hpos : 0 < w := Int64.lt_iff_toInt_lt.mpr hw.2.1
  have hfeed : g.feed.rewound = .ofSamples samples := congrArg Grid.feed hrewound
  have hoffset : g.offset = offset := congrArg Grid.offset hrewound
  have hcounter : g.counter = counter := congrArg Grid.counter hrewound
  refine ⟨w, hpos, Or.inr hw, ?_⟩
  rw [Grid.setWidth_of_pos hpos, Grid.rewound, Grid.fresh]
  simp only [hfeed, hoffset, hcounter]

/-- Whatever is asked of a resampler over units, its calendar stays the same up to the place that
was reached and the width of the grid below. -/
theorem kept_recast (u : CalendarUnit) (z : Zone) (width offset : Word) (counter : Option Counter)
    (samples : List Sample) : Kept (Over u z (Recast u width offset counter samples)) :=
  kept (Grid.kept fun g => ∃ (w : Word) (hw : 0 < w), (w = width ∨ Resizes u w) ∧
      g = Grid.fresh samples offset counter hw)
    (fun _ hw _ h => h.setWidth hw) fun _ _ h => h

/-! ### Draining and jumping -/

/-- Draining units above a grid that has read nothing yet gives one point for each unit that comes
up among the values of the remaining samples. -/
theorem gives_of_unread (hunit : c.unit = u) (hzone : c.zone = z) (hphase : c.phase = .unread)
    (hinner : c.inner.phase = .unread) (hf : c.inner.feed.readFaults = [])
    (hinc : Increasing c.inner.feed.remaining)
    (hclocked : Clocked c.inner.counter c.inner.feed.remaining)
    (hvalues : valuesOf c.inner.counter c.inner.feed.remaining = values)
    (hcovered : ∀ v ∈ values, u.Covers z v.time)
    (hfirst : ∀ v ∈ values.head?, Fits c.inner.width c.inner.offset v.time)
    (hyears : u = .year → ∀ stretch ∈ stretches u z values,
      Fits c.inner.width c.inner.offset stretch.1.time)
    (s : Statistic) (interval : Interval) (latest : Option Point) :
    ∃ points, (Resampler.mk c s interval latest).Gives points ∧
      Grouped s (fun v => u.key z v.time) (fun k => k.bind z.localMidnight?) Timed.value values
        points := by
  have hpairs : values.Pairwise fun v w => v.time < w.time := by
    rw [← hvalues]
    exact pairwise_valuesOf hinc _
  have hlen : values.length ≤ ValueStream.pending c := by
    show values.length ≤ Grid.pending c.inner
    rw [← hvalues, Grid.pending, hinner, Feed.left_eq]
    exact length_valuesOf_le _ _
  exact ⟨_, Walk.gives (r := ⟨c, s, interval, latest⟩) (starts_of_unread hunit hzone hphase hinner
    hf hinc hclocked hvalues hcovered hfirst hyears) hlen, grouped_stretches hpairs hcovered s⟩

/-- It is enough that the grid below has the width of a month, or can open its bucket at the first
value of every unit. -/
theorem gives_of_firsts (hunit : c.unit = u) (hzone : c.zone = z) (hphase : c.phase = .unread)
    (hinner : c.inner.phase = .unread) (hf : c.inner.feed.readFaults = [])
    (hinc : Increasing c.inner.feed.remaining)
    (hclocked : Clocked c.inner.counter c.inner.feed.remaining)
    (hvalues : valuesOf c.inner.counter c.inner.feed.remaining = values)
    (hcovered : ∀ v ∈ values, u.Covers z v.time)
    (hfits : Resizes u c.inner.width ∨
      ∀ v ∈ firsts u z values, Fits c.inner.width c.inner.offset v.time)
    (s : Statistic) (interval : Interval) (latest : Option Point) :
    ∃ points, (Resampler.mk c s interval latest).Gives points ∧
      Grouped s (fun v => u.key z v.time) (fun k => k.bind z.localMidnight?) Timed.value values
        points := by
  refine gives_of_unread hunit hzone hphase hinner hf hinc hclocked hvalues hcovered ?_ ?_ s interval
    latest
  · intro v hv
    rcases hfits with ⟨-, hpos, hle⟩ | hfits
    · obtain ⟨date, -, hdate, -⟩ := hcovered v (List.mem_of_mem_head? hv)
      exact CalendarUnit.fits_of_dated hdate hpos hle _
    · exact hfits v (mem_firsts_of_head hv)
  · rintro rfl stretch hstretch
    rcases hfits with ⟨hmonth, -⟩ | hfits
    · exact absurd hmonth (by decide)
    · have hpairs : values.Pairwise fun v w => v.time < w.time := by
        rw [← hvalues]
        exact pairwise_valuesOf hinc _
      exact hfits _ (mem_openers_of_stretch hpairs hcovered hstretch)

/-- A jump leaves the samples from a start of a unit on, wherever the cursor was. -/
theorem seek_of_recast (hinc : Increasing samples)
    (h : Over u z (Recast u width offset counter samples) c) (htime : u.Rounds z time) :
    ∃ c' target, seek time c = .ok () c' ∧
      Over u z (Recast u width offset counter samples) c' ∧ c'.phase = .unread ∧
      c'.inner.phase = .unread ∧
      c'.inner.feed.remaining = samples.filter (fun a => target ≤ a.time) ∧
      ∀ t start next first last, u.UnitAt z t start next first last →
        (target ≤ t ↔ time ≤ first) := by
  obtain ⟨w, hw, -, hrewound⟩ := h.inner
  have hfeed : c.inner.feed.rewound = .ofSamples samples := congrArg Grid.feed hrewound
  have hsamples : c.inner.feed.samples = samples.toArray := congrArg Feed.samples hfeed
  have hfault : c.inner.feed.seekFault = none := congrArg Feed.seekFault hfeed
  obtain ⟨target, htarget, hlater⟩ := exists_unitFrom h.unit_eq h.zone_eq htime
  obtain ⟨feed, hseek, hremaining⟩ := Feed.seek_eq hinc hsamples hfault target
  have hgrid : BucketCursor.reposition target c.inner
      = .ok () { c.inner with feed := feed, phase := .unread } := by
    show Grid.reposition target c.inner = _
    rw [Grid.reposition, hseek]
  have hrun : seek time c = .ok () { c with
      inner := { c.inner with feed := feed, phase := .unread }
      phase := .unread } := (seek_of_unitFrom htarget).trans (reposition_of_ok hgrid)
  have hkept := (kept_recast u z width offset counter samples).seek time c h
  rw [show BucketCursor.seek time = seek time from rfl, after_of_ok hrun] at hkept
  exact ⟨_, target, hrun, hkept, rfl, rfl, hremaining, hlater⟩

/-- Draining after a jump gives the points of the values whose unit starts at the time or later. -/
theorem seek_gives_of_recast (hinc : Increasing samples) (hclocked : Clocked counter samples)
    (hcovered : ∀ v ∈ valuesOf counter samples, u.Covers z v.time)
    (hfits : ∀ v ∈ firsts u z (valuesOf counter samples), Fits width offset v.time)
    (h : Over u z (Recast u width offset counter samples) c) (htime : u.Rounds z time)
    (s : Statistic) (interval : Interval) (latest : Option Point) :
    ∃ c' points, seek time c = .ok () c' ∧ (Resampler.mk c' s interval latest).Gives points ∧
      Grouped s (fun v => u.key z v.time) (fun k => k.bind z.localMidnight?) Timed.value
        ((valuesOf counter samples).filter fun v =>
          ((u.key z v.time).bind z.localMidnight?).any fun w => time ≤ w) points := by
  obtain ⟨c', target, hseek, hover, hphase, hinner, hremaining, hlater⟩ :=
    seek_of_recast hinc h htime
  obtain ⟨w, hw, hwidth, hrewound⟩ := hover.inner
  have hwidth' : c'.inner.width = w := congrArg Grid.width hrewound
  have hoffset : c'.inner.offset = offset := congrArg Grid.offset hrewound
  have hcounter : c'.inner.counter = counter := congrArg Grid.counter hrewound
  have hreliable : c'.inner.feed.readFaults = [] :=
    congrArg (fun g : Grid => g.feed.readFaults) hrewound
  -- a value is kept for its own time just if it is for the start of its unit
  have hkept : (valuesOf counter samples).filter (fun v =>
      ((u.key z v.time).bind z.localMidnight?).any fun w => time ≤ w)
      = (valuesOf counter samples).filter fun v => target ≤ v.time := by
    refine List.filter_congr fun v hv => ?_
    obtain ⟨start, next, first, last, hat⟩ := (hcovered v hv).exists_unitAt
    rw [hat.key_eq, Option.bind_some, hat.first_eq, Option.any_some, decide_eq_decide,
      hlater v.time start next first last hat]
  have hvalues : valuesOf c'.inner.counter c'.inner.feed.remaining
      = (valuesOf counter samples).filter fun v =>
          ((u.key z v.time).bind z.localMidnight?).any fun w => time ≤ w := by
    rw [hcounter, hremaining, valuesOf_filter hinc, hkept]
  have hleft : ∀ v ∈ firsts u z ((valuesOf counter samples).filter fun v =>
      ((u.key z v.time).bind z.localMidnight?).any fun w => time ≤ w),
      v ∈ firsts u z (valuesOf counter samples) := fun v hv =>
    mem_firsts_of_filter (fun k => (k.bind z.localMidnight?).any fun w => time ≤ w) hv
  obtain ⟨points, hgives, hgrouped⟩ := gives_of_firsts hover.unit_eq hover.zone_eq hphase hinner
    hreliable (by rw [hremaining]; exact hinc.filter _)
    (by rw [hremaining, hcounter]; exact hclocked.of_suffix (suffix_filter hinc target)) hvalues
    (fun v hv => hcovered v (List.mem_filter.mp hv).1) (by
      rw [hwidth', hoffset]
      rcases hwidth with rfl | hwidth
      · exact Or.inr fun v hv => hfits v (hleft v hv)
      · exact Or.inl hwidth) s interval latest
  exact ⟨c', points, hseek, hgives, hgrouped⟩

/-- After any requests to a resampler over units, whatever their results, a jump succeeds for every
time that can be rounded up to the start of a unit, and draining then gives exactly the points of a
fresh drain at that time or later.  A counter that asks for the time between neighbours has to be
told it, as it always is if all samples have dates. -/
theorem seek_gives_later_units (hinc : Increasing samples) (u : CalendarUnit) (z : Zone)
    (hclocked : Clocked counter samples)
    (hcovered : ∀ v ∈ valuesOf counter samples, u.Covers z v.time) (hw : 0 < width)
    (hfits : ∀ v ∈ firsts u z (valuesOf counter samples), Fits width offset v.time)
    (s : Statistic) (interval : Interval) :
    ∃ g points, Grid.make (.ofSamples samples) width offset counter = .ok g ∧
      (Resampler.mk (make u z g) s interval none).Gives points ∧
      ∀ (requests : List Request) (time : Word), u.Rounds z time → ∃ r',
        Resampler.seek time ((Resampler.mk (make u z g) s interval none).handleAll requests)
          = .ok () r' ∧ r'.Gives (points.filter fun p => time ≤ p.time) := by
  have hremaining : (Grid.fresh samples offset counter hw).feed.remaining = samples :=
    Feed.remaining_ofSamples samples
  obtain ⟨points, hgives, hgrouped⟩ := gives_of_firsts
    (c := make u z (Grid.fresh samples offset counter hw)) rfl rfl rfl rfl rfl
    (by rwa [make, hremaining]) (by rwa [make, hremaining]) (by rw [make, hremaining]; rfl) hcovered
    (Or.inr hfits) s interval none
  refine ⟨_, points, Grid.make_of_pos hw, hgives, fun requests time htime => ?_⟩
  have hfresh : Over u z (Recast u width offset counter samples)
      (make u z (Grid.fresh samples offset counter hw)) := ⟨rfl, rfl, width, hw, Or.inl rfl, rfl⟩
  have hreached := (kept_recast u z width offset counter samples).handleAll
    (r := ⟨make u z (Grid.fresh samples offset counter hw), s, interval, none⟩) hfresh requests
  generalize (Resampler.mk (make u z (Grid.fresh samples offset counter hw)) s interval
    none).handleAll requests = r at hreached ⊢
  obtain ⟨hover, hstatistic⟩ := hreached
  obtain ⟨c', points', hseek, hgives', hgrouped'⟩ :=
    seek_gives_of_recast hinc hclocked hcovered hfits hover htime s r.interval r.latest
  -- both are the statistics of the same groups
  have hsame : points' = points.filter fun p => time ≤ p.time :=
    hgrouped'.unique (hgrouped.filter fun w => time ≤ w)
  refine ⟨{ r with cursor := c' }, Resampler.onCursor_of_ok hseek, ?_⟩
  rw [← hsame]
  obtain ⟨cursor, statistic, interval', latest⟩ := r
  obtain rfl : statistic = s := hstatistic
  exact hgives'

/-- Months of UTC with a counter: February 1970 starts at 2678400000, and the first requests have
gone past it. -/
theorem seek_gives_later_units_of_four :
    ∃ g points, Grid.make (.ofSamples [⟨-1, .whole 2⟩, ⟨2678399999, .whole 3⟩,
        ⟨2678400000, .whole 5⟩, ⟨9000000000, .whole 9⟩]) 7 3 (some ⟨.monotonic, 100, 0⟩) = .ok g ∧
      (Resampler.mk (make .month Zone.utc g) .sum .month none).Gives points ∧
      ∃ r', Resampler.seek 2678400000 ((Resampler.mk (make .month Zone.utc g) .sum .month
          none).handleAll [.next?, .seek 1, .nextPoint, .nextPoint]) = .ok () r' ∧
        r'.Gives (points.filter fun p => 2678400000 ≤ p.time) := by
  have hcovered : ∀ v ∈ valuesOf (some ⟨.monotonic, 100, 0⟩) [⟨-1, .whole 2⟩,
      ⟨2678399999, .whole 3⟩, ⟨2678400000, .whole 5⟩, ⟨9000000000, .whole 9⟩],
      CalendarUnit.month.Covers Zone.utc v.time := by
    have hall : ∀ v ∈ valuesOf (some ⟨.monotonic, 100, 0⟩) [⟨-1, .whole 2⟩,
        ⟨2678399999, .whole 3⟩, ⟨2678400000, .whole 5⟩, ⟨9000000000, .whole 9⟩],
        ((Zone.utc.localDate? v.time).bind fun date =>
          CalendarUnit.month.next? (CalendarUnit.month.start date)).isSome = true := by decide
    exact fun v hv => CalendarUnit.covers_utc (hall v hv)
  have hfits : ∀ v ∈ firsts .month Zone.utc (valuesOf (some ⟨.monotonic, 100, 0⟩) [⟨-1, .whole 2⟩,
      ⟨2678399999, .whole 3⟩, ⟨2678400000, .whole 5⟩, ⟨9000000000, .whole 9⟩]),
      Fits 7 3 v.time := by
    intro v hv
    obtain ⟨date, -, hdate, -⟩ := hcovered v (mem_of_mem_firsts hv)
    exact CalendarUnit.fits_of_dated hdate (by decide) (by decide) 3
  have hclocked : Clocked (some ⟨.monotonic, 100, 0⟩) [⟨-1, .whole 2⟩, ⟨2678399999, .whole 3⟩,
      ⟨2678400000, .whole 5⟩, ⟨9000000000, .whole 9⟩] :=
    clocked_of_dated (z := Zone.utc) (by decide) _
  obtain ⟨g, points, hmake, hgives, hseek⟩ := seek_gives_later_units
    (by decide) .month Zone.utc hclocked hcovered (by decide) hfits .sum .month
  exact ⟨g, points, hmake, hgives, hseek [.next?, .seek 1, .nextPoint, .nextPoint] 2678400000
    (CalendarUnit.covers_utc (by decide)).rounds⟩

/-- Above a grid of the greatest width, with an edge between a value in January 1970 and one in
February, a fresh drain gives both months.  After a jump to the start of February the grid would
have to open its own bucket at the later value, and that bucket has no end. -/
theorem seek_fails_above_wide_grid :
    ∃ g points r', Grid.make (.ofSamples [⟨0, .whole 1⟩, ⟨3000000000, .whole 2⟩])
        9223372036854775807 (-1000000000) none = .ok g ∧
      Increasing [⟨0, .whole 1⟩, ⟨3000000000, .whole 2⟩] ∧
      (∀ v ∈ valuesOf none [⟨0, .whole 1⟩, ⟨3000000000, .whole 2⟩],
        CalendarUnit.month.Covers Zone.utc v.time) ∧
      CalendarUnit.month.Rounds Zone.utc 2678400000 ∧
      (Resampler.mk (make .month Zone.utc g) .sum .month none).Gives points ∧
      Resampler.seek 2678400000 (Resampler.mk (make .month Zone.utc g) .sum .month none)
        = .ok () r' ∧
      r'.drainAll.1.fault = some (.outOfRange 3000000000) ∧
      ¬ r'.Gives (points.filter fun p => 2678400000 ≤ p.time) := by
  have hinc : Increasing [⟨0, .whole 1⟩, ⟨3000000000, .whole 2⟩] := by decide
  have hcovered : ∀ v ∈ valuesOf none [⟨0, .whole 1⟩, ⟨3000000000, .whole 2⟩],
      CalendarUnit.month.Covers Zone.utc v.time := by
    have hall : ∀ v ∈ valuesOf none [⟨0, .whole 1⟩, ⟨3000000000, .whole 2⟩],
        ((Zone.utc.localDate? v.time).bind fun date =>
          CalendarUnit.month.next? (CalendarUnit.month.start date)).isSome = true := by decide
    exact fun v hv => CalendarUnit.covers_utc (hall v hv)
  -- of the fresh grid only the bucket of the first value matters
  have hfirst : Fits 9223372036854775807 (-1000000000) 0 := ⟨by decide, by decide⟩
  obtain ⟨points, hgives, -⟩ := gives_of_unread
    (c := make .month Zone.utc (Grid.fresh [⟨0, .whole 1⟩, ⟨3000000000, .whole 2⟩] (-1000000000)
      none (show (0 : Word) < 9223372036854775807 by decide)))
    rfl rfl rfl rfl rfl hinc (clocked_none _) rfl hcovered
    (fun v hv => by
      rw [← Option.mem_some_iff.mp hv]
      exact hfirst)
    nofun .sum .month none
  refine ⟨_, points, _, Grid.make_of_pos (by decide), hinc, hcovered,
    (CalendarUnit.covers_utc (by decide)).rounds, hgives, rfl, rfl, ?_⟩
  rintro ⟨r'', hdrain, -⟩
  have hfault : (some (.outOfRange 3000000000) : Option Fault) = none :=
    congrArg (fun d => d.1.fault) hdrain
  exact absurd hfault (by simp)

end CalendarCursor

end TimeBuckets
