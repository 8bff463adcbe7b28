/-
How calendars above grids go on, and what resamplers are built of.

* `Grid.ReadAhead` — a grid once its first sample is read ahead;
* `CalendarCursor.Opening` — what opening a unit does, in four cases;
* `CalendarCursor.Underway` — a calendar that has begun to read;
* `CalendarCursor.course` — the course of calendars above grids;
* `Built`, `AnyResampler.built` — what a resampler may be built of.

A unit that cannot be opened may have moved the end of the bucket below before this shows.  The
calendar is still at the end of its unit then, because the sample that is held lies behind it.
-/
import TimeBuckets.Proofs.Course
import TimeBuckets.Proofs.Faults
import TimeBuckets.Proofs.Forgetting
import TimeBuckets.Proofs.Stranding

namespace TimeBuckets

/-! ### Calendars above grids -/

namespace Grid

variable {g₀ g : Grid}

/-- The second grid is the first one, or what becomes of it when its first sample is read ahead. -/
structure ReadAhead (g₀ g : Grid) : Prop where
  begun : g.phase ≠ .unread
  eq_of_begun : g₀.phase ≠ .unread → g = g₀
  eq_of_unread : g₀.phase = .unread → g = g₀.started

theorem ReadAhead.pending_le (h : ReadAhead g₀ g) : pending g ≤ pending g₀ := by
  by_cases hphase : g₀.phase = .unread
  · have hpending : pending g₀ = g₀.feed.left := by rw [pending, hphase]
    rw [h.eq_of_unread hphase, hpending]
    exact pending_started_le g₀
  · exact Nat.le_of_eq (congrArg pending (h.eq_of_begun hphase))

/-- Opening a bucket opens that of the first sample, unless this sample cannot be read. -/
theorem openNext_of_readAhead (g₀ : Grid) :
    (∃ g, ReadAhead g₀ g ∧ openNext g₀ = openBucket g) ∨
    ∃ fault, g₀.phase = .unread ∧ g₀.feed.missed.LastFailed (.source fault) ∧
      openNext g₀ = .error (.source fault) { g₀ with feed := g₀.feed.missed } := by
  by_cases hphase : g₀.phase = .unread
  · rcases fill_cases hphase with ⟨hfill, -⟩ | ⟨fault, hfill, hfault⟩
    · have hbegun := begun_of_started g₀
      refine Or.inl ⟨g₀.started, ⟨hbegun, fun h => absurd hphase h, fun _ => rfl⟩, ?_⟩
      rcases hopen : openBucket g₀.started with ⟨_, g⟩ | ⟨fault, g⟩
      · rw [openNext, bind_of_ok (hfill.trans hopen)]
        exact openBucket_of_openBucket hbegun hopen
      · exact bind_of_error (hfill.trans hopen)
    · exact Or.inr ⟨fault, hphase, Feed.lastFailed_missed hfault, bind_of_error hfill⟩
  · exact Or.inl ⟨g₀, ⟨hphase, fun _ => rfl, fun h => absurd h hphase⟩,
      bind_of_ok (fill_of_begun hphase)⟩

end Grid

namespace CalendarCursor

variable {c c' : CalendarCursor Grid} {g : Grid} {s : Sample} {last : Word} {fault : Fault}

/-- What opening a unit does above a grid that holds its next sample, if one is left: the unit is
opened, or the bucket or the unit of this sample is out of range. -/
inductive Opening (c : CalendarCursor Grid) (g : Grid) :
    EStateM.Result Fault (CalendarCursor Grid) Unit → Prop
  | spent (hphase : g.phase = .spent) :
    Opening c g (.ok () { c with inner := g, phase := .spent })
  | noBucket {s : Sample} (hphase : g.phase = .ready s)
    (hend : g.bucketEnd s.time = .error (.outOfRange s.time)) :
    Opening c g (.error (.outOfRange s.time) { c with inner := g })
  | noUnit {s : Sample} {edge : Word} (hphase : g.phase = .ready s)
    (hend : g.bucketEnd s.time = .ok edge)
    (haround : c.unitAround s.time = .error (.outOfRange s.time)) :
    Opening c g (.error (.outOfRange s.time) { c with inner := { g with boundary := edge } })
  | opened {s : Sample} {edge last : Word} {start : Date} (hphase : g.phase = .ready s)
    (hend : g.bucketEnd s.time = .ok edge) (haround : c.unitAround s.time = .ok (start, last)) :
    Opening c g (.ok () (pin { c with inner := { g with boundary := edge } } start last))

theorem opening_openUnit (c : CalendarCursor Grid) :
    (∃ g, c.inner.ReadAhead g ∧ Opening c g (openUnit c)) ∨
    ∃ fault, c.inner.phase = .unread ∧ c.inner.feed.missed.LastFailed (.source fault) ∧
      openUnit c = .error (.source fault)
        { c with inner := { c.inner with feed := c.inner.feed.missed } } := by
  rcases c.inner.openNext_of_readAhead with ⟨g, hahead, hopen⟩ | ⟨fault, hphase, hfailed, hopen⟩
  · refine Or.inl ⟨g, hahead, ?_⟩
    rcases Grid.stock_of_begun hahead.begun with ⟨-, hphase⟩ | ⟨s, -, hphase⟩
    · have hbelow : below BucketCursor.openNext c = .ok () { c with inner := g } := by
        refine below_of_ok (hopen.trans ?_)
        rw [Grid.openBucket, hphase]
      have hmore : below ValueStream.hasValue { c with inner := g }
          = .ok false { c with inner := g } := below_of_ok (Grid.ended_of_spent hphase)
      rw [openUnit, bind_of_ok hbelow, bind_of_ok hmore]
      exact .spent hphase
    · rcases hend : g.bucketEnd s.time with fault | edge
      · have hbelow : below BucketCursor.openNext c = .error fault { c with inner := g } :=
          below_of_error (hopen.trans (Grid.openBucket_of_error hphase hend))
        obtain rfl := Grid.bucketEnd_error hend
        rw [openUnit, bind_of_error hbelow]
        exact .noBucket hphase hend
      · have hbelow : below BucketCursor.openNext c
            = .ok () { c with inner := { g with boundary := edge } } :=
          below_of_ok (hopen.trans (Grid.openBucket_of_ok hphase hend))
        have hlt : s.time < edge := Grid.lt_of_bucketEnd (Grid.toInt_of_bucketEnd hend)
        have hmore : below ValueStream.hasValue { c with inner := { g with boundary := edge } }
            = .ok true { c with inner := { g with boundary := edge } } :=
          below_of_ok (Grid.hasValue_of_held (g := { g with boundary := edge }) hphase hlt)
        have hpending : BucketCursor.pendingTime { g with boundary := edge } = some s.time := by
          show g.phase.held?.map Sample.time = _
          rw [hphase]
          rfl
        rw [openUnit, bind_of_ok hbelow, bind_of_ok hmore, get_bind]
        simp only [if_true, hpending]
        have hsame : unitAround { c with inner := { g with boundary := edge } } s.time
            = c.unitAround s.time := rfl
        rw [hsame]
        rcases haround : c.unitAround s.time with fault | ⟨start, last⟩
        · obtain rfl := withinRange_unitAround c s.time fault haround
          exact .noUnit hphase hend haround
        · exact .opened hphase hend haround
  · exact Or.inr ⟨fault, hphase, hfailed, bind_of_error (below_of_error hopen)⟩

/-- A calendar that has begun to read.  The grid below ends with the open unit, or holds a sample
behind that unit. -/
structure Underway (c : CalendarCursor Grid) : Prop where
  opened : c.phase ≠ .unread
  begun : c.inner.phase ≠ .unread
  bounded : ∀ last, c.phase = .ready last →
    c.inner.boundary = last ∨ ∀ s, c.inner.phase = .ready s → last ≤ s.time

/-- The grid below holds a sample of the open unit and of its own bucket. -/
def holdsValue (c : CalendarCursor Grid) (last : Word) : Bool :=
  c.inner.phase.held?.any fun s => s.time < c.inner.boundary && s.time < last

theorem hasValue_of_ready (hphase : c.phase = .ready last) (hbegun : c.inner.phase ≠ .unread) :
    hasValue c = .ok (c.holdsValue last) c := by
  have hbelow : below ValueStream.hasValue c
      = .ok (c.inner.stock.head?.any (Sample.isBefore c.inner.boundary)) c :=
    below_of_ok (Grid.hasValue_of_begun hbegun)
  rw [hasValue, bind_of_ok (fill_of_begun (hphase ▸ Phase.ready_ne_unread last)), get_bind, hphase]
  show (below ValueStream.hasValue >>= _) c = _
  rw [bind_of_ok hbelow, holdsValue]
  rcases Grid.stock_of_begun hbegun with ⟨hstock, hinner⟩ | ⟨s, hstock, hinner⟩
  · rw [hstock, hinner]
    rfl
  · have hpending : BucketCursor.pendingTime c.inner = some s.time := by
      show c.inner.phase.held?.map Sample.time = _
      rw [hinner]
      rfl
    rw [hstock, hinner, List.head?_cons, Option.any_some, Sample.isBefore]
    by_cases hlt : s.time < c.inner.boundary
    · rw [decide_eq_true hlt, if_pos rfl, get_bind, hpending]
      simp only [Phase.held?, Option.any_some, hlt, decide_true, Bool.true_and]
      rfl
    · rw [decide_eq_false hlt, if_neg (by decide)]
      simp only [Phase.held?, Option.any_some, hlt, decide_false, Bool.false_and]
      rfl

/-- A value that is held lies before both ends. -/
theorem held_of_holdsValue (h : c.holdsValue last = true) :
    ∃ s, c.inner.phase = .ready s ∧ s.time < c.inner.boundary ∧ s.time < last := by
  rw [holdsValue] at h
  rcases hphase : c.inner.phase with _ | s | _
  · rw [hphase] at h
    cases h
  · rw [hphase] at h
    simp only [Phase.held?, Option.any_some, Bool.and_eq_true, decide_eq_true_eq] at h
    exact ⟨s, rfl, h⟩
  · rw [hphase] at h
    cases h

theorem Underway.hasValue_eq (h : Underway c) : ∃ more, hasValue c = .ok more c := by
  rcases hphase : c.phase with _ | last | _
  · exact absurd hphase h.opened
  · exact ⟨_, hasValue_of_ready hphase h.begun⟩
  · exact ⟨false, ended_of_spent hphase⟩

/-- At the end of the unit, the sample that is held lies behind the unit. -/
theorem Underway.le_of_ended (h : Underway c) (hended : Ended c) (hphase : c.phase = .ready last)
    (hinner : c.inner.phase = .ready s) : last ≤ s.time := by
  have hfalse : hasValue c = .ok false c := hended
  rw [hasValue_of_ready hphase h.begun, holdsValue, hinner] at hfalse
  have hheld := (EStateM.Result.ok.inj hfalse).1
  simp only [Phase.held?, Option.any_some, Bool.and_eq_false_iff, decide_eq_false_iff_not,
    Int64.not_lt] at hheld
  rcases h.bounded last hphase with hbound | hbound
  · rw [hbound] at hheld
    exact hheld.elim id id
  · exact hbound s hinner

theorem underway_pin (hbegun : c.inner.phase ≠ .unread) (start : Date) (last : Word) :
    Underway (c.pin start last) := by
  obtain ⟨-, -, hphase, hboundary⟩ := inner_pin (c := c) start last
  refine ⟨Phase.ready_ne_unread last, hphase ▸ hbegun, fun last' h => Or.inl ?_⟩
  rw [hboundary]
  exact Phase.ready.inj h

theorem pending_pin (c : CalendarCursor Grid) (start : Date) (last : Word) :
    Grid.pending (c.pin start last).inner = Grid.pending c.inner := by
  obtain ⟨-, hfeed, hphase, -⟩ := inner_pin (c := c) start last
  rw [Grid.pending, Grid.pending, hphase, hfeed]

/-- The first sample has a bucket or a unit that is out of range. -/
def Shut (fault : Fault) (c : CalendarCursor Grid) : Prop :=
  ∃ s, c.inner.phase = .ready s ∧ fault = .outOfRange s.time ∧
    (c.inner.bucketEnd s.time = .error fault ∨ c.unitAround s.time = .error fault)

theorem Opening.of_ok (h : Opening c g (.ok () c')) (hbegun : g.phase ≠ .unread) :
    Underway c' ∧ Grid.pending c'.inner = Grid.pending g := by
  cases h with
  | spent hphase => exact ⟨⟨Phase.spent_ne_unread, hbegun, nofun⟩, rfl⟩
  | opened hphase hend haround => exact ⟨underway_pin hbegun _ _, pending_pin _ _ _⟩

theorem Opening.of_error (h : Opening c g (.error fault c')) :
    c'.phase = c.phase ∧ c'.inner.phase = g.phase ∧ Shut fault c' := by
  cases h with
  | noBucket hphase hend => exact ⟨rfl, rfl, _, hphase, rfl, Or.inl hend⟩
  | noUnit hphase hend haround => exact ⟨rfl, rfl, _, hphase, rfl, Or.inr haround⟩

theorem seek_phase {time : Word} (h : seek time c = .ok () c') : c'.phase = .unread := by
  rcases hfrom : c.unitFrom time with cause | target
  · rw [seek_of_outOfRange hfrom] at h
    cases h
  · rw [seek_of_unitFrom hfrom, reposition] at h
    obtain ⟨_, c₁, -, hmodify⟩ := of_bind_ok h
    obtain ⟨-, rfl⟩ := EStateM.Result.ok.inj hmodify
    rfl

/-- Asked for the first time, a cursor over units has opened one, or it is still unread. -/
theorem underway_start (hphase : c.phase = .unread) :
    match ValueStream.hasValue c with
    | .ok more c' => Underway c' ∧ ValueStream.hasValue c' = .ok more c' ∧
        ValueStream.pending c' ≤ ValueStream.pending c
    | .error fault c' => Underway c' ∧ ValueStream.pending c' ≤ ValueStream.pending c ∨
        c'.phase = .unread ∧ (c'.inner.feed.LastFailed fault ∨ Shut fault c') := by
  have hfill : fill c = openUnit c := by rw [fill, get_bind, hphase]
  rcases opening_openUnit c with ⟨g, hahead, hopening⟩ | ⟨fault, -, hfailed, hopen⟩
  · rcases hopen : openUnit c with ⟨_, c'⟩ | ⟨fault, c'⟩
    · rw [hopen] at hopening
      obtain ⟨hunderway, hpending⟩ := hopening.of_ok hahead.begun
      obtain ⟨more, hagain⟩ := hunderway.hasValue_eq
      have hrun : ValueStream.hasValue c = .ok more c' :=
        (hasValue_of_openUnit hphase hopen hunderway.opened).trans hagain
      rw [hrun]
      exact ⟨hunderway, hagain, Nat.le_trans (Nat.le_of_eq hpending) hahead.pending_le⟩
    · rw [hopen] at hopening
      obtain ⟨hsame, -, hshut⟩ := hopening.of_error
      have hrun : ValueStream.hasValue c = .error fault c' := bind_of_error (hfill.trans hopen)
      rw [hrun]
      exact Or.inr ⟨hsame.trans hphase, Or.inr hshut⟩
  · have hrun : ValueStream.hasValue c = .error (.source fault) _ :=
      bind_of_error (hfill.trans hopen)
    rw [hrun]
    exact Or.inr ⟨hphase, Or.inl hfailed⟩

theorem hasValue_of_held {last : Word} {s : Sample} (hphase : c.phase = .ready last)
    (hinner : c.inner.phase = .ready s) (hedge : s.time < c.inner.boundary) (hlast : s.time < last) :
    hasValue c = .ok true c := by
  rw [hasValue_of_ready hphase (by rw [hinner]; exact Phase.ready_ne_unread s), holdsValue, hinner]
  simp only [Phase.held?, Option.any_some, decide_eq_true hedge, decide_eq_true hlast, Bool.and_true]

theorem hasValue_of_behind {last : Word} {s : Sample} (hphase : c.phase = .ready last)
    (hinner : c.inner.phase = .ready s) (hbehind : last ≤ s.time) : hasValue c = .ok false c := by
  rw [hasValue_of_ready hphase (by rw [hinner]; exact Phase.ready_ne_unread s), holdsValue, hinner]
  simp only [Phase.held?, Option.any_some, decide_eq_false (Int64.not_lt.mpr hbehind),
    Bool.and_false]

/-- Taking a value leaves less to come, or the grid below is blocked and still has the value. -/
theorem underway_nextValue (h : Underway c) (hhas : hasValue c = .ok true c) :
    match ValueStream.nextValue c with
    | .ok _ c' => Underway c' ∧ ValueStream.pending c' < ValueStream.pending c
    | .error fault c' => Underway c' ∧ (ValueStream.pending c' < ValueStream.pending c ∨
        Grid.Blocked fault c'.inner ∧ ValueStream.hasValue c' = .ok true c') := by
  rcases hphase : c.phase with _ | last | _
  · exact absurd hphase h.opened
  · have hholds := (hasValue_of_ready hphase h.begun).symm.trans hhas
    obtain ⟨s, hinner, hedge, hlast⟩ := held_of_holdsValue (EStateM.Result.ok.inj hholds).1
    -- the grid below still ends with the unit, since the held sample is not behind the unit
    have hbound : c.inner.boundary = last := by
      refine (h.bounded last hphase).resolve_right fun hbehind => ?_
      exact Int64.not_lt.mpr (hbehind s hinner) hlast
    have hunderway : ∀ g : Grid, g.phase ≠ .unread → g.boundary = c.inner.boundary →
        Underway { c with inner := g } := by
      refine fun g hbegun hboundary => ⟨h.opened, hbegun, fun last' h' => Or.inl ?_⟩
      exact (hboundary.trans hbound).trans (Phase.ready.inj (hphase.symm.trans h'))
    have hcases := Grid.nextValue_cases h.begun (Grid.hasValue_of_held hinner hedge)
    rw [show ValueStream.nextValue c = below ValueStream.nextValue c from nextValue_of_more hhas]
    rcases hnext : Grid.nextValue c.inner with ⟨value, g⟩ | ⟨fault, g⟩
    · rw [hnext] at hcases
      obtain ⟨hbegun, hboundary, hlt⟩ := hcases
      rw [below_of_ok (show ValueStream.nextValue c.inner = .ok value g from hnext)]
      exact ⟨hunderway g hbegun hboundary, hlt⟩
    · rw [hnext] at hcases
      obtain ⟨hbegun, hboundary, hcause⟩ := hcases
      rw [below_of_error (show ValueStream.nextValue c.inner = .error fault g from hnext)]
      refine ⟨hunderway g hbegun hboundary, hcause.imp_right fun hblocked => ⟨hblocked.1, ?_⟩⟩
      exact hasValue_of_held (c := { c with inner := g }) hphase (hblocked.2.trans hinner)
        (hboundary ▸ hedge) hlast
  · exact absurd (hhas.symm.trans (ended_of_spent hphase)) (by simp)

/-- Behind the end of its unit, a cursor opens the next one or stays at the end of this one. -/
theorem underway_openNext (h : Underway c) (hended : Ended c) :
    match BucketCursor.openNext c with
    | .ok _ c' => Underway c' ∧ ValueStream.pending c' ≤ ValueStream.pending c
    | .error _ c' => Underway c' ∧ Ended c' := by
  rcases hphase : c.phase with _ | last | _
  · exact absurd hphase h.opened
  · have hstep : BucketCursor.openNext c = openUnit c := by
      show openNext c = _
      rw [openNext, get_bind, hphase]
    rw [hstep]
    rcases opening_openUnit c with ⟨g, hahead, hopening⟩ | ⟨fault, hunread, -, -⟩
    · obtain rfl := hahead.eq_of_begun h.begun
      rcases hopen : openUnit c with ⟨_, c'⟩ | ⟨fault, c'⟩
      · rw [hopen] at hopening
        obtain ⟨hunderway, hpending⟩ := hopening.of_ok hahead.begun
        exact ⟨hunderway, Nat.le_of_eq hpending⟩
      · rw [hopen] at hopening
        obtain ⟨hsame, hinner, s, hready, -, -⟩ := hopening.of_error
        -- the bucket below may have moved, but its sample is still behind the unit
        have hbehind : last ≤ s.time := h.le_of_ended hended hphase (hinner.symm.trans hready)
        refine ⟨⟨hsame ▸ h.opened, hinner ▸ h.begun, fun last' h' => Or.inr fun s' hs' => ?_⟩,
          hasValue_of_behind (hsame.trans hphase) hready hbehind⟩
        obtain rfl := Phase.ready.inj (hphase.symm.trans (hsame.symm.trans h'))
        obtain rfl := Phase.ready.inj (hready.symm.trans hs')
        exact hbehind
    · exact absurd hunread h.begun
  · have hstep : BucketCursor.openNext c = .ok () c := by
      show openNext c = _
      rw [openNext, get_bind, hphase]
      rfl
    rw [hstep]
    exact ⟨h, Nat.le_refl _⟩

theorem course : Course (fun c : CalendarCursor Grid => c.phase = .unread) Underway
    (fun fault c => c.inner.feed.LastFailed fault ∨ Shut fault c)
    (fun fault c => Grid.Blocked fault c.inner) where
  hasValue h := Or.inl h.hasValue_eq
  start {c} hphase := by
    have hstart := underway_start hphase
    rcases hrun : ValueStream.hasValue c with ⟨more, c'⟩ | ⟨fault, c'⟩
    · rw [hrun] at hstart
      exact hstart
    · rw [hrun] at hstart
      exact hstart
  nextValue {c} h hmore := by
    have htaken := underway_nextValue h hmore
    rcases hrun : ValueStream.nextValue c with ⟨value, c'⟩ | ⟨fault, c'⟩
    · rw [hrun] at htaken
      exact htaken
    · rw [hrun] at htaken
      exact htaken
  openNext {c} h hended := by
    have hopened := underway_openNext h hended
    rcases hopen : BucketCursor.openNext c with ⟨_, c'⟩ | ⟨fault, c'⟩
    · rw [hopen] at hopened
      exact hopened
    · rw [hopen] at hopened
      exact hopened.imp_right Or.inl
  seek time := by
    intro c h
    rcases hseek : BucketCursor.seek time c with ⟨_, c'⟩ | ⟨fault, c'⟩
    · rw [after_of_ok hseek]
      exact Or.inl (seek_phase hseek)
    · rw [after_of_error hseek, seek_error hseek]
      exact h

end CalendarCursor

/-! ### What resamplers are built of -/

/-- What a resampler for an interval, a statistic, a time zone and rate options is built of. -/
inductive Built (feed : Feed) (interval : Interval) (statistic : Statistic) (zone : Zone)
    (options : RateOptions) : AnyResampler → Prop
  | runs (hunit : interval.unit = .run) {counter : Option Counter}
    (hcounter : counter
      = if options.counted then some ⟨.monotonic, options.max, options.reset⟩ else none) :
    Built feed interval statistic zone options
      ⟨.runs, Runs.make feed counter, statistic, interval, none⟩
  | grid (hunit : interval.unit = .fixed) {g : Grid}
    (hmake : Grid.make feed interval.width zone.standardMillis options.counter? = .ok g) :
    Built feed interval statistic zone options ⟨.grid, g, statistic, interval, none⟩
  | calendar (unit : CalendarUnit) (hunit : interval.unit.isCalendar = true) {g : Grid}
    (hmake : Grid.make feed interval.width zone.standardMillis options.counter? = .ok g) :
    Built feed interval statistic zone options
      ⟨.calendar .grid, CalendarCursor.make unit zone g, statistic, interval, none⟩

theorem AnyResampler.built {feed : Feed} {interval : Interval} {statistic : Statistic} {zone : Zone}
    {options : RateOptions} {b : AnyResampler}
    (hbuild : build feed interval statistic zone options = .ok b) :
    Built feed interval statistic zone options b := by
  rcases hcursor : cursorFor feed interval zone options with fault | c
  · rw [build, hcursor] at hbuild
    cases hbuild
  rw [build, hcursor] at hbuild
  obtain rfl := Except.ok.inj hbuild
  rw [cursorFor] at hcursor
  rcases hunit : interval.unit with _ | _ | _ | _
  case run =>
    rw [hunit] at hcursor
    obtain rfl := Except.ok.inj hcursor
    exact .runs hunit rfl
  all_goals
    rw [hunit] at hcursor
    rcases hmake : Grid.make feed interval.width zone.standardMillis options.counter? with fault | g
    · rw [hmake] at hcursor
      cases hcursor
    rw [hmake] at hcursor
    obtain rfl := Except.ok.inj hcursor
  case ok.fixed.ok => exact .grid hunit hmake
  case ok.month.ok => exact .calendar .month (by rw [hunit]; rfl) hmake
  case ok.year.ok => exact .calendar .year (by rw [hunit]; rfl) hmake

theorem Grid.phase_of_make {feed : Feed} {width offset : Word} {counter : Option Counter} {g : Grid}
    (h : make feed width offset counter = .ok g) : g.phase = .unread := by
  rw [make] at h
  split at h
  · obtain rfl := Except.ok.inj h
    rfl
  · cases h

end TimeBuckets
