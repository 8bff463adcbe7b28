/-
A jump forgets all that was asked before.

* `Attempt` — a request, at a time when jumps of the feed fail or not;
* `Shape.Forgets` — cursors of a shape that a jump makes the same again, whatever was asked of them;
* `Grid.forgets`, `Runs.forgets`, `CalendarCursor.forgets` — those of grids, runs and calendars;
* `AnyResampler.seek_forgets` — after any requests, a jump that succeeds leaves a resampler that
  answers like a new one after that jump, and one that fails leaves the resampler as it was.

What outlives a jump is the number of reads, the boundary of a grid, the start of a run, the width
that a month gave to the grid below, and the last point.  The first reading ahead replaces the
boundary and the start, and opening a month replaces the width.  Until then the width shows only in
whether the grid can open a bucket of its own, which for widths up to a month is settled by the
time having a date.
-/
import TimeBuckets.Proofs.Calendar
import TimeBuckets.Proofs.Likeness
import TimeBuckets.Proofs.Spelling
import TimeBuckets.Zone.Names

namespace TimeBuckets

/-! ### Feeds whose jumps fail now and then -/

namespace Shape

/-- The cursor over a feed whose jumps fail from now on, or succeed. -/
def facing (fault : Option SourceFault) : (shape : Shape) → shape.State → shape.State
  | grid => fun g : Grid => { g with feed := { g.feed with seekFault := fault } }
  | runs => fun r : Runs => { r with feed := { r.feed with seekFault := fault } }
  | calendar inner => fun c : CalendarCursor inner.State =>
    { c with inner := inner.facing fault c.inner }

theorem seekFault_facing (fault : Option SourceFault) (shape : Shape) (c : shape.State) :
    (BucketCursor.feed (shape.facing fault c)).seekFault = fault := by
  induction shape with
  | grid => rfl
  | runs => rfl
  | calendar inner ih => exact ih (CalendarCursor.inner c)

end Shape

/-- A request, and the fault that jumps of the feed meet at that time. -/
structure Attempt where
  jumpFault : Option SourceFault
  request : Request

namespace Resampler

variable {shape : Shape}

/-- The resampler over a feed whose jumps fail from now on, or succeed. -/
def facing (r : Resampler shape.State) (fault : Option SourceFault) : Resampler shape.State :=
  { r with cursor := shape.facing fault r.cursor }

/-- The resampler that an attempt leaves behind. -/
def attempt (r : Resampler shape.State) (a : Attempt) : Resampler shape.State :=
  (r.facing a.jumpFault).handle a.request

/-- The resampler that attempts leave behind, one after the other, whatever their results. -/
def attemptAll (r : Resampler shape.State) (attempts : List Attempt) : Resampler shape.State :=
  attempts.foldl attempt r

end Resampler

/-! ### Cursors that a jump makes the same again -/

/-- A jump from any state of a kind succeeds like a jump from another one, and leaves states that
will be alike once they have begun to read; a jump that fails leaves the state as it was. -/
structure Shape.Forgets (shape : Shape) (E U : shape.State → shape.State → Prop)
    (Kin : shape.State → Prop) : Prop where
  alike : Alike E
  begins : Begins E U
  kept : Kept Kin
  facing (fault : Option SourceFault) {c : shape.State} : Kin c → Kin (shape.facing fault c)
  seek_ok {c d c' : shape.State} {time : Word} : Kin c → Kin d →
    (BucketCursor.feed c).seekFault = (BucketCursor.feed d).seekFault →
      BucketCursor.seek time c = .ok () c' → ∃ d', BucketCursor.seek time d = .ok () d' ∧ U c' d'
  seek_error {c c' : shape.State} {time : Word} {fault : Fault} :
    BucketCursor.seek time c = .error fault c' → c' = c

namespace Shape.Forgets

variable {shape : Shape} {E U : shape.State → shape.State → Prop} {Kin : shape.State → Prop}
  {r : Resampler shape.State}

theorem attemptAll (h : shape.Forgets E U Kin) (hr : Kin r.cursor) (attempts : List Attempt) :
    Kin (r.attemptAll attempts).cursor ∧ (r.attemptAll attempts).statistic = r.statistic := by
  have hall : ∀ q : Resampler shape.State, Kin q.cursor ∧ q.statistic = r.statistic →
      Kin (q.attemptAll attempts).cursor ∧ (q.attemptAll attempts).statistic = r.statistic := by
    induction attempts with
    | nil => exact fun q hq => hq
    | cons a rest ih =>
      intro q hq
      obtain ⟨hkin, hs⟩ := h.kept.handleAll (r := q.facing a.jumpFault) (h.facing a.jumpFault hq.1)
        [a.request]
      exact ih (q.attempt a) ⟨hkin, hs.trans hq.2⟩
  exact hall r ⟨hr, rfl⟩

/-- A jump after any attempts is like one before all of them. -/
theorem seek_of_ok (h : shape.Forgets E U Kin) (hr : Kin r.cursor) {attempts : List Attempt}
    {jumpFault : Option SourceFault} {time : Word} {reached : Resampler shape.State}
    (hseek : Resampler.seek time ((r.attemptAll attempts).facing jumpFault) = .ok () reached) :
    ∃ fresh, Resampler.seek time (r.facing jumpFault) = .ok () fresh ∧
      Resampler.Same E U reached fresh := by
  obtain ⟨hkin, hs⟩ := h.attemptAll hr attempts
  generalize r.attemptAll attempts = q at hkin hs hseek
  rw [Resampler.seek] at hseek
  rcases hcursor : BucketCursor.seek time (q.facing jumpFault).cursor with ⟨_, c⟩ | ⟨fault, c⟩
  · rw [Resampler.onCursor_of_ok hcursor] at hseek
    obtain ⟨-, rfl⟩ := EStateM.Result.ok.inj hseek
    obtain ⟨d, hfresh, hunread⟩ := h.seek_ok (h.facing jumpFault hkin) (h.facing jumpFault hr)
      ((shape.seekFault_facing jumpFault q.cursor).trans
        (shape.seekFault_facing jumpFault r.cursor).symm) hcursor
    exact ⟨_, Resampler.onCursor_of_ok (r := r.facing jumpFault) hfresh, Or.inr (Or.inl hunread),
      hs⟩
  · rw [Resampler.onCursor_of_error hcursor] at hseek
    cases hseek

theorem seek_of_error (h : shape.Forgets E U Kin) {time : Word} {fault : Fault}
    {reached : Resampler shape.State} (hseek : Resampler.seek time r = .error fault reached) :
    reached = r := by
  rw [Resampler.seek] at hseek
  rcases hcursor : BucketCursor.seek time r.cursor with ⟨_, c⟩ | ⟨cause, c⟩
  · rw [Resampler.onCursor_of_ok hcursor] at hseek
    cases hseek
  · rw [Resampler.onCursor_of_error hcursor, h.seek_error hcursor] at hseek
    exact (EStateM.Result.error.inj hseek).2.symm

end Shape.Forgets

/-! ### Grids and runs -/

namespace Grid

variable {g d g' : Grid} {samples : Array Sample} {offset : Word} {counter : Option Counter}
  {time : Word}

/-- The grid counts so over these samples, with this offset, and never fails to read one. -/
def Kin (samples : Array Sample) (offset : Word) (counter : Option Counter) (g : Grid) : Prop :=
  g.feed.samples = samples ∧ g.feed.readFaults = [] ∧ g.offset = offset ∧ g.counter = counter

theorem reposition_error {fault : Fault} (h : reposition time g = .error fault g') : g' = g := by
  rcases hseek : Feed.seek time g.feed with ⟨_, feed⟩ | ⟨cause, feed⟩
  · rw [reposition_of_ok hseek] at h
    cases h
  · rw [reposition_of_error hseek] at h
    exact (EStateM.Result.error.inj h).2.symm

/-- Jumps to the same time leave the same samples to read. -/
theorem reposition_ok (hg : Kin samples offset counter g) (hd : Kin samples offset counter d)
    (hfault : g.feed.seekFault = d.feed.seekFault) (h : reposition time g = .ok () g') :
    ∃ d', reposition time d = .ok () d' ∧ Unread g' d' ∧ g'.width = g.width ∧
      d'.width = d.width := by
  obtain ⟨hsamples, hreliable, hoffset, hcounter⟩ := hg
  obtain ⟨hsamples', hreliable', hoffset', hcounter'⟩ := hd
  rcases hseek : Feed.seek time g.feed with ⟨_, feed⟩ | ⟨cause, feed⟩
  · rw [reposition_of_ok hseek] at h
    obtain ⟨-, rfl⟩ := EStateM.Result.ok.inj h
    obtain ⟨feed', hseek', halike⟩ := Feed.seek_alike (hsamples.trans hsamples'.symm) hreliable
      hreliable' hfault hseek
    exact ⟨{ d with feed := feed', phase := .unread }, reposition_of_ok hseek',
      ⟨halike, hoffset.trans hoffset'.symm, hcounter.trans hcounter'.symm, rfl, rfl⟩, rfl, rfl⟩
  · rw [reposition_of_error hseek] at h
    cases h

theorem kin_of_make {feed : Feed} {width : Word} (hreads : feed.readFaults = [])
    (h : make feed width offset counter = .ok g) :
    Kin feed.samples offset counter g ∧ g.width = width := by
  rw [make] at h
  split at h
  · obtain rfl := Except.ok.inj h
    exact ⟨⟨rfl, hreads, rfl, rfl⟩, rfl⟩
  · cases h

theorem forgets (samples : Array Sample) (width offset : Word) (counter : Option Counter) :
    Shape.grid.Forgets Alike (fun g d : Grid => Unread g d ∧ g.width = d.width)
      fun g : Grid => Kin samples offset counter g ∧ g.width = width where
  alike := alike
  begins := begins
  kept := Grid.kept fun g => Kin samples offset counter g ∧ g.width = width
  facing _ _ h := h
  seek_ok {g d g' time} hg hd hfault hseek := by
    have hwidth : Grid.width g = Grid.width d := hg.2.trans hd.2.symm
    have hoffset : Grid.offset g = Grid.offset d := hg.1.2.2.1.trans hd.1.2.2.1.symm
    obtain ⟨target, htarget, -⟩ := exists_seekTarget g time
    have htarget' :
        align d (Word.clamp (time.toInt + ((Grid.width d).toInt - 1))) = .ok target := by
      rw [← align_congr hwidth hoffset, ← hwidth, htarget]
    obtain ⟨d', hd', hunread, hwidth₁, hwidth₂⟩ :=
      reposition_ok hg.1 hd.1 hfault ((seek_of_align htarget).symm.trans hseek)
    exact ⟨d', (seek_of_align htarget').trans hd', hunread,
      hwidth₁.trans (hwidth.trans hwidth₂.symm)⟩
  seek_error {g g' time fault} h := by
    obtain ⟨target, hrun⟩ := exists_reposition g time
    exact reposition_error (hrun.symm.trans h)

end Grid

namespace Runs

variable {r q r' : Runs} {samples : Array Sample} {counter : Option Counter} {time : Word}

/-- The cursor measures so over these samples, and never fails to read one. -/
def Kin (samples : Array Sample) (counter : Option Counter) (r : Runs) : Prop :=
  r.feed.samples = samples ∧ r.feed.readFaults = [] ∧ r.counter = counter

theorem reposition_error {fault : Fault} (h : reposition time r = .error fault r') : r' = r := by
  rcases hseek : Feed.seek time r.feed with ⟨_, feed⟩ | ⟨cause, feed⟩
  · rw [reposition_of_ok hseek] at h
    cases h
  · rw [reposition_of_error hseek] at h
    exact (EStateM.Result.error.inj h).2.symm

theorem reposition_ok (hr : Kin samples counter r) (hq : Kin samples counter q)
    (hfault : r.feed.seekFault = q.feed.seekFault) (h : reposition time r = .ok () r') :
    ∃ q', reposition time q = .ok () q' ∧ Unread r' q' := by
  obtain ⟨hsamples, hreliable, hcounter⟩ := hr
  obtain ⟨hsamples', hreliable', hcounter'⟩ := hq
  rcases hseek : Feed.seek time r.feed with ⟨_, feed⟩ | ⟨cause, feed⟩
  · rw [reposition_of_ok hseek] at h
    obtain ⟨-, rfl⟩ := EStateM.Result.ok.inj h
    obtain ⟨feed', hseek', halike⟩ := Feed.seek_alike (hsamples.trans hsamples'.symm) hreliable
      hreliable' hfault hseek
    exact ⟨{ q with feed := feed', phase := .unread }, reposition_of_ok hseek',
      ⟨halike, hcounter.trans hcounter'.symm, rfl, False.elim⟩, rfl⟩
  · rw [reposition_of_error hseek] at h
    cases h

theorem forgets (samples : Array Sample) (counter : Option Counter) :
    Shape.runs.Forgets (Alike True) Unread (Kin samples counter) where
  alike := alike
  begins := begins
  kept := Runs.kept (Kin samples counter)
  facing _ _ h := h
  seek_ok := reposition_ok
  seek_error := reposition_error

end Runs

/-! ### Calendars above grids -/

namespace Grid

variable {g : Grid} {s : Sample} {last : Word} {fault : Fault}

theorem openNext_of_ok (hphase : g.phase = .unread) (hf : g.feed.readFaults = [])
    (hpulled : g.pulled = .ready s) (hend : g.bucketEnd s.time = .ok last) :
    openNext g = .ok () (g.opened s last) := by
  rw [openNext, bind_of_ok (fill_of_ok hphase hf hpulled hend)]
  exact openBucket_of_ok rfl hend

theorem openNext_of_error (hphase : g.phase = .unread) (hf : g.feed.readFaults = [])
    (hpulled : g.pulled = .ready s) (hend : g.bucketEnd s.time = .error fault) :
    ∃ g', openNext g = .error fault g' := by
  obtain ⟨g', hfill⟩ := fill_of_error hphase hf hpulled hend
  exact ⟨g', bind_of_error hfill⟩

theorem openNext_of_spent (hphase : g.phase = .unread) (hf : g.feed.readFaults = [])
    (hpulled : g.pulled = .spent) :
    openNext g = .ok () { g with feed := g.feed.pulled, phase := .spent } := by
  rw [openNext, bind_of_ok (fill_of_spent hphase hf hpulled)]
  rfl

theorem hasValue_opened (hend : g.bucketEnd s.time = .ok last) :
    hasValue (g.opened s last) = .ok true (g.opened s last) := by
  have hlt : s.time < last := lt_of_bucketEnd (toInt_of_bucketEnd hend)
  have hfill : fill (g.opened s last) = .ok () (g.opened s last) := rfl
  rw [hasValue, bind_of_ok hfill, get_bind]
  show EStateM.Result.ok (decide (s.time < last)) _ = _
  rw [decide_eq_true hlt]

end Grid

namespace CalendarCursor

variable {u : CalendarUnit} {z : Zone} {c d c' : CalendarCursor Grid} {samples : Array Sample}
  {width offset time last last' : Word} {counter : Option Counter} {s : Sample} {fault : Fault}

/-- The calendars have the same samples left, and nothing was read since.  Months may have left
different widths below. -/
structure Unread (c d : CalendarCursor Grid) : Prop where
  unit_eq : c.unit = d.unit
  zone_eq : c.zone = d.zone
  unread : c.phase = .unread
  unread' : d.phase = .unread
  inner : Grid.Unread c.inner d.inner
  widths : c.inner.width = d.inner.width ∨ c.unit = .month ∧
    c.inner.width.toInt ≤ 31 * CalendarUnit.dayMillis ∧
    d.inner.width.toInt ≤ 31 * CalendarUnit.dayMillis

section First

variable (hphase : c.inner.phase = .unread) (hf : c.inner.feed.readFaults = [])

include hphase hf

theorem openUnit_of_spent (hpulled : c.inner.pulled = .spent) :
    ∃ c', openUnit c = .ok () c' ∧ c'.phase = .spent := by
  obtain ⟨g, hopen, hspent⟩ : ∃ g, Grid.openNext c.inner = .ok () g ∧ g.phase = .spent :=
    ⟨_, Grid.openNext_of_spent hphase hf hpulled, rfl⟩
  have hbelow : below BucketCursor.openNext c = .ok () { c with inner := g } := below_of_ok hopen
  have hmore : below ValueStream.hasValue { c with inner := g } = .ok false { c with inner := g } :=
    below_of_ok (Grid.ended_of_spent hspent)
  refine ⟨{ c with inner := g, phase := .spent }, ?_, rfl⟩
  rw [openUnit, bind_of_ok hbelow, bind_of_ok hmore]
  rfl

theorem openUnit_of_ready (hpulled : c.inner.pulled = .ready s)
    (hend : c.inner.bucketEnd s.time = .ok last) :
    openUnit c = (match c.unitAround s.time with
      | .ok (start, next) =>
        .ok () (pin { c with inner := c.inner.opened s last } start next)
      | .error fault => .error fault { c with inner := c.inner.opened s last }) := by
  have hopen : below BucketCursor.openNext c = _ :=
    below_of_ok (Grid.openNext_of_ok hphase hf hpulled hend)
  have hmore : below ValueStream.hasValue { c with inner := c.inner.opened s last } = _ :=
    below_of_ok (Grid.hasValue_opened hend)
  have hpending : BucketCursor.pendingTime (c.inner.opened s last) = some s.time := rfl
  have haround : unitAround { c with inner := c.inner.opened s last } s.time
      = c.unitAround s.time := rfl
  rw [openUnit, bind_of_ok hopen, bind_of_ok hmore, get_bind]
  simp only [if_true, hpending, haround]
  rcases c.unitAround s.time with fault | ⟨start, next⟩
  · rfl
  · rfl

/-- A time whose bucket is out of range and one without a date are met with the same fault. -/
theorem openUnit_fails (hpulled : c.inner.pulled = .ready s)
    (h : (∃ fault, c.inner.bucketEnd s.time = .error fault) ∨ c.zone.localDate? s.time = none) :
    ∃ c', openUnit c = .error (.outOfRange s.time) c' := by
  rcases hend : c.inner.bucketEnd s.time with fault | last
  · obtain ⟨g, hopen⟩ := Grid.openNext_of_error hphase hf hpulled hend
    rw [Grid.bucketEnd_error hend] at hopen
    exact ⟨_, bind_of_error (below_of_error hopen)⟩
  · have hdate : c.zone.localDate? s.time = none :=
      h.resolve_left fun ⟨fault, hfault⟩ => absurd (hend.symm.trans hfault) nofun
    have haround : c.unitAround s.time = .error (.outOfRange s.time) := by
      rw [unitAround, unitStart, hdate]
      rfl
    rw [openUnit_of_ready hphase hf hpulled hend, haround]
    exact ⟨_, rfl⟩

end First

/-- Either both grids below can open a bucket at a time, and then their ends are the same if no
month will replace them, or both calendars fail. -/
theorem Unread.opens (h : Unread c d) (time : Word) :
    (∃ last last', c.inner.bucketEnd time = .ok last ∧ d.inner.bucketEnd time = .ok last' ∧
      (c.unit = .month ∨ c.inner.width = d.inner.width ∧ last = last')) ∨
    ((∃ fault, c.inner.bucketEnd time = .error fault) ∨ c.zone.localDate? time = none) ∧
      ((∃ fault, d.inner.bucketEnd time = .error fault) ∨ d.zone.localDate? time = none) := by
  rcases h.widths with hwidth | ⟨hmonth, hc, hd⟩
  · have hsame := Grid.bucketEnd_congr hwidth h.inner.offset_eq time
    rcases hend : c.inner.bucketEnd time with fault | last
    · exact Or.inr ⟨Or.inl ⟨fault, rfl⟩, Or.inl ⟨fault, hsame.symm.trans hend⟩⟩
    · exact Or.inl ⟨last, last, rfl, hsame.symm.trans hend, Or.inr ⟨hwidth, rfl⟩⟩
  · rcases hdate : c.zone.localDate? time with _ | date
    · exact Or.inr ⟨Or.inr rfl, Or.inr (h.zone_eq ▸ hdate)⟩
    · obtain ⟨last, hlast, -⟩ := Grid.bucketEnd_of_fits
        (CalendarUnit.fits_of_dated hdate c.inner.width_toInt_pos hc c.inner.offset)
      obtain ⟨last', hlast', -⟩ := Grid.bucketEnd_of_fits
        (CalendarUnit.fits_of_dated hdate d.inner.width_toInt_pos hd d.inner.offset)
      exact Or.inl ⟨last, last', hlast, hlast', Or.inl hmonth⟩

/-- Opening a month replaces the width and the end of the bucket of the grid below. -/
theorem Unread.pin {start : Date} {next : Word} (h : Unread c d)
    (hopens : c.unit = .month ∨ c.inner.width = d.inner.width ∧ last = last')
    (haround : c.unitAround s.time = .ok (start, next)) :
    Alike Grid.Alike (pin { c with inner := c.inner.opened s last } start next)
      (pin { d with inner := d.inner.opened s last' } start next) := by
  rcases hopens with hmonth | ⟨hwidth, rfl⟩
  · obtain ⟨date, following, -, rfl, hnext, -⟩ := of_unitAround haround
    rcases CalendarUnit.width_of_next hnext with ⟨hyear, -⟩ | ⟨width, -, hsome, hpos, -⟩
    · exact absurd (hmonth.symm.trans hyear) nofun
    · have hpos' : 0 < width := Int64.lt_iff_toInt_lt.mpr hpos
      have hsome' : d.unit.width? (c.unit.start date) = some width := by
        rwa [← h.unit_eq]
      have hpin := pin_of_width (c := { c with inner := c.inner.opened s last }) hsome hpos' next
      have hpin' := pin_of_width (c := { d with inner := d.inner.opened s last' }) hsome' hpos' next
      rw [hpin, hpin']
      exact ⟨h.unit_eq, h.zone_eq, rfl,
        h.inner.feed.pulled, rfl, h.inner.offset_eq, h.inner.counter_eq, rfl, rfl⟩
  · have hopened : Grid.Alike (c.inner.opened s last) (d.inner.opened s last) :=
      ⟨h.inner.feed.pulled, hwidth, h.inner.offset_eq, h.inner.counter_eq, rfl, rfl⟩
    have hbelow : Alike Grid.Alike { c with inner := c.inner.opened s last }
        { d with inner := d.inner.opened s last } :=
      ⟨h.unit_eq, h.zone_eq, h.unread.trans h.unread'.symm, hopened⟩
    exact hbelow.pin Grid.alike start next

/-- The first unit is opened alike. -/
theorem Unread.openUnit (h : Unread c d) :
    Agrees (fun _ c' d' => Alike Grid.Alike c' d' ∧ c'.phase ≠ .unread ∨
      c'.phase = .spent ∧ d'.phase = .spent) (openUnit c) (openUnit d) := by
  have hf := h.inner.feed.reliable
  have hf' := h.inner.feed.reliable'
  have hpulled := Grid.pulled_congr h.inner.feed h.inner.counter_eq
  rcases Grid.pulled_cases c.inner with hspent | ⟨s, hready⟩
  · obtain ⟨c', hc, hended⟩ := openUnit_of_spent h.inner.unread hf hspent
    obtain ⟨d', hd, hended'⟩ := openUnit_of_spent h.inner.unread' hf' (hpulled ▸ hspent)
    rw [hc, hd]
    exact .ok (Or.inr ⟨hended, hended'⟩)
  · have hready' : d.inner.pulled = .ready s := hpulled ▸ hready
    rcases h.opens s.time with ⟨last, last', hend, hend', hopens⟩ | ⟨hfail, hfail'⟩
    · rw [openUnit_of_ready h.inner.unread hf hready hend,
        openUnit_of_ready h.inner.unread' hf' hready' hend',
        ← unitAround_congr h.unit_eq h.zone_eq]
      rcases haround : c.unitAround s.time with fault | ⟨start, next⟩
      · exact .error rfl
      · exact .ok (Or.inl ⟨h.pin hopens haround, Phase.ready_ne_unread next⟩)
    · obtain ⟨c', hc⟩ := openUnit_fails h.inner.unread hf hready hfail
      obtain ⟨d', hd⟩ := openUnit_fails h.inner.unread' hf' hready' hfail'
      rw [hc, hd]
      exact .error rfl

theorem ended_of_spent (h : c.phase = .spent) : Ended c := by
  show hasValue c = _
  rw [hasValue, bind_of_ok (fill_of_begun (h ▸ Phase.spent_ne_unread)), get_bind, h]
  rfl

/-- Once the first unit is open, nothing more is read ahead. -/
theorem hasValue_of_openUnit (hphase : c.phase = .unread) (h : openUnit c = .ok () c')
    (hbegun : c'.phase ≠ .unread) : hasValue c = hasValue c' := by
  have hfill : fill c = .ok () c' := by
    rw [fill, get_bind, hphase]
    exact h
  rw [hasValue, bind_of_ok hfill, bind_of_ok (fill_of_begun hbegun)]

/-- The first reading ahead replaces the boundary below, and in months the width. -/
theorem begins : Begins (Alike Grid.Alike) Unread := by
  intro c d h
  have hopen := h.openUnit
  have hfill : fill c = openUnit c := by
    rw [fill, get_bind, h.unread]
  have hfill' : fill d = openUnit d := by
    rw [fill, get_bind, h.unread']
  show Agrees _ (hasValue c) (hasValue d)
  generalize hx : CalendarCursor.openUnit c = x at hopen
  generalize hy : CalendarCursor.openUnit d = y at hopen
  cases hopen with
  | error h' =>
    rw [hasValue, bind_of_error (hfill.trans hx), bind_of_error (hfill'.trans hy)]
    exact .error h'
  | ok h' =>
    rename_i c' d'
    rcases h' with ⟨halike, hbegun⟩ | ⟨hc, hd⟩
    · rw [hasValue_of_openUnit h.unread hx hbegun,
        hasValue_of_openUnit h.unread' hy (halike.phase_eq ▸ hbegun)]
      exact (respects_hasValue Grid.alike c' d' halike).imp fun _ _ _ => Or.inl
    · rw [hasValue_of_openUnit h.unread hx (hc ▸ Phase.spent_ne_unread),
        hasValue_of_openUnit h.unread' hy (hd ▸ Phase.spent_ne_unread)]
      have hended : hasValue c' = .ok false c' := ended_of_spent hc
      have hended' : hasValue d' = .ok false d' := ended_of_spent hd
      rw [hended, hended']
      exact .ok (Or.inr ⟨rfl, ended_of_spent hc, ended_of_spent hd⟩)

/-! ### Jumps over units -/

/-- The width of the grid below: a year leaves it as it was, and a month gives one of its own. -/
def Suits (u : CalendarUnit) (width w : Word) : Prop :=
  match u with
  | .month => w.toInt ≤ 31 * CalendarUnit.dayMillis
  | .year => w = width

/-- The calendar is one over these units of this zone, above a grid that counts so over these
samples and never fails to read one. -/
def Kin (u : CalendarUnit) (z : Zone) (samples : Array Sample) (width offset : Word)
    (counter : Option Counter) : CalendarCursor Grid → Prop :=
  Over u z fun g => Grid.Kin samples offset counter g ∧ Suits u width g.width

theorem Kin.widths (hc : Kin u z samples width offset counter c)
    (hd : Kin u z samples width offset counter d) :
    c.inner.width = d.inner.width ∨ c.unit = .month ∧
      c.inner.width.toInt ≤ 31 * CalendarUnit.dayMillis ∧
      d.inner.width.toInt ≤ 31 * CalendarUnit.dayMillis := by
  have hcwidth := hc.inner.2
  have hdwidth := hd.inner.2
  cases u with
  | month => exact Or.inr ⟨hc.unit_eq, hcwidth, hdwidth⟩
  | year => exact Or.inl (Eq.trans hcwidth (Eq.symm hdwidth))

theorem kept_kin : Kept (Kin u z samples width offset counter) := by
  refine kept (Grid.kept fun g => Grid.Kin samples offset counter g ∧ Suits u width g.width) ?_
    fun last g h => h
  rintro w ⟨rfl, hpos, hle⟩ g ⟨hkin, -⟩
  have hpos' : 0 < w := Int64.lt_iff_toInt_lt.mpr hpos
  show Grid.Kin samples offset counter (g.setWidth w).rewound ∧
    Suits .month width (g.setWidth w).width
  rw [Grid.setWidth_of_pos hpos']
  exact ⟨hkin, hle⟩

/-- Jumps to the same time leave the same samples to read. -/
theorem seek_ok (hc : Kin u z samples width offset counter c)
    (hd : Kin u z samples width offset counter d)
    (hfault : c.inner.feed.seekFault = d.inner.feed.seekFault) (h : seek time c = .ok () c') :
    ∃ d', seek time d = .ok () d' ∧ Unread c' d' := by
  have hunit : c.unit = d.unit := hc.unit_eq.trans hd.unit_eq.symm
  have hzone : c.zone = d.zone := hc.zone_eq.trans hd.zone_eq.symm
  rcases hfrom : c.unitFrom time with fault | target
  · rw [seek_of_outOfRange hfrom] at h
    cases h
  · rw [seek_of_unitFrom hfrom] at h
    have hfrom' : d.unitFrom time = .ok target := (unitFrom_congr hunit hzone time).symm.trans hfrom
    rcases hrun : Grid.reposition target c.inner with ⟨_, g⟩ | ⟨fault, g⟩
    · rw [reposition_of_ok hrun] at h
      obtain ⟨-, rfl⟩ := EStateM.Result.ok.inj h
      obtain ⟨g', hrun', hunread, hwidth, hwidth'⟩ :=
        Grid.reposition_ok hc.inner.1 hd.inner.1 hfault hrun
      refine ⟨{ d with inner := g', phase := .unread },
        (seek_of_unitFrom hfrom').trans (reposition_of_ok hrun'), hunit, hzone, rfl, rfl, hunread,
        ?_⟩
      show g.width = g'.width ∨ c.unit = .month ∧ g.width.toInt ≤ _ ∧ g'.width.toInt ≤ _
      rw [hwidth, hwidth']
      exact hc.widths hd
    · obtain rfl := Grid.reposition_error hrun
      rw [reposition_of_error hrun] at h
      cases h

theorem seek_error (h : seek time c = .error fault c') : c' = c := by
  rcases hfrom : c.unitFrom time with cause | target
  · rw [seek_of_outOfRange hfrom] at h
    exact (EStateM.Result.error.inj h).2.symm
  · rw [seek_of_unitFrom hfrom] at h
    rcases hrun : Grid.reposition target c.inner with ⟨_, g⟩ | ⟨cause, g⟩
    · rw [reposition_of_ok hrun] at h
      cases h
    · obtain rfl := Grid.reposition_error hrun
      rw [reposition_of_error hrun] at h
      exact (EStateM.Result.error.inj h).2.symm

theorem forgets (u : CalendarUnit) (z : Zone) (samples : Array Sample) (width offset : Word)
    (counter : Option Counter) :
    (Shape.calendar .grid).Forgets (Alike Grid.Alike) Unread
      (Kin u z samples width offset counter) where
  alike := alike Grid.alike
  begins := begins
  kept := kept_kin
  facing _ _ h := ⟨h.unit_eq, h.zone_eq, h.inner⟩
  seek_ok := seek_ok
  seek_error := seek_error

end CalendarCursor

/-! ### Resamplers that were built -/

/-- Months come one at a time. -/
theorem Interval.width_of_parse {text : String} {interval : Interval}
    (h : parse text = .ok interval) (hmonth : interval.unit = .month) :
    interval.width.toInt ≤ 31 * CalendarUnit.dayMillis := by
  obtain ⟨-, hknown, hsingle, -, hproduct⟩ := written_of_parse h
  rename_i digits letters size unit width
  obtain rfl : unit = .month := hmonth
  have hsize : size = 2592000000 := by
    have hall : ∀ entry ∈ units, entry.2.2 = .month → entry.2.1 = 2592000000 := by decide
    exact hall _ hknown rfl
  show width.toInt ≤ _
  rw [hproduct, hsingle rfl, hsize]
  decide

namespace AnyResampler

variable {feed : Feed} {interval : Interval} {statistic : Statistic} {zone : Zone}
  {options : RateOptions} {b : AnyResampler}

/-- Whatever is built forgets. -/
theorem exists_forgets (hreads : feed.readFaults = [])
    (hinterval : interval.unit = .fixed ∨ ∃ text, Interval.parse text = .ok interval)
    (hbuild : build feed interval statistic zone options = .ok b) :
    ∃ E U Kin, b.shape.Forgets E U Kin ∧ Kin b.resampler.cursor := by
  rcases hcursor : cursorFor feed interval zone options with fault | c
  · rw [build, hcursor] at hbuild
    cases hbuild
  rw [build, hcursor] at hbuild
  obtain rfl := Except.ok.inj hbuild
  show ∃ E U Kin, c.shape.Forgets E U Kin ∧ Kin c.cursor
  rw [cursorFor] at hcursor
  rcases hunit : interval.unit with _ | _ | _ | _
  case run =>
    rw [hunit] at hcursor
    obtain rfl := Except.ok.inj hcursor
    exact ⟨_, _, _, Runs.forgets feed.samples _, rfl, hreads, rfl⟩
  all_goals
    rw [hunit] at hcursor
    rcases hmake : Grid.make feed interval.width zone.standardMillis options.counter? with fault | g
    · rw [hmake] at hcursor
      cases hcursor
    rw [hmake] at hcursor
    obtain rfl := Except.ok.inj hcursor
    obtain ⟨hkin, hwidth⟩ := Grid.kin_of_make hreads hmake
  case ok.fixed.ok =>
    exact ⟨_, _, _, Grid.forgets feed.samples interval.width _ _, hkin, hwidth⟩
  case ok.month.ok =>
    obtain ⟨text, hparse⟩ := hinterval.resolve_left (by rw [hunit]; exact nofun)
    exact ⟨_, _, _, CalendarCursor.forgets .month zone feed.samples interval.width _ _, rfl, rfl,
      hkin, hwidth.symm ▸ Interval.width_of_parse hparse hunit⟩
  case ok.year.ok =>
    exact ⟨_, _, _, CalendarCursor.forgets .year zone feed.samples interval.width _ _, rfl, rfl,
      hkin, hwidth⟩

/-- After any attempts, a jump that succeeds leaves a resampler that answers like a new one after
that jump, up to the first fault, and a jump that fails leaves the resampler as it was. -/
theorem seek_forgets (hreads : feed.readFaults = [])
    (hinterval : interval.unit = .fixed ∨ ∃ text, Interval.parse text = .ok interval)
    (hbuild : build feed interval statistic zone options = .ok b) (attempts : List Attempt)
    (jumpFault : Option SourceFault) (time : Word) :
    (∀ reached,
      Resampler.seek time ((b.resampler.attemptAll attempts).facing jumpFault) = .ok () reached →
      ∃ fresh, Resampler.seek time (b.resampler.facing jumpFault) = .ok () fresh ∧
        ∀ requests, (∀ t, Request.seek t ∉ requests) →
          (untilFault (reached.answers requests)).map (Except.mapError Fault.bare)
            = (untilFault (fresh.answers requests)).map (Except.mapError Fault.bare)) ∧
    ∀ fault reached, Resampler.seek time ((b.resampler.attemptAll attempts).facing jumpFault)
        = .error fault reached →
      reached = (b.resampler.attemptAll attempts).facing jumpFault := by
  obtain ⟨E, U, Kin, hforgets, hkin⟩ := exists_forgets hreads hinterval hbuild
  refine ⟨fun reached hseek => ?_, fun fault reached hseek => hforgets.seek_of_error hseek⟩
  obtain ⟨fresh, hfresh, hsame⟩ := hforgets.seek_of_ok hkin hseek
  exact ⟨fresh, hfresh, fun requests hrequests =>
    Resampler.untilFault_answers hforgets.alike hforgets.begins hsame hrequests⟩

/-- Months of UTC.  The second request fails because the feed does, and the third has opened
February with its 28 days when the jump goes back to its start; the other jump fails itself. -/
theorem seek_forgets_of_four :
    ∃ b : AnyResampler, Interval.parse "1n" = .ok .month ∧
      build (.ofSamples [⟨-1, .whole 2⟩, ⟨2678399999, .whole 3⟩, ⟨2678400000, .whole 5⟩,
        ⟨9000000000, .whole 9⟩]) .month .sum .utc .plain = .ok b ∧
      (∃ reached fresh, Resampler.seek 2678400000 ((b.resampler.attemptAll [⟨none, .nextPoint⟩,
          ⟨some .exhausted, .seek 5⟩, ⟨none, .nextPoint⟩]).facing none) = .ok () reached ∧
        Resampler.seek 2678400000 (b.resampler.facing none) = .ok () fresh ∧
        (untilFault (reached.answers [.hasNext, .nextPoint, .nextPoint, .nextPoint])).map
            (Except.mapError Fault.bare)
          = (untilFault (fresh.answers [.hasNext, .nextPoint, .nextPoint, .nextPoint])).map
            (Except.mapError Fault.bare)) ∧
      ∃ fault reached, Resampler.seek 5 ((b.resampler.attemptAll [⟨none, .nextPoint⟩]).facing
          (some .exhausted)) = .error fault reached ∧
        reached = (b.resampler.attemptAll [⟨none, .nextPoint⟩]).facing (some .exhausted) := by
  have hparse : Interval.parse "1n" = .ok .month := by decide
  obtain ⟨b, hbuild, hok, herror⟩ : ∃ b, build (.ofSamples [⟨-1, .whole 2⟩, ⟨2678399999, .whole 3⟩,
        ⟨2678400000, .whole 5⟩, ⟨9000000000, .whole 9⟩]) .month .sum .utc .plain = .ok b ∧
      (match Resampler.seek 2678400000 ((b.resampler.attemptAll [⟨none, .nextPoint⟩,
          ⟨some .exhausted, .seek 5⟩, ⟨none, .nextPoint⟩]).facing none) with
        | .ok _ _ => true
        | .error _ _ => false) = true ∧
      (match Resampler.seek 5 ((b.resampler.attemptAll [⟨none, .nextPoint⟩]).facing
          (some .exhausted)) with
        | .ok _ _ => false
        | .error _ _ => true) = true :=
    ⟨⟨.calendar .grid, CalendarCursor.make .month .utc ⟨.ofSamples [⟨-1, .whole 2⟩,
      ⟨2678399999, .whole 3⟩, ⟨2678400000, .whole 5⟩, ⟨9000000000, .whole 9⟩], 2592000000, 0, none,
      2592000000, .unread, by decide⟩, .sum, .month, none⟩, rfl, by decide +kernel,
      by decide +kernel⟩
  have hforgets := seek_forgets rfl (Or.inr ⟨"1n", hparse⟩) hbuild
  refine ⟨b, hparse, hbuild, ?_, ?_⟩
  · have h := (hforgets [⟨none, .nextPoint⟩, ⟨some .exhausted, .seek 5⟩, ⟨none, .nextPoint⟩] none
      2678400000).1
    rcases hseek : Resampler.seek 2678400000 ((b.resampler.attemptAll [⟨none, .nextPoint⟩,
      ⟨some .exhausted, .seek 5⟩, ⟨none, .nextPoint⟩]).facing none) with ⟨_, reached⟩ | ⟨_, _⟩
    · obtain ⟨fresh, hfresh, hsame⟩ := h reached hseek
      exact ⟨reached, fresh, rfl, hfresh, hsame _ (by simp)⟩
    · rw [hseek] at hok
      cases hok
  · have h := (hforgets [⟨none, .nextPoint⟩] (some .exhausted) 5).2
    rcases hseek : Resampler.seek 5 ((b.resampler.attemptAll [⟨none, .nextPoint⟩]).facing
      (some .exhausted)) with ⟨_, _⟩ | ⟨fault, reached⟩
    · rw [hseek] at herror
      cases herror
    · exact ⟨fault, reached, rfl, h fault reached hseek⟩

end AnyResampler

end TimeBuckets
