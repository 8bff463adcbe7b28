/-
What the operations of cursors keep.

* `Kept` — a property that every operation of a cursor keeps, and then every request to a resampler
  over it;
* `Steady` — a property that is kept as well when a width or an end is given from outside;
* `CalendarCursor.below_of_ok`, `CalendarCursor.reposition_of_ok` and others — what single
  operations of a calendar do in terms of the cursor below;
* `Grid.kept`, `Runs.kept` — whatever can be said of a cursor without looking at the place that was
  reached;
* `CalendarCursor.kept` — the unit, the zone, and whatever the cursor below keeps even when it is
  given the width of a month and another end.

The operations of a calendar cursor are treated above any cursor, so that what is shown here holds
of calendars above calendars as well.
-/
import TimeBuckets.Proofs.Seek
import TimeBuckets.Proofs.Units

namespace TimeBuckets

/-- What is kept for each value of a view is kept whatever is said of the view. -/
theorem Keeps.of_view {ε σ τ α : Type} {run : EStateM ε σ α} {view : σ → τ}
    (h : ∀ x, Keeps (fun c => view c = x) run) (P : τ → Prop) :
    Keeps (fun c => P (view c)) run := by
  intro c hc
  have hsame : view (after run c) = view c := h (view c) c rfl
  show P (view (after run c))
  rwa [hsame]

section Kept

variable {σ : Type} [BucketCursor σ] {P : σ → Prop}

/-- All operations of the cursor keep the property, whether they succeed or fail. -/
structure Kept (P : σ → Prop) : Prop where
  hasValue : Keeps P (ValueStream.hasValue (σ := σ))
  nextValue : Keeps P (ValueStream.nextValue (σ := σ))
  openNext : Keeps P (BucketCursor.openNext (σ := σ))
  seek (time : Word) : Keeps P (BucketCursor.seek (σ := σ) time)
  reposition (time : Word) : Keeps P (BucketCursor.reposition (σ := σ) time)

/-- The property is kept as well when a width or an end is given from outside. -/
structure Steady (P : σ → Prop) : Prop extends Kept P where
  setWidth (width : Word) (c : σ) : P c → P (BucketCursor.setWidth width c)
  setEnd (last : Word) (c : σ) : P c → P (BucketCursor.setEnd last c)

theorem Kept.handleAll (h : Kept P) {r : Resampler σ} (hr : P r.cursor)
    (requests : List Request) :
    P (r.handleAll requests).cursor ∧ (r.handleAll requests).statistic = r.statistic :=
  Resampler.keeps_handleAll h.hasValue h.nextValue h.openNext h.seek hr requests

end Kept

theorem Grid.kept (P : Grid → Prop) : Kept fun g : Grid => P g.rewound where
  hasValue := Keeps.of_view (fun _ => keeps_hasValue) P
  nextValue := Keeps.of_view (fun _ => keeps_nextValue) P
  openNext := Keeps.of_view (fun _ => keeps_openNext) P
  seek time := Keeps.of_view (fun _ => keeps_seek time) P
  reposition time := Keeps.of_view (fun _ => keeps_reposition time) P

namespace Runs

variable {r₀ : Runs}

/-- The cursor as it was before anything was read from it. -/
def rewound (r : Runs) : Runs := { r with feed := r.feed.rewound, start := 0, phase := .unread }

theorem rewound_withFeed {r : Runs} {feed : Feed} (h : feed.rewound = r.feed.rewound) :
    rewound { r with feed := feed } = r.rewound := by
  rw [rewound, rewound, h]

theorem keeps_read : Keeps (fun r => r.rewound = r₀) read := by
  intro r hr
  have hfeed := Feed.keeps_next r.feed rfl
  rcases hnext : r.feed.next with ⟨s, feed⟩ | ⟨fault, feed⟩
  · have hread : read r = .ok s { r with feed := feed } := by rw [read, hnext]
    rw [after_of_ok hnext] at hfeed
    rw [after_of_ok hread, rewound_withFeed hfeed, hr]
  · have hread : read r = .error (.source fault) { r with feed := feed } := by rw [read, hnext]
    rw [after_of_error hnext] at hfeed
    rw [after_of_error hread, rewound_withFeed hfeed, hr]

theorem keeps_pairWith (previous : Sample) :
    Keeps (fun r => r.rewound = r₀) (pairWith previous) := by
  refine keeps_read.bind fun current => Keeps.get_bind fun r hr => ?_
  rcases checkOrder previous current r.text with fault | _
  · exact Keeps.throw fault
  · exact Keeps.set hr

theorem keeps_advance : Keeps (fun r => r.rewound = r₀) advance := by
  refine Keeps.get_bind fun r hr => ?_
  rcases r.phase with _ | pair | _
  · exact Keeps.pure ()
  · exact Keeps.ite (keeps_pairWith pair.current) (Keeps.set hr)
  · exact Keeps.pure ()

theorem keeps_contributed {P : Runs → Prop} (pair : Pair) : Keeps P (contributed pair) := by
  intro r hr
  rcases hamount : contribution r.counter pair with fault | amount
  · have hrun : contributed pair r = .error fault r := by rw [contributed, hamount]
    rwa [after_of_error hrun]
  · have hrun : contributed pair r = .ok amount r := by rw [contributed, hamount]
    rwa [after_of_ok hrun]

/-- Asking whether the held pair belongs to the run changes nothing. -/
theorem keeps_holdsLive {P : Runs → Prop} : Keeps P holdsLive := by
  refine Keeps.get_bind fun r _ => ?_
  rcases r.phase with _ | pair | _
  · exact Keeps.pure _
  · exact (keeps_contributed pair).bind fun _ => Keeps.pure _
  · exact Keeps.pure _

theorem keeps_skip (n : Nat) : Keeps (fun r => r.rewound = r₀) (skip n) := by
  induction n with
  | zero => exact Keeps.pure ()
  | succ n ih =>
    refine Keeps.get_bind fun r hr => ?_
    rcases r.phase with _ | pair | _
    · exact Keeps.pure ()
    · exact (keeps_contributed pair).bind fun _ =>
        Keeps.ite (Keeps.set hr) (keeps_advance.bind fun _ => ih)
    · exact Keeps.pure ()

theorem keeps_skipIdle : Keeps (fun r => r.rewound = r₀) skipIdle :=
  Keeps.get_bind fun r _ => keeps_skip (r.feed.left + 1)

theorem keeps_readFirst : Keeps (fun r => r.rewound = r₀) readFirst := by
  refine Keeps.bind (Keeps.modify fun r h => h) fun _ => Keeps.get_bind fun r _ => ?_
  refine Keeps.ite (keeps_read.bind fun first => Keeps.get_bind fun r' _ => ?_) (Keeps.pure ())
  exact Keeps.ite (keeps_pairWith first) (Keeps.pure ())

theorem keeps_fill : Keeps (fun r => r.rewound = r₀) fill := by
  refine Keeps.get_bind fun r _ => ?_
  rcases r.phase with _ | pair | _
  · exact keeps_readFirst.bind fun _ => keeps_skipIdle
  · exact Keeps.pure ()
  · exact Keeps.pure ()

theorem keeps_hasValue : Keeps (fun r => r.rewound = r₀) hasValue :=
  keeps_fill.bind fun _ => keeps_holdsLive

theorem keeps_nextValue : Keeps (fun r => r.rewound = r₀) nextValue := by
  refine keeps_hasValue.bind fun more => Keeps.get_bind fun r _ => ?_
  refine Keeps.ite ?_ (Keeps.throw _)
  rcases r.phase with _ | pair | _
  · exact Keeps.throw _
  · exact (keeps_contributed pair).bind fun _ => keeps_advance.bind fun _ => Keeps.pure _
  · exact Keeps.throw _

theorem reposition_of_ok {r : Runs} {time : Word} {feed : Feed}
    (h : Feed.seek time r.feed = .ok () feed) :
    reposition time r = .ok () { r with feed := feed, phase := .unread } := by
  rw [reposition, h]

/-- A jump that fails leaves the cursor as it was. -/
theorem reposition_of_error {r : Runs} {time : Word} {feed : Feed} {fault : SourceFault}
    (h : Feed.seek time r.feed = .error fault feed) :
    reposition time r = .error (.source fault) r := by
  rw [reposition, h, Feed.seek_error h]

theorem keeps_reposition (time : Word) : Keeps (fun r => r.rewound = r₀) (reposition time) := by
  intro r hr
  have hfeed := Feed.keeps_seek time r.feed rfl
  rcases hseek : Feed.seek time r.feed with ⟨_, feed⟩ | ⟨fault, feed⟩
  · rw [after_of_ok hseek] at hfeed
    rw [after_of_ok (reposition_of_ok hseek)]
    exact (rewound_withFeed hfeed).trans hr
  · rwa [after_of_error (reposition_of_error hseek)]

theorem kept (P : Runs → Prop) : Kept fun r : Runs => P r.rewound where
  hasValue := Keeps.of_view (fun _ => keeps_hasValue) P
  nextValue := Keeps.of_view (fun _ => keeps_nextValue) P
  openNext := Keeps.of_view (fun _ => keeps_fill.bind fun _ => keeps_skipIdle) P
  seek time := Keeps.of_view (fun _ => keeps_reposition time) P
  reposition time := Keeps.of_view (fun _ => keeps_reposition time) P

end Runs

namespace CalendarCursor

/-! ### Single operations of calendars -/

section Operations

variable {σ α : Type} {run : EStateM Fault σ α} {c c' : CalendarCursor σ} {inner : σ}
  {time target : Word} {fault : Fault}

theorem below_of_ok {a : α} (h : run c.inner = .ok a inner) :
    below run c = .ok a { c with inner := inner } := by
  rw [below, h]

theorem below_of_error (h : run c.inner = .error fault inner) :
    below run c = .error fault { c with inner := inner } := by
  rw [below, h]

theorem of_below_ok {a : α} (h : below run c = .ok a c') :
    ∃ inner, run c.inner = .ok a inner ∧ c' = { c with inner := inner } := by
  rcases hrun : run c.inner with ⟨a', inner⟩ | ⟨fault, inner⟩
  · rw [below_of_ok hrun] at h
    obtain ⟨rfl, rfl⟩ := EStateM.Result.ok.inj h
    exact ⟨inner, rfl, rfl⟩
  · rw [below_of_error hrun] at h
    cases h

theorem after_below (run : EStateM Fault σ α) (c : CalendarCursor σ) :
    after (below run) c = { c with inner := after run c.inner } := by
  rcases hrun : run c.inner with ⟨a, inner⟩ | ⟨fault, inner⟩
  · rw [after_of_ok hrun, after_of_ok (below_of_ok hrun)]
  · rw [after_of_error hrun, after_of_error (below_of_error hrun)]

variable [BucketCursor σ]

theorem nextValue_of_more (h : hasValue c = .ok true c') :
    nextValue c = below ValueStream.nextValue c' := by
  rw [nextValue, bind_of_ok h, if_pos rfl]

theorem nextValue_of_none (h : hasValue c = .ok false c') :
    nextValue c = .error (.noValue c'.text) c' := by
  rw [nextValue, bind_of_ok h]
  rfl

theorem nextValue_of_failed (h : hasValue c = .error fault c') :
    nextValue c = .error fault c' := by
  rw [nextValue, bind_of_error h]

theorem reposition_of_ok (h : BucketCursor.reposition time c.inner = .ok () inner) :
    reposition time c = .ok () { c with inner := inner, phase := .unread } := by
  rw [reposition, bind_of_ok (below_of_ok h)]
  rfl

theorem reposition_of_error (h : BucketCursor.reposition time c.inner = .error fault inner) :
    reposition time c = .error fault { c with inner := inner } := by
  rw [reposition, bind_of_error (below_of_error h)]

theorem seek_of_unitFrom (h : c.unitFrom time = .ok target) :
    seek time c = reposition target c := by
  rw [seek, get_bind, h]

theorem seek_of_outOfRange (h : c.unitFrom time = .error fault) :
    seek time c = .error fault c := by
  rw [seek, get_bind, h]
  rfl

end Operations

variable {σ : Type} {u : CalendarUnit} {z : Zone} {P : σ → Prop} {c : CalendarCursor σ}

/-! ### Calendars above any cursor -/

/-- The cursor is one over these units of this zone, above a cursor with the property. -/
structure Over (u : CalendarUnit) (z : Zone) (P : σ → Prop) (c : CalendarCursor σ) : Prop where
  unit_eq : c.unit = u
  zone_eq : c.zone = z
  inner : P c.inner

theorem Over.withPhase (h : Over u z P c) (phase : Phase Word) :
    Over u z P { c with phase := phase } :=
  ⟨h.unit_eq, h.zone_eq, h.inner⟩

/-- A width that opening a unit gives to the cursor below: years give none. -/
def Resizes (u : CalendarUnit) (width : Word) : Prop :=
  u = .month ∧ 0 < width.toInt ∧ width.toInt ≤ 31 * CalendarUnit.dayMillis

theorem keeps_below {α : Type} {run : EStateM Fault σ α} (h : Keeps P run) :
    Keeps (Over u z P) (below run) := by
  intro c hc
  rw [after_below]
  exact ⟨hc.unit_eq, hc.zone_eq, h c.inner hc.inner⟩

/-- The unit around a time starts with the first day of its unit and ends with the next one. -/
theorem of_unitAround {time last : Word} {start : Date}
    (h : c.unitAround time = .ok (start, last)) :
    ∃ date next, c.zone.localDate? time = some date ∧ start = c.unit.start date ∧
      c.unit.next? start = some next ∧ c.zone.localMidnight? next = some last := by
  rcases hdate : c.zone.localDate? time with _ | date
  · simp [unitAround, unitStart, hdate, orOutOfRange, bind, Except.bind] at h
  · rcases hnext : c.unit.next? (c.unit.start date) with _ | next
    · simp [unitAround, unitStart, hdate, hnext, orOutOfRange, bind, Except.bind, pure,
        Except.pure] at h
    · rcases hlast : c.zone.localMidnight? next with _ | midnight
      · simp [unitAround, unitStart, hdate, hnext, hlast, orOutOfRange, bind, Except.bind, pure,
          Except.pure] at h
      · simp [unitAround, unitStart, hdate, hnext, hlast, orOutOfRange, bind, Except.bind, pure,
          Except.pure] at h
        obtain ⟨rfl, rfl⟩ := h
        exact ⟨date, next, rfl, rfl, hnext, hlast⟩

variable [BucketCursor σ]

theorem over_pin (hwidth : ∀ w, Resizes u w → ∀ c, P c → P (BucketCursor.setWidth w c))
    (hend : ∀ last c, P c → P (BucketCursor.setEnd last c)) (h : Over u z P c) {time last : Word}
    {start : Date} (haround : c.unitAround time = .ok (start, last)) :
    Over u z P (c.pin start last) := by
  obtain ⟨date, next, -, rfl, hnext, -⟩ := of_unitAround haround
  refine ⟨h.unit_eq, h.zone_eq, hend last _ ?_⟩
  rw [h.unit_eq] at hnext ⊢
  rcases CalendarUnit.width_of_next hnext with ⟨-, hnone⟩ | ⟨width, hmonth, hsome, hpos, hle⟩
  · rw [hnone]
    exact h.inner
  · rw [hsome]
    exact hwidth width ⟨hmonth, hpos, hle⟩ _ h.inner

/-- Opening a unit keeps what opening the bucket below has brought about. -/
theorem over_openUnit (hhas : Keeps P (ValueStream.hasValue (σ := σ)))
    (hwidth : ∀ w, Resizes u w → ∀ c, P c → P (BucketCursor.setWidth w c))
    (hend : ∀ last c, P c → P (BucketCursor.setEnd last c))
    (hopened : Over u z P (after (below BucketCursor.openNext) c)) :
    Over u z P (after openUnit c) := by
  refine after_bind hopened fun _ => (keeps_below hhas).bind fun more => ?_
  refine Keeps.get_bind fun c hc => ?_
  rcases (if more then BucketCursor.pendingTime c.inner else none) with _ | time
  · exact Keeps.set (hc.withPhase .spent)
  · rcases haround : c.unitAround time with fault | ⟨start, last⟩
    · simp only [haround]
      exact Keeps.throw fault
    · simp only [haround]
      exact Keeps.set (over_pin hwidth hend hc haround)

/-- Asking keeps what reading ahead has brought about. -/
theorem over_hasValue (hhas : Keeps P (ValueStream.hasValue (σ := σ)))
    (hfilled : Over u z P (after fill c)) : Over u z P (after hasValue c) := by
  refine after_bind hfilled fun _ => Keeps.get_bind fun c _ => ?_
  rcases c.phase with _ | last | _
  · exact Keeps.pure false
  · refine (keeps_below hhas).bind fun more => Keeps.ite ?_ (Keeps.pure false)
    exact Keeps.get_bind fun c _ => Keeps.pure _
  · exact Keeps.pure false

section Steps

variable (hhas : Keeps P (ValueStream.hasValue (σ := σ)))
  (hopen : Keeps P (BucketCursor.openNext (σ := σ)))
  (hwidth : ∀ w, Resizes u w → ∀ c, P c → P (BucketCursor.setWidth w c))
  (hend : ∀ last c, P c → P (BucketCursor.setEnd last c))

include hhas hopen hwidth hend

theorem keeps_openUnit : Keeps (Over u z P) openUnit := fun c hc =>
  over_openUnit hhas hwidth hend (keeps_below hopen c hc)

theorem keeps_fill : Keeps (Over u z P) fill := by
  refine Keeps.get_bind fun c _ => ?_
  rcases c.phase with _ | last | _
  · exact keeps_openUnit hhas hopen hwidth hend
  · exact Keeps.pure ()
  · exact Keeps.pure ()

theorem keeps_hasValue : Keeps (Over u z P) hasValue := fun c hc =>
  over_hasValue hhas (keeps_fill hhas hopen hwidth hend c hc)

theorem keeps_openNext : Keeps (Over u z P) openNext := by
  refine Keeps.get_bind fun c _ => ?_
  rcases c.phase with _ | last | _
  · exact keeps_openUnit hhas hopen hwidth hend
  · exact keeps_openUnit hhas hopen hwidth hend
  · exact Keeps.pure ()

theorem keeps_nextValue (hnext : Keeps P (ValueStream.nextValue (σ := σ))) :
    Keeps (Over u z P) nextValue := by
  refine (keeps_hasValue hhas hopen hwidth hend).bind fun more => ?_
  exact Keeps.ite (keeps_below hnext) (Keeps.get_bind fun c _ => Keeps.throw _)

end Steps

theorem keeps_reposition (hreposition : ∀ time, Keeps P (BucketCursor.reposition (σ := σ) time))
    (time : Word) : Keeps (Over u z P) (reposition time) :=
  (keeps_below (hreposition time)).bind fun _ => Keeps.modify fun _ h => h.withPhase .unread

theorem keeps_seek (hreposition : ∀ time, Keeps P (BucketCursor.reposition (σ := σ) time))
    (time : Word) : Keeps (Over u z P) (seek time) := by
  refine Keeps.get_bind fun c _ => ?_
  rcases c.unitFrom time with fault | target
  · exact Keeps.throw fault
  · exact keeps_reposition hreposition target

theorem kept (h : Kept P) (hwidth : ∀ w, Resizes u w → ∀ c, P c → P (BucketCursor.setWidth w c))
    (hend : ∀ last c, P c → P (BucketCursor.setEnd last c)) :
    Kept (Over u z P) where
  hasValue := keeps_hasValue h.hasValue h.openNext hwidth hend
  nextValue := keeps_nextValue h.hasValue h.openNext hwidth hend h.nextValue
  openNext := keeps_openNext h.hasValue h.openNext hwidth hend
  seek := keeps_seek h.reposition
  reposition := keeps_reposition h.reposition

omit [BucketCursor σ] in
/-- What is kept below any units is kept below these. -/
theorem keeps_inner {α : Type} {run : EStateM Fault (CalendarCursor σ) α}
    (h : ∀ u z, Keeps (Over u z P) run) : Keeps (fun c => P c.inner) run :=
  fun c hc => (h c.unit c.zone c ⟨rfl, rfl, hc⟩).inner

theorem steady_inner (h : Steady P) : Steady fun c : CalendarCursor σ => P c.inner :=
  have hunits (u : CalendarUnit) (z : Zone) : Kept (Over u z P) :=
    kept h.toKept (fun w _ => h.setWidth w) h.setEnd
  { hasValue := keeps_inner fun u z => (hunits u z).hasValue
    nextValue := keeps_inner fun u z => (hunits u z).nextValue
    openNext := keeps_inner fun u z => (hunits u z).openNext
    seek := fun time => keeps_inner fun u z => (hunits u z).seek time
    reposition := fun time => keeps_inner fun u z => (hunits u z).reposition time
    setWidth := fun _ _ hc => hc
    setEnd := fun _ _ hc => hc }

end CalendarCursor

end TimeBuckets
