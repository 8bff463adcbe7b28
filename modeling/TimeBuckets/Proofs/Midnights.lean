/-
The instants at which dates and units start.

* `Zone.isLeast_of_earliest?` — what is found for a local time is the first instant that shows it;
* `Zone.exists_isLeast_reached` — clocks that have come to a local time have come to it or over it
  at some first instant;
* `Zone.Begins`, `Zone.begins_of_localMidnight?` — a date starts with the first of its instants,
  unless clocks come to it in another way than with one of the hours that are tried;
* `CalendarCursor.Dated` — the open unit is that of a sample which none ahead precedes;
* `CalendarCursor.units_house_values` — every value that a unit gives lies in this unit, unless a
  date starts late.

The hours that are tried are whole ones.  Clocks that are put forward over a midnight by a quarter
of an hour first show a time of the date that is not tried, so that the date seems to start at one
o'clock.
-/
import Mathlib.Data.Int.LeastGreatest
import Mathlib.Order.Bounds.Defs
import TimeBuckets.Proofs.Stranding
import TimeBuckets.Proofs.Waning

namespace TimeBuckets

namespace Zone

variable {z : Zone} {d e : Date} {m t : Word} {l s : Int}

/-- The local time that clocks show at an instant. -/
def shows (z : Zone) (s : Int) : Int := s + (z.kindAt s).offset

/-- The local time at which a date starts. -/
def midnight (d : Date) : Int := 86400 * d.toDays

/-! ### First instants -/

/-- An instant that shows the local time is not missed by the search. -/
theorem exists_earliestAfter {i : Int} {changes : List ClockChange} :
    ∀ {start : Option Int} {kind : LocalKind}, (∀ s ∈ start, s ≤ i) →
      i + (kindAfter kind changes i).offset = l →
      ∃ j, earliestAfter start kind changes l = some j ∧ j ≤ i := by
  induction changes with
  | nil =>
    intro start kind hstart hshows
    rw [kindAfter] at hshows
    obtain rfl : i = l - kind.offset := by omega
    exact ⟨_, by rw [earliestAfter_nil, if_pos (hasBegun_iff.mpr hstart)], le_rfl⟩
  | cons c rest ih =>
    intro start kind hstart hshows
    rw [earliestAfter_cons]
    rw [kindAfter] at hshows
    split at hshows
    -- the instant is before the change, so the search ends here
    · rename_i hbefore
      obtain rfl : i = l - kind.offset := by omega
      rw [hasBegun_iff.mpr hstart, decide_eq_true hbefore]
      exact ⟨_, rfl, le_rfl⟩
    · rename_i hbefore
      split
      · rename_i hfound
        rw [Bool.and_eq_true, decide_eq_true_eq] at hfound
        exact ⟨_, rfl, by omega⟩
      · refine ih (fun s hs => ?_) hshows
        rw [Option.mem_some_iff] at hs
        omega

theorem exists_earliest? (h : z.shows s = l) : ∃ j, z.earliest? l = some j ∧ j ≤ s :=
  exists_earliestAfter nofun h

/-- What is found is the first instant at which clocks show the local time. -/
theorem isLeast_of_earliest? (h : z.earliest? l = some s) : IsLeast {i | z.shows i = l} s := by
  refine ⟨earliest?_spec h, fun i hi => ?_⟩
  obtain ⟨j, hj, hle⟩ := exists_earliest? hi
  obtain rfl := Option.some.inj (h.symm.trans hj)
  exact hle

/-- A first instant that shows a local time or a later one is found if it shows this time. -/
theorem earliest?_of_isLeast (h : IsLeast {i | l ≤ z.shows i} s) {l' : Int} (hl : l ≤ l')
    (hs : z.shows s = l') : z.earliest? l' = some s := by
  obtain ⟨j, hj, hle⟩ := exists_earliest? hs
  have hshows : z.shows j = l' := earliest?_spec hj
  have hge : s ≤ j := h.2 (show l ≤ z.shows j by omega)
  obtain rfl : j = s := le_antisymm hle hge
  exact hj

theorem kindAt_before (h : ∀ c ∈ z.changes.head?, s < c.second) : z.kindAt s = z.first := by
  rw [kindAt]
  rcases hchanges : z.changes with _ | ⟨c, rest⟩
  · rfl
  · rw [kindAfter, if_pos (h c (by rw [hchanges]; rfl))]

/-- Clocks that show a local time or a later one have done so since some first instant: before all
changes they go on and on into the past. -/
theorem exists_isLeast_reached (h : l ≤ z.shows s) : ∃ i, IsLeast {i | l ≤ z.shows i} i := by
  obtain ⟨edge, hedge⟩ : ∃ edge : Int, ∀ i, i < edge → z.kindAt i = z.first := by
    rcases hchanges : z.changes.head? with _ | c
    · refine ⟨0, fun i _ => kindAt_before ?_⟩
      rw [hchanges]
      exact nofun
    · refine ⟨c.second, fun i hi => kindAt_before fun c' hc' => ?_⟩
      obtain rfl := Option.some.inj (hchanges.symm.trans hc')
      exact hi
  have hbounded : ∀ i, l ≤ z.shows i → min edge (l - z.first.offset) ≤ i := by
    intro i hi
    by_contra hlt
    rw [not_le, lt_min_iff] at hlt
    rw [shows, hedge i hlt.1] at hi
    omega
  obtain ⟨i, hi, hleast⟩ := Int.exists_least_of_bdd ⟨_, hbounded⟩ ⟨s, h⟩
  exact ⟨i, hi, hleast⟩

/-! ### Dates -/

/-- The hours of a date at which it may start. -/
def startHours : List Int := [0, 1, 2, 3]

/-- The date has come up before this instant.  When it came up, clocks did not show an hour at which
it may start, or they show an earlier such hour later on, or the instant lies outside the calendar
of UTC. -/
def Late (z : Zone) (d : Date) (m : Word) : Prop :=
  ∃ s, IsLeast {i | midnight d ≤ z.shows i} s ∧ 1000 * s < m.toInt ∧
    (isDated s = true → ∀ hour ∈ startHours, z.shows s = midnight d + 3600 * hour →
      ∃ earlier ∈ startHours, earlier < hour ∧ z.instantOf? d earlier = some m)

/-- The instant has this date, and unless it is late for it, it is the first one that has this date
or a later one. -/
structure Begins (z : Zone) (d : Date) (m : Word) : Prop where
  date_eq : z.localDate? m = some d
  first_or_late : (∀ t e, z.localDate? t = some e → d.toDays ≤ e.toDays → m ≤ t) ∨ z.Late d m

theorem of_localDate? (h : z.localDate? t = some e) :
    isDated (t.toInt / 1000) = true ∧ z.shows (t.toInt / 1000) / 86400 = e.toDays := by
  rw [localDate?] at h
  split at h
  · rename_i hdated
    exact ⟨hdated, (Date.toDays_of_ofDays? h).symm⟩
  · cases h

/-- The instants of a date and of later dates show its midnight or a later time. -/
theorem midnight_le_shows (h : z.localDate? t = some e) (hle : d.toDays ≤ e.toDays) :
    midnight d ≤ z.shows (t.toInt / 1000) := by
  have hdays := (of_localDate? h).2
  rw [midnight]
  omega

theorem instantOf?_eq_some_iff {hour : Int} :
    z.instantOf? d hour = some m ↔
      ∃ s, z.earliest? (midnight d + 3600 * hour) = some s ∧ isDated s = true ∧
        m.toInt = 1000 * s := by
  rw [instantOf?, midnight]
  rcases z.earliest? (86400 * d.toDays + 3600 * hour) with _ | s
  · simp
  · rcases hdated : isDated s with _ | _
    · simp [hdated]
    · simp [hdated, Word.ofInt?_eq_some_iff]

theorem exists_word_of_isDated (h : isDated s = true) : ∃ m : Word, m.toInt = 1000 * s := by
  rw [isDated, Option.isSome_iff_exists] at h
  obtain ⟨e, he⟩ := h
  have hdays := Date.toDays_of_ofDays? he
  have hbounds := e.toDays_bounds
  exact ⟨_, Word.toInt_ofInt (by simp only [Word.least, Word.greatest]; omega)⟩

/-- The instant of the first hour that is found has the date, and is the first one that has it or a
later one unless it is late. -/
theorem begins_of_localMidnight? (h : z.localMidnight? d = some m) : z.Begins d m := by
  refine ⟨localDate?_of_localMidnight? h, ?_⟩
  obtain ⟨before, hour, after, hhours, hinstant, hnone⟩ := List.findSome?_eq_some_iff.mp h
  have hmem : hour ∈ startHours := by
    rw [show startHours = before ++ hour :: after from hhours]
    exact List.mem_append_right before List.mem_cons_self
  obtain ⟨i, hfound, hdated, hm⟩ := instantOf?_eq_some_iff.mp hinstant
  have hshows : z.shows i = midnight d + 3600 * hour := earliest?_spec hfound
  have hhour : ∀ hour ∈ startHours, 0 ≤ hour := by decide
  have hnonneg := hhour hour hmem
  obtain ⟨s, hleast⟩ := exists_isLeast_reached (show midnight d ≤ z.shows i by omega)
  have hle : s ≤ i := hleast.2 (show midnight d ≤ z.shows i by omega)
  rcases hle.eq_or_lt with rfl | hlt
  -- the date comes up at this hour
  · refine Or.inl fun t e he hde => ?_
    have hreached : s ≤ t.toInt / 1000 := hleast.2 (midnight_le_shows he hde)
    rw [Int64.le_iff_toInt_le]
    omega
  · refine Or.inr ⟨s, hleast, by omega, fun hcrossing other hother hother' => ?_⟩
    have hothers := hhour other hother
    have hfirst := earliest?_of_isLeast hleast (by omega) hother'
    obtain ⟨word, hword⟩ := exists_word_of_isDated hcrossing
    have hsome := instantOf?_eq_some_iff.mpr ⟨s, hfirst, hcrossing, hword⟩
    -- the hour at which it came up would have been found if no earlier one had been
    refine ⟨hour, hmem, ?_, hinstant⟩
    have hsorted : startHours.Pairwise (· < ·) := by decide
    rw [show startHours = before ++ hour :: after from hhours] at hsorted hother
    rcases List.mem_append.mp hother with hbefore | hafter
    · exact absurd ((hnone other hbefore).symm.trans hsome) nofun
    · rcases List.mem_cons.mp hafter with rfl | hlater
      · obtain rfl := Option.some.inj (hfirst.symm.trans hfound)
        exact absurd hlt (lt_irrefl _)
      · exact (List.pairwise_cons.mp (List.pairwise_append.mp hsorted).2.1).1 other hlater

/-- Where a date is late and comes up within the calendar before it is over, it has instants before
the one at which it starts. -/
theorem exists_earlier_of_late (h : IsLeast {i | midnight d ≤ z.shows i} s)
    (hlate : 1000 * s < m.toInt) (hdated : isDated s = true)
    (hday : z.shows s < midnight d + 86400) : ∃ t < m, z.localDate? t = some d := by
  obtain ⟨t, ht⟩ := exists_word_of_isDated hdated
  have hreached : midnight d ≤ z.shows s := h.1
  rw [midnight] at hreached hday
  have hsecond : t.toInt / 1000 = s := by omega
  have hdays : (s + (z.kindAt s).offset) / 86400 = d.toDays := by
    rw [shows] at hreached hday
    omega
  refine ⟨t, by rw [Int64.lt_iff_toInt_lt]; omega, ?_⟩
  rw [localDate?]
  simp only [hsecond, hdated, hdays, if_true]
  exact d.ofDays?_toDays

end Zone

/-! ### Calls -/

section Calls

variable {σ : Type} [BucketCursor σ] {P : σ → Prop} {r : Record σ}

theorem Steady.call (h : Steady P) (hr : P r.cursor) (call : Call) : P (r.call call).cursor := by
  have hjump {run : EStateM Fault σ Unit} (hrun : Keeps P run) : P (r.jump run).cursor := by
    have hc := hrun r.cursor hr
    rw [Record.jump]
    rcases hresult : run r.cursor with ⟨_, c⟩ | ⟨fault, c⟩
    · rwa [after_of_ok hresult] at hc
    · rwa [after_of_error hresult] at hc
  cases call with
  | hasValue => exact h.hasValue r.cursor hr
  | bucketTime => exact keeps_readBucketTime r.cursor hr
  | openNext => exact h.openNext r.cursor hr
  | seek time => exact hjump (h.seek time)
  | reposition time => exact hjump (h.reposition time)
  | setWidth width => exact h.setWidth width r.cursor hr
  | setEnd last => exact h.setEnd last r.cursor hr
  | nextValue =>
    have hc := h.nextValue r.cursor hr
    rw [Record.call]
    rcases hresult : ValueStream.nextValue r.cursor with ⟨value, c⟩ | ⟨fault, c⟩
    · rwa [after_of_ok hresult] at hc
    · rwa [after_of_error hresult] at hc

/-- What every operation keeps, and every width and end from outside, is true after any calls. -/
theorem Steady.callAll (h : Steady P) (calls : List Call) :
    ∀ {r : Record σ}, P r.cursor → P (r.callAll calls).cursor := by
  induction calls with
  | nil => exact fun hr => hr
  | cons call rest ih => exact fun hr => ih (h.call hr call)

end Calls

/-- Everything that the feed has left is ahead of a fresh cursor. -/
theorem Stack.stock_eq {feed : Feed} {counter : Option Counter} {c : AnyCursor}
    (hc : Stack feed counter c) : c.shape.stock c.cursor = feed.remaining := by
  induction hc with
  | @grid width offset g h =>
    rw [Grid.make] at h
    split at h
    · cases h
      rfl
    · cases h
  | runs => rfl
  | calendar unit zone h ih => exact ih

namespace CalendarCursor

variable {σ : Type} [BucketCursor σ] {stock : σ → List Sample} {u : CalendarUnit} {z : Zone}
  {samples : Array Sample} {c c' : CalendarCursor σ}

/-! ### Units and what they give -/

/-- A calendar over these samples.  The open unit is the one around the time of some sample, and
none of the samples ahead comes before that time. -/
structure Dated (stock : σ → List Sample) (u : CalendarUnit) (z : Zone) (samples : Array Sample)
    (c : CalendarCursor σ) : Prop where
  unit_eq : c.unit = u
  zone_eq : c.zone = z
  samples_eq : (BucketCursor.feed c.inner).samples = samples
  ahead : (stock c.inner).Sublist samples.toList
  opened : ∀ last, c.phase = .ready last → ∃ time start,
    c.unitAround time = .ok (start, last) ∧ ∀ a ∈ stock c.inner, time ≤ a.time

theorem Dated.withPhase (h : Dated stock u z samples c) {phase : Phase Word}
    (hphase : ∀ last, phase ≠ .ready last) :
    Dated stock u z samples { c with phase := phase } :=
  ⟨h.unit_eq, h.zone_eq, h.samples_eq, h.ahead, fun last hready => absurd hready (hphase last)⟩

section Steps

variable (hstock : Waning stock)
  (hsamples : Steady fun c : σ => (BucketCursor.feed c).samples = samples)

include hstock hsamples

omit [BucketCursor σ] hstock hsamples in
theorem keeps_dated_below [BucketCursor σ] {α : Type} {run : EStateM Fault σ α}
    (hrun : ∀ items, Keeps (fun c => (stock c).Sublist items) run)
    (hfeed : Keeps (fun c => (BucketCursor.feed c).samples = samples) run) :
    Keeps (Dated stock u z samples) (below run) := by
  intro c hc
  have hahead := hrun (stock c.inner) c.inner (List.Sublist.refl _)
  have hsame := hfeed c.inner hc.samples_eq
  have hafter : after (below run) c = { c with inner := after run c.inner } := by
    rw [after, after, below]
    rcases run c.inner with ⟨a, inner⟩ | ⟨fault, inner⟩
    · rfl
    · rfl
  rw [hafter]
  refine ⟨hc.unit_eq, hc.zone_eq, hsame, hahead.trans hc.ahead, fun last hready => ?_⟩
  obtain ⟨time, start, haround, hle⟩ := hc.opened last hready
  exact ⟨time, start, haround, fun a ha => hle a (hahead.subset ha)⟩

/-- Opening a unit opens the one around the pending sample, which comes first of those ahead. -/
theorem keeps_dated_openUnit (hinc : Increasing samples.toList) :
    Keeps (Dated stock u z samples) openUnit := by
  refine (keeps_dated_below hstock.openNext hsamples.openNext).bind fun _ => ?_
  refine (keeps_dated_below hstock.hasValue hsamples.hasValue).bind fun more => ?_
  refine Keeps.get_bind fun c hc => ?_
  rcases hheld : (if more then BucketCursor.pendingTime c.inner else none) with _ | time
  · exact Keeps.set (hc.withPhase nofun)
  · rcases haround : c.unitAround time with fault | ⟨start, last⟩
    · simp only [haround]
      exact Keeps.throw fault
    · simp only [haround]
      have hpinned : stock (c.pin start last).inner = stock c.inner := by
        rw [pin]
        rcases c.unit.width? start with _ | width
        · exact hstock.setEnd last c.inner
        · exact (hstock.setEnd last _).trans (hstock.setWidth width c.inner)
      have hfeed : (BucketCursor.feed (c.pin start last).inner).samples = samples := by
        rw [pin]
        rcases c.unit.width? start with _ | width
        · exact hsamples.setEnd last c.inner hc.samples_eq
        · exact hsamples.setEnd last _ (hsamples.setWidth width c.inner hc.samples_eq)
      obtain ⟨a, rest, hcons, htime⟩ := hstock.head (Option.ite_none_right_eq_some.mp hheld).2
      refine Keeps.set ⟨hc.unit_eq, hc.zone_eq, hfeed, hpinned ▸ hc.ahead, fun last' hready => ?_⟩
      obtain rfl := Phase.ready.inj hready
      refine ⟨time, start, haround, fun b hb => ?_⟩
      have hordered := hinc.sublist hc.ahead
      rw [hpinned, hcons] at hb
      rw [hcons] at hordered
      rcases List.mem_cons.mp hb with rfl | hb
      · exact Int64.le_of_eq htime.symm
      · exact htime ▸ Int64.le_of_lt ((List.pairwise_cons.mp hordered).1 b hb)

theorem keeps_dated_fill (hinc : Increasing samples.toList) :
    Keeps (Dated stock u z samples) fill := by
  refine Keeps.get_bind fun c _ => ?_
  rcases c.phase with _ | last | _
  · exact keeps_dated_openUnit hstock hsamples hinc
  · exact Keeps.pure ()
  · exact Keeps.pure ()

theorem keeps_dated_hasValue (hinc : Increasing samples.toList) :
    Keeps (Dated stock u z samples) hasValue := by
  refine (keeps_dated_fill hstock hsamples hinc).bind fun _ => Keeps.get_bind fun c _ => ?_
  rcases c.phase with _ | last | _
  · exact Keeps.pure false
  · refine (keeps_dated_below hstock.hasValue hsamples.hasValue).bind fun more => ?_
    exact Keeps.ite (Keeps.get_bind fun c _ => Keeps.pure _) (Keeps.pure false)
  · exact Keeps.pure false

theorem keeps_dated_reposition (time : Word) :
    Keeps (Dated stock u z samples) (reposition time) := by
  intro c hc
  have hjump := hstock.reposition time c.inner
  have hfeed := hsamples.reposition time c.inner hc.samples_eq
  rcases hrun : BucketCursor.reposition time c.inner with ⟨_, inner⟩ | ⟨fault, inner⟩
  · rw [hrun] at hjump
    rw [after_of_ok hrun] at hfeed
    rw [after_of_ok (reposition_of_ok hrun)]
    refine ⟨hc.unit_eq, hc.zone_eq, hfeed, ?_, fun last hready => by cases hready⟩
    rw [hjump, Feed.remaining, hfeed]
    exact List.drop_sublist _ _
  · rw [hrun] at hjump
    rw [after_of_error hrun] at hfeed
    rw [after_of_error (reposition_of_error hrun)]
    refine ⟨hc.unit_eq, hc.zone_eq, hfeed, hjump.trans hc.ahead, fun last hready => ?_⟩
    obtain ⟨around, start, haround, hle⟩ := hc.opened last hready
    exact ⟨around, start, haround, fun a ha => hle a (hjump.subset ha)⟩

theorem keeps_dated_openNext (hinc : Increasing samples.toList) :
    Keeps (Dated stock u z samples) openNext := by
  refine Keeps.get_bind fun c _ => ?_
  rcases c.phase with _ | last | _
  · exact keeps_dated_openUnit hstock hsamples hinc
  · exact keeps_dated_openUnit hstock hsamples hinc
  · exact Keeps.pure ()

theorem keeps_dated_seek (time : Word) : Keeps (Dated stock u z samples) (seek time) := by
  refine Keeps.get_bind fun c _ => ?_
  rcases c.unitFrom time with fault | target
  · exact Keeps.throw fault
  · exact keeps_dated_reposition hstock hsamples target

theorem steady_dated (hinc : Increasing samples.toList) : Steady (Dated stock u z samples) where
  hasValue := keeps_dated_hasValue hstock hsamples hinc
  nextValue := (keeps_dated_hasValue hstock hsamples hinc).bind fun _ =>
    Keeps.ite (keeps_dated_below hstock.nextValue hsamples.nextValue)
      (Keeps.get_bind fun _ _ => Keeps.throw _)
  openNext := keeps_dated_openNext hstock hsamples hinc
  seek := keeps_dated_seek hstock hsamples
  reposition := keeps_dated_reposition hstock hsamples
  setWidth _ _ hc := hc
  setEnd _ _ hc := hc

end Steps

/-- The value at a time is given by the unit that starts with one date and ends before another.  Its
own date comes before the other one unless the end is late, and it does not come before the start
unless this is late. -/
structure Houses (c : CalendarCursor σ) (time : Word) (start next : Date) (last : Word) : Prop where
  next_eq : c.unit.next? start = some next
  last_eq : c.zone.localMidnight? next = some last
  date_lt : ∀ date, c.zone.localDate? time = some date →
    date.toDays < next.toDays ∨ c.zone.Late next last
  first_le : ∀ first, c.bucketTime = .ok first →
    c.zone.localMidnight? start = some first ∧ (first ≤ time ∨ c.zone.Late start first)

/-- A value that is there is pending, and comes before the end of the open unit. -/
theorem pending_of_hasValue (h : hasValue c = .ok true c') :
    ∃ last time, c'.phase = .ready last ∧ BucketCursor.pendingTime c'.inner = some time ∧
      time < last := by
  rw [hasValue] at h
  obtain ⟨_, c₁, -, h⟩ := of_bind_ok h
  rw [get_bind] at h
  rcases hphase : c₁.phase with _ | last | _
  · rw [hphase] at h
    cases h
  · rw [hphase] at h
    obtain ⟨more, c₂, hmore, h⟩ := of_bind_ok h
    have hsame : c₂.phase = c₁.phase := by
      obtain ⟨inner, -, rfl⟩ := of_below_ok hmore
      rfl
    cases more with
    | false => cases h
    | true =>
      rw [if_pos rfl, get_bind] at h
      obtain ⟨hlt, rfl⟩ := EStateM.Result.ok.inj h
      rcases hpending : BucketCursor.pendingTime c₂.inner with _ | time
      · rw [hpending] at hlt
        cases hlt
      · rw [hpending] at hlt
        exact ⟨last, time, hsame.trans hphase, rfl, of_decide_eq_true hlt⟩
  · rw [hphase] at h
    cases h

/-- The time that stands for an open unit is the midnight of its first day. -/
theorem localMidnight?_of_bucketTime {start next : Date} {first last : Word}
    (hphase : c.phase = .ready last) (hnext : c.unit.next? (c.unit.start start) = some next)
    (hlast : c.zone.localMidnight? next = some last) (h : c.bucketTime = .ok first) :
    c.zone.localMidnight? (c.unit.start start) = some first := by
  have hstart : c.unitStart last = .ok next := by
    rw [unitStart, Zone.localDate?_of_localMidnight? hlast]
    show Except.ok (c.unit.start next) = _
    rw [CalendarUnit.start_next hnext]
  rw [bucketTime, hphase] at h
  change (do
    let next ← c.unitStart last
    let start ← orOutOfRange last (c.unit.previous? next)
    orOutOfRange last (c.zone.localMidnight? start)) = _ at h
  rw [hstart] at h
  change (do
    let start ← orOutOfRange last (c.unit.previous? next)
    orOutOfRange last (c.zone.localMidnight? start)) = _ at h
  rw [CalendarUnit.previous_next hnext] at h
  change orOutOfRange last (c.zone.localMidnight? (c.unit.start start)) = _ at h
  rcases hmidnight : c.zone.localMidnight? (c.unit.start start) with _ | midnight
  · rw [hmidnight] at h
    cases h
  · rw [hmidnight] at h
    rw [Except.ok.inj h]

theorem Dated.houses (hstock : Waning stock) (h : Dated stock u z samples c) {last time : Word}
    (hphase : c.phase = .ready last) (hpending : BucketCursor.pendingTime c.inner = some time)
    (hlt : time < last) : ∃ start next, c.Houses time start next last := by
  obtain ⟨opener, start, haround, hle⟩ := h.opened last hphase
  obtain ⟨date, next, hdate, rfl, hnext, hlast⟩ := of_unitAround haround
  obtain ⟨a, rest, hcons, htime⟩ := hstock.head hpending
  have hopener : opener ≤ time := htime ▸ hle a (hcons ▸ List.mem_cons_self)
  refine ⟨c.unit.start date, next, hnext, hlast, fun date' hdate' => ?_, fun first hfirst => ?_⟩
  · refine (Zone.begins_of_localMidnight? hlast).first_or_late.imp_left fun hfirst => ?_
    by_contra hge
    exact Int64.not_le.mpr hlt (hfirst time date' hdate' (not_lt.mp hge))
  · have hmidnight := localMidnight?_of_bucketTime hphase hnext hlast hfirst
    refine ⟨hmidnight, (Zone.begins_of_localMidnight? hmidnight).first_or_late.imp_left ?_⟩
    exact fun hall => Int64.le_trans
      (hall opener date hdate (CalendarUnit.start_le_iff.mpr le_rfl)) hopener

/-- The instant at which a date starts has this date and is the first one to have it, unless it is
late.  After any calls to a calendar above a cursor of any shape, over samples in order of which any
reads may fail, a value that is there belongs to the open unit by its date, and the time that stands
for the unit does not come after it, unless one of the two ends of the unit is late. -/
theorem units_house_values {feed : Feed} {counter : Option Counter} {inner : AnyCursor}
    (hinner : Stack feed counter inner) (hinc : Increasing feed.samples.toList) (u : CalendarUnit)
    (z : Zone) :
    (∀ d m, z.localMidnight? d = some m → z.Begins d m) ∧
    ∀ (calls : List Call) (c c' : CalendarCursor inner.shape.State),
      c = ((Record.start (make u z inner.cursor)).callAll calls).cursor →
      hasValue c = .ok true c' →
      c'.unit = u ∧ c'.zone = z ∧ ∃ time start next last,
        BucketCursor.pendingTime c'.inner = some time ∧ c'.Houses time start next last := by
  refine ⟨fun d m => Zone.begins_of_localMidnight?, fun calls c c' hc hhas => ?_⟩
  have hstock := inner.shape.waning
  have hsamples := inner.shape.steady_samples feed.samples
  have hsteady := steady_dated (u := u) (z := z) hstock hsamples hinc
  have hfresh : Dated inner.shape.stock u z feed.samples (make u z inner.cursor) := by
    refine ⟨rfl, rfl, congrArg Feed.samples hinner.feed_eq, ?_, nofun⟩
    show (inner.shape.stock inner.cursor).Sublist feed.samples.toList
    rw [hinner.stock_eq]
    exact List.drop_sublist _ _
  have hcalled := hsteady.callAll calls (r := Record.start (make u z inner.cursor)) hfresh
  rw [← hc] at hcalled
  have hdated := hsteady.hasValue c hcalled
  rw [after_of_ok (show ValueStream.hasValue c = .ok true c' from hhas)] at hdated
  obtain ⟨last, time, hphase, hpending, hlt⟩ := pending_of_hasValue hhas
  obtain ⟨start, next, hhouses⟩ := hdated.houses hstock hphase hpending hlt
  exact ⟨hdated.unit_eq, hdated.zone_eq, time, start, next, last, hpending, hhouses⟩

/-- A sample half an hour into January 1986 in Kathmandu, where this month is late. -/
theorem units_house_values_of_one :
    ∃ c', hasValue (make .month Zone.kathmandu (Grid.fresh [⟨504903000000, .whole 1⟩] 0 none
        (by decide : (0 : Word) < 2592000000))) = .ok true c' ∧
      c'.unit = .month ∧ c'.zone = Zone.kathmandu ∧ ∃ time start next last,
        BucketCursor.pendingTime c'.inner = some time ∧ c'.Houses time start next last := by
  have hstack : Stack (.ofSamples [⟨504903000000, .whole 1⟩]) none (.grid (Grid.fresh
      [⟨504903000000, .whole 1⟩] 0 none (by decide : (0 : Word) < 2592000000))) :=
    .grid (Grid.make_of_pos _)
  have hmore : EStateM.run' hasValue (make .month Zone.kathmandu (Grid.fresh
      [⟨504903000000, .whole 1⟩] 0 none (by decide : (0 : Word) < 2592000000))) = some true := by
    decide +kernel
  obtain ⟨c', hhas⟩ := of_run' hmore
  exact ⟨c', hhas, (units_house_values hstack (by decide) .month Zone.kathmandu).2 [] _ c' rfl hhas⟩

/-- At the midnight with which 1986 started, clocks of Kathmandu went from 00:00 to 00:15.  The
first of January is taken to start at 01:00, but its first instant is the one at which clocks
changed. -/
theorem kathmandu_starts_late :
    ¬ ∀ (z : Zone) (d : Date) (m : Word), z.localMidnight? d = some m →
      z.localDate? m = some d ∧ ∀ t < m, z.localDate? t ≠ some d := by
  intro hall
  have hdate : (Zone.kathmandu.localDate? 504901800000).bind Zone.kathmandu.localMidnight?
      = some 504904500000 := by decide +kernel
  obtain ⟨d, hd, hmidnight⟩ := Option.bind_eq_some_iff.mp hdate
  exact (hall Zone.kathmandu d _ hmidnight).2 504901800000 (by decide) hd

end CalendarCursor

end TimeBuckets
