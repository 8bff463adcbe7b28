/-
Samples that a calendar loses.

* `CalendarUnit.Strands` — a time whose unit, found from its local date, has ended before it;
* `CalendarCursor.Opened`, `CalendarCursor.Entered` — a cursor above a grid without a counter with
  certain samples ahead, and one that has just opened the unit of the first of them;
* `CalendarCursor.drain_of_entered` — draining sums up all samples, or all in front of one that
  its unit strands;
* `CalendarCursor.gives_parts_up_to_stranded` — the same for a fresh cursor, and what opening a unit
  leaves behind.

The unit of a time is that of its local date, but it ends with the first instant of the next one.
Where clocks are put back over the start of a unit, the instants in between have a date in the old
unit and lie behind its end.  A cursor that has opened the unit of such a sample has no value, so
that a drain takes it for the end of the samples.
-/
import TimeBuckets.Proofs.Calendar
import TimeBuckets.Proofs.Keeping
import TimeBuckets.Proofs.Readings

namespace TimeBuckets

theorem Drained.exists_points {d : Drained} (h : d.fault = none) :
    ∃ points, d = ⟨points, none⟩ := by
  rw [← h]
  exact ⟨d.points, rfl⟩

namespace CalendarUnit

variable {u : CalendarUnit} {z : Zone} {t : Word}

/-- The unit of the local date of a time has an end, and the time is not before it. -/
def Strands (u : CalendarUnit) (z : Zone) (t : Word) : Prop :=
  ∃ last, u.endOf? z (u.key z t) = some last ∧ last ≤ t

/-- Where the starts of units divide the instants, no time is stranded. -/
theorem Covers.not_strands (h : u.Covers z t) : ¬ u.Strands z t := by
  obtain ⟨start, next, first, last, hat⟩ := h.exists_unitAt
  rintro ⟨last', hlast', hle⟩
  rw [hat.key_eq, hat.endOf?_eq, Option.some_inj] at hlast'
  exact Int64.not_lt.mpr hle (hlast' ▸ hat.mem.2)

end CalendarUnit

namespace Grid

variable {g : Grid}

/-- Opening the next bucket opens that of the first sample ahead, whether anything was read before
or not. -/
theorem openNext_of_reliable (hcounter : g.counter = none) (hf : g.feed.readFaults = []) :
    ∃ g₁ : Grid, openNext g = openBucket g₁ ∧ g₁.phase ≠ .unread ∧ g₁.counter = none ∧
      g₁.feed.readFaults = [] ∧ g₁.stock = g.stock := by
  by_cases hphase : g.phase = .unread
  · have hfill := fill_of_reliable hf hphase
    have hbegun := begun_of_started g
    refine ⟨g.started, ?_, hbegun, hcounter, (Feed.readFaults_pulled g.feed).trans hf, ?_⟩
    · rcases hopen : openBucket g.started with ⟨_, g'⟩ | ⟨fault, g'⟩
      · rw [openNext, bind_of_ok (hfill.trans hopen)]
        exact openBucket_of_openBucket hbegun hopen
      · exact bind_of_error (hfill.trans hopen)
    · rw [stock_started hcounter, stock, hphase]
  · exact ⟨g, bind_of_ok (fill_of_begun hphase), hphase, hcounter, hf, rfl⟩

/-- What is ahead comes before the boundary then. -/
theorem openNext_cases (hcounter : g.counter = none) (hf : g.feed.readFaults = []) :
    (∃ g', openNext g = .ok () g' ∧ g'.counter = none ∧ g'.feed.readFaults = [] ∧
      g'.phase ≠ .unread ∧ g'.stock = g.stock ∧
      ∀ a ∈ g'.stock.head?, a.isBefore g'.boundary = true) ∨
    ∃ fault g', openNext g = .error fault g' := by
  obtain ⟨g₁, hopen, hbegun, hcounter', hf', hstock⟩ := openNext_of_reliable hcounter hf
  rw [hopen, openBucket_eq hbegun]
  rcases hend : g₁.endFor g₁.stock.head? with fault | last
  · exact Or.inr ⟨fault, g₁, rfl⟩
  · refine Or.inl ⟨_, rfl, hcounter', hf', hbegun, hstock, fun a ha => ?_⟩
    have hhead : g₁.stock.head? = some a := ha
    rw [hhead] at hend
    exact decide_eq_true (lt_of_bucketEnd (toInt_of_bucketEnd hend))

end Grid

namespace CalendarCursor

variable {u : CalendarUnit} {z : Zone} {c : CalendarCursor Grid} {items : List Sample}

/-! ### Single operations -/

/-- The cursor is above a grid that takes readings as they are and never fails to read one.  It has
begun to read and has these samples ahead.  The open unit ends with the bucket of the grid, or none
is open and nothing is ahead. -/
structure Opened (u : CalendarUnit) (z : Zone) (c : CalendarCursor Grid) (items : List Sample) :
    Prop where
  unit_eq : c.unit = u
  zone_eq : c.zone = z
  plain : c.inner.counter = none
  reliable : c.inner.feed.readFaults = []
  begun : c.inner.phase ≠ .unread
  stock_eq : c.inner.stock = items
  opened : c.phase = .ready c.inner.boundary ∨ c.phase = .spent ∧ items = []

/-- The open unit is that of the first sample ahead. -/
structure Entered (u : CalendarUnit) (z : Zone) (c : CalendarCursor Grid) (items : List Sample) :
    Prop extends Opened u z c items where
  entered : ∀ a ∈ items.head?, u.endOf? z (u.key z a.time) = some c.inner.boundary

/-- A width and an end from outside change nothing about the samples ahead. -/
theorem inner_pin (start : Date) (last : Word) :
    (c.pin start last).inner.counter = c.inner.counter ∧
      (c.pin start last).inner.feed = c.inner.feed ∧
      (c.pin start last).inner.phase = c.inner.phase ∧
      (c.pin start last).inner.boundary = last := by
  rw [pin]
  rcases c.unit.width? start with _ | width
  · exact ⟨rfl, rfl, rfl, rfl⟩
  · show (c.inner.setWidth width).counter = _ ∧ (c.inner.setWidth width).feed = _ ∧
      (c.inner.setWidth width).phase = _ ∧ last = last
    rw [Grid.setWidth]
    split
    · exact ⟨rfl, rfl, rfl, rfl⟩
    · exact ⟨rfl, rfl, rfl, rfl⟩

theorem endOf?_of_unitAround {time last : Word} {start : Date}
    (h : c.unitAround time = .ok (start, last)) :
    c.unit.endOf? c.zone (c.unit.key c.zone time) = some last := by
  obtain ⟨date, next, hdate, rfl, hnext, hlast⟩ := of_unitAround h
  rw [CalendarUnit.endOf?, CalendarUnit.key, hdate, Option.map_some, Option.bind_some, hnext,
    Option.bind_some, hlast]

/-- Pinning the unit of the first sample ahead enters it. -/
theorem entered_pin {a : Sample} {rest : List Sample} {start : Date} {last : Word}
    (hunit : c.unit = u) (hzone : c.zone = z) (hplain : c.inner.counter = none)
    (hf : c.inner.feed.readFaults = []) (hbegun : c.inner.phase ≠ .unread)
    (hstock : c.inner.stock = a :: rest) (haround : c.unitAround a.time = .ok (start, last)) :
    Entered u z (c.pin start last) (a :: rest) := by
  obtain ⟨hcounter, hfeed, hphase, hboundary⟩ := inner_pin (c := c) start last
  refine ⟨⟨hunit, hzone, hcounter.trans hplain, ?_, ?_, ?_, ?_⟩, fun b hb => ?_⟩
  · rw [hfeed, hf]
  · rwa [hphase]
  · rw [← hstock, Grid.stock, Grid.stock, hphase, hfeed]
  · exact Or.inl (congrArg Phase.ready hboundary.symm)
  · rw [List.head?_cons, Option.mem_some_iff] at hb
    rw [hboundary, ← hb, ← hunit, ← hzone]
    exact endOf?_of_unitAround haround

/-- Opening a unit opens that of the first sample ahead, or fails. -/
theorem openUnit_cases (hunit : c.unit = u) (hzone : c.zone = z) (hplain : c.inner.counter = none)
    (hf : c.inner.feed.readFaults = []) (hstock : c.inner.stock = items) :
    (∃ c', openUnit c = .ok () c' ∧ Entered u z c' items) ∨
    ∃ fault c', openUnit c = .error fault c' := by
  rcases Grid.openNext_cases hplain hf with
    ⟨g, hopen, hcounter, hreliable, hbegun, hsame, hbefore⟩ | ⟨fault, g, hopen⟩
  · have hbelow : below BucketCursor.openNext c = .ok () { c with inner := g } := below_of_ok hopen
    have hmore : below ValueStream.hasValue { c with inner := g }
        = .ok (g.stock.head?.any (Sample.isBefore g.boundary)) { c with inner := g } :=
      below_of_ok (Grid.hasValue_of_begun hbegun)
    rw [openUnit, bind_of_ok hbelow, bind_of_ok hmore, get_bind]
    rw [hstock] at hsame
    rcases Grid.stock_of_begun hbegun with ⟨hnil, -⟩ | ⟨s, hcons, hphase⟩
    · obtain rfl : items = [] := hsame.symm.trans hnil
      rw [hnil]
      exact Or.inl ⟨{ c with inner := g, phase := .spent }, rfl, ⟨hunit, hzone, hcounter,
        hreliable, hbegun, hnil, Or.inr ⟨rfl, rfl⟩⟩, fun a ha => absurd ha (Option.not_mem_none a)⟩
    · have hhead : g.stock.head?.any (Sample.isBefore g.boundary) = true := by
        rw [hcons, List.head?_cons, Option.any_some]
        exact hbefore s (by rw [hcons]; rfl)
      have hpending : BucketCursor.pendingTime g = some s.time := by
        show g.phase.held?.map Sample.time = _
        rw [hphase]
        rfl
      rw [hhead]
      simp only [if_true, hpending]
      rcases haround : ({ c with inner := g } : CalendarCursor Grid).unitAround s.time with
        fault | ⟨start, last⟩
      · exact Or.inr ⟨fault, _, rfl⟩
      · rw [← hsame, hcons]
        exact Or.inl ⟨_, rfl, entered_pin hunit hzone hcounter hreliable hbegun hcons haround⟩
  · exact Or.inr ⟨fault, _, bind_of_error (below_of_error hopen)⟩

namespace Opened

theorem phase_begun (h : Opened u z c items) : c.phase ≠ .unread := by
  rcases h.opened with hphase | ⟨hphase, -⟩
  · rw [hphase]
    exact Phase.ready_ne_unread _
  · rw [hphase]
    exact Phase.spent_ne_unread

/-- The unit has a value if the first sample ahead comes before its end. -/
theorem hasValue_eq (h : Opened u z c items) :
    hasValue c = .ok (items.head?.any (Sample.isBefore c.inner.boundary)) c := by
  rw [hasValue, bind_of_ok (fill_of_begun h.phase_begun), get_bind]
  rcases h.opened with hphase | ⟨hphase, hitems⟩
  · have hmore : below ValueStream.hasValue c
        = .ok (c.inner.stock.head?.any (Sample.isBefore c.inner.boundary)) c :=
      below_of_ok (Grid.hasValue_of_begun h.begun)
    rw [hphase, ← h.stock_eq]
    show (below ValueStream.hasValue >>= _) c = _
    rw [bind_of_ok hmore]
    rcases Grid.stock_of_begun h.begun with ⟨hnil, -⟩ | ⟨s, hcons, hready⟩
    · rw [hnil]
      rfl
    · have hpending : BucketCursor.pendingTime c.inner = some s.time := by
        show c.inner.phase.held?.map Sample.time = _
        rw [hready]
        rfl
      rw [hcons, List.head?_cons, Option.any_some]
      -- the grid below has the same boundary, so both questions have the same answer
      rcases hlt : s.isBefore c.inner.boundary with _ | _
      · rfl
      · rw [if_pos rfl, get_bind, hpending]
        exact congrArg (EStateM.Result.ok · c) hlt
  · rw [hphase, hitems]
    rfl

theorem nextValue_cases {a : Sample} {rest : List Sample} (h : Opened u z c (a :: rest))
    (ha : a.isBefore c.inner.boundary = true) :
    ∃ c', nextValue c = .ok a.toReal c' ∧ Opened u z c' rest ∧
      c'.inner.boundary = c.inner.boundary := by
  have hmore := h.hasValue_eq
  rw [List.head?_cons, Option.any_some, ha] at hmore
  have hreached : Grid.Reached (fun f => f.readFaults = []) c.inner c.inner (a :: rest) :=
    h.stock_eq ▸ Grid.Reached.refl h.begun h.reliable
  rcases (Grid.readings h.plain Feed.keptByReads_reliable).nextValue hreached ha with
    ⟨g, hnext, hg⟩ | ⟨fault, g, -, hg, hfailed⟩
  · refine ⟨{ c with inner := g }, ?_, ⟨h.unit_eq, h.zone_eq, hg.counter_eq.trans h.plain, hg.feed,
      hg.begun, hg.stock_eq, ?_⟩, hg.boundary_eq⟩
    · rw [nextValue_of_more hmore]
      exact below_of_ok hnext
    · refine Or.inl ?_
      rw [hg.boundary_eq]
      exact h.opened.resolve_right fun hspent => List.cons_ne_nil a rest hspent.2
  -- without faults no read can have failed
  · exact absurd hfailed (Feed.not_lastFailed hg.feed fault)

end Opened

/-- A cursor with an open unit gives the readings before the end of the unit. -/
theorem readings (u : CalendarUnit) (z : Zone) (last : Word) :
    Readings (fun c items => Opened u z c items ∧ c.inner.boundary = last) (Sample.isBefore last)
      fun _ _ => False where
  length_le {c items} h := by
    rw [← h.1.stock_eq]
    exact Grid.length_stock_le h.1.begun
  hasValue {c items} h := by
    rw [← h.2]
    exact h.1.hasValue_eq
  nextValue {c a rest} h ha := by
    rw [← h.2] at ha
    obtain ⟨c', hnext, h', hlast⟩ := h.1.nextValue_cases ha
    exact Or.inl ⟨c', hnext, h', hlast.trans h.2⟩

/-- Taking a unit sums up the samples before its end and opens the next one, or fails. -/
theorem Opened.takeBucket_cases (h : Opened u z c items)
    (hhead : items.head?.any (Sample.isBefore c.inner.boundary) = true) (s : Statistic) :
    (∃ point c', takeBucket s c = .ok point c' ∧
      s.ofValues? ((items.takeWhile (Sample.isBefore c.inner.boundary)).map Sample.toReal)
        = some point.value ∧
      Entered u z c' (items.dropWhile (Sample.isBefore c.inner.boundary))) ∨
    ∃ fault c', takeBucket s c = .error fault c' := by
  rcases (readings u z c.inner.boundary).takeBucket_cases ⟨h, rfl⟩ hhead s with
    ⟨value, c₁, hvalue, htake, h₁, -⟩ | ⟨fault, c₁, -, front, tail, -, -, -, -, hfailed⟩
  · rcases htime : c₁.bucketTime with fault | time
    · have hread : readBucketTime c₁ = .error fault c₁ := by
        rw [readBucketTime, show BucketCursor.bucketTime c₁ = .error fault from htime]
      exact Or.inr ⟨fault, c₁, htake.trans (bind_of_error hread)⟩
    · have hread : readBucketTime c₁ = .ok time c₁ := by
        rw [readBucketTime, show BucketCursor.bucketTime c₁ = .ok time from htime]
      -- a unit with a start is open
      have hopen : openNext c₁ = openUnit c₁ := by
        rcases h₁.opened with hphase | ⟨hphase, -⟩
        · rw [openNext, get_bind, hphase]
        · rw [bucketTime, hphase] at htime
          cases htime
      rcases openUnit_cases h₁.unit_eq h₁.zone_eq h₁.plain h₁.reliable h₁.stock_eq with
        ⟨c', hunit, h'⟩ | ⟨fault, c', hunit⟩
      · refine Or.inl ⟨⟨time, value⟩, c', ?_, hvalue, h'⟩
        rw [htake, closeBucket, bind_of_ok hread]
        exact bind_of_ok (hopen.trans hunit)
      · refine Or.inr ⟨fault, c', ?_⟩
        rw [htake, closeBucket, bind_of_ok hread]
        exact bind_of_error (hopen.trans hunit)
  · exact hfailed.elim

/-! ### Drains -/

/-- The samples that a drain sums up, and those that it loses: one point for each part, none of
which begins with a stranded sample, until a stranded sample comes first. -/
structure Divided (u : CalendarUnit) (z : Zone) (s : Statistic) (items : List Sample)
    (points : List Point) (parts : List (List Sample)) (lost : List Sample) : Prop where
  items_eq : items = parts.flatten ++ lost
  points_eq : List.Forall₂ (fun part p => s.ofValues? (part.map Sample.toReal) = some p.value)
    parts points
  kept : ∀ part ∈ parts, ∀ a ∈ part.head?, ¬ u.Strands z a.time
  stranded : ∀ a ∈ lost.head?, u.Strands z a.time

theorem Entered.strands_iff {a : Sample} (h : Entered u z c items) (ha : a ∈ items.head?) :
    u.Strands z a.time ↔ a.isBefore c.inner.boundary = false := by
  rw [Sample.isBefore, decide_eq_false_iff_not, Int64.not_lt]
  constructor
  · rintro ⟨last, hlast, hle⟩
    rwa [Option.some.inj ((h.entered a ha).symm.trans hlast)]
  · exact fun hle => ⟨_, h.entered a ha, hle⟩

/-- The first of the samples that are taken, with the rest behind them. -/
theorem Entered.head_kept (h : Entered u z c items) :
    ∀ a ∈ (items.takeWhile (Sample.isBefore c.inner.boundary)).head?, ¬ u.Strands z a.time := by
  rcases items with _ | ⟨b, rest⟩
  · exact fun a ha => absurd ha (Option.not_mem_none a)
  · intro a ha
    by_cases hb : b.isBefore c.inner.boundary = true
    · rw [List.takeWhile_cons_of_pos hb, List.head?_cons, Option.mem_some_iff] at ha
      rw [h.strands_iff (a := a) (by rw [List.head?_cons, ha]; rfl), ← ha, hb]
      exact nofun
    · rw [List.takeWhile_cons_of_neg hb] at ha
      exact absurd ha (Option.not_mem_none a)

/-- Draining from an open unit without a fault divides the samples ahead. -/
theorem drain_of_entered {n : Nat} :
    ∀ {items : List Sample} {r : Resampler (CalendarCursor Grid)}, Entered u z r.cursor items →
      items.length < n → (drain Resampler.next? n r).1.fault = none →
      ∃ parts lost,
        Divided u z r.statistic items (drain Resampler.next? n r).1.points parts lost := by
  induction n with
  | zero => exact fun _ hn => absurd hn (Nat.not_lt_zero _)
  | succ n ih =>
    intro items r h hn hfault
    have hhas : ValueStream.hasValue r.cursor = _ := h.hasValue_eq
    by_cases hhead : items.head?.any (Sample.isBefore r.cursor.inner.boundary) = true
    · rw [hhead] at hhas
      have hnext := Resampler.next?_of_hasValue hhas
      rcases h.takeBucket_cases hhead r.statistic with
        ⟨point, c', htake, hvalue, h'⟩ | ⟨fault, c', htake⟩
      · rw [htake] at hnext
        rw [drain, hnext] at hfault ⊢
        obtain ⟨parts, lost, hdivided⟩ := ih (r := { r with cursor := c', latest := some point })
          h' (Nat.lt_of_lt_of_le (length_dropWhile_lt hhead) (Nat.le_of_lt_succ hn)) hfault
        refine ⟨_ :: parts, lost, ?_, List.Forall₂.cons hvalue hdivided.points_eq,
          List.forall_mem_cons.mpr ⟨h.head_kept, hdivided.kept⟩, hdivided.stranded⟩
        rw [List.flatten_cons, List.append_assoc, ← hdivided.items_eq,
          List.takeWhile_append_dropWhile]
      · rw [htake] at hnext
        rw [drain, hnext] at hfault
        exact absurd hfault (Option.some_ne_none fault)
    · -- nothing is left, or the first sample is stranded
      rw [Bool.not_eq_true] at hhead
      rw [hhead] at hhas
      rw [drain, Walk.next?_of_not_hasValue hhas]
      refine ⟨[], items, rfl, List.Forall₂.nil, fun part hpart => absurd hpart List.not_mem_nil,
        fun a ha => (h.strands_iff ha).mpr ?_⟩
      rwa [Option.mem_def.mp ha, Option.any_some] at hhead

/-- The unit that opening leaves behind is that of the sample that is held then. -/
theorem ready_of_openUnit {c' : CalendarCursor Grid} {last : Word}
    (h : openUnit c = .ok () c') (hready : c'.phase = .ready last) :
    ∃ time, BucketCursor.pendingTime c'.inner = some time ∧
      c.unit.endOf? c.zone (c.unit.key c.zone time) = some last := by
  rw [openUnit] at h
  obtain ⟨_, c₁, hopen, h⟩ := of_bind_ok h
  obtain ⟨more, c₂, hmore, h⟩ := of_bind_ok h
  have hkept {α : Type} (run : EStateM Fault Grid α) :
      Keeps (Over c.unit c.zone fun _ => True) (below run) := keeps_below fun _ _ => trivial
  have hover₁ := hkept BucketCursor.openNext c ⟨rfl, rfl, trivial⟩
  rw [after_of_ok hopen] at hover₁
  have hover₂ := hkept ValueStream.hasValue c₁ hover₁
  rw [after_of_ok hmore] at hover₂
  rw [get_bind] at h
  rcases hheld : (if more then BucketCursor.pendingTime c₂.inner else none) with _ | time
  · rw [hheld] at h
    obtain ⟨-, rfl⟩ := EStateM.Result.ok.inj h
    cases hready
  · simp only [hheld] at h
    rcases haround : c₂.unitAround time with fault | ⟨start, last'⟩
    · rw [haround] at h
      cases h
    · rw [haround] at h
      obtain ⟨-, rfl⟩ := EStateM.Result.ok.inj h
      obtain ⟨-, -, hphase, -⟩ := inner_pin (c := c₂) start last'
      obtain rfl := Phase.ready.inj hready
      refine ⟨time, ?_, ?_⟩
      · rw [← (Option.ite_none_right_eq_some.mp hheld).2]
        exact congrArg (fun phase => phase.held?.map Sample.time) hphase
      · rw [← hover₂.unit_eq, ← hover₂.zone_eq]
        exact endOf?_of_unitAround haround

/-- A cursor that has read nothing yet opens the unit of the first sample, or fails. -/
theorem hasValue_of_unread (hphase : c.phase = .unread) (hunit : c.unit = u) (hzone : c.zone = z)
    (hplain : c.inner.counter = none) (hf : c.inner.feed.readFaults = [])
    (hstock : c.inner.stock = items) :
    (∃ c', hasValue c = hasValue c' ∧ Entered u z c' items) ∨
    ∃ fault c', hasValue c = .error fault c' := by
  have hfill : fill c = openUnit c := by rw [fill, get_bind, hphase]
  rcases openUnit_cases hunit hzone hplain hf hstock with ⟨c', hopen, h⟩ | ⟨fault, c', hopen⟩
  · refine Or.inl ⟨c', ?_, h⟩
    rw [hasValue, bind_of_ok (hfill.trans hopen), bind_of_ok (fill_of_begun h.phase_begun)]
  · exact Or.inr ⟨fault, c', bind_of_error (hfill.trans hopen)⟩

theorem drainAll_of_unread {r : Resampler (CalendarCursor Grid)} {points : List Point}
    (hphase : r.cursor.phase = .unread) (hunit : r.cursor.unit = u) (hzone : r.cursor.zone = z)
    (hplain : r.cursor.inner.counter = none) (hf : r.cursor.inner.feed.readFaults = [])
    (hstock : r.cursor.inner.stock = items) (hlength : items.length ≤ ValueStream.pending r.cursor)
    (hend : r.drainAll.1 = ⟨points, none⟩) :
    ∃ parts lost, Divided u z r.statistic items points parts lost := by
  rw [Resampler.drainAll] at hend
  rcases hasValue_of_unread hphase hunit hzone hplain hf hstock with
    ⟨c', hhas, h⟩ | ⟨fault, c', hhas⟩
  · have hnext : r.next? = Resampler.next? { r with cursor := c' } := Resampler.next?_congr hhas
    have hdrain : drain Resampler.next? (ValueStream.pending r.cursor + 1) r
        = drain Resampler.next? (ValueStream.pending r.cursor + 1) { r with cursor := c' } := by
      rw [drain, drain, hnext]
    rw [hdrain] at hend
    have hdivided := drain_of_entered (r := { r with cursor := c' }) h
      (Nat.lt_succ_of_le hlength) (congrArg Drained.fault hend)
    rwa [hend] at hdivided
  · rw [drain, Resampler.next?_of_hasValue_error hhas] at hend
    exact absurd (congrArg Drained.fault hend) (Option.some_ne_none fault)

theorem Divided.lost_eq_nil {s : Statistic} {points : List Point} {parts : List (List Sample)}
    {lost : List Sample} (h : Divided u z s items points parts lost)
    (hcovered : ∀ a ∈ items, u.Covers z a.time) : lost = [] := by
  rcases lost with _ | ⟨a, lost⟩
  · rfl
  · have ha : a ∈ items := by
      rw [h.items_eq]
      exact List.mem_append_right _ List.mem_cons_self
    exact absurd (h.stranded a rfl) (hcovered a ha).not_strands

/-- Draining a fresh cursor over months or years without a fault sums up all samples in their order,
or those in front of one that its unit strands: this sample would open a bucket, but the bucket ends
before it, and it is lost with all that follow.  None is lost where the starts of units divide the
instants.  A unit that opens ends after the sample that opens it unless it strands this sample. -/
theorem gives_parts_up_to_stranded (samples : List Sample) (u : CalendarUnit) (z : Zone)
    (offset : Word) {width : Word} (hw : 0 < width) (s : Statistic) (interval : Interval)
    {points : List Point}
    (hend : (Resampler.mk (make u z (Grid.fresh samples offset none hw)) s interval none).drainAll.1
      = ⟨points, none⟩) :
    (∃ parts lost, Divided u z s samples points parts lost ∧
      ((∀ a ∈ samples, u.Covers z a.time) → lost = [])) ∧
    ∀ (c c' : CalendarCursor Grid) (last : Word),
      openUnit c = .ok () c' → c'.phase = .ready last →
      ∃ time, BucketCursor.pendingTime c'.inner = some time ∧
        (time < last ↔ ¬ c.unit.Strands c.zone time) := by
  refine ⟨?_, fun c c' last hopen hready => ?_⟩
  · have hlength : samples.length = (Grid.fresh samples offset none hw).pending := by
      rw [Grid.pending, Grid.fresh, Feed.left_eq, Feed.remaining_ofSamples]
    obtain ⟨parts, lost, hdivided⟩ := drainAll_of_unread
      (r := ⟨make u z (Grid.fresh samples offset none hw), s, interval, none⟩) rfl rfl rfl rfl rfl
      (Feed.remaining_ofSamples samples) (Nat.le_of_eq hlength) hend
    exact ⟨parts, lost, hdivided, hdivided.lost_eq_nil⟩
  · obtain ⟨time, hpending, hlast⟩ := ready_of_openUnit hopen hready
    refine ⟨time, hpending, ?_⟩
    rw [CalendarUnit.Strands, hlast]
    simp only [Option.some_inj, exists_eq_left', Int64.not_le]

/-- Two months of UTC. -/
theorem gives_parts_up_to_stranded_of_two :
    ∃ points, (Resampler.mk (make .month Zone.utc (Grid.fresh [⟨0, .whole 2⟩,
        ⟨2678400000, .whole 5⟩] 0 none (by decide : (0 : Word) < 2592000000))) .count
          ⟨1, .month⟩ none).drainAll.1 = ⟨points, none⟩ ∧
      (∃ parts lost, Divided .month Zone.utc .count [⟨0, .whole 2⟩, ⟨2678400000, .whole 5⟩]
          points parts lost ∧
        ((∀ a ∈ [(⟨0, .whole 2⟩ : Sample), ⟨2678400000, .whole 5⟩],
          CalendarUnit.month.Covers Zone.utc a.time) → lost = [])) ∧
      ∀ (c c' : CalendarCursor Grid) (last : Word),
        openUnit c = .ok () c' → c'.phase = .ready last →
        ∃ time, BucketCursor.pendingTime c'.inner = some time ∧
          (time < last ↔ ¬ c.unit.Strands c.zone time) := by
  have hfault : (Resampler.mk (make .month Zone.utc (Grid.fresh [⟨0, .whole 2⟩,
      ⟨2678400000, .whole 5⟩] 0 none (by decide : (0 : Word) < 2592000000))) .count
        ⟨1, .month⟩ none).drainAll.1.fault = none := by decide +kernel
  obtain ⟨points, hend⟩ := Drained.exists_points hfault
  exact ⟨points, hend, gives_parts_up_to_stranded [⟨0, .whole 2⟩, ⟨2678400000, .whole 5⟩] .month
    Zone.utc 0 (by decide : (0 : Word) < 2592000000) .count ⟨1, .month⟩ hend⟩

/-- In St. John's clocks went back from one minute past midnight on 1 November 2009 to the evening
of 31 October.  A sample of that evening belongs to October, which had already ended at the first
midnight: the drain ends without a fault, and the sample is not counted. -/
theorem sample_after_midnight_lost :
    ¬ ((Resampler.mk (make .month Zone.stJohns (Grid.fresh [⟨1257044400000, .whole 1⟩]
        Zone.stJohns.standardMillis none (by decide : (0 : Word) < 2592000000))) .count
          ⟨1, .month⟩ none).drainAll.1.fault = none →
      ((Resampler.mk (make .month Zone.stJohns (Grid.fresh [⟨1257044400000, .whole 1⟩]
        Zone.stJohns.standardMillis none (by decide : (0 : Word) < 2592000000))) .count
          ⟨1, .month⟩ none).drainAll.1.points.map Point.value).sum = 1) := by
  decide +kernel

end CalendarCursor

end TimeBuckets
