/-
Buckets of one width are groups by the start of the bucket.

* `Grid.walk` — a grid as a walk over what its samples contribute;
* `Grid.gives_of_unread` — draining a grid that has read nothing groups what the remaining samples
  contribute by the start of their bucket;
* `Grid.gives_bucket_groups` — for plain samples, a fresh grid gives one point for each bucket start that
  comes up.

The cursor knows the open bucket only by its end.  The walk therefore keeps the start, and `Holds`
says that the boundary is one width behind it.
-/
import TimeBuckets.Proofs.Grid
import TimeBuckets.Proofs.Walk

namespace TimeBuckets

namespace Grid

variable {g : Grid} {v : Timed} {values : List Timed} {width offset : Word}

/-! ### Grids as a walk -/

/-- The grid has these values ahead, words can hold the ends of all their buckets, and the open
bucket starts where one does and ends at the boundary. -/
structure Holds (width offset : Word) (g : Grid) (values : List Timed) (bucket : Option Word) :
    Prop where
  width_eq : g.width = width
  offset_eq : g.offset = offset
  values_ahead : Ahead g values
  clocked : Clocked g.counter g.stock
  fits : ∀ v ∈ values, Fits width offset v.time
  opened : ∀ b ∈ bucket, startOf width.toInt offset.toInt b.toInt = b.toInt ∧
    g.boundary.toInt = b.toInt + width.toInt
  ended : bucket = none → values = []

namespace Holds

variable {bucket : Option Word} {b : Word}

theorem width_pos (h : Holds width offset g values bucket) : 0 < width.toInt := by
  rw [← h.width_eq]
  exact g.width_toInt_pos

/-- Being before the boundary is being less than one width behind the start. -/
theorem lt_boundary_iff (h : Holds width offset g values (some b)) (time : Word) :
    time < g.boundary ↔ time.toInt < b.toInt + width.toInt := by
  rw [Int64.lt_iff_toInt_lt, (h.opened b rfl).2]

theorem bucketTime_eq (h : Holds width offset g values (some b)) : g.bucketTime = .ok b := by
  obtain ⟨hstart, hboundary⟩ := h.opened b rfl
  have hback : Word.ofInt? (g.boundary.toInt - g.width.toInt) = some b := by
    rw [Word.ofInt?_eq_some_iff, hboundary, h.width_eq]
    omega
  have halign : g.align b = .ok b := by
    rw [align_eq_ok_iff, h.width_eq, h.offset_eq, hstart]
  rw [bucketTime, hback]
  exact halign

/-- A grid whose boundary is the end of the bucket of the first value ahead, or which has
nothing ahead, has that bucket open. -/
theorem of_ahead (hwidth : g.width = width) (hoffset : g.offset = offset) (h : Ahead g values)
    (hclocked : Clocked g.counter g.stock) (hfits : ∀ v ∈ values, Fits width offset v.time)
    (hboundary : ∀ v ∈ values.head?,
      g.boundary.toInt = startOf width.toInt offset.toInt v.time.toInt + width.toInt) :
    Holds width offset g values (values.head?.map fun v => start width offset v.time) := by
  have hpos : 0 < width.toInt := hwidth ▸ g.width_toInt_pos
  refine ⟨hwidth, hoffset, h, hclocked, hfits, ?_, ?_⟩
  · intro b hb
    rcases values with _ | ⟨v, values⟩
    · exact absurd hb (by simp)
    · rw [List.head?_cons, Option.map_some, Option.mem_some_iff] at hb
      have hstart := toInt_start hpos (hfits v List.mem_cons_self)
      rw [hb] at hstart
      rw [hstart]
      exact ⟨startOf_startOf hpos, hboundary v rfl⟩
  · intro hnone
    rcases values with _ | ⟨v, values⟩
    · rfl
    · exact absurd hnone (by simp)

end Holds

/-- A grid walks over the values of its samples: a bucket takes the values whose time is less than
one width behind its start. -/
def walk (width offset : Word) : Walk Grid Timed Word where
  idle _ := false
  enter v := start width offset v.time
  takes b v := v.time.toInt < b.toInt + width.toInt
  value := Timed.value
  time b := b
  Holds := Holds width offset
  takes_enter h _ := by
    rw [decide_eq_true_eq, toInt_start h.width_pos (h.fits _ List.mem_cons_self)]
    exact lt_startOf_add h.width_pos
  length_le h := h.values_ahead.length_le
  hasValue_open {g values b} h := by
    have htakes : (fun v : Timed => decide (v.time < g.boundary))
        = fun v => decide (v.time.toInt < b.toInt + width.toInt) := by
      funext v
      rw [decide_eq_decide, h.lt_boundary_iff]
    rw [← htakes]
    exact hasValue_of_ahead h.values_ahead
  hasValue_none h := by
    obtain rfl := h.ended rfl
    exact hasValue_of_ahead h.values_ahead
  nextValue {g v values b} h htakes := by
    have hlt := (h.lt_boundary_iff v.time).mpr (of_decide_eq_true htakes)
    obtain ⟨hnext, hahead, hclocked⟩ := nextValue_of_clocked h.values_ahead h.clocked hlt
    exact ⟨_, hnext, h.width_eq, h.offset_eq, hahead, hclocked,
      fun w hw => h.fits w (List.mem_cons_of_mem _ hw), h.opened, nofun⟩
  bucketTime h := h.bucketTime_eq
  openNext {g values b} h _ := by
    have hfits : ∀ v ∈ values.head?, Fits g.width g.offset v.time := by
      rw [h.width_eq, h.offset_eq]
      exact fun v hv => h.fits v (List.mem_of_mem_head? hv)
    obtain ⟨last, hopen, hlast⟩ := openNext_of_ahead h.values_ahead hfits
    rw [h.width_eq, h.offset_eq] at hlast
    refine ⟨_, hopen, ?_⟩
    rw [dropWhile_never]
    exact Holds.of_ahead h.width_eq h.offset_eq (h.values_ahead.setEnd last) h.clocked h.fits hlast

/-- A grid that has read nothing yet starts a walk over what the remaining samples contribute. -/
theorem starts_of_unread (hphase : g.phase = .unread) (hf : g.feed.readFaults = [])
    (hinc : Increasing g.feed.remaining) (hclocked : Clocked g.counter g.feed.remaining)
    (hfits : ∀ v ∈ valuesOf g.counter g.feed.remaining, Fits g.width g.offset v.time) :
    (walk g.width g.offset).Starts g (valuesOf g.counter g.feed.remaining) := by
  obtain ⟨last, hfill, hlast⟩ := fill_of_unread hphase hf hinc
    fun v hv => hfits v (List.mem_of_mem_head? hv)
  have hahead := (ahead_started hf hinc).setEnd last
  have hheld : Holds g.width g.offset { g.started with boundary := last }
      (valuesOf g.counter g.feed.remaining) _ :=
    Holds.of_ahead rfl rfl hahead (hclocked.of_suffix g.stock_started_suffix) hfits hlast
  refine Walk.Starts.of_never_idle rfl hheld ?_
  show hasValue g = hasValue { g.started with boundary := last }
  rw [hasValue, bind_of_ok hfill, bind_of_ok (fill_of_begun hahead.begun)]

/-! ### Groups by bucket start -/

/-- The buckets of increasing values are groups: two values make the same bucket just if they
have the same start. -/
theorem grouped_stretches (hinc : values.Pairwise fun v w => v.time < w.time)
    (hfits : ∀ v ∈ values, Fits g.width g.offset v.time) (s : Statistic) :
    Grouped s (fun v => (g.align v.time).toOption) id Timed.value values
      (((walk g.width g.offset).stretches values).map ((walk g.width g.offset).point s)) := by
  have hpos := g.width_toInt_pos
  have hkey : ∀ v ∈ values,
      (g.align v.time).toOption = some (start g.width g.offset v.time) := by
    intro v hv
    rw [align_of_fits (hfits v hv)]
    rfl
  -- for the arithmetic of bucket starts the order of exact times is enough
  have hle : values.Pairwise fun v w => v.time.toInt ≤ w.time.toInt :=
    hinc.imp fun hlt => Int.le_of_lt (Int64.lt_iff_toInt_lt.mp hlt)
  refine Walk.grouped (W := walk g.width g.offset) rfl ?_ ?_ ?_ ?_ s
  · refine hle.imp_of_mem fun {v w} hv hw hvw => ?_
    show decide (w.time.toInt < (start g.width g.offset v.time).toInt + g.width.toInt) = true ↔ _
    rw [hkey v hv, hkey w hw, Option.some_inj, ← Int64.toInt_inj, toInt_start hpos (hfits v hv),
      toInt_start hpos (hfits w hw), startOf_eq_iff hpos hvw, decide_eq_true_eq]
  · refine hle.imp fun {w u} hwu v hu => ?_
    have hlt : u.time.toInt < (start g.width g.offset v.time).toInt + g.width.toInt :=
      of_decide_eq_true hu
    exact decide_eq_true (Int.lt_of_le_of_lt hwu hlt)
  · exact hkey
  · refine hle.imp_of_mem fun {v w} hv hw hvw hne => ?_
    show start g.width g.offset v.time < start g.width g.offset w.time
    have hmono : startOf g.width.toInt g.offset.toInt v.time.toInt
        ≤ startOf g.width.toInt g.offset.toInt w.time.toInt := startOf_mono hpos hvw
    rw [hkey v hv, hkey w hw, ne_eq, Option.some_inj, ← Int64.toInt_inj] at hne
    rw [Int64.lt_iff_toInt_lt]
    rw [toInt_start hpos (hfits v hv), toInt_start hpos (hfits w hw)] at hne ⊢
    omega

/-- Draining a grid that has read nothing yet gives one point for each bucket start that comes up
among the values of the remaining samples. -/
theorem gives_of_unread (hphase : g.phase = .unread) (hf : g.feed.readFaults = [])
    (hinc : Increasing g.feed.remaining) (hclocked : Clocked g.counter g.feed.remaining)
    (hfits : ∀ a ∈ g.feed.remaining, Fits g.width g.offset a.time) (s : Statistic)
    (interval : Interval) (latest : Option Point) :
    ∃ points, (Resampler.mk g s interval latest).Gives points ∧
      Grouped s (fun v => (g.align v.time).toOption) id Timed.value
        (valuesOf g.counter g.feed.remaining) points := by
  have hvalues : ∀ v ∈ valuesOf g.counter g.feed.remaining, Fits g.width g.offset v.time := by
    intro v hv
    obtain ⟨a, ha, htime⟩ := exists_sample_of_mem hv
    rw [← htime]
    exact hfits a ha
  have hlen : (valuesOf g.counter g.feed.remaining).length ≤ pending g := by
    rw [pending, hphase, Feed.left_eq]
    exact length_valuesOf_le _ _
  exact ⟨_, Walk.gives (r := ⟨g, s, interval, latest⟩)
    (starts_of_unread hphase hf hinc hclocked hvalues) hlen,
    grouped_stretches (pairwise_valuesOf hinc g.counter) hvalues s⟩

/-- A grid that has read nothing of these samples. -/
def fresh (samples : List Sample) (offset : Word) (counter : Option Counter) (hw : 0 < width) :
    Grid :=
  ⟨.ofSamples samples, width, offset, counter, width, .unread, hw⟩

theorem make_of_pos {samples : List Sample} {counter : Option Counter} (hw : 0 < width) :
    make (.ofSamples samples) width offset counter = .ok (fresh samples offset counter hw) := by
  rw [make, dif_pos hw, fresh]

theorem gives_of_fresh {samples : List Sample} (hinc : Increasing samples) (hw : 0 < width)
    (hfits : ∀ a ∈ samples, Fits width offset a.time) {counter : Option Counter}
    (hclocked : Clocked counter samples) (s : Statistic) (interval : Interval) :
    ∃ points, (Resampler.mk (fresh samples offset counter hw) s interval none).Gives points ∧
      Grouped s (fun v => ((fresh samples offset counter hw).align v.time).toOption) id
        Timed.value (valuesOf counter samples) points := by
  have hremaining : (fresh samples offset counter hw).feed.remaining = samples :=
    Feed.remaining_ofSamples samples
  obtain ⟨points, hgives, hgrouped⟩ := gives_of_unread (g := fresh samples offset counter hw)
    rfl rfl (by rwa [hremaining]) (by rwa [hremaining]) (by rwa [hremaining]) s interval none
  rw [hremaining] at hgrouped
  exact ⟨points, hgives, hgrouped⟩

/-- A fresh grid over plain samples gives one point for each bucket start that comes up: the
bucket start is its time, and its value is the statistic of the samples with that bucket start, in
their order. -/
theorem gives_bucket_groups {samples : List Sample} (hinc : Increasing samples) (hw : 0 < width)
    (hfits : ∀ a ∈ samples, Fits width offset a.time) (s : Statistic) (interval : Interval) :
    ∃ g points, make (.ofSamples samples) width offset none = .ok g ∧
      (Resampler.mk g s interval none).Gives points ∧
      Grouped s (fun a => (g.align a.time).toOption) id Sample.toReal samples points := by
  obtain ⟨points, hgives, hgrouped⟩ := gives_of_fresh hinc hw hfits (clocked_none samples) s interval
  exact ⟨_, points, make_of_pos hw, hgives, hgrouped.of_map⟩

/-- Samples before zero, on an edge and behind a gap, with an offset of seven. -/
theorem gives_bucket_groups_of_four :
    ∃ g points, make (.ofSamples [⟨-18, .whole 2⟩, ⟨-7, .whole 3⟩, ⟨2, .real 0.5⟩,
        ⟨43, .whole 4⟩]) 10 7 none = .ok g ∧
      (Resampler.mk g .mean ⟨10, .fixed⟩ none).Gives points ∧
      Grouped .mean (fun a => (g.align a.time).toOption) id Sample.toReal
        [⟨-18, .whole 2⟩, ⟨-7, .whole 3⟩, ⟨2, .real 0.5⟩, ⟨43, .whole 4⟩] points :=
  gives_bucket_groups (by decide) (by decide) (by decide) .mean ⟨10, .fixed⟩

end Grid

end TimeBuckets
