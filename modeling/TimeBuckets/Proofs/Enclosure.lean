/-
Which samples the points of buckets of one width stand for, also after failures.

* `Encloses` — a point at the start of a bucket that sums up samples of this bucket;
* `Gathers` — a point that sums up a stretch of neighbouring samples, with what decides whether
  these lie in its bucket;
* `Grid.Settled` — what is true of a grid between requests, whatever was asked and whatever failed;
* `Grid.points_gather` — all points that are ever given out gather samples, and enclose them unless
  the first one has a bucket that words cannot hold.

A sample whose bucket cannot be opened stays held, while the boundary stays where it was: at the
width, where it is at first, or at the end of an earlier bucket.  If the sample lies before it, the
next request takes it for a sample of that bucket.
-/
import TimeBuckets.Proofs.Agreement
import TimeBuckets.Proofs.Keeping
import TimeBuckets.Proofs.Readings

namespace TimeBuckets

/-! ### Bucket ends -/

section Exact

variable {width offset t u : Int}

theorem startOf_add_width (width offset t : Int) :
    startOf width offset (t + width) = startOf width offset t + width := by
  have hmod : (t + width + offset) % width = (t + offset) % width := by
    rw [show t + width + offset = t + offset + width by omega, Int.add_emod_right]
  rw [startOf, startOf, hmod]
  omega

/-- A bucket start that comes before the end of the bucket of a time is not behind that time. -/
theorem le_of_startOf_eq (hw : 0 < width) (hu : startOf width offset u = u)
    (hlt : u < startOf width offset t + width) : u ≤ t := by
  refine Int.not_lt.mp fun hgt => ?_
  have hle : startOf width offset t ≤ t := startOf_le hw
  have hsame : startOf width offset u = startOf width offset t :=
    startOf_of_mem hw (by omega) hlt
  omega

end Exact

theorem early_or_late_of_not_fits {width offset time : Word} (hw : 0 < width.toInt)
    (h : ¬ Fits width offset time) :
    time < width ∨ Word.greatest < startOf width.toInt offset.toInt time.toInt + width.toInt := by
  by_cases hlow : Word.least ≤ startOf width.toInt offset.toInt time.toInt
  · exact Or.inr (Int.not_le.mp fun hhigh => h ⟨hlow, hhigh⟩)
  · have hlt : time.toInt < startOf width.toInt offset.toInt time.toInt + width.toInt :=
      lt_startOf_add hw
    rw [Int64.lt_iff_toInt_lt]
    simp only [Word.least] at hlow
    omega

/-- A time in a bucket whose ends are words has a bucket that words can hold: this one. -/
theorem fits_of_within {width offset start time : Word} (hw : 0 < width.toInt)
    (hstart : startOf width.toInt offset.toInt start.toInt = start.toInt)
    (hend : start.toInt + width.toInt ≤ Word.greatest) (hlow : start ≤ time)
    (hhigh : time.toInt < start.toInt + width.toInt) : Fits width offset time := by
  rw [Int64.le_iff_toInt_le] at hlow
  have hleast := Word.least_le_toInt start
  have hsame : startOf width.toInt offset.toInt time.toInt
      = startOf width.toInt offset.toInt start.toInt :=
    startOf_of_mem hw (by omega) (by omega)
  rw [hstart] at hsame
  exact ⟨by omega, by omega⟩

theorem Grid.toInt_of_bucketTime {g : Grid} {time : Word} (h : g.bucketTime = .ok time) :
    time.toInt = startOf g.width.toInt g.offset.toInt (g.boundary.toInt - g.width.toInt) := by
  rw [bucketTime] at h
  rcases hback : Word.ofInt? (g.boundary.toInt - g.width.toInt) with _ | back
  · rw [hback] at h
    cases h
  · rw [hback] at h
    rw [← Word.ofInt?_eq_some_iff.mp hback]
    exact align_eq_ok_iff.mp h

/-! ### Points and their samples -/

/-- The point stands at the start of a bucket, and is the statistic of samples of this bucket. -/
def Encloses (samples : List Sample) (width offset : Word) (s : Statistic) (point : Point) : Prop :=
  (point.time.toInt + offset.toInt) % width.toInt = 0 ∧
    ∃ part : List Sample, part.Sublist samples ∧
      s.ofValues? (part.map Sample.toReal) = some point.value ∧
      ∀ a ∈ part, point.time ≤ a.time ∧ a.time.toInt < point.time.toInt + width.toInt

/-- The point stands at the start of a bucket, and is the statistic of a stretch of neighbouring
samples.  They lie in this bucket just if words can hold both ends of the bucket of the first one,
which can only fail for a sample before the width. -/
structure Gathers (samples : List Sample) (width offset : Word) (s : Statistic) (point : Point)
    (first : Sample) (rest : List Sample) : Prop where
  neighbours : first :: rest <:+: samples
  value_eq : s.ofValues? ((first :: rest).map Sample.toReal) = some point.value
  aligned : (point.time.toInt + offset.toInt) % width.toInt = 0
  within_iff : (∀ a ∈ first :: rest, point.time ≤ a.time ∧
    a.time.toInt < point.time.toInt + width.toInt) ↔ Fits width offset first.time
  early : ¬ Fits width offset first.time → first.time < width

theorem Gathers.encloses {samples : List Sample} {width offset : Word} {s : Statistic}
    {point : Point} {first : Sample} {rest : List Sample}
    (h : Gathers samples width offset s point first rest)
    (hfits : Fits width offset first.time) : Encloses samples width offset s point :=
  ⟨h.aligned, first :: rest, h.neighbours.sublist, h.value_eq, h.within_iff.mpr hfits⟩

namespace Resampler

variable {σ : Type} [BucketCursor σ] {P : Resampler σ → Prop} {Q : Point → Prop}

omit [BucketCursor σ] in
theorem exists_of_answerOf {α : Type} {form : α → Answer} {run : EStateM Fault (Resampler σ) α}
    {r : Resampler σ} {answer : Answer} (h : answerOf form (run r) = .ok answer) :
    ∃ a r', run r = .ok a r' ∧ form a = answer := by
  rcases hrun : run r with ⟨a, r'⟩ | ⟨fault, r'⟩
  · rw [hrun] at h
    exact ⟨a, r', rfl, Except.ok.inj h⟩
  · rw [hrun] at h
    exact absurd h nofun

/-- What is true of every point that is taken from a state with a property is true of every point
among the answers to requests, if all requests keep this property. -/
theorem point_of_answers (hhas : Keeps P (hasNext (σ := σ)))
    (hpoint : Returns P Q (nextPoint (σ := σ))) (hseek : ∀ time, Keeps P (seek (σ := σ) time))
    {point : Point} {requests : List Request} :
    ∀ {r : Resampler σ}, P r → .ok (.point (some point)) ∈ r.answers requests → Q point := by
  have hnext : Returns P (fun p => ∀ point ∈ p, Q point) (next? (σ := σ)) := by
    refine Returns.bind_of_keeps hhas fun more => Returns.ite ?_ (Returns.pure nofun)
    refine hpoint.bind fun p hp => Returns.pure fun point h => ?_
    rwa [← Option.mem_some_iff.mp h]
  induction requests with
  | nil => exact fun _ hmem => absurd hmem List.not_mem_nil
  | cons request rest ih =>
    intro r hr hmem
    rcases List.mem_cons.mp hmem with hhead | htail
    -- only the requests for a point are answered with one
    · cases request with
      | hasNext =>
        obtain ⟨more, r', -, hform⟩ := exists_of_answerOf hhead.symm
        exact absurd hform nofun
      | nextPoint =>
        obtain ⟨p, r', hrun, hform⟩ := exists_of_answerOf hhead.symm
        obtain rfl := Option.some.inj (Answer.point.inj hform)
        exact hpoint.of_ok hr hrun
      | next? =>
        obtain ⟨p, r', hrun, hform⟩ := exists_of_answerOf hhead.symm
        obtain rfl := Answer.point.inj hform
        exact hnext.of_ok hr hrun point rfl
      | seek time =>
        obtain ⟨moved, r', -, hform⟩ := exists_of_answerOf hhead.symm
        exact absurd hform nofun
    · refine ih ?_ htail
      cases request with
      | hasNext => exact hhas r hr
      | nextPoint => exact hpoint.keeps r hr
      | next? => exact hnext.keeps r hr
      | seek time => exact hseek time r hr

end Resampler

namespace Grid

variable {samples : List Sample} {width offset : Word} {hw : 0 < width} {g : Grid}

/-! ### What is true between requests -/

/-- Grids over these samples that take the readings as they are, with samples ahead that end the
list, and a boundary at the width or at the edge of a bucket. -/
structure Placed (samples : List Sample) (offset : Word) (hw : 0 < width) (g : Grid) : Prop where
  rewound_eq : g.rewound = fresh samples offset none hw
  suffix : g.stock <:+ samples
  edge : g.boundary = width ∨
    startOf width.toInt offset.toInt g.boundary.toInt = g.boundary.toInt

/-- What is more, a held sample before the boundary is in the bucket that ends there, or its own
bucket does not fit and it lies before the width. -/
structure Settled (samples : List Sample) (offset : Word) (hw : 0 < width) (g : Grid) : Prop
    extends Placed samples offset hw g where
  held : ∀ a ∈ g.stock.head?, g.phase ≠ .unread → g.boundary ≤ a.time ∨
    g.boundary.toInt = startOf width.toInt offset.toInt a.time.toInt + width.toInt ∨
    ¬ Fits width offset a.time ∧ a.time < width

theorem keptByReads_rewound (f₀ : Feed) : Feed.KeptByReads fun f => f.rewound = f₀ where
  pulled f hf _ := by
    rw [Feed.pulled]
    split
    · exact hf
    · exact hf
  missed _ hf _ := hf

namespace Placed

theorem width_eq (h : Placed samples offset hw g) : g.width = width :=
  congrArg Grid.width h.rewound_eq

theorem offset_eq (h : Placed samples offset hw g) : g.offset = offset :=
  congrArg Grid.offset h.rewound_eq

theorem counter_eq (h : Placed samples offset hw g) : g.counter = none :=
  congrArg Grid.counter h.rewound_eq

theorem feed_eq (h : Placed samples offset hw g) : g.feed.rewound = .ofSamples samples :=
  congrArg Grid.feed h.rewound_eq

theorem width_pos (h : Placed samples offset hw g) : 0 < width.toInt :=
  h.width_eq ▸ g.width_toInt_pos

theorem started (h : Placed samples offset hw g) (hphase : g.phase = .unread) :
    Placed samples offset hw g.started := by
  have hreliable : g.feed.readFaults = [] := congrArg Feed.readFaults h.feed_eq
  have hnone := Feed.nextFault?_of_reliable hreliable
  refine ⟨?_, ?_, h.edge⟩
  · refine Eq.trans ?_ h.rewound_eq
    exact rewound_withFeed ((keptByReads_rewound _).pulled g.feed rfl fun _ => hnone)
  · rw [stock_started h.counter_eq]
    have hsuffix := h.suffix
    rwa [stock, hphase] at hsuffix

theorem bucketTime_bounds {time : Word} (h : Placed samples offset hw g)
    (htime : g.bucketTime = .ok time) :
    startOf width.toInt offset.toInt time.toInt = time.toInt ∧
      time.toInt ≤ g.boundary.toInt - width.toInt := by
  have hstart := toInt_of_bucketTime htime
  rw [h.width_eq, h.offset_eq] at hstart
  refine ⟨?_, ?_⟩
  · rw [hstart, startOf_startOf h.width_pos]
  · rw [hstart]
    exact startOf_le h.width_pos

/-- If the boundary ends the bucket of a time, this bucket is the one that the boundary gives. -/
theorem bucketTime_of_end {time t : Word} (h : Placed samples offset hw g)
    (htime : g.bucketTime = .ok time)
    (hend : g.boundary.toInt = startOf width.toInt offset.toInt t.toInt + width.toInt) :
    time.toInt = startOf width.toInt offset.toInt t.toInt := by
  have hstart := toInt_of_bucketTime htime
  rwa [h.width_eq, h.offset_eq, hend, Int.add_sub_cancel, startOf_startOf h.width_pos] at hstart

/-- Opening the bucket of the held sample settles the grid if words can hold the bucket. -/
theorem settled_setEnd {last : Word} (h : Placed samples offset hw g)
    (hlast : g.endFor g.stock.head? = .ok last) :
    Settled samples offset hw { g with boundary := last } := by
  rcases hhead : g.stock.head? with _ | a
  · rw [hhead] at hlast
    obtain rfl := Except.ok.inj hlast
    exact ⟨⟨h.rewound_eq, h.suffix, h.edge⟩, fun a ha => absurd (hhead.symm.trans ha) nofun⟩
  · rw [hhead] at hlast
    have hend := toInt_of_bucketEnd hlast
    rw [h.width_eq, h.offset_eq] at hend
    refine ⟨⟨h.rewound_eq, h.suffix, Or.inr ?_⟩, fun b hb _ => Or.inr (Or.inl ?_)⟩
    · rw [hend, startOf_add_width, startOf_startOf h.width_pos]
    · obtain rfl : a = b := Option.some.inj (hhead.symm.trans hb)
      exact hend

/-- If words cannot hold it, the held sample lies before the width or not before the boundary. -/
theorem settled_of_error {fault : Fault} (h : Placed samples offset hw g)
    (herror : g.endFor g.stock.head? = .error fault) : Settled samples offset hw g := by
  refine ⟨h, fun a ha _ => ?_⟩
  rw [show g.stock.head? = some a from ha] at herror
  have hnot : ¬ Fits width offset a.time := by
    rw [← h.width_eq, ← h.offset_eq]
    intro hfits
    obtain ⟨last, hlast, -⟩ := bucketEnd_of_fits hfits
    exact absurd (herror.symm.trans hlast) nofun
  by_cases hearly : a.time < width
  · exact Or.inr (Or.inr ⟨hnot, hearly⟩)
  · have hlate := (early_or_late_of_not_fits h.width_pos hnot).resolve_left hearly
    refine Or.inl ?_
    rcases h.edge with hwidth | hedge
    · rw [hwidth]
      exact Int64.not_lt.mp hearly
    -- the boundary is the edge of an earlier bucket, since it is a word
    · rw [Int64.le_iff_toInt_le]
      refine le_of_startOf_eq h.width_pos hedge (Int.lt_of_le_of_lt ?_ hlate)
      exact Word.toInt_le_greatest g.boundary

end Placed

theorem Settled.of_unread (h : Placed samples offset hw g) (hphase : g.phase = .unread) :
    Settled samples offset hw g :=
  ⟨h, fun _ _ hbegun => absurd hphase hbegun⟩

theorem settled_fresh : Settled samples offset hw (fresh samples offset none hw) := by
  have hstock : (fresh samples offset none hw).stock = samples := Feed.remaining_ofSamples samples
  exact Settled.of_unread ⟨rfl, hstock ▸ List.suffix_rfl, Or.inl rfl⟩ rfl

/-! ### One request -/

namespace Settled

/-- Asking for a value settles the grid again, whether it succeeds or fails. -/
theorem hasValue (h : Settled samples offset hw g) :
    (∃ g', Grid.hasValue g = .ok (g'.stock.head?.any (Sample.isBefore g'.boundary)) g' ∧
      Settled samples offset hw g' ∧ g'.phase ≠ .unread) ∨
    ∃ fault g', Grid.hasValue g = .error fault g' ∧ Settled samples offset hw g' := by
  by_cases hphase : g.phase = .unread
  · have hreliable : g.feed.readFaults = [] := congrArg Feed.readFaults h.feed_eq
    have hfill := fill_of_reliable hreliable hphase
    have hbegun := begun_of_started g
    have hplaced := h.started hphase
    generalize g.started = g₁ at hfill hbegun hplaced
    rw [openBucket_eq hbegun] at hfill
    rcases hend : g₁.endFor g₁.stock.head? with fault | last
    · rw [hend] at hfill
      exact Or.inr ⟨fault, g₁, bind_of_error hfill, hplaced.settled_of_error hend⟩
    · rw [hend] at hfill
      refine Or.inl ⟨{ g₁ with boundary := last }, ?_, hplaced.settled_setEnd hend, hbegun⟩
      rw [← hasValue_of_begun (g := { g₁ with boundary := last }) hbegun]
      exact hasValue_of_fill hfill hbegun
  · exact Or.inl ⟨g, hasValue_of_begun hphase, h, hphase⟩

/-- A held sample before the boundary is in the bucket that ends there, or its own bucket does not
fit and it lies before the width. -/
theorem boundary_cases {first : Sample} {rest : List Sample} (h : Settled samples offset hw g)
    (hbegun : g.phase ≠ .unread) (hstock : g.stock = first :: rest)
    (hfirst : first.isBefore g.boundary = true) :
    g.boundary.toInt = startOf width.toInt offset.toInt first.time.toInt + width.toInt ∨
      ¬ Fits width offset first.time ∧ first.time < width := by
  have hbefore : first.time < g.boundary := of_decide_eq_true hfirst
  have hhead : first ∈ g.stock.head? := by rw [hstock]; rfl
  exact (h.held first hhead hbegun).resolve_left (Int64.not_le.mpr hbefore)

/-- If the boundary ends the bucket of the first sample, all samples before it are in there. -/
theorem within_of_end {first : Sample} {rest : List Sample} {time : Word}
    (h : Settled samples offset hw g) (hinc : Increasing (first :: rest))
    (hfirst : first.isBefore g.boundary = true) (htime : g.bucketTime = .ok time)
    (hend : g.boundary.toInt
      = startOf width.toInt offset.toInt first.time.toInt + width.toInt) :
    ∀ a ∈ first :: rest.takeWhile (Sample.isBefore g.boundary),
      time ≤ a.time ∧ a.time.toInt < time.toInt + width.toInt := by
  have hstart := h.bucketTime_of_end htime hend
  have hle : startOf width.toInt offset.toInt first.time.toInt ≤ first.time.toInt :=
    startOf_le h.width_pos
  have hlater := (List.pairwise_cons.mp hinc).1
  intro a ha
  rw [Int64.le_iff_toInt_le]
  rcases List.mem_cons.mp ha with rfl | ha
  · have hlt := Int64.lt_iff_toInt_lt.mp (of_decide_eq_true hfirst)
    omega
  · have hlt := Int64.lt_iff_toInt_lt.mp (hlater a ((List.takeWhile_prefix _).subset ha))
    have hpass := List.all_eq_true.mp List.all_takeWhile a ha
    have hlast := Int64.lt_iff_toInt_lt.mp (of_decide_eq_true hpass)
    omega

/-- The samples before the boundary are gathered by the point that the boundary gives them. -/
theorem gathers {first : Sample} {rest : List Sample} {point : Point} {s : Statistic}
    (h : Settled samples offset hw g) (hinc : Increasing samples) (hbegun : g.phase ≠ .unread)
    (hstock : g.stock = first :: rest) (hfirst : first.isBefore g.boundary = true)
    (htime : g.bucketTime = .ok point.time)
    (hvalue : s.ofValues? ((first :: rest.takeWhile (Sample.isBefore g.boundary)).map
      Sample.toReal) = some point.value) :
    Gathers samples width offset s point first
      (rest.takeWhile (Sample.isBefore g.boundary)) := by
  have hgreatest := Word.toInt_le_greatest g.boundary
  obtain ⟨halign, hback⟩ := h.bucketTime_bounds htime
  have hcases := h.boundary_cases hbegun hstock hfirst
  have hsuffix := h.suffix
  rw [hstock] at hsuffix
  refine ⟨?_, hvalue, ?_, ⟨fun hwithin => ?_, fun hfits => ?_⟩, fun hnot => ?_⟩
  · refine List.IsInfix.trans ?_ hsuffix.isInfix
    exact ((List.prefix_cons_inj first).mpr (List.takeWhile_prefix _)).isInfix
  · rw [startOf] at halign
    omega
  · obtain ⟨hlow, hhigh⟩ := hwithin first List.mem_cons_self
    exact fits_of_within h.width_pos halign (by omega) hlow hhigh
  · have hend := hcases.resolve_right fun hnot => hnot.1 hfits
    exact h.within_of_end (hinc.sublist hsuffix.sublist) hfirst htime hend
  · refine (hcases.resolve_left fun hend => hnot ⟨?_, ?_⟩).2
    · rw [← h.bucketTime_of_end htime hend]
      exact Word.least_le_toInt point.time
    · rw [← hend]
      exact hgreatest

/-- What reading on leaves placed is settled if no sample before the boundary is left. -/
theorem of_reached {g' : Grid} {items : List Sample} (h : Settled samples offset hw g)
    (hreached : Reached (fun f => f.rewound = g.feed.rewound) g g' items)
    (hsuffix : items <:+ g.stock)
    (hover : items.head?.any (Sample.isBefore g.boundary) = false) :
    Settled samples offset hw g' := by
  refine ⟨⟨?_, ?_, ?_⟩, fun a ha _ => Or.inl ?_⟩
  · rw [hreached.eq]
    exact (rewound_withFeed hreached.feed).trans h.rewound_eq
  · rw [hreached.stock_eq]
    exact hsuffix.trans h.suffix
  · rw [hreached.boundary_eq]
    exact h.edge
  · rw [hreached.stock_eq] at ha
    rw [Option.mem_def.mp ha, Option.any_some] at hover
    rw [hreached.boundary_eq]
    exact Int64.not_lt.mp (of_decide_eq_false hover)

/-- Taking a bucket settles the grid again, whether it succeeds or fails, and the point gathers
samples. -/
theorem takeBucket (h : Settled samples offset hw g) (hinc : Increasing samples)
    (hbegun : g.phase ≠ .unread)
    (hhead : g.stock.head?.any (Sample.isBefore g.boundary) = true) (s : Statistic) :
    match takeBucket s g with
    | .ok point g' => Settled samples offset hw g' ∧
        ∃ first rest, Gathers samples width offset s point first rest
    | .error _ g' => Settled samples offset hw g' := by
  have hreliable : g.feed.readFaults = [] := congrArg Feed.readFaults h.feed_eq
  rcases (readings h.counter_eq (keptByReads_rewound g.feed.rewound)).takeBucket_cases
    (Reached.refl hbegun rfl) hhead s with
    ⟨value, g', hvalue, htake, hreached⟩ | ⟨fault, g', -, front, tail, -, -, -, hreached, hfailed⟩
  · have hsettled := h.of_reached hreached (List.dropWhile_suffix _)
      (any_head?_dropWhile (Sample.isBefore g.boundary) g.stock)
    have htime : g'.bucketTime = g.bucketTime := (congrArg Grid.bucketTime hreached.eq :)
    rw [htake, closeBucket_eq hreached.begun, htime]
    rcases hbucket : g.bucketTime with fault | time
    · exact hsettled
    · rcases hend : g'.endFor g'.stock.head? with fault | last
      · exact hsettled
      · refine ⟨hsettled.settled_setEnd hend, ?_⟩
        rcases hstock : g.stock with _ | ⟨first, rest⟩
        · rw [hstock] at hhead
          exact absurd hhead Bool.false_ne_true
        · rw [hstock, List.head?_cons, Option.any_some] at hhead
          rw [hstock, List.takeWhile_cons_of_pos hhead] at hvalue
          have hgathers : Gathers samples width offset s ⟨time, value⟩ first _ :=
            h.gathers hinc hbegun hstock hhead hbucket hvalue
          exact ⟨first, _, hgathers⟩
  -- without faults no read can have failed
  · have hnone : g'.feed.readFaults = [] := (congrArg Feed.readFaults hreached.feed).trans hreliable
    exact absurd hfailed (Feed.not_lastFailed hnone fault)

theorem seek (h : Settled samples offset hw g) (time : Word) :
    Settled samples offset hw (after (Grid.seek time) g) := by
  have hkept := keeps_seek time g h.rewound_eq
  obtain ⟨target, hrun⟩ := exists_reposition g time
  rcases hseek : Feed.seek target g.feed with ⟨_, feed⟩ | ⟨fault, feed⟩
  · have hok := hrun.trans (reposition_of_ok hseek)
    rw [after_of_ok hok] at hkept ⊢
    refine Settled.of_unread ⟨hkept, ?_, h.edge⟩ rfl
    have hsamples : feed.samples = samples.toArray :=
      congrArg (fun g₀ : Grid => g₀.feed.samples) hkept
    rw [stock, Feed.remaining, hsamples]
    exact List.drop_suffix _ _
  · rw [after_of_error (hrun.trans (reposition_of_error hseek))]
    exact h

end Settled

/-! ### All requests -/

section Requests

variable {s : Statistic}

theorem keeps_hasNext_settled : Keeps (fun r : Resampler Grid =>
    Settled samples offset hw r.cursor ∧ r.statistic = s) Resampler.hasNext := by
  refine Resampler.keeps_onCursor (fun g h => ?_) s
  rcases h.hasValue with ⟨g', hrun, h', -⟩ | ⟨fault, g', hrun, h'⟩
  · rwa [after_of_ok (show ValueStream.hasValue g = _ from hrun)]
  · rwa [after_of_error (show ValueStream.hasValue g = _ from hrun)]

theorem returns_nextPoint_settled (hinc : Increasing samples) :
    Returns (fun r : Resampler Grid => Settled samples offset hw r.cursor ∧ r.statistic = s)
      (fun point => ∃ first rest, Gathers samples width offset s point first rest)
      Resampler.nextPoint := by
  rintro r ⟨h, hs⟩
  rcases h.hasValue with ⟨g, hrun, h', hbegun⟩ | ⟨fault, g, hrun, h'⟩
  · by_cases hmore : g.stock.head?.any (Sample.isBefore g.boundary) = true
    · have htake := h'.takeBucket hinc hbegun hmore s
      rw [hmore] at hrun
      rw [Resampler.nextPoint_of_hasValue hrun, hs]
      generalize TimeBuckets.takeBucket s g = result at htake ⊢
      rcases result with ⟨point, g'⟩ | ⟨fault, g'⟩
      · exact ⟨⟨htake.1, rfl⟩, htake.2⟩
      · exact ⟨htake, rfl⟩
    · have hhas : r.hasNext = .ok _ { r with cursor := g } := Resampler.onCursor_of_ok hrun
      rw [Resampler.nextPoint, bind_of_ok hhas, if_neg hmore]
      exact ⟨h', hs⟩
  · have hhas : r.hasNext = .error fault { r with cursor := g } := Resampler.onCursor_of_error hrun
    rw [Resampler.nextPoint, bind_of_error hhas]
    exact ⟨h', hs⟩

/-- Every point that a resampler over a fresh grid ever gives out gathers neighbouring samples,
whatever is asked of it and whatever fails.  It encloses them if words can hold the bucket of every
sample before the width. -/
theorem points_gather (hinc : Increasing samples) (hw : 0 < width) (offset : Word) (s : Statistic)
    (interval : Interval) :
    ∃ g, make (.ofSamples samples) width offset none = .ok g ∧
      ∀ (requests : List Request) (point : Point),
        .ok (.point (some point)) ∈ (Resampler.mk g s interval none).answers requests →
          (∃ first rest, Gathers samples width offset s point first rest) ∧
          ((∀ a ∈ samples, a.time < width → Fits width offset a.time) →
            Encloses samples width offset s point) := by
  refine ⟨_, make_of_pos hw, fun requests point hmem => ?_⟩
  obtain ⟨first, rest, hgathers⟩ := Resampler.point_of_answers (P := fun r : Resampler Grid =>
    Settled samples offset hw r.cursor ∧ r.statistic = s) keeps_hasNext_settled
    (returns_nextPoint_settled hinc)
    (fun time => Resampler.keeps_onCursor (fun g h => h.seek time) s) ⟨settled_fresh, rfl⟩ hmem
  refine ⟨⟨first, rest, hgathers⟩, fun hall => hgathers.encloses (by_contra fun hnot => hnot ?_)⟩
  exact hall first (hgathers.neighbours.subset List.mem_cons_self) (hgathers.early hnot)

end Requests

/-- A sample at the end of the range behind two others, with a jump after the failure. -/
theorem points_gather_of_three :
    ∃ g, make (.ofSamples [⟨-7, .whole 2⟩, ⟨2, .whole 3⟩, ⟨9223372036854775807, .whole 4⟩]) 10 0
        none = .ok g ∧
      ∀ (requests : List Request) (point : Point),
        .ok (.point (some point)) ∈ (Resampler.mk g .sum ⟨10, .fixed⟩ none).answers requests →
          (∃ first rest, Gathers [⟨-7, .whole 2⟩, ⟨2, .whole 3⟩, ⟨9223372036854775807, .whole 4⟩]
            10 0 .sum point first rest) ∧
          ((∀ a ∈ [(⟨-7, .whole 2⟩ : Sample), ⟨2, .whole 3⟩, ⟨9223372036854775807, .whole 4⟩],
              a.time < 10 → Fits 10 0 a.time) →
            Encloses [⟨-7, .whole 2⟩, ⟨2, .whole 3⟩, ⟨9223372036854775807, .whole 4⟩] 10 0 .sum
              point) :=
  points_gather (by decide) (by decide) 0 .sum ⟨10, .fixed⟩

/-- The first sample of the range has a bucket that words cannot hold.  The first request for it
fails, and the second one gives a point at zero that does not enclose it. -/
theorem first_word_not_enclosed :
    ¬ ∀ point, .ok (.point (some point)) ∈ (Resampler.mk (fresh
        [⟨-9223372036854775808, .whole 1⟩] 0 none (by decide : (0 : Word) < 1000)) .sum
          ⟨1000, .fixed⟩ none).answers [.next?, .next?] →
      Encloses [⟨-9223372036854775808, .whole 1⟩] 1000 0 .sum point := by
  intro hall
  have htimes : (Answer.points ((Resampler.mk (fresh [⟨-9223372036854775808, .whole 1⟩] 0 none
      (by decide : (0 : Word) < 1000)) .sum ⟨1000, .fixed⟩ none).answers
        [.next?, .next?])).map Point.time = [0] := by decide +kernel
  obtain ⟨point, hpoint, htime⟩ := List.mem_map.mp (htimes ▸ List.mem_singleton_self (0 : Word))
  have hmem := Answer.mem_points.mp hpoint
  obtain ⟨-, part, hpart, hvalue, hwithin⟩ := hall point hmem
  rcases part with _ | ⟨a, rest⟩
  · exact absurd hvalue nofun
  · have hlow := (hwithin a List.mem_cons_self).1
    obtain rfl := List.mem_singleton.mp (hpart.subset List.mem_cons_self)
    rw [htime] at hlow
    exact absurd hlow (by decide +kernel)

end Grid

end TimeBuckets
