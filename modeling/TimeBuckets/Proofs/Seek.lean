/-
Jumping in a grid leaves exactly the later points.

* `Grid.rewound` — a grid as it was before anything was read from it, which no operation changes;
* `Grid.seek_of_rewound` — a jump leaves the values whose bucket starts at the time or later;
* `Grid.seek_gives_filter` — after any requests, jumping to a time and draining gives the points
  of a fresh drain at that time or later, if the times between neighbours can be told.

Nothing that was asked before matters, since a jump sets the position anew and forgets what was
held; the boundary that is left over is replaced with the first reading ahead.
-/
import TimeBuckets.Proofs.FixedWidth

namespace TimeBuckets

/-! ### What no operation changes -/

/-- The feed as it was before anything was read from it. -/
def Feed.rewound (f : Feed) : Feed := { f with position := 0, reads := 0 }

theorem Feed.keeps_next {f₀ : Feed} : Keeps (fun f => f.rewound = f₀) Feed.next := by
  intro f hf
  rw [after, next]
  rcases f.nextFault? with _ | fault
  · rcases f.samples[f.position]? with _ | s
    · exact hf
    · exact hf
  · exact hf

theorem Feed.keeps_seek {f₀ : Feed} (time : Word) :
    Keeps (fun f => f.rewound = f₀) (Feed.seek time) := by
  intro f hf
  rcases hfault : f.seekFault with _ | fault
  · have hrun : Feed.seek time f = .ok () { f with position := lowerBound f.samples time } := by
      rw [seek, hfault]
    rw [after_of_ok hrun]
    exact hf
  · have hrun : Feed.seek time f = .error fault f := by rw [seek, hfault]
    rwa [after_of_error hrun]

namespace Grid

variable {g g₀ : Grid}

/-- The grid as it was before anything was read from it. -/
def rewound (g : Grid) : Grid :=
  { g with feed := g.feed.rewound, boundary := g.width, phase := .unread }

theorem rewound_withFeed {feed : Feed} (h : feed.rewound = g.feed.rewound) :
    rewound { g with feed := feed } = g.rewound := by
  rw [rewound, rewound, h]

theorem keeps_read : Keeps (fun g => g.rewound = g₀) read := by
  intro g hg
  have hfeed := Feed.keeps_next g.feed rfl
  rcases hnext : g.feed.next with ⟨s, feed⟩ | ⟨fault, feed⟩
  · have hread : read g = .ok s { g with feed := feed } := by rw [read, hnext]
    rw [after_of_ok hnext] at hfeed
    rw [after_of_ok hread, rewound_withFeed hfeed, hg]
  · have hread : read g = .error (.source fault) { g with feed := feed } := by rw [read, hnext]
    rw [after_of_error hnext] at hfeed
    rw [after_of_error hread, rewound_withFeed hfeed, hg]

theorem keeps_pull : Keeps (fun g => g.rewound = g₀) pull := by
  refine Keeps.get_bind fun g _ => Keeps.ite ?_ (Keeps.modify fun g h => h)
  exact keeps_read.bind fun s => Keeps.modify fun g h => h

/-- Opening a bucket moves the boundary at most. -/
theorem keeps_of_setEnd {P : Grid → Prop} (h : ∀ g last, P g → P { g with boundary := last }) :
    Keeps P openBucket := by
  intro g hg
  rcases hphase : g.phase with _ | s | _
  · have hrun : openBucket g = .ok () g := by rw [openBucket, hphase]
    rwa [after_of_ok hrun]
  · rcases hend : g.bucketEnd s.time with fault | last
    · have hrun : openBucket g = .error fault g := by simp only [openBucket, hphase, hend]
      rwa [after_of_error hrun]
    · have hrun : openBucket g = .ok () { g with boundary := last } := by
        simp only [openBucket, hphase, hend]
      rw [after_of_ok hrun]
      exact h g last hg
  · have hrun : openBucket g = .ok () g := by rw [openBucket, hphase]
    rwa [after_of_ok hrun]

theorem keeps_openBucket : Keeps (fun g => g.rewound = g₀) openBucket :=
  keeps_of_setEnd fun _ _ h => h

theorem keeps_fill : Keeps (fun g => g.rewound = g₀) fill := by
  refine Keeps.get_bind fun g _ => ?_
  rcases g.phase with _ | s | _
  · exact keeps_pull.bind fun _ => keeps_openBucket
  · exact Keeps.pure ()
  · exact Keeps.pure ()

theorem keeps_hasValue : Keeps (fun g => g.rewound = g₀) hasValue :=
  keeps_fill.bind fun _ => Keeps.get_bind fun _ _ => Keeps.pure _

theorem keeps_count (c : Counter) (current : Sample) :
    Keeps (fun g => g.rewound = g₀) (count c current) := by
  refine keeps_read.bind fun next => Keeps.get_bind fun g hg => ?_
  rcases checkOrder current next g.text with fault | _
  · exact Keeps.throw fault
  · refine Keeps.bind (Keeps.set hg) fun _ => ?_
    rcases c.delta current next with fault | amount
    · exact Keeps.throw fault
    · exact Keeps.pure amount

theorem keeps_nextValue : Keeps (fun g => g.rewound = g₀) nextValue := by
  refine keeps_hasValue.bind fun more => Keeps.get_bind fun g _ => ?_
  refine Keeps.ite ?_ (Keeps.throw _)
  rcases g.phase with _ | current | _
  · exact Keeps.throw _
  · rcases g.counter with _ | c
    · exact keeps_pull.bind fun _ => Keeps.pure _
    · exact keeps_count c current
  · exact Keeps.throw _

theorem keeps_openNext : Keeps (fun g => g.rewound = g₀) openNext :=
  keeps_fill.bind fun _ => keeps_openBucket

theorem keeps_reposition (time : Word) : Keeps (fun g => g.rewound = g₀) (reposition time) := by
  intro g hg
  have hfeed := Feed.keeps_seek time g.feed rfl
  rcases hseek : Feed.seek time g.feed with ⟨_, feed⟩ | ⟨fault, feed⟩
  · rw [after_of_ok hseek] at hfeed
    rw [after_of_ok (reposition_of_ok hseek)]
    exact (rewound_withFeed hfeed).trans hg
  · rwa [after_of_error (reposition_of_error hseek)]

theorem seek_of_align {time target : Word}
    (h : g.align (Word.clamp (time.toInt + (g.width.toInt - 1))) = .ok target) :
    seek time g = reposition target g := by
  delta seek
  simp only [h]

/-- Rounding up to the start of a bucket never fails. -/
theorem exists_reposition (g : Grid) (time : Word) :
    ∃ target, seek time g = reposition target g := by
  obtain ⟨target, htarget, -⟩ := g.exists_seekTarget time
  exact ⟨target, seek_of_align htarget⟩

theorem keeps_seek_of_reposition {P : Grid → Prop} (h : ∀ time, Keeps P (reposition time))
    (time : Word) : Keeps P (seek time) := by
  intro g hg
  obtain ⟨target, hrun⟩ := exists_reposition g time
  rw [after, hrun]
  exact h target g hg

theorem keeps_seek (time : Word) : Keeps (fun g => g.rewound = g₀) (seek time) :=
  keeps_seek_of_reposition keeps_reposition time

/-- Whatever is asked of a resampler over a grid, its grid stays the same up to the place that
was reached. -/
theorem rewound_handleAll (r : Resampler Grid) (requests : List Request) :
    (r.handleAll requests).cursor.rewound = r.cursor.rewound ∧
      (r.handleAll requests).statistic = r.statistic :=
  Resampler.keeps_handleAll keeps_hasValue keeps_nextValue keeps_openNext keeps_seek rfl requests

/-! ### Jumps as filters -/

variable {samples : List Sample} {width offset : Word} {counter : Option Counter} {hw : 0 < width}

/-- A jump leaves the samples whose bucket starts at the time or later, wherever the grid was. -/
theorem seek_of_rewound (hinc : Increasing samples)
    (h : g.rewound = fresh samples offset counter hw) (time : Word) :
    ∃ g' target, seek time g = .ok () g' ∧ g'.rewound = fresh samples offset counter hw ∧
      g'.phase = .unread ∧ g'.feed.remaining = samples.filter (fun a => target ≤ a.time) ∧
      ∀ t, Fits width offset t → (target ≤ t ↔ time ≤ start width offset t) := by
  have hfeed : g.feed.rewound = .ofSamples samples := congrArg Grid.feed h
  have hsamples : g.feed.samples = samples.toArray := congrArg Feed.samples hfeed
  have hfault : g.feed.seekFault = none := congrArg Feed.seekFault hfeed
  have hwidth : g.width = width := congrArg Grid.width h
  have hoffset : g.offset = offset := congrArg Grid.offset h
  obtain ⟨target, htarget, hlater⟩ := g.exists_seekTarget time
  obtain ⟨feed, hseek, hremaining⟩ := Feed.seek_eq hinc hsamples hfault target
  have hrun : seek time g = .ok () { g with feed := feed, phase := .unread } := by
    rw [seek_of_align htarget, reposition, hseek]
  have hkept := keeps_seek time g h
  rw [after_of_ok hrun] at hkept
  rw [hwidth, hoffset] at hlater
  exact ⟨_, target, hrun, hkept, rfl, hremaining, hlater⟩

/-- Draining after a jump gives the points of the values whose bucket starts at the time or
later. -/
theorem seek_gives_of_rewound (hinc : Increasing samples)
    (hfits : ∀ a ∈ samples, Fits width offset a.time) (hclocked : Clocked counter samples)
    (h : g.rewound = fresh samples offset counter hw) (time : Word) (s : Statistic)
    (interval : Interval) (latest : Option Point) :
    ∃ g' points, seek time g = .ok () g' ∧ (Resampler.mk g' s interval latest).Gives points ∧
      Grouped s (fun v => ((fresh samples offset counter hw).align v.time).toOption) id
        Timed.value ((valuesOf counter samples).filter fun v =>
          ((fresh samples offset counter hw).align v.time).toOption.any fun w => time ≤ w)
        points := by
  obtain ⟨g', target, hseek, hrewound, hphase, hremaining, hlater⟩ := seek_of_rewound hinc h time
  have hwidth : g'.width = width := congrArg Grid.width hrewound
  have hoffset : g'.offset = offset := congrArg Grid.offset hrewound
  have hcounter : g'.counter = counter := congrArg Grid.counter hrewound
  have hreliable : g'.feed.readFaults = [] :=
    congrArg (fun g₀ : Grid => g₀.feed.readFaults) hrewound
  -- buckets lie where they lay in the fresh grid
  have halign : ∀ t, g'.align t = (fresh samples offset counter hw).align t := by
    intro t
    rw [← hrewound]
    rfl
  have hleft : ∀ a ∈ g'.feed.remaining, Fits g'.width g'.offset a.time := by
    rw [hremaining, hwidth, hoffset]
    exact fun a ha => hfits a (List.mem_filter.mp ha).1
  have hclocked' : Clocked g'.counter g'.feed.remaining := by
    rw [hremaining, hcounter]
    exact hclocked.of_suffix (suffix_filter hinc target)
  obtain ⟨points, hgives, hgrouped⟩ := gives_of_unread hphase hreliable
    (by rw [hremaining]; exact hinc.filter _) hclocked' hleft s interval latest
  rw [hcounter, hremaining, valuesOf_filter hinc] at hgrouped
  simp only [halign] at hgrouped
  -- a value is kept for its own time just if it is for the start of its bucket
  have hkept : (valuesOf counter samples).filter (fun v =>
      ((fresh samples offset counter hw).align v.time).toOption.any fun w => time ≤ w)
      = (valuesOf counter samples).filter fun v => target ≤ v.time := by
    refine List.filter_congr fun v hv => ?_
    obtain ⟨a, ha, htime⟩ := exists_sample_of_mem hv
    have hfit : Fits width offset v.time := htime ▸ hfits a ha
    have hstart : (fresh samples offset counter hw).align v.time = .ok (start width offset v.time) :=
      align_of_fits hfit
    rw [hstart]
    show decide (time ≤ start width offset v.time) = decide (target ≤ v.time)
    rw [decide_eq_decide, hlater v.time hfit]
  rw [← hkept] at hgrouped
  exact ⟨g', points, hseek, hgives, hgrouped⟩

/-- After any requests to a resampler over a fresh grid, whatever their results, a jump succeeds
for every time, and draining then gives exactly the points of a fresh drain at that time or
later.  A counter that needs the time between neighbours must be able to tell it. -/
theorem seek_gives_filter (hinc : Increasing samples) (hw : 0 < width)
    (hfits : ∀ a ∈ samples, Fits width offset a.time) {counter : Option Counter}
    (hclocked : Clocked counter samples) (s : Statistic) (interval : Interval) :
    ∃ g points, make (.ofSamples samples) width offset counter = .ok g ∧
      (Resampler.mk g s interval none).Gives points ∧
      ∀ (requests : List Request) (time : Word), ∃ r',
        Resampler.seek time ((Resampler.mk g s interval none).handleAll requests) = .ok () r' ∧
          r'.Gives (points.filter fun p => time ≤ p.time) := by
  obtain ⟨points, hgives, hgrouped⟩ := gives_of_fresh hinc hw hfits hclocked s interval
  refine ⟨_, points, make_of_pos hw, hgives, fun requests time => ?_⟩
  have hreached := rewound_handleAll
    ⟨fresh samples offset counter hw, s, interval, none⟩ requests
  generalize (Resampler.mk (fresh samples offset counter hw) s interval none).handleAll requests
    = r at hreached ⊢
  obtain ⟨hrewound, hstatistic⟩ := hreached
  obtain ⟨g', points', hseek, hgives', hgrouped'⟩ :=
    seek_gives_of_rewound hinc hfits hclocked hrewound time s r.interval r.latest
  -- both are the statistics of the same groups
  have hsame : points' = points.filter fun p => time ≤ p.time :=
    hgrouped'.unique (hgrouped.filter fun w => time ≤ w)
  refine ⟨{ r with cursor := g' }, Resampler.onCursor_of_ok hseek, ?_⟩
  rw [← hsame]
  obtain ⟨cursor, statistic, interval', latest⟩ := r
  obtain rfl : statistic = s := hstatistic
  exact hgives'

/-- A counter in buckets of ten, with samples on both sides of zero. -/
theorem seek_gives_filter_of_four :
    ∃ g points, make (.ofSamples [⟨-18, .whole 2⟩, ⟨-7, .whole 3⟩, ⟨2, .whole 9⟩,
        ⟨43, .whole 4⟩]) 10 0 (some ⟨.monotonic, 100, 0⟩) = .ok g ∧
      (Resampler.mk g .sum ⟨10, .fixed⟩ none).Gives points ∧
      ∀ (requests : List Request) (time : Word), ∃ r',
        Resampler.seek time ((Resampler.mk g .sum ⟨10, .fixed⟩ none).handleAll requests)
          = .ok () r' ∧ r'.Gives (points.filter fun p => time ≤ p.time) :=
  seek_gives_filter (by decide) (by decide) (by decide) (by decide +kernel) .sum ⟨10, .fixed⟩

/-- The first two of three samples are further apart than a word can say.  The times are in order and
words hold the ends of all buckets, but a fresh drain fails, and so does one after a jump in front of
the first bucket. -/
theorem seek_overflows_of_three :
    (¬ ∀ (samples : List Sample) (width offset : Word) (c : Counter), Increasing samples →
      0 < width → (∀ a ∈ samples, Fits width offset a.time) →
        ∃ g points, make (.ofSamples samples) width offset (some c) = .ok g ∧
          (Resampler.mk g .sum ⟨width, .fixed⟩ none).Gives points ∧
          ∀ (requests : List Request) (time : Word), ∃ r',
            Resampler.seek time ((Resampler.mk g .sum ⟨width, .fixed⟩ none).handleAll requests)
              = .ok () r' ∧ r'.Gives (points.filter fun p => time ≤ p.time)) ∧
    ∃ g, make (.ofSamples [⟨-4611686018427387904, .whole 0⟩, ⟨4611686018427387904, .whole 5⟩,
        ⟨4611686018428387904, .whole 12⟩]) 1000 0 (some ⟨.monotonic, 9223372036854775807, 0⟩)
        = .ok g ∧
      (Resampler.mk g .sum ⟨1000, .fixed⟩ none).drainAll.1.fault = some .overflow ∧
      ((Resampler.mk g .sum ⟨1000, .fixed⟩ none).handleAll
        [.seek (-4611686018427388000)]).drainAll.1.fault = some .overflow := by
  have hdrain : (Resampler.mk (fresh [⟨-4611686018427387904, .whole 0⟩,
      ⟨4611686018427387904, .whole 5⟩, ⟨4611686018428387904, .whole 12⟩] 0
      (some ⟨.monotonic, 9223372036854775807, 0⟩) (by decide : (0 : Word) < 1000)) .sum
      ⟨1000, .fixed⟩ none).drainAll.1.fault = some .overflow := by decide +kernel
  refine ⟨fun hall => ?_, _, make_of_pos (by decide), hdrain, by decide +kernel⟩
  -- the law has a fresh drain succeed, and this one does not
  obtain ⟨g, points, hmake, ⟨r', hpoints, -⟩, -⟩ := hall [⟨-4611686018427387904, .whole 0⟩,
    ⟨4611686018427387904, .whole 5⟩, ⟨4611686018428387904, .whole 12⟩] 1000 0
    ⟨.monotonic, 9223372036854775807, 0⟩ (by decide) (by decide) (by decide)
  obtain rfl := Except.ok.inj ((make_of_pos (by decide)).symm.trans hmake)
  rw [hpoints] at hdrain
  cases hdrain

end Grid

end TimeBuckets
