/-
Rounding to the edges of buckets is exact, up to both ends of words.

* `isGreatest_startOf`, `isLeast_startOf` — the start of the bucket of a time is the last edge that
  is not behind the time, and that of the time one width later, less one, is the first edge that is
  not before it;
* `Grid.align_eq_error_iff`, `Grid.bucketEnd_eq_ok_iff`, `Grid.bucketEnd_eq_error_iff` — what a grid
  gives for the two ends of a bucket, and when it gives a fault;
* `Grid.RoundsDown`, `Grid.JumpsTo` — the rules for the bucket of a time, and for a jump to one;
* `Grid.rounds_exactly` — every grid follows both rules at every time.

The exact sum behind a jump can lie beyond the greatest word, and is then cut off there.  A width is
a word, so that one of the last `width` words is an edge: rounding down from the greatest word finds
it, and a jump never fails by itself.
-/
import Mathlib.Order.Bounds.Defs
import TimeBuckets.Proofs.Seek

namespace TimeBuckets

/-! ### Edges as exact numbers -/

section Exact

variable {width offset t e : Int}

theorem dvd_startOf_add (width offset t : Int) : width ∣ startOf width offset t + offset := by
  refine ⟨(t + offset) / width, ?_⟩
  rw [startOf_eq]
  omega

/-- An edge is the start of its own bucket. -/
theorem startOf_of_dvd (h : width ∣ e + offset) : startOf width offset e = e := by
  rw [startOf, Int.emod_eq_zero_of_dvd h, Int.sub_zero]

/-- The bucket of a time starts with the last edge that is not behind the time. -/
theorem isGreatest_startOf (hw : 0 < width) :
    IsGreatest {e | e ≤ t ∧ width ∣ e + offset} (startOf width offset t) := by
  refine ⟨⟨startOf_le hw, dvd_startOf_add width offset t⟩, fun e he => ?_⟩
  rw [← startOf_of_dvd he.2]
  exact startOf_mono hw he.1

/-- The first edge that is not before a time starts the bucket of the time one width later, less
one. -/
theorem isLeast_startOf (hw : 0 < width) :
    IsLeast {e | t ≤ e ∧ width ∣ e + offset} (startOf width offset (t + (width - 1))) := by
  have hlt : t + (width - 1) < startOf width offset (t + (width - 1)) + width :=
    lt_startOf_add hw
  refine ⟨⟨by omega, dvd_startOf_add width offset _⟩, fun e he => ?_⟩
  refine (le_startOf_iff hw).mp ?_
  rw [startOf_of_dvd he.2]
  exact he.1

end Exact

theorem Word.ofInt?_eq_none_iff {n : Int} :
    Word.ofInt? n = none ↔ ¬ (Word.least ≤ n ∧ n ≤ Word.greatest) := by
  rw [Word.ofInt?]
  split
  · rename_i h
    exact iff_of_false (Option.some_ne_none _) (not_not_intro h)
  · rename_i h
    exact iff_of_true rfl h

namespace Grid

variable {g g' : Grid} {t last : Word} {fault : Fault}

/-! ### The ends of a bucket -/

/-- The start of a bucket is never too great for a word, so that only a start below the least one
gives a fault. -/
theorem align_eq_error_iff :
    g.align t = .error fault ↔
      startOf g.width.toInt g.offset.toInt t.toInt < Word.least ∧ fault = .outOfRange t := by
  have hle : startOf g.width.toInt g.offset.toInt t.toInt ≤ t.toInt := startOf_le g.width_toInt_pos
  have hgreatest := Word.toInt_le_greatest t
  rw [align, show t.toInt - g.elapsed t = startOf g.width.toInt g.offset.toInt t.toInt from rfl]
  rcases h : Word.ofInt? (startOf g.width.toInt g.offset.toInt t.toInt) with _ | start
  · rw [Word.ofInt?_eq_none_iff] at h
    constructor
    · intro hfault
      exact ⟨by omega, (Except.error.inj hfault).symm⟩
    · rintro ⟨-, rfl⟩
      rfl
  · rw [Word.ofInt?_eq_some_iff] at h
    constructor
    · intro hfault
      cases hfault
    · rintro ⟨hlow, -⟩
      have hleast := Word.least_le_toInt start
      omega

theorem bucketEnd_eq_ok_iff :
    g.bucketEnd t = .ok last ↔
      Fits g.width g.offset t ∧
        last.toInt = startOf g.width.toInt g.offset.toInt t.toInt + g.width.toInt := by
  constructor
  · intro h
    have hlast := toInt_of_bucketEnd h
    refine ⟨⟨?_, hlast ▸ Word.toInt_le_greatest last⟩, hlast⟩
    -- the end comes from a start that is a word itself
    rcases halign : g.align t with fault | start
    · rw [bucketEnd, halign] at h
      cases h
    · rw [← align_eq_ok_iff.mp halign]
      exact Word.least_le_toInt start
  · rintro ⟨hfits, hlast⟩
    obtain ⟨last', hend, hlast'⟩ := bucketEnd_of_fits hfits
    rw [hend, ← Int64.toInt_inj.mp (hlast'.trans hlast.symm)]

theorem bucketEnd_eq_error_iff :
    g.bucketEnd t = .error fault ↔ ¬ Fits g.width g.offset t ∧ fault = .outOfRange t := by
  constructor
  · intro h
    refine ⟨fun hfits => ?_, bucketEnd_error h⟩
    obtain ⟨last, hend, -⟩ := bucketEnd_of_fits hfits
    rw [hend] at h
    cases h
  · rintro ⟨hfits, rfl⟩
    rcases hend : g.bucketEnd t with fault | last
    · rw [bucketEnd_error hend]
    · exact absurd (bucketEnd_eq_ok_iff.mp hend).1 hfits

/-- A boundary at the end of the bucket of a time gives back the start of this bucket. -/
theorem bucketTime_of_bucketEnd (h : g.bucketEnd t = .ok last) :
    ∃ start : Word, bucketTime { g with boundary := last } = .ok start ∧
      start.toInt = startOf g.width.toInt g.offset.toInt t.toInt := by
  obtain ⟨hfits, hlast⟩ := bucketEnd_eq_ok_iff.mp h
  have hstart := toInt_start g.width_toInt_pos hfits
  have hback : Word.ofInt? (last.toInt - g.width.toInt) = some (start g.width g.offset t) := by
    rw [Word.ofInt?_eq_some_iff, hlast, hstart]
    omega
  refine ⟨start g.width g.offset t, ?_, hstart⟩
  rw [bucketTime]
  simp only [hback]
  refine align_eq_ok_iff.mpr ?_
  rw [hstart, startOf_startOf g.width_toInt_pos]

/-- Once a bucket is opened, it stands under the start of the bucket of the held sample. -/
theorem bucketTime_of_openBucket (h : openBucket g = .ok () g') :
    ∀ s ∈ g'.phase.held?, ∃ start : Word, g'.bucketTime = .ok start ∧
      start.toInt = startOf g.width.toInt g.offset.toInt s.time.toInt := by
  intro s hs
  rcases hphase : g.phase with _ | held | _
  · rw [openBucket, hphase] at h
    obtain ⟨-, rfl⟩ := EStateM.Result.ok.inj h
    rw [hphase] at hs
    exact absurd hs (Option.not_mem_none s)
  · rcases hend : g.bucketEnd held.time with fault | last
    · simp only [openBucket, hphase, hend] at h
      cases h
    · simp only [openBucket, hphase, hend] at h
      obtain ⟨-, rfl⟩ := EStateM.Result.ok.inj h
      obtain rfl : held = s := Option.some.inj hs
      exact bucketTime_of_bucketEnd hend
  · rw [openBucket, hphase] at h
    obtain ⟨-, rfl⟩ := EStateM.Result.ok.inj h
    rw [hphase] at hs
    exact absurd hs (Option.not_mem_none s)

/-- What no operation changes stays when reading ahead: the width and the offset among it. -/
theorem width_offset_of_keeps {run : EStateM Fault Grid Unit}
    (hrun : ∀ g₀, Keeps (fun g : Grid => g.rewound = g₀) run) (h : run g = .ok () g') :
    g'.width = g.width ∧ g'.offset = g.offset := by
  have hkept := hrun g.rewound g rfl
  rw [after_of_ok h] at hkept
  exact ⟨(congrArg Grid.width hkept :), (congrArg Grid.offset hkept :)⟩

/-- The first time that a grid is asked, it opens the bucket of the first sample. -/
theorem bucketTime_of_hasValue {more : Bool} (hphase : g.phase = .unread)
    (h : hasValue g = .ok more g') :
    ∀ s ∈ g'.phase.held?, ∃ start : Word, g'.bucketTime = .ok start ∧
      start.toInt = startOf g.width.toInt g.offset.toInt s.time.toInt := by
  obtain ⟨_, g₂, hfill, hask⟩ := of_bind_ok h
  obtain ⟨-, rfl⟩ := EStateM.Result.ok.inj hask
  rw [fill, get_bind, hphase] at hfill
  obtain ⟨_, g₁, hpull, hopen⟩ := of_bind_ok hfill
  obtain ⟨hwidth, hoffset⟩ := width_offset_of_keeps (fun _ => keeps_pull) hpull
  rw [← hwidth, ← hoffset]
  exact bucketTime_of_openBucket hopen

theorem bucketTime_of_openNext (h : openNext g = .ok () g') :
    ∀ s ∈ g'.phase.held?, ∃ start : Word, g'.bucketTime = .ok start ∧
      start.toInt = startOf g.width.toInt g.offset.toInt s.time.toInt := by
  -- the bucket is opened anew, whether reading ahead has just opened it or not
  obtain ⟨_, g₁, hfill, hopen⟩ := of_bind_ok h
  obtain ⟨hwidth, hoffset⟩ := width_offset_of_keeps (fun _ => keeps_fill) hfill
  rw [← hwidth, ← hoffset]
  exact bucketTime_of_openBucket hopen

/-! ### Both rules -/

/-- The bucket of a time starts with the last edge that is not behind it and is one width long.
Both ends are given whenever words can hold them, otherwise a fault with the time; and a bucket that
was opened stands under its start. -/
structure RoundsDown (g : Grid) (t : Word) : Prop where
  isGreatest : IsGreatest {e | e ≤ t.toInt ∧ g.width.toInt ∣ e + g.offset.toInt}
    (t.toInt - (t.toInt + g.offset.toInt) % g.width.toInt)
  align_ok (start : Word) : g.align t = .ok start ↔
    start.toInt = t.toInt - (t.toInt + g.offset.toInt) % g.width.toInt
  align_error (fault : Fault) : g.align t = .error fault ↔
    t.toInt - (t.toInt + g.offset.toInt) % g.width.toInt < Word.least ∧ fault = .outOfRange t
  bucketEnd_ok (last : Word) : g.bucketEnd t = .ok last ↔
    Fits g.width g.offset t ∧
      last.toInt = t.toInt - (t.toInt + g.offset.toInt) % g.width.toInt + g.width.toInt
  bucketEnd_error (fault : Fault) : g.bucketEnd t = .error fault ↔
    ¬ Fits g.width g.offset t ∧ fault = .outOfRange t
  bucketTime (last : Word) : g.bucketEnd t = .ok last →
    ∃ start : Word, Grid.bucketTime { g with boundary := last } = .ok start ∧
      start.toInt = t.toInt - (t.toInt + g.offset.toInt) % g.width.toInt
  begun (more : Bool) (g' : Grid) : g.phase = .unread → hasValue g = .ok more g' →
    ∀ s ∈ g'.phase.held?, s.time = t → ∃ start : Word, g'.bucketTime = .ok start ∧
      start.toInt = t.toInt - (t.toInt + g.offset.toInt) % g.width.toInt
  opened (g' : Grid) : openNext g = .ok () g' → ∀ s ∈ g'.phase.held?, s.time = t →
    ∃ start : Word, g'.bucketTime = .ok start ∧
      start.toInt = t.toInt - (t.toInt + g.offset.toInt) % g.width.toInt

/-- The target is the first edge that is not before the time, or, if that may lie beyond the
greatest word, the last edge that is a word. -/
structure JumpsTo (g : Grid) (t target : Word) : Prop where
  isLeast : t.toInt + g.width.toInt - 1 ≤ Word.greatest →
    IsLeast {e | t.toInt ≤ e ∧ g.width.toInt ∣ e + g.offset.toInt} target.toInt
  isGreatest : Word.greatest < t.toInt + g.width.toInt - 1 →
    IsGreatest {e | Word.least ≤ e ∧ e ≤ Word.greatest ∧ g.width.toInt ∣ e + g.offset.toInt}
      target.toInt

theorem roundsDown (g : Grid) (t : Word) : RoundsDown g t where
  isGreatest := isGreatest_startOf g.width_toInt_pos
  align_ok _ := align_eq_ok_iff
  align_error _ := align_eq_error_iff
  bucketEnd_ok _ := bucketEnd_eq_ok_iff
  bucketEnd_error _ := bucketEnd_eq_error_iff
  bucketTime _ := bucketTime_of_bucketEnd
  begun _ _ hphase h s hs := fun ht => ht ▸ bucketTime_of_hasValue hphase h s hs
  opened _ h s hs := fun ht => ht ▸ bucketTime_of_openNext h s hs

/-- The start that a jump asks for is always a word. -/
theorem exists_jumpsTo (g : Grid) (t : Word) :
    ∃ target, g.align (Word.clamp (t.toInt + (g.width.toInt - 1))) = .ok target ∧
      JumpsTo g t target := by
  have hpos := g.width_toInt_pos
  have hwidth := Word.toInt_le_greatest g.width
  have hleast := Word.least_le_toInt t
  by_cases hover : t.toInt + g.width.toInt - 1 ≤ Word.greatest
  · have hclamp : (Word.clamp (t.toInt + (g.width.toInt - 1))).toInt
        = t.toInt + (g.width.toInt - 1) := by
      rw [Word.clamp, Int.min_eq_right (by omega), Int.max_eq_right (by omega)]
      exact Word.toInt_ofInt ⟨by omega, by omega⟩
    have hfirst : IsLeast {e | t.toInt ≤ e ∧ g.width.toInt ∣ e + g.offset.toInt} _ :=
      isLeast_startOf hpos
    have hle : startOf g.width.toInt g.offset.toInt (t.toInt + (g.width.toInt - 1))
        ≤ t.toInt + (g.width.toInt - 1) := startOf_le hpos
    have hword := Word.toInt_ofInt
      (n := startOf g.width.toInt g.offset.toInt (t.toInt + (g.width.toInt - 1)))
      ⟨Int.le_trans hleast hfirst.1.1, by omega⟩
    refine ⟨_, align_eq_ok_iff.mpr (hword.trans (by rw [hclamp])), fun _ => ?_, fun h => ?_⟩
    · rwa [hword]
    · omega
  -- the sum is cut off, and the last edge is less than a width below the greatest word
  · have hclamp : (Word.clamp (t.toInt + (g.width.toInt - 1))).toInt = Word.greatest := by
      rw [Word.clamp, Int.min_eq_left (by omega), Int.max_eq_right (by decide)]
      exact Word.toInt_ofInt ⟨by decide, Int.le_refl _⟩
    have hlast : IsGreatest {e | e ≤ Word.greatest ∧ g.width.toInt ∣ e + g.offset.toInt} _ :=
      isGreatest_startOf hpos
    have hlt : Word.greatest < startOf g.width.toInt g.offset.toInt Word.greatest + g.width.toInt :=
      lt_startOf_add hpos
    have hlow : Word.least ≤ startOf g.width.toInt g.offset.toInt Word.greatest := by
      simp only [Word.least, Word.greatest] at *
      omega
    have hword := Word.toInt_ofInt
      (n := startOf g.width.toInt g.offset.toInt Word.greatest) ⟨hlow, hlast.1.1⟩
    refine ⟨_, align_eq_ok_iff.mpr (hword.trans (by rw [hclamp])), fun h => ?_, fun _ => ?_⟩
    · omega
    · rw [hword]
      exact ⟨⟨hlow, hlast.1⟩, fun e he => hlast.2 he.2⟩

/-- At every time the ends of buckets are exact, or faults where words cannot hold them; and a jump
goes to the nearest edge from the time on that is a word, and fails only if the feed cannot jump. -/
theorem rounds_exactly (g : Grid) (t : Word) (hseek : g.feed.seekFault = none) :
    RoundsDown g t ∧
      ∃ target, JumpsTo g t target ∧
        seek t g = .ok () { g with
          feed := { g.feed with position := Feed.lowerBound g.feed.samples target }
          phase := .unread } := by
  obtain ⟨target, halign, hjump⟩ := exists_jumpsTo g t
  refine ⟨roundsDown g t, target, hjump, ?_⟩
  have hfeed : Feed.seek target g.feed
      = .ok () { g.feed with position := Feed.lowerBound g.feed.samples target } := by
    simp only [Feed.seek, hseek]
  rw [seek_of_align halign, reposition_of_ok hfeed]

/-- Buckets as wide as words allow, with edges at 1 - 2 ^ 63, 0 and 2 ^ 63 - 1, and a jump to the
last edge of all. -/
theorem rounds_exactly_of_widest :
    (fresh [⟨9223372036854775807, .whole 1⟩] 0 none
        (by decide : (0 : Word) < 9223372036854775807)).feed.seekFault = none ∧
      RoundsDown (fresh [⟨9223372036854775807, .whole 1⟩] 0 none
          (by decide : (0 : Word) < 9223372036854775807)) 9223372036854775807 ∧
        ∃ target, JumpsTo (fresh [⟨9223372036854775807, .whole 1⟩] 0 none
            (by decide : (0 : Word) < 9223372036854775807)) 9223372036854775807 target ∧
          seek 9223372036854775807 (fresh [⟨9223372036854775807, .whole 1⟩] 0 none
              (by decide : (0 : Word) < 9223372036854775807))
            = .ok () { fresh [⟨9223372036854775807, .whole 1⟩] 0 none
                (by decide : (0 : Word) < 9223372036854775807) with
              feed := { Feed.ofSamples [⟨9223372036854775807, .whole 1⟩] with
                position := Feed.lowerBound #[⟨9223372036854775807, .whole 1⟩] target }
              phase := .unread } :=
  ⟨rfl, rounds_exactly (fresh [⟨9223372036854775807, .whole 1⟩] 0 none (by decide))
    9223372036854775807 rfl⟩

end Grid

end TimeBuckets
