/-
Where buckets of one width lie.

* `startOf` — the start of the bucket of a time, as an exact number;
* `Fits` — words can hold both ends of the bucket of a time;
* `startOf_eq_iff`, `startOf_mono` — a later time is in the same bucket just if it is before the
  end of that bucket, and otherwise its bucket starts later;
* `le_startOf_iff` — the buckets that start at a time or later are those of the times from one
  bucket start on;
* `Grid.align_eq_ok_iff`, `Grid.bucketEnd_of_fits`, `Grid.exists_seekTarget` — the same in words.

Everything follows from the form `width * q - offset` of a bucket start, with `q` found by
flooring division, so that times before zero and offsets of either sign need no cases.
-/
import TimeBuckets.Cursor.Grid

namespace TimeBuckets

/-- The start of the bucket of a time, as an exact number. -/
def startOf (width offset time : Int) : Int := time - (time + offset) % width

section Exact

variable {width offset t u : Int}

theorem startOf_eq (width offset t : Int) :
    startOf width offset t = width * ((t + offset) / width) - offset := by
  have hdiv := Int.mul_ediv_add_emod (t + offset) width
  rw [startOf]
  omega

theorem startOf_le (hw : 0 < width) : startOf width offset t ≤ t := by
  have hnonneg := Int.emod_nonneg (t + offset) (Int.ne_of_gt hw)
  rw [startOf]
  omega

theorem lt_startOf_add (hw : 0 < width) : t < startOf width offset t + width := by
  have hlt := Int.emod_lt_of_pos (t + offset) hw
  rw [startOf]
  omega

/-- Later times have no earlier bucket. -/
theorem startOf_mono (hw : 0 < width) (h : t ≤ u) :
    startOf width offset t ≤ startOf width offset u := by
  have hdiv : (t + offset) / width ≤ (u + offset) / width :=
    Int.ediv_le_ediv hw (Int.add_le_add_right h offset)
  have hmul := Int.mul_le_mul_of_nonneg_left hdiv (Int.le_of_lt hw)
  rw [startOf_eq, startOf_eq]
  omega

/-- A time between the ends of a bucket is in that bucket. -/
theorem startOf_of_mem (hw : 0 < width) (hlow : startOf width offset t ≤ u)
    (hhigh : u < startOf width offset t + width) :
    startOf width offset u = startOf width offset t := by
  rw [startOf_eq] at hlow hhigh
  -- both quotients are the same, since the bucket is one width long
  have hge : (t + offset) / width ≤ (u + offset) / width := by
    rw [Int.le_ediv_iff_mul_le hw, Int.mul_comm]
    omega
  have hlt : (u + offset) / width < (t + offset) / width + 1 := by
    rw [Int.ediv_lt_iff_lt_mul hw, Int.add_mul, Int.one_mul, Int.mul_comm]
    omega
  have hdiv : (u + offset) / width = (t + offset) / width := by omega
  rw [startOf_eq, startOf_eq, hdiv]

/-- A later time is in the same bucket just if it is before the end of that bucket. -/
theorem startOf_eq_iff (hw : 0 < width) (h : t ≤ u) :
    startOf width offset u = startOf width offset t ↔ u < startOf width offset t + width := by
  constructor
  · intro heq
    rw [← heq]
    exact lt_startOf_add hw
  · intro hlt
    exact startOf_of_mem hw (Int.le_trans (startOf_le hw) h) hlt

theorem startOf_startOf (hw : 0 < width) :
    startOf width offset (startOf width offset t) = startOf width offset t :=
  startOf_of_mem hw (Int.le_refl _) (by omega)

/-- A time behind the end of a bucket has a bucket that starts behind it. -/
theorem add_le_startOf (hw : 0 < width) (h : startOf width offset t + width ≤ u) :
    startOf width offset t + width ≤ startOf width offset u := by
  have hmono : startOf width offset t ≤ startOf width offset u := by
    refine startOf_mono hw ?_
    have hlt : t < startOf width offset t + width := lt_startOf_add hw
    omega
  refine Int.not_lt.mp fun hlt => ?_
  have hsame : startOf width offset (startOf width offset u) = startOf width offset t :=
    startOf_of_mem hw hmono (by omega)
  rw [startOf_startOf hw] at hsame
  have hend : u < startOf width offset u + width := lt_startOf_add hw
  omega

/-- The first start of a bucket at a time `t` or later is that of the bucket of
`t + (width - 1)`. -/
theorem le_startOf_iff (hw : 0 < width) :
    t ≤ startOf width offset u ↔ startOf width offset (t + (width - 1)) ≤ u := by
  constructor
  · intro h
    have hmono : startOf width offset (t + (width - 1))
        ≤ startOf width offset (startOf width offset u + (width - 1)) :=
      startOf_mono hw (by omega)
    have hsame : startOf width offset (startOf width offset u + (width - 1))
        = startOf width offset u := startOf_of_mem hw (by omega) (by omega)
    have hle : startOf width offset u ≤ u := startOf_le hw
    omega
  · intro h
    have hmono : startOf width offset (startOf width offset (t + (width - 1)))
        ≤ startOf width offset u := startOf_mono hw h
    have hlt : t + (width - 1) < startOf width offset (t + (width - 1)) + width :=
      lt_startOf_add hw
    rw [startOf_startOf hw] at hmono
    omega

end Exact

/-! ### Buckets in words -/

/-- Words can hold both ends of the bucket of a time. -/
structure Fits (width offset time : Word) : Prop where
  least_le : Word.least ≤ startOf width.toInt offset.toInt time.toInt
  le_greatest : startOf width.toInt offset.toInt time.toInt + width.toInt ≤ Word.greatest

instance (width offset time : Word) : Decidable (Fits width offset time) :=
  decidable_of_iff (Word.least ≤ startOf width.toInt offset.toInt time.toInt ∧
      startOf width.toInt offset.toInt time.toInt + width.toInt ≤ Word.greatest)
    ⟨fun h => ⟨h.1, h.2⟩, fun h => ⟨h.least_le, h.le_greatest⟩⟩

namespace Grid

variable {g : Grid} {time : Word}

theorem width_toInt_pos (g : Grid) : 0 < g.width.toInt := Int64.lt_iff_toInt_lt.mp g.width_pos

theorem align_eq_ok_iff {w : Word} :
    g.align time = .ok w ↔ w.toInt = startOf g.width.toInt g.offset.toInt time.toInt := by
  have hstart : time.toInt - g.elapsed time = startOf g.width.toInt g.offset.toInt time.toInt := rfl
  rw [align, hstart]
  rcases h : Word.ofInt? (startOf g.width.toInt g.offset.toInt time.toInt) with _ | start
  · refine ⟨nofun, fun hw => ?_⟩
    rw [← Word.ofInt?_eq_some_iff, h] at hw
    exact absurd hw (by simp)
  · rw [Word.ofInt?_eq_some_iff] at h
    rw [← h, Int64.toInt_inj, Except.ok.injEq, eq_comm]

/-- A time comes before the end of its bucket. -/
theorem lt_of_bucketEnd {g : Grid} {t last : Word}
    (h : last.toInt = startOf g.width.toInt g.offset.toInt t.toInt + g.width.toInt) :
    t < last := by
  rw [Int64.lt_iff_toInt_lt, h]
  exact lt_startOf_add g.width_toInt_pos

theorem toInt_of_bucketEnd {last : Word} (h : g.bucketEnd time = .ok last) :
    last.toInt = startOf g.width.toInt g.offset.toInt time.toInt + g.width.toInt := by
  rw [bucketEnd] at h
  rcases halign : g.align time with fault | start
  · rw [halign] at h
    exact absurd h nofun
  · rw [halign] at h
    simp only [bind, Except.bind] at h
    rcases hlast : Word.ofInt? (start.toInt + g.width.toInt) with _ | last'
    · rw [hlast] at h
      exact absurd h nofun
    · rw [hlast] at h
      rw [← Except.ok.inj h, Word.ofInt?_eq_some_iff.mp hlast, align_eq_ok_iff.mp halign]

/-- Only words that are too small for it keep a bucket from being opened. -/
theorem bucketEnd_error {fault : Fault} (h : g.bucketEnd time = .error fault) :
    fault = .outOfRange time := by
  rw [bucketEnd] at h
  rcases halign : g.align time with cause | start
  · rw [halign] at h
    rw [align] at halign
    split at halign
    · exact absurd halign nofun
    · rw [← Except.error.inj h, ← Except.error.inj halign]
  · rw [halign] at h
    simp only [bind, Except.bind] at h
    split at h
    · exact absurd h nofun
    · exact (Except.error.inj h).symm

/-- The start of the bucket of a time, where a word can hold it. -/
def start (width offset time : Word) : Word :=
  Int64.ofInt (startOf width.toInt offset.toInt time.toInt)

theorem toInt_start {width offset : Word} (hw : 0 < width.toInt) (h : Fits width offset time) :
    (start width offset time).toInt = startOf width.toInt offset.toInt time.toInt := by
  have hgreatest := h.le_greatest
  exact Word.toInt_ofInt ⟨h.least_le, by omega⟩

theorem align_of_fits (h : Fits g.width g.offset time) :
    g.align time = .ok (start g.width g.offset time) :=
  align_eq_ok_iff.mpr (toInt_start g.width_toInt_pos h)

theorem bucketEnd_of_fits (h : Fits g.width g.offset time) :
    ∃ last : Word, g.bucketEnd time = .ok last ∧
      last.toInt = startOf g.width.toInt g.offset.toInt time.toInt + g.width.toInt := by
  have hpos := g.width_toInt_pos
  have hle := h.least_le
  have hlast := Word.ofInt?_eq_some_iff.mpr (Word.toInt_ofInt ⟨by omega, h.le_greatest⟩)
  refine ⟨_, ?_, Word.toInt_ofInt ⟨by omega, h.le_greatest⟩⟩
  simp only [bucketEnd, align_of_fits h, bind, Except.bind, toInt_start hpos h, hlast]

/-- The jump to a time goes to a bucket start, and the buckets that start at the time or later are
those of the times from there on.  Near the greatest word the sum is cut off, and then no bucket
that fits starts late enough. -/
theorem exists_seekTarget (g : Grid) (time : Word) :
    ∃ target, g.align (Word.clamp (time.toInt + (g.width.toInt - 1))) = .ok target ∧
      ∀ t, Fits g.width g.offset t → (target ≤ t ↔ time ≤ start g.width g.offset t) := by
  have hpos := g.width_toInt_pos
  have hwidth := Word.toInt_le_greatest g.width
  have hleast := Word.least_le_toInt time
  generalize hsum : time.toInt + (g.width.toInt - 1) = sum
  generalize hcut : min Word.greatest sum = top
  have htop : Word.least ≤ top ∧ top ≤ Word.greatest := by
    simp only [Word.least, Word.greatest] at *
    omega
  have hclamp : (Word.clamp sum).toInt = top := by
    rw [Word.clamp, hcut, Int.max_eq_right htop.1, Word.toInt_ofInt htop]
  have hlow : startOf g.width.toInt g.offset.toInt top ≤ top := startOf_le hpos
  have hhigh : top < startOf g.width.toInt g.offset.toInt top + g.width.toInt := lt_startOf_add hpos
  have hstart : Word.least ≤ startOf g.width.toInt g.offset.toInt top := by
    simp only [Word.least, Word.greatest] at *
    omega
  refine ⟨Int64.ofInt (startOf g.width.toInt g.offset.toInt top), ?_, fun t ht => ?_⟩
  · rw [align_eq_ok_iff, hclamp]
    exact Word.toInt_ofInt ⟨hstart, by omega⟩
  · rw [Int64.le_iff_toInt_le, Int64.le_iff_toInt_le, toInt_start hpos ht,
      Word.toInt_ofInt ⟨hstart, by omega⟩]
    by_cases hover : sum ≤ Word.greatest
    -- within the range nothing is cut off
    · obtain rfl : top = sum := by omega
      rw [← hsum, le_startOf_iff hpos]
    -- beyond it, a bucket that starts late enough would end behind the greatest word
    · have hgreatest := ht.le_greatest
      constructor
      · intro hle
        have hmono : startOf g.width.toInt g.offset.toInt (startOf g.width.toInt g.offset.toInt top)
            ≤ startOf g.width.toInt g.offset.toInt t.toInt := startOf_mono hpos hle
        rw [startOf_startOf hpos] at hmono
        omega
      · intro hle
        omega

end Grid

end TimeBuckets
