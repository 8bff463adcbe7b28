/-
Counters that roll over.

* `Counter.Overdrawn` — readings that go down by more than the counter can hold;
* `Counter.stepWord_nonneg_iff` — the amount between any other two readings is not negative;
* `Counter.not_overdrawn_of_le` — readings between zero and the greatest value are no such two;
* `Counter.amount_nonneg` — nothing negative is counted, restarts or not;
* `Counter.sums_not_negative` — nor does a bucket have a negative sum, over cursors of every shape
  and after any requests.

The greatest value is taken as it is given, and readings need not respect it.  A step down is held
for a roll over whatever its size, so that the amount is negative if the greatest value does not
make up for the step.
-/
import TimeBuckets.Proofs.Differences
import TimeBuckets.Proofs.Following
import TimeBuckets.Proofs.Signs

namespace TimeBuckets

namespace Counter

variable {c : Counter} {max a b : Word} {previous next : Sample}

/-! ### Two readings -/

/-- The readings go down by more than the greatest value, the step being taken as words take it, and
the sum of the two is one that a word holds. -/
def Overdrawn (max a b : Word) : Prop :=
  (b - a).toInt < 0 ∧ Word.least ≤ max.toInt + (b - a).toInt ∧ max.toInt + (b - a).toInt < 0

instance : Decidable (Overdrawn max a b) := inferInstanceAs (Decidable (_ ∧ _ ∧ _))

theorem stepWord_nonneg_iff : 0 ≤ stepWord max a b ↔ ¬ Overdrawn max a b := by
  rw [Int64.le_iff_toInt_le, Int64.toInt_zero, Overdrawn]
  by_cases hneg : b - a < 0
  · have hstep : (b - a).toInt < 0 := Int64.lt_iff_toInt_lt.mp hneg
    have hleast := Word.least_le_toInt (b - a)
    have hmin := Word.least_le_toInt max
    have hmax := Word.toInt_le_greatest max
    rw [stepWord_of_neg hneg, Int64.toInt_add, Int.bmod_def]
    simp only [Word.least, Word.greatest] at hleast hmin hmax ⊢
    omega
  · have hstep : 0 ≤ (b - a).toInt := Int64.le_iff_toInt_le.mp (Int64.not_lt.mp hneg)
    rw [stepWord, if_neg hneg]
    omega

/-- Readings that respect the greatest value are not overdrawn. -/
theorem not_overdrawn_of_le (ha : 0 ≤ a) (hmax : a ≤ max) (hb : 0 ≤ b) : ¬ Overdrawn max a b := by
  rintro ⟨-, -, hnegative⟩
  have ha' : 0 ≤ a.toInt := Int64.le_iff_toInt_le.mp ha
  have hb' : 0 ≤ b.toInt := Int64.le_iff_toInt_le.mp hb
  have hle : a.toInt ≤ max.toInt := Int64.le_iff_toInt_le.mp hmax
  have hga := Word.toInt_le_greatest a
  have hgb := Word.toInt_le_greatest b
  rw [Int64.toInt_sub, Int.bmod_def] at hnegative
  simp only [Word.greatest] at hga hgb
  omega

/-! ### Two samples -/

/-- Both readings are whole ones, and the second one is not overdrawn. -/
def Covers (max : Word) (pair : Pair) : Prop :=
  ∃ a b, pair.previous.reading = .whole a ∧ pair.current.reading = .whole b ∧ ¬ Overdrawn max a b

/-- Nothing negative is counted, whatever counts as a restart. -/
theorem amount_nonneg (hkind : c.kind = .monotonic) {pair : Pair} (h : Covers c.max pair) :
    0 ≤ c.amount pair.previous pair.current := by
  obtain ⟨a, b, ha, hb, hcovered⟩ := h
  have hstep : 0 ≤ step c.max pair.previous.reading pair.current.reading := by
    rw [ha, hb]
    exact Double.toReal_nonneg (stepWord_nonneg_iff.mpr hcovered)
  rw [amount, hkind]
  dsimp only
  split
  · exact Double.zero_le_iff.mpr (.zero _)
  · exact hstep

/-! ### Sums of buckets -/

/-- A counter that only goes up moves by a negative amount just between readings that are overdrawn,
which readings from zero to its greatest value never are.  Where no sample is overdrawn against the
one that it follows, no bucket has a negative sum, whatever cursor of whatever shape lies over
whatever feed, and after any requests. -/
theorem sums_not_negative (hkind : c.kind = .monotonic) :
    (∀ a b, 0 ≤ stepWord c.max a b ↔ ¬ Overdrawn c.max a b) ∧
    (∀ a b, 0 ≤ a → a ≤ c.max → 0 ≤ b → ¬ Overdrawn c.max a b) ∧
    ∀ (feed : Feed) (cursor : AnyCursor), Stack feed (some c) cursor →
      (∀ pair, IsNext feed.samples.toList pair → Covers c.max pair) →
      ∀ (interval : Interval) (requests : List Request) (point : Point)
        (r' : Resampler cursor.shape.State),
        ((Resampler.mk cursor.cursor .sum interval none).handleAll requests).nextPoint
            = .ok point r' → 0 ≤ point.value := by
  refine ⟨fun a b => stepWord_nonneg_iff, fun a b => not_overdrawn_of_le, ?_⟩
  intro feed cursor hstack hcovers interval requests point r' hpoint
  have hsteady : Steady (cursor.shape.Compares c feed.samples.toList) :=
    cursor.shape.steady_compares
  obtain ⟨hreached, hsum⟩ := hsteady.toKept.handleAll
    (r := Resampler.mk cursor.cursor .sum interval none) hstack.compares requests
  obtain ⟨values, hvalues, htotal⟩ := (Resampler.returns_nextPoint hsteady.hasValue
    cursor.shape.returns_nextValue hsteady.openNext .sum).of_ok ⟨hreached, hsum⟩ hpoint
  refine Double.sum_nonneg (fun v hv => ?_) htotal
  obtain ⟨pair, hisNext, hdelta⟩ := hvalues v hv
  rw [← eq_amount_of_delta hdelta]
  exact amount_nonneg hkind (hcovers pair hisNext)

/-- A counter up to a hundred that rolls over between the first two of three samples. -/
theorem sums_not_negative_of_three :
    ∃ (g : Grid) (point : Point) (r' : Resampler Grid),
      Grid.make (.ofSamples [⟨0, .whole 90⟩, ⟨1000, .whole 20⟩, ⟨2000, .whole 60⟩]) 1000 0
          (some ⟨.monotonic, 100, 0⟩) = .ok g ∧
        ((Resampler.mk g .sum ⟨1000, .fixed⟩ none).handleAll [.hasNext]).nextPoint = .ok point r' ∧
        point.value = 30 ∧ 0 ≤ point.value := by
  have hcovers : ∀ pair, IsNext [⟨0, .whole 90⟩, ⟨1000, .whole 20⟩, ⟨2000, .whole 60⟩] pair →
      Covers 100 pair := by
    intro pair hisNext
    have hmem := mem_pairs_of_isNext (by decide) hisNext
    rcases List.mem_cons.mp hmem with rfl | hmem
    · exact ⟨90, 20, rfl, rfl, by decide⟩
    · obtain rfl := List.mem_singleton.mp hmem
      exact ⟨20, 60, rfl, rfl, by decide⟩
  obtain ⟨-, -, hsums⟩ := sums_not_negative (c := ⟨.monotonic, 100, 0⟩) rfl
  have hpoint : ∃ point r', ((Resampler.mk (Grid.fresh [⟨0, .whole 90⟩, ⟨1000, .whole 20⟩,
      ⟨2000, .whole 60⟩] 0 (some ⟨.monotonic, 100, 0⟩) (by decide : (0 : Word) < 1000)) .sum
      ⟨1000, .fixed⟩ none).handleAll [.hasNext]).nextPoint = .ok point r' ∧ point.value = 30 :=
    ⟨_, _, rfl, rfl⟩
  obtain ⟨point, r', hpoint, hvalue⟩ := hpoint
  exact ⟨_, point, r', Grid.make_of_pos (by decide), hpoint, hvalue,
    hsums _ (.grid _) (.grid (Grid.make_of_pos (by decide))) hcovers ⟨1000, .fixed⟩ [.hasNext]
      point r' hpoint⟩

/-- With a greatest value of a thousand, the step from 5000 down to 10 counts for less than nothing,
and is the sum of its bucket. -/
theorem sums_below_zero_of_two :
    (¬ ∀ (text : String) (options : RateOptions) (c : Counter),
      RateOptions.parse text = .ok options → options.counter? = some c → c.kind = .monotonic →
        ∀ a b, 0 ≤ stepWord c.max a b) ∧
    RateOptions.parse "counter,1000" = .ok ⟨true, .monotonic, 1000, 0⟩ ∧ ∃ r : Resampler Grid,
      AnyResampler.build (.ofSamples [⟨0, .whole 5000⟩, ⟨1, .whole 10⟩]) (.fixed 1000) .sum .utc
          ⟨true, .monotonic, 1000, 0⟩ = .ok ⟨.grid, r⟩ ∧
        ∃ point r', r.nextPoint = .ok point r' ∧ point.value = -3990 := by
  have hparse : RateOptions.parse "counter,1000" = .ok ⟨true, .monotonic, 1000, 0⟩ := by
    decide +kernel
  have hpoint : ∃ point r', Resampler.nextPoint (⟨Grid.fresh [⟨0, .whole 5000⟩, ⟨1, .whole 10⟩] 0
      (some ⟨.monotonic, 1000, 0⟩) (by decide : (0 : Word) < 1000), .sum, .fixed 1000, none⟩ :
      Resampler Grid) = .ok point r' ∧ point.value = -3990 := ⟨_, _, rfl, rfl⟩
  refine ⟨fun hall => ?_, hparse, _, rfl, hpoint⟩
  exact absurd (hall _ _ _ hparse rfl rfl 5000 10) (by decide)

end Counter

end TimeBuckets
