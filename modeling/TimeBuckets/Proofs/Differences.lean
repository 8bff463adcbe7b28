/-
Counters see differences only.

* `Counter.stepWord_of_neg`, `Counter.step_congr`, `Counter.difference_congr` — what lies between
  two whole readings is a function of their difference as words;
* `Counter.toInt_stepWord_of_le` — readings that go up by what a word holds are subtracted exactly;
* `Counter.toInt_stepWord_of_rollsOver` — the step of a roll over is exact too, and less than the
  greatest value;
* `Counter.delta_by_difference` — so that the size of the readings does not matter.

The difference is the word that subtraction leaves, which shifting both readings does not change,
even if it takes only one of them past the end of the words.
-/
import TimeBuckets.Rate

namespace TimeBuckets

namespace Counter

variable {c : Counter} {max a b a' b' : Word}

/-! ### Readings with the same difference -/

/-- A roll over adds the greatest value to the step. -/
theorem stepWord_of_neg (h : b - a < 0) : stepWord max a b = max + (b - a) := by
  rw [stepWord, if_pos h]
  grind

theorem stepWord_congr (h : b - a = b' - a') : stepWord max a b = stepWord max a' b' := by
  by_cases hneg : b - a < 0
  · rw [stepWord_of_neg hneg, stepWord_of_neg (h ▸ hneg), h]
  · rw [stepWord, stepWord, if_neg hneg, if_neg (h ▸ hneg), h]

theorem step_congr (h : b - a = b' - a') :
    step max (.whole a) (.whole b) = step max (.whole a') (.whole b') :=
  congrArg Word.toReal (stepWord_congr h)

theorem difference_congr (h : b - a = b' - a') :
    difference (.whole a) (.whole b) = difference (.whole a') (.whole b') :=
  congrArg Word.toReal h

theorem amount_congr (c : Counter) (t₀ t₁ : Word) (h : b - a = b' - a') :
    c.amount ⟨t₀, .whole a⟩ ⟨t₁, .whole b⟩ = c.amount ⟨t₀, .whole a'⟩ ⟨t₁, .whole b'⟩ := by
  rcases hkind : c.kind with _ | _ | _
  · simp only [amount, hkind, step_congr h]
    rfl
  · simp only [amount, hkind, difference_congr h]
  · simp only [amount, hkind, difference_congr h]

/-- Samples at the same times count for the same if their readings have the same difference. -/
theorem delta_congr (c : Counter) (t₀ t₁ : Word) (h : b - a = b' - a') :
    c.delta ⟨t₀, .whole a⟩ ⟨t₁, .whole b⟩ = c.delta ⟨t₀, .whole a'⟩ ⟨t₁, .whole b'⟩ := by
  rw [delta, delta, amount_congr c t₀ t₁ h]
  rfl

/-- Moving both readings by the same amount leaves their difference. -/
theorem sub_shift (a b k : Word) : (b + k) - (a + k) = b - a := by
  grind

/-! ### Exact amounts -/

/-- Words are subtracted exactly if a word holds what is left. -/
theorem toInt_sub_of_fits (hleast : Word.least ≤ b.toInt - a.toInt)
    (hgreatest : b.toInt - a.toInt ≤ Word.greatest) : (b - a).toInt = b.toInt - a.toInt := by
  rw [← Word.toInt_ofInt ⟨hleast, hgreatest⟩]
  simp only [Int64.ofInt_sub, Int64.ofInt_toInt]

/-- Readings that go up by what a word holds are subtracted exactly. -/
theorem toInt_stepWord_of_le (hle : a ≤ b) (hfits : b.toInt - a.toInt ≤ Word.greatest) :
    (stepWord max a b).toInt = b.toInt - a.toInt := by
  have hnonneg : 0 ≤ b.toInt - a.toInt := Int.sub_nonneg.mpr (Int64.le_iff_toInt_le.mp hle)
  have hexact : (b - a).toInt = b.toInt - a.toInt :=
    toInt_sub_of_fits (Int.le_trans (by decide) hnonneg) hfits
  have hup : ¬ b - a < 0 := Int64.not_lt.mpr (Int64.le_iff_toInt_le.mpr (hexact ▸ hnonneg))
  rw [stepWord, if_neg hup, hexact]

/-- The readings are between zero and the greatest value, and the second one is lower. -/
structure RollsOver (max a b : Word) : Prop where
  nonneg : 0 ≤ b
  lower : b < a
  le_max : a ≤ max

/-- The step of a roll over is exact, and so is what was left up to the greatest value. -/
theorem toInt_stepWord_of_rollsOver (h : RollsOver max a b) :
    (max - a).toInt = max.toInt - a.toInt ∧
      (stepWord max a b).toInt = max.toInt - a.toInt + b.toInt ∧
      0 ≤ (stepWord max a b).toInt ∧ (stepWord max a b).toInt < max.toInt := by
  have hb : 0 ≤ b.toInt := Int64.le_iff_toInt_le.mp h.nonneg
  have hlower : b.toInt < a.toInt := Int64.lt_iff_toInt_lt.mp h.lower
  have hle : a.toInt ≤ max.toInt := Int64.le_iff_toInt_le.mp h.le_max
  have ha := Word.toInt_le_greatest a
  have hmax := Word.toInt_le_greatest max
  simp only [Word.greatest] at ha hmax
  -- both differences fit because all three readings lie between zero and the greatest value
  have hdown : (b - a).toInt = b.toInt - a.toInt := by
    apply toInt_sub_of_fits <;> simp only [Word.least, Word.greatest] <;> omega
  have hneg : b - a < 0 := by
    rw [Int64.lt_iff_toInt_lt, hdown]
    exact Int.sub_neg_of_lt hlower
  have hleft : (max - a).toInt = max.toInt - a.toInt := by
    apply toInt_sub_of_fits <;> simp only [Word.least, Word.greatest] <;> omega
  have hstep : (stepWord max a b).toInt = max.toInt - a.toInt + b.toInt := by
    rw [stepWord, if_pos hneg, ← Word.toInt_ofInt (n := max.toInt - a.toInt + b.toInt)
      (by simp only [Word.least, Word.greatest]; omega)]
    simp only [Int64.ofInt_add, Int64.ofInt_sub, Int64.ofInt_toInt]
  exact ⟨hleft, hstep, by omega, by omega⟩

/-- What is counted for an exact amount between two times by a counter that only goes up, if a word
holds the time between them. -/
def counted (c : Counter) (amount : Int) (t₀ t₁ : Word) : Except Fault Float :=
  match Word.ofInt? (t₁.toInt - t₀.toInt) with
  | none => .error .overflow
  | some elapsed =>
    .ok (if c.isRestart (Float.ofInt amount) elapsed.toInt then 0 else Float.ofInt amount)

theorem delta_of_monotonic (hkind : c.kind = .monotonic) (t₀ t₁ a b : Word) :
    c.delta ⟨t₀, .whole a⟩ ⟨t₁, .whole b⟩ = c.counted (stepWord c.max a b).toInt t₀ t₁ := by
  rw [delta, clocks, amount, counted, hkind]
  dsimp only [Sample.since]
  obtain hnone | ⟨elapsed, hsome⟩ := Option.eq_none_or_eq_some (Word.ofInt? (t₁.toInt - t₀.toInt))
  · simp only [hnone]
    rfl
  · simp only [hsome, Word.ofInt?_eq_some_iff.mp hsome]
    rfl

/-- What is counted between two whole readings is a function of their difference as words, whatever
the kind of the counter, so that it does not change if both readings are moved by the same word.  A
counter that only goes up turns an exact amount into a double once, wherever the time between the
readings can be told: the difference of readings that go up by what a word holds, and what a roll
over adds up to. -/
theorem delta_by_difference (c : Counter) (t₀ t₁ a b : Word) :
    (∀ a' b', b - a = b' - a' →
      c.delta ⟨t₀, .whole a⟩ ⟨t₁, .whole b⟩ = c.delta ⟨t₀, .whole a'⟩ ⟨t₁, .whole b'⟩) ∧
    (∀ k, c.delta ⟨t₀, .whole a⟩ ⟨t₁, .whole b⟩ =
      c.delta ⟨t₀, .whole (a + k)⟩ ⟨t₁, .whole (b + k)⟩) ∧
    (c.kind = .monotonic → a ≤ b → b.toInt - a.toInt ≤ Word.greatest →
      (stepWord c.max a b).toInt = b.toInt - a.toInt ∧
        c.delta ⟨t₀, .whole a⟩ ⟨t₁, .whole b⟩ = c.counted (b.toInt - a.toInt) t₀ t₁) ∧
    (c.kind = .monotonic → 0 ≤ b → b < a → a ≤ c.max →
      (c.max - a).toInt = c.max.toInt - a.toInt ∧
        (stepWord c.max a b).toInt = c.max.toInt - a.toInt + b.toInt ∧
        0 ≤ (stepWord c.max a b).toInt ∧ (stepWord c.max a b).toInt < c.max.toInt ∧
        c.delta ⟨t₀, .whole a⟩ ⟨t₁, .whole b⟩ =
          c.counted (c.max.toInt - a.toInt + b.toInt) t₀ t₁) := by
  refine ⟨fun a' b' h => delta_congr c t₀ t₁ h, fun k => ?_, fun hkind hle hfits => ?_,
    fun hkind hnonneg hlower hmax => ?_⟩
  · exact delta_congr c t₀ t₁ (sub_shift a b k).symm
  · have hexact : (stepWord c.max a b).toInt = b.toInt - a.toInt := toInt_stepWord_of_le hle hfits
    exact ⟨hexact, hexact ▸ delta_of_monotonic hkind t₀ t₁ a b⟩
  · obtain ⟨hleft, hstep, hzero, hbelow⟩ := toInt_stepWord_of_rollsOver ⟨hnonneg, hlower, hmax⟩
    exact ⟨hleft, hstep, hzero, hbelow, hstep ▸ delta_of_monotonic hkind t₀ t₁ a b⟩

/-- Readings above the whole numbers that doubles hold, a step past the greatest word, a shift that
takes one reading past it, and a roll over at a thousand. -/
theorem delta_by_difference_of_large :
    delta ⟨.monotonic, 1000, 0⟩ ⟨0, .whole 9007199254740993⟩ ⟨1, .whole 9007199254740995⟩
      = .ok 2 ∧
    delta ⟨.rising, 0, 0⟩ ⟨0, .whole 9223372036854775800⟩ ⟨1, .whole (-9223372036854775801)⟩
      = .ok 15 ∧
    delta ⟨.falling, 0, 0⟩ ⟨0, .whole 7⟩ ⟨1, .whole 4⟩ =
      delta ⟨.falling, 0, 0⟩ ⟨0, .whole Int64.minValue⟩ ⟨1, .whole 9223372036854775805⟩ ∧
    (stepWord 1000 990 5).toInt = 15 ∧
    delta ⟨.monotonic, 1000, 0⟩ ⟨0, .whole 990⟩ ⟨60000, .whole 5⟩ = .ok 15 := by
  obtain ⟨-, -, hup, -⟩ := delta_by_difference ⟨.monotonic, 1000, 0⟩ 0 1 9007199254740993
    9007199254740995
  obtain ⟨hrising, -, -, -⟩ := delta_by_difference ⟨.rising, 0, 0⟩ 0 1 9223372036854775800
    (-9223372036854775801)
  obtain ⟨-, hshift, -, -⟩ := delta_by_difference ⟨.falling, 0, 0⟩ 0 1 7 4
  obtain ⟨-, -, -, hover⟩ := delta_by_difference ⟨.monotonic, 1000, 0⟩ 0 60000 990 5
  obtain ⟨-, hstep, -, -, hcounted⟩ := hover rfl (by decide) (by decide) (by decide)
  exact ⟨(hup rfl (by decide) (by decide)).2.trans rfl, (hrising 0 15 (by decide)).trans rfl,
    hshift 9223372036854775801, hstep, hcounted.trans rfl⟩

end Counter

end TimeBuckets
