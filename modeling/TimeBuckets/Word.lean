/-
Signed 64-bit words: times in milliseconds, widths and whole readings.

* `Word.ofInt?` — the word that holds an exact value, if one does;
* `Word.clamp` — the word nearest to an exact value;
* `Word.ofInt?_eq_some_iff` — `ofInt?` finds exactly the word with that value.

Sums, differences and products that may leave the range are taken on exact integers and come
back through `ofInt?` or `clamp`.  Only counter readings wrap around.
-/

namespace TimeBuckets

/-- A signed 64-bit word. -/
abbrev Word := Int64

namespace Word

/-- The least value of a word. -/
def least : Int := -9223372036854775808

/-- The greatest value of a word. -/
def greatest : Int := 9223372036854775807

/-- The word with the value `n`, or `none` if `n` does not fit. -/
def ofInt? (n : Int) : Option Word :=
  if least ≤ n ∧ n ≤ greatest then some (Int64.ofInt n) else none

/-- The word nearest to `n`. -/
def clamp (n : Int) : Word :=
  Int64.ofInt (max least (min greatest n))

theorem toInt_ofInt {n : Int} (h : least ≤ n ∧ n ≤ greatest) : (Int64.ofInt n).toInt = n := by
  obtain ⟨hl, hg⟩ := h
  simp only [least, greatest] at hl hg
  rw [Int64.toInt_ofInt, Int.bmod_def]
  simp only [Int64.size]
  omega

theorem least_le_toInt (w : Word) : least ≤ w.toInt := w.le_toInt

theorem toInt_le_greatest (w : Word) : w.toInt ≤ greatest := by
  have := w.toInt_lt
  simp only [greatest]
  omega

theorem ofInt?_eq_some_iff {n : Int} {w : Word} : ofInt? n = some w ↔ w.toInt = n := by
  unfold ofInt?
  split
  · rename_i h
    constructor
    · intro e
      obtain rfl := Option.some.inj e
      exact toInt_ofInt h
    · intro e
      rw [Option.some_inj]
      exact Int64.toInt_inj.mp ((toInt_ofInt h).trans e.symm)
  · rename_i h
    constructor
    · intro e
      exact absurd e (by simp)
    · rintro rfl
      exact absurd ⟨least_le_toInt w, toInt_le_greatest w⟩ h

theorem isSome_ofInt?_iff {n : Int} : (ofInt? n).isSome = true ↔ least ≤ n ∧ n ≤ greatest := by
  rw [ofInt?]
  split
  · rename_i h
    exact iff_of_true rfl h
  · rename_i h
    exact iff_of_false Bool.false_ne_true h

end Word

end TimeBuckets
