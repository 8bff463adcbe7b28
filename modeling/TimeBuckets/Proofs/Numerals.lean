/-
Numerals, and the blanks around a text.

* `Text.natural?_eq_some_iff` — numerals are digits, one at least, and have the value of digits;
* `Text.word?_of_digits` — digits alone stand for the word with their value, if there is one;
* `Text.word?_text` — the text of a word stands for that word;
* `Text.exists_of_trim`, `Text.trim_of_blanks` — trimming takes away blanks in front and behind, and
  all of them.

The value of digits is the library's `Nat.ofDigitChars`, so that what is written in decimal digits
is read back by the library's own lemmas about `Nat.repr`.
-/
import Mathlib.Data.List.DropRight
import TimeBuckets.Sample
import TimeBuckets.Text.Blank
import TimeBuckets.Text.Numeral

namespace TimeBuckets

namespace Text

variable {s front core back : List Char} {n : Nat}

/-! ### Digits -/

theorem digitsAfter_eq_some_iff (s : List Char) (n : Nat) {value : Nat} :
    digitsAfter n s = some value ↔
      (∀ c ∈ s, c.isDigit = true) ∧ Nat.ofDigitChars 10 s n = value := by
  induction s generalizing n with
  | nil => simp [digitsAfter]
  | cons c rest ih =>
    rw [digitsAfter, digitValue?, List.forall_mem_cons, Nat.ofDigitChars_cons]
    by_cases hc : c.isDigit = true
    · rw [if_pos hc, Option.bind_some, ih]
      exact and_congr_left fun _ => (and_iff_right hc).symm
    · simp [hc]

theorem natural?_eq_some_iff {value : Nat} :
    natural? s = some value ↔
      s ≠ [] ∧ (∀ c ∈ s, c.isDigit = true) ∧ Nat.ofDigitChars 10 s 0 = value := by
  cases s with
  | nil => simp [natural?]
  | cons c rest => simp only [natural?, digitsAfter_eq_some_iff, ne_eq, reduceCtorEq,
      not_false_eq_true, true_and]

theorem natural?_repr (n : Nat) : natural? n.repr.toList = some n := by
  rw [Nat.toList_repr, natural?_eq_some_iff]
  exact ⟨Nat.toDigits_ne_nil, fun c hc => Nat.isDigit_of_mem_toDigits (by decide) (by decide) hc,
    Nat.ofDigitChars_ten_toDigits⟩

/-- A sign is no digit. -/
theorem integer?_of_digits (hdigits : ∀ c ∈ s, c.isDigit = true) :
    integer? s = (natural? s).map Int.ofNat := by
  rw [integer?]
  · rintro rest rfl
    exact absurd (hdigits '+' List.mem_cons_self) (by decide)
  · rintro rest rfl
    exact absurd (hdigits '-' List.mem_cons_self) (by decide)

theorem word?_of_digits (hne : s ≠ []) (hdigits : ∀ c ∈ s, c.isDigit = true) :
    word? s = Word.ofInt? (Nat.ofDigitChars 10 s 0) := by
  rw [word?, integer?_of_digits hdigits, natural?_eq_some_iff.mpr ⟨hne, hdigits, rfl⟩]
  rfl

theorem integer?_repr (n : Int) : integer? n.repr.toList = some n := by
  cases n with
  | ofNat n =>
    have hdigits : ∀ c ∈ n.repr.toList, c.isDigit = true :=
      (natural?_eq_some_iff.mp (natural?_repr n)).2.1
    show integer? n.repr.toList = _
    rw [integer?_of_digits hdigits, natural?_repr]
    rfl
  | negSucc n =>
    show integer? ("-" ++ n.succ.repr).toList = _
    rw [String.toList_append]
    show (natural? n.succ.repr.toList).map (fun m => -Int.ofNat m) = _
    rw [natural?_repr]
    rfl

/-- The text of a word stands for that word. -/
theorem word?_text (w : Word) : word? w.text.toList = some w := by
  rw [Word.text, Int.toString_eq_repr, word?, integer?_repr, Option.bind_some,
    Word.ofInt?_eq_some_iff]

/-- The text of a word is digits, perhaps with a minus sign in front. -/
theorem isDigit_of_mem_text {w : Word} {c : Char} (h : c ∈ w.text.toList) :
    c.isDigit = true ∨ c = '-' := by
  rw [Word.text, Int.toString_eq_repr] at h
  cases hw : w.toInt with
  | ofNat n =>
    rw [hw] at h
    exact Or.inl ((natural?_eq_some_iff.mp (natural?_repr n)).2.1 c h)
  | negSucc n =>
    rw [hw] at h
    replace h : c ∈ ("-" ++ n.succ.repr).toList := h
    rw [String.toList_append, List.mem_append] at h
    rcases h with h | h
    · exact Or.inr (List.mem_singleton.mp h)
    · exact Or.inl ((natural?_eq_some_iff.mp (natural?_repr n.succ)).2.1 c h)

/-! ### Blanks -/

/-- Characters that are seen, below the first blank behind them, are no blanks. -/
theorem isBlank_of_visible {c : Char} (hlow : 0x20 < c.toNat) (hhigh : c.toNat < 0x85) :
    isBlank c = false := by
  simp only [isBlank, inRanges, blankRanges, List.any_cons, List.any_nil, Bool.or_false,
    Bool.or_eq_false_iff, Bool.and_eq_false_iff, decide_eq_false_iff_not]
  omega

theorem isBlank_of_isDigit {c : Char} (h : c.isDigit = true) : isBlank c = false := by
  have hrange : 48 ≤ c.toNat ∧ c.toNat ≤ 57 := Char.isDigit_iff_toNat.mp h
  exact isBlank_of_visible (by omega) (by omega)

/-- What is trimmed away is blank. -/
theorem exists_of_trim (s : List Char) :
    ∃ front back, s = front ++ trim s ++ back ∧ (∀ c ∈ front, isBlank c = true) ∧
      ∀ c ∈ back, isBlank c = true := by
  refine ⟨s.takeWhile isBlank, (trimStart s).rtakeWhile isBlank, ?_,
    fun c hc => List.mem_takeWhile_imp hc, fun c hc => List.mem_rtakeWhile_imp hc⟩
  rw [List.append_assoc]
  show s = _ ++ (List.rdropWhile isBlank (trimStart s) ++ _)
  rw [List.rdropWhile_append_rtakeWhile]
  exact List.takeWhile_append_dropWhile.symm

/-- Blanks in front of what does not start with one are skipped. -/
theorem dropWhile_blanks (hfront : ∀ c ∈ front, isBlank c = true)
    (hcore : ∀ c ∈ core.head?, isBlank c = false) : (front ++ core).dropWhile isBlank = core := by
  rw [List.dropWhile_append_of_pos hfront]
  cases core with
  | nil => rfl
  | cons c rest => exact List.dropWhile_cons_of_neg (by simp [hcore c rfl])

/-- Blanks around a text without any are trimmed away. -/
theorem trim_of_blanks (hfront : ∀ c ∈ front, isBlank c = true)
    (hback : ∀ c ∈ back, isBlank c = true) (hcore : ∀ c ∈ core, isBlank c = false) :
    trim (front ++ core ++ back) = core := by
  rcases core with _ | ⟨c, rest⟩
  · have hall : ∀ c ∈ front ++ [] ++ back, isBlank c = true := by
      rw [List.append_nil]
      exact List.forall_mem_append.mpr ⟨hfront, hback⟩
    rw [trim, trimStart, List.dropWhile_eq_nil_iff.mpr hall]
    rfl
  · have hstart : trimStart (front ++ c :: rest ++ back) = c :: rest ++ back := by
      rw [trimStart, List.append_assoc]
      exact dropWhile_blanks hfront fun d hd => by
        obtain rfl := Option.some.inj hd
        exact hcore c List.mem_cons_self
    have hend : ((c :: rest ++ back).reverse).dropWhile isBlank = (c :: rest).reverse := by
      rw [List.reverse_append]
      refine dropWhile_blanks (fun d hd => hback d (List.mem_reverse.mp hd)) fun d hd => ?_
      exact hcore d (List.mem_reverse.mp (List.mem_of_mem_head? hd))
    rw [trim, hstart, trimEnd, hend, List.reverse_reverse]

theorem trim_of_forall (hcore : ∀ c ∈ core, isBlank c = false) : trim core = core := by
  have h : trim ([] ++ core ++ []) = core :=
    trim_of_blanks (List.forall_mem_nil _) (List.forall_mem_nil _) hcore
  rwa [List.nil_append, List.append_nil] at h

end Text

end TimeBuckets
