/-
How intervals are spelled.

* `Interval.units` — the letters of units, with their milliseconds and the kind of their buckets;
* `Interval.Spells` — a text is digits and then letters, with blanks around them;
* `Interval.Written` — a text stands for an interval;
* `Interval.Refused` — a text stands for none, and which of the rules it breaks first;
* `Interval.split?_eq_some_iff` — a text is cut up only if it is spelled so;
* `Interval.parses_exactly` — what is read is what is written, and nothing else is read.

Blanks are neither digits nor letters, and letters are no digits.  A text is therefore spelled in
one way at most, and each rule can be stated of its digits and its letters.
-/
import TimeBuckets.Interval
import TimeBuckets.Proofs.Numerals

namespace TimeBuckets

/-- Letters are the capital and the small ones. -/
theorem Text.range_of_isAlpha {c : Char} (h : c.isAlpha = true) :
    65 ≤ c.toNat ∧ c.toNat ≤ 90 ∨ 97 ≤ c.toNat ∧ c.toNat ≤ 122 := by
  have hcases : (c.isUpper || c.isLower) = true := h
  rcases Bool.or_eq_true_iff.mp hcases with hupper | hlower
  · have hrange : 'A'.val ≤ c.val ∧ c.val ≤ 'Z'.val := of_decide_eq_true hupper
    exact Or.inl ⟨UInt32.le_iff_toNat_le.mp hrange.1, UInt32.le_iff_toNat_le.mp hrange.2⟩
  · obtain ⟨hlow, hhigh⟩ := Bool.and_eq_true_iff.mp hlower
    exact Or.inr ⟨UInt32.le_iff_toNat_le.mp (of_decide_eq_true hlow),
      UInt32.le_iff_toNat_le.mp (of_decide_eq_true hhigh)⟩

theorem Text.isBlank_of_isAlpha {c : Char} (h : c.isAlpha = true) : isBlank c = false := by
  have hrange := range_of_isAlpha h
  exact isBlank_of_visible (by omega) (by omega)

theorem Text.isDigit_of_isAlpha {c : Char} (h : c.isAlpha = true) : c.isDigit = false := by
  have hrange := range_of_isAlpha h
  refine Bool.eq_false_iff.mpr fun hdigit => ?_
  have hlast : c.toNat ≤ 57 := (Char.isDigit_iff_toNat.mp hdigit).2
  omega

namespace Interval

variable {text digits letters : List Char} {size : Int} {unit : IntervalUnit} {i : Interval}

/-! ### Units -/

/-- The letters of units, with the milliseconds in one of them and the kind of their buckets. -/
def units : List (String × Int × IntervalUnit) :=
  [("", 1, .fixed), ("ms", 1, .fixed), ("s", 1000, .fixed), ("m", 60000, .fixed),
   ("h", 3600000, .fixed), ("d", 86400000, .fixed), ("w", 604800000, .fixed),
   ("n", 2592000000, .month), ("y", 31536000000, .year), ("o", 1, .run)]

theorem unit?_eq_some_iff {name : String} :
    unit? name = some (size, unit) ↔ (name, size, unit) ∈ units := by
  constructor
  · intro h
    unfold unit? at h
    split at h
    case h_11 => cases h
    all_goals
      obtain ⟨rfl, rfl⟩ := Prod.mk.inj (Option.some.inj h)
      decide
  · intro h
    simp only [units, List.mem_cons, Prod.mk.injEq, List.not_mem_nil, or_false] at h
    rcases h with ⟨rfl, rfl, rfl⟩ | ⟨rfl, rfl, rfl⟩ | ⟨rfl, rfl, rfl⟩ | ⟨rfl, rfl, rfl⟩ |
      ⟨rfl, rfl, rfl⟩ | ⟨rfl, rfl, rfl⟩ | ⟨rfl, rfl, rfl⟩ | ⟨rfl, rfl, rfl⟩ | ⟨rfl, rfl, rfl⟩ |
      ⟨rfl, rfl, rfl⟩
    all_goals rfl

theorem one_le_of_mem_units {name : String} (h : (name, size, unit) ∈ units) : 1 ≤ size := by
  have hall : ∀ entry ∈ units, 1 ≤ entry.2.1 := by decide
  exact hall _ h

/-! ### Spelling -/

/-- The text is the digits, one at least, and then the letters, with blanks around them. -/
structure Spells (text digits letters : List Char) : Prop where
  around : ∃ front back, text = front ++ (digits ++ letters) ++ back ∧
    (∀ c ∈ front, Text.isBlank c = true) ∧ ∀ c ∈ back, Text.isBlank c = true
  digits_ne : digits ≠ []
  digit : ∀ c ∈ digits, c.isDigit = true
  letter : ∀ c ∈ letters, c.isAlpha = true

/-- The number that digits stand for. -/
def amount (digits : List Char) : Nat := Nat.ofDigitChars 10 digits 0

theorem Spells.trim_eq (h : Spells text digits letters) : Text.trim text = digits ++ letters := by
  obtain ⟨front, back, rfl, hfront, hback⟩ := h.around
  refine Text.trim_of_blanks hfront hback
    (List.forall_mem_append.mpr ⟨fun c hc => ?_, fun c hc => ?_⟩)
  · exact Text.isBlank_of_isDigit (h.digit c hc)
  · exact Text.isBlank_of_isAlpha (h.letter c hc)

theorem spells_of_trim {s : List Char} (h : Text.trim text = s)
    (hne : s.takeWhile Char.isDigit ≠ []) (hletter : (s.dropWhile Char.isDigit).all Char.isAlpha) :
    Spells text (s.takeWhile Char.isDigit) (s.dropWhile Char.isDigit) where
  around := by
    obtain ⟨front, back, htext, hfront, hback⟩ := Text.exists_of_trim text
    refine ⟨front, back, ?_, hfront, hback⟩
    rwa [List.takeWhile_append_dropWhile, ← h]
  digits_ne := hne
  digit c hc := List.mem_takeWhile_imp hc
  letter c hc := List.all_eq_true.mp hletter c hc

/-- A text is cut into digits and letters as it is spelled. -/
theorem Spells.cut (h : Spells text digits letters) :
    (Text.trim text).takeWhile Char.isDigit = digits ∧
      (Text.trim text).dropWhile Char.isDigit = letters := by
  have hletters : letters.takeWhile Char.isDigit = [] ∧
      letters.dropWhile Char.isDigit = letters := by
    cases hcase : letters with
    | nil => exact ⟨rfl, rfl⟩
    | cons c rest =>
      have hc : ¬ c.isDigit = true := by
        rw [Text.isDigit_of_isAlpha (h.letter c (hcase ▸ List.mem_cons_self))]
        exact Bool.false_ne_true
      exact ⟨List.takeWhile_cons_of_neg hc, List.dropWhile_cons_of_neg hc⟩
  rw [h.trim_eq, List.takeWhile_append_of_pos h.digit, List.dropWhile_append_of_pos h.digit,
    hletters.1, hletters.2, List.append_nil]
  exact ⟨rfl, rfl⟩

/-- A text is cut up only if it is spelled so, and its amount is one that a word holds. -/
theorem split?_eq_some_iff {w : Word} :
    split? (Text.trim text) = some (w, letters) ↔
      ∃ digits, Spells text digits letters ∧ w.toInt = amount digits := by
  constructor
  · intro h
    rw [split?] at h
    rcases hword : Text.word? ((Text.trim text).takeWhile Char.isDigit) with _ | w'
    · rw [hword] at h
      cases h
    rw [hword] at h
    obtain ⟨hletter, hcut⟩ := Option.ite_none_right_eq_some.mp h
    obtain ⟨rfl, rfl⟩ := Prod.mk.inj (Option.some.inj hcut)
    have hne : (Text.trim text).takeWhile Char.isDigit ≠ [] := by
      intro hnil
      rw [hnil] at hword
      cases hword
    have hspells := spells_of_trim rfl hne hletter
    rw [Text.word?_of_digits hne hspells.digit, Word.ofInt?_eq_some_iff] at hword
    exact ⟨_, hspells, hword⟩
  · rintro ⟨digits, h, hw⟩
    obtain ⟨hdigits, hletters⟩ := h.cut
    have hword : Text.word? digits = some w := by
      rw [Text.word?_of_digits h.digits_ne h.digit]
      exact Word.ofInt?_eq_some_iff.mpr hw
    rw [split?, hdigits, hletters, hword]
    exact if_pos (List.all_eq_true.mpr h.letter)

/-! ### Intervals -/

/-- The text stands for the interval: months and years come one at a time, only runs may have no
width, and the width is one that a word holds. -/
inductive Written (text : List Char) : Interval → Prop
  | intro {digits letters : List Char} {size : Int} {unit : IntervalUnit} {width : Word}
    (spells : Spells text digits letters) (known : (String.ofList letters, size, unit) ∈ units)
    (single : unit.isCalendar = true → amount digits = 1)
    (positive : unit ≠ .run → 0 < amount digits)
    (product : width.toInt = amount digits * size) : Written text ⟨width, unit⟩

/-- The text stands for no interval, with the rule that it breaks first. -/
inductive Refused (text : String) : SettingFault → Prop
  | malformed
    (none : ∀ digits letters, Spells text.toList digits letters → Word.greatest < amount digits) :
    Refused text (.malformedInterval text)
  | unknown {digits letters : List Char} (spells : Spells text.toList digits letters)
    (fits : amount digits ≤ Word.greatest)
    (unknown : ∀ size unit, (String.ofList letters, size, unit) ∉ units) :
    Refused text (.unknownIntervalUnit (String.ofList letters) text)
  | several {digits letters : List Char} {size : Int} {unit : IntervalUnit}
    (spells : Spells text.toList digits letters) (fits : amount digits ≤ Word.greatest)
    (known : (String.ofList letters, size, unit) ∈ units) (calendar : unit.isCalendar = true)
    (several : amount digits ≠ 1) : Refused text (.calendarAmount text unit.name)
  | overflow {digits letters : List Char} {size : Int} {unit : IntervalUnit}
    (spells : Spells text.toList digits letters) (fits : amount digits ≤ Word.greatest)
    (known : (String.ofList letters, size, unit) ∈ units)
    (single : unit.isCalendar = true → amount digits = 1)
    (large : Word.greatest < amount digits * size) : Refused text (.intervalOverflow text)
  | zero {digits letters : List Char} {size : Int}
    (spells : Spells text.toList digits letters)
    (known : (String.ofList letters, size, .fixed) ∈ units) (zero : amount digits = 0) :
    Refused text (.intervalNotPositive text)

/-- A text that is spelled so is read by its amount and its unit. -/
theorem parse_of_spells {text : String} {w : Word} (h : Spells text.toList digits letters)
    (hw : w.toInt = amount digits) (hknown : (String.ofList letters, size, unit) ∈ units) :
    parse text =
      if unit.isCalendar ∧ w ≠ 1 then .error (.calendarAmount text unit.name)
      else match Word.ofInt? (amount digits * size) with
        | none => .error (.intervalOverflow text)
        | some width =>
          if width ≤ 0 ∧ unit ≠ .run then .error (.intervalNotPositive text)
          else .ok ⟨width, unit⟩ := by
  rw [parse, split?_eq_some_iff.mpr ⟨digits, h, hw⟩]
  dsimp only
  rw [unit?_eq_some_iff.mpr hknown]
  exact hw ▸ rfl

/-- The word that holds an amount, if one does. -/
theorem exists_word {n : Nat} (h : n ≤ Word.greatest) : ∃ w : Word, w.toInt = n :=
  ⟨Int64.ofInt n, Word.toInt_ofInt ⟨Int.le_trans (by decide) (Int.natCast_nonneg n), h⟩⟩

theorem eq_one_iff {w : Word} {n : Nat} (h : w.toInt = n) : w = 1 ↔ n = 1 := by
  rw [← Int64.toInt_inj, h, Int64.toInt_one]
  exact Int.ofNat_inj

theorem parse_cases (text : String) : match parse text with
    | .ok i => Written text.toList i
    | .error fault => Refused text fault := by
  -- the rules are looked at in the order in which a text can break them
  rcases hsplit : split? (Text.trim text.toList) with _ | ⟨w, letters⟩
  · rw [parse, hsplit]
    refine .malformed fun digits letters hspells => Int.not_le.mp fun hfits => ?_
    obtain ⟨w, hw⟩ := exists_word hfits
    cases hsplit.symm.trans (split?_eq_some_iff.mpr ⟨digits, hspells, hw⟩)
  obtain ⟨digits, hspells, hw⟩ := split?_eq_some_iff.mp hsplit
  have hfits : amount digits ≤ Word.greatest := hw ▸ Word.toInt_le_greatest w
  rcases hunit : unit? (String.ofList letters) with _ | ⟨size, unit⟩
  · rw [parse, hsplit]
    dsimp only
    rw [hunit]
    refine .unknown hspells hfits fun size unit hmem => ?_
    cases hunit.symm.trans (unit?_eq_some_iff.mpr hmem)
  have hknown := unit?_eq_some_iff.mp hunit
  rw [parse_of_spells hspells hw hknown]
  by_cases hcalendar : unit.isCalendar = true ∧ w ≠ 1
  · rw [if_pos hcalendar]
    exact .several hspells hfits hknown hcalendar.1 fun hone =>
      hcalendar.2 ((eq_one_iff hw).mpr hone)
  have hsingle : unit.isCalendar = true → amount digits = 1 := fun h =>
    (eq_one_iff hw).mp (not_not.mp fun hne => hcalendar ⟨h, hne⟩)
  rw [if_neg hcalendar]
  have hsize := one_le_of_mem_units hknown
  have hnonneg : 0 ≤ (amount digits : Int) * size :=
    Int.mul_nonneg (Int.natCast_nonneg _) (by omega)
  rcases hwidth : Word.ofInt? (amount digits * size) with _ | width
  · refine .overflow hspells hfits hknown hsingle (Int.not_le.mp fun hle => ?_)
    rw [Word.ofInt?, if_pos ⟨Int.le_trans (by decide) hnonneg, hle⟩] at hwidth
    cases hwidth
  rw [Word.ofInt?_eq_some_iff] at hwidth
  dsimp only
  by_cases hzero : width ≤ 0 ∧ unit ≠ .run
  · rw [if_pos hzero]
    -- a product that is not positive is zero, and so is the amount then, which no calendar has
    have hproduct : (amount digits : Int) * size = 0 := by
      refine Int.le_antisymm ?_ hnonneg
      rw [← hwidth]
      exact Int64.le_iff_toInt_le.mp hzero.1
    have hamount : amount digits = 0 := by
      rcases Int.mul_eq_zero.mp hproduct with h | h
      · exact Int.ofNat_eq_zero.mp h
      · omega
    have hfixed : unit = .fixed := by
      cases unit with
      | fixed => rfl
      | run => exact absurd rfl hzero.2
      | _ => exact absurd ((hsingle rfl).symm.trans hamount) Nat.one_ne_zero
    subst hfixed
    exact .zero hspells hknown hamount
  · rw [if_neg hzero]
    refine .intro hspells hknown hsingle (fun hrun => Nat.pos_of_ne_zero fun hamount => ?_) hwidth
    rw [hamount] at hwidth
    refine hzero ⟨Int64.le_iff_toInt_le.mpr ?_, hrun⟩
    rw [hwidth]
    simp

theorem written_of_parse {text : String} (h : parse text = .ok i) : Written text.toList i := by
  have hcases := parse_cases text
  rwa [h] at hcases

theorem refused_of_parse {text : String} {fault : SettingFault} (h : parse text = .error fault) :
    Refused text fault := by
  have hcases := parse_cases text
  rwa [h] at hcases

theorem parse_of_written {text : String} (h : Written text.toList i) : parse text = .ok i := by
  obtain ⟨hspells, hknown, hsingle, hpositive, hproduct⟩ := h
  rename_i digits letters size unit width
  have hsize := one_le_of_mem_units hknown
  have hnonneg := Int.natCast_nonneg (amount digits)
  have hle : (amount digits : Int) ≤ width.toInt := by
    have hscaled := Int.mul_le_mul_of_nonneg_left hsize hnonneg
    rwa [Int.mul_one, ← hproduct] at hscaled
  -- units have a millisecond at least, so that a word holds the amount if it holds the width
  obtain ⟨w, hw⟩ := exists_word (Int.le_trans hle (Word.toInt_le_greatest width))
  have hcalendar : ¬ (unit.isCalendar = true ∧ w ≠ 1) := fun h =>
    h.2 ((eq_one_iff hw).mpr (hsingle h.1))
  have hwidth : ¬ (width ≤ 0 ∧ unit ≠ .run) := by
    rintro ⟨hzero, hrun⟩
    have hnot : width.toInt ≤ 0 := Int64.le_iff_toInt_le.mp hzero
    have hpos := hpositive hrun
    omega
  rw [parse_of_spells hspells hw hknown, if_neg hcalendar, Word.ofInt?_eq_some_iff.mpr hproduct]
  exact if_neg hwidth

theorem parse_of_refused {text : String} {fault : SettingFault} (h : Refused text fault) :
    parse text = .error fault := by
  cases h with
  | malformed hnone =>
    rcases hsplit : split? (Text.trim text.toList) with _ | ⟨w, letters⟩
    · rw [parse, hsplit]
    · obtain ⟨digits, hspells, hw⟩ := split?_eq_some_iff.mp hsplit
      have hlarge := hnone digits letters hspells
      rw [← hw] at hlarge
      exact absurd (Word.toInt_le_greatest w) (Int.not_le.mpr hlarge)
  | unknown hspells hfits hunknown =>
    obtain ⟨w, hw⟩ := exists_word hfits
    rw [parse, split?_eq_some_iff.mpr ⟨_, hspells, hw⟩]
    dsimp only
    rcases hunit : unit? _ with _ | ⟨size, unit⟩
    · rfl
    · exact absurd (unit?_eq_some_iff.mp hunit) (hunknown size unit)
  | several hspells hfits hknown hcalendar hseveral =>
    obtain ⟨w, hw⟩ := exists_word hfits
    rw [parse_of_spells hspells hw hknown]
    exact if_pos ⟨hcalendar, fun hone => hseveral ((eq_one_iff hw).mp hone)⟩
  | overflow hspells hfits hknown hsingle hlarge =>
    obtain ⟨w, hw⟩ := exists_word hfits
    rw [parse_of_spells hspells hw hknown,
      if_neg fun h => h.2 ((eq_one_iff hw).mpr (hsingle h.1)), Word.ofInt?,
      if_neg fun h => Int.not_le.mpr hlarge h.2]
  | @zero digits letters size hspells hknown hzero =>
    have hw : (0 : Word).toInt = amount digits := by rw [hzero]; rfl
    have hproduct : Word.ofInt? (amount digits * size) = some 0 := by
      rw [Word.ofInt?_eq_some_iff, hzero, Int.natCast_zero, Int.zero_mul]
      rfl
    rw [parse_of_spells hspells hw hknown, hproduct]
    rfl

/-! ### Digits alone -/

/-- The text of a word that is not negative, with letters behind it. -/
theorem spells_text {w : Word} (h : 0 ≤ w) (hletters : ∀ c ∈ letters, c.isAlpha = true) :
    ∃ digits, Spells (w.text.toList ++ letters) digits letters ∧ w.toInt = amount digits := by
  obtain ⟨n, hn⟩ := Int.eq_ofNat_of_zero_le (Int64.le_iff_toInt_le.mp h)
  have htext : w.text.toList = Nat.toDigits 10 n := by
    rw [Word.text, hn]
    exact Nat.toList_repr
  refine ⟨Nat.toDigits 10 n, ⟨⟨[], [], ?_, List.forall_mem_nil _, List.forall_mem_nil _⟩,
    Nat.toDigits_ne_nil, fun c hc => ?_, hletters⟩, ?_⟩
  · rw [htext, List.nil_append, List.append_nil]
  · exact Nat.isDigit_of_mem_toDigits (by decide) (by decide) hc
  · rw [hn, amount, Nat.ofDigitChars_ten_toDigits]

/-- The decimal text of a width stands for buckets of this width, as it is or in milliseconds. -/
theorem parse_text {w : Word} (h : 0 < w) :
    parse w.text = .ok (fixed w) ∧ parse (w.text ++ "ms") = .ok (fixed w) := by
  have hwritten (letters : List Char) (hletters : ∀ c ∈ letters, c.isAlpha = true)
      (hknown : (String.ofList letters, 1, .fixed) ∈ units) :
      Written (w.text.toList ++ letters) (fixed w) := by
    obtain ⟨digits, hspells, hw⟩ := spells_text (Int64.le_of_lt h) hletters
    have hpos : 0 < w.toInt := Int64.lt_iff_toInt_lt.mp h
    exact .intro hspells hknown nofun (fun _ => by omega) (by rw [hw, Int.mul_one])
  constructor
  · refine parse_of_written ?_
    have hplain := hwritten [] nofun (by decide)
    rwa [List.append_nil] at hplain
  · refine parse_of_written ?_
    rw [String.toList_append]
    exact hwritten ['m', 's'] (List.all_eq_true.mp rfl) (by decide)

/-- A text stands for an interval just if it is written so, and every other text is refused for the
rule that it breaks first.  The decimal text of a positive width stands for buckets of this width,
as it is or in milliseconds. -/
theorem parses_exactly :
    (∀ text i, parse text = .ok i ↔ Written text.toList i) ∧
    (∀ text fault, parse text = .error fault ↔ Refused text fault) ∧
    (∀ text, (¬ ∃ i, Written text.toList i) ↔ ∃ fault, parse text = .error fault) ∧
    ∀ w, 0 < w → parse w.text = .ok (fixed w) ∧ parse (w.text ++ "ms") = .ok (fixed w) := by
  refine ⟨fun text i => ⟨written_of_parse, parse_of_written⟩,
    fun text fault => ⟨refused_of_parse, parse_of_refused⟩, fun text => ?_, fun w => parse_text⟩
  rcases hparse : parse text with fault | i
  · refine ⟨fun _ => ⟨fault, rfl⟩, fun _ => ?_⟩
    rintro ⟨i, hwritten⟩
    cases hparse.symm.trans (parse_of_written hwritten)
  · exact ⟨fun h => absurd ⟨i, written_of_parse hparse⟩ h, nofun⟩

/-- Seven minutes with an ideographic space in front, two months, and the greatest width. -/
theorem parses_exactly_of_three :
    Written "\u3000007m".toList ⟨420000, .fixed⟩ ∧
    Refused "2n" (.calendarAmount "2n" "month") ∧ (¬ ∃ i, Written "2n".toList i) ∧
    parse (Word.text 9223372036854775807) = .ok (fixed 9223372036854775807) ∧
    parse (Word.text 9223372036854775807 ++ "ms") = .ok (fixed 9223372036854775807) := by
  obtain ⟨hok, herror, hother, htext⟩ := parses_exactly
  have hmonths : parse "2n" = .error (.calendarAmount "2n" "month") := by decide +kernel
  exact ⟨(hok _ _).mp (by decide +kernel), (herror _ _).mp hmonths,
    (hother _).mpr ⟨_, hmonths⟩, htext _ (by decide)⟩

end Interval

end TimeBuckets
