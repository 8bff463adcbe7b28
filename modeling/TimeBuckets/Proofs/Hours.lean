/-
Hours that are written, and hours that are read.

* `Fields.Complete` — the fields determine a time of day;
* `Fields.HoursApart.moments` — fields that differ in the hour give two times just if they do;
* `DifferInHour` — two texts that a pattern reads in the same way but for the number of one hour;
* `TellsTime` — the pattern has minutes, an hour of the day or `AM` or `PM`, and seconds unless no
  fraction was read;
* `complete_iff_tellsTime` — what is read by a pattern with an hour is complete just then;
* `times_differ_iff` — two texts that differ in an hour give two times just then, and the start of
  the same day otherwise.

A date alone is taken for the start of the day, and so is a date with any part of a time of day that
is not enough to determine it.
-/
import TimeBuckets.Proofs.Patterns

namespace TimeBuckets

/-- Whether a note is about the hour. -/
def Note.isHour : Note → Bool
  | .afternoon _ => true
  | .halfHour _ => true
  | _ => false

namespace Fields

variable {f g : Fields}

/-- Fields that say the same but for the hour are the same but for the hour. -/
theorem eq_of_says (h : ∀ note, note.isHour = false → (g.Says note ↔ f.Says note)) :
    g = { f with afternoon := g.afternoon, halfHour := g.halfHour } := by
  have hyear : g.year = f.year := Option.ext fun y => h (.year y) rfl
  have hshort : g.shortYear = f.shortYear := Option.ext fun n => h (.shortYear n) rfl
  have hmonth : g.month = f.month := Option.ext fun n => h (.month n) rfl
  have hday : g.day = f.day := Option.ext fun n => h (.day n) rfl
  have hordinal : g.ordinal = f.ordinal := Option.ext fun n => h (.ordinal n) rfl
  have hminute : g.minute = f.minute := Option.ext fun n => h (.minute n) rfl
  have hsecond : g.second = f.second := Option.ext fun n => h (.second n) rfl
  have hnanos : g.nanos = f.nanos := Option.ext fun n => h (.nanos n) rfl
  rw [← hyear, ← hshort, ← hmonth, ← hday, ← hordinal, ← hminute, ← hsecond, ← hnanos]

/-- The fields determine a time of day. -/
def Complete (f : Fields) : Prop :=
  f.afternoon.isSome ∧ f.halfHour.isSome ∧ f.minute.isSome ∧ (f.second.isSome ∨ f.nanos = none)

/-- The number of an hour by its half of the day. -/
def hourOf (afternoon : Bool) (halfHour : Nat) : Nat :=
  if afternoon then halfHour + 12 else halfHour

/-- An hour of the day is found back from its half of the day and its number there. -/
theorem hourOf_half {n : Nat} (h : n ≤ 23) : hourOf (decide (12 ≤ n)) (n % 12) = n := by
  rw [hourOf]
  split
  · rename_i hafter
    have hle : 12 ≤ n := of_decide_eq_true hafter
    omega
  · rename_i hbefore
    have hlt : ¬ 12 ≤ n := fun hle => hbefore (decide_eq_true hle)
    omega

theorem dayMillis?_of_complete (h : f.Complete) :
    ∃ afternoon halfHour minute, f.afternoon = some afternoon ∧ f.halfHour = some halfHour ∧
      f.minute = some minute ∧
      f.dayMillis? = some ((((hourOf afternoon halfHour * 60 + minute) * 60
        + f.second.getD 0) * 1000 + f.nanos.getD 0 / 1000000 : Nat) : Int) := by
  obtain ⟨hafternoon, hhour, hminute, hsecond⟩ := h
  obtain ⟨a, ha⟩ := Option.isSome_iff_exists.mp hafternoon
  obtain ⟨n, hn⟩ := Option.isSome_iff_exists.mp hhour
  obtain ⟨m, hm⟩ := Option.isSome_iff_exists.mp hminute
  refine ⟨a, n, m, ha, hn, hm, ?_⟩
  have hfraction : (f.second.isNone && f.nanos.isSome) = false := by
    rcases hsecond with hsecond | hnanos
    · rw [Option.isNone_eq_false_iff.mpr hsecond, Bool.false_and]
    · rw [hnanos, Option.isSome_none, Bool.and_false]
  rw [dayMillis?, ha, hn, hm]
  show (if (f.second.isNone && f.nanos.isSome) = true then none else some _) = _
  rw [hfraction, if_neg Bool.false_ne_true]
  refine congrArg some ?_
  rw [hourOf]
  omega

theorem dayMillis?_of_not_complete (h : ¬ f.Complete) : f.dayMillis? = none := by
  rw [Complete] at h
  rcases hafternoon : f.afternoon with _ | a
  · rw [dayMillis?, hafternoon]
    rfl
  · rcases hhour : f.halfHour with _ | n
    · rw [dayMillis?, hafternoon, hhour]
      rfl
    · rcases hminute : f.minute with _ | m
      · rw [dayMillis?, hafternoon, hhour, hminute]
        rfl
      · have hfraction : (f.second.isNone && f.nanos.isSome) = true := by
          rw [hafternoon, hhour, hminute] at h
          rcases hsecond : f.second with _ | second
          · rcases hnanos : f.nanos with _ | nanos
            · exact absurd ⟨rfl, rfl, rfl, .inr hnanos⟩ h
            · rfl
          · exact absurd ⟨rfl, rfl, rfl, .inl (hsecond ▸ rfl)⟩ h
        rw [dayMillis?, hafternoon, hhour, hminute]
        exact if_pos hfraction

/-- The fields determine a time: that of day counts from the start of the date, and is left out if
it is not determined. -/
theorem date_of_moment? {t : Word} (h : f.moment? = some t) :
    ∃ d, f.date? = some d ∧ t.toInt = d.toDays * 86400000 + f.dayMillis?.getD 0 := by
  obtain ⟨d, hd, hword⟩ := Option.bind_eq_some_iff.mp h
  exact ⟨d, hd, Word.ofInt?_eq_some_iff.mp hword⟩

theorem says_iff {notes : List Note} (h : putAll? notes {} = some f) (note : Note) :
    f.Says note ↔ note ∈ notes := by
  rw [says_of_putAll? h note]
  refine or_iff_right fun hsays => ?_
  cases note with
  | _ => cases hsays

/-! ### Fields with different hours -/

/-- The fields are the same but for the hour, which is another one as far as it is determined. -/
structure HoursApart (f g : Fields) : Prop where
  others : g = { f with afternoon := g.afternoon, halfHour := g.halfHour }
  halfHour : f.halfHour.isSome ∧ g.halfHour.isSome
  afternoon : f.afternoon.isSome = g.afternoon.isSome
  hours {a b : Bool} {m n : Nat} (ha : f.afternoon = some a) (hb : g.afternoon = some b)
    (hm : f.halfHour = some m) (hn : g.halfHour = some n) : hourOf a m ≠ hourOf b n

theorem HoursApart.complete_iff (h : HoursApart f g) : g.Complete ↔ f.Complete := by
  rw [Complete, Complete, ← h.afternoon, h.others]
  simp only [h.halfHour.1, h.halfHour.2]

/-- The times differ if the fields determine a time of day, and otherwise both are the start of the
day. -/
theorem HoursApart.moments (h : HoursApart f g) {t u : Word} (ht : f.moment? = some t)
    (hu : g.moment? = some u) :
    (f.Complete → t ≠ u) ∧ (¬ f.Complete → t = u ∧ 86400000 ∣ t.toInt) := by
  obtain ⟨d, hd, ht⟩ := date_of_moment? ht
  obtain ⟨e, he, hu⟩ := date_of_moment? hu
  have hdate : g.date? = f.date? := by
    rw [h.others]
    rfl
  obtain rfl : d = e := Option.some.inj (hd.symm.trans (hdate.symm.trans he))
  refine ⟨fun hcomplete heq => ?_, fun hcomplete => ?_⟩
  · obtain ⟨a, m, i, ha, hm, hi, hmillis⟩ := dayMillis?_of_complete hcomplete
    obtain ⟨b, n, j, hb, hn, hj, hmillis'⟩ := dayMillis?_of_complete (h.complete_iff.mpr hcomplete)
    have hminute : g.minute = f.minute := by rw [h.others]
    have hsecond : g.second = f.second := by rw [h.others]
    have hnanos : g.nanos = f.nanos := by rw [h.others]
    obtain rfl : j = i := Option.some.inj (hj.symm.trans (hminute.trans hi))
    have hours := h.hours ha hb hm hn
    rw [hmillis, Option.getD_some] at ht
    rw [hmillis', hsecond, hnanos, Option.getD_some] at hu
    rw [heq] at ht
    omega
  · rw [dayMillis?_of_not_complete hcomplete, Option.getD_none, Int.add_zero] at ht
    rw [dayMillis?_of_not_complete (mt h.complete_iff.mp hcomplete), Option.getD_none,
      Int.add_zero] at hu
    exact ⟨Int64.toInt_inj.mp (ht.trans hu.symm), ⟨d.toDays, by rw [ht, Int.mul_comm]⟩⟩

variable {before here here' behind : List Note}

/-- Nothing but the hour changes with notes that are about the hour. -/
theorem eq_of_hour_notes (hhere : ∀ note ∈ here, note.isHour = true)
    (hhere' : ∀ note ∈ here', note.isHour = true)
    (hf : putAll? (before ++ (here ++ behind)) {} = some f)
    (hg : putAll? (before ++ (here' ++ behind)) {} = some g) :
    g = { f with afternoon := g.afternoon, halfHour := g.halfHour } := by
  refine eq_of_says fun note hnote => ?_
  have hother : note ∉ here := fun hmem =>
    Bool.false_ne_true (hnote.symm.trans (hhere note hmem))
  have hother' : note ∉ here' := fun hmem =>
    Bool.false_ne_true (hnote.symm.trans (hhere' note hmem))
  rw [says_iff hg note, says_iff hf note]
  simp only [List.mem_append, hother, hother']

/-- Two hours of the day, between the same other notes. -/
theorem hoursApart_of_hour {m n : Nat} (hm : m ≤ 23) (hn : n ≤ 23) (hne : m ≠ n)
    (hf : putAll? (before ++ ([.afternoon (decide (12 ≤ m)), .halfHour (m % 12)] ++ behind)) {}
      = some f)
    (hg : putAll? (before ++ ([.afternoon (decide (12 ≤ n)), .halfHour (n % 12)] ++ behind)) {}
      = some g) : HoursApart f g := by
  have hafternoon : f.afternoon = some (decide (12 ≤ m)) :=
    (says_iff hf (.afternoon _)).mpr (by simp)
  have hafternoon' : g.afternoon = some (decide (12 ≤ n)) :=
    (says_iff hg (.afternoon _)).mpr (by simp)
  have hhalf : f.halfHour = some (m % 12) := (says_iff hf (.halfHour _)).mpr (by simp)
  have hhalf' : g.halfHour = some (n % 12) := (says_iff hg (.halfHour _)).mpr (by simp)
  refine ⟨eq_of_hour_notes (by simp [Note.isHour]) (by simp [Note.isHour]) hf hg, ?_, ?_,
    fun ha hb hi hj => ?_⟩
  · rw [hhalf, hhalf']
    exact ⟨rfl, rfl⟩
  · rw [hafternoon, hafternoon']
    rfl
  · obtain rfl := Option.some.inj (hafternoon.symm.trans ha)
    obtain rfl := Option.some.inj (hafternoon'.symm.trans hb)
    obtain rfl := Option.some.inj (hhalf.symm.trans hi)
    obtain rfl := Option.some.inj (hhalf'.symm.trans hj)
    rwa [hourOf_half hm, hourOf_half hn]

/-- Two hours of half a day, between the same other notes. -/
theorem hoursApart_of_halfHour {m n : Nat} (hne : m ≠ n)
    (hf : putAll? (before ++ ([.halfHour m] ++ behind)) {} = some f)
    (hg : putAll? (before ++ ([.halfHour n] ++ behind)) {} = some g) : HoursApart f g := by
  have hafternoon : f.afternoon = g.afternoon := Option.ext fun b =>
    (says_iff hf (.afternoon b)).trans
      ((by simp : _ ↔ Note.afternoon b ∈ before ++ ([.halfHour n] ++ behind)).trans
        (says_iff hg (.afternoon b)).symm)
  have hhalf : f.halfHour = some m := (says_iff hf (.halfHour _)).mpr (by simp)
  have hhalf' : g.halfHour = some n := (says_iff hg (.halfHour _)).mpr (by simp)
  refine ⟨eq_of_hour_notes (by simp [Note.isHour]) (by simp [Note.isHour]) hf hg, ?_, ?_,
    fun ha hb hi hj => ?_⟩
  · rw [hhalf, hhalf']
    exact ⟨rfl, rfl⟩
  · rw [hafternoon]
  · obtain rfl := Option.some.inj (ha.symm.trans (hafternoon.trans hb))
    obtain rfl := Option.some.inj (hhalf.symm.trans hi)
    obtain rfl := Option.some.inj (hhalf'.symm.trans hj)
    rw [hourOf, hourOf]
    split
    · omega
    · omega

end Fields

/-! ### Texts with different hours -/

/-- The pattern reads the two texts in the same parts but for an hour, whose number differs. -/
def DifferInHour (items : List PatternItem) (s s' : List Char) : Prop :=
  ∃ (item : NumberItem) (front back : List (List Char)) (text text' : List Char) (n n' : Int),
    (item = .hour ∨ item = .halfHour) ∧ items[front.length]? = some (.number item) ∧
    textsOf? items s {} = some (front ++ text :: back) ∧
    textsOf? items s' {} = some (front ++ text' :: back) ∧
    readNumber? item (Text.trimStart text) = some (n, []) ∧
    readNumber? item (Text.trimStart text') = some (n', []) ∧ n ≠ n'

/-- The pattern has what a time of day needs: minutes, the hour of the day or its half with `AM` or
`PM`, and seconds unless no fraction was read. -/
def TellsTime (items : List PatternItem) (f : Fields) : Prop :=
  .number .minute ∈ items ∧ (.number .hour ∈ items ∨ .halfDay ∈ items) ∧
    (.number .second ∈ items ∨ f.nanos = none)

variable {items : List PatternItem} {s s' : List Char} {f g : Fields}

theorem complete_iff_tellsTime {texts : List (List Char)} {notes : List Note}
    (hnotes : notesOf? items texts = some notes) (hput : Fields.putAll? notes {} = some f)
    (hhour : f.halfHour.isSome) : f.Complete ↔ TellsTime items f := by
  have hsays := Fields.says_iff hput
  have hminute : f.minute.isSome ↔ .number .minute ∈ items := by
    rw [Option.isSome_iff_exists]
    exact (exists_congr fun n => hsays (.minute n)).trans ((says_iff_of_parts
      (fun h => (PatternItem.clock_of_notes? h).1) hnotes).trans exists_eq_right)
  have hafternoon : f.afternoon.isSome ↔ .number .hour ∈ items ∨ .halfDay ∈ items := by
    rw [Option.isSome_iff_exists]
    refine (exists_congr fun b => hsays (.afternoon b)).trans ((says_iff_of_parts
      (fun h => (PatternItem.clock_of_notes? h).2.1) hnotes).trans ?_)
    simp only [and_or_left, exists_or, exists_eq_right]
  have hsecond : f.second.isSome ↔ .number .second ∈ items := by
    rw [Option.isSome_iff_exists]
    exact (exists_congr fun n => hsays (.second n)).trans ((says_iff_of_parts
      (fun h => (PatternItem.clock_of_notes? h).2.2) hnotes).trans exists_eq_right)
  rw [Fields.Complete, TellsTime, hminute, hafternoon, hsecond]
  constructor
  · rintro ⟨hhalf, -, hm, hfraction⟩
    exact ⟨hm, hhalf, hfraction⟩
  · rintro ⟨hm, hhalf, hfraction⟩
    exact ⟨hhalf, hhour, hm, hfraction⟩

/-- What a number says that is read from a text. -/
theorem notes_of_readNumber? {item : NumberItem} {n : Int} {text rest : List Char}
    {here : List Note}
    (hread : readNumber? item (Text.trimStart text) = some (n, []))
    (h : (PatternItem.number item).notes? text = some (here, rest)) :
    item.notes? n = some here := by
  obtain ⟨⟨value, behind⟩, hvalue, h⟩ := Option.bind_eq_some_iff.mp h
  obtain ⟨notes, hnotes, h⟩ := Option.map_eq_some_iff.mp h
  cases h
  cases hread.symm.trans hvalue
  exact hnotes

theorem hoursApart_of_differ (h : DifferInHour items s s') (hf : matchPattern? items s = some f)
    (hg : matchPattern? items s' = some g) :
    Fields.HoursApart f g ∧ (f.Complete ↔ TellsTime items f) := by
  obtain ⟨item, front, back, text, text', n, n', hitem, hget, htexts, htexts', hread, hread',
    hne⟩ := h
  obtain ⟨texts, notes, htexts₁, hnotes, hput⟩ := exists_notes_of_matchItems? hf
  obtain rfl := Option.some.inj (htexts.symm.trans htexts₁)
  obtain ⟨texts', notes', htexts₂, hnotes', hput'⟩ := exists_notes_of_matchItems? hg
  obtain rfl := Option.some.inj (htexts'.symm.trans htexts₂)
  obtain ⟨before, here, rest, behind, hbefore, hhere, hbehind, rfl⟩ :=
    split_of_notesOf? hnotes hget
  obtain ⟨before', here', rest', behind', hbefore', hhere', hbehind', rfl⟩ :=
    split_of_notesOf? hnotes' hget
  -- the texts around the hour are the same, and so is what they say
  obtain rfl := Option.some.inj (hbefore.symm.trans hbefore')
  obtain rfl := Option.some.inj (hbehind.symm.trans hbehind')
  have hsaid := notes_of_readNumber? hread hhere
  have hsaid' := notes_of_readNumber? hread' hhere'
  have hapart : Fields.HoursApart f g := by
    rcases hitem with rfl | rfl
    · obtain ⟨hrange, hsaid⟩ := Option.ite_none_right_eq_some.mp hsaid
      obtain ⟨hrange', hsaid'⟩ := Option.ite_none_right_eq_some.mp hsaid'
      cases hsaid
      cases hsaid'
      exact Fields.hoursApart_of_hour (by omega) (by omega) (by omega) hput hput'
    · obtain ⟨hrange, hsaid⟩ := Option.ite_none_right_eq_some.mp hsaid
      obtain ⟨hrange', hsaid'⟩ := Option.ite_none_right_eq_some.mp hsaid'
      cases hsaid
      cases hsaid'
      exact Fields.hoursApart_of_halfHour (by omega) hput hput'
  exact ⟨hapart, complete_iff_tellsTime hnotes hput hapart.halfHour.1⟩

/-- Two texts that differ in an hour give two times just if the pattern tells the time of day. -/
theorem times_differ_iff {t t' : Word} (hword : Text.word? s = none)
    (hword' : Text.word? s' = none) (hf : matchPattern? items s = some f)
    (ht : f.moment? = some t) (hg : matchPattern? items s' = some g) (ht' : g.moment? = some t')
    (hdiffer : DifferInHour items s s') :
    readTime? (some items) s = some t ∧ readTime? (some items) s' = some t' ∧
      (t ≠ t' ↔ TellsTime items f) ∧ (¬ TellsTime items f → t = t' ∧ 86400000 ∣ t.toInt) := by
  have hread {s : List Char} {f : Fields} {t : Word} (hword : Text.word? s = none)
      (hf : matchPattern? items s = some f) (ht : f.moment? = some t) :
      readTime? (some items) s = some t := by
    rw [readTime?, hword, Option.toList_some, List.singleton_append]
    dsimp only
    rw [List.findSome?_cons, hf]
    simp only [Option.bind_eq_bind, Option.bind_some, ht]
  obtain ⟨hapart, hcomplete⟩ := hoursApart_of_differ hdiffer hf hg
  obtain ⟨hdifferent, hsame⟩ := hapart.moments ht ht'
  rw [hcomplete] at hdifferent hsame
  refine ⟨hread hword hf ht, hread hword' hg ht', ⟨fun hne => ?_, hdifferent⟩, hsame⟩
  by_contra htells
  exact hne (hsame htells).1

/-- Half past six in the morning and half past five in the afternoon. -/
theorem times_differ_iff_of_two :
    readTime? (some (pattern "%Y-%m-%d %H:%M:%S")) "2024-01-15 06:30:00".toList
        = some 1705300200000 ∧
      readTime? (some (pattern "%Y-%m-%d %H:%M:%S")) "2024-01-15 17:30:00".toList
        = some 1705339800000 ∧
      (1705300200000 : Word) ≠ 1705339800000 := by
  have hmorning : (matchPattern? (pattern "%Y-%m-%d %H:%M:%S")
      "2024-01-15 06:30:00".toList).bind Fields.moment? = some 1705300200000 := by decide +kernel
  have hafternoon : (matchPattern? (pattern "%Y-%m-%d %H:%M:%S")
      "2024-01-15 17:30:00".toList).bind Fields.moment? = some 1705339800000 := by decide +kernel
  obtain ⟨f, hf, ht⟩ := Option.bind_eq_some_iff.mp hmorning
  obtain ⟨g, hg, ht'⟩ := Option.bind_eq_some_iff.mp hafternoon
  have hdiffer : DifferInHour (pattern "%Y-%m-%d %H:%M:%S") "2024-01-15 06:30:00".toList
      "2024-01-15 17:30:00".toList :=
    ⟨.hour, [['2', '0', '2', '4'], ['-'], ['0', '1'], ['-'], ['1', '5'], [' ']],
      [[':'], ['3', '0'], [':'], ['0', '0']], ['0', '6'], ['1', '7'], 6, 17, .inl rfl,
      by decide +kernel, by decide +kernel, by decide +kernel, by decide +kernel,
      by decide +kernel, by decide⟩
  obtain ⟨hread, hread', hiff, -⟩ :=
    times_differ_iff (by decide +kernel) (by decide +kernel) hf ht hg ht' hdiffer
  exact ⟨hread, hread', hiff.mpr ⟨by decide +kernel, .inl (by decide +kernel),
    .inl (by decide +kernel)⟩⟩

/-- Without minutes the hours are dropped, so that six o'clock and seven o'clock are the start of
the day. -/
theorem hours_dropped_of_two :
    ¬ ∀ (text : String) (s s' : List Char) (f f' : Fields) (t t' : Word),
      Text.word? s = none → Text.word? s' = none →
      matchPattern? (pattern text) s = some f → f.moment? = some t →
      matchPattern? (pattern text) s' = some f' → f'.moment? = some t' →
      DifferInHour (pattern text) s s' →
      readTime? (some (pattern text)) s ≠ readTime? (some (pattern text)) s' := by
  intro hall
  have hdiffer : DifferInHour (pattern "%Y-%m-%d %H") "2024-01-15 06".toList
      "2024-01-15 07".toList :=
    ⟨.hour, [['2', '0', '2', '4'], ['-'], ['0', '1'], ['-'], ['1', '5'], [' ']],
      [], ['0', '6'], ['0', '7'], 6, 7, .inl rfl, by decide +kernel, by decide +kernel,
      by decide +kernel, by decide +kernel, by decide +kernel, by decide⟩
  refine hall "%Y-%m-%d %H" "2024-01-15 06".toList "2024-01-15 07".toList
    { year := some 2024, month := some 1, day := some 15, afternoon := some false,
      halfHour := some 6 }
    { year := some 2024, month := some 1, day := some 15, afternoon := some false,
      halfHour := some 7 } 1705276800000 1705276800000 ?_ ?_ ?_ ?_ ?_ ?_ hdiffer ?_
  · decide +kernel
  · decide +kernel
  · decide +kernel
  · decide +kernel
  · decide +kernel
  · decide +kernel
  · decide +kernel

end TimeBuckets
