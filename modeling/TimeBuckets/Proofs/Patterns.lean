/-
What texts say that are read by a pattern.

* `Note` — one thing that a text says about a moment;
* `Fields.put?` — taking a note down, which must not disagree with what was taken down before;
* `PatternItem.notes?` — what one part of a pattern reads, whatever was read before;
* `PatternItem.exists_text` — a part reads the same from its own text alone;
* `textsOf?`, `notesOf?` — the text that each part takes, and what the parts say by such texts;
* `exists_notes_of_matchItems?` — reading by a pattern is taking down what its parts say;
* `says_iff_of_parts` — whether something is said depends on the parts of the pattern only.

The fields that were read so far decide whether a text is read, but never how: each part can be
looked at by itself, with its own text.
-/
import Mathlib.Data.List.TakeWhile
import TimeBuckets.Proofs.Numerals
import TimeBuckets.Timestamp.Read

namespace TimeBuckets

/-- One thing that a text says about a moment. -/
inductive Note
  | year (y : Int)
  | shortYear (n : Nat)
  | month (n : Nat)
  | day (n : Nat)
  | ordinal (n : Nat)
  | afternoon (b : Bool)
  | halfHour (n : Nat)
  | minute (n : Nat)
  | second (n : Nat)
  | nanos (n : Nat)
  deriving DecidableEq

namespace Fields

variable {f g : Fields} {note : Note}

/-! ### Taking notes down -/

/-- The fields say so. -/
def Says (f : Fields) : Note → Prop
  | .year y => f.year = some y
  | .shortYear n => f.shortYear = some n
  | .month n => f.month = some n
  | .day n => f.day = some n
  | .ordinal n => f.ordinal = some n
  | .afternoon b => f.afternoon = some b
  | .halfHour n => f.halfHour = some n
  | .minute n => f.minute = some n
  | .second n => f.second = some n
  | .nanos n => f.nanos = some n

/-- The fields with a note, unless they disagree with it. -/
def put? (f : Fields) : Note → Option Fields
  | .year y => do return { f with year := ← agree? f.year y }
  | .shortYear n => do return { f with shortYear := ← agree? f.shortYear n }
  | .month n => do return { f with month := ← agree? f.month n }
  | .day n => do return { f with day := ← agree? f.day n }
  | .ordinal n => do return { f with ordinal := ← agree? f.ordinal n }
  | .afternoon b => do return { f with afternoon := ← agree? f.afternoon b }
  | .halfHour n => do return { f with halfHour := ← agree? f.halfHour n }
  | .minute n => do return { f with minute := ← agree? f.minute n }
  | .second n => do return { f with second := ← agree? f.second n }
  | .nanos n => do return { f with nanos := ← agree? f.nanos n }

/-- The fields with all notes of a list. -/
def putAll? : List Note → Fields → Option Fields
  | [], f => some f
  | note :: notes, f => (f.put? note).bind (putAll? notes)

theorem agree?_eq_some {α : Type} [DecidableEq α] {field after : Option α} {value : α}
    (h : agree? field value = some after) :
    after = some value ∧ ∀ old, field = some old → old = value := by
  rcases field with _ | old
  · cases h
    exact ⟨rfl, nofun⟩
  · rw [agree?] at h
    split at h
    · rename_i heq
      cases h
      exact ⟨rfl, fun other hother => (Option.some.inj hother).symm.trans heq⟩
    · cases h

/-- A field that agrees with a value says what it said before, and this value. -/
theorem says_of_agree? {α : Type} [DecidableEq α] {field after : Option α} {value : α}
    (h : agree? field value = some after) (other : α) :
    after = some other ↔ field = some other ∨ other = value := by
  obtain ⟨rfl, hold⟩ := agree?_eq_some h
  constructor
  · intro heq
    exact .inr (Option.some.inj heq).symm
  · rintro (heq | rfl)
    · rw [hold other heq]
    · rfl

/-- A note changes nothing but what the fields say about it. -/
theorem says_of_put? (h : f.put? note = some g) (other : Note) :
    g.Says other ↔ f.Says other ∨ other = note := by
  cases note with
  | _ =>
    obtain ⟨after, hagree, hset⟩ := Option.bind_eq_some_iff.mp h
    obtain rfl := Option.some.inj hset
    cases other with
    | _ => simp [Says, says_of_agree? hagree]

/-- The fields say what they said before, and all notes. -/
theorem says_of_putAll? {notes : List Note} (h : putAll? notes f = some g) (other : Note) :
    g.Says other ↔ f.Says other ∨ other ∈ notes := by
  induction notes generalizing f with
  | nil =>
    obtain rfl := Option.some.inj h
    rw [List.mem_nil_iff, or_false]
  | cons note notes ih =>
    obtain ⟨f', hput, hrest⟩ := Option.bind_eq_some_iff.mp h
    rw [ih hrest, says_of_put? hput, List.mem_cons, or_assoc]

theorem putAll?_singleton (note : Note) (f : Fields) : putAll? [note] f = f.put? note :=
  Option.bind_fun_some (f.put? note)

theorem putAll?_append (first more : List Note) (f : Fields) :
    putAll? (first ++ more) f = (putAll? first f).bind (putAll? more) := by
  induction first generalizing f with
  | nil => rfl
  | cons note first ih =>
    rw [List.cons_append, putAll?, putAll?, Option.bind_assoc]
    exact congrArg (Option.bind (f.put? note)) (funext ih)

end Fields

/-! ### What parts of patterns read -/

/-- What a number in its place says, if it lies in its range. -/
def NumberItem.notes? (item : NumberItem) (n : Int) : Option (List Note) :=
  let within (low high : Int) (notes : Nat → List Note) : Option (List Note) :=
    if low ≤ n ∧ n ≤ high then some (notes n.toNat) else none
  match item with
  | year => some [.year n]
  | shortYear => within 0 99 fun v => [.shortYear v]
  | month => within 1 12 fun v => [.month v]
  | day => within 1 31 fun v => [.day v]
  | ordinal => within 1 366 fun v => [.ordinal v]
  | hour => within 0 23 fun v => [.afternoon (decide (12 ≤ v)), .halfHour (v % 12)]
  | halfHour => within 1 12 fun v => [.halfHour (v % 12)]
  | minute => within 0 59 fun v => [.minute v]
  | second => within 0 60 fun v => [.second v]

theorem NumberItem.exists_notes {item : NumberItem} {n : Int} {f g : Fields}
    (h : item.store? n f = some g) :
    ∃ notes, item.notes? n = some notes ∧ Fields.putAll? notes f = some g := by
  cases item with
  | year => exact ⟨_, rfl, (Fields.putAll?_singleton _ f).trans h⟩
  | hour =>
    obtain ⟨hrange, h⟩ := Option.ite_none_right_eq_some.mp h
    obtain ⟨afternoon, hafternoon, h⟩ := Option.bind_eq_some_iff.mp h
    refine ⟨_, if_pos hrange, ?_⟩
    rw [Fields.putAll?, Fields.put?, hafternoon]
    exact (Fields.putAll?_singleton _ _).trans h
  | _ =>
    obtain ⟨hrange, h⟩ := Option.ite_none_right_eq_some.mp h
    exact ⟨_, if_pos hrange, (Fields.putAll?_singleton _ f).trans h⟩

namespace PatternItem

/-- What a part of a pattern reads in front of a text, and what follows it. -/
def notes? (item : PatternItem) (s : List Char) : Option (List Note × List Char) :=
  match item with
  | blanks => some ([], Text.trimStart s)
  | char c =>
    match s with
    | d :: rest => if c = d then some ([], rest) else none
    | [] => none
  | number n => (readNumber? n (Text.trimStart s)).bind fun read =>
    (n.notes? read.1).map fun notes => (notes, read.2)
  | monthName => (monthOfName? s).map fun month => ([.month month], s.drop 3)
  | halfDay =>
    match (s.take 2).map Char.toLower with
    | ['a', 'm'] => some ([.afternoon false], s.drop 2)
    | ['p', 'm'] => some ([.afternoon true], s.drop 2)
    | _ => none
  | fraction =>
    match s with
    | '.' :: rest =>
      match rest.takeWhile Char.isDigit with
      | [] => none
      | digits => some ([.nanos (nanosOf digits)], rest.dropWhile Char.isDigit)
    | _ => some ([], s)
  | unknown => none

end PatternItem

/-- Reading a part of a pattern is taking down what it reads. -/
theorem exists_notes_of_matchItem? {item : PatternItem} {s rest : List Char} {f g : Fields}
    (h : matchItem? item s f = some (g, rest)) :
    ∃ notes, item.notes? s = some (notes, rest) ∧ Fields.putAll? notes f = some g := by
  cases item with
  | blanks =>
    cases h
    exact ⟨[], rfl, rfl⟩
  | char c =>
    rcases s with _ | ⟨d, s⟩
    · cases h
    · obtain ⟨hsame, h⟩ := Option.ite_none_right_eq_some.mp h
      cases h
      exact ⟨[], if_pos hsame, rfl⟩
  | number n =>
    obtain ⟨⟨value, behind⟩, hread, h⟩ := Option.bind_eq_some_iff.mp h
    obtain ⟨g', hstore, h⟩ := Option.bind_eq_some_iff.mp h
    cases h
    obtain ⟨notes, hnotes, hput⟩ := NumberItem.exists_notes hstore
    refine ⟨notes, ?_, hput⟩
    rw [PatternItem.notes?, hread, Option.bind_some, hnotes]
    rfl
  | monthName =>
    obtain ⟨month, hmonth, h⟩ := Option.bind_eq_some_iff.mp h
    obtain ⟨after, hagree, h⟩ := Option.bind_eq_some_iff.mp h
    cases h
    refine ⟨[.month month], by rw [PatternItem.notes?, hmonth]; rfl, ?_⟩
    rw [Fields.putAll?_singleton, Fields.put?, hagree]
    rfl
  | halfDay =>
    rw [matchItem?] at h
    split at h
    · rename_i hletters
      obtain ⟨after, hagree, h⟩ := Option.bind_eq_some_iff.mp h
      cases h
      refine ⟨[.afternoon false], by rw [PatternItem.notes?, hletters]; rfl, ?_⟩
      rw [Fields.putAll?_singleton, Fields.put?, hagree]
      rfl
    · rename_i hletters
      obtain ⟨after, hagree, h⟩ := Option.bind_eq_some_iff.mp h
      cases h
      refine ⟨[.afternoon true], by rw [PatternItem.notes?, hletters]; rfl, ?_⟩
      rw [Fields.putAll?_singleton, Fields.put?, hagree]
      rfl
    · cases h
  | fraction =>
    by_cases hpoint : ∃ behind, s = '.' :: behind
    · obtain ⟨behind, rfl⟩ := hpoint
      replace h : readFraction? behind f = some (g, rest) := h
      rw [readFraction?] at h
      split at h
      · cases h
      · obtain ⟨after, hagree, h⟩ := Option.bind_eq_some_iff.mp h
        cases h
        refine ⟨[.nanos (nanosOf (behind.takeWhile Char.isDigit))], ?_, ?_⟩
        · rw [PatternItem.notes?]
          split
          · contradiction
          · rfl
        · rw [Fields.putAll?_singleton, Fields.put?, hagree]
          rfl
    · have hother : ∀ behind, s = '.' :: behind → False := fun _ heq => hpoint ⟨_, heq⟩
      rw [matchItem?] at h
      · cases h
        refine ⟨[], ?_, rfl⟩
        rw [PatternItem.notes?]
        exact hother
      · exact hother
  | unknown => cases h

/-! ### The text of a part -/

/-- A number is read from its own digits alone, whatever the greatest number of them. -/
theorem exists_digits {limit n : Nat} {s rest : List Char}
    (h : numberUpTo? limit s = some (n, rest)) :
    ∃ digits, s = digits ++ rest ∧ (∀ c ∈ digits, c.isDigit = true) ∧ digits ≠ [] ∧
      digits.length ≤ limit ∧
      ∀ bound, digits.length ≤ bound → numberUpTo? bound digits = some (n, []) := by
  obtain ⟨value, hvalue, hread⟩ := Option.map_eq_some_iff.mp h
  obtain ⟨rfl, rfl⟩ := Prod.mk.inj hread
  have hprefix : (s.take limit).takeWhile Char.isDigit <+: s :=
    (List.takeWhile_prefix _).trans (List.take_prefix limit s)
  have hlength : ((s.take limit).takeWhile Char.isDigit).length ≤ limit :=
    Nat.le_trans (List.takeWhile_prefix _).length_le (List.length_take_le limit s)
  obtain ⟨hne, hdigits, -⟩ := Text.natural?_eq_some_iff.mp hvalue
  refine ⟨_, (List.prefix_iff_eq_append.mp hprefix).symm, hdigits, hne, hlength, fun bound hb => ?_⟩
  rw [numberUpTo?, takeDigits, List.take_of_length_le hb, List.takeWhile_eq_self_iff.mpr hdigits,
    List.drop_length]
  exact congrArg (Option.map fun n => (n, ([] : List Char))) hvalue

theorem exists_text_of_readNumber? {item : NumberItem} {s rest : List Char} {value : Int}
    (h : readNumber? item s = some (value, rest)) :
    ∃ text, s = text ++ rest ∧ text ≠ [] ∧ readNumber? item text = some (value, []) := by
  rw [readNumber?.eq_def] at h
  split at h
  · rename_i behind
    obtain ⟨⟨n, behind'⟩, hnumber, hread⟩ := Option.map_eq_some_iff.mp h
    cases hread
    obtain ⟨digits, rfl, -, -, -, hexact⟩ := exists_digits hnumber
    refine ⟨'-' :: digits, rfl, List.cons_ne_nil _ _, ?_⟩
    rw [readNumber?, hexact _ (Nat.le_refl _)]
    rfl
  · rename_i behind
    obtain ⟨⟨n, behind'⟩, hnumber, hread⟩ := Option.map_eq_some_iff.mp h
    cases hread
    obtain ⟨digits, rfl, -, -, -, hexact⟩ := exists_digits hnumber
    refine ⟨'+' :: digits, rfl, List.cons_ne_nil _ _, ?_⟩
    rw [readNumber?, hexact _ (Nat.le_refl _)]
    rfl
  · obtain ⟨⟨n, behind'⟩, hnumber, hread⟩ := Option.map_eq_some_iff.mp h
    cases hread
    obtain ⟨digits, rfl, hdigits, hne, hlength, hexact⟩ := exists_digits hnumber
    refine ⟨digits, rfl, hne, ?_⟩
    rw [readNumber?.eq_def]
    split
    -- digits are no signs
    · exact absurd (hdigits '-' (.head _)) (by decide)
    · exact absurd (hdigits '+' (.head _)) (by decide)
    · rw [hexact _ hlength]
      rfl

theorem dropWhile_takeWhile {α : Type} (p : α → Bool) (s : List α) :
    (s.takeWhile p).dropWhile p = [] :=
  List.dropWhile_eq_nil_iff.mpr fun a ha => List.all_eq_true.mp (List.all_takeWhile (p := p)) a ha

/-- What is left without blanks in front has none in front, and so has any part of it. -/
theorem trimStart_of_append {s text rest : List Char} (h : Text.trimStart s = text ++ rest) :
    Text.trimStart (s.takeWhile Text.isBlank ++ text) = text := by
  refine Text.dropWhile_blanks (fun c hc => List.mem_takeWhile_imp hc) fun c hc => ?_
  have hhead := List.head?_dropWhile_not Text.isBlank s
  rcases text with _ | ⟨d, text⟩
  · cases hc
  · obtain rfl := Option.some.inj hc
    rw [show s.dropWhile Text.isBlank = _ from h] at hhead
    exact hhead

namespace PatternItem

/-- The half of the day is told by two letters, and by them alone. -/
theorem exists_half {s rest : List Char} {notes : List Note}
    (h : halfDay.notes? s = some (notes, rest)) :
    ∃ b, notes = [.afternoon b] ∧ rest = s.drop 2 ∧ ∀ text : List Char, text.take 2 = s.take 2 →
      halfDay.notes? text = some (notes, text.drop 2) := by
  rw [notes?] at h
  split at h
  · rename_i hletters
    cases h
    refine ⟨false, rfl, rfl, fun text htext => ?_⟩
    rw [notes?, htext, hletters]
    rfl
  · rename_i hletters
    cases h
    refine ⟨true, rfl, rfl, fun text htext => ?_⟩
    rw [notes?, htext, hletters]
    rfl
  · cases h

/-- A fraction is left out, or it is told by a point and digits alone. -/
theorem exists_fraction {s rest : List Char} {notes : List Note}
    (h : fraction.notes? s = some (notes, rest)) :
    (notes = [] ∧ rest = s) ∨ ∃ n digits, notes = [.nanos n] ∧ s = '.' :: digits ++ rest ∧
      fraction.notes? ('.' :: digits) = some (notes, []) := by
  rw [notes?.eq_def] at h
  dsimp only at h
  split at h
  · rename_i behind
    split at h
    · cases h
    · cases h
      refine .inr ⟨_, behind.takeWhile Char.isDigit, rfl, ?_, ?_⟩
      · rw [List.cons_append, List.takeWhile_append_dropWhile]
      · rw [notes?, List.takeWhile_idem, dropWhile_takeWhile]
        split
        · contradiction
        · rfl
  · cases h
    exact .inl ⟨rfl, rfl⟩

/-- A part reads the same from its own text alone. -/
theorem exists_text {item : PatternItem} {s rest : List Char} {notes : List Note}
    (h : item.notes? s = some (notes, rest)) :
    ∃ text, s = text ++ rest ∧ item.notes? text = some (notes, []) := by
  cases item with
  | blanks =>
    cases h
    refine ⟨s.takeWhile Text.isBlank, List.takeWhile_append_dropWhile.symm, ?_⟩
    rw [notes?, Text.trimStart, dropWhile_takeWhile]
  | char c =>
    rcases s with _ | ⟨d, s⟩
    · cases h
    · obtain ⟨hsame, h⟩ := Option.ite_none_right_eq_some.mp h
      cases h
      exact ⟨[d], rfl, if_pos hsame⟩
  | number n =>
    obtain ⟨⟨value, behind⟩, hread, h⟩ := Option.bind_eq_some_iff.mp h
    obtain ⟨notes', hnotes, h⟩ := Option.map_eq_some_iff.mp h
    cases h
    obtain ⟨text, htext, -, hexact⟩ := exists_text_of_readNumber? hread
    refine ⟨s.takeWhile Text.isBlank ++ text, ?_, ?_⟩
    · rw [List.append_assoc, ← htext]
      exact List.takeWhile_append_dropWhile.symm
    · rw [notes?, trimStart_of_append htext, hexact, Option.bind_some, hnotes]
      rfl
  | monthName =>
    obtain ⟨month, hmonth, h⟩ := Option.map_eq_some_iff.mp h
    cases h
    refine ⟨s.take 3, (List.take_append_drop 3 s).symm, ?_⟩
    rw [notes?, monthOfName?, List.take_take, Nat.min_self]
    rw [monthOfName?] at hmonth
    rw [hmonth, List.drop_take_self]
    rfl
  | halfDay =>
    obtain ⟨b, -, rfl, hsame⟩ := exists_half h
    refine ⟨s.take 2, (List.take_append_drop 2 s).symm, ?_⟩
    rw [hsame _ (by rw [List.take_take, Nat.min_self]), List.drop_take_self]
  | fraction =>
    rcases exists_fraction h with ⟨rfl, rfl⟩ | ⟨n, digits, -, rfl, hexact⟩
    · exact ⟨[], rfl, rfl⟩
    · exact ⟨'.' :: digits, rfl, hexact⟩
  | unknown => cases h

end PatternItem

/-! ### The texts of all parts -/

/-- The texts that the parts of a pattern take, one after the other and up to the end. -/
def textsOf? : List PatternItem → List Char → Fields → Option (List (List Char))
  | [], s, _ => if s.isEmpty then some [] else none
  | item :: items, s, f =>
    (matchItem? item s f).bind fun read =>
      (textsOf? items read.2 read.1).map fun texts =>
        s.take (s.length - read.2.length) :: texts

/-- What parts of a pattern say that have these texts. -/
def notesOf? : List PatternItem → List (List Char) → Option (List Note)
  | [], [] => some []
  | item :: items, text :: texts =>
    (item.notes? text).bind fun read => (notesOf? items texts).map fun notes => read.1 ++ notes
  | _, _ => none

variable {items : List PatternItem} {texts : List (List Char)} {notes : List Note}
  {s : List Char} {f g : Fields}

/-- Reading by a pattern is taking down what its parts say, each by its own text. -/
theorem exists_notes_of_matchItems? (h : matchItems? items s f = some g) :
    ∃ texts notes, textsOf? items s f = some texts ∧ notesOf? items texts = some notes ∧
      Fields.putAll? notes f = some g := by
  induction items generalizing s f with
  | nil =>
    obtain ⟨hempty, h⟩ := Option.ite_none_right_eq_some.mp h
    exact ⟨[], [], if_pos hempty, rfl, h⟩
  | cons item items ih =>
    obtain ⟨⟨f', rest⟩, hitem, hitems⟩ := Option.bind_eq_some_iff.mp h
    obtain ⟨texts, notes, htexts, hnotes, hput⟩ := ih hitems
    obtain ⟨here, hhere, hfirst⟩ := exists_notes_of_matchItem? hitem
    obtain ⟨text, rfl, hexact⟩ := PatternItem.exists_text hhere
    refine ⟨text :: texts, here ++ notes, ?_, ?_, ?_⟩
    · rw [textsOf?, hitem, Option.bind_some, htexts, List.length_append, Nat.add_sub_cancel,
        List.take_left]
      rfl
    · rw [notesOf?, hexact, Option.bind_some, hnotes]
      rfl
    · rw [Fields.putAll?_append, hfirst, Option.bind_some, hput]

/-- One text among others says what it says by itself. -/
theorem split_of_notesOf? {front back : List (List Char)} {text : List Char} {item : PatternItem}
    (h : notesOf? items (front ++ text :: back) = some notes)
    (hitem : items[front.length]? = some item) :
    ∃ before here rest behind, notesOf? (items.take front.length) front = some before ∧
      item.notes? text = some (here, rest) ∧
      notesOf? (items.drop (front.length + 1)) back = some behind ∧
      notes = before ++ (here ++ behind) := by
  induction front generalizing items notes with
  | nil =>
    rcases items with _ | ⟨first, items⟩
    · cases hitem
    · cases hitem
      obtain ⟨⟨here, rest⟩, hhere, h⟩ := Option.bind_eq_some_iff.mp h
      obtain ⟨behind, hbehind, rfl⟩ := Option.map_eq_some_iff.mp h
      exact ⟨[], here, rest, behind, rfl, hhere, hbehind, rfl⟩
  | cons text' front ih =>
    rcases items with _ | ⟨first, items⟩
    · cases hitem
    · obtain ⟨⟨said, rest'⟩, hsaid, h⟩ := Option.bind_eq_some_iff.mp h
      obtain ⟨others, hothers, rfl⟩ := Option.map_eq_some_iff.mp h
      obtain ⟨before, here, rest, behind, hbefore, hhere, hbehind, rfl⟩ := ih hothers hitem
      refine ⟨said ++ before, here, rest, behind, ?_, hhere, hbehind, ?_⟩
      · show notesOf? (first :: items.take front.length) (text' :: front) = _
        rw [notesOf?, hsaid, Option.bind_some, hbefore]
        rfl
      · rw [List.append_assoc]

/-- If each part says something of a kind just if it is among certain ones, so does a pattern. -/
theorem says_iff_of_parts {α : Type} {kind : α → Note} {P : PatternItem → Prop}
    (hparts : ∀ {item : PatternItem} {text rest : List Char} {said : List Note},
      item.notes? text = some (said, rest) → ((∃ a, kind a ∈ said) ↔ P item))
    (h : notesOf? items texts = some notes) : (∃ a, kind a ∈ notes) ↔ ∃ item ∈ items, P item := by
  induction items generalizing texts notes with
  | nil =>
    rcases texts with _ | ⟨text, texts⟩
    · cases h
      constructor
      · rintro ⟨a, ha⟩
        cases ha
      · rintro ⟨item, hitem, -⟩
        cases hitem
    · cases h
  | cons item items ih =>
    rcases texts with _ | ⟨text, texts⟩
    · cases h
    · obtain ⟨⟨said, rest⟩, hsaid, h⟩ := Option.bind_eq_some_iff.mp h
      obtain ⟨others, hothers, rfl⟩ := Option.map_eq_some_iff.mp h
      simp only [List.mem_append, exists_or, hparts hsaid, ih hothers, List.mem_cons,
        or_and_right, exists_eq_left]

/-- Minutes, halves of the day and seconds are said by certain parts only, and always by these. -/
theorem PatternItem.clock_of_notes? {item : PatternItem} {text rest : List Char}
    {said : List Note} (h : item.notes? text = some (said, rest)) :
    ((∃ n, .minute n ∈ said) ↔ item = .number .minute) ∧
    ((∃ b, .afternoon b ∈ said) ↔ item = .number .hour ∨ item = .halfDay) ∧
    ((∃ n, .second n ∈ said) ↔ item = .number .second) := by
  cases item with
  | blanks =>
    cases h
    simp
  | char c =>
    rcases text with _ | ⟨d, text⟩
    · cases h
    · obtain ⟨-, h⟩ := Option.ite_none_right_eq_some.mp h
      cases h
      simp
  | number n =>
    obtain ⟨⟨value, behind⟩, -, h⟩ := Option.bind_eq_some_iff.mp h
    obtain ⟨notes, hnotes, h⟩ := Option.map_eq_some_iff.mp h
    cases h
    cases n with
    | year =>
      cases hnotes
      simp
    | _ =>
      obtain ⟨-, hnotes⟩ := Option.ite_none_right_eq_some.mp hnotes
      cases hnotes
      simp
  | monthName =>
    obtain ⟨month, -, h⟩ := Option.map_eq_some_iff.mp h
    cases h
    simp
  | halfDay =>
    obtain ⟨b, rfl, -, -⟩ := exists_half h
    simp
  | fraction =>
    rcases exists_fraction h with ⟨rfl, -⟩ | ⟨n, digits, rfl, -, -⟩
    · simp
    · simp
  | unknown => cases h

end TimeBuckets
