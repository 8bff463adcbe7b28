/-
Rate options as text.

* `RateOptions.splitComma_eq` — parts are split at commas as the library splits lists;
* `RateOptions.Plain` — a part with neither commas nor blanks, which splitting and trimming leave as
  it is;
* `RateOptions.parse_of_plain` — what a plain kind and the texts of two words stand for;
* `RateOptions.parse_text`, `RateOptions.settled_of_parse` — the text of rate options stands for
  them, but for a kind without effect, and what was read has no such kind;
* `RateOptions.text_round_trips` — the text of what was read is a canonical form of it.

Tokens of kinds and texts of words are plain, so that options come back from their text whatever
their numbers are.  A kind without effect is not written, and what is read never has one.
-/
import TimeBuckets.Proofs.Numerals
import TimeBuckets.Rate

namespace TimeBuckets

namespace RateOptions

variable {o : RateOptions}

/-! ### Parts -/

theorem splitComma_eq (s : List Char) : splitComma s = s.splitOn ',' := by
  induction s with
  | nil => rfl
  | cons c rest ih =>
    have hne : rest.splitOn ',' ≠ [] := List.splitOnP_ne_nil _ rest
    obtain ⟨part, parts, hparts⟩ := List.exists_cons_of_ne_nil hne
    have hstep : (c :: rest).splitOn ',' = if (c == ',') = true then [] :: rest.splitOn ','
        else (rest.splitOn ',').modifyHead (c :: ·) := List.splitOnP_cons_eq_if_modifyHead c rest
    rw [splitComma, ih, hstep, hparts]
    by_cases hc : c = ','
    · rw [if_pos (beq_iff_eq.mpr hc)]
      exact if_pos hc
    · rw [if_neg (mt beq_iff_eq.mp hc)]
      exact if_neg hc

/-- There is neither a comma nor a blank in the part. -/
def Plain (part : List Char) : Prop := ∀ c ∈ part, c ≠ ',' ∧ Text.isBlank c = false

instance : DecidablePred Plain := fun part => part.decidableBAll _

theorem plain_text (w : Word) : Plain w.text.toList := by
  intro c hc
  rcases Text.isDigit_of_mem_text hc with hdigit | rfl
  · refine ⟨?_, Text.isBlank_of_isDigit hdigit⟩
    rintro rfl
    exact absurd hdigit (by decide)
  · decide

theorem plain_token (kind : CounterKind) : Plain kind.token.toList := by
  cases kind <;> decide

/-- Plain parts with commas between them are the parts that are found. -/
theorem trim_splitComma {parts : List (List Char)} (hne : parts ≠ [])
    (hplain : ∀ part ∈ parts, Plain part) :
    (splitComma ([','].intercalate parts)).map Text.trim = parts := by
  rw [splitComma_eq, List.splitOn_intercalate ',' (fun part hpart hcomma =>
    (hplain part hpart ',' hcomma).1 rfl) hne]
  refine (List.map_congr_left fun part hpart => ?_).trans (List.map_id parts)
  exact Text.trim_of_forall fun c hc => (hplain part hpart c hc).2

/-! ### Options -/

/-- The options that a kind stands for, before any number is read. -/
def ofPart (kind : String) : RateOptions :=
  match CounterKind.ofToken? kind with
  | some kind => ofKind kind
  | none => plain

/-- What the text of a word stands for, where a number may be left out. -/
theorem number_text (w default : Word) (fault : String → SettingFault) :
    number (some w.text.toList) default fault = .ok w := by
  have hword := Text.word?_text w
  rw [number]
  · rw [hword]
  · intro hnil
    rw [hnil] at hword
    cases hword

/-- What a plain kind and the texts of two words stand for. -/
theorem parse_of_plain {kind : String} (hkind : Plain kind.toList) (max reset : Word) :
    parse (kind ++ "," ++ max.text ++ "," ++ reset.text) =
      .ok { ofPart kind with max := max, reset := reset } := by
  have hparts : (splitComma (kind ++ "," ++ max.text ++ "," ++ reset.text).toList).map Text.trim =
      [kind.toList, max.text.toList, reset.text.toList] := by
    have htext : (kind ++ "," ++ max.text ++ "," ++ reset.text).toList =
        [','].intercalate [kind.toList, max.text.toList, reset.text.toList] := by
      simp [String.toList_append, List.intercalate]
    rw [htext]
    refine trim_splitComma (List.cons_ne_nil _ _) ?_
    simp only [List.forall_mem_cons, List.not_mem_nil, false_implies, implies_true, and_true]
    exact ⟨hkind, plain_text max, plain_text reset⟩
  rw [parse, hparts]
  simp only [List.length_cons, List.length_nil, List.headD_cons, String.ofList_toList,
    List.getElem?_cons_succ, List.getElem?_cons_zero]
  rw [if_neg (by decide), number_text, number_text]
  rfl

/-- The options with a kind that has no effect replaced by the one that plain values have. -/
def settled (o : RateOptions) : RateOptions :=
  if o.counted then o else { o with kind := .monotonic }

theorem ofPart_token (kind : CounterKind) : ofPart kind.token = ofKind kind := by
  cases kind <;> rfl

/-- The text of rate options stands for them, but for a kind without effect. -/
theorem parse_text (o : RateOptions) : parse o.text = .ok o.settled := by
  obtain ⟨counted, kind, max, reset⟩ := o
  cases counted with
  | true =>
    refine (parse_of_plain (plain_token kind) max reset).trans ?_
    rw [ofPart_token]
    rfl
  | false =>
    have hnone : Plain "none".toList := by decide
    exact parse_of_plain hnone max reset

/-- Options that are read have no kind without effect. -/
theorem settled_of_parse {text : String} (h : parse text = .ok o) : o.settled = o := by
  rw [parse] at h
  dsimp only at h
  split at h
  · cases h
  -- whatever the kind and the numbers are, only a known token makes a counter
  · generalize CounterKind.ofToken? _ = kind? at h
    generalize number _ _ SettingFault.rateMax = max? at h
    generalize number _ _ SettingFault.rateReset = reset? at h
    rcases max? with fault | max
    · cases h
    rcases reset? with fault | reset
    · cases h
    obtain rfl := Except.ok.inj h
    cases kind? <;> rfl

/-- The text of rate options stands for them, but for a kind without effect.  What was read comes
back from its own text, and two texts that were read stand for the same options just if these have
the same text. -/
theorem text_round_trips :
    (∀ o : RateOptions,
      parse o.text = .ok (if o.counted then o else { o with kind := .monotonic })) ∧
    (∀ s o, parse s = .ok o → parse o.text = .ok o) ∧
    ∀ s₁ s₂ o₁ o₂, parse s₁ = .ok o₁ → parse s₂ = .ok o₂ → (o₁.text = o₂.text ↔ o₁ = o₂) := by
  have hagain (s : String) (o : RateOptions) (h : parse s = .ok o) : parse o.text = .ok o := by
    rw [parse_text, settled_of_parse h]
  refine ⟨parse_text, hagain, fun s₁ s₂ o₁ o₂ h₁ h₂ => ⟨fun htext => ?_, congrArg text⟩⟩
  have hparse := hagain s₁ o₁ h₁
  rw [htext, hagain s₂ o₂ h₂] at hparse
  exact (Except.ok.inj hparse).symm

/-- Falling readings with the least word twice, plain values with a kind of their own, and a text
with another token, a sign, leading zeros, blanks and a number left out. -/
theorem text_round_trips_of_least :
    parse (RateOptions.text ⟨true, .falling, Int64.minValue, Int64.minValue⟩) =
      .ok ⟨true, .falling, Int64.minValue, Int64.minValue⟩ ∧
    parse (RateOptions.text ⟨false, .rising, Int64.maxValue, -1⟩) =
      .ok ⟨false, .monotonic, Int64.maxValue, -1⟩ ∧
    parse " mono-inc-counter , +007 ," = .ok ⟨true, .monotonic, 7, 0⟩ ∧
    parse (RateOptions.text ⟨true, .monotonic, 7, 0⟩) = .ok ⟨true, .monotonic, 7, 0⟩ ∧
    RateOptions.text ⟨true, .monotonic, 7, 0⟩ ≠ RateOptions.text ⟨false, .monotonic, 7, 0⟩ := by
  obtain ⟨htext, hagain, hcanonical⟩ := text_round_trips
  have hcounter : parse " mono-inc-counter , +007 ," = .ok ⟨true, .monotonic, 7, 0⟩ := by
    decide +kernel
  have hplain : parse "gauge,7" = .ok ⟨false, .monotonic, 7, 0⟩ := by decide +kernel
  refine ⟨htext _, htext _, hcounter, hagain _ _ hcounter, fun hsame => ?_⟩
  cases (hcanonical _ _ _ _ hcounter hplain).mp hsame

end RateOptions

end TimeBuckets
