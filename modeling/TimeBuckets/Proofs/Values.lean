/-
What samples contribute.

* `pairs` — neighbouring samples;
* `Pair.clocked`, `Clocked` — the time between two samples, or between all neighbours, can be told;
* `Timed`, `valuesOf` — the values that samples contribute to buckets of a width, each with the
  time that puts it into one: the readings, or the amounts counted from each sample to the next;
* `Runs.amount`, `Runs.isLive` — what a pair contributes to a run, and whether it belongs to one.

An amount counted between two samples has the time of the earlier one, so that the last sample
contributes nothing to a counter.  A counter that asks for the time between two samples has the
amount only if a word holds that time.
-/
import TimeBuckets.Cursor.Runs
import TimeBuckets.Proofs.Feed

namespace TimeBuckets

/-- The pairs of neighbouring samples. -/
def pairs (samples : List Sample) : List Pair := List.zipWith Pair.mk samples samples.tail

theorem pairs_cons_cons (a b : Sample) (rest : List Sample) :
    pairs (a :: b :: rest) = ⟨a, b⟩ :: pairs (b :: rest) := rfl

theorem length_pairs (samples : List Sample) : (pairs samples).length = samples.length - 1 := by
  rw [pairs, List.length_zipWith, List.length_tail]
  omega

theorem getElem?_of_pairs {samples : List Sample} {i : Nat} {pair : Pair}
    (h : (pairs samples)[i]? = some pair) :
    samples[i]? = some pair.previous ∧ samples[i + 1]? = some pair.current := by
  rw [pairs, List.getElem?_zipWith_eq_some] at h
  obtain ⟨a, b, ha, hb, rfl⟩ := h
  rw [List.getElem?_tail] at hb
  exact ⟨ha, hb⟩

theorem previous_sublist (samples : List Sample) :
    ((pairs samples).map Pair.previous).Sublist samples := by
  induction samples with
  | nil => exact List.Sublist.refl _
  | cons a rest ih =>
    rcases rest with _ | ⟨b, rest⟩
    · exact List.nil_sublist _
    · exact ih.cons_cons a

theorem pairwise_pairs {samples : List Sample} (h : Increasing samples) :
    (pairs samples).Pairwise fun p q => p.previous.time < q.previous.time :=
  (List.pairwise_map (f := Pair.previous)).mp (h.sublist (previous_sublist samples))

theorem checkOrder_of_lt {previous next : Sample} (h : previous.time < next.time)
    (cursor : String) : checkOrder previous next cursor = .ok () := by
  rw [checkOrder, if_neg (Int64.not_le.mpr h)]

/-! ### Times that can be told -/

/-- Whether the time between the two samples of a pair can be told, if a counter asks for it. -/
def Pair.clocked (counter : Option Counter) (pair : Pair) : Bool :=
  counter.all fun c => c.clocks pair.previous pair.current

/-- The time between neighbours can be told wherever a counter asks for it. -/
def Clocked (counter : Option Counter) (samples : List Sample) : Prop :=
  ∀ pair ∈ pairs samples, pair.clocked counter = true

instance (counter : Option Counter) (samples : List Sample) : Decidable (Clocked counter samples) :=
  inferInstanceAs (Decidable (∀ pair ∈ pairs samples, pair.clocked counter = true))

namespace Counter

variable {c : Counter} {previous next : Sample}

theorem delta_of_clocks (h : c.clocks previous next = true) :
    c.delta previous next = .ok (c.amount previous next) := by
  rw [delta, if_pos h]

theorem delta_of_not_clocks (h : c.clocks previous next = false) :
    c.delta previous next = .error .overflow := by
  rw [delta, h]
  rfl

theorem eq_amount_of_delta {amount : Float} (h : c.delta previous next = .ok amount) :
    c.amount previous next = amount := by
  rcases hclocks : c.clocks previous next with _ | _
  · cases (delta_of_not_clocks hclocks).symm.trans h
  · exact Except.ok.inj ((delta_of_clocks hclocks).symm.trans h)

/-- Of two samples in order of time, the time between them can be told just if the greatest word is
not less, unless the counter does not ask for it. -/
theorem clocks_iff_of_lt (hlt : previous.time < next.time) :
    c.clocks previous next = true ↔
      (c.kind = .monotonic → next.since previous ≤ Word.greatest) := by
  have hpos := Int64.lt_iff_toInt_lt.mp hlt
  rw [clocks]
  rcases c.kind with _ | _ | _
  · refine Word.isSome_ofInt?_iff.trans ⟨fun h _ => h.2, fun h => ⟨?_, h rfl⟩⟩
    rw [Sample.since, Word.least]
    omega
  · exact iff_of_true rfl fun hkind => absurd hkind (by decide)
  · exact iff_of_true rfl fun hkind => absurd hkind (by decide)

end Counter

theorem clocked_none (samples : List Sample) : Clocked none samples := fun _ _ => rfl

theorem Clocked.of_suffix {counter : Option Counter} {samples later : List Sample}
    (h : Clocked counter samples) (hsuffix : later <:+ samples) : Clocked counter later := by
  obtain ⟨earlier, rfl⟩ := hsuffix
  induction earlier with
  | nil => exact h
  | cons a earlier ih =>
    refine ih fun pair hpair => h pair ?_
    rcases hrest : earlier ++ later with _ | ⟨b, rest⟩
    · rw [hrest] at hpair
      exact absurd hpair List.not_mem_nil
    · rw [hrest] at hpair
      rw [List.cons_append, hrest, pairs_cons_cons]
      exact .tail _ hpair

/-! ### Samples from a time on -/

/-- From the first sample at a time or later on, all samples are. -/
theorem filter_eq_self_of_le {a : Sample} {rest : List Sample} (h : Increasing (a :: rest))
    {time : Word} (ha : time ≤ a.time) :
    (a :: rest).filter (fun b => time ≤ b.time) = a :: rest := by
  rw [List.filter_eq_self]
  intro b hb
  rcases List.mem_cons.mp hb with rfl | hb
  · exact decide_eq_true ha
  · exact decide_eq_true (Int64.le_trans ha (Int64.le_of_lt ((List.pairwise_cons.mp h).1 b hb)))

/-- The samples at a time or later are the last ones. -/
theorem suffix_filter {samples : List Sample} (h : Increasing samples) (time : Word) :
    (samples.filter fun a => time ≤ a.time) <:+ samples := by
  induction samples with
  | nil => exact List.suffix_refl _
  | cons a rest ih =>
    by_cases ha : time ≤ a.time
    · exact ⟨[], filter_eq_self_of_le h ha⟩
    · rw [List.filter_cons_of_neg (by simpa using ha)]
      exact (ih (List.pairwise_cons.mp h).2).trans (List.suffix_cons a rest)

/-- The pairs of the samples from a time on are the pairs whose first sample is. -/
theorem pairs_filter {samples : List Sample} (h : Increasing samples) (time : Word) :
    pairs (samples.filter fun a => time ≤ a.time) =
      (pairs samples).filter fun pair => time ≤ pair.previous.time := by
  induction samples with
  | nil => rfl
  | cons a rest ih =>
    by_cases ha : time ≤ a.time
    · have hall := filter_eq_self_of_le h ha
      rw [hall, eq_comm, List.filter_eq_self]
      intro pair hpair
      obtain ⟨i, hi⟩ := List.mem_iff_getElem?.mp hpair
      have hmem := List.mem_of_getElem? (getElem?_of_pairs hi).1
      exact List.filter_eq_self.mp hall pair.previous hmem
    · rw [List.filter_cons_of_neg (by simpa using ha), ih (List.pairwise_cons.mp h).2]
      rcases rest with _ | ⟨b, rest⟩
      · rfl
      · rw [pairs_cons_cons, List.filter_cons_of_neg (by simpa using ha)]

/-! ### Values -/

/-- A value and the time that puts it into a bucket. -/
structure Timed where
  time : Word
  value : Float

/-- The amount counted between two neighbours, at the time of the earlier one. -/
def Counter.timed (c : Counter) (pair : Pair) : Timed :=
  ⟨pair.previous.time, c.amount pair.previous pair.current⟩

/-- What samples contribute: their readings, or the amounts counted between neighbours, whatever the
time between them. -/
def valuesOf : Option Counter → List Sample → List Timed
  | none, samples => samples.map fun s => ⟨s.time, s.toReal⟩
  | some c, samples => (pairs samples).map c.timed

/-- Values come at times of samples, in the order of the samples. -/
theorem times_sublist (counter : Option Counter) (samples : List Sample) :
    ((valuesOf counter samples).map Timed.time).Sublist (samples.map Sample.time) := by
  rcases counter with _ | c
  · rw [valuesOf, List.map_map]
    exact List.Sublist.refl _
  · have hpairs := (previous_sublist samples).map Sample.time
    rw [List.map_map] at hpairs
    rwa [valuesOf, List.map_map]

theorem exists_sample_of_mem {counter : Option Counter} {samples : List Sample} {v : Timed}
    (h : v ∈ valuesOf counter samples) : ∃ a ∈ samples, a.time = v.time :=
  List.mem_map.mp ((times_sublist counter samples).mem (List.mem_map_of_mem h))

theorem pairwise_valuesOf {samples : List Sample} (h : Increasing samples)
    (counter : Option Counter) :
    (valuesOf counter samples).Pairwise fun v w => v.time < w.time := by
  have htimes : (samples.map Sample.time).Pairwise fun t u => t < u := List.pairwise_map.mpr h
  exact List.pairwise_map.mp (htimes.sublist (times_sublist counter samples))

/-- Leaving out the samples before a time leaves out the values before it. -/
theorem valuesOf_filter {samples : List Sample} (h : Increasing samples)
    (counter : Option Counter) (time : Word) :
    valuesOf counter (samples.filter fun a => time ≤ a.time) =
      (valuesOf counter samples).filter fun v => time ≤ v.time := by
  rcases counter with _ | c
  · rw [valuesOf, valuesOf, List.filter_map]
    rfl
  · rw [valuesOf, valuesOf, pairs_filter h, List.filter_map]
    rfl

theorem length_valuesOf_le (counter : Option Counter) (samples : List Sample) :
    (valuesOf counter samples).length ≤ samples.length := by
  have hle := (times_sublist counter samples).length_le
  rwa [List.length_map, List.length_map] at hle

/-! ### Contributions to runs -/

namespace Runs

/-- What a pair contributes to a run, whatever the time between its samples. -/
def amount (counter : Option Counter) (pair : Pair) : Float :=
  match counter with
  | none => pair.current.toReal
  | some c => c.amount pair.previous pair.current

/-- Whether a pair belongs to a run.  What is no number does, and a negative zero does not. -/
def isLive (counter : Option Counter) (pair : Pair) : Bool := amount counter pair != 0

variable {counter : Option Counter} {pair : Pair}

theorem contribution_of_clocked (h : pair.clocked counter = true) :
    contribution counter pair = .ok (amount counter pair) := by
  rcases counter with _ | c
  · rfl
  · exact Counter.delta_of_clocks h

theorem contribution_of_not_clocked (h : pair.clocked counter = false) :
    contribution counter pair = .error .overflow := by
  rcases counter with _ | c
  · cases h
  · exact Counter.delta_of_not_clocks h

end Runs

end TimeBuckets
