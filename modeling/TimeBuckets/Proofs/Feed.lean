/-
Feeds as the samples that remain to be read.

* `Increasing` — samples whose times strictly increase;
* `Feed.ordered?_eq_ok_iff` — a feed is made of such samples only;
* `Feed.hasNext_eq`, `Feed.next_of_remaining` — reading takes the first sample that remains;
* `Feed.seek_eq` — a jump leaves exactly the samples at the time or later, wherever the feed
  was before.

The jump is a binary search.  `halve_spec` says that halving never loses the place where the
earlier samples end: everything up to the base is earlier, everything behind the range is not.
-/
import TimeBuckets.Feed

namespace TimeBuckets

/-- The times of the samples strictly increase. -/
def Increasing (samples : List Sample) : Prop := samples.Pairwise fun a b => a.time < b.time

instance (samples : List Sample) : Decidable (Increasing samples) :=
  inferInstanceAs (Decidable (samples.Pairwise fun a b => a.time < b.time))

theorem increasing_cons_cons {a b : Sample} {rest : List Sample} :
    Increasing (a :: b :: rest) ↔ a.time < b.time ∧ Increasing (b :: rest) := by
  constructor
  · intro h
    obtain ⟨hhead, hrest⟩ := List.pairwise_cons.mp h
    exact ⟨hhead b List.mem_cons_self, hrest⟩
  · rintro ⟨hab, hrest⟩
    refine List.pairwise_cons.mpr ⟨fun s hs => ?_, hrest⟩
    rcases List.mem_cons.mp hs with rfl | hs
    · exact hab
    · exact Int64.lt_trans hab ((List.pairwise_cons.mp hrest).1 s hs)

/-- Neighbours that are not in order are found unless there are none. -/
theorem firstDisorder?_eq_none_iff {samples : List Sample} :
    firstDisorder? samples = none ↔ Increasing samples := by
  induction samples with
  | nil => exact ⟨fun _ => .nil, fun _ => rfl⟩
  | cons a rest ih =>
    rcases rest with _ | ⟨b, rest⟩
    · exact ⟨fun _ => List.pairwise_singleton _ a, fun _ => rfl⟩
    · rw [firstDisorder?, increasing_cons_cons, ← ih]
      split
      · rename_i hle
        exact ⟨nofun, fun h => absurd hle (Int64.not_le.mpr h.1)⟩
      · rename_i hlt
        exact ⟨fun h => ⟨Int64.not_le.mp hlt, h⟩, fun h => h.2⟩

namespace Feed

variable {f : Feed}

/-- A feed is made of samples whose times strictly increase, and of no others. -/
theorem ordered?_eq_ok_iff {samples : List Sample} :
    ordered? samples = .ok f ↔ Increasing samples ∧ f = ofSamples samples := by
  rw [ordered?, ← firstDisorder?_eq_none_iff]
  rcases firstDisorder? samples with _ | ⟨next, previous⟩
  · exact ⟨fun h => ⟨rfl, (Except.ok.inj h).symm⟩, fun h => congrArg Except.ok h.2.symm⟩
  · exact ⟨nofun, fun h => absurd h.1 nofun⟩

/-! ### Reading -/

/-- The feed after a read that takes a sample. -/
def advanced (f : Feed) : Feed := { f with reads := f.reads + 1, position := f.position + 1 }

theorem remaining_ofSamples (samples : List Sample) :
    (ofSamples samples).remaining = samples := by
  rw [remaining, ofSamples, List.drop_zero]

theorem hasNext_eq (f : Feed) : f.hasNext = !f.remaining.isEmpty := by
  rcases h : f.remaining with _ | ⟨s, rest⟩
  · have hlen := List.drop_eq_nil_iff.mp h
    rw [Array.length_toList] at hlen
    simpa [hasNext] using hlen
  · have hlen := congrArg List.length h
    simp only [remaining, List.length_drop, Array.length_toList, List.length_cons] at hlen
    simp only [hasNext, List.isEmpty_cons, Bool.not_false, decide_eq_true_eq]
    omega

theorem left_eq (f : Feed) : f.left = f.remaining.length := by
  rw [left, remaining, List.length_drop, Array.length_toList]

theorem remaining_advanced (f : Feed) : f.advanced.remaining = f.remaining.tail := by
  rw [remaining, remaining, List.tail_drop, advanced]

theorem nextFault?_of_reliable (hf : f.readFaults = []) : f.nextFault? = none := by
  rw [nextFault?, hf, List.lookup_nil]

theorem next_of_nil (hf : f.readFaults = []) (h : f.remaining = []) :
    f.next = .error .exhausted { f with reads := f.reads + 1 } := by
  have hget : f.samples[f.position]? = none := by
    have hhead := congrArg List.head? h
    rwa [remaining, List.head?_drop, List.head?_nil, Array.getElem?_toList] at hhead
  rw [next, nextFault?_of_reliable hf, hget]

/-- The feed after reading ahead, which takes a sample if one is left. -/
def pulled (f : Feed) : Feed := if f.hasNext then f.advanced else f

theorem remaining_pulled (f : Feed) : f.pulled.remaining = f.remaining.tail := by
  rw [pulled, hasNext_eq]
  rcases h : f.remaining with _ | ⟨s, rest⟩
  · exact h
  · have hnext := remaining_advanced f
    rw [h] at hnext
    exact hnext

theorem readFaults_pulled (f : Feed) : f.pulled.readFaults = f.readFaults := by
  rw [pulled]
  split
  · rfl
  · rfl

theorem next_of_no_fault {s : Sample} {rest : List Sample} (hnone : f.nextFault? = none)
    (h : f.remaining = s :: rest) : f.next = .ok s f.advanced := by
  have hget : f.samples[f.position]? = some s := by
    have hhead := congrArg List.head? h
    rwa [remaining, List.head?_drop, List.head?_cons, Array.getElem?_toList] at hhead
  rw [next, hnone, hget, advanced]

theorem next_of_remaining {s : Sample} {rest : List Sample} (hf : f.readFaults = [])
    (h : f.remaining = s :: rest) : f.next = .ok s f.advanced :=
  next_of_no_fault (nextFault?_of_reliable hf) h

theorem mem_of_next {f f' : Feed} {s : Sample} (h : f.next = .ok s f') :
    s ∈ f.samples.toList := by
  rw [next] at h
  rcases hfault : f.nextFault? with _ | fault
  · rcases hget : f.samples[f.position]? with _ | a
    · simp [hfault, hget] at h
    · simp only [hfault, hget, EStateM.Result.ok.injEq] at h
      rw [← h.1, Array.mem_toList_iff]
      exact Array.mem_of_getElem? hget
  · simp [hfault] at h

/-! ### Jumps -/

theorem isBefore_of_le {samples : List Sample} (hs : Increasing samples) (time : Word)
    {i j : Nat} (hij : i ≤ j) (hj : isBefore samples.toArray time j = true) :
    isBefore samples.toArray time i = true := by
  rcases Nat.lt_or_eq_of_le hij with hlt | rfl
  · rcases hb : samples[j]? with _ | b
    -- behind the samples nothing is earlier
    · simp [isBefore, hb] at hj
    · obtain ⟨hjlen, rfl⟩ := List.getElem?_eq_some_iff.mp hb
      have hilen : i < samples.length := Nat.lt_trans hlt hjlen
      have hab := List.pairwise_iff_getElem.mp hs i j hilen hjlen hlt
      simp only [isBefore, List.getElem?_toArray, List.getElem?_eq_getElem hjlen,
        decide_eq_true_eq] at hj
      simp only [isBefore, List.getElem?_toArray, List.getElem?_eq_getElem hilen,
        decide_eq_true_eq]
      rw [Int64.lt_iff_toInt_lt] at hab hj ⊢
      omega
  · exact hj

theorem halve_spec {samples : Array Sample} {time : Word}
    (hmono : ∀ i j, i ≤ j → isBefore samples time j = true → isBefore samples time i = true) :
    ∀ fuel base size, 0 < size → size ≤ fuel →
      (∀ i, i < base → isBefore samples time i = true) →
      (∀ i, base + size ≤ i → isBefore samples time i = false) →
      (∀ i, i < halve samples time fuel base size → isBefore samples time i = true) ∧
        ∀ i, halve samples time fuel base size < i → isBefore samples time i = false := by
  intro fuel
  induction fuel with
  | zero =>
    intro base size hsize hfuel
    omega
  | succ fuel ih =>
    intro base size hsize hfuel hlow hhigh
    rw [halve]
    by_cases hone : size ≤ 1
    · rw [if_pos hone]
      exact ⟨hlow, fun i hi => hhigh i (by omega)⟩
    · rw [if_neg hone]
      by_cases hmid : isBefore samples time (base + size / 2) = true
      · -- everything up to the middle is earlier, so the upper half is kept
        simp only [hmid, if_true]
        refine ih _ _ (by omega) (by omega) (fun i hi => hmono i _ (Nat.le_of_lt hi) hmid) ?_
        exact fun i hi => hhigh i (by omega)
      · simp only [hmid, Bool.false_eq_true, if_false]
        refine ih _ _ (by omega) (by omega) hlow fun i hi => ?_
        -- what is not earlier at the middle is not earlier behind it
        rcases hi' : isBefore samples time i with _ | _
        · rfl
        · exact absurd (hmono _ i (by omega) hi') hmid

theorem isBefore_lowerBound {samples : List Sample} (hs : Increasing samples) (time : Word)
    (i : Nat) :
    isBefore samples.toArray time i = decide (i < lowerBound samples.toArray time) := by
  rcases hsize : samples with _ | ⟨s, rest⟩
  · rfl
  · rw [← hsize]
    have hpos : 0 < samples.toArray.size := by simp [hsize]
    obtain ⟨hlow, hhigh⟩ := halve_spec (fun i j hij => isBefore_of_le hs time hij)
      samples.toArray.size 0 samples.toArray.size hpos (Nat.le_refl _)
      (fun i hi => absurd hi (Nat.not_lt_zero i)) fun i hi => by
        have hnone : samples[i]? = none := List.getElem?_eq_none (by simpa using hi)
        simp [isBefore, hnone]
    have hne : samples.toArray.isEmpty = false := by simp [hsize]
    simp only [lowerBound, hne, Bool.false_eq_true, if_false]
    generalize halve samples.toArray time samples.toArray.size 0 samples.toArray.size = base
      at hlow hhigh
    -- only the sample at the base itself has to be looked at
    rcases Nat.lt_trichotomy i base with hi | rfl | hi
    · rw [hlow i hi, eq_comm, decide_eq_true_eq]
      split <;> omega
    · rcases isBefore samples.toArray time i with _ | _ <;> simp
    · rw [hhigh i hi, eq_comm, decide_eq_false_iff_not]
      split <;> omega

theorem drop_eq_filter {α : Type} (p : α → Bool) : ∀ (l : List α) (k : Nat),
    (∀ i a, l[i]? = some a → p a = decide (k ≤ i)) → l.drop k = l.filter p := by
  intro l
  induction l with
  | nil => intro k _; rw [List.drop_nil, List.filter_nil]
  | cons a rest ih =>
    intro k h
    have ha := h 0 a rfl
    rcases k with _ | k
    · rw [List.drop_zero, List.filter_cons_of_pos (by simpa using ha)]
      rw [← ih 0 fun i b hb => by simpa using h (i + 1) b (by simpa using hb), List.drop_zero]
    · rw [List.drop_succ_cons, List.filter_cons_of_neg (by simpa using ha)]
      exact ih k fun i b hb => by simpa using h (i + 1) b (by simpa using hb)

theorem seek_ok {f' : Feed} {time : Word} (h : seek time f = .ok () f') :
    f.seekFault = none ∧ f' = { f with position := lowerBound f.samples time } := by
  rw [seek] at h
  rcases hfault : f.seekFault with _ | fault
  · rw [hfault] at h
    cases h
    exact ⟨rfl, rfl⟩
  · rw [hfault] at h
    cases h

theorem seek_error {f' : Feed} {time : Word} {fault : SourceFault}
    (h : seek time f = .error fault f') : f' = f := by
  rw [seek] at h
  rcases hfault : f.seekFault with _ | fault'
  · rw [hfault] at h
    cases h
  · rw [hfault] at h
    cases h
    rfl

theorem increasing_remaining (h : Increasing f.samples.toList) : Increasing f.remaining :=
  h.sublist (List.drop_sublist _ _)

/-- A jump leaves the samples at the time or later. -/
theorem seek_eq {samples : List Sample} (hs : Increasing samples)
    (hf : f.samples = samples.toArray) (hseek : f.seekFault = none) (time : Word) :
    ∃ f', Feed.seek time f = .ok () f' ∧
      f'.remaining = samples.filter fun s => time ≤ s.time := by
  refine ⟨{ f with position := lowerBound f.samples time }, by rw [seek, hseek], ?_⟩
  rw [remaining, hf]
  -- a sample is kept just if its index is not below the bound
  refine drop_eq_filter _ samples _ fun i s hget => ?_
  have hi := isBefore_lowerBound hs time i
  rw [isBefore, List.getElem?_toArray, hget] at hi
  rw [Bool.eq_iff_iff, decide_eq_true_eq, decide_eq_true_eq] at hi ⊢
  rw [← Int64.not_lt, hi, Nat.not_lt]

end Feed

end TimeBuckets
